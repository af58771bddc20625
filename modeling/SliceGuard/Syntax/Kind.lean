/-!
# Kinds of syntax nodes

Every node of a syntax tree has a kind, and most children have a role in their parent, by which
they are found.
-/

namespace SliceGuard.Syntax

/-- What a node of a syntax tree is. -/
inductive Kind where
  -- The whole file.
  | sourceFile
  -- Package clause and imports.
  | packageClause | importDeclaration | importSpec | importSpecList | dot | blankIdentifier
  | packageIdentifier
  -- Declarations.
  | constDeclaration | constSpec | varDeclaration | varSpec | varSpecList | typeDeclaration
  | typeSpec | typeAlias | functionDeclaration | methodDeclaration | typeParameterList
  | typeParameterDeclaration | typeConstraint | parameterList | parameterDeclaration
  | variadicParameterDeclaration
  -- Types.
  | typeIdentifier | qualifiedType | genericType | typeArguments | typeElem | parenthesizedType
  | pointerType | arrayType | implicitLengthArrayType | sliceType | mapType | channelType
  | functionType | negatedType | structType | fieldDeclarationList | fieldDeclaration
  | interfaceType | methodElem
  -- Statements.
  | block | statementList | emptyStatement | expressionStatement | sendStatement
  | receiveStatement | incStatement | decStatement | assignmentStatement | shortVarDeclaration
  | labeledStatement | labelName | fallthroughStatement | breakStatement | continueStatement
  | gotoStatement | returnStatement | goStatement | deferStatement | ifStatement | forStatement
  | forClause | rangeClause | expressionSwitchStatement | expressionCase | defaultCase
  | typeSwitchStatement | typeCase | selectStatement | communicationCase
  -- Expressions.
  | expressionList | identifier | fieldIdentifier | nilLiteral | trueLiteral | falseLiteral
  | iotaLiteral | intLiteral | floatLiteral | imaginaryLiteral | runeLiteral
  | interpretedStringLiteral | rawStringLiteral | parenthesizedExpression | unaryExpression
  | binaryExpression | selectorExpression | indexExpression | sliceExpression | callExpression
  | argumentList | variadicArgument | typeAssertionExpression | typeConversionExpression
  | typeInstantiationExpression | compositeLiteral | literalValue | literalElement | keyedElement
  | funcLiteral
  -- Comments, and the operators, keywords and punctuation that have no kind of their own.
  | comment | token
deriving DecidableEq, Repr, Inhabited

namespace Kind

def label : Kind → String
  | .sourceFile => "source_file"
  | .packageClause => "package_clause"
  | .importDeclaration => "import_declaration"
  | .importSpec => "import_spec"
  | .importSpecList => "import_spec_list"
  | .dot => "dot"
  | .blankIdentifier => "blank_identifier"
  | .packageIdentifier => "package_identifier"
  | .constDeclaration => "const_declaration"
  | .constSpec => "const_spec"
  | .varDeclaration => "var_declaration"
  | .varSpec => "var_spec"
  | .varSpecList => "var_spec_list"
  | .typeDeclaration => "type_declaration"
  | .typeSpec => "type_spec"
  | .typeAlias => "type_alias"
  | .functionDeclaration => "function_declaration"
  | .methodDeclaration => "method_declaration"
  | .typeParameterList => "type_parameter_list"
  | .typeParameterDeclaration => "type_parameter_declaration"
  | .typeConstraint => "type_constraint"
  | .parameterList => "parameter_list"
  | .parameterDeclaration => "parameter_declaration"
  | .variadicParameterDeclaration => "variadic_parameter_declaration"
  | .typeIdentifier => "type_identifier"
  | .qualifiedType => "qualified_type"
  | .genericType => "generic_type"
  | .typeArguments => "type_arguments"
  | .typeElem => "type_elem"
  | .parenthesizedType => "parenthesized_type"
  | .pointerType => "pointer_type"
  | .arrayType => "array_type"
  | .implicitLengthArrayType => "implicit_length_array_type"
  | .sliceType => "slice_type"
  | .mapType => "map_type"
  | .channelType => "channel_type"
  | .functionType => "function_type"
  | .negatedType => "negated_type"
  | .structType => "struct_type"
  | .fieldDeclarationList => "field_declaration_list"
  | .fieldDeclaration => "field_declaration"
  | .interfaceType => "interface_type"
  | .methodElem => "method_elem"
  | .block => "block"
  | .statementList => "statement_list"
  | .emptyStatement => "empty_statement"
  | .expressionStatement => "expression_statement"
  | .sendStatement => "send_statement"
  | .receiveStatement => "receive_statement"
  | .incStatement => "inc_statement"
  | .decStatement => "dec_statement"
  | .assignmentStatement => "assignment_statement"
  | .shortVarDeclaration => "short_var_declaration"
  | .labeledStatement => "labeled_statement"
  | .labelName => "label_name"
  | .fallthroughStatement => "fallthrough_statement"
  | .breakStatement => "break_statement"
  | .continueStatement => "continue_statement"
  | .gotoStatement => "goto_statement"
  | .returnStatement => "return_statement"
  | .goStatement => "go_statement"
  | .deferStatement => "defer_statement"
  | .ifStatement => "if_statement"
  | .forStatement => "for_statement"
  | .forClause => "for_clause"
  | .rangeClause => "range_clause"
  | .expressionSwitchStatement => "expression_switch_statement"
  | .expressionCase => "expression_case"
  | .defaultCase => "default_case"
  | .typeSwitchStatement => "type_switch_statement"
  | .typeCase => "type_case"
  | .selectStatement => "select_statement"
  | .communicationCase => "communication_case"
  | .expressionList => "expression_list"
  | .identifier => "identifier"
  | .fieldIdentifier => "field_identifier"
  | .nilLiteral => "nil"
  | .trueLiteral => "true"
  | .falseLiteral => "false"
  | .iotaLiteral => "iota"
  | .intLiteral => "int_literal"
  | .floatLiteral => "float_literal"
  | .imaginaryLiteral => "imaginary_literal"
  | .runeLiteral => "rune_literal"
  | .interpretedStringLiteral => "interpreted_string_literal"
  | .rawStringLiteral => "raw_string_literal"
  | .parenthesizedExpression => "parenthesized_expression"
  | .unaryExpression => "unary_expression"
  | .binaryExpression => "binary_expression"
  | .selectorExpression => "selector_expression"
  | .indexExpression => "index_expression"
  | .sliceExpression => "slice_expression"
  | .callExpression => "call_expression"
  | .argumentList => "argument_list"
  | .variadicArgument => "variadic_argument"
  | .typeAssertionExpression => "type_assertion_expression"
  | .typeConversionExpression => "type_conversion_expression"
  | .typeInstantiationExpression => "type_instantiation_expression"
  | .compositeLiteral => "composite_literal"
  | .literalValue => "literal_value"
  | .literalElement => "literal_element"
  | .keyedElement => "keyed_element"
  | .funcLiteral => "func_literal"
  | .comment => "comment"
  | .token => "token"

/-- Operators, keywords and punctuation are the nodes without a name. -/
def isNamed (kind : Kind) : Bool :=
  kind != .token

@[simp] theorem isNamed_eq_false_iff {kind : Kind} : kind.isNamed = false ↔ kind = .token := by
  simp [isNamed]

end Kind

/-- The part a child plays in its parent. -/
inductive Role where
  | name | type | value | parameters | receiver | result | body | typeParameters | typeArguments
  | left | right | operator | operand | index | start | stop | capacity | field | package
  | function | arguments | condition | consequence | alternative | initializer | update | caseName
  | length | element | key | label | channel | communication | path | tag
deriving DecidableEq, Repr, Inhabited

end SliceGuard.Syntax
