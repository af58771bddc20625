import SliceGuard.Syntax.Grammar.Expressions

/-!
# Statements and declarations

The phrases of statements, of the declarations among them, and of the declarations that stand at
the top of a file.
-/

namespace SliceGuard.Syntax.Grammar

def assignmentOperators : List String :=
  ["=", "+=", "-=", "*=", "/=", "%=", "&=", "|=", "^=", "<<=", ">>=", "&^="]

/-- A statement of a header before it is known what it is: a single expression, or more. -/
inductive Simple where
  | expression (value : Part)
  | statement (part : Part)

/-- The statement that a header holds. -/
def Simple.toPart : Simple → Part
  | .expression value => .group .expressionStatement value []
  | .statement part => part

/-- The only expression of a list. -/
def onlyExpression (first : Part) (rest : List Part) : Reader Part :=
  if rest.isEmpty then pure first else failure

/-- What may follow the expressions a simple statement begins with. -/
def simpleAfter (g : Nested) (header : Bool) (first : Part) (rest : List Part) :
    Reader Simple := do
  let token ← peek
  let left := (Part.group .expressionList first rest).inRole .left
  if token.is ":=" then
    let mark ← sign ":="
    let right ← expressionList g header
    return .statement (.group .shortVarDeclaration left [mark, right.inRole .right])
  else if assignmentOperators.contains token.sign then
    let mark ← take .token
    let right ← expressionList g header
    return .statement (.group .assignmentStatement left
      [mark.inRole .operator, right.inRole .right])
  else
    let value ← onlyExpression first rest
    match token.sign with
    | "++" => return .statement (.group .incStatement value [← take .token])
    | "--" => return .statement (.group .decStatement value [← take .token])
    | "<-" =>
      let arrow ← take .token
      let sent ← g.read (.expression header)
      return .statement (.group .sendStatement (value.inRole .channel)
        [arrow, sent.inRole .value])
    | _ => return .expression value

def simple (g : Nested) (header : Bool) : Reader Simple := do
  let (first, rest) ← separated "," (g.read (.expression header)) g.limit
  simpleAfter g header first rest

/-- Whether the token ends a list of statements. -/
def endsStatements (token : Token) : Bool :=
  ["\x7d", "case", "default"].contains token.sign || token.kind == .endOfFile

/-- The statements up to the end of their list, with the terminators between them. -/
def statements (g : Nested) : Nat → Reader (List Part)
  | 0 => failure
  | limit + 1 => do
    let token ← peek
    if endsStatements token then return []
    if token.is ";" then
      let empty ← take .token
      return .group .emptyStatement empty [] :: (← statements g limit)
    let first ← g.read .statement
    if ← ahead 0 endsStatements then return [first]
    let ended ← terminator
    return first :: ended :: (← statements g limit)

/-- A list of statements, if it has any. -/
def statementList (g : Nested) : Reader (List Part) := do
  match ← statements g g.limit with
  | [] => return []
  | first :: rest => return [.group .statementList first rest]

def block (g : Nested) : Reader Part := do
  let opening ← sign "\x7b"
  let inside ← statementList g
  let closing ← sign "\x7d"
  return .group .block opening (inside ++ [closing])

/-- The names of a specification.  In constants the commas between the names count as names. -/
def specNames (g : Nested) (commasToo : Bool) : Reader (Part × List Part) := do
  let (first, rest) ← separated "," (name .identifier) g.limit
  let inRole := fun (part : Part) =>
    if part.isNamed || commasToo then part.inRole .name else part
  return (inRole first, rest.map inRole)

/-- The values of a specification, if there are any. -/
def specValues (g : Nested) : Reader (List Part) := do
  if ← isNext "=" then
    let mark ← sign "="
    let values ← expressionList g false
    return [mark, values.inRole .value]
  else return []

def varSpec (g : Nested) : Reader Part := do
  let (first, names) ← specNames g false
  if ← isNext "=" then return .group .varSpec first (names ++ (← specValues g))
  else
    let type ← g.read .type
    return .group .varSpec first (names ++ type.inRole .type :: (← specValues g))

def constSpec (g : Nested) : Reader Part := do
  let (first, names) ← specNames g true
  if (← isNext "=") || (← ahead 0 fun token => token.isTerminator || token.is ")") then
    return .group .constSpec first (names ++ (← specValues g))
  else
    let type ← g.read .type
    match ← specValues g with
    | [] => failure
    | values => return .group .constSpec first (names ++ type.inRole .type :: values)

/-- A specification of a type or an alias, after its name and type parameters. -/
def typeSpecAfter (g : Nested) (named : Part) (parameters : List Part) : Reader Part := do
  if ← isNext "=" then
    let mark ← sign "="
    let type ← g.read .type
    return .group .typeAlias named (parameters ++ [mark, type.inRole .type])
  else
    let type ← g.read .type
    return .group .typeSpec named (parameters ++ [type.inRole .type])

/-- A specification of a type or an alias.  A bracket after the name begins an array where that is
possible, and type parameters otherwise. -/
def typeSpec (g : Nested) : Reader Part := do
  let named := (← name .typeIdentifier).inRole .name
  if ← isNext "[" then
    match ← attempt (typeSpecAfter g named []) with
    | some spec => return spec
    | none =>
      let parameters ← typeParameterList g
      typeSpecAfter g named [parameters.inRole .typeParameters]
  else typeSpecAfter g named []

/-- Specifications in parentheses. -/
def specsInParentheses (g : Nested) (spec : Reader Part) : Reader (Part × List Part) := do
  let opening ← sign "("
  let inside ← linesUntil ")" spec g.limit
  let closing ← sign ")"
  return (opening, inside ++ [closing])

def varDeclaration (g : Nested) : Reader Part := do
  let word ← sign "var"
  if ← isNext "(" then
    let (opening, inside) ← specsInParentheses g (varSpec g)
    return .group .varDeclaration word [.group .varSpecList opening inside]
  else return .group .varDeclaration word [← varSpec g]

/-- A declaration of constants or types. -/
def plainDeclaration (g : Nested) (kind : Kind) (word : String) (spec : Reader Part) :
    Reader Part := do
  let word ← sign word
  if ← isNext "(" then
    let (opening, inside) ← specsInParentheses g spec
    return .group kind word (opening :: inside)
  else return .group kind word [← spec]

def returnStatement (g : Nested) : Reader Part := do
  let word ← sign "return"
  if ← ahead 0 fun token => token.isTerminator || endsStatements token then
    return .group .returnStatement word []
  else return .group .returnStatement word [← expressionList g false]

/-- A jump to a label, which may be left out where `optional` says so. -/
def jump (kind : Kind) (word : String) (optional : Bool) : Reader Part := do
  let word ← sign word
  if optional && !(← ahead 0 Token.isName) then return .group kind word []
  else return .group kind word [← name .labelName]

def wordAndExpression (g : Nested) (kind : Kind) (word : String) : Reader Part := do
  let word ← sign word
  return .group kind word [← inner g]

/-- The initializer of a header with its semicolon. -/
def initializer (part : Part) : Reader (List Part) := do
  return [part.inRole .initializer, ← sign ";"]

def elseBranch (g : Nested) : Reader (List Part) := do
  if ← isNext "else" then
    let word ← sign "else"
    let branch ← if ← isNext "if" then g.read .ifStatement else g.read .block
    return [word, branch.inRole .alternative]
  else return []

def ifStatement (g : Nested) : Reader Part := do
  let word ← sign "if"
  let first ← simple g true
  let header ← do
    if ← isNext ";" then
      let before ← initializer first.toPart
      let condition ← g.read (.expression true)
      pure (before ++ [condition.inRole .condition])
    else match first with
      | .expression condition => pure [condition.inRole .condition]
      | .statement _ => failure
  let body ← g.read .block
  let otherwise ← elseBranch g
  return .group .ifStatement word (header ++ body.inRole .consequence :: otherwise)

/-- A range over a value, after the targets if there are any. -/
def rangeAfter (g : Nested) (targets : List Part) : Reader Part := do
  let word ← sign "range"
  let value ← g.read (.expression true)
  match targets with
  | [] => return .group .rangeClause word [value.inRole .right]
  | first :: rest => return .group .rangeClause first (rest ++ [word, value.inRole .right])

/-- The clauses of a loop after its initializer. -/
def forClauseAfter (g : Nested) (first : Option Part) : Reader Part := do
  let semicolon ← sign ";"
  let condition ←
    if ← isNext ";" then pure []
    else pure [(← g.read (.expression true)).inRole .condition]
  let second ← sign ";"
  let update ←
    if ← isNext "\x7b" then pure []
    else pure [(← simple g true).toPart.inRole .update]
  let after := condition ++ second :: update
  match first with
  | some part => return .group .forClause (part.inRole .initializer) (semicolon :: after)
  | none => return .group .forClause semicolon after

/-- The header of a loop that begins with expressions. -/
def forHeaderAfter (g : Nested) : Reader Part := do
  let (first, rest) ← separated "," (g.read (.expression true)) g.limit
  let assigns ← ahead 0 fun token => token.is ":=" || token.is "="
  if assigns && (← ahead 1 (·.is "range")) then
    let mark ← take .token
    rangeAfter g [(Part.group .expressionList first rest).inRole .left, mark]
  else
    let read ← simpleAfter g true first rest
    if ← isNext ";" then forClauseAfter g (some read.toPart)
    else match read with
      | .expression condition => return condition
      | .statement _ => failure

def forStatement (g : Nested) : Reader Part := do
  let word ← sign "for"
  let header ← do
    match (← peek).sign with
    | "\x7b" => pure []
    | "range" => pure [← rangeAfter g []]
    | ";" => pure [← forClauseAfter g none]
    | _ => pure [← forHeaderAfter g]
  let body ← g.read .block
  return .group .forStatement word (header ++ [body.inRole .body])

/-- The header of a switch: nothing, an expression, or a value whose type is asked for. -/
inductive SwitchHeader where
  | plain (parts : List Part)
  | ofType (parts : List Part)

/-- Whether the type of the expression before is asked for. -/
def asksForType : Reader Bool := do
  return (← isNext ".") && (← ahead 1 (·.is "(")) && (← ahead 2 (·.is "type"))

/-- The question for a type, after the value. -/
def typeQuestion : Reader (List Part) := do
  return [← sign ".", ← sign "(", ← sign "type", ← sign ")"]

/-- A piece of the header of a switch: a simple statement or a question for a type. -/
def switchPiece (g : Nested) : Reader (Simple ⊕ List Part) := do
  let (first, rest) ← separated "," (g.read (.expression true)) g.limit
  if rest.isEmpty && (← asksForType) then
    return .inr (first.inRole .value :: (← typeQuestion))
  let asked ← attempt do
    let mark ← sign ":="
    let value ← g.read (.expression true)
    if ← asksForType then
      let names := (Part.group .expressionList first rest).inRole .caseName
      return names :: mark :: value.inRole .value :: (← typeQuestion)
    else failure
  match asked with
  | some parts => return .inr parts
  | none => return .inl (← simpleAfter g true first rest)

def switchHeaderAfter (g : Nested) (before : List Part) : Reader SwitchHeader := do
  if ← isNext "\x7b" then return .plain before
  match ← switchPiece g with
  | .inr asked => return .ofType (before ++ asked)
  | .inl (.expression value) => return .plain (before ++ [value.inRole .value])
  | .inl (.statement _) => failure

def switchHeader (g : Nested) : Reader SwitchHeader := do
  if ← isNext "\x7b" then return .plain []
  match ← switchPiece g with
  | .inr asked => return .ofType asked
  | .inl first =>
    if ← isNext ";" then switchHeaderAfter g (← initializer first.toPart)
    else match first with
      | .expression value => return .plain [value.inRole .value]
      | .statement _ => failure

/-- A case of a switch or a select: its word, what `guard` reads, and its statements. -/
def caseClause (g : Nested) (kind : Kind) (guard : Reader (List Part)) : Reader Part := do
  if ← isNext "default" then
    let word ← sign "default"
    let colon ← sign ":"
    return .group .defaultCase word (colon :: (← statementList g))
  else
    let word ← sign "case"
    let guarded ← guard
    let colon ← sign ":"
    return .group kind word (guarded ++ colon :: (← statementList g))

/-- The cases up to the closing brace. -/
def cases (clause : Reader Part) : Nat → Reader (List Part)
  | 0 => failure
  | limit + 1 => do
    if ← isNext "\x7d" then return []
    let first ← clause
    return first :: (← cases clause limit)

def caseBlock (g : Nested) (clause : Reader Part) : Reader (List Part) := do
  let opening ← sign "\x7b"
  let inside ← cases clause g.limit
  let closing ← sign "\x7d"
  return opening :: inside ++ [closing]

def caseTypes (g : Nested) : Reader (List Part) := do
  let (first, rest) ← separated "," (g.read .type) g.limit
  return (first :: rest).map fun part => if part.isNamed then part.inRole .type else part

def switchStatement (g : Nested) : Reader Part := do
  let word ← sign "switch"
  match ← switchHeader g with
  | .plain header =>
    let values := do return [(← expressionList g false).inRole .value]
    let body ← caseBlock g (caseClause g .expressionCase values)
    return .group .expressionSwitchStatement word (header ++ body)
  | .ofType header =>
    let body ← caseBlock g (caseClause g .typeCase (caseTypes g))
    return .group .typeSwitchStatement word (header ++ body)

/-- What a case of a select waits for. -/
def communication (g : Nested) : Reader Part := do
  let (first, rest) ← separated "," (g.read (.expression false)) g.limit
  if ← ahead 0 fun token => token.is ":=" || token.is "=" then
    let mark ← take .token
    let value ← inner g
    return .group .receiveStatement ((Part.group .expressionList first rest).inRole .left)
      [mark, value.inRole .right]
  else
    let value ← onlyExpression first rest
    if ← isNext "<-" then
      let arrow ← sign "<-"
      let sent ← inner g
      return .group .sendStatement (value.inRole .channel) [arrow, sent.inRole .value]
    else return .group .receiveStatement (value.inRole .right) []

def selectStatement (g : Nested) : Reader Part := do
  let word ← sign "select"
  let waits := do return [(← communication g).inRole .communication]
  return .group .selectStatement word (← caseBlock g (caseClause g .communicationCase waits))

/-- A label with the statement it stands before, if there is one. -/
def labeledStatement (g : Nested) : Reader Part := do
  let label := (← name .labelName).inRole .label
  let colon ← sign ":"
  if ← ahead 0 endsStatements then return .group .labeledStatement label [colon]
  else if ← isNext ";" then
    let empty ← take .token
    return .group .labeledStatement label [colon, .group .emptyStatement empty []]
  else return .group .labeledStatement label [colon, ← g.read .statement]

def statement (g : Nested) : Reader Part := do
  if (← ahead 0 Token.isName) && (← ahead 1 (·.is ":")) then labeledStatement g
  else match (← peek).sign with
    | "var" => varDeclaration g
    | "const" => plainDeclaration g .constDeclaration "const" (constSpec g)
    | "type" => plainDeclaration g .typeDeclaration "type" (typeSpec g)
    | "return" => returnStatement g
    | "go" => wordAndExpression g .goStatement "go"
    | "defer" => wordAndExpression g .deferStatement "defer"
    | "if" => g.read .ifStatement
    | "for" => forStatement g
    | "switch" => switchStatement g
    | "select" => selectStatement g
    | "\x7b" => g.read .block
    | "break" => jump .breakStatement "break" true
    | "continue" => jump .continueStatement "continue" true
    | "goto" => jump .gotoStatement "goto" false
    | "fallthrough" => return .group .fallthroughStatement (← take .token) []
    | _ => return (← simple g false).toPart

/-- The package a file belongs to. -/
def packageClause : Reader Part := do
  let word ← sign "package"
  return .group .packageClause word [← name .packageIdentifier]

def importSpec : Reader Part := do
  let given ← do
    let token ← peek
    if token.is "." then pure [(← take .dot).inRole .name]
    else if token.isName && token.text == "_" then pure [(← take .blankIdentifier).inRole .name]
    else if token.isName then pure [(← name .packageIdentifier).inRole .name]
    else pure []
  let path := (← stringLiteral).inRole .path
  match given with
  | [named] => return .group .importSpec named [path]
  | _ => return .group .importSpec path []

def importDeclaration (g : Nested) : Reader Part := do
  let word ← sign "import"
  if ← isNext "(" then
    let (opening, inside) ← specsInParentheses g importSpec
    return .group .importDeclaration word [.group .importSpecList opening inside]
  else return .group .importDeclaration word [← importSpec]

/-- The body of a function, if it has one. -/
def body? (g : Nested) : Reader (List Part) := do
  if ← isNext "\x7b" then return [(← g.read .block).inRole .body] else return []

def functionDeclaration (g : Nested) : Reader Part := do
  let word ← sign "func"
  let named := (← name .identifier).inRole .name
  let parameters ←
    if ← isNext "[" then pure [(← typeParameterList g).inRole .typeParameters] else pure []
  let types ← signature g
  return .group .functionDeclaration word (named :: parameters ++ types ++ (← body? g))

def methodDeclaration (g : Nested) : Reader Part := do
  let word ← sign "func"
  let receiver := (← parameterList g).inRole .receiver
  let named := (← name .fieldIdentifier).inRole .name
  if ← isNext "(" then
    let types ← signature g
    return .group .methodDeclaration word (receiver :: named :: types ++ (← body? g))
  else failure

/-- A declaration or a statement at the top of a file. -/
def topLevel (g : Nested) : Reader Part := do
  match (← peek).sign with
  | "package" => packageClause
  | "import" => importDeclaration g
  | "func" =>
    if ← ahead 1 Token.isName then functionDeclaration g
    else
      match ← attempt (methodDeclaration g) with
      | some method => return method
      | none => statement g
  | _ => statement g

/-- All declarations and statements at the top of a file, with their terminators. -/
def topLevels (g : Nested) : Nat → Reader (List Part)
  | 0 => failure
  | limit + 1 => do
    let token ← peek
    if token.kind == .endOfFile then return []
    if token.is ";" then
      let empty ← take .token
      return .group .emptyStatement empty [] :: (← topLevels g limit)
    let first ← topLevel g
    let ended ← terminator
    return first :: ended :: (← topLevels g limit)

/-- How a phrase is read, given how the phrases inside it are read. -/
def read (g : Nested) : Goal → Reader Part
  | .expression header => g.read (.binary header 1)
  | .binary header floor => binary g header floor
  | .unary header => unary g header
  | .type => type g
  | .literalValue => literalValue g
  | .block => block g
  | .statement => statement g
  | .ifStatement => ifStatement g

/-- A phrase with phrases inside each other up to a depth. -/
def readWithin : Nat → Goal → Reader Part
  | 0, _ => failure
  | depth + 1, goal => read ⟨depth, readWithin depth⟩ goal

end SliceGuard.Syntax.Grammar
