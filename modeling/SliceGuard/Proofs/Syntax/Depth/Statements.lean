import SliceGuard.Proofs.Syntax.Depth.Expressions

/-!
# Depth and statements

Statements and the declarations among them are read alike by readers that read the phrases inside
them alike.
-/

namespace SliceGuard.Syntax.Grammar

variable {n : Nat} {g g' : Nested}

theorem keeps_onlyExpression (first : Part) (rest : List Part) :
    Keeps n (onlyExpression first rest) (onlyExpression first rest) :=
  agree_ite (keeps_pure first) agree_failure

section Simple

variable {header : Bool} (enough : n ≤ g.limit) (enough' : n ≤ g'.limit)
  (value : Spends n (g.read (.expression header)) (g'.read (.expression header)))
include enough enough' value

theorem keeps_simpleAfter (first : Part) (rest : List Part) :
    Keeps n (simpleAfter g header first rest) (simpleAfter g' header first rest) := by
  have list := spends_expressionList enough enough' value
  refine keeps_peek.bind fun token => agree_ite ?_ (agree_ite ?_ ?_)
  · exact (spends_sign ":=").keeps.bind fun _ => list.keeps.bind fun _ => keeps_pure _
  · exact (spends_take .token).keeps.bind fun _ => list.keeps.bind fun _ => keeps_pure _
  · refine (keeps_onlyExpression first rest).bind fun _ => ?_
    split
    · exact (spends_take .token).keeps.bind fun _ => keeps_pure _
    · exact (spends_take .token).keeps.bind fun _ => keeps_pure _
    · exact (spends_take .token).keeps.bind fun _ => value.keeps.bind fun _ => keeps_pure _
    · exact keeps_pure _

theorem spends_simple : Spends n (simple g header) (simple g' header) :=
  (spends_separated "," enough enough' value).andThen fun found =>
    keeps_simpleAfter enough enough' value found.1 found.2

end Simple

section Parts

variable (alike : g.Alike n g')
include alike

theorem spends_list (header : Bool) :
    Spends n (expressionList g header) (expressionList g' header) :=
  spends_expressionList alike.enough alike.enough' (alike.read (.expression header))

theorem keeps_statements {limit limit' : Nat} (enough : n ≤ limit) (enough' : n ≤ limit') :
    Keeps n (statements g limit) (statements g' limit') := by
  revert alike
  refine limitsInduction (fun _ _ _ => agree_zero) (fun n _ _ ih alike => ?_) enough enough'
  have further := ih (alike.lower n.le_succ)
  refine keeps_peek.bind fun _ => agree_ite (keeps_pure _) (agree_ite ?_ ?_)
  · exact (spends_take .token).bind fun _ => further.bind fun _ => keeps_pure _
  · refine (alike.read .statement).bind fun _ => (keeps_ahead 0 _).bind fun _ =>
      agree_ite (keeps_pure _) ?_
    exact spends_terminator.keeps.bind fun _ => further.bind fun _ => keeps_pure _

theorem keeps_statementList : Keeps n (statementList g) (statementList g') := by
  refine (keeps_statements alike alike.enough alike.enough').bind fun found => ?_
  cases found with
  | nil => exact keeps_pure _
  | cons first rest => exact keeps_pure _

theorem spends_block : Spends (n + 1) (block g) (block g') :=
  (spends_sign "\x7b").bind fun _ => (keeps_statementList alike).bind fun _ =>
    (spends_sign "\x7d").keeps.bind fun _ => keeps_pure _

theorem spends_specNames (commasToo : Bool) :
    Spends n (specNames g commasToo) (specNames g' commasToo) :=
  (spends_separated "," alike.enough alike.enough' (spends_name .identifier)).andThen fun _ =>
    keeps_pure _

theorem keeps_specValues : Keeps n (specValues g) (specValues g') := by
  refine (keeps_isNext "=").bind fun _ => agree_ite ?_ (keeps_pure _)
  exact (spends_sign "=").keeps.bind fun _ => (spends_list alike false).keeps.bind fun _ =>
    keeps_pure _

theorem spends_varSpec : Spends n (varSpec g) (varSpec g') := by
  refine (spends_specNames alike false).andThen fun _ => (keeps_isNext "=").bind fun _ =>
    agree_ite ?_ ?_
  · exact (keeps_specValues alike).bind fun _ => keeps_pure _
  · exact (alike.read .type).keeps.bind fun _ => (keeps_specValues alike).bind fun _ => keeps_pure _

theorem spends_constSpec : Spends n (constSpec g) (constSpec g') := by
  refine (spends_specNames alike true).andThen fun _ => (keeps_isNext "=").bind fun _ =>
    (keeps_ahead 0 _).bind fun _ => agree_ite ?_ ?_
  · exact (keeps_specValues alike).bind fun _ => keeps_pure _
  · refine (alike.read .type).keeps.bind fun _ => (keeps_specValues alike).bind fun values => ?_
    cases values with
    | nil => exact agree_failure
    | cons first rest => exact keeps_pure _

theorem spends_typeSpecAfter (named : Part) (parameters : List Part) :
    Spends n (typeSpecAfter g named parameters) (typeSpecAfter g' named parameters) := by
  refine (keeps_isNext "=").bind fun _ => agree_ite ?_ ?_
  · exact (spends_sign "=").andThen fun _ => (alike.read .type).keeps.bind fun _ => keeps_pure _
  · exact (alike.read .type).andThen fun _ => keeps_pure _

theorem spends_typeSpec : Spends n (typeSpec g) (typeSpec g') := by
  have after (named : Part) (parameters : List Part) :=
    spends_typeSpecAfter alike named parameters
  refine (spends_name .typeIdentifier).andThen fun _ => (keeps_isNext "[").bind fun _ =>
    agree_ite ?_ (after _ []).keeps
  refine (moves_attempt (after _ [])).andThen (fun _ => keeps_pure _) ?_
  exact (spends_typeParameterList alike).lower.keeps.bind fun _ => (after _ _).keeps

theorem spends_specsInParentheses {spec spec' : Reader Part} (specs : Spends n spec spec') :
    Spends (n + 1) (specsInParentheses g spec) (specsInParentheses g' spec') :=
  (spends_sign "(").bind fun _ => (keeps_linesUntil ")" alike.enough alike.enough' specs).bind
    fun _ => (spends_sign ")").keeps.bind fun _ => keeps_pure _

theorem spends_varDeclaration : Spends (n + 1) (varDeclaration g) (varDeclaration g') := by
  have specs := spends_varSpec alike
  refine (spends_sign "var").bind fun _ => (keeps_isNext "(").bind fun _ => agree_ite ?_ ?_
  · exact (spends_specsInParentheses alike specs).lower.keeps.bind fun _ => keeps_pure _
  · exact specs.keeps.bind fun _ => keeps_pure _

theorem spends_plainDeclaration (kind : Kind) (word : String) {spec spec' : Reader Part}
    (specs : Spends n spec spec') :
    Spends (n + 1) (plainDeclaration g kind word spec) (plainDeclaration g' kind word spec') := by
  refine (spends_sign word).bind fun _ => (keeps_isNext "(").bind fun _ => agree_ite ?_ ?_
  · exact (spends_specsInParentheses alike specs).lower.keeps.bind fun _ => keeps_pure _
  · exact specs.keeps.bind fun _ => keeps_pure _

theorem spends_returnStatement : Spends (n + 1) (returnStatement g) (returnStatement g') :=
  (spends_sign "return").bind fun _ => (keeps_ahead 0 _).bind fun _ =>
    agree_ite (keeps_pure _) ((spends_list alike false).keeps.bind fun _ => keeps_pure _)

omit alike in
theorem spends_jump (kind : Kind) (word : String) (optional : Bool) :
    Spends (n + 1) (jump kind word optional) (jump kind word optional) :=
  (spends_sign word).bind fun _ => (keeps_ahead 0 _).bind fun _ =>
    agree_ite (keeps_pure _) ((spends_name .labelName).keeps.bind fun _ => keeps_pure _)

theorem spends_wordAndExpression (kind : Kind) (word : String) :
    Spends (n + 1) (wordAndExpression g kind word) (wordAndExpression g' kind word) :=
  (spends_sign word).bind fun _ => (spends_inner alike).keeps.bind fun _ => keeps_pure _

omit alike in
theorem spends_initializer (part : Part) : Spends n (initializer part) (initializer part) :=
  (spends_sign ";").andThen fun _ => keeps_pure _

theorem keeps_elseBranch : Keeps n (elseBranch g) (elseBranch g') := by
  refine (keeps_isNext "else").bind fun _ => agree_ite ?_ (keeps_pure _)
  refine (spends_sign "else").keeps.bind fun _ => (keeps_isNext "if").bind fun _ => agree_ite ?_ ?_
  · exact (alike.read .ifStatement).keeps.bind fun _ => keeps_pure _
  · exact (alike.read .block).keeps.bind fun _ => keeps_pure _

theorem spends_simpleIn (header : Bool) : Spends n (simple g header) (simple g' header) :=
  spends_simple alike.enough alike.enough' (alike.read (.expression header))

theorem keeps_simpleAfterIn (header : Bool) (first : Part) (rest : List Part) :
    Keeps n (simpleAfter g header first rest) (simpleAfter g' header first rest) :=
  keeps_simpleAfter alike.enough alike.enough' (alike.read (.expression header)) first rest

theorem spends_ifStatement : Spends (n + 1) (ifStatement g) (ifStatement g') := by
  refine (spends_sign "if").bind fun _ => (spends_simpleIn alike true).keeps.bind fun first =>
    (keeps_isNext ";").bind fun _ => agree_ite ?_ ?_
  · refine (spends_initializer _).keeps.bind fun _ => (alike.read (.expression true)).keeps.bind
      fun _ => agree_found _ ?_
    exact (alike.read .block).keeps.bind fun _ =>
      (keeps_elseBranch alike).bind fun _ => keeps_pure _
  · cases first with
    | expression condition =>
      exact agree_found _ ((alike.read .block).keeps.bind fun _ =>
        (keeps_elseBranch alike).bind fun _ => keeps_pure _)
    | statement part => exact agree_failure

theorem spends_rangeAfter (targets : List Part) :
    Spends (n + 1) (rangeAfter g targets) (rangeAfter g' targets) := by
  refine (spends_sign "range").bind fun _ => (alike.read (.expression true)).keeps.bind fun _ => ?_
  cases targets with
  | nil => exact keeps_pure _
  | cons first rest => exact keeps_pure _

theorem spends_forClauseAfter (first : Option Part) :
    Spends (n + 1) (forClauseAfter g first) (forClauseAfter g' first) := by
  refine (spends_sign ";").bind fun _ => (keeps_isNext ";").bind fun _ => agree_ite
    (agree_found [] ?_) ((alike.read (.expression true)).keeps.bind fun _ => agree_found [_] ?_)
  all_goals
    refine (spends_sign ";").keeps.bind fun _ => (keeps_isNext "\x7b").bind fun _ => agree_ite
      (agree_found [] ?_) ((spends_simpleIn alike true).keeps.bind fun _ => agree_found [_] ?_)
  all_goals
    cases first with
    | none => exact keeps_pure _
    | some part => exact keeps_pure _

theorem spends_forHeaderAfter : Spends n (forHeaderAfter g) (forHeaderAfter g') := by
  have list := spends_separated "," alike.enough alike.enough' (alike.read (.expression true))
  refine list.andThen fun _ => (keeps_ahead 0 _).bind fun _ => (keeps_ahead 1 _).bind fun _ =>
    agree_ite ?_ ?_
  · exact (spends_take .token).keeps.bind fun _ => (spends_rangeAfter alike _).lower.keeps
  · refine (keeps_simpleAfterIn alike true _ _).bind fun read => (keeps_isNext ";").bind fun _ =>
      agree_ite (spends_forClauseAfter alike _).lower.keeps ?_
    cases read with
    | expression condition => exact keeps_pure _
    | statement part => exact agree_failure

theorem spends_forStatement : Spends (n + 1) (forStatement g) (forStatement g') := by
  refine (spends_sign "for").bind fun _ => keeps_peek.bind fun token => ?_
  split
  · exact agree_found [] ((alike.read .block).keeps.bind fun _ => keeps_pure _)
  · exact (spends_rangeAfter alike []).lower.keeps.bind fun _ => agree_found [_]
      ((alike.read .block).keeps.bind fun _ => keeps_pure _)
  · exact (spends_forClauseAfter alike none).lower.keeps.bind fun _ => agree_found [_]
      ((alike.read .block).keeps.bind fun _ => keeps_pure _)
  · exact (spends_forHeaderAfter alike).keeps.bind fun _ => agree_found [_]
      ((alike.read .block).keeps.bind fun _ => keeps_pure _)

omit alike in
theorem keeps_asksForType : Keeps n asksForType asksForType :=
  (keeps_isNext ".").bind fun _ => (keeps_ahead 1 _).bind fun _ => (keeps_ahead 2 _).bind fun _ =>
    keeps_pure _

omit alike in
theorem spends_typeQuestion : Spends n typeQuestion typeQuestion :=
  (spends_sign ".").andThen fun _ => (spends_sign "(").keeps.bind fun _ =>
    (spends_sign "type").keeps.bind fun _ => (spends_sign ")").keeps.bind fun _ => keeps_pure _

theorem spends_switchPiece : Spends n (switchPiece g) (switchPiece g') := by
  have value := alike.read (.expression true)
  have list := spends_separated "," alike.enough alike.enough' value
  refine list.andThen fun _ => keeps_asksForType.bind fun _ => agree_ite ?_ ?_
  · exact spends_typeQuestion.keeps.bind fun _ => keeps_pure _
  · refine (moves_attempt ?_).andThen (fun _ => keeps_pure _)
      ((keeps_simpleAfterIn alike true _ _).bind fun _ => keeps_pure _)
    refine (spends_sign ":=").andThen fun _ => value.keeps.bind fun _ =>
      keeps_asksForType.bind fun _ => agree_ite ?_ agree_failure
    exact spends_typeQuestion.keeps.bind fun _ => keeps_pure _

theorem keeps_switchHeaderAfter (before : List Part) :
    Keeps n (switchHeaderAfter g before) (switchHeaderAfter g' before) := by
  refine (keeps_isNext "\x7b").bind fun _ => agree_ite (keeps_pure _) ?_
  refine (spends_switchPiece alike).keeps.bind fun piece => ?_
  rcases piece with (value | part) | asked
  · exact keeps_pure _
  · exact agree_failure
  · exact keeps_pure _

theorem keeps_switchHeader : Keeps n (switchHeader g) (switchHeader g') := by
  refine (keeps_isNext "\x7b").bind fun _ => agree_ite (keeps_pure _) ?_
  refine (spends_switchPiece alike).keeps.bind fun piece => ?_
  rcases piece with first | asked
  · refine (keeps_isNext ";").bind fun _ => agree_ite ?_ ?_
    · exact (spends_initializer _).keeps.bind fun _ => keeps_switchHeaderAfter alike _
    · cases first with
      | expression value => exact keeps_pure _
      | statement part => exact agree_failure
  · exact keeps_pure _

theorem spends_caseClause (kind : Kind) {guard guard' : Reader (List Part)}
    (guarded : Keeps n guard guard') :
    Spends (n + 1) (caseClause g kind guard) (caseClause g' kind guard') := by
  refine (keeps_isNext "default").bind fun _ => agree_ite ?_ ?_
  · exact (spends_sign "default").bind fun _ => (spends_sign ":").keeps.bind fun _ =>
      (keeps_statementList alike).bind fun _ => keeps_pure _
  · exact (spends_sign "case").bind fun _ => guarded.bind fun _ =>
      (spends_sign ":").keeps.bind fun _ => (keeps_statementList alike).bind fun _ => keeps_pure _

omit alike in
theorem keeps_cases {clause clause' : Reader Part} {limit limit' : Nat} (enough : n ≤ limit)
    (enough' : n ≤ limit') :
    Spends n clause clause' → Keeps n (cases clause limit) (cases clause' limit') := by
  refine limitsInduction (fun _ _ _ => agree_zero) (fun n _ _ ih clauses => ?_) enough enough'
  exact (keeps_isNext "\x7d").bind fun _ => agree_ite (keeps_pure _)
    (clauses.bind fun _ => (ih clauses.lower).bind fun _ => keeps_pure _)

theorem spends_caseBlock {clause clause' : Reader Part} (clauses : Spends n clause clause') :
    Spends (n + 1) (caseBlock g clause) (caseBlock g' clause') :=
  (spends_sign "\x7b").bind fun _ => (keeps_cases alike.enough alike.enough' clauses).bind fun _ =>
    (spends_sign "\x7d").keeps.bind fun _ => keeps_pure _

theorem spends_caseTypes : Spends n (caseTypes g) (caseTypes g') :=
  (spends_separated "," alike.enough alike.enough' (alike.read .type)).andThen fun _ => keeps_pure _

theorem spends_switchStatement : Spends (n + 1) (switchStatement g) (switchStatement g') := by
  refine (spends_sign "switch").bind fun _ => (keeps_switchHeader alike).bind fun header => ?_
  cases header with
  | plain header =>
    have clauses := spends_caseClause alike .expressionCase
      ((spends_list alike false).keeps.bind fun values => keeps_pure [values.inRole .value])
    exact (spends_caseBlock alike clauses.lower).lower.keeps.bind fun _ => keeps_pure _
  | ofType header =>
    have clauses := spends_caseClause alike .typeCase (spends_caseTypes alike).keeps
    exact (spends_caseBlock alike clauses.lower).lower.keeps.bind fun _ => keeps_pure _

theorem spends_communication : Spends n (communication g) (communication g') := by
  have list := spends_separated "," alike.enough alike.enough' (alike.read (.expression false))
  refine list.andThen fun _ => (keeps_ahead 0 _).bind fun _ => agree_ite ?_ ?_
  · exact (spends_take .token).keeps.bind fun _ => (spends_inner alike).keeps.bind fun _ =>
      keeps_pure _
  · refine (keeps_onlyExpression _ _).bind fun _ => (keeps_isNext "<-").bind fun _ =>
      agree_ite ?_ (keeps_pure _)
    exact (spends_sign "<-").keeps.bind fun _ => (spends_inner alike).keeps.bind fun _ =>
      keeps_pure _

theorem spends_selectStatement : Spends (n + 1) (selectStatement g) (selectStatement g') := by
  have clauses := spends_caseClause alike .communicationCase
    ((spends_communication alike).keeps.bind fun waits => keeps_pure [waits.inRole .communication])
  exact (spends_sign "select").bind fun _ =>
    (spends_caseBlock alike clauses.lower).lower.keeps.bind fun _ => keeps_pure _

theorem spends_labeledStatement : Spends (n + 1) (labeledStatement g) (labeledStatement g') := by
  refine (spends_name .labelName).bind fun _ => (spends_sign ":").keeps.bind fun _ =>
    (keeps_ahead 0 _).bind fun _ => agree_ite (keeps_pure _) ?_
  refine (keeps_isNext ";").bind fun _ => agree_ite ?_ ?_
  · exact (spends_take .token).keeps.bind fun _ => keeps_pure _
  · exact (alike.read .statement).keeps.bind fun _ => keeps_pure _

theorem spends_statement (enough : n + 1 ≤ g.limit) (enough' : n + 1 ≤ g'.limit)
    (value : Spends (n + 1) (g.read (.expression false)) (g'.read (.expression false)))
    (block : Spends (n + 1) (g.read .block) (g'.read .block))
    (condition : Spends (n + 1) (g.read .ifStatement) (g'.read .ifStatement)) :
    Spends (n + 1) (statement g) (statement g') := by
  refine (keeps_ahead 0 _).bind fun _ => (keeps_ahead 1 _).bind fun _ =>
    agree_ite (spends_labeledStatement alike) (keeps_peek.bind fun token => ?_)
  split
  · exact spends_varDeclaration alike
  · exact spends_plainDeclaration alike .constDeclaration "const" (spends_constSpec alike)
  · exact spends_plainDeclaration alike .typeDeclaration "type" (spends_typeSpec alike)
  · exact spends_returnStatement alike
  · exact spends_wordAndExpression alike .goStatement "go"
  · exact spends_wordAndExpression alike .deferStatement "defer"
  · exact condition
  · exact spends_forStatement alike
  · exact spends_switchStatement alike
  · exact spends_selectStatement alike
  · exact block
  · exact spends_jump .breakStatement "break" true
  · exact spends_jump .continueStatement "continue" true
  · exact spends_jump .gotoStatement "goto" false
  · exact (spends_take .token).bind fun _ => keeps_pure _
  · exact (spends_simple enough enough' value).andThen fun _ => keeps_pure _

end Parts

end SliceGuard.Syntax.Grammar
