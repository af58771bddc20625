import SliceGuard.Proofs.Syntax.Depth.Agreement

/-!
# Depth and types

Types, parameters and signatures are read alike by readers that read the phrases inside them alike.
-/

namespace SliceGuard.Syntax.Grammar

variable {n : Nat} {g g' : Nested}

theorem keeps_beginsTypeArgument : Keeps n beginsTypeArgument beginsTypeArgument :=
  fun _ _ => ⟨rfl, by rintro _ _ ⟨⟩; exact ⟨Nat.le_refl _, nofun⟩⟩

theorem spends_typeName : Spends n typeName typeName := by
  refine (keeps_ahead 1 _).bind fun _ => (keeps_ahead 2 _).bind fun _ => agree_ite ?_ ?_
  · exact (spends_name _).andThen fun package => (spends_sign ".").keeps.bind fun dot =>
      (spends_name _).keeps.bind fun type => keeps_pure _
  · exact spends_name _

/-- The items after the first one, if a comma says that there are any, and the sign that closes the
list. -/
theorem keeps_furtherItems (close : String) {item item' : Reader Part} {limit limit' : Nat}
    (enough : n ≤ limit) (enough' : n ≤ limit') (alike : Spends n item item')
    (build : List Part → List Part → Part → Part) :
    Keeps n
      (do
        let comma ← sign? ","
        let rest ← if comma.isEmpty then pure [] else listUntil close item limit
        let closing ← sign close
        return build comma rest closing)
      (do
        let comma ← sign? ","
        let rest ← if comma.isEmpty then pure [] else listUntil close item' limit'
        let closing ← sign close
        return build comma rest closing) := by
  refine (keeps_sign? ",").bind fun _ => agree_ite (agree_found [] ?_)
    ((keeps_listUntil close enough enough' alike).bind fun _ => ?_)
  all_goals exact (spends_sign close).keeps.bind fun _ => keeps_pure _

variable (alike : g.Alike n g')
include alike

theorem spends_typeUnion (kind : Kind) : Spends n (typeUnion g kind) (typeUnion g' kind) :=
  (spends_separated "|" alike.enough alike.enough' (alike.read .type)).andThen fun _ => keeps_pure _

theorem spends_typeArguments : Spends (n + 1) (typeArguments g) (typeArguments g') := by
  have item : Spends n
      (do if ← beginsTypeArgument then typeUnion g .typeElem else failure)
      (do if ← beginsTypeArgument then typeUnion g' .typeElem else failure) :=
    keeps_beginsTypeArgument.bind fun _ =>
      agree_ite (spends_typeUnion alike .typeElem) agree_failure
  exact (spends_sign "[").bind fun _ => item.andThen fun _ =>
    keeps_furtherItems "]" alike.enough alike.enough' item _

theorem spends_namedType : Spends (n + 1) (namedType g) (namedType g') := by
  refine spends_typeName.bind fun base => (keeps_isNext "[").bind fun _ => agree_ite ?_ ?_
  · have arguments := (spends_typeArguments alike).lower
    exact (moves_attempt arguments).andThen (fun _ => keeps_pure _) (keeps_pure _)
  · exact keeps_pure _

theorem spends_variadicParameter : Spends n (variadicParameter g) (variadicParameter g') := by
  refine (keeps_isNext "...").bind fun _ => agree_ite (agree_found [] ?_) ?_
  · exact (spends_sign "...").andThen fun _ => (alike.read .type).keeps.bind fun _ => keeps_pure _
  · exact (spends_name .identifier).andThen fun named => agree_found [named]
      ((spends_sign "...").keeps.bind fun _ => (alike.read .type).keeps.bind fun _ => keeps_pure _)

theorem spends_nameAndType : Spends n (nameAndType g) (nameAndType g') :=
  (spends_name .typeIdentifier).andThen fun _ => (alike.read .type).keeps.bind fun _ =>
    (keeps_ahead 0 _).bind fun _ => agree_ite (keeps_pure _) agree_failure

theorem keeps_parameters {limit limit' : Nat} (enough : n ≤ limit) (enough' : n ≤ limit') :
    ∀ lone, Keeps n (parameters g limit lone) (parameters g' limit' lone) := by
  revert alike
  refine limitsInduction (fun _ _ _ _ => agree_zero) (fun n _ _ ih alike lone => ?_) enough enough'
  have further := ih (alike.lower n.le_succ)
  refine (keeps_isNext ")").bind fun _ => agree_ite (keeps_pure _) ?_
  refine (keeps_ahead 0 _).bind fun _ => (keeps_ahead 1 _).bind fun _ => agree_ite ?_ ?_
  · exact (spends_name .typeIdentifier).bind fun _ => (keeps_sign? ",").bind fun _ =>
      agree_ite (keeps_pure _) (further _)
  refine (keeps_isNext "...").bind fun _ => (keeps_ahead 1 _).bind fun _ => agree_ite
    ((spends_variadicParameter alike).bind fun _ => agree_found _ ?_)
    ((keeps_ahead 1 _).bind fun _ => agree_ite
      ((moves_attempt (spends_nameAndType alike)).bind (fun _ => agree_found _ ?_)
        ((alike.read .type).bind fun _ => agree_found _ ?_))
      (agree_found none ((alike.read .type).bind fun _ => agree_found _ ?_)))
  -- However a parameter is read, the others are read after it.
  all_goals exact (keeps_sign? ",").bind fun _ =>
    agree_ite (keeps_pure _) ((further []).bind fun _ => keeps_pure _)

theorem spends_parameterList : Spends (n + 1) (parameterList g) (parameterList g') :=
  (spends_sign "(").bind fun _ => (keeps_parameters alike alike.enough alike.enough' []).bind
    fun _ => (spends_sign ")").keeps.bind fun _ => keeps_pure _

theorem keeps_result? : Keeps n (result? g) (result? g') := by
  have parameters := (spends_parameterList alike).lower
  refine (keeps_isNext "(").bind fun _ => agree_ite ?_ ?_
  · exact parameters.keeps.bind fun _ => keeps_pure _
  · exact (keeps_ahead 0 _).bind fun _ =>
      agree_ite ((alike.read .type).keeps.bind fun _ => keeps_pure _) (keeps_pure _)

theorem spends_signature : Spends (n + 1) (signature g) (signature g') :=
  (spends_parameterList alike).bind fun _ => (keeps_result? alike).bind fun _ => keeps_pure _

theorem spends_marked (kind : Kind) (mark : String) :
    Spends (n + 1) (marked g kind mark) (marked g' kind mark) :=
  (spends_sign mark).bind fun _ => (alike.read .type).keeps.bind fun _ => keeps_pure _

theorem spends_parenthesizedType : Spends (n + 1) (parenthesizedType g) (parenthesizedType g') :=
  (spends_sign "(").bind fun _ => (alike.read .type).keeps.bind fun _ =>
    (spends_sign ")").keeps.bind fun _ => keeps_pure _

theorem spends_bracketType : Spends (n + 1) (bracketType g) (bracketType g') := by
  refine (spends_sign "[").bind fun _ => (keeps_isNext "]").bind fun _ => agree_ite ?_ ?_
  · exact (spends_sign "]").keeps.bind fun _ => (alike.read .type).keeps.bind fun _ => keeps_pure _
  · exact (alike.read (.expression false)).keeps.bind fun _ =>
      (spends_sign "]").keeps.bind fun _ => (alike.read .type).keeps.bind fun _ => keeps_pure _

theorem spends_implicitArrayType : Spends (n + 1) (implicitArrayType g) (implicitArrayType g') :=
  (spends_sign "[").bind fun _ => (spends_sign "...").keeps.bind fun _ =>
    (spends_sign "]").keeps.bind fun _ => (alike.read .type).keeps.bind fun _ => keeps_pure _

theorem spends_mapType : Spends (n + 1) (mapType g) (mapType g') :=
  (spends_sign "map").bind fun _ => (spends_sign "[").keeps.bind fun _ =>
    (alike.read .type).keeps.bind fun _ => (spends_sign "]").keeps.bind fun _ =>
      (alike.read .type).keeps.bind fun _ => keeps_pure _

theorem spends_channelType : Spends (n + 1) (channelType g) (channelType g') := by
  refine (keeps_isNext "chan").bind fun _ => agree_ite ?_ ?_
  · exact (spends_sign "chan").bind fun _ => (keeps_sign? "<-").bind fun _ =>
      (alike.read .type).keeps.bind fun _ => keeps_pure _
  · exact (spends_sign "<-").bind fun _ => (spends_sign "chan").keeps.bind fun _ =>
      (alike.read .type).keeps.bind fun _ => keeps_pure _

theorem spends_functionType : Spends (n + 1) (functionType g) (functionType g') :=
  (spends_sign "func").bind fun _ =>
    ((spends_signature alike).lower).keeps.bind fun _ => keeps_pure _

theorem spends_namedField : Spends n (namedField g) (namedField g') := by
  have names := spends_separated "," alike.enough alike.enough' (spends_name .fieldIdentifier)
  exact names.andThen fun _ => (alike.read .type).keeps.bind fun _ => (keeps_ahead 0 _).bind
    fun _ => agree_ite (keeps_pure _) agree_failure

theorem spends_embeddedField : Spends n (embeddedField g) (embeddedField g') :=
  (keeps_sign? "*").bind fun _ =>
    ((spends_namedType alike).lower).andThen fun _ => keeps_pure _

omit alike in
theorem spends_stringLiteral : Spends n stringLiteral stringLiteral := by
  refine keeps_peek.bind fun token => ?_
  cases token.kind
  all_goals first | exact spends_take _ | exact agree_failure

theorem spends_fieldDeclaration : Spends n (fieldDeclaration g) (fieldDeclaration g') := by
  refine (moves_attempt (spends_namedField alike)).andThen (fun field => agree_found field ?_)
    ((spends_embeddedField alike).andThen fun field => ?_)
  all_goals
    refine (moves_attempt spends_stringLiteral).keeps.bind fun tag => ?_
    cases field ++ (tag.map (Part.inRole .tag)).toList with
    | nil => exact agree_failure
    | cons first rest => exact keeps_pure _

theorem spends_structType : Spends (n + 1) (structType g) (structType g') :=
  (spends_sign "struct").bind fun _ => (spends_sign "\x7b").keeps.bind fun _ =>
    (keeps_linesUntil "\x7d" alike.enough alike.enough' (spends_fieldDeclaration alike)).bind
      fun _ => (spends_sign "\x7d").keeps.bind fun _ => keeps_pure _

theorem spends_interfaceElem : Spends n (interfaceElem g) (interfaceElem g') := by
  refine (keeps_ahead 0 _).bind fun _ => (keeps_ahead 1 _).bind fun _ => agree_ite ?_ ?_
  · exact (spends_name .fieldIdentifier).andThen fun _ =>
      (spends_signature alike).lower.keeps.bind fun _ => keeps_pure _
  · exact spends_typeUnion alike .typeElem

theorem spends_interfaceType : Spends (n + 1) (interfaceType g) (interfaceType g') :=
  (spends_sign "interface").bind fun _ => (spends_sign "\x7b").keeps.bind fun _ =>
    (keeps_linesUntil "\x7d" alike.enough alike.enough' (spends_interfaceElem alike)).bind
      fun _ => (spends_sign "\x7d").keeps.bind fun _ => keeps_pure _

theorem spends_type : Spends (n + 1) (type g) (type g') := by
  refine keeps_peek.bind fun token => agree_ite (spends_namedType alike) ?_
  split
  · exact spends_marked alike .pointerType "*"
  · exact spends_marked alike .negatedType "~"
  · exact spends_parenthesizedType alike
  · exact spends_bracketType alike
  · exact spends_mapType alike
  · exact spends_channelType alike
  · exact spends_channelType alike
  · exact spends_functionType alike
  · exact spends_structType alike
  · exact spends_interfaceType alike
  · exact agree_failure

theorem spends_typeParameter : Spends n (typeParameter g) (typeParameter g') := by
  have names := spends_separated "," alike.enough alike.enough' (spends_name .identifier)
  exact names.andThen fun _ =>
    (spends_typeUnion alike .typeConstraint).keeps.bind fun _ => keeps_pure _

theorem spends_typeParameterList : Spends (n + 1) (typeParameterList g) (typeParameterList g') := by
  have parameter := spends_typeParameter alike
  exact (spends_sign "[").bind fun _ => parameter.andThen fun _ =>
    keeps_furtherItems "]" alike.enough alike.enough' parameter _

end SliceGuard.Syntax.Grammar
