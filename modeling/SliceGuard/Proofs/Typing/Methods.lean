import SliceGuard.Proofs.Typing.Symbols

/-!
# Methods in two versions of a package

Where two versions of a package differ in any way, but not in the signatures of methods, the same
types are sortable.  A method without its body is the same in both versions, and the body says
nothing about the signature.
-/

namespace SliceGuard.Typing

open Syntax (Kind Node Role Site)
open Syntax.Node (Reworded Rewritten Untouched mayDiffer_of_kind noEdit)
open Declarations

/-- A method without its body. -/
def withoutBody (method : Node) : Node :=
  .mk method.kind method.role method.span method.text
    (method.children.filter fun part => !part.plays .body)

section Bodies

theorem child?_withoutBody {role : Role} (other : role ≠ .body) (method : Node) :
    (withoutBody method).child? role = method.child? role := by
  rw [Node.child?, withoutBody, Node.children_mk, List.find?_filter, Node.child?]
  congr 1
  funext part
  rw [Bool.eq_iff_iff, decide_eq_true_iff]
  refine ⟨And.right, fun plays => ⟨?_, plays⟩⟩
  have here : part.role = some role := by simpa [Node.plays] using plays
  simp [Node.plays, here, other]

theorem receiverName_withoutBody (method : Node) :
    receiverName (withoutBody method) = receiverName method := by
  rw [receiverName, receiverType, child?_withoutBody (by decide), receiverName, receiverType]

theorem nameText_withoutBody (method : Node) :
    nameText (withoutBody method) = nameText method := by
  rw [nameText, child?_withoutBody (by decide), nameText]

theorem methodSymbol_withoutBody (file : String) (method : Node) :
    methodSymbol file (withoutBody method) = methodSymbol file method := by
  unfold methodSymbol
  rw [nameText_withoutBody, receiverName_withoutBody, child?_withoutBody (by decide),
    child?_withoutBody (by decide)]
  rfl

end Bodies

variable {names : String → Prop} {edit : Node → Node → Prop}

/-- Whether no part of a method is edited but its body. -/
def KeepsSignature (edit : Node → Node → Prop) (method : Node) : Prop :=
  ∀ part ∈ method.children, part.role ≠ some .body → Untouched edit part

section Signatures

variable {old new : Node}

theorem rewritten_withoutBody (kept : KeepsSignature edit old)
    (same : Rewritten names edit old new) (kind : old.kind = .methodDeclaration) :
    Rewritten names noEdit (withoutBody old) (withoutBody new) := by
  have must := mayDiffer_of_kind kind rfl
  have reads : old.readsChildren = true := by simp [Node.readsChildren, kind]
  have head : Reworded names (withoutBody old) (withoutBody new) :=
    ⟨same.head.kind, same.head.role, same.head.text, same.head.asked⟩
  have parts := forall₂_filter (p := fun part => !part.plays .body)
    (q := fun part => !part.plays .body) (fun _ _ both => by rw [both.2.1.head.plays])
    (forall₂_and_of_mem (same.children must) (same.read must reads))
  refine .spread head ?_ fun _ => parts.imp fun _ _ both => both.2.2
  refine forall₂_imp_of_mem parts fun part mem part' both => both.2.1.unedited (kept part ?_ ?_)
  · exact (List.mem_filter.1 mem).1
  · simpa [Node.plays] using (List.mem_filter.1 mem).2

theorem methodSymbol_of_signature (words : AsksWords names) (kept : KeepsSignature edit old)
    (same : Rewritten names edit old new) (kind : old.kind = .methodDeclaration) (file : String) :
    SameMethod (methodSymbol file old) (methodSymbol file new) := by
  rw [← methodSymbol_withoutBody, ← methodSymbol_withoutBody file new]
  exact methodSymbol_matched (fun _ _ never => never.elim) words
    (rewritten_withoutBody kept same kind) kind file

end Signatures

section Sortable

/-- Of the symbols of a declaration, only that of a method is a method. -/
theorem filter_declarationSymbols (file : String) (declaration : Site) :
    (declarationSymbols file declaration).filter (·.kind == .method) =
      if declaration.node.kind = .methodDeclaration then [methodSymbol file declaration.node]
      else [] := by
  have values {kind : SymbolKind} (other : kind ≠ .method) (specs : List Site) :
      (specs.flatMap (specSymbols file kind)).filter (·.kind == .method) = [] := by
    rw [List.filter_eq_nil_iff]
    intro symbol mem
    obtain ⟨spec, _, mem⟩ := List.mem_flatMap.1 mem
    obtain ⟨title, _, rfl⟩ := List.mem_map.1 mem
    simpa using other
  unfold declarationSymbols
  split
  case h_1 kind => simp [kind, functionSymbol]
  case h_2 kind => simp [kind, methodSymbol]
  case h_3 kind =>
    rw [if_neg (by simp [kind]), List.filter_eq_nil_iff]
    intro symbol mem
    obtain ⟨spec, _, rfl⟩ := List.mem_map.1 mem
    simp
  case h_4 kind => rw [if_neg (by simp [kind]), values (by decide)]
  case h_5 kind => rw [if_neg (by simp [kind]), values (by decide)]
  case h_6 notMethod _ _ _ => rw [if_neg notMethod, List.filter_nil]

/-- The same types are sortable, where the signatures of methods are kept. -/
theorem isSortable_of_signatures (words : AsksWords names) {files files' : List SourceFile}
    (same : List.Forall₂ (fun file file' => file'.path = file.path ∧
      file.root.kind = .sourceFile ∧ Rewritten names edit file.root file'.root) files files')
    (kept : ∀ file ∈ files, ∀ method ∈ file.root.named, method.kind = .methodDeclaration →
      KeepsSignature edit method) (type : String) :
    (Index.ofFiles files').isSortable type = (Index.ofFiles files).isSortable type := by
  have shown := isSortable_filter (p := (·.kind == .method)) fun symbol isMethod => by
    simp [isMethod]
  rw [← shown (Index.ofFiles files), ← shown (Index.ofFiles files')]
  refine isSortable_of_symbols ?_ type
  simp only [Index.ofFiles, symbols, List.filter_flatMap, filter_declarationSymbols]
  refine List.rel_flatMap (forall₂_imp_of_mem same fun file mem file' here => And.intro mem here) ?_
  rintro file file' ⟨listed, path, isFile, root⟩
  simp only [Site.named, Site.root, List.flatMap_map]
  refine List.rel_flatMap (forall₂_imp_of_mem (root.named (mayDiffer_of_kind isFile rfl))
    fun method mem method' here => And.intro mem here) ?_
  rintro method method' ⟨mem, here⟩
  have kinds := here.kind
  by_cases kind : method.kind = .methodDeclaration
  · have title := nameText_of_children (here.children (mayDiffer_of_kind kind rfl))
    have signature := methodSymbol_of_signature words (kept file listed method mem kind) here kind
      file.path
    simp only [Site.node_below, kinds, kind, ↓reduceIte, path]
    exact .cons ⟨rfl, title, fun _ => signature⟩ .nil
  · simp only [Site.node_below, kinds, kind, ↓reduceIte]
    exact .nil

end Sortable

end SliceGuard.Typing
