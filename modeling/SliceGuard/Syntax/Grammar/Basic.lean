import SliceGuard.Syntax.Lexer

/-!
# Reading phrases from tokens

A phrase reader takes tokens from the front and gives a part of the tree, or fails.  Nodes are
grouped from their parts so that a comment belongs to the smallest node around it: comments before
the first token of a node are left to the node around.
-/

namespace SliceGuard.Syntax

/-- A node to be placed in its parent, with the text and the comments that stand before it. -/
structure Part where
  before : String
  comments : List Comment
  node : Node
deriving Repr, Inhabited

namespace Part

def ofToken (kind : Kind) (token : Token) : Part :=
  ⟨token.before, token.comments, .mk kind none token.span token.text []⟩

def inRole (role : Role) (part : Part) : Part :=
  { part with node := part.node.withRole role }

/-- Whether the part is more than an operator, a keyword or punctuation. -/
def isNamed (part : Part) : Bool :=
  part.node.isNamed

/-- The nodes a part adds to its parent: the comments before it and its own node. -/
def nodes (part : Part) : List Node :=
  part.comments.map Comment.node ++ [part.node]

/-- The span from the start of the first part to the end of the last. -/
def spanOf (first : Part) (rest : List Part) : Span :=
  { first.node.span with stop := (rest.getLast?.getD first).node.stop }

/-- A node of the given kind from its parts.  What stands before the first part stands before the
node. -/
def group (kind : Kind) (first : Part) (rest : List Part) : Part :=
  let text := rest.foldl (fun text part => text ++ part.before ++ part.node.text) first.node.text
  let children := first.node :: rest.flatMap nodes
  ⟨first.before, first.comments, .mk kind none (spanOf first rest) text children⟩

@[simp] theorem kind_group (kind : Kind) (first : Part) (rest : List Part) :
    (group kind first rest).node.kind = kind := rfl

@[simp] theorem comments_group (kind : Kind) (first : Part) (rest : List Part) :
    (group kind first rest).comments = first.comments := rfl

/-- The children of a group are its nodes and the comments between them. -/
theorem children_group (kind : Kind) (first : Part) (rest : List Part) :
    (group kind first rest).node.children =
      first.node :: rest.flatMap nodes := rfl

end Part

namespace Grammar

/-- A reader of phrases: it takes tokens from the front, or fails. -/
abbrev Reader (α : Type) := StateT (List Token) Option α

def peek : Reader Token := fun tokens =>
  match tokens with
  | [] => none
  | token :: _ => some (token, tokens)

/-- A property of the token at a distance ahead. -/
def ahead (distance : Nat) (p : Token → Bool) : Reader Bool := fun tokens =>
  some ((tokens[distance]?).any p, tokens)

/-- Whether the given keyword or operator is next. -/
def isNext (text : String) : Reader Bool :=
  ahead 0 (·.is text)

/-- The first token ahead, as a node of the given kind. -/
def take (kind : Kind) : Reader Part := fun tokens =>
  match tokens with
  | [] => none
  | token :: rest => some (.ofToken kind token, rest)

def sign (text : String) : Reader Part := do
  if (← peek).is text then take .token else failure

/-- The given keyword or operator, if it is next. -/
def sign? (text : String) : Reader (List Part) := do
  if ← isNext text then return [← take .token] else return []

def name (kind : Kind) : Reader Part := do
  if (← peek).isName then take kind else failure

/-- The end of a statement, a specification or a field. -/
def terminator : Reader Part := do
  if (← peek).isTerminator then take .token else failure

/-- What the reader reads, or nothing at all if it fails. -/
def attempt {α : Type} (reader : Reader α) : Reader (Option α) := fun tokens =>
  match reader tokens with
  | some (found, rest) => some (some found, rest)
  | none => some (none, tokens)

/-- One or more items with the separator between them. -/
def separated (separator : String) (item : Reader Part) : Nat → Reader (Part × List Part)
  | 0 => failure
  | limit + 1 => do
    let first ← item
    if ← isNext separator then
      let mark ← sign separator
      let (second, rest) ← separated separator item limit
      return (first, mark :: second :: rest)
    else return (first, [])

/-- Any number of items with commas between them, and perhaps one after the last, up to the
closing sign. -/
def listUntil (close : String) (item : Reader Part) : Nat → Reader (List Part)
  | 0 => failure
  | limit + 1 => do
    if ← isNext close then return []
    let first ← item
    if ← isNext "," then
      let comma ← sign ","
      return first :: comma :: (← listUntil close item limit)
    else return [first]

/-- Any number of items with terminators between them, and perhaps one after the last, up to the
closing sign. -/
def linesUntil (close : String) (item : Reader Part) : Nat → Reader (List Part)
  | 0 => failure
  | limit + 1 => do
    if ← isNext close then return []
    let first ← item
    if ← isNext close then return [first]
    let ended ← terminator
    return first :: ended :: (← linesUntil close item limit)

/-- Repeat a step on a part until it changes nothing. -/
def iterate (step : Part → Reader (Option Part)) : Nat → Part → Reader Part
  | 0, _ => failure
  | limit + 1, part => do
    match ← step part with
    | none => return part
    | some next => iterate step limit next

/-- The phrases that contain each other.  In the header of a statement a brace after a name opens
the block of the statement. -/
inductive Goal where
  | expression (header : Bool)
  | binary (header : Bool) (floor : Nat)
  | unary (header : Bool)
  | type
  | literalValue
  | block
  | statement
  | ifStatement
deriving DecidableEq, Repr

/-- How the phrases inside a phrase are read, and a bound on their number. -/
structure Nested where
  limit : Nat
  read : Goal → Reader Part

end Grammar

end SliceGuard.Syntax
