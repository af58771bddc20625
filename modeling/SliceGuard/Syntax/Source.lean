import SliceGuard.Syntax.Defects
import SliceGuard.Syntax.Grammar.Statements

/-!
# Source files

A source file is read from its bytes into one syntax tree, or rejected as a whole.
-/

namespace SliceGuard

namespace Syntax

open Grammar in
/-- The tree of a whole file of the given text: its declarations and statements, and all
comments. -/
def sourceTree (g : Nested) (text : String) : Reader Node := do
  let parts ← topLevels g g.limit
  let stop ← take .token
  let children := parts.flatMap Part.nodes ++ stop.comments.map Comment.node
  let start := (children.head?.getD stop.node).span
  return .mk .sourceFile none { start with stop := stop.node.stop } text children

/-- A bound on the depth of phrases in a file of so many tokens.  No more than five phrases begin
with one another before a token is spent.  So no phrase of the file is too deep, and a larger bound
would accept the same files and reject the same files. -/
def depthBound (tokens : Nat) : Nat :=
  64 * (tokens + 1)

/-- The tree of a source, or none if it is no Go source. -/
def tree? (bytes : ByteArray) : Option Node := do
  let glyphs := Text.Utf8.decode bytes.toList
  let tokens ← tokens? glyphs
  let depth := depthBound tokens.length
  let (node, _) ← sourceTree ⟨depth, Grammar.readWithin depth⟩ (Text.Glyph.text glyphs) tokens
  return node

/-- The package name a tree gives, or the empty text. -/
def Node.packageName (root : Node) : String :=
  let clauses := root.named.filter (·.kind == .packageClause)
  let names := clauses.flatMap fun clause => clause.named.filter (·.kind == .packageIdentifier)
  (names.head?.map Node.text).getD ""

end Syntax

open Syntax (Node Recovery)

structure SourceFile where
  path : String
  /-- The number of bytes. -/
  size : Nat
  root : Node
deriving Repr, Inhabited

namespace SourceFile

def packageName (file : SourceFile) : String :=
  file.root.packageName

/-- The file of a source, if the source is accepted. -/
def parse? (path : String) (bytes : ByteArray) : Option SourceFile :=
  (Syntax.tree? bytes).map fun root => { path, size := bytes.size, root }

end SourceFile

/-- Why sources cannot be had. -/
inductive SourceError where
  | syntaxError (path : String) (line column : Nat) (missing : Option String)
  | unreadable (path reason : String)
  | noSuchPath (path : String)
  | noSources (path : String)
  | noSuchDirectory (path : String)
deriving DecidableEq, Repr, Inhabited

namespace SourceError

/-- A message about a place; a line of zero means the whole file. -/
def located (path message : String) (line column : Int) : String :=
  if line = 0 then s!"{path}: {message}" else s!"{path}:{line}:{column}: {message}"

def message : SourceError → String
  | syntaxError path line column none => located path "syntax error" line column
  | syntaxError path line column (some label) =>
    located path ("syntax error: missing " ++ label) line column
  | unreadable path reason => located path ("cannot read file: " ++ reason) 0 0
  | noSuchPath path => located path "no such file or directory" 0 0
  | noSources path => located path "no Go files in directory" 0 0
  | noSuchDirectory path => located path "no such directory" 0 0

/-- The error about a node of a rejected source. -/
def about (path : String) (node : Syntax.Draft) : SourceError :=
  syntaxError path node.line node.column (if node.isMissing then some node.label else none)

end SourceError

def SourceFile.read [Recovery] (path : String) (bytes : ByteArray) :
    Except SourceError SourceFile :=
  match SourceFile.parse? path bytes with
  | some file => .ok file
  | none => .error (.about path (Recovery.draft bytes).culprit)

end SliceGuard
