/-!
# Syntax trees

A syntax tree keeps every token of the text, comments included. A node tells the kind that the
grammar gives it, the bytes of the text that it covers, and the role that it plays in its parent.
Where the text is no program, nodes of the kind `ERROR` cover what was skipped, and empty nodes
stand for tokens that are missing.
-/

namespace JavaLint

/-- What a node tells of itself. -/
structure NodeLabel where
  /-- The kind that the grammar gives the node; for a token without a name this is its text. -/
  kind : String
  /-- Whether the grammar names the node. -/
  named : Bool
  /-- Whether the node stands for a token that the text lacks. -/
  missing : Bool
  /-- The number of bytes before the node. -/
  start : Nat
  /-- The number of bytes up to its end. -/
  stop : Nat
  /-- The role of the node in its parent. -/
  role : Option String
deriving DecidableEq, Repr, Inhabited

/-- A syntax tree. -/
inductive Tree where
  | node (label : NodeLabel) (children : List Tree)
deriving Repr, Inhabited

namespace Tree

/-- The kind of skipped text. -/
def errorKind : String := "ERROR"

/-- What the root tells of itself. -/
def label : Tree → NodeLabel
  | node l _ => l

/-- The trees directly below the root, in the order of the text. -/
def children : Tree → List Tree
  | node _ cs => cs

/-- The kind that the grammar gives the root. -/
def rawKind (t : Tree) : String := t.label.kind

/-- Whether the grammar names the root. -/
def isNamed (t : Tree) : Bool := t.label.named

/-- Whether the root is skipped text or a token that is missing. -/
def isFlaw (t : Tree) : Bool := t.label.kind == errorKind || t.label.missing

/-- The children that the grammar names. -/
def namedChildren (t : Tree) : List Tree := t.children.filter isNamed

/-- The first child with the given role. -/
def child? (t : Tree) (role : String) : Option Tree :=
  t.children.find? fun c => c.label.role == some role

end Tree

end JavaLint
