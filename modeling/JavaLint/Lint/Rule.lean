import JavaLint.Lint.Diagnostic
import JavaLint.Text.Lines
import JavaLint.Tree.Kind
import JavaLint.Tree.Walk

/-!
# Rules

A rule is shown nodes of the kinds that it asks for, and answers with what it finds there.
-/

namespace JavaLint

open JavaLint.Text

/-- The span of the root in the text. A start or an end that does not fit counts as the start of
the text or as the start of the node. -/
def Tree.span (t : Tree) : Except Fault Span :=
  let start := (Offset.ofNat? t.label.start).getD .zero
  let stop := (Offset.ofNat? t.label.stop).getD start
  Span.ofBounds start stop

/-- The text that the root covers; empty where the text has no such part. -/
def Tree.text (t : Tree) (source : String) : String :=
  (sliceText? source t.label.start t.label.stop).getD ""

/-- The kind of the node. -/
def Cursor.kind (c : Cursor) : NodeKind := c.focus.kind

/-- The span of the node in the text. -/
def Cursor.span (c : Cursor) : Except Fault Span := c.focus.span

/-- A lint rule. -/
structure Rule where
  /-- The name under which its reports appear. -/
  name : String
  /-- The kinds of nodes that it asks for; without any it is shown every node. -/
  kinds : List NodeKind
  /-- What it finds at a node, in the lines of the source. It may look at the whole tree from there. -/
  check : Lines → Cursor → Except Fault (List Diagnostic)

namespace Rule

/-- Whether the rule is shown nodes of a kind. -/
def wants (r : Rule) (k : NodeKind) : Bool := r.kinds.isEmpty || r.kinds.contains k

theorem wants_eq_true_iff {r : Rule} {k : NodeKind} :
    r.wants k = true ↔ r.kinds = [] ∨ k ∈ r.kinds := by
  rw [wants, Bool.or_eq_true, List.isEmpty_iff, List.contains_iff_mem]

end Rule

end JavaLint
