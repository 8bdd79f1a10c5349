import JavaLint.Text.Quoted
import JavaLint.Text.Slice
import JavaLint.Tree.Basic

/-!
# Outlines of syntax trees

An outline has a line for every node, indented by two blanks for every node above it. A line tells the
kind of the node and the place where it starts; nodes without children show their text in quotes.
-/

namespace JavaLint

open JavaLint.Text

namespace Outline

/-- The byte offsets directly after each line feed, when the text starts at offset `pos`. -/
def rowsAfter (pos : Nat) : List Char → List Nat
  | [] => []
  | c :: cs =>
    let next := pos + c.utf8Size
    if c = '\n' then next :: rowsAfter next cs else rowsAfter next cs

/-- The byte offsets at which the rows of a text start. -/
def rows (text : String) : List Nat := 0 :: rowsAfter 0 text.toList

/-- The row of an offset and the byte in that row, both counted from zero, where `rows` tells the starts
of rows. The row is the last that starts no later. -/
def point (rows : List Nat) (offset : Nat) : Nat × Nat :=
  let before := rows.takeWhile fun s => s ≤ offset
  (before.length - 1, offset - before.getLast?.getD 0)

/-- The line of a node below `depth` others. -/
def line (source : String) (rows : List Nat) (depth : Nat) (t : Tree) : String :=
  let (row, column) := point rows t.label.start
  let shown :=
    if t.children.isEmpty then
      " " ++ quoted ((sliceText? source t.label.start t.label.stop).getD "")
    else ""
  "".pushn ' ' (2 * depth) ++ s!"{t.rawKind} [{row + 1}:{column + 1}]" ++ shown

mutual

/-- The lines of a node and of all below it. -/
def lines (source : String) (rows : List Nat) (depth : Nat) : Tree → List String
  | .node label children =>
    line source rows depth (.node label children) :: linesEach source rows (depth + 1) children

/-- The lines of some nodes and of all below them. -/
def linesEach (source : String) (rows : List Nat) (depth : Nat) : List Tree → List String
  | [] => []
  | t :: rest => lines source rows depth t ++ linesEach source rows depth rest

end

/-- The outline of a tree. -/
def render (source : String) (t : Tree) : String :=
  String.join ((lines source (rows source) 0 t).map (· ++ "\n"))

end Outline

end JavaLint
