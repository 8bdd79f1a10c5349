import JavaLint.Text.Span
import JavaLint.Text.Position

/-!
# Lines of a text

A line feed, a carriage return, or a carriage return with a line feed directly after it ends a
line. The starts of all lines are found once; after that the line of an offset is the last one
that starts no later. Columns count characters.
-/

namespace JavaLint.Text

/-- The byte offsets directly after each end of a line, when the text starts at offset `pos`. -/
def startsAfter (pos : Nat) : List Char → List Nat
  | [] => []
  | '\r' :: '\n' :: cs => (pos + 2) :: startsAfter (pos + 2) cs
  | c :: cs =>
    let next := pos + c.utf8Size
    if c = '\n' ∨ c = '\r' then next :: startsAfter next cs else startsAfter next cs

/-- The lines of a text. -/
structure Lines where
  /-- The text. -/
  text : String
  /-- Where the lines start, in increasing order. -/
  starts : List Offset
  /-- Whether the text has ASCII characters only. -/
  isAscii : Bool
deriving Inhabited

namespace Lines

/-- Finds the lines of a text. -/
def ofText (text : String) : Except Fault Lines := do
  let rest ← (startsAfter 0 text.toList).mapM Offset.ofNat
  pure ⟨text, .zero :: rest, text.toList.all fun c => c.val < 128⟩

/-- The number of lines. -/
def count (l : Lines) : Nat := l.starts.length

/-- The line of an offset. -/
def lineOf (l : Lines) (o : Offset) : OneBased :=
  .ofZeroBased ((l.starts.countP fun s => s ≤ o) - 1)

/-- Where a line starts; lines past the end are at the end of the text. -/
def startOf (l : Lines) (line : OneBased) : Except Fault Offset :=
  match l.starts[line.toZeroBased]? with
  | some s => .ok s
  | none => Offset.ofText l.text

/-- The span of a line with its end. -/
def spanOf (l : Lines) (line : OneBased) : Except Fault Span := do
  let start ← l.startOf line
  let stop ← match l.starts[line.val]? with
    | some s => .ok s
    | none => Offset.ofText l.text
  Span.ofBounds start stop

/-- The text of a line without its end. -/
def textOf (l : Lines) (line : OneBased) : Except Fault String := do
  let part ← (← l.spanOf line).slice l.text
  let isEnd := fun c : Char => c == '\n' || c == '\r'
  pure (String.ofList (part.toList.reverse.dropWhile isEnd).reverse)

/-- The line and the column of an offset. In a text of ASCII characters bytes are columns, also past
its end. -/
def position (l : Lines) (o : Offset) : Except Fault Position := do
  let line := l.lineOf o
  let start ← l.startOf line
  let before ←
    if l.isAscii then (·.val) <$> o.sub start
    else (·.length) <$> (← Span.ofBounds start o).slice l.text
  pure ⟨line, .ofZeroBased before⟩

end Lines

end JavaLint.Text
