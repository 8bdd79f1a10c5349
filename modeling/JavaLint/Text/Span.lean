import JavaLint.Text.Slice

/-!
# Spans of a text

A span is a stretch of a text from one offset up to, and without, another.
-/

namespace JavaLint.Text

/-- A stretch of a text. -/
structure Span where
  /-- Where it starts. -/
  start : Offset
  /-- Where it ends. -/
  stop : Offset
  /-- It does not end before it starts. -/
  start_le_stop : start.val ≤ stop.val
deriving DecidableEq, Repr

namespace Span

instance : Inhabited Span := ⟨⟨.zero, .zero, by decide⟩⟩

/-- The span between two offsets. -/
def ofBounds (start stop : Offset) : Except Fault Span :=
  if h : start.val ≤ stop.val then .ok ⟨start, stop, h⟩ else .error .inverted

/-- The span without bytes at an offset. -/
def empty (o : Offset) : Span := ⟨o, o, Nat.le_refl _⟩

/-- The span of the given length from an offset on. -/
def ofLength (start length : Offset) : Except Fault Span := do
  ofBounds start (← start.add length)

/-- The number of bytes. -/
def length (s : Span) : Offset :=
  ⟨s.stop.val - s.start.val, Nat.lt_of_le_of_lt (Nat.sub_le _ _) s.stop.lt_limit⟩

/-- Whether the span has no bytes. -/
def isEmpty (s : Span) : Bool := s.start == s.stop

/-- Whether the byte at the offset lies in the span. -/
def contains (s : Span) (o : Offset) : Bool := s.start ≤ o && o < s.stop

/-- Whether the other span lies within this one. -/
def covers (s t : Span) : Bool := s.start ≤ t.start && t.stop ≤ s.stop

/-- The part of a text at the span. -/
def slice (s : Span) (text : String) : Except Fault String :=
  match sliceText? text s.start.val s.stop.val with
  | some part => .ok part
  | none => .error .unsliceable

/-- The span as it is written for people. -/
def render (s : Span) : String := s!"{s.start.val}..{s.stop.val}"

end Span

end JavaLint.Text
