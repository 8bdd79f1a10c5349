/-!
# Line and column numbers

Lines and columns are counted from one, in numbers of 64 bits. Counting stops at the largest.
-/

namespace JavaLint.Text

/-- A number of a line or of a column. -/
structure OneBased where
  /-- The number. -/
  val : Nat
  pos : 1 ≤ val
  lt_limit : val < UInt64.size
deriving DecidableEq, Repr

namespace OneBased

@[ext]
theorem ext {a b : OneBased} (h : a.val = b.val) : a = b := by
  obtain ⟨n, hn, hn'⟩ := a
  obtain ⟨m, hm, hm'⟩ := b
  obtain rfl : n = m := h
  rfl

/-- The first line or column. -/
def first : OneBased := ⟨1, by decide, by decide⟩

instance : Inhabited OneBased := ⟨first⟩

instance : Ord OneBased := ⟨fun a b => compare a.val b.val⟩

/-- The number, if it is not zero and fits. -/
def ofNat? (n : Nat) : Option OneBased :=
  if h : 1 ≤ n ∧ n < UInt64.size then some ⟨n, h.1, h.2⟩ else none

/-- The number of the line or column that `n` others precede; the last number stands for all
beyond it too. -/
def ofZeroBased (n : Nat) : OneBased :=
  if h : n + 1 < UInt64.size then ⟨n + 1, by omega, h⟩ else ⟨UInt64.size - 1, by decide, by decide⟩

/-- How many lines or columns precede. -/
def toZeroBased (n : OneBased) : Nat := n.val - 1

theorem val_ofZeroBased {n : Nat} (h : n + 1 < UInt64.size) : (ofZeroBased n).val = n + 1 := by
  rw [ofZeroBased, dif_pos h]

end OneBased

/-- A line and a column in it. -/
structure Position where
  line : OneBased
  column : OneBased
deriving DecidableEq, Repr, Inhabited

namespace Position

/-- Positions are ordered by line, and within a line by column. -/
instance : Ord Position :=
  ⟨fun a b => (compare a.line b.line).then (compare a.column b.column)⟩

/-- A position as it is written for people. -/
def render (p : Position) : String := s!"{p.line.val}:{p.column.val}"

end Position

end JavaLint.Text
