/-!
# Offsets into a text

Places in a text are counted in bytes, in numbers of 32 bits. An operation whose result does not
fit has none: it fails with a fault that says why.
-/

namespace JavaLint.Text

/-- Why an operation on places of a text has no result. -/
inductive Fault where
  /-- The number does not fit into 32 bits. -/
  | overflow
  /-- The span would end before it starts. -/
  | inverted
  /-- The text has no such part, or a character lies across one of its ends. -/
  | unsliceable
deriving DecidableEq, Repr, Inhabited

/-- A number of bytes that fits into 32 bits. -/
structure Offset where
  /-- The number. -/
  val : Nat
  /-- It fits. -/
  lt_limit : val < UInt32.size
deriving DecidableEq, Repr

namespace Offset

instance : Inhabited Offset := ⟨⟨0, by decide⟩⟩

instance : LE Offset := ⟨fun a b => a.val ≤ b.val⟩

instance : LT Offset := ⟨fun a b => a.val < b.val⟩

instance (a b : Offset) : Decidable (a ≤ b) := inferInstanceAs (Decidable (a.val ≤ b.val))

instance (a b : Offset) : Decidable (a < b) := inferInstanceAs (Decidable (a.val < b.val))

instance : Ord Offset := ⟨fun a b => compare a.val b.val⟩

@[ext]
theorem ext {a b : Offset} (h : a.val = b.val) : a = b := by
  obtain ⟨n, hn⟩ := a
  obtain ⟨m, hm⟩ := b
  obtain rfl : n = m := h
  rfl

/-- The start of a text. -/
def zero : Offset := ⟨0, by decide⟩

/-- The largest offset. -/
def last : Offset := ⟨UInt32.size - 1, by decide⟩

/-- The number as an offset, if it fits. -/
def ofNat? (n : Nat) : Option Offset :=
  if h : n < UInt32.size then some ⟨n, h⟩ else none

/-- The number as an offset. -/
def ofNat (n : Nat) : Except Fault Offset :=
  match ofNat? n with
  | some o => .ok o
  | none => .error .overflow

/-- The sum of two offsets. -/
def add (a b : Offset) : Except Fault Offset := ofNat (a.val + b.val)

/-- The difference of two offsets, if the second is not larger. -/
def sub? (a b : Offset) : Option Offset :=
  if b.val ≤ a.val then some ⟨a.val - b.val, Nat.lt_of_le_of_lt (Nat.sub_le _ _) a.lt_limit⟩
  else none

/-- The difference of two offsets. -/
def sub (a b : Offset) : Except Fault Offset :=
  match sub? a b with
  | some o => .ok o
  | none => .error .overflow

/-- The length of a text. -/
def ofText (text : String) : Except Fault Offset := ofNat text.utf8ByteSize

end Offset

end JavaLint.Text
