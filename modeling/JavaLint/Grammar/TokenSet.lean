/-!
# Sets of tokens

A set of tokens is kept as the number whose binary digits are its members, so that union,
intersection and comparison are arithmetic.
-/

namespace JavaLint.Grammar

/-- A set of tokens. -/
structure TokenSet where
  /-- Digit `t` is one exactly when `t` is a member. -/
  bits : Nat
deriving DecidableEq, Repr, Inhabited

namespace TokenSet

instance : Hashable TokenSet where
  hash s := mixHash (hash s.bits) (mixHash (hash (s.bits >>> 63)) (hash (s.bits >>> 126)))

/-- The set without members. -/
def empty : TokenSet := ⟨0⟩

/-- The one-element set. -/
def single (t : Nat) : TokenSet := ⟨1 <<< t⟩

/-- Whether `t` is a member. -/
def contains (s : TokenSet) (t : Nat) : Bool := s.bits.testBit t

/-- All members of either set. -/
def union (s t : TokenSet) : TokenSet := ⟨s.bits ||| t.bits⟩

/-- All members of both sets. -/
def inter (s t : TokenSet) : TokenSet := ⟨s.bits &&& t.bits⟩

/-- The members of the first set that are not in the second. -/
def diff (s t : TokenSet) : TokenSet := ⟨s.bits ^^^ (s.bits &&& t.bits)⟩

/-- The set with one more member. -/
def insert (s : TokenSet) (t : Nat) : TokenSet := s.union (single t)

/-- The set without one member. -/
def erase (s : TokenSet) (t : Nat) : TokenSet :=
  s.diff (single t)

/-- Whether the set has no members. -/
def isEmpty (s : TokenSet) : Bool := s.bits == 0

/-- Whether the sets have a member in common. -/
def meets (s t : TokenSet) : Bool := !(s.inter t).isEmpty

/-- The members below `bound`, in increasing order. -/
def toList (s : TokenSet) (bound : Nat) : List Nat := (List.range bound).filter s.contains

/-- The set of the members of a list. -/
def ofList (ts : List Nat) : TokenSet := ts.foldl insert empty

end TokenSet

end JavaLint.Grammar
