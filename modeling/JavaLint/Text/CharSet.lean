/-!
# Sets of characters

A set of characters is kept as closed ranges of code points in increasing order, so that
membership is a binary search and the set operations are single passes over the ranges.
-/

namespace JavaLint.Text

/-- A set of code points, as disjoint closed ranges in increasing order. -/
structure CharSet where
  /-- The ranges; each pair holds its first and its last code point. -/
  ranges : Array (Nat × Nat)
deriving BEq, Repr, Inhabited

namespace CharSet

/-- The set without members. -/
def empty : CharSet := ⟨#[]⟩

/-- The largest code point. -/
def lastPoint : Nat := 0x10FFFF

/-- Binary search for `n` among the ranges with indices in `[lo, hi)`. -/
def search (ranges : Array (Nat × Nat)) (n lo hi : Nat) : Bool :=
  if lo < hi then
    let mid := (lo + hi) / 2
    match ranges[mid]? with
    | none => false
    | some (a, b) =>
      if n < a then search ranges n lo mid
      else if b < n then search ranges n (mid + 1) hi
      else true
  else false
termination_by hi - lo

/-- Whether the code point `n` is a member. -/
def containsPoint (s : CharSet) (n : Nat) : Bool :=
  search s.ranges n 0 s.ranges.size

/-- Whether the character is a member. -/
def contains (s : CharSet) (c : Char) : Bool :=
  s.containsPoint c.toNat

/-- Adds a range that starts no earlier than every range already there. -/
def extend (acc : Array (Nat × Nat)) (r : Nat × Nat) : Array (Nat × Nat) :=
  match acc.back? with
  | some (a, b) =>
    if r.1 ≤ b + 1 then acc.pop.push (a, max b r.2) else acc.push r
  | none => acc.push r

/-- The set of the code points of some ranges, in any order and overlapping or not. -/
def ofRanges (rs : List (Nat × Nat)) : CharSet :=
  let sorted := (rs.filter fun r => r.1 ≤ r.2).mergeSort fun a b => a.1 ≤ b.1
  ⟨sorted.foldl extend #[]⟩

/-- The set of the characters of a list. -/
def ofChars (cs : List Char) : CharSet :=
  ofRanges (cs.map fun c => (c.toNat, c.toNat))

/-- The one-character set. -/
def single (c : Char) : CharSet := ⟨#[(c.toNat, c.toNat)]⟩

/-- The union of two sets. -/
def union (s t : CharSet) : CharSet :=
  ofRanges (s.ranges.toList ++ t.ranges.toList)

/-- The gaps that a list of increasing ranges leaves in `[lo, hi]`. -/
def gaps (lo hi : Nat) : List (Nat × Nat) → List (Nat × Nat)
  | [] => if lo ≤ hi then [(lo, hi)] else []
  | (a, b) :: rest =>
    let tail := gaps (max lo (b + 1)) hi rest
    if lo < a ∧ lo ≤ hi then (lo, min hi (a - 1)) :: tail else tail

/-- All code points from `lo` on that are not members. -/
def complementFrom (lo : Nat) (s : CharSet) : CharSet :=
  ⟨(gaps lo lastPoint s.ranges.toList).toArray⟩

/-- All code points that are not members. -/
def complement (s : CharSet) : CharSet :=
  s.complementFrom 0

/-- The common part of two increasing lists of ranges. -/
def meet : List (Nat × Nat) → List (Nat × Nat) → List (Nat × Nat)
  | [], _ => []
  | _, [] => []
  | (a, b) :: xs, (c, d) :: ys =>
    let lo := max a c
    let hi := min b d
    let tail := if b < d then meet xs ((c, d) :: ys) else meet ((a, b) :: xs) ys
    if lo ≤ hi then (lo, hi) :: tail else tail
termination_by xs ys => xs.length + ys.length

/-- The intersection of two sets. -/
def inter (s t : CharSet) : CharSet :=
  ⟨(meet s.ranges.toList t.ranges.toList).toArray⟩

/-- The members of `s` that are not in `t`. -/
def diff (s t : CharSet) : CharSet :=
  s.inter t.complement

/-- Whether the set has no members. -/
def isEmpty (s : CharSet) : Bool := s.ranges.isEmpty

/-- Whether two sets have a member in common. -/
def meets (s t : CharSet) : Bool := !(s.inter t).isEmpty

end CharSet

end JavaLint.Text
