import JavaLint.Text.CharSet

/-!
# Sets of characters with names

The tables of character properties are lists of sets with the names under which each is known. The
ranges of a set are written as text: hexadecimal code points, a hyphen between the first and the last
of a range, and blanks between ranges.
-/

namespace JavaLint.Unicode

open JavaLint.Text

/-- A set of characters with the names under which it is known, in small letters without
separators. -/
structure NamedSet where
  names : List String
  set : CharSet
deriving Inhabited

/-- The first set of a table that is known under a name. -/
def NamedSet.find? (table : List NamedSet) (name : String) : Option CharSet :=
  (table.find? fun s => s.names.contains name).map (·.set)

end JavaLint.Unicode

namespace JavaLint.Text.CharSet

/-- The number that hexadecimal digits write. -/
def hexNumber (digits : List Char) : Nat :=
  digits.foldl (fun n c =>
    16 * n + if c.isDigit then c.toNat - 48 else c.toUpper.toNat - 55) 0

/-- The range that its written form stands for; a single code point is a range by itself. -/
def hexRange (text : List Char) : Nat × Nat :=
  match text.splitOn '-' with
  | [a, b] => (hexNumber a, hexNumber b)
  | _ => (hexNumber text, hexNumber text)

/-- The set whose ranges are written in the lines. -/
def ofHex (lines : List String) : CharSet :=
  ofRanges (lines.flatMap fun line => (line.toList.splitOn ' ').map hexRange)

/-- The union of several sets. -/
def unions (sets : List CharSet) : CharSet :=
  ofRanges (sets.flatMap fun s => s.ranges.toList)

end JavaLint.Text.CharSet
