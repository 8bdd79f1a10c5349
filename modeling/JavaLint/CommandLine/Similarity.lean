/-!
# Similar words

Two words are compared by the characters that they share at about the same place. The measure is the
mean of three shares: of the first word, of the second, and of the shared characters that stand in
the same order.
-/

namespace JavaLint.CommandLine

/-- A fraction; the denominator is not zero where one is made here. -/
structure Fraction where
  numerator : Nat
  denominator : Nat
deriving DecidableEq, Repr, Inhabited

namespace Fraction

/-- Whether a fraction is larger than another. -/
def exceeds (a b : Fraction) : Bool :=
  b.numerator * a.denominator < a.numerator * b.denominator

end Fraction

/-- Marks the first free place of a character between two bounds, if there is one. The places are
numbered from `place` on, and those with a mark are not free. -/
def claim (c : Char) (low high : Nat) : (place : Nat) → List (Char × Bool) → Option (List (Char × Bool))
  | _, [] => none
  | place, (d, taken) :: rest =>
    if place < high && low ≤ place && !taken && c == d then some ((d, true) :: rest)
    else (claim c low high (place + 1) rest).map ((d, taken) :: ·)

/-- The characters of the first word that are shared, in order, with the marks on the second. -/
def shared (reach : Nat) : (place : Nat) → List Char → List (Char × Bool) →
    List Char × List (Char × Bool)
  | _, [], marks => ([], marks)
  | place, c :: cs, marks =>
    match claim c (place - reach) (place + reach + 1) 0 marks with
    | some marks =>
      let (found, marks) := shared reach (place + 1) cs marks
      (c :: found, marks)
    | none => shared reach (place + 1) cs marks

/-- How similar two words are; equal words have the measure one. -/
def similarity (a b : String) : Fraction :=
  let m := a.length
  let n := b.length
  let reach := max m n / 2 - 1
  let (found, marks) := shared reach 0 a.toList (b.toList.map fun c => (c, false))
  let other := marks.filterMap fun (c, taken) => if taken then some c else none
  let k := found.length
  let moved := ((found.zip other).countP fun (c, d) => c != d) / 2
  if m = 0 && n = 0 then ⟨1, 1⟩
  else if k = 0 then ⟨0, 1⟩
  else ⟨k * k * n + k * k * m + (k - moved) * m * n, 3 * m * n * k⟩

/-- Words that are more similar than this are proposed. -/
def threshold : Fraction := ⟨7, 10⟩

/-- Puts a word behind those that are not more similar. -/
def insertByMeasure (entry : Fraction × String) :
    List (Fraction × String) → List (Fraction × String)
  | [] => [entry]
  | e :: rest => if e.1.exceeds entry.1 then entry :: e :: rest else e :: insertByMeasure entry rest

/-- The words that are similar to a given one, the most similar last. -/
def similarWords (word : String) (words : List String) : List String :=
  let measured := words.map fun w => (similarity word w, w)
  ((measured.filter fun e => e.1.exceeds threshold).foldl
    (fun found e => insertByMeasure e found) []).map (·.2)

end JavaLint.CommandLine
