/-!
# Searching in lists of characters

Where a given sequence of characters stands in a text, and what is before and behind it.
-/

namespace JavaLint.Text

/-- What is behind an expected sequence at the start of a text. -/
def behind? (expected cs : List Char) : Option (List Char) :=
  if expected.isPrefixOf cs then some (cs.drop expected.length) else none

/-- Cuts a text at the first place where a sequence stands; the sequence is in neither part. -/
def cutAt? (mark : List Char) : List Char → Option (List Char × List Char)
  | [] => none
  | c :: cs =>
    match behind? mark (c :: cs) with
    | some rest => some ([], rest)
    | none => (cutAt? mark cs).map fun (head, tail) => (c :: head, tail)

/-- The pieces of a text between the places where a character stands. -/
def splitAtEach (mark : Char) : List Char → List (List Char)
  | [] => [[]]
  | c :: cs =>
    let rest := splitAtEach mark cs
    if c = mark then [] :: rest
    else match rest with
      | [] => [[c]]
      | piece :: pieces => (c :: piece) :: pieces

end JavaLint.Text
