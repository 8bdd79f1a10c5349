/-!
# References in XML

In text and in the values of attributes, an ampersand starts the name or the number of a character,
and a semicolon ends it.
-/

namespace JavaLint.Xml

/-- The characters that have names. -/
def namedChars : List (String × Char) :=
  [("lt", '<'), ("gt", '>'), ("amp", '&'), ("apos", '\''), ("quot", '"')]

/-- The value of a digit to the base sixteen. -/
def digit? (c : Char) : Option Nat :=
  if c.isDigit then some (c.toNat - 48)
  else if 'a' ≤ c ∧ c ≤ 'f' then some (c.toNat - 87)
  else if 'A' ≤ c ∧ c ≤ 'F' then some (c.toNat - 55)
  else none

/-- The number that digits write. -/
def number? (base : Nat) (digits : List Char) : Option Nat := do
  let values ← digits.mapM digit?
  if values.isEmpty || values.any (base ≤ ·) then none
  else some (values.foldl (fun n d => base * n + d) 0)

/-- The character that a reference stands for. The character with the number zero has none. -/
def resolve? (reference : List Char) : Option Char := do
  match reference with
  | '#' :: digits =>
    let n ← match digits with
      | 'x' :: digits => number? 16 digits
      | _ => number? 10 digits
    if n ≠ 0 ∧ n.isValidChar then some (Char.ofNat n) else none
  | _ => namedChars.lookup (String.ofList reference)

/-- Replaces the references in a text. `name` holds the characters of the reference that is being
read, the last first. -/
def expandFrom (name : Option (List Char)) : List Char → Option (List Char)
  | [] => if name.isNone then some [] else none
  | c :: cs =>
    match name with
    | none => if c = '&' then expandFrom (some []) cs else (expandFrom none cs).map (c :: ·)
    | some seen =>
      if c = ';' then do
        let d ← resolve? seen.reverse
        (expandFrom none cs).map (d :: ·)
      else if c = '&' then none
      else expandFrom (some (c :: seen)) cs

/-- Replaces the references in a text; there is no result if one of them is faulty. -/
def expand? (raw : List Char) : Option String := (expandFrom none raw).map String.ofList

end JavaLint.Xml
