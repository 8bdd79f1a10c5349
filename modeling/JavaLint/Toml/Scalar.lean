import JavaLint.Text.Search
import JavaLint.Toml.Value

/-!
# Numbers, truth values and times of TOML
-/

namespace JavaLint.Toml

open JavaLint.Text

/-- What is behind a sign, if there is one. -/
def unsigned (cs : List Char) : List Char :=
  match cs with
  | '+' :: rest => rest
  | '-' :: rest => rest
  | _ => cs

/-- Whether a text is digits with single underscores between them. -/
def isDigits (isDigit : Char → Bool) (cs : List Char) : Bool :=
  (cs.splitOn '_').all fun group => !group.isEmpty && group.all isDigit

/-- Whether a text is a number in decimal digits without leading zeros. -/
def isWhole (cs : List Char) : Bool :=
  isDigits Char.isDigit cs && (cs == ['0'] || cs.head? != some '0')

/-- Whether a text is a whole number. -/
def isInteger (cs : List Char) : Bool :=
  match cs with
  | '0' :: 'x' :: digits => isDigits (fun c => c.isDigit || "abcdefABCDEF".toList.contains c) digits
  | '0' :: 'o' :: digits => isDigits (fun c => '0' ≤ c && c ≤ '7') digits
  | '0' :: 'b' :: digits => isDigits (fun c => c == '0' || c == '1') digits
  | _ => isWhole (unsigned cs)

/-- Whether a text is a number with a fraction, an exponent or both, or no finite number. -/
def isFloat (cs : List Char) : Bool :=
  let cs := unsigned cs
  if cs = "inf".toList ∨ cs = "nan".toList then true
  else
    let isMark := fun c => c == 'e' || c == 'E'
    let mantissa := cs.takeWhile (!isMark ·)
    let exponent := cs.dropWhile (!isMark ·)
    let hasExponent := match exponent with
      | _ :: digits => isDigits Char.isDigit (unsigned digits)
      | [] => true
    match cutAt? ['.'] mantissa with
    | some (whole, fraction) => isWhole whole && isDigits Char.isDigit fraction && hasExponent
    | none => isWhole mantissa && !exponent.isEmpty && hasExponent

/-- The number that decimal digits write. -/
def decimal (digits : List Char) : Nat := digits.foldl (fun n c => 10 * n + (c.toNat - 48)) 0

/-- Reads a fixed number of decimal digits. -/
def digits? (count : Nat) (cs : List Char) : Option (Nat × List Char) :=
  let digits := cs.take count
  if digits.length = count ∧ digits.all Char.isDigit then some (decimal digits, cs.drop count)
  else none

/-- The number of days of a month. -/
def daysOf (year month : Nat) : Nat :=
  if month = 2 then
    if year % 4 = 0 ∧ (year % 100 ≠ 0 ∨ year % 400 = 0) then 29 else 28
  else if [4, 6, 9, 11].contains month then 30
  else 31

/-- What is behind a date. -/
def behindDate? (cs : List Char) : Option (List Char) := do
  let (year, cs) ← digits? 4 cs
  let (month, cs) ← digits? 2 (← behind? ['-'] cs)
  let (day, cs) ← digits? 2 (← behind? ['-'] cs)
  if 1 ≤ month ∧ month ≤ 12 ∧ 1 ≤ day ∧ day ≤ daysOf year month then some cs else none

/-- What is behind a time of a day; its seconds may be left out. -/
def behindTime? (cs : List Char) : Option (List Char) := do
  let (hour, cs) ← digits? 2 cs
  let (minute, cs) ← digits? 2 (← behind? [':'] cs)
  if 23 < hour ∨ 59 < minute then none
  else match cs with
  | ':' :: cs => do
    let (second, cs) ← digits? 2 cs
    if 60 < second then none
    else match cs with
    | '.' :: cs =>
      let rest := cs.dropWhile Char.isDigit
      if rest.length = cs.length then none else some rest
    | _ => some cs
  | _ => some cs

/-- Whether a text is an offset from universal time. -/
def isOffset (cs : List Char) : Bool :=
  match cs with
  | ['Z'] => true
  | ['z'] => true
  | sign :: cs =>
    let inRange := do
      let (hour, cs) ← digits? 2 cs
      let (minute, cs) ← digits? 2 (← behind? [':'] cs)
      pure (hour ≤ 23 && minute ≤ 59 && cs.isEmpty)
    (sign == '+' || sign == '-') && inRange.getD false
  | [] => false

/-- Whether a text is a date, a time of a day, or both. -/
def isTime (cs : List Char) : Bool :=
  match behindDate? cs with
  | some [] => true
  | some (mark :: cs) =>
    (mark == 'T' || mark == 't' || mark == ' ') &&
      match behindTime? cs with
      | some rest => rest.isEmpty || isOffset rest
      | none => false
  | none => behindTime? cs == some []

/-- The sort of a value that is written without quotes or brackets. -/
def scalarKind? (cs : List Char) : Option ScalarKind :=
  if cs = "true".toList ∨ cs = "false".toList then some .boolean
  else if isInteger cs then some .integer
  else if isFloat cs then some .float
  else if isTime cs then some .time
  else none

/-- Whether a character can be part of such a value. -/
def isScalarChar (c : Char) : Bool := c.isAlphanum || c == '+' || c == '-' || c == '_' || c == '.' || c == ':'

/-- Reads such a value. A blank may stand between a date and a time. -/
def readScalar? (cs : List Char) : Option (ScalarKind × String × List Char) := do
  let first := cs.takeWhile isScalarChar
  let rest := cs.dropWhile isScalarChar
  let (written, rest) := match behindDate? first, rest with
    | some [], ' ' :: more =>
      if more.head?.any Char.isDigit then
        (first ++ ' ' :: more.takeWhile isScalarChar, more.dropWhile isScalarChar)
      else (first, rest)
    | _, _ => (first, rest)
  pure (← scalarKind? written, String.ofList written, rest)

end JavaLint.Toml
