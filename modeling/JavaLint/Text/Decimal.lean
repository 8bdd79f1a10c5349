/-!
# Numbers in decimal digits

A number is written in decimal digits, with a plus sign before them or not. It has to fit into 64 bits.
-/

namespace JavaLint.Text

namespace Decimal

/-- Why a text writes no number. -/
inductive Fault where
  | empty
  | invalidDigit
  | tooLarge
deriving DecidableEq, Repr, Inhabited

/-- What is said of a fault. -/
def Fault.message : Fault → String
  | empty => "cannot parse integer from empty string"
  | invalidDigit => "invalid digit found in string"
  | tooLarge => "number too large to fit in target type"

/-- Reads digits from left to right behind those that wrote `n`; the first fault on the way is told. -/
def readDigits (n : Nat) : List Char → Except Fault Nat
  | [] => .ok n
  | c :: cs =>
    if c.isDigit then
      let next := 10 * n + (c.toNat - '0'.toNat)
      if next < UInt64.size then readDigits next cs else .error .tooLarge
    else .error .invalidDigit

/-- The number that a text writes. -/
def read : List Char → Except Fault Nat
  | [] => .error .empty
  | ['+'] => .error .invalidDigit
  | '+' :: digits => readDigits 0 digits
  | digits => readDigits 0 digits

end Decimal

end JavaLint.Text
