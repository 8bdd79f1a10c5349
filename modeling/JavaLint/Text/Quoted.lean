import JavaLint.Unicode.Property

/-!
# Quoted texts

A text is shown in quotes on one line: quotes, backslashes and some control characters are written
with a backslash, and characters that cannot be seen by themselves are written with their code point.
-/

namespace JavaLint.Text

open JavaLint.Unicode

/-- The digits of a number to the base sixteen. -/
def hexDigits (n : Nat) : List Char := Nat.toDigits 16 n

/-- The characters that are not shown as they are: those without a form of their own, blanks other
than the space, and marks that join what precedes them. -/
def unseen : CharSet :=
  (CharSet.unions [other, separator, graphemeExtend]).diff (.single ' ')

/-- A character as it is written in a quoted text. -/
def quoteChar (c : Char) : List Char :=
  if c = '"' ∨ c = '\\' then ['\\', c]
  else if c = '\n' then ['\\', 'n']
  else if c = '\r' then ['\\', 'r']
  else if c = '\t' then ['\\', 't']
  else if c = '\x00' then ['\\', '0']
  else if c.val < 127 && 32 ≤ c.val then [c]
  else if unseen.contains c then ['\\', 'u', '\x7b'] ++ hexDigits c.toNat ++ ['\x7d']
  else [c]

/-- The text in quotes. -/
def quoted (text : String) : String :=
  String.ofList ('"' :: text.toList.flatMap quoteChar ++ ['"'])

end JavaLint.Text
