import JavaLint.Text.CharSet

/-!
# Patterns of tokens

A pattern is a regular expression over character sets. A lexeme is a pattern with the facts that
decide between several tokens that match the same text: its precedence, and whether it has to
follow the preceding token directly.
-/

namespace JavaLint.Grammar

open JavaLint.Text

/-- A regular expression over sets of characters. -/
inductive Pattern where
  /-- The empty text. -/
  | empty
  /-- One character of the set. -/
  | one (set : CharSet)
  /-- The first pattern and then the second. -/
  | cat (first second : Pattern)
  /-- Either pattern. -/
  | or (left right : Pattern)
  /-- The pattern, once or more. -/
  | many1 (inner : Pattern)
deriving BEq, Repr, Inhabited

namespace Pattern

/-- One character of those in the text. -/
def anyOf (text : String) : Pattern := .one (CharSet.ofChars text.toList)

/-- One character of those in the ranges. -/
def within (ranges : List (Char × Char)) : Pattern :=
  .one (CharSet.ofRanges (ranges.map fun (a, b) => (a.toNat, b.toNat)))

/-- One character that is not in the text. NUL is in no such set, because it marks the end of the
input to the scanner's tables. -/
def noneOf (text : String) : Pattern :=
  .one ((CharSet.ofChars text.toList).complementFrom 1)

/-- The patterns one after the other. -/
def seq : List Pattern → Pattern
  | [] => .empty
  | [p] => p
  | p :: ps => .cat p (seq ps)

/-- One of the patterns. -/
def alt : List Pattern → Pattern
  | [] => .one CharSet.empty
  | [p] => p
  | p :: ps => .or p (alt ps)

/-- The text itself. -/
def text (s : String) : Pattern := seq (s.toList.map fun c => .one (CharSet.single c))

/-- The pattern or nothing. -/
def optional (p : Pattern) : Pattern := .or p .empty

/-- The pattern, any number of times. -/
def many (p : Pattern) : Pattern := .or (.many1 p) .empty

/-- The pattern exactly `n` times. -/
def times (n : Nat) (p : Pattern) : Pattern := seq (List.replicate n p)

/-- One or more of the first pattern, with the second between them. -/
def sepBy1 (p separator : Pattern) : Pattern := .cat p (many (.cat separator p))

end Pattern

/-- A token of a grammar: what it matches and how it fares against others. -/
structure Lexeme where
  /-- The texts of the token. -/
  pattern : Pattern
  /-- The text itself, for a token with only one. -/
  literal : Option String
  /-- Higher precedence wins over a longer match. -/
  precedence : Int
  /-- Whether the token must start where the preceding one ends, without blanks between. -/
  immediate : Bool
deriving BEq, Repr, Inhabited

namespace Lexeme

/-- The token with the given text. -/
def ofText (s : String) : Lexeme := ⟨.text s, some s, 0, false⟩

/-- The token with the given pattern. -/
def ofPattern (p : Pattern) : Lexeme := ⟨p, none, 0, false⟩

/-- The token with the given pattern, which admits no blanks before it. -/
def immediately (p : Pattern) (precedence : Int) : Lexeme := ⟨p, none, precedence, true⟩

/-- Between tokens of equal precedence that match the same text, a token of one text wins over a
pattern, and of two patterns one that admits no blanks before it. -/
def rank (l : Lexeme) : Nat :=
  (if l.literal.isSome then 2 else 0) + (if l.immediate then 1 else 0)

end Lexeme

end JavaLint.Grammar
