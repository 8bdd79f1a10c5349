import JavaLint.Unicode.Property

/-!
# Regular expressions

An expression stands for the texts that it matches. Beside sets of characters there are tests of the
place between two characters; these look at the two neighbours of the place and match no character.
-/

namespace JavaLint.Regex

open JavaLint.Text JavaLint.Unicode

/-- Tests of the place between two characters for the words around it. -/
inductive WordTest where
  /-- A word starts or ends here. -/
  | boundary
  /-- No word starts or ends here. -/
  | interior
  | start
  | stop
  /-- The character before is not of a word. -/
  | startHalf
  /-- The character after is not of a word. -/
  | stopHalf
deriving DecidableEq, Repr, Inhabited

/-- Tests of the place between two characters. -/
inductive Assertion where
  | textStart
  | textEnd
  /-- A line starts here; `crlf` tells whether carriage returns end lines too. -/
  | lineStart (crlf : Bool)
  | lineEnd (crlf : Bool)
  /-- A test for words; `unicode` tells whether words may hold characters beyond ASCII. -/
  | word (unicode : Bool) (test : WordTest)
deriving DecidableEq, Repr, Inhabited

namespace Assertion

/-- The ASCII characters of words. -/
def asciiWordChars : CharSet := .ofRanges [(48, 57), (65, 90), (95, 95), (97, 122)]

/-- Whether the test holds between two characters. Neither exists at its end of the text. -/
def holds (a : Assertion) (before after : Option Char) : Bool :=
  match a with
  | textStart => before.isNone
  | textEnd => after.isNone
  | lineStart false => before.all (· == '\n')
  | lineStart true => before.all fun c => c == '\n' || (c == '\r' && after != some '\n')
  | lineEnd false => after.all (· == '\n')
  | lineEnd true => after.all fun c => c == '\r' || (c == '\n' && before != some '\r')
  | word unicode test =>
    let chars := if unicode then wordChars else asciiWordChars
    let left := before.any chars.contains
    let right := after.any chars.contains
    match test with
    | .boundary => left != right
    | .interior => left == right
    | .start => !left && right
    | .stop => left && !right
    | .startHalf => !left
    | .stopHalf => !right

end Assertion

/-- A regular expression. -/
inductive Expr where
  /-- The text without characters. -/
  | empty
  /-- One character of a set. -/
  | oneOf (set : CharSet)
  /-- No characters, where a test holds. -/
  | assert (a : Assertion)
  /-- One expression after the other. -/
  | seq (first second : Expr)
  /-- Either expression; matches of the first are preferred. -/
  | either (first second : Expr)
  /-- The expression; what it matches is kept under a number. -/
  | group (index : Nat) (body : Expr)
  /-- Copies of the expression, at least `least` and at most `most`. A greedy repetition prefers many
  copies, any other few. -/
  | repeated (least : Nat) (most : Option Nat) (greedy : Bool) (body : Expr)
deriving Repr, Inhabited

namespace Expr

/-- Whether the expression can match without characters, tests apart. -/
def nullable : Expr → Bool
  | empty => true
  | oneOf _ => false
  | assert _ => true
  | seq a b => a.nullable && b.nullable
  | either a b => a.nullable || b.nullable
  | group _ a => a.nullable
  | repeated least _ _ a => least == 0 || a.nullable

/-- About how many bytes a program for the expression takes when it reads its text byte by byte. -/
def cost : Expr → Nat
  | empty => 32
  | oneOf s =>
    match s.ranges.back? with
    | none => 32
    | some (first, last) =>
      if last < 128 then 32 + 8 * s.ranges.size
      else if s.ranges.size == 1 && first == last then 32 * (Char.ofNat last).utf8Size
      else 64 + 60 * s.ranges.size
  | assert _ => 32
  | seq a b => a.cost + b.cost
  | either a b => 64 + a.cost + b.cost
  | group _ a => 64 + a.cost
  | repeated least most _ a =>
    match most with
    | none => 64 + max least 1 * a.cost
    | some most => 64 + least * a.cost + (most - least) * (32 + a.cost)

/-- The largest cost of an expression that is accepted. -/
def costLimit : Nat := 10 * 1024 * 1024

/-- The expressions one after the other. -/
def seqs : List Expr → Expr
  | [] => empty
  | [e] => e
  | e :: es => seq e (seqs es)

/-- Any of the expressions, the first preferred. -/
def anyOf : List Expr → Expr
  | [] => empty
  | [e] => e
  | e :: es => either e (anyOf es)

end Expr

end JavaLint.Regex
