import JavaLint.Parse.Subtree

/-!
# The next token

The next token is read with the tokens that the state allows. If none of them fits, any token that
is read during error recovery is taken; text that fits none of these either becomes a tree of
skipped text, up to the next place where a token fits.
-/

namespace JavaLint.Parse

open JavaLint.Grammar

/-- The mode in which tokens are read in a state. -/
def modeOf (t : Table) (state : Nat) : ScanMode := (t.modes[state]?).getD default

/-- The token that a word stands for: the keyword with its text, if the state has a use for it. The
flag says whether the text is that of a keyword at all. -/
def keywordFor (t : Table) (state symbol : Nat) (text : String) : Nat × Bool :=
  if symbol ≠ 1 then (symbol, false)
  else match t.keywordOf[text]? with
    | some k => (if (t.actionsAt state k).isEmpty then symbol else k, true)
    | none => (symbol, false)

/-- Skips text until a token fits, or the text ends; the result is the first place that was
skipped and the end of what was. -/
def skipText (t : Table) (input : Input) (mode : ScanMode) : (fuel : Nat) → (place : Nat) →
    (first : Option Nat) → (reached : Nat) → Nat × Nat
  | 0, place, first, reached => (first.getD place, reached)
  | fuel + 1, place, first, reached =>
    let out := t.network.scan mode (input.rest place) place
    match out.found with
    | some _ => (first.getD out.start, reached)
    | none =>
      let reached := if first.isNone then out.start else reached
      let first := some (first.getD out.start)
      let stop :=
        if out.stop = reached then
          if input.length ≤ out.stop then none else some (out.stop + 1)
        else some out.stop
      match stop with
      | none => (first.getD out.start, reached)
      | some stop => skipText t input mode fuel stop first stop

/-- The next token at `place` for a state. -/
def nextToken (t : Table) (input : Input) (place state : Nat) : Subtree :=
  let read := fun mode => (t.network.scan mode (input.rest place) place).found
  let own := if state = 0 then none else read (modeOf t state)
  match own.or (read (modeOf t 0)) with
  | some (symbol, start, stop) =>
    let (symbol, keyword) := keywordFor t state symbol (input.slice start stop)
    .token t symbol place start stop keyword
  | none =>
    let (start, stop) := skipText t input (modeOf t 0) (input.length + 2) place none place
    .mk { symbol := errorSymbol t, lead := place, start, stop, visible := true } []

end JavaLint.Parse
