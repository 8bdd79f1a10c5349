import JavaLint.Regex.Escape

/-!
# Sets in brackets

A set in brackets lists characters, ranges, escapes and further sets in brackets, and may combine
such lists by operators. Operators have equal strength and are applied from left to right.
-/

namespace JavaLint.Regex

open JavaLint.Text

/-- The operators between the lists of a set. -/
inductive SetOp where
  /-- Members of both sides. -/
  | common
  /-- Members of the left side only. -/
  | without
  /-- Members of one side only. -/
  | exclusive
deriving DecidableEq, Repr, Inhabited

namespace SetOp

/-- Combines two sets. -/
def apply (op : SetOp) (a b : CharSet) : CharSet :=
  match op with
  | common => a.inter b
  | without => a.diff b
  | exclusive => (a.diff b).union (b.diff a)

end SetOp

/-- A list of members that is being read. -/
structure Members where
  set : CharSet
  /-- The number of members written so far. -/
  count : Nat
  /-- How deeply brackets and lists are nested in the members. -/
  depth : Nat
deriving Inhabited

namespace Members

/-- The list without members. -/
def none : Members := ⟨.empty, 0, 0⟩

/-- Adds a member. -/
def add (m : Members) (set : CharSet) (depth : Nat) : Members :=
  ⟨m.set.union set, m.count + 1, max m.depth depth⟩

/-- The depth of the list as a whole. -/
def fullDepth (m : Members) : Nat := if m.count ≤ 1 then m.depth else m.depth + 1

end Members

/-- A set in brackets that is being read. -/
structure OpenBracket where
  negated : Bool
  /-- The left side of an operator whose right side is being read. -/
  left : Option (SetOp × CharSet × Nat)
  /-- The members so far of the set in whose brackets this one stands. -/
  around : Members
deriving Inhabited

namespace OpenBracket

/-- What the operator so far and the members of its right side amount to. -/
def combined (b : OpenBracket) (f : Flags) (m : Members) : Option (CharSet × Nat) :=
  match b.left with
  | none => some (m.set, m.fullDepth)
  | some (op, left, depth) => do
    let folding := fun s => Flags.closeSet f false s
    pure (op.apply (← folding left) (← folding m.set), 1 + max depth m.fullDepth)

end OpenBracket

/-- The ASCII sets with names. -/
def asciiSet? (name : String) : Option CharSet :=
  match name with
  | "alnum" => some (.ofRanges [(48, 57), (65, 90), (97, 122)])
  | "alpha" => some (.ofRanges [(65, 90), (97, 122)])
  | "ascii" => some (.ofRanges [(0, 127)])
  | "blank" => some (.ofRanges [(9, 9), (32, 32)])
  | "cntrl" => some (.ofRanges [(0, 31), (127, 127)])
  | "digit" => some (.ofRanges [(48, 57)])
  | "graph" => some (.ofRanges [(33, 126)])
  | "lower" => some (.ofRanges [(97, 122)])
  | "print" => some (.ofRanges [(32, 126)])
  | "punct" => some (.ofRanges [(33, 47), (58, 64), (91, 96), (123, 126)])
  | "space" => some (.ofRanges [(9, 13), (32, 32)])
  | "upper" => some (.ofRanges [(65, 90)])
  | "word" => some Assertion.asciiWordChars
  | "xdigit" => some (.ofRanges [(48, 57), (65, 70), (97, 102)])
  | _ => none

/-- Reads the rest of an ASCII set with a name, behind its bracket. Without such a set there is no
result. -/
def asciiMember (cs : List Char) : Option (Bool × CharSet × List Char) := do
  let cs ← behind? [':'] cs
  let (negated, cs) := match cs with
    | '^' :: cs => (true, cs)
    | _ => (false, cs)
  let name := cs.takeWhile (· != ':')
  let rest ← behind? [':', ']'] (cs.dropWhile (· != ':'))
  pure (negated, ← asciiSet? (String.ofList name), rest)

/-- Takes hyphens at the start of a set for themselves. -/
def Flags.leadingHyphens (f : Flags) (m : Members) : List Char → Members × List Char
  | [] => (m, [])
  | c :: cs =>
    if c = '-' then f.leadingHyphens (m.add (.single '-') 0) (f.skip cs) else (m, c :: cs)
termination_by cs => cs.length
decreasing_by
  have := f.skip_length_le cs
  simp only [List.length_cons]
  omega

/-- Reads the start of a set behind its bracket: whether it is a complement, and the hyphens and the
closing bracket that stand for themselves because nothing precedes them. -/
def Flags.openBracket (f : Flags) (cs : List Char) : Bool × Members × List Char :=
  let cs := f.skip cs
  let (negated, cs) := match cs with
    | '^' :: cs => (true, f.skip cs)
    | _ => (false, cs)
  let (m, cs) := f.leadingHyphens .none cs
  match m.count, cs with
  | 0, ']' :: cs => (negated, m.add (.single ']') 0, f.skip cs)
  | _, _ => (negated, m, cs)

/-- The character behind the first one; blanks between them are skipped if they are skipped at all.
The mark of a comment is skipped like a blank, but not the comment. -/
def Flags.second? (f : Flags) (cs : List Char) : Option Char :=
  if f.skipBlanks then
    match cs.tail.dropWhile isBlank with
    | '#' :: rest => (rest.dropWhile isBlank).head?
    | rest => rest.head?
  else cs.tail.head?

/-- Reads a single member of a set. -/
def Flags.member (f : Flags) : List Char → Option (Atom × List Char)
  | [] => none
  | c :: cs => if c = '\\' then f.escape cs else some (.char c false, cs)

/-- The character that an end of a range stands for. Sets of bytes have ASCII characters only. -/
def Flags.rangeEnd (f : Flags) : Atom → Option Char
  | .char c _ => if f.unicode || c.val < 128 then some c else none
  | _ => none

/-- Reads a member of a set, or a range. -/
def Flags.range (f : Flags) (cs : List Char) : Option (CharSet × List Char) := do
  let (first, rest) ← f.member cs
  let rest := f.skip rest
  let next := f.second? rest
  if rest.head? = some '-' ∧ next ≠ some ']' ∧ next ≠ some '-' then
    let (second, rest) ← f.member (f.skip rest.tail)
    let a ← f.rangeEnd first
    let b ← f.rangeEnd second
    if a ≤ b then pure (.ofRanges [(a.toNat, b.toNat)], rest) else none
  else
    match first with
    | .set s => pure (s, rest)
    | .assert _ => none
    | .char .. => pure (.single (← f.rangeEnd first), rest)

/-- Reads sets in brackets until the outermost is closed; returns it with its depth and the rest of
the expression. Each turn takes a character or more, so `fuel` need not exceed their number. -/
def Flags.brackets (f : Flags) :
    Nat → List OpenBracket → OpenBracket → Members → List Char →
      Option (CharSet × Nat × List Char)
  | 0, _, _, _, _ => none
  | fuel + 1, outer, b, m, cs =>
    let operator := fun (op : SetOp) rest => do
      let (set, depth) ← b.combined f m
      f.brackets fuel outer { b with left := some (op, set, depth) } .none rest
    match f.skip cs with
    | [] => none
    | '[' :: rest =>
      match asciiMember rest with
      | some (negated, set, rest) => do
        f.brackets fuel outer b (m.add (← f.closeSet negated set) 0) rest
      | none =>
        let (negated, inner, rest) := f.openBracket rest
        f.brackets fuel (b :: outer) ⟨negated, none, m⟩ inner rest
    | ']' :: rest => do
      let (set, depth) ← b.combined f m
      let set ← f.closeSet b.negated set
      match outer with
      | [] => pure (set, depth + 1, rest)
      | next :: outer => f.brackets fuel outer next (b.around.add set (depth + 1)) rest
    | '&' :: '&' :: rest => operator .common rest
    | '-' :: '-' :: rest => operator .without rest
    | '~' :: '~' :: rest => operator .exclusive rest
    | cs => do
      let (set, rest) ← f.range cs
      f.brackets fuel outer b (m.add set 0) rest

/-- Reads a set behind its bracket. -/
def Flags.bracket (f : Flags) (cs : List Char) : Option (CharSet × Nat × List Char) :=
  let (negated, m, rest) := f.openBracket cs
  f.brackets (cs.length + 1) [] ⟨negated, none, .none⟩ m rest

end JavaLint.Regex
