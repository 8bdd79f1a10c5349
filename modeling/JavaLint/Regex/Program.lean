import JavaLint.Regex.Expr

/-!
# Programs that match

An expression is turned into a program. A program is run on a text by many threads at once: all
threads stand at the same place of the text and take its next character together. Threads are kept in
order of preference, and of two threads at the same instruction only the preferred one goes on. So a
run takes time in proportion to the text and to the program.
-/

namespace JavaLint.Regex

open JavaLint.Text

/-- An instruction. Addresses are counted from the start of the program. -/
inductive Instr where
  /-- Takes one character of a set and goes on. -/
  | take (set : CharSet)
  /-- Goes on if a test holds. -/
  | test (a : Assertion)
  /-- Goes on at either address, the first preferred. -/
  | fork (first second : Nat)
  /-- Goes on at an address. -/
  | jump (target : Nat)
  /-- Keeps the place in a slot and goes on. -/
  | save (slot : Nat)
  /-- The text matches. -/
  | accept
deriving Repr, Inhabited

namespace Program

/-- A fork that prefers to go on at `inner` when greedy, and else at `outer`. -/
def choice (greedy : Bool) (inner outer : Nat) : Instr :=
  if greedy then .fork inner outer else .fork outer inner

/-- The number of instructions for an expression. -/
def width : Expr → Nat
  | .empty => 0
  | .oneOf _ => 1
  | .assert _ => 1
  | .seq a b => width a + width b
  | .either a b => width a + width b + 2
  | .group _ a => width a + 2
  | .repeated least (some most) _ a => least * width a + (most - least) * (width a + 1)
  | .repeated 0 none _ a => width a + 2
  | .repeated (least + 1) none _ a => (least + 1) * width a + 1

/-- Code that is written several times, one copy after the other. `width` is the length of one
copy. -/
def copies (code : Nat → List Instr) (width : Nat) : Nat → Nat → List Instr
  | 0, _ => []
  | n + 1, start => code start ++ copies code width n (start + width)

/-- Up to `n` copies of some code; before each there is a way to the end. `width` is the length of
one copy. -/
def optional (greedy : Bool) (code : Nat → List Instr) (width stop : Nat) : Nat → Nat → List Instr
  | 0, _ => []
  | n + 1, start =>
    choice greedy (start + 1) stop :: code (start + 1) ++
      optional greedy code width stop n (start + 1 + width)

/-- The code of an expression, when it starts at an address. A match ends by going on behind the
code. -/
def code : Expr → Nat → List Instr
  | .empty, _ => []
  | .oneOf s, _ => [.take s]
  | .assert a, _ => [.test a]
  | .seq a b, start => code a start ++ code b (start + width a)
  | .either a b, start =>
    let second := start + width a + 2
    .fork (start + 1) second :: code a (start + 1) ++
      .jump (second + width b) :: code b second
  | .group i a, start => .save (2 * i) :: code a (start + 1) ++ [.save (2 * i + 1)]
  | .repeated least (some most) greedy a, start =>
    let mark := start + least * width a
    let stop := mark + (most - least) * (width a + 1)
    copies (code a) (width a) least start ++
      optional greedy (code a) (width a) stop (most - least) mark
  | .repeated 0 none greedy a, start =>
    let onward := choice greedy (start + 1) (start + width a + 2)
    onward :: code a (start + 1) ++ [if a.nullable then onward else .jump start]
  | .repeated (least + 1) none greedy a, start =>
    let mark := start + least * width a
    copies (code a) (width a) least start ++ code a mark ++
      [choice greedy mark (mark + width a + 1)]

/-- The program of an expression. The whole match is kept in the first two slots. -/
def ofExpr (e : Expr) : Array Instr :=
  (code (.group 0 e) 0 ++ [Instr.accept]).toArray

/-- A thread: where it stands in the program, and the places that it has kept. -/
structure Thread where
  address : Nat
  slots : Array (Option Nat)
deriving Inhabited

/-- Follows threads up to instructions that take a character or accept, in order of preference. No
instruction is reached twice. `fuel` bounds the number of steps; each instruction asks for two at
most. -/
def follow (program : Array Instr) (before after : Option Char) (place : Nat) :
    Nat → List Thread → Array Bool → Array Thread → Array Thread
  | 0, _, _, reached => reached
  | _, [], _, reached => reached
  | fuel + 1, t :: waiting, seen, reached =>
    if seen[t.address]?.getD true then follow program before after place fuel waiting seen reached
    else
      let seen := seen.setIfInBounds t.address true
      let go := fun more reached => follow program before after place fuel more seen reached
      match program[t.address]? with
      | some (.take _) | some Instr.accept => go waiting (reached.push t)
      | some (.test a) =>
        go (if a.holds before after then { t with address := t.address + 1 } :: waiting
          else waiting) reached
      | some (.fork a b) => go ({ t with address := a } :: { t with address := b } :: waiting) reached
      | some (.jump a) => go ({ t with address := a } :: waiting) reached
      | some (.save slot) =>
        go (⟨t.address + 1, t.slots.setIfInBounds slot (some place)⟩ :: waiting) reached
      | none => go waiting reached

/-- Whether the thread has matched. -/
def accepts (program : Array Instr) (t : Thread) : Bool :=
  match program[t.address]? with
  | some .accept => true
  | _ => false

/-- The thread after a character, if it takes that. -/
def advance (program : Array Instr) (c : Char) (t : Thread) : Option Thread :=
  match program[t.address]? with
  | some (.take s) => if s.contains c then some { t with address := t.address + 1 } else none
  | _ => none

/-- Runs threads on the rest of a text, and returns the slots of the preferred match. While there is
no match, a new thread starts at every place. -/
def run (program : Array Instr) (slots : Nat) :
    List Char → Option Char → Nat → List Thread → Option (Array (Option Nat)) →
      Option (Array (Option Nat))
  | rest, before, place, threads, best =>
    let threads := if best.isNone then threads ++ [⟨0, Array.replicate slots none⟩] else threads
    let reached := (follow program before rest.head? place (2 * program.size + threads.length + 1)
      threads (Array.replicate program.size false) #[]).toList
    let going := reached.takeWhile fun t => !accepts program t
    let best := (((reached.find? (accepts program)).map Thread.slots)).or best
    match rest with
    | [] => best
    | c :: rest =>
      if going.isEmpty && best.isSome then best
      else run program slots rest (some c) (place + 1) (going.filterMap (advance program c)) best

end Program

end JavaLint.Regex
