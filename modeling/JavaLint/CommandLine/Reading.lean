import JavaLint.CommandLine.Refusal
import JavaLint.CommandLine.Similarity

/-!
# Reading command lines

The words of a command line are read from left to right. Flags and other words are told apart as they
come, but values are looked at only when the next flag or the next other word comes, or at the end. So
of two faults an unknown flag is told before an unfit value directly in front of it.
-/

namespace JavaLint.CommandLine

/-- What values are given to. -/
inductive Target where
  | flag (f : Flag)
  | operand (o : Operand)
deriving DecidableEq, Repr, Inhabited

namespace Target

/-- A target as it is shown to people. -/
def shown : Target → String
  | flag f => f.shown
  | operand o => o.shown

/-- What its values have to be. -/
def kind : Target → ValueKind
  | flag f => (f.value.map (·.kind)).getD .text
  | operand _ => .path

/-- The flag, if it is one. -/
def flag? : Target → Option Flag
  | flag f => some f
  | operand _ => none

end Target

/-- What is known of a level when some of its words have been read. -/
structure Progress where
  /-- The targets with their values, in the order in which they came first. -/
  given : List (Target × List String)
  /-- A target whose values have not been looked at. -/
  pending : Option (Target × List String)
deriving DecidableEq, Repr, Inhabited

namespace Progress

/-- Nothing has been read. -/
def start : Progress := ⟨[], none⟩

/-- The values of a target. -/
def valuesOf (p : Progress) (t : Target) : List String := (p.given.lookup t).getD []

/-- Adds a value to a target, which is put at the end if it is new. -/
def add (t : Target) (value : String) : List (Target × List String) → List (Target × List String)
  | [] => [(t, [value])]
  | (u, vs) :: rest => if u = t then (u, vs ++ [value]) :: rest else (u, vs) :: add t value rest

/-- The flags that have values. -/
def flags (p : Progress) : List Flag := p.given.filterMap fun (t, _) => t.flag?

/-- Whether other words have been looked at. -/
def hasWords (p : Progress) : Bool := p.given.any fun (t, _) => t.flag?.isNone

/-- Looks at values one after the other. -/
def accept (l : Level) (t : Target) (p : Progress) : List String → Progress × Option Stop
  | [] => (p, none)
  | v :: rest =>
    match t.kind.faultOf? v with
    | none => accept l t { p with given := add t v p.given } rest
    | some fault =>
      let complaint := match fault with
        | .absent => .valueLacking t.shown
        | .unfit reason => .valueUnfit v t.shown reason
      ({ p with given := if p.given.any (·.1 == t) then p.given else p.given ++ [(t, [])] },
        some (.refused (.of l complaint none)))

/-- Looks at all values of a target. A flag is given once. -/
def give (l : Level) (p : Progress) (t : Target) (values : List String) :
    Progress × Option Stop :=
  if values.isEmpty then (p, some (.refused (.of l (.valueLacking t.shown) none)))
  else if t.flag?.isSome && p.given.any (·.1 == t) then
    ({ p with given := p.given.filter (·.1 != t) },
      some (.refused (.of l (.repeated t.shown) (some l.plainUsage))))
  else accept l t p values

/-- Looks at the values that are pending. Where one is refused, what was known up to there stays. -/
def settle (l : Level) (p : Progress) : Progress × Option Stop :=
  match p.pending with
  | none => (p, none)
  | some (t, values) => give l { p with pending := none } t values

/-- Looks at the values that are pending, of which none may be refused. -/
def settled (l : Level) (p : Progress) : Except Stop Progress :=
  match p.settle l with
  | (p, none) => .ok p
  | (_, some stop) => .error stop

/-- Whether the next word is the value of a flag. -/
def awaits (p : Progress) : Bool :=
  match p.pending with
  | some (.flag _, []) => true
  | _ => false

/-- Adds a word that is neither a flag nor the value of one. -/
def addWord (l : Level) (p : Progress) (o : Operand) (word : String) : Except Stop Progress :=
  match p.pending with
  | some (.operand _, words) => .ok { p with pending := some (.operand o, words ++ [word]) }
  | _ => do
    let p ← p.settled l
    pure { p with pending := some (.operand o, [word]) }

/-- A flag comes, with its value if that is attached to it. -/
def addFlag (l : Level) (p : Progress) (f : Flag) (attached : Option String) :
    Except Stop Progress := do
  let p ← p.settled l
  match f.value, attached with
  | none, _ => throw (.help l)
  | some _, none => pure { p with pending := some (.flag f, []) }
  | some _, some v =>
    match p.give l (.flag f) [v] with
    | (p, none) => pure p
    | (_, some stop) => throw stop

end Progress

namespace Level

/-- The flags that are written with two hyphens. -/
def longNames (l : Level) : List String := l.flags.map (·.long)

/-- How to write a word that looks like a flag where other words stand. -/
def quotingTip (l : Level) (word : String) : List String :=
  if l.operand.isSome then [s!"to pass '{word}' as a value, use '-- {word}'"] else []

end Level

namespace Grammar

/-- The command, named among the words that follow, that has the flag which was meant. -/
def similarBelow? (g : Grammar) (name : String) (rest : List String) : Option (String × String) :=
  let found := g.below.filterMap fun (command, level) => do
    let flag ← (similarWords name level.longNames).getLast?
    let place ← rest.findIdx? (· == command)
    pure (place, command, flag)
  (found.foldl (fun best x => match best with
    | some b => if x.1 < b.1 then some x else best
    | none => some x) none).map (·.2)

/-- The refusal of a flag that is not known. `rest` holds the words behind it, and `commands` says
whether commands may follow. -/
def unknownFlag (g : Grammar) (l : Level) (commands : Bool) (p : Progress) (name : String)
    (rest : List String) : Stop :=
  let p := (p.settle l).1
  let word := "--" ++ name
  match (similarWords name l.longNames).getLast? with
  | some similar =>
    let meant := (l.flags.find? fun f => f.long == similar).toList.filter fun f =>
      !p.flags.contains f
    .refused (.of l (.unexpected word [s!"a similar argument exists: '--{similar}'"])
      (some (l.usage (p.flags ++ meant) p.hasWords)))
  | none =>
    let usage := some (l.usage p.flags p.hasWords)
    match if commands then g.similarBelow? name rest else none with
    | some (command, flag) =>
      .refused (.of l (.unexpected word [s!"'{command} --{flag}' exists"]) usage)
    | none => .refused (.of l (.unexpected word (l.quotingTip word)) usage)

/-- A word with two hyphens comes. -/
def readLong (g : Grammar) (l : Level) (commands : Bool) (p : Progress) (word : List Char)
    (rest : List String) : Except Stop Progress :=
  let name := String.ofList (word.takeWhile (· != '='))
  let attached := match word.dropWhile (· != '=') with
    | [] => none
    | _ :: value => some (String.ofList value)
  match l.flags.find? fun f => f.long == name with
  | none => .error (g.unknownFlag l commands p name rest)
  | some f =>
    match f.value, attached with
    | none, some v =>
      .error (.refused (.of l (.valueUnneeded v f.shown) (some (l.usage (p.flags ++ [f]) false))))
    | _, _ => p.addFlag l f attached

/-- A word with one hyphen comes: the letter of a flag, and what is attached to it. -/
def readShort (l : Level) (p : Progress) (letter : Char) (attached : List Char) :
    Except Stop Progress :=
  match l.flags.find? fun f => f.short == some letter with
  | none =>
    let word := String.ofList ['-', letter]
    .error (.refused (.of l (.unexpected word (l.quotingTip word)) (some l.plainUsage)))
  | some f => p.addFlag l f (match attached with
    | [] => none
    | '=' :: value => some (String.ofList value)
    | value => some (String.ofList value))

/-- The refusal of a word that has no place at a level. -/
def misplaced (l : Level) (behindHyphens : Bool) (word : String) : Stop :=
  let names := l.commands.map (·.1)
  let complaint :=
    if behindHyphens && names.contains word then
      .unexpected word [s!"subcommand '{word}' exists; to use it, remove the '--' before it"]
    else if names.isEmpty then .unexpected word []
    else .unknownCommand word (similarWords word names)
  .refused (.of l complaint (some l.plainUsage))

/-- Reads the words of a level, up to the name of a command with the words behind it. -/
def readLevel (g : Grammar) (l : Level) (behindHyphens : Bool) (p : Progress) :
    List String → Except Stop (Progress × Option (String × List String))
  | [] => .ok (p, none)
  | word :: rest =>
    let plain := fun (p : Progress) =>
      match l.operand with
      | some o => p.addWord l o word
      | none => .error (misplaced l behindHyphens word)
    if behindHyphens then do g.readLevel l true (← plain p) rest
    else if !p.awaits && (l.commands.any fun c => c.1 == word) then .ok (p, some (word, rest))
    else match word.toList with
      | ['-', '-'] => g.readLevel l true p rest
      | '-' :: '-' :: long => do
        g.readLevel l false (← g.readLong l (!l.commands.isEmpty) p long rest) rest
      | '-' :: letter :: attached => do
        g.readLevel l false (← readShort l p letter attached) rest
      | _ =>
        match p.pending with
        | some (.flag f, []) =>
          g.readLevel l false { p with pending := some (.flag f, [word]) } rest
        | _ => do g.readLevel l false (← plain p) rest

/-- The end of a level: all values are looked at, and the words that have to be there are. -/
def finish (l : Level) (p : Progress) : Except Stop Progress := do
  let p ← p.settled l
  match l.operand with
  | some o =>
    if o.demanded && !p.hasWords then
      throw (.refused (.of l (.operandLacking o.shown) (some (l.usage p.flags true))))
    else pure p
  | none => pure p

/-- The name of the command that tells the help of other commands. -/
def helpName : String := "help"

/-- The level whose help is asked for by the words behind that name. -/
def helpFor (g : Grammar) : List String → Stop
  | [] => .help g.top
  | name :: rest =>
    match g.below.lookup name with
    | none => .refused (.of g.top (.unknownCommand name []) (some g.top.plainUsage))
    | some l =>
      match rest with
      | [] => .help l
      | word :: _ => .refused (.of l (.unknownCommand word []) (some l.plainUsage))

/-- Reads a command line: the words of the program, the name of the command, and its words. -/
def read (g : Grammar) (words : List String) : Except Stop (Progress × String × Progress) := do
  match ← g.readLevel g.top false .start words with
  | (p, none) =>
    let p ← p.settled g.top
    if p.given.isEmpty then throw (.nothing g.top)
    else throw (.refused (.of g.top (.commandLacking g.top.title (g.top.commands.map (·.1)))
      (some g.top.plainUsage)))
  | (p, some (name, rest)) =>
    if name = helpName then throw (g.helpFor rest)
    match g.below.lookup name with
    | none => throw (misplaced g.top false name)
    | some l =>
      let (below, _) ← g.readLevel l false .start rest
      let below ← finish l below
      pure (← p.settled g.top, name, below)

end Grammar

end JavaLint.CommandLine
