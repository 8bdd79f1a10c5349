import JavaLint.Grammar.Item

/-!
# The automaton of a grammar

States are sets of items with lookahead tokens, built from the start item by advancing over each
symbol. Two sets are one state only if both their items and all their lookahead tokens agree.
Where a token would allow several actions, precedence and associativity decide as far as they can;
what they leave open is kept, and tried side by side.
-/

namespace JavaLint.Grammar

/-- What can be done with a token. -/
inductive Action where
  /-- Take the token and go to the state. A shift that only continues a repetition, which a
  reduction continues as well, is marked. -/
  | shift (state : Nat) (repetition : Bool)
  /-- Take the token, which may stand anywhere, and stay. -/
  | shiftExtra
  /-- Combine the topmost trees by a production. -/
  | reduce (symbol count : Nat) (dynamic : Int) (production : Nat)
  /-- The text is complete. -/
  | accept
  /-- The token is unexpected everywhere; error recovery deals with it. -/
  | recover
deriving BEq, Repr, Inhabited

/-- A state: what to do with each token, and where to go after each nonterminal. -/
structure State where
  /-- The tokens with an action. -/
  tokens : TokenSet
  /-- The actions, by increasing token. -/
  actions : List (Nat × List Action)
  /-- The successors, by increasing nonterminal. -/
  gotos : List (Nat × Nat)
  /-- States with the same number have the same items, lookahead tokens aside. -/
  core : Nat
deriving Inhabited

/-- A set of items, each with the number of its lookahead set. The items are increasing. -/
abbrev Kernel := Array (Nat × Nat)

/-- A construction in progress. -/
structure Construction where
  /-- The lookahead sets met so far. -/
  sets : Array TokenSet
  setNumbers : Std.HashMap TokenSet Nat
  /-- The item sets of the states found so far. -/
  kernels : Array Kernel
  kernelNumbers : Std.HashMap Kernel Nat
  coreNumbers : Std.HashMap (Array Nat) Nat
  cores : Array Nat
  /-- The finished states. -/
  states : Array State

namespace Construction

/-- The number of a lookahead set. -/
def setNumber (c : Construction) (s : TokenSet) : Nat × Construction :=
  match c.setNumbers[s]? with
  | some n => (n, c)
  | none =>
    let n := c.sets.size
    (n, { c with sets := c.sets.push s, setNumbers := c.setNumbers.insert s n })

/-- The number of the state with an item set. -/
def stateNumber (c : Construction) (k : Kernel) : Nat × Construction :=
  match c.kernelNumbers[k]? with
  | some n => (n, c)
  | none =>
    let n := c.kernels.size
    let core := k.map (·.1)
    let coreNumber := (c.coreNumbers[core]?).getD c.coreNumbers.size
    (n, { c with
      kernels := c.kernels.push k
      kernelNumbers := c.kernelNumbers.insert k n
      coreNumbers := c.coreNumbers.insert core coreNumber
      cores := c.cores.push coreNumber })

end Construction

/-- Compares precedences, of which a missing one counts as zero. -/
def comparePrecedence (a b : Option Int) : Ordering := compare (a.getD 0) (b.getD 0)

/-- The reductions of a state on one token, with their common precedence. -/
structure Reductions where
  actions : List Action
  precedence : Option Int
  left : Bool
  right : Bool
  neither : Bool
  /-- The symbols of the reductions. -/
  symbols : List Nat
deriving Inhabited

/-- Adds a reduction: of different precedences only the highest stays. -/
def Reductions.add (r : Option Reductions) (item : Item) (action : Action) : Reductions :=
  let own : Reductions := {
    actions := [action], precedence := item.precedence
    left := item.assoc == some .left, right := item.assoc == some .right
    neither := item.assoc.isNone, symbols := [item.symbol] }
  match r with
  | none => own
  | some r =>
    match comparePrecedence item.precedence r.precedence with
    | .gt => own
    | .lt => r
    | .eq => {
      actions := r.actions ++ [action], precedence := item.precedence
      left := r.left || own.left, right := r.right || own.right
      neither := r.neither || own.neither, symbols := r.symbols ++ own.symbols }

/-- Decides between shifting a token and the reductions on it. `competing` are the items that
would shift it, with `count` the number of trees in them already. A repetition that could be
continued by either is left to its reductions. A higher precedence wins, and at equal precedence
the associativity of the reductions decides, if they agree on one. -/
def resolve (isRepetition : Nat → Bool) (target : Nat) (r : Reductions) (competing : List Item) :
    List Action :=
  let shift := Action.shift target false
  let symbols := r.symbols ++ competing.map (·.symbol)
  match symbols with
  | s :: rest =>
    if isRepetition s && rest.all (· == s) then r.actions ++ [.shift target true]
    else
      let more := competing.any fun i => comparePrecedence i.precedence r.precedence == .gt
      let less := competing.any fun i => comparePrecedence i.precedence r.precedence == .lt
      if more && !less then [shift]
      else if less && !more then r.actions
      else if !more && !less then
        match r.left, r.neither, r.right with
        | true, false, false => r.actions
        | false, false, true => [shift]
        | _, _, _ => r.actions ++ [shift]
      else r.actions ++ [shift]
  | [] => r.actions ++ [shift]

/-- Sorts items and unites the lookahead sets of equal ones. -/
def collect (found : Array (Nat × TokenSet)) : Array (Nat × TokenSet) :=
  let sorted := found.qsort fun a b => a.1 < b.1
  sorted.foldl (fun acc e => match acc.back? with
    | some (i, s) => if i = e.1 then acc.pop.push (i, s.union e.2) else acc.push e
    | none => acc.push e) #[]

/-- Numbers the lookahead sets of an item set. -/
def Construction.kernelOf (c : Construction) (items : Array (Nat × TokenSet)) :
    Kernel × Construction :=
  items.foldl (fun (k, c) (i, s) => let (n, c) := c.setNumber s; (k.push (i, n), c)) (#[], c)

/-- The nonterminals that may start in an item set, each with the tokens that may follow it. -/
def closure (terminalCount : Nat) (t : ItemTable) (items : Array (Nat × TokenSet)) :
    Array TokenSet :=
  items.foldl (fun acc (i, lookahead) =>
    match (t.items[i]?).getD default with
    | { next := some s, follow := follow, .. } =>
      if s < terminalCount then acc
      else
        let after := follow.getD lookahead
        ((t.leftmost[s - terminalCount]?).getD #[]).foldl (fun acc (m, tokens, through) =>
          acc.modify m fun old =>
            old.union (if through then tokens.union after else tokens)) acc
    | _ => acc) (Array.replicate t.initial.size .empty)

/-- The item sets reached over each symbol. -/
def successors (symbolCount : Nat) (t : ItemTable) (items : Array (Nat × TokenSet))
    (following : Array TokenSet) : Array (Array (Nat × TokenSet)) :=
  let add := fun (acc : Array (Array (Nat × TokenSet))) (i : Nat) (lookahead : TokenSet) =>
    match (t.items[i]?).getD default with
    | { next := some s, successor := j, .. } => acc.modify s (·.push (j, lookahead))
    | _ => acc
  let kernelPart := items.foldl (fun acc (i, s) => add acc i s) (Array.replicate symbolCount #[])
  following.zipIdx.foldl (fun acc (s, n) =>
    if s.isEmpty then acc
    else ((t.initial[n]?).getD #[]).foldl (fun acc i => add acc i s) acc) kernelPart

/-- The reductions of an item set, token by token. -/
def reductionsOf (terminalCount : Nat) (t : ItemTable) (items : Array (Nat × TokenSet)) :
    Array (Option Reductions) :=
  items.foldl (fun acc (i, lookahead) =>
    let item := (t.items[i]?).getD default
    if item.next.isSome then acc
    else
      let action :=
        if item.symbol = terminalCount + t.initial.size then .accept
        else .reduce item.symbol item.dot item.dynamic item.production
      (lookahead.toList terminalCount).foldl (fun acc token =>
        acc.modify token fun r => some (Reductions.add r item action)) acc)
    (Array.replicate terminalCount none)

/-- Completes one state and finds its successors. -/
def expand (g : Bnf) (t : ItemTable) (c : Construction) (n : Nat) : Construction :=
  let terminalCount := g.terminals.size
  let symbolCount := terminalCount + g.nonterminals.size
  let items := ((c.kernels[n]?).getD #[]).map fun (i, s) => (i, (c.sets[s]?).getD .empty)
  let following := closure terminalCount t items
  let found := successors symbolCount t items following
  let emptyItems := following.zipIdx.flatMap fun (s, m) =>
    if s.isEmpty then #[]
    else (((t.initial[m]?).getD #[]).filter fun i =>
      ((t.items[i]?).getD default).next.isNone).map fun i => (i, s)
  let reductions := reductionsOf terminalCount t (items ++ emptyItems)
  let targets := fun (c : Construction) (symbols : List Nat) =>
    symbols.foldl (fun (acc : Array (Nat × Nat) × Construction) s =>
      let (out, c) := acc
      let items := (found[s]?).getD #[]
      if items.isEmpty then (out, c)
      else
        let (k, c) := c.kernelOf (collect items)
        let (m, c) := c.stateNumber k
        (out.push (s, m), c)) (#[], c)
  let (shifts, c) := targets c g.order
  let (gotos, c) := targets c ((List.range g.nonterminals.size).map (· + terminalCount))
  let shiftTo := shifts.foldl (fun (acc : Array (Option Nat)) (s, m) =>
    acc.setIfInBounds s (some m)) (Array.replicate terminalCount none)
  let started := items.toList.filterMap fun (i, _) =>
    let item := (t.items[i]?).getD default
    if 0 < item.dot && item.next.isSome then some item else none
  let actionsOn := fun token =>
    match (shiftTo[token]?).join, (reductions[token]?).join with
    | none, none => if g.extras.contains token then [Action.shiftExtra] else []
    | some m, none => [.shift m false]
    | none, some r => r.actions
    | some m, some r =>
      let competing := started.filter fun item => item.next.any fun s =>
        ((t.first[s]?).getD .empty).contains token
      resolve g.isRepetition m r competing
  let entries := (List.range terminalCount).filterMap fun token =>
    match actionsOn token with
    | [] => none
    | actions => some (token, actions)
  { c with states := c.states.push {
      tokens := entries.foldl (fun s e => s.insert e.1) .empty
      actions := entries, gotos := gotos.toList
      core := (c.cores[n]?).getD 0 } }

/-- Completes states in the order in which they were found, until none is left or `fuel` is
used up. -/
def expandAll (g : Bnf) (t : ItemTable) : (fuel : Nat) → Nat → Construction → Construction
  | 0, _, c => c
  | fuel + 1, n, c =>
    if n < c.kernels.size then expandAll g t fuel (n + 1) (expand g t c n) else c

/-- Numbers of states fit into sixteen bits. -/
def stateLimit : Nat := 65536

/-- The states of a grammar; number `0` is kept for error recovery and number `1` is the start. -/
def canonicalStates (g : Bnf) (t : ItemTable) : Array State :=
  let c : Construction := {
    sets := #[], setNumbers := {}, kernels := #[#[]], kernelNumbers := {}, coreNumbers := {}
    cores := #[0], states := #[default] }
  let (s, c) := c.setNumber (.single 0)
  let (_, c) := { c with coreNumbers := c.coreNumbers.insert #[] 0 }.stateNumber #[(t.start, s)]
  (expandAll g t stateLimit 1 c).states

end JavaLint.Grammar
