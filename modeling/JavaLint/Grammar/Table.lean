import JavaLint.Grammar.Automaton
import JavaLint.Grammar.Clash

/-!
# The tables of a grammar

The states of the automaton are many because they keep every difference of lookahead. States with
the same items are merged here where no token tells them apart: where both have an action for a
token the actions agree, and a token that only one of them allows does not clash with those of the
other. What a parser looks up in the merged states is kept in tables.
-/

namespace JavaLint.Grammar

/-- Whether the lists of actions agree when states stand for their groups. -/
def sameActions (groupOf : Array Nat) : List Action → List Action → Bool
  | [], [] => true
  | .shift s a :: xs, .shift t b :: ys =>
    (groupOf[s]?).getD s == (groupOf[t]?).getD t && a == b && sameActions groupOf xs ys
  | x :: xs, y :: ys => x == y && sameActions groupOf xs ys
  | _, _ => false

/-- Whether two lists of actions by increasing token agree on common tokens. -/
def agree (groupOf : Array Nat) : List (Nat × List Action) → List (Nat × List Action) → Bool
  | [], _ => true
  | _, [] => true
  | (s, a) :: xs, (t, b) :: ys =>
    if s < t then agree groupOf xs ((t, b) :: ys)
    else if t < s then agree groupOf ((s, a) :: xs) ys
    else sameActions groupOf a b && agree groupOf xs ys
termination_by xs ys => xs.length + ys.length

/-- Whether a token that only one of two states allows clashes with the other's tokens. The end of
the text clashes with nothing, and the word token does not clash with keywords. -/
def intrudes (clashes : Clashes) (keywords : TokenSet) (count : Nat) (own other : TokenSet) :
    Bool :=
  let extra := (own.diff other).inter clashes.active
  !extra.isEmpty && (extra.toList count).any fun t =>
    let disturbed := (clashes.disturbs[t]?).getD .empty
    let disturbed := if t = 1 then disturbed.diff keywords
      else if keywords.contains t then disturbed.erase 1 else disturbed
    disturbed.meets other

/-- Whether some token tells two states with the same items apart. -/
def conflicting (clashes : Clashes) (keywords : TokenSet) (count : Nat) (groupOf : Array Nat)
    (a b : State) : Bool :=
  !agree groupOf a.actions b.actions ||
    (a.tokens ≠ b.tokens &&
      (intrudes clashes keywords count a.tokens b.tokens ||
        intrudes clashes keywords count b.tokens a.tokens))

/-- The states that a state leads to, by symbol. -/
def targetsOf (s : State) : List (Nat × Nat) :=
  (s.actions.filterMap fun (t, actions) => match actions.getLast? with
    | some (.shift m _) => some (t, m)
    | _ => none) ++ s.gotos

/-- Whether two lists of targets by increasing symbol lie in different groups on a common
symbol. -/
def targetsDiffer (groupOf : Array Nat) : List (Nat × Nat) → List (Nat × Nat) → Bool
  | [], _ => false
  | _, [] => false
  | (s, m) :: xs, (t, n) :: ys =>
    if s < t then targetsDiffer groupOf xs ((t, n) :: ys)
    else if t < s then targetsDiffer groupOf ((s, m) :: xs) ys
    else (groupOf[m]?).getD m != (groupOf[n]?).getD n || targetsDiffer groupOf xs ys
termination_by xs ys => xs.length + ys.length

/-- The members of a group that stay and those that leave it: a member leaves when one that stays
and comes before it is separated from it. -/
def divide (separated : Nat → Nat → Bool) : (fuel : Nat) → List Nat → List Nat × List Nat
  | 0, members => (members, [])
  | _, [] => ([], [])
  | fuel + 1, m :: rest =>
    let (leaving, others) := rest.partition (separated m)
    let (stay, gone) := divide separated fuel others
    (m :: stay, leaving ++ gone)

/-- A partition of the states: the groups and the group of each state. -/
structure Partition where
  groups : Array (List Nat)
  groupOf : Array Nat
deriving Inhabited

/-- Divides the group `n` and those after it, with the groups made on the way. -/
def Partition.divideFrom (separated : Array Nat → Nat → Nat → Bool) :
    (fuel : Nat) → Nat → Partition → Bool → Partition × Bool
  | 0, _, p, changed => (p, changed)
  | fuel + 1, n, p, changed =>
    match p.groups[n]? with
    | none => (p, changed)
    | some members =>
      let (stay, gone) := divide (separated p.groupOf) members.length members
      if gone.isEmpty then divideFrom separated fuel (n + 1) p changed
      else
        let fresh := p.groups.size
        let gone := gone.mergeSort
        divideFrom separated fuel (n + 1)
          { groups := (p.groups.setIfInBounds n stay).push gone
            groupOf := gone.foldl (fun acc s => acc.setIfInBounds s fresh) p.groupOf } true

/-- Divides groups until none changes any more. -/
def Partition.settle (separated : Array Nat → Nat → Nat → Bool) :
    (fuel : Nat) → Partition → Partition
  | 0, p => p
  | fuel + 1, p =>
    let (p, changed) := p.divideFrom separated stateLimit 0 false
    if changed then settle separated fuel p else p

/-- The partition into states with the same items. -/
def Partition.byCore (states : Array State) : Partition :=
  let count := states.foldl (fun n s => max n (s.core + 1)) 0
  let groups := states.zipIdx.foldl (fun (acc : Array (List Nat)) (s, i) =>
    acc.modify s.core (i :: ·)) (Array.replicate count [])
  { groups := groups.map List.reverse, groupOf := states.map (·.core) }

/-- The partition of the states into those that a parser need not tell apart. -/
def mergeable (states : Array State) (clashes : Clashes) (keywords : TokenSet) (count : Nat) :
    Partition :=
  let state := fun i => (states[i]?).getD default
  let (p, _) := (Partition.byCore states).divideFrom
    (fun groupOf i j => conflicting clashes keywords count groupOf (state i) (state j))
    stateLimit 0 false
  let targets := states.map targetsOf
  let targetsAt := fun i => (targets[i]?).getD []
  p.settle (fun groupOf i j => targetsDiffer groupOf (targetsAt i) (targetsAt j)) stateLimit

/-- What a parser looks up. -/
structure Table where
  bnf : Bnf
  network : Network
  keywords : TokenSet
  /-- The actions, by state and token. -/
  actions : Array (Array (List Action))
  /-- The state after a nonterminal, by state and nonterminal; `0` where there is none. -/
  gotos : Array (Array Nat)
  /-- How tokens are read, by state. -/
  modes : Array ScanMode
  /-- The keywords by their texts. -/
  keywordOf : Std.HashMap String Nat
deriving Inhabited

/-- The tokens of one text that the word token would match too. -/
def keywordsOf (g : Bnf) (net : Network) : TokenSet :=
  let mode := net.mode [1]
  TokenSet.ofList ((List.range g.terminals.size).filter fun t =>
    match (g.terminals[t]?).bind (·.lexeme.literal) with
    | some s => match (net.scan mode s.toList 0).found with
      | some (_, 0, stop) => stop == s.length
      | _ => false
    | none => false)

/-- Merges the actions of states; the first has precedence. -/
def mergeActions (count : Nat) (members : List State) : Array (List Action) :=
  members.reverse.foldl (fun acc s =>
    s.actions.foldl (fun acc (t, actions) => acc.setIfInBounds t actions) acc)
    (Array.replicate count [])

/-- For each token the tokens that some state allows together with it. -/
def coincident (count : Nat) (states : Array State) : Array TokenSet :=
  states.foldl (fun acc s =>
    s.actions.foldl (fun acc (t, _) => acc.modify t (·.union s.tokens)) acc)
    (Array.replicate count .empty)

/-- The tokens that are read during error recovery: all but those that would swallow tokens which
nothing else outruns. -/
def recoveryTokens (count : Nat) (clashes : Clashes) (keywords : TokenSet)
    (together : Array TokenSet) : TokenSet :=
  let real := (List.range count).filter (· ≠ 0)
  let apart := fun i j => i ≠ j && !((together[i]?).getD .empty).contains j
  let plain := real.filter fun i =>
    !real.any fun j => apart i j && ((clashes.outruns[i]?).getD .empty).contains j
  let kept := real.filter fun i =>
    plain.contains i || keywords.contains i || i = 1 ||
      !plain.any fun t => apart i t && ((clashes.disturbs[i]?).getD .empty).contains t
  TokenSet.ofList (0 :: kept)

/-- The tables of a grammar. -/
def Table.ofGrammar (source : Ruleset) : Table :=
  let g := source.toBnf
  let count := g.terminals.size
  let items := ItemTable.ofBnf g
  let net := Network.ofBnf g
  let keywords := keywordsOf g net
  let clashes := Clashes.ofBnf g items net keywords
  let states := canonicalStates g items
  let recovery := recoveryTokens count clashes keywords (coincident count states)
  let p := mergeable states clashes keywords count
  let regroup := fun m => (p.groupOf[m]?).getD 0
  let renumber : Action → Action
    | .shift s r => .shift (regroup s) r
    | a => a
  let merged := p.groups.map fun members => members.map fun i => (states[i]?).getD default
  let actions := merged.mapIdx fun i members =>
    if i = 0 then
      (Array.range count).map fun t => if recovery.contains t then [Action.recover] else []
    else (mergeActions count members).map (·.map renumber)
  let gotos := merged.map fun members =>
    members.reverse.foldl (fun acc s =>
      s.gotos.foldl (fun acc (n, m) => acc.setIfInBounds (n - count) (regroup m)) acc)
      (Array.replicate g.nonterminals.size 0)
  let modes := actions.map fun row =>
    let allowed := (List.range count).filter fun t => !((row[t]?).getD []).isEmpty
    let words := allowed.any fun t => t = 1 || keywords.contains t
    net.mode ((if words then [1] else []) ++
      allowed.filter fun t => t ≠ 1 && !keywords.contains t)
  { bnf := g, network := net, keywords, actions, gotos, modes
    keywordOf := Std.HashMap.ofList ((keywords.toList count).filterMap fun t =>
      ((g.terminals[t]?).bind (·.lexeme.literal)).map fun s => (s, t)) }

namespace Table

variable (t : Table)

/-- The actions for a token in a state. -/
def actionsAt (state token : Nat) : List Action :=
  (((t.actions[state]?).getD #[])[token]?).getD []

/-- The state after a symbol, `0` if there is none: for a token the target of its last shift. -/
def next (state symbol : Nat) : Nat :=
  if symbol < t.bnf.terminals.size then
    match (t.actionsAt state symbol).getLast? with
    | some (.shift s _) => s
    | some .shiftExtra => state
    | _ => 0
  else (((t.gotos[state]?).getD #[])[symbol - t.bnf.terminals.size]?).getD 0

end Table

end JavaLint.Grammar
