import JavaLint.Grammar.Bnf
import JavaLint.Grammar.TokenSet

/-!
# Items

An item is a production with a place in it. Two items that agree on all that is still to come, and
on the marks of what has been passed, behave alike and count as one. The items of a grammar are
numbered once and for all, in the order in which competing reductions are tried; what an automaton
needs to know of an item is looked up by its number.
-/

namespace JavaLint.Grammar

deriving instance Hashable for Assoc
deriving instance Hashable for Step

/-- What identifies an item. -/
structure ItemKey where
  symbol : Nat
  dot : Nat
  dynamic : Int
  length : Nat
  precedence : Option Int
  assoc : Option Assoc
  /-- Marks of the steps passed; the symbol counts only after a hidden child with roles. -/
  passed : List (Option String × Option String × Nat)
  ahead : List Step
deriving BEq, Hashable, Inhabited

/-- What the automaton needs to know of an item. -/
structure Item where
  /-- The symbol that the production derives. -/
  symbol : Nat
  /-- The production, by number; one past the last stands for the whole text. -/
  production : Nat
  /-- How many steps have been passed. -/
  dot : Nat
  dynamic : Int
  precedence : Option Int
  assoc : Option Assoc
  /-- The symbol of the next step, if one remains. -/
  next : Option Nat
  /-- The item after that step. -/
  successor : Nat
  /-- The tokens with which the step after the next one may start, if there is one. -/
  follow : Option TokenSet
deriving Inhabited

/-- The items of a grammar, with what depends on the grammar alone. -/
structure ItemTable where
  items : Array Item
  /-- For each nonterminal, counted from zero, the items at the start of its productions. -/
  initial : Array (Array Nat)
  /-- The item that starts the whole text. -/
  start : Nat
  /-- The tokens with which a symbol may start. -/
  first : Array TokenSet
  /-- The tokens with which a symbol may end. -/
  last : Array TokenSet
  /-- For each nonterminal the nonterminals that may stand at its left end, each with tokens that
  may follow it there and whether what follows the whole may follow it too. -/
  leftmost : Array (Array (Nat × TokenSet × Bool))
deriving Inhabited

/-- Unites sets along edges until nothing changes; `fuel` rounds are enough when it is the number
of symbols. -/
def propagate (edges : List (Nat × Nat)) : (fuel : Nat) → Array TokenSet → Array TokenSet
  | 0, sets => sets
  | fuel + 1, sets =>
    let step := fun (acc : Array TokenSet × Bool) (e : Nat × Nat) =>
      let (sets, changed) := acc
      let old := (sets[e.1]?).getD .empty
      let new := old.union ((sets[e.2]?).getD .empty)
      if new = old then (sets, changed) else (sets.setIfInBounds e.1 new, true)
    let (sets, changed) := edges.foldl step (sets, false)
    if changed then propagate edges fuel sets else sets

/-- For each symbol the tokens at one end, where `pick` selects the step at that end. -/
def endSets (g : Bnf) (pick : Production → Option Step) : Array TokenSet :=
  let count := g.terminals.size + g.nonterminals.size
  let base := (Array.range count).map fun s =>
    if g.isTerminal s then TokenSet.single s else .empty
  let edges := g.productions.toList.filterMap fun p => (pick p).map fun s => (p.symbol, s.symbol)
  propagate edges count base

/-- Whether the nodes of a symbol are left out of trees while their children have roles there. -/
def hidesRoles (g : Bnf) : Array Bool :=
  let count := g.terminals.size + g.nonterminals.size
  let hidden := fun s => !g.isTerminal s && !(g.label s).visible
  let has := fun (sets : Array Bool) (p : Production) =>
    p.steps.any fun st => st.field.isSome || (hidden st.symbol && (sets[st.symbol]?).getD false)
  let round := fun (sets : Array Bool) => g.productions.foldl (fun sets p =>
    if has sets p then sets.setIfInBounds p.symbol true else sets) sets
  let all := (List.range 12).foldl (fun sets _ => round sets) (Array.replicate count false)
  all.mapIdx fun s b => b && hidden s

/-- The key of the item at a place of a production. -/
def itemKey (hides : Array Bool) (p : Production) (dot : Nat) : ItemKey :=
  let steps := p.steps.toList
  let passed := steps.take dot
  let inherits := passed.any fun st => (hides[st.symbol]?).getD false
  let previous := if dot = 0 then none else p.steps[dot - 1]?
  { symbol := p.symbol, dot, dynamic := p.dynamic, length := p.steps.size
    precedence := previous.bind (·.precedence)
    assoc := previous.bind (·.assoc)
    passed := passed.map fun st => (st.rename, st.field, if inherits then st.symbol else 0)
    ahead := steps.drop dot }

/-- The order of items: by progress, then by symbol, preference, length and precedence. -/
def ItemKey.before (a b : ItemKey) : Bool :=
  let assocRank : Option Assoc → Nat
    | none => 0
    | some .left => 1
    | some .right => 2
  let level : Option Int → Int
    | none => -1000
    | some n => n
  if a.dot ≠ b.dot then a.dot < b.dot
  else if a.symbol ≠ b.symbol then a.symbol < b.symbol
  else if a.dynamic ≠ b.dynamic then a.dynamic < b.dynamic
  else if a.length ≠ b.length then a.length < b.length
  else if level a.precedence ≠ level b.precedence then level a.precedence < level b.precedence
  else assocRank a.assoc ≤ assocRank b.assoc

/-- The nonterminals at the left end of a nonterminal, found by following first steps; `fuel`
bounds the number of times that an entry grows. -/
def leftmostOf (steps : Array (List (Nat × Option TokenSet))) :
    (fuel : Nat) → List Nat → Array (Option (TokenSet × Bool)) →
      Array (Option (TokenSet × Bool))
  | 0, _, known => known
  | _, [], known => known
  | fuel + 1, n :: work, known =>
    match (known[n]?).join with
    | none => leftmostOf steps fuel work known
    | some (tokens, through) =>
      let visit := fun (acc : List Nat × Array (Option (TokenSet × Bool)))
          (e : Nat × Option TokenSet) =>
        let (work, known) := acc
        let (addTokens, addThrough) := match e.2 with
          | some follow => (follow, false)
          | none => (tokens, through)
        match (known[e.1]?).join with
        | none => (e.1 :: work, known.setIfInBounds e.1 (some (addTokens, addThrough)))
        | some (t, b) =>
          let t' := t.union addTokens
          let b' := b || addThrough
          if t' = t && b' == b then (work, known)
          else (e.1 :: work, known.setIfInBounds e.1 (some (t', b')))
      let (work, known) := ((steps[n]?).getD []).foldl visit (work, known)
      leftmostOf steps fuel work known

/-- The items of a grammar. -/
def ItemTable.ofBnf (g : Bnf) : ItemTable :=
  let terminalCount := g.terminals.size
  let count := terminalCount + g.nonterminals.size
  let first := endSets g (·.steps[0]?)
  let last := endSets g fun p => p.steps.back?
  let hides := hidesRoles g
  let whole : Production := ⟨count, #[⟨g.start, none, none, none, none⟩], 0⟩
  let productions := g.productions.push whole
  let places := productions.toList.zipIdx.flatMap fun (p, i) =>
    (List.range (p.steps.size + 1)).map fun dot => (itemKey hides p dot, i)
  let distinct := places.foldl (fun (acc : Std.HashMap ItemKey Nat × List (ItemKey × Nat)) (k, i) =>
    if acc.1.contains k then acc else (acc.1.insert k i, (k, i) :: acc.2)) ({}, [])
  let sorted := distinct.2.reverse.mergeSort fun a b => a.1.before b.1
  let number : Std.HashMap ItemKey Nat :=
    Std.HashMap.ofList (sorted.zipIdx.map fun ((k, _), i) => (k, i))
  let follow := fun (st : Option Step) => st.map fun st => (first[st.symbol]?).getD .empty
  let items := (sorted.map fun (k, i) =>
    let p := (productions[i]?).getD default
    let next := p.steps[k.dot]?
    { symbol := k.symbol, production := i, dot := k.dot, dynamic := k.dynamic
      precedence := k.precedence, assoc := k.assoc
      next := next.map (·.symbol)
      successor := if next.isSome then number[itemKey hides p (k.dot + 1)]?.getD 0 else 0
      follow := follow p.steps[k.dot + 1]? : Item }).toArray
  let initialOf := fun n => ((productions.toList.filter (·.symbol == terminalCount + n)).map fun p =>
    number[itemKey hides p 0]?.getD 0).toArray
  let initial := (Array.range g.nonterminals.size).map initialOf
  let steps := (Array.range g.nonterminals.size).map fun n =>
    (productions.toList.filter (·.symbol == terminalCount + n)).filterMap fun p =>
      match p.steps[0]? with
      | some st =>
        if st.symbol < terminalCount then none
        else some (st.symbol - terminalCount, follow p.steps[1]?)
      | none => none
  let fuel := 64 * count * count
  let leftmost := (Array.range g.nonterminals.size).map fun n =>
    let known := leftmostOf steps fuel [n]
      ((Array.replicate g.nonterminals.size none).setIfInBounds n (some (.empty, true)))
    (known.zipIdx.filterMap fun (e, m) => e.map fun (t, b) => (m, t, b))
  { items, initial, first, last, leftmost
    start := number[itemKey hides whole 0]?.getD 0 }

end JavaLint.Grammar
