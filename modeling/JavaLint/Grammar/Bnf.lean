import JavaLint.Grammar.Rule
import Std.Data.HashMap

/-!
# Plain productions

The rules of a grammar are brought into the form that the tables are built from: numbered symbols
and productions that are plain sequences of steps. Tokens are numbered in the order in which the
rules first use them. A repetition becomes a symbol of its own that stands for one or more copies
of its part, as a binary tree of them; such symbols do not appear in the tree of a text.
-/

namespace JavaLint.Grammar

/-- How a symbol appears in the tree of a text. -/
structure Label where
  /-- The kind of its nodes. -/
  kind : String
  /-- Whether its nodes appear at all; otherwise their children take their place. -/
  visible : Bool
  /-- Whether its nodes count as named. -/
  named : Bool
deriving BEq, Repr, Inhabited

/-- A token with its appearance. -/
structure Terminal where
  label : Label
  lexeme : Lexeme
deriving Repr, Inhabited

/-- One symbol of a production, with the marks of its place. -/
structure Step where
  symbol : Nat
  precedence : Option Int
  assoc : Option Assoc
  rename : Option String
  field : Option String
deriving BEq, Repr, Inhabited

/-- A production. -/
structure Production where
  /-- The number of the nonterminal symbol that it derives. -/
  symbol : Nat
  steps : Array Step
  /-- Preference of trees that use the production. -/
  dynamic : Int
deriving BEq, Repr, Inhabited

/-- A nonterminal symbol. -/
structure Nonterminal where
  label : Label
  /-- Whether it stands for a repetition. -/
  repetition : Bool
deriving Repr, Inhabited

/-- A grammar as numbered symbols and plain productions. Symbol `0` is the end of the text, symbol
`1` the word token; the symbols from `terminals.size` on are nonterminal. -/
structure Bnf where
  terminals : Array Terminal
  nonterminals : Array Nonterminal
  productions : Array Production
  /-- The terminals that may stand anywhere. -/
  extras : List Nat
  /-- The symbol that a text has to be derived from. -/
  start : Nat
  /-- The terminals in the order in which the rules first use them. -/
  order : List Nat
  /-- Characters that may stand between tokens. -/
  blanks : Text.CharSet
deriving Inhabited

namespace Bnf

/-- Whether the symbol is a token. -/
def isTerminal (g : Bnf) (s : Nat) : Bool := s < g.terminals.size

/-- The nonterminal with the given symbol number. -/
def nonterminal? (g : Bnf) (s : Nat) : Option Nonterminal :=
  if s < g.terminals.size then none else g.nonterminals[s - g.terminals.size]?

/-- Whether the symbol stands for a repetition. -/
def isRepetition (g : Bnf) (s : Nat) : Bool := (g.nonterminal? s).any (·.repetition)

/-- How the symbol appears in trees. -/
def label (g : Bnf) (s : Nat) : Label :=
  if s < g.terminals.size then (g.terminals[s]?.map (·.label)).getD default
  else ((g.nonterminal? s).map (·.label)).getD default

end Bnf

/-! ### Tokens -/

/-- The tokens met so far, in order, each with the number of its uses. -/
abbrev TokenTable := Array (Lexeme × Nat)

/-- Counts a use of a token. -/
def TokenTable.use (table : TokenTable) (l : Lexeme) : TokenTable :=
  match table.findIdx? (·.1 == l) with
  | some i => table.modify i fun (l, n) => (l, n + 1)
  | none => table.push (l, 1)

/-- Counts the uses of tokens in a rule. -/
def TokenTable.useRule (table : TokenTable) (r : Rule Atom) : TokenTable :=
  r.atoms.foldl (fun t a => match a with
    | .token l => t.use l
    | .name _ => t) table

/-- A rule that is nothing but a token which no other rule uses gives the token its name. -/
def TokenTable.namedBy (table : TokenTable) (d : Definition) : Option Nat :=
  match d.rule with
  | .atom (.token l) =>
    match table.findIdx? (·.1 == l) with
    | some i =>
      if (table[i]?.map (·.2)) == some 1 ∧ (l.literal.isNone ∨ !d.name.startsWith "_") then some i
      else none
    | none => none
  | _ => none

/-! ### Repetitions -/

/-- The symbols made for repetitions so far. -/
structure Repetitions where
  /-- The number that the next symbol gets. -/
  next : Nat
  /-- The repeated parts with their symbols, the latest first. -/
  made : List (Rule Nat × Nat)

mutual

/-- Replaces every repetition in a rule by a symbol, the same symbol for the same part. -/
def expandRepetitions (r : Rule Nat) (st : Repetitions) : Rule Nat × Repetitions :=
  match r with
  | .blank => (.blank, st)
  | .atom s => (.atom s, st)
  | .seq rs => let (rs, st) := expandRepetitionsAll rs st; (.seq rs, st)
  | .choice rs => let (rs, st) := expandRepetitionsAll rs st; (.choice rs, st)
  | .marked m r => let (r, st) := expandRepetitions r st; (.marked m r, st)
  | .many1 r =>
    let (r, st) := expandRepetitions r st
    match st.made.find? (·.1 == r) with
    | some (_, s) => (.atom s, st)
    | none => (.atom st.next, ⟨st.next + 1, (r, st.next) :: st.made⟩)

/-- Replaces every repetition in several rules, from left to right. -/
def expandRepetitionsAll (rs : List (Rule Nat)) (st : Repetitions) :
    List (Rule Nat) × Repetitions :=
  match rs with
  | [] => ([], st)
  | r :: rs =>
    let (r, st) := expandRepetitions r st
    let (rs, st) := expandRepetitionsAll rs st
    (r :: rs, st)

end

/-! ### Alternatives -/

mutual

/-- The alternatives of a rule, none of which holds a choice. -/
def alternatives : Rule Nat → List (Rule Nat)
  | .seq rs => sequences [.blank] rs
  | .choice rs => alternativesAll rs
  | .marked m r => (alternatives r).map (.marked m)
  | r => [r]

/-- The alternatives of several rules, one after the other. -/
def alternativesAll : List (Rule Nat) → List (Rule Nat)
  | [] => []
  | r :: rs => alternatives r ++ alternativesAll rs

/-- The ways to continue each of the rules `heads` by alternatives of the rules that follow. -/
def sequences (heads : List (Rule Nat)) : List (Rule Nat) → List (Rule Nat)
  | [] => heads
  | r :: rs =>
    let options := alternatives r
    sequences (heads.flatMap fun h => options.map fun o => .seq [h, o]) rs

end

/-- A production under construction, and the marks that enclose the current place. -/
structure Flattening where
  steps : Array Step
  dynamic : Int

/-- The marks in force at a place: the innermost one of each sort. -/
structure Enclosing where
  precedence : Option Int := none
  assoc : Option Assoc := none
  rename : Option String := none
  field : Option String := none

/-- The marks in force inside a part with the mark `m`. -/
def Enclosing.enter (e : Enclosing) (m : Mark) : Enclosing :=
  ⟨m.precedence.or e.precedence, m.assoc.or e.assoc, m.rename.or e.rename, m.field.or e.field⟩

mutual

/-- Appends the steps of an alternative. The last step of a marked part that is not at the end of
the production has the precedence and the associativity of the place after the part; `atEnd` says
whether the part ends the production. The flag of the result says whether a step was added. -/
def flattenInto (r : Rule Nat) (e : Enclosing) (atEnd : Bool) (f : Flattening) :
    Flattening × Bool :=
  match r with
  | .seq rs => flattenAll rs e atEnd f
  | .marked m r =>
    let f := if f.dynamic.natAbs < m.dynamic.natAbs then { f with dynamic := m.dynamic } else f
    let (f, added) := flattenInto r (e.enter m) atEnd f
    if added && !atEnd then
      let f := if m.precedence.isSome then
          { f with steps := f.steps.modify (f.steps.size - 1) ({ · with precedence := e.precedence }) }
        else f
      let f := if m.assoc.isSome then
          { f with steps := f.steps.modify (f.steps.size - 1) ({ · with assoc := e.assoc }) }
        else f
      (f, added)
    else (f, added)
  | .atom s =>
    ({ f with steps := f.steps.push ⟨s, e.precedence, e.assoc, e.rename, e.field⟩ }, true)
  | _ => (f, false)

/-- Appends the steps of the parts of a sequence. -/
def flattenAll (rs : List (Rule Nat)) (e : Enclosing) (atEnd : Bool) (f : Flattening) :
    Flattening × Bool :=
  match rs with
  | [] => (f, false)
  | [r] => flattenInto r e atEnd f
  | r :: rs =>
    let (f, a) := flattenInto r e false f
    let (f, b) := flattenAll rs e atEnd f
    (f, a || b)

end

/-- The distinct productions of a rule. -/
def productionsOf (symbol : Nat) (r : Rule Nat) : List Production :=
  let all := (alternatives r).map fun r =>
    let (f, _) := flattenInto r {} true ⟨#[], 0⟩
    (⟨symbol, f.steps, f.dynamic⟩ : Production)
  (all.foldl (fun acc p => if acc.contains p then acc else p :: acc) []).reverse

/-! ### Inlined rules -/

/-- Puts the steps of an inlined production in the place of a step, whose marks they take over. -/
def substitute (place : Step) (inner : Array Step) : Array Step :=
  let inner := inner.map fun s =>
    { s with rename := place.rename.or s.rename, field := place.field.or s.field }
  inner.modify (inner.size - 1) fun s =>
    { s with precedence := s.precedence.or place.precedence, assoc := s.assoc.or place.assoc }

/-- The ways to write a list of steps with every inlined symbol replaced. -/
def inlineSteps (bodies : Nat → Option (List (Array Step))) : List Step → List (Array Step)
  | [] => [#[]]
  | s :: rest =>
    let tails := inlineSteps bodies rest
    match bodies s.symbol with
    | none => tails.map (#[s] ++ ·)
    | some options => options.flatMap fun o => tails.map (substitute s o ++ ·)

/-! ### The whole grammar -/

/-- Renames that hold wherever a symbol is used belong to the symbol: the kind of such a symbol. -/
def constantRename (productions : Array Production) (s : Nat) : Option String :=
  let uses := productions.toList.flatMap fun p => p.steps.toList.filter (·.symbol == s)
  match uses with
  | [] => none
  | u :: us => if us.all (·.rename == u.rename) then u.rename else none

/-- The grammar as numbered symbols and plain productions. -/
def Ruleset.toBnf (g : Ruleset) : Bnf :=
  let table := g.definitions.foldl (fun t d => TokenTable.useRule t d.rule) (#[] : TokenTable)
  let start := g.definitions.head?.map (·.name)
  let namedBy (d : Definition) : Option Nat :=
    if some d.name == start then none else table.namedBy d
  let tokenNames : Std.HashMap Nat String :=
    Std.HashMap.ofList (g.definitions.filterMap fun d => (namedBy d).map fun i => (i, d.name))
  let word := ((List.range table.size).find? fun i => tokenNames[i]? == some g.word).getD 0
  let tokenSymbol (i : Nat) : Nat := if i = word then 1 else if i < word then i + 2 else i + 1
  let terminal (i : Nat) : Terminal :=
    let l := (table[i]?.map (·.1)).getD default
    let label : Label := match tokenNames[i]?, l.literal with
      | some n, _ => ⟨n, !n.startsWith "_", !n.startsWith "_"⟩
      | none, some s => ⟨s, true, false⟩
      | none, none => ⟨"", false, false⟩
    ⟨label, l⟩
  let order := word :: (List.range table.size).filter (· ≠ word)
  let terminals : Array Terminal :=
    (⟨⟨"end", false, true⟩, ⟨.one .empty, none, 0, false⟩⟩ :: order.map terminal).toArray
  let rules := g.definitions.filter fun d => (namedBy d).isNone
  let ruleSymbols : Std.HashMap String Nat := Std.HashMap.ofList
    ((rules.zipIdx.map fun (d, i) => (d.name, terminals.size + i)) ++
      (g.definitions.filterMap fun d => (namedBy d).map fun i => (d.name, tokenSymbol i)))
  let symbolOf : Atom → Nat
    | .token l => tokenSymbol ((table.findIdx? (·.1 == l)).getD 0)
    | .name n => ruleSymbols[n]?.getD 0
  let bodies := rules.map fun d => d.rule.map symbolOf
  let (bodies, reps) := expandRepetitionsAll bodies ⟨terminals.size + rules.length, []⟩
  let ruleProductions := bodies.zipIdx.flatMap fun (r, i) => productionsOf (terminals.size + i) r
  let repProductions := reps.made.reverse.flatMap fun (r, s) =>
    productionsOf s (.choice [.seq [.atom s, .atom s], r])
  let all := ruleProductions ++ repProductions
  let inlinedSymbols := g.inlined.filterMap (ruleSymbols[·]?)
  let inlineBodies (s : Nat) : Option (List (Array Step)) :=
    if inlinedSymbols.contains s then
      some ((all.filter (·.symbol == s)).map (·.steps))
    else none
  let productions := ((all.filter fun p => !inlinedSymbols.contains p.symbol).flatMap fun p =>
    (inlineSteps inlineBodies p.steps.toList).map fun steps => { p with steps := steps }).toArray
  let labels := rules.map fun d => (d.name, g.groups.contains d.name)
  let nonterminals : List Nonterminal :=
    (labels.map fun (n, group) =>
      let visible := !n.startsWith "_" && !group
      ⟨⟨n, visible, visible || group⟩, false⟩) ++
    reps.made.map fun _ => ⟨⟨"", false, false⟩, true⟩
  let count := terminals.size + nonterminals.length
  let constant : Array (Option String) :=
    ((List.range count).map fun s => constantRename productions s).toArray
  let settle (s : Nat) (l : Label) : Label :=
    match constant[s]?.join with
    | some n => ⟨n, true, true⟩
    | none => l
  let keep (st : Step) : Step :=
    if (constant[st.symbol]?.join).isSome then { st with rename := none } else st
  { terminals := terminals.mapIdx fun i t => { t with label := settle i t.label }
    nonterminals := (nonterminals.zipIdx.map fun (n, i) =>
      { n with label := settle (terminals.size + i) n.label }).toArray
    productions := productions.map fun p => { p with steps := p.steps.map keep }
    extras := g.extras.filterMap (ruleSymbols[·]?)
    start := terminals.size
    order := 0 :: (List.range table.size).map tokenSymbol
    blanks := g.blanks }

end JavaLint.Grammar
