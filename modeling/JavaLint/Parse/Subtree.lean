import JavaLint.Grammar.Table
import JavaLint.Parse.Input

/-!
# Trees on the stack of a parse

While a text is parsed its trees keep all symbols, also those that the finished tree leaves out.
Each tree carries sums over its parts by which competing parses are compared: the cost of the
errors in it, the preference of its productions, and the number of its visible nodes.
-/

namespace JavaLint.Parse

open JavaLint.Grammar

/-- The costs of errors. -/
structure ErrorCosts where
  /-- Each stretch of skipped text. -/
  recovery : Nat := 500
  /-- Each token that is missing. -/
  missing : Nat := 110
  /-- Each tree that is skipped. -/
  tree : Nat := 100
  /-- Each byte that is skipped. -/
  byte : Nat := 1
  /-- Each line break that is skipped. -/
  line : Nat := 30

/-- The costs in force. -/
def costs : ErrorCosts := {}

/-- What is known of a tree beside its parts. -/
structure Facts where
  symbol : Nat
  /-- Where the blanks before the tree start. -/
  lead : Nat
  start : Nat
  stop : Nat
  /-- Whether it stands between the parts of its parent without being one of them. -/
  extra : Bool := false
  /-- Whether it was put in for a token that the text lacks. -/
  missing : Bool := false
  /-- Whether its text starts with a keyword. -/
  keyword : Bool := false
  /-- The production that it was made by. -/
  production : Option Nat := none
  errorCost : Nat := 0
  /-- The sum of the preferences of its productions. -/
  dynamic : Int := 0
  visible : Bool := false
  /-- The number of visible nodes below it. -/
  visibleBelow : Nat := 0
  /-- The number of nodes that it has as children when it is visible. -/
  visibleChildren : Nat := 0
deriving Inhabited

/-- A tree on the stack. -/
inductive Subtree where
  | mk (facts : Facts) (children : List Subtree)
deriving Inhabited

namespace Subtree

/-- What is known of the tree. -/
def facts : Subtree → Facts
  | mk f _ => f

/-- Its parts. -/
def children : Subtree → List Subtree
  | mk _ cs => cs

/-- The symbol of the tree. -/
def symbol (t : Subtree) : Nat := t.facts.symbol

/-- Whether the tree is not a part of its parent. -/
def isExtra (t : Subtree) : Bool := t.facts.extra

/-- The tree, marked as extra or not. -/
def withExtra (t : Subtree) (extra : Bool) : Subtree :=
  match t with
  | mk f cs => mk { f with extra } cs

/-- The tree under another symbol. -/
def withSymbol (t : Subtree) (symbol : Nat) (visible : Bool) : Subtree :=
  match t with
  | mk f cs => mk { f with symbol, visible } cs

/-- The tree with a higher preference. -/
def addDynamic (t : Subtree) (n : Int) : Subtree :=
  match t with
  | mk f cs => mk { f with dynamic := f.dynamic + n } cs

mutual

/-- The first difference of two trees in the order of their symbols, sizes and parts. -/
def order : Subtree → Subtree → Ordering
  | mk f xs, mk g ys =>
    (compare f.symbol g.symbol).then ((compare xs.length ys.length).then (orderAll xs ys))

/-- The first difference of two lists of trees of equal length. -/
def orderAll : List Subtree → List Subtree → Ordering
  | x :: xs, y :: ys => (order x y).then (orderAll xs ys)
  | _, _ => .eq

end

end Subtree

/-- The symbol of skipped text in a tree. -/
def errorSymbol (t : Table) : Nat := t.bnf.terminals.size + t.bnf.nonterminals.size

/-- The symbol of skipped text while more may be skipped. -/
def skippedSymbol (t : Table) : Nat := errorSymbol t + 1

/-- Whether nodes of the symbol are visible. -/
def isVisible (t : Table) (symbol : Nat) : Bool :=
  symbol == errorSymbol t || (symbol != skippedSymbol t && (t.bnf.label symbol).visible)

/-- Whether the tree stands for skipped text. -/
def Subtree.isError (t : Table) (s : Subtree) : Bool := s.symbol == errorSymbol t

/-- Pairs each tree with the step of a production that it fills; extras fill none. -/
def withSteps : List Subtree → List Step → List (Subtree × Option Step)
  | [], _ => []
  | s :: ss, steps =>
    if s.isExtra then (s, none) :: withSteps ss steps
    else (s, steps.head?) :: withSteps ss steps.tail

/-- The steps of the production of a tree. -/
def stepsOf (t : Table) (production : Option Nat) : List Step :=
  match production.bind (t.bnf.productions[·]?) with
  | some p => p.steps.toList
  | none => []

/-- What one part adds to the sums of its parent. -/
def Facts.addChild (t : Table) (skipping : Bool) (f : Facts) (part : Subtree × Option Step) :
    Facts :=
  let (s, step) := part
  let g := s.facts
  let leaf := s.children.isEmpty
  let own := if g.symbol == skippedSymbol t then 0 else g.errorCost
  let skipped :=
    if skipping && !g.extra && !(s.isError t && leaf) then
      if g.visible then costs.tree else if leaf then 0 else costs.tree * g.visibleChildren
    else 0
  let shown := g.visible || (g.symbol != 0 && (step.bind (·.rename)).isSome)
  { f with
    errorCost := f.errorCost + own + skipped
    dynamic := f.dynamic + g.dynamic
    visibleBelow := f.visibleBelow + g.visibleBelow + if shown then 1 else 0
    visibleChildren := f.visibleChildren +
      if shown then 1 else if leaf then 0 else g.visibleChildren }

/-- The tree with the given parts. Without parts it is empty and stands at `place`. -/
def Subtree.ofParts (t : Table) (input : Input) (place symbol : Nat) (parts : List Subtree)
    (production : Option Nat) : Subtree :=
  let first := (parts.head?.map (·.facts)).getD { symbol, lead := place, start := place, stop := place }
  let stop := (parts.getLast?.map (·.facts.stop)).getD place
  let skipping := symbol == errorSymbol t || symbol == skippedSymbol t
  let base : Facts := {
    symbol, lead := first.lead, start := first.start, stop, production
    visible := isVisible t symbol }
  let sum := (withSteps parts (stepsOf t production)).foldl (Facts.addChild t skipping) base
  let sum := if skipping then
      { sum with errorCost := sum.errorCost + costs.recovery +
          costs.byte * input.bytesBetween sum.start sum.stop +
          costs.line * input.rowsBetween sum.start sum.stop }
    else sum
  .mk sum parts

/-- A token of the text. -/
def Subtree.token (t : Table) (symbol lead start stop : Nat) (keyword : Bool) : Subtree :=
  .mk { symbol, lead, start, stop, keyword, extra := symbol == 0, visible := isVisible t symbol } []

/-- A token that the text lacks at `place`. -/
def Subtree.missingToken (t : Table) (symbol place : Nat) : Subtree :=
  .mk { symbol, lead := place, start := place, stop := place, missing := true
        errorCost := costs.missing + costs.recovery, visible := isVisible t symbol } []

/-- The preferable one of two trees for the same text: whether it is the second. Fewer errors come
first, then the higher preference; of two trees with errors the later one is taken, and of two
without the lesser in the order of trees. -/
def prefersSecond (a b : Subtree) : Bool :=
  let f := a.facts
  let g := b.facts
  if f.errorCost ≠ g.errorCost then g.errorCost < f.errorCost
  else if f.dynamic ≠ g.dynamic then f.dynamic < g.dynamic
  else if 0 < f.errorCost then true
  else a.order b == .gt

/-- Splits the extras off the end of a list of trees. -/
def splitTrailingExtras (parts : List Subtree) : List Subtree × List Subtree :=
  let trailing := (parts.reverse.takeWhile (·.isExtra)).reverse
  (parts.take (parts.length - trailing.length), trailing)

end JavaLint.Parse
