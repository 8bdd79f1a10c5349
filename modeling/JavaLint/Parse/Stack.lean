import JavaLint.Parse.Subtree

/-!
# The stack of a parse

Several parses of one text can be under way at once. Their stacks share nodes: a node links to the
nodes below it, each link with the tree between them, and parses that come to the same state at
the same place are merged by giving one node the links of both. Nodes are numbered in the order in
which they are made, and a link always leads to an older node.
-/

namespace JavaLint.Parse

open JavaLint.Grammar

/-- A link to the node below, with the tree in between; a break in the parse has no tree. -/
structure Link where
  node : Nat
  tree : Option Subtree
deriving Inhabited

/-- A node of the stack, with sums over the trees below it. -/
structure StackNode where
  state : Nat
  /-- The place in the text up to which the trees reach. -/
  place : Nat
  links : List Link
  errorCost : Nat
  nodeCount : Nat
  dynamic : Int
deriving Inhabited

/-- A state that lies below the place where an error was found. -/
structure Earlier where
  place : Nat
  /-- The number of trees above it. -/
  depth : Nat
  state : Nat
deriving Inhabited

/-- What a parse is doing. -/
inductive Status where
  | active
  /-- It waits, because the token does not fit. -/
  | paused (lookahead : Subtree)
  | halted
deriving Inhabited

/-- One of the parses under way. -/
structure Head where
  node : Nat
  /-- The number of nodes when the last error was found. -/
  countAtError : Nat
  status : Status
  /-- The states below the last error, once they have been recorded. -/
  earlier : Option (List Earlier)
deriving Inhabited

/-- The stacks of all parses under way. -/
structure Stack where
  nodes : Array StackNode
  heads : Array Head
deriving Inhabited

/-- The state of error recovery. -/
def errorState : Nat := 0

/-- The state before the text. -/
def startState : Nat := 1

/-- No node has more links than this. -/
def maxLinks : Nat := 8

/-- No more paths than this are followed at once. -/
def maxPaths : Nat := 64

/-- How many nodes a tree counts for: its visible ones, and one for each skipped token. -/
def countOf (t : Table) (s : Subtree) : Nat :=
  s.facts.visibleBelow + (if s.facts.visible then 1 else 0) +
    if s.symbol == skippedSymbol t then 1 else 0

namespace Stack

/-- The stack before the text. -/
def initial : Stack where
  nodes := #[⟨startState, 0, [], 0, 0, 0⟩]
  heads := #[⟨0, 0, .active, none⟩]

/-- A node by its number. -/
def node (s : Stack) (n : Nat) : StackNode := (s.nodes[n]?).getD default

/-- A parse by its position among the parses. -/
def head (s : Stack) (v : Nat) : Head := (s.heads[v]?).getD default

/-- The number of parses under way. -/
def count (s : Stack) : Nat := s.heads.size

/-- The topmost node of a parse. -/
def top (s : Stack) (v : Nat) : StackNode := s.node (s.head v).node

/-- The state of a parse. -/
def state (s : Stack) (v : Nat) : Nat := (s.top v).state

/-- The place that a parse has reached. -/
def place (s : Stack) (v : Nat) : Nat := (s.top v).place

/-- Whether a parse goes on. -/
def isActive (s : Stack) (v : Nat) : Bool :=
  match (s.head v).status with
  | .active => true
  | _ => false

/-- Whether a parse waits. -/
def isPaused (s : Stack) (v : Nat) : Bool :=
  match (s.head v).status with
  | .paused _ => true
  | _ => false

/-- Whether a parse has been given up. -/
def isHalted (s : Stack) (v : Nat) : Bool :=
  match (s.head v).status with
  | .halted => true
  | _ => false

/-- The number of parses that have been given up. -/
def haltedCount (s : Stack) : Nat :=
  ((List.range s.count).filter s.isHalted).length

/-- The cost of the errors of a parse, with that of an error that has only been found. -/
def errorCost (s : Stack) (v : Nat) : Nat :=
  let top := s.top v
  let broken := top.state == errorState &&
    match top.links.head? with
    | some l => l.tree.isNone
    | none => false
  top.errorCost + if s.isPaused v || broken then costs.recovery else 0

/-- The number of nodes since the last error. The mark of that error is lowered when nodes below
it have gone. -/
def countSinceError (s : Stack) (v : Nat) : Nat :=
  (s.top v).nodeCount - (s.head v).countAtError

/-- Lowers the mark of the last error to the number of nodes. -/
def lowerMark (s : Stack) (v : Nat) : Stack :=
  let n := (s.top v).nodeCount
  { s with heads := s.heads.modify v fun h => { h with countAtError := min h.countAtError n } }

/-- Changes a parse. -/
def modifyHead (s : Stack) (v : Nat) (f : Head → Head) : Stack :=
  { s with heads := s.heads.modify v f }

/-- Puts a tree, or a break, on top of a parse. -/
def push (t : Table) (s : Stack) (v : Nat) (tree : Option Subtree) (state : Nat) : Stack :=
  let below := (s.head v).node
  let old := s.node below
  let new : StackNode := match tree with
    | some tr => {
      state, place := tr.facts.stop, links := [⟨below, tree⟩]
      errorCost := old.errorCost + tr.facts.errorCost
      nodeCount := old.nodeCount + countOf t tr
      dynamic := old.dynamic + tr.facts.dynamic }
    | none => { old with state, links := [⟨below, none⟩] }
  let number := s.nodes.size
  { nodes := s.nodes.push new
    heads := s.heads.modify v fun h =>
      { h with
        node := number
        countAtError := if tree.isNone then new.nodeCount else h.countAtError } }

/-- Takes a parse out. -/
def remove (s : Stack) (v : Nat) : Stack :=
  { s with heads := s.heads.eraseIdxIfInBounds v }

/-- Puts parse `a` in the place of parse `b`, which it keeps the recorded states of if it has none
of its own. -/
def renumber (s : Stack) (a b : Nat) : Stack :=
  if a = b then s
  else
    let source := s.head a
    let target := s.head b
    let moved := if source.earlier.isNone then { source with earlier := target.earlier } else source
    { s with heads := (s.heads.setIfInBounds b moved).eraseIdxIfInBounds a }

/-- Exchanges two parses. -/
def swap (s : Stack) (a b : Nat) : Stack :=
  { s with heads := s.heads.swapIfInBounds a b }

/-- Adds a copy of a parse at the end. -/
def copy (s : Stack) (v : Nat) : Stack :=
  { s with heads := s.heads.push { s.head v with earlier := none } }

/-- Gives a parse up. -/
def halt (s : Stack) (v : Nat) : Stack :=
  s.modifyHead v fun h => { h with status := .halted }

/-- Lets a parse wait with the token that does not fit. -/
def pause (s : Stack) (v : Nat) (lookahead : Subtree) : Stack :=
  let n := (s.top v).nodeCount
  s.modifyHead v fun h => { h with status := .paused lookahead, countAtError := n }

/-- Lets a waiting parse go on; the result also holds the token that did not fit. -/
def resume (s : Stack) (v : Nat) : Stack × Option Subtree :=
  match (s.head v).status with
  | .paused lookahead => (s.modifyHead v fun h => { h with status := .active }, some lookahead)
  | _ => (s, none)

/-! ### Merging -/

/-- Whether two links hold trees for the same text. -/
def equivalent (a b : Option Subtree) : Bool :=
  match a, b with
  | none, none => true
  | some x, some y =>
    let f := x.facts
    let g := y.facts
    f.symbol == g.symbol &&
      ((0 < f.errorCost && 0 < g.errorCost) ||
        (f.start - f.lead == g.start - g.lead && f.stop - f.start == g.stop - g.start &&
          x.children.length == y.children.length && f.extra == g.extra))
  | _, _ => false

/-- The preference of the tree of a link. -/
def Link.dynamic (l : Link) : Int := (l.tree.map (·.facts.dynamic)).getD 0

/-- Gives a node one more link. Of two equivalent trees to the same node the preferred one stays;
where equivalent trees lead to nodes that can be merged, these are merged instead. -/
def addLink (t : Table) : (fuel : Nat) → (nodes : Array StackNode) → (self : Nat) → Link →
    Array StackNode
  | 0, nodes, _, _ => nodes
  | fuel + 1, nodes, self, link =>
    if link.node = self then nodes
    else
      let own := (nodes[self]?).getD default
      let below := (nodes[link.node]?).getD default
      let sameNode := fun (l : Link) => equivalent l.tree link.tree && l.node == link.node
      let mergeable := fun (l : Link) =>
        equivalent l.tree link.tree &&
          let other := (nodes[l.node]?).getD default
          other.state == below.state && other.place == below.place &&
            other.errorCost == below.errorCost
      match own.links.find? fun l => sameNode l || mergeable l with
      | some l =>
        if l.node = link.node then
          if Link.dynamic l < Link.dynamic link then
            let links := own.links.map fun k => if sameNode k then { k with tree := link.tree } else k
            nodes.setIfInBounds self
              { own with links, dynamic := below.dynamic + Link.dynamic link }
          else nodes
        else
          let nodes := below.links.foldl (fun nodes k => addLink t fuel nodes l.node k) nodes
          let dynamic := below.dynamic + Link.dynamic link
          nodes.modify self fun n => if n.dynamic < dynamic then { n with dynamic } else n
      | none =>
        if own.links.length = maxLinks then nodes
        else
          let count := below.nodeCount + (link.tree.map (countOf t)).getD 0
          let dynamic := below.dynamic + Link.dynamic link
          nodes.setIfInBounds self
            { own with
              links := own.links ++ [link]
              nodeCount := max own.nodeCount count
              dynamic := max own.dynamic dynamic }

/-- Whether two parses are in the same state at the same place, at the same cost. -/
def canMerge (s : Stack) (a b : Nat) : Bool :=
  s.isActive a && s.isActive b && s.state a == s.state b && s.place a == s.place b &&
    (s.top a).errorCost == (s.top b).errorCost

/-- Merges parse `b` into parse `a`, if they can be merged. -/
def merge (t : Table) (s : Stack) (a b : Nat) : Stack × Bool :=
  if s.canMerge a b then
    let own := (s.head a).node
    let nodes := (s.top b).links.foldl (fun nodes l => addLink t nodes.size nodes own l) s.nodes
    let s := { s with nodes }
    let s := if s.state a = errorState then
        let n := (s.top a).nodeCount
        s.modifyHead a fun h => { h with countAtError := n }
      else s
    (s.remove b, true)
  else (s, false)

/-- Merges parse `v` into the first of the parses `from` on and before `until` that it can be
merged with; the result tells whether there was one. -/
def mergeIntoFirst (t : Table) (s : Stack) (v : Nat) (candidates : List Nat) : Stack × Bool :=
  match candidates.find? fun j => s.canMerge j v with
  | some j => s.merge t j v
  | none => (s, false)

/-! ### Popping -/

/-- A way down the stack. -/
structure Path where
  node : Nat
  /-- The trees passed, in the order of the text. -/
  trees : List Subtree
  /-- How many of them are not extra; a break counts too. -/
  depth : Nat
deriving Inhabited

/-- The trees taken off a parse on one path, and the parse that remains. -/
structure Slice where
  trees : List Subtree
  version : Nat
deriving Inhabited

/-- The path one link further down. -/
def Path.along (p : Path) (l : Link) : Path :=
  match l.tree with
  | some tr => ⟨l.node, tr :: p.trees, if tr.isExtra then p.depth else p.depth + 1⟩
  | none => ⟨l.node, p.trees, p.depth + 1⟩

/-- Follows all paths of one round one link further; `visit` sees each path before, and says
whether it goes on. The first link continues a path in its place; the paths of further links come
after all others. -/
def roundDown {σ : Type} (visit : σ → Stack → Path → σ × Stack × Bool) (st : σ) (s : Stack)
    (paths kept added : List Path) : σ × Stack × List Path :=
  match paths with
  | [] => (st, s, kept.reverse ++ added.reverse)
  | p :: rest =>
    let (st, s, goOn) := visit st s p
    match (s.node p.node).links with
    | first :: others =>
      if goOn then
        let room := maxPaths - (rest.length + 1 + kept.length + added.length)
        let more := (others.take room).map p.along
        roundDown visit st s rest (p.along first :: kept) (more.reverse ++ added)
      else roundDown visit st s rest kept added
    | [] => roundDown visit st s rest kept added

/-- Follows all paths down from a set of paths. A path gets to an older node with each round, so
that there are at most as many rounds as nodes. -/
def walkDown {σ : Type} (visit : σ → Stack → Path → σ × Stack × Bool) :
    (fuel : Nat) → σ → Stack → List Path → σ × Stack
  | 0, st, s, _ => (st, s)
  | fuel + 1, st, s, paths =>
    if paths.isEmpty then (st, s)
    else
      let (st, s, paths) := roundDown visit st s paths [] []
      walkDown visit fuel st s paths

/-- The parse that the paths start from. -/
def pathFrom (s : Stack) (v : Nat) : Path := ⟨(s.head v).node, [], 0⟩

/-- Records what a path took off: with the slices that lead to the same node, or as a new parse. -/
def addSlice (s : Stack) (source : Nat) (slices : List Slice) (p : Path) : List Slice × Stack :=
  let same := fun (x : Slice) => (s.head x.version).node == p.node
  match slices.reverse.find? same with
  | some x =>
    let after := (slices.reverse.takeWhile fun y => !same y).reverse
    (slices.take (slices.length - after.length) ++ [⟨p.trees, x.version⟩] ++ after, s)
  | none =>
    let head : Head := ⟨p.node, (s.head source).countAtError, .active, none⟩
    (slices ++ [⟨p.trees, s.count⟩], { s with heads := s.heads.push head })

/-- Takes `n` trees off a parse, along every path; each node reached becomes a new parse. -/
def pop (s : Stack) (v n : Nat) : List Slice × Stack :=
  let visit := fun (slices : List Slice) (s : Stack) (p : Path) =>
    if p.depth = n then
      let (slices, s) := addSlice s v slices p
      (slices, s, false)
    else (slices, s, true)
  walkDown visit (s.nodes.size + 2) [] s [s.pathFrom v]

/-- Takes all trees off a parse, along every path. -/
def popAll (s : Stack) (v : Nat) : List Slice × Stack :=
  let visit := fun (slices : List Slice) (s : Stack) (p : Path) =>
    if (s.node p.node).links.isEmpty then
      let (slices, s) := addSlice s v slices p
      (slices, s, false)
    else (slices, s, true)
  walkDown visit (s.nodes.size + 2) [] s [s.pathFrom v]

/-- Takes the skipped text off the top of a parse, if there is any. -/
def popError (t : Table) (s : Stack) (v : Nat) : Option Subtree × Stack :=
  let found := (s.top v).links.findSome? fun l => match l.tree with
    | some tr => if tr.isError t then some (tr, l.node) else none
    | none => none
  match found with
  | some (tr, below) => (some tr, s.modifyHead v fun h => { h with node := below })
  | none => (none, s)

/-- The states below the top of a parse, down to a depth. -/
def earlierStates (s : Stack) (v maxDepth : Nat) : List Earlier :=
  let visit := fun (found : List Earlier) (s : Stack) (p : Path) =>
    if maxDepth < p.depth then (found, s, false)
    else
      let n := s.node p.node
      let known := (found.takeWhile fun e => p.depth ≤ e.depth).any fun e =>
        e.depth == p.depth && e.state == n.state
      (if known then found else ⟨n.place, p.depth, n.state⟩ :: found, s, true)
  (walkDown visit (s.nodes.size + 2) [] s [s.pathFrom v]).1.reverse

end Stack

end JavaLint.Parse
