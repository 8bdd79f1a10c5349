import JavaLint.Grammar.Bnf

/-!
# Reading one token

The patterns of all tokens are brought into one network of nodes. Reading a token follows the live
nodes of the tokens that are allowed, character by character, as long as one of them can go on, and
takes the last place at which some token was complete. Blanks before a token are passed over,
unless a token may itself start with them: then both readings stay alive.
-/

namespace JavaLint.Grammar

open JavaLint.Text

/-- A node of the network. -/
inductive Node where
  /-- The token is complete. -/
  | accept (token : Nat)
  /-- A character of the set leads on. -/
  | step (set : CharSet) (next : Nat) (token : Nat)
  /-- Two ways to go on. -/
  | fork (left right : Nat)
deriving Repr, Inhabited

/-- Adds the nodes of a pattern that leads to the node `next`; the result also says where the
pattern starts. -/
def Pattern.addTo (token : Nat) : Pattern → Nat → Array Node → Array Node × Nat
  | .empty, next, nodes => (nodes, next)
  | .one set, next, nodes => (nodes.push (.step set next token), nodes.size)
  | .cat p q, next, nodes =>
    let (nodes, middle) := q.addTo token next nodes
    p.addTo token middle nodes
  | .or p q, next, nodes =>
    let (nodes, left) := p.addTo token next nodes
    let (nodes, right) := q.addTo token next nodes
    (nodes.push (.fork left right), nodes.size)
  | .many1 p, next, nodes =>
    let loop := nodes.size
    let (nodes, start) := p.addTo token loop (nodes.push (.fork loop next))
    (nodes.setIfInBounds loop (.fork start next), start)

/-- The nodes other than forks that are reached without reading a character. The work list never
grows beyond the number of forks, which bounds the fuel. -/
def settle (nodes : Array Node) : (fuel : Nat) → (work done seen : List Nat) → List Nat
  | 0, _, done, _ => done
  | _, [], done, _ => done
  | fuel + 1, n :: work, done, seen =>
    if seen.contains n then settle nodes fuel work done seen
    else match nodes[n]? with
      | some (.fork l r) => settle nodes fuel (l :: r :: work) done (n :: seen)
      | some _ => settle nodes fuel work (n :: done) (n :: seen)
      | none => settle nodes fuel work done seen

/-- What a scanner knows of one token. -/
structure TokenFacts where
  /-- The nodes at which the token starts. -/
  starts : List Nat
  /-- Whether it must directly follow the preceding token. -/
  immediate : Bool
  precedence : Int
  rank : Nat
  /-- The position in the order of the tokens. -/
  place : Nat
deriving Inhabited

/-- The network of all tokens of a grammar. -/
structure Network where
  nodes : Array Node
  /-- For each node the nodes other than forks that it stands for. -/
  settled : Array (List Nat)
  tokens : Array TokenFacts
  blanks : CharSet
deriving Inhabited

/-- The network of the tokens of a grammar. -/
def Network.ofBnf (g : Bnf) : Network :=
  let add := fun (acc : Array Node × Array Nat) (t : Terminal × Nat) =>
    let (nodes, starts) := acc
    let last := nodes.size
    let (nodes, start) := t.1.lexeme.pattern.addTo t.2 last (nodes.push (.accept t.2))
    (nodes, starts.push start)
  let (nodes, starts) := g.terminals.zipIdx.foldl add (#[], #[])
  let fuel := 2 * nodes.size + 2
  let settled := (Array.range nodes.size).map fun n => (settle nodes fuel [n] [] []).reverse
  { nodes, settled
    tokens := (g.terminals.zip starts).mapIdx fun i (t, s) =>
      { starts := (settled[s]?).getD []
        immediate := t.lexeme.immediate
        precedence := t.lexeme.precedence
        rank := t.lexeme.rank
        place := (g.order.findIdx? (· == i)).getD 0 }
    blanks := g.blanks }

namespace Network

variable (net : Network)

/-- Of two tokens that match the same text, whether the first is the one meant. -/
def prefers (s t : Nat) : Bool :=
  let a := (net.tokens[s]?).getD default
  let b := (net.tokens[t]?).getD default
  if a.precedence ≠ b.precedence then b.precedence < a.precedence
  else if a.rank ≠ b.rank then b.rank < a.rank
  else a.place < b.place

/-- Adds the members of one list to another that lack there. -/
def insertAll (xs : List Nat) (acc : List Nat) : List Nat :=
  xs.foldl (fun acc x => if acc.contains x then acc else x :: acc) acc

/-- The token that is complete in a set of live nodes. -/
def complete? : List Nat → Option Nat
  | [] => none
  | n :: live =>
    match net.nodes[n]?, complete? live with
    | some (.accept t), some b => if net.prefers t b then some t else some b
    | some (.accept t), none => some t
    | _, best => best

/-- The tokens that can read the character, each with the nodes it leads to. -/
def moves (live : List Nat) (c : Char) : List (Nat × List Nat) :=
  live.filterMap fun (n : Nat) =>
    match net.nodes[n]? with
    | some (Node.step set next t) =>
      if set.contains c then some (t, (net.settled[next]?).getD []) else none
    | _ => none

/-- The precedence of a token. -/
def precedenceOf (t : Nat) : Int := ((net.tokens[t]?).getD default).precedence

/-- The highest precedence among tokens that can go on; blanks count with precedence zero. -/
def levelOf (blank : Bool) (tokens : List Nat) : Int :=
  match (if blank then [0] else []) ++ tokens.map (precedenceOf net) with
  | [] => 0
  | p :: ps => ps.foldl max p

end Network

/-- Tokens that may be read in a place, with the live nodes at their start. -/
structure ScanMode where
  /-- Whether the text may end here. -/
  atEnd : Bool
  /-- The start nodes of all tokens. -/
  starts : List Nat
  /-- The start nodes of the tokens that may follow blanks. -/
  afterBlanks : List Nat
deriving Inhabited

/-- The mode for a list of tokens, of which `0` is the end of the text. -/
def Network.mode (net : Network) (tokens : List Nat) : ScanMode :=
  let real := tokens.filter (· ≠ 0)
  let startsOf := fun (ts : List Nat) => ts.flatMap fun t => ((net.tokens[t]?).getD default).starts
  { atEnd := tokens.contains 0
    starts := startsOf real
    afterBlanks := startsOf (real.filter fun t => !((net.tokens[t]?).getD default).immediate) }

/-- A reading in progress. -/
structure Reading where
  /-- The live nodes. -/
  live : List Nat
  /-- Whether blanks may still be passed over here. -/
  leading : Bool
  /-- Whether nothing but blanks was passed over so far. -/
  blankSoFar : Bool
  /-- Where the token starts, as far as is known. -/
  start : Nat
  /-- The token that was complete last, with its start and its end. -/
  found : Option (Nat × Nat × Nat)

/-- The end of a reading: the token found, if any, and the places where the token was thought to
start and where the reading stopped. -/
structure Outcome where
  found : Option (Nat × Nat × Nat)
  start : Nat
  stop : Nat

/-- Follows the live nodes from the character at `pos` on; `rest` holds the characters from there.
A complete token stops the reading where going on would only be possible for a token of lower
precedence, through blanks, or for another token that started after blanks. -/
def Network.follow (net : Network) (mode : ScanMode) : List Char → Nat → Reading → Outcome
  | rest, pos, r =>
    let done := net.complete? r.live
    let found := match done with
      | some t => some (t, r.start, pos)
      | none => r.found
    match rest with
    | [] =>
      if r.blankSoFar && mode.atEnd then ⟨some (0, r.start, pos), r.start, pos⟩
      else ⟨found, r.start, pos⟩
    | c :: rest =>
      let moves := net.moves r.live c
      let blank := r.leading && !mode.afterBlanks.isEmpty && net.blanks.contains c
      let onlyBlank := blank && moves.isEmpty
      if moves.isEmpty && !blank then ⟨found, r.start, pos⟩
      else
        let level := net.levelOf blank (moves.map (·.1))
        let goOn := match done with
          | none => true
          | some t =>
            let own := net.precedenceOf t
            if level < own then false
            else if level = own then
              !onlyBlank && !(r.leading && !mode.afterBlanks.isEmpty && !(moves.any (·.1 == t)) &&
                !(blank && !((net.tokens[t]?).getD default).immediate))
            else true
        if goOn then
          let live := moves.foldl (fun acc (_, ns) => Network.insertAll ns acc) []
          let live := if blank then Network.insertAll mode.afterBlanks live else live
          net.follow mode rest (pos + 1)
            { live, found, leading := blank, blankSoFar := r.blankSoFar && onlyBlank
              start := if onlyBlank then pos + 1 else r.start }
        else ⟨found, r.start, pos⟩

/-- The mark of byte order that a text may start with. -/
def byteOrderMark : Char := '\ufeff'

/-- Reads a token at `pos`; `rest` holds the characters from there. A mark of byte order at the start
of the text is passed over. -/
def Network.scan (net : Network) (mode : ScanMode) (rest : List Char) (pos : Nat) : Outcome :=
  let fromPlace := fun rest pos => net.follow mode rest pos ⟨mode.starts, true, true, pos, none⟩
  match rest with
  | c :: cs => if pos = 0 && c == byteOrderMark then fromPlace cs 1 else fromPlace rest pos
  | [] => fromPlace rest pos

end JavaLint.Grammar
