import JavaLint.Grammar.Scanner
import JavaLint.Grammar.Item

/-!
# Clashes between tokens

Two tokens clash when allowing one of them in a place changes how a text is read that the other
matches there. For each pair of tokens the network is followed with only these two alive, and three
facts about the first are noted: that it goes on where the second is complete, with a character
that may indeed come next; that it is complete inside blanks; and that it wins where both match the
same text.
-/

namespace JavaLint.Grammar

open JavaLint.Text

/-- What one token does to another. -/
structure Clash where
  /-- It goes on where the other is complete. -/
  goesOn : Bool := false
  /-- It is complete inside blanks. -/
  inBlanks : Bool := false
  /-- It wins where both match. -/
  wins : Bool := false
deriving BEq, Repr, Inhabited

/-- A move of live nodes on the characters of a set. -/
structure Move where
  set : CharSet
  blank : Bool
  precedence : Int
  live : List Nat
  tokens : List Nat

/-- Splits moves so that their sets are disjoint; a move on a common part joins both. -/
def Move.insert (e : Move) : List Move → List Move
  | [] => if e.set.isEmpty then [] else [e]
  | m :: ms =>
    if e.set.isEmpty then m :: ms
    else
      let common := m.set.inter e.set
      if common.isEmpty then m :: Move.insert e ms
      else
        let joined : Move := {
          set := common, blank := m.blank && e.blank
          precedence := max m.precedence e.precedence
          live := Network.insertAll e.live m.live
          tokens := Network.insertAll e.tokens m.tokens }
        let rest := m.set.diff e.set
        let tail := Move.insert { e with set := e.set.diff m.set } ms
        if rest.isEmpty then joined :: tail else joined :: { m with set := rest } :: tail

namespace Network

variable (net : Network)

/-- The moves from live nodes, with those through blanks to the given tokens. -/
def groupedMoves (live : List Nat) (throughBlanks : List Nat) : List Move :=
  let own := live.filterMap fun (n : Nat) => match net.nodes[n]? with
    | some (Node.step set next t) =>
      some { set, blank := false, precedence := net.precedenceOf t
             live := (net.settled[next]?).getD [], tokens := [t] : Move }
    | _ => none
  let skip : List Move := if throughBlanks.isEmpty then [] else
    [{ set := net.blanks, blank := true, precedence := 0
       live := throughBlanks.flatMap fun t => ((net.tokens[t]?).getD default).starts
       tokens := throughBlanks }]
  (skip ++ own).foldl (fun ms e => e.insert ms) []

/-- The tokens complete among live nodes. -/
def completions (live : List Nat) : List Nat :=
  live.filterMap fun (n : Nat) => match net.nodes[n]? with
    | some (Node.accept t) => some t
    | _ => none

/-- Follows two tokens from the sets of live nodes in the work list; each set comes with the tokens
alive in it and a flag that tells whether it lies within leading blanks. `mayFollow` says whether
one of some characters may come directly after a token. -/
def clashFrom (mayFollow : Nat → CharSet → Bool) (i j : Nat) (afterBlanks : List Nat) :
    (fuel : Nat) → (work seen : List (List Nat × List Nat × Bool)) → Clash × Clash →
      Clash × Clash
  | 0, _, _, r => r
  | _, [], _, r => r
  | fuel + 1, (live, alive, leading) :: work, seen, r =>
    if !(alive.contains i && alive.contains j) then
      clashFrom mayFollow i j afterBlanks fuel work seen r
    else
      let within := leading && !afterBlanks.isEmpty
      let done := net.completions live
      let (r, complete) := match done with
        | [] => (r, none)
        | t :: others =>
          if within then
            (if t = i then ({ r.1 with inBlanks := true }, r.2)
              else (r.1, { r.2 with inBlanks := true }), none)
          else match others.find? (· ≠ t) with
            | none => (r, some t)
            | some u =>
              (if (if net.prefers t u then t else u) = i then ({ r.1 with wins := true }, r.2)
                else (r.1, { r.2 with wins := true }), some t)
      let step := fun (acc : List (List Nat × List Nat × Bool) × (Clash × Clash)) (m : Move) =>
        let (next, r) := acc
        let entry := (m.live.mergeSort, m.tokens, leading && m.tokens.any afterBlanks.contains &&
          m.set.meets net.blanks && (m.blank || within))
        match complete with
        | none => (entry :: next, r)
        | some t =>
          if m.tokens.contains t then (entry :: next, r)
          else
            let own := net.precedenceOf t
            let allowed := own < m.precedence || (own = m.precedence && !m.blank && !within)
            let other := if t = i then j else i
            if allowed then
              let valid := mayFollow t m.set
              let r := if !valid then r
                else if other = i then ({ r.1 with goesOn := true }, r.2)
                else (r.1, { r.2 with goesOn := true })
              (entry :: next, r)
            else (next, r)
      let (next, r) := (net.groupedMoves live (if within then afterBlanks else [])).foldl step ([], r)
      let fresh := next.filter fun e => !seen.contains e
      clashFrom mayFollow i j afterBlanks fuel (fresh ++ work) (fresh ++ seen) r

/-- The characters with which a token may start. -/
def firstChars (t : Nat) : CharSet :=
  ((net.tokens[t]?).getD default).starts.foldl (fun acc (n : Nat) => match net.nodes[n]? with
    | some (Node.step set _ _) => acc.union set
    | _ => acc) CharSet.empty

/-- What two tokens do to each other. -/
def clash (mayFollow : Nat → CharSet → Bool) (firsts : Array CharSet) (i j : Nat) : Clash × Clash :=
  let fi := (firsts[i]?).getD .empty
  let fj := (firsts[j]?).getD .empty
  if !fi.meets fj && !fi.meets net.blanks && !fj.meets net.blanks then ({}, {})
  else
    let starts := fun t => ((net.tokens[t]?).getD default).starts
    let afterBlanks := [i, j].filter fun t => !((net.tokens[t]?).getD default).immediate
    let start := ((starts i ++ starts j).mergeSort, [i, j], true)
    net.clashFrom mayFollow i j afterBlanks 4096 [start] [start] ({}, {})

end Network

/-- For each token the tokens that may follow it. -/
def followingTokens (g : Bnf) (t : ItemTable) : Array TokenSet :=
  let count := g.terminals.size
  let all := TokenSet.ofList ((List.range count).filter (· ≠ 0))
  let pairs := fun (acc : Array TokenSet) (p : Production) =>
    (p.steps.toList.zip (p.steps.toList.drop 1)).foldl (fun acc (a, b) =>
      let right := (t.first[b.symbol]?).getD .empty
      (((t.last[a.symbol]?).getD .empty).toList count).foldl (fun acc s =>
        acc.modify s (·.union right)) acc) acc
  let base := g.productions.foldl pairs (Array.replicate count .empty)
  g.extras.foldl (fun acc e => (acc.map (·.insert e)).setIfInBounds e all) base

/-- The clashes of a grammar. -/
structure Clashes where
  /-- For each token those to which it does anything. -/
  disturbs : Array TokenSet
  /-- For each token those it outruns, without being cut short by them in blanks. -/
  outruns : Array TokenSet
  /-- The tokens that do anything to some other. -/
  active : TokenSet
deriving Inhabited

/-- The clashes between the tokens of a grammar. Those between the word token and a keyword are
left out, because keywords are told apart after the word has been read. -/
def Clashes.ofBnf (g : Bnf) (t : ItemTable) (net : Network) (keywords : TokenSet) : Clashes :=
  let count := g.terminals.size
  let firsts := (Array.range count).map net.firstChars
  let following := (followingTokens g t).map (·.toList count)
  let mayFollow := fun u (s : CharSet) =>
    ((following[u]?).getD []).any fun v => s.meets ((firsts[v]?).getD .empty)
  let pairs := (List.range count).flatMap fun i =>
    ((List.range count).filter fun j =>
      i < j && 0 < i && !(i = 1 && keywords.contains j)).map fun j => (i, j)
  let note := fun (acc : Array TokenSet × Array TokenSet) (i j : Nat) (a b : Clash) =>
    let (disturbs, outruns) := acc
    (if a.goesOn || a.inBlanks || a.wins then disturbs.modify i (·.insert j) else disturbs,
      if (a.goesOn || a.inBlanks) && !b.inBlanks then outruns.modify i (·.insert j) else outruns)
  let (disturbs, outruns) := pairs.foldl (fun acc (i, j) =>
    let (a, b) := net.clash mayFollow firsts i j
    if a == {} && b == {} then acc else note (note acc i j a b) j i b a)
    (Array.replicate count TokenSet.empty, Array.replicate count TokenSet.empty)
  { disturbs, outruns
    active := TokenSet.ofList ((List.range count).filter fun t =>
      !((disturbs[t]?).getD .empty).isEmpty) }

end JavaLint.Grammar
