import JavaLint.Parse.Stack
import JavaLint.Parse.Lookahead

/-!
# Parsing a text

All parses under way take the next token in turn. Where the tables leave several actions open, a
parse divides; parses that meet are merged. After each round the parses are compared by the cost of
their errors and by preference, and those that are clearly worse are dropped. When a token fits
nowhere, the best parse recovers from the error in the cheapest of three ways: it puts in a token
that is missing, it goes back to an earlier state in which the token fits and skips what lies in
between, or it skips the token.
-/

namespace JavaLint.Parse

open JavaLint.Grammar

/-- Limits of a run. -/
structure Limits where
  /-- The number of parses kept after a round. -/
  versions : Nat := 6
  /-- How many more there may be during a round. -/
  overflow : Nat := 4
  /-- How deep earlier states are recorded. -/
  depth : Nat := 16
  /-- The difference of costs above which a worse parse is dropped at once. -/
  costDifference : Nat := 18 * costs.tree

/-- The limits in force. -/
def limits : Limits := {}

/-- What stays the same during a run. -/
structure Setting where
  table : Table
  input : Input

/-- A run in progress. -/
structure Run where
  stack : Stack
  /-- The best complete tree so far. -/
  finished : Option Subtree
  /-- How often a tree was completed. -/
  accepted : Nat
deriving Inhabited

/-- How a parse fares. -/
structure Standing where
  cost : Nat
  nodeCount : Nat
  dynamic : Int
  inError : Bool

/-- The outcome of comparing two parses. -/
inductive Verdict where
  | takeLeft
  | preferLeft
  | neither
  | preferRight
  | takeRight
deriving BEq, DecidableEq

/-- Compares two parses. One without an open error is better than one with; a difference of costs
weighs the more the further the cheaper parse has got since its last error. -/
def Standing.compare (a b : Standing) : Verdict :=
  if !a.inError && b.inError then
    if a.cost < b.cost then .takeLeft else .preferLeft
  else if a.inError && !b.inError then
    if b.cost < a.cost then .takeRight else .preferRight
  else if a.cost < b.cost then
    if limits.costDifference < (b.cost - a.cost) * (1 + a.nodeCount) then .takeLeft
    else .preferLeft
  else if b.cost < a.cost then
    if limits.costDifference < (a.cost - b.cost) * (1 + b.nodeCount) then .takeRight
    else .preferRight
  else if b.dynamic < a.dynamic then .preferLeft
  else if a.dynamic < b.dynamic then .preferRight
  else .neither

namespace Run

/-- Changes the stack. -/
def modifyStack (r : Run) (f : Stack → Stack) : Run := { r with stack := f r.stack }

/-- How a parse fares. -/
def standing (r : Run) (v : Nat) : Standing :=
  let s := r.stack
  let waiting := s.isPaused v
  { cost := s.errorCost v + if waiting then costs.tree else 0
    nodeCount := s.countSinceError v
    dynamic := (s.top v).dynamic
    inError := waiting || s.state v == errorState }

/-- Whether a parse that has got as far is better than `v` would be at the given cost. -/
def betterExists (r : Run) (v : Nat) (inError : Bool) (cost : Nat) : Run × Bool :=
  if r.finished.any fun t => t.facts.errorCost ≤ cost then (r, true)
  else
    let s := r.stack.lowerMark v
    let place := s.place v
    let own : Standing := ⟨cost, s.countSinceError v, (s.top v).dynamic, inError⟩
    let rec look (candidates : List Nat) (s : Stack) : Stack × Bool :=
      match candidates with
      | [] => (s, false)
      | i :: rest =>
        if i = v || !s.isActive i || s.place i < place then look rest s
        else
          let s := s.lowerMark i
          match own.compare ({ r with stack := s }.standing i) with
          | .takeRight => (s, true)
          | .preferRight => if s.canMerge i v then (s, true) else look rest s
          | _ => look rest s
    let (s, found) := look (List.range s.count) s
    ({ r with stack := s }, found)

/-! ### Actions -/

/-- The best of several lists of parts for a tree, with the extras behind each. -/
def chooseParts (e : Setting) (place symbol production : Nat) :
    Subtree × List Subtree → List (List Subtree) → Subtree × List Subtree
  | best, [] => best
  | (tree, trailing), parts :: rest =>
    let (parts, extras) := splitTrailingExtras parts
    let plain := Subtree.ofParts e.table e.input place symbol parts none
    if prefersSecond tree plain then
      chooseParts e place symbol production
        (.ofParts e.table e.input place symbol parts (some production), extras) rest
    else chooseParts e place symbol production (tree, trailing) rest

/-- Puts a combined tree on each parse that its parts were taken off. Parses that came from merged
ones may coincide; then the best parts are taken. `removed` counts the parses that have gone since
the slices were numbered. -/
def reduceSlices (e : Setting) (version symbol : Nat) (dynamic : Int) (production : Nat) :
    (fuel : Nat) → List Stack.Slice → (removed : Nat) → (halted : Nat) → Run → Run
  | 0, _, _, _, r => r
  | _, [], _, _, r => r
  | fuel + 1, slice :: rest, removed, halted, r =>
    let v := slice.version - removed
    let same := rest.takeWhile (·.version == slice.version)
    let rest := rest.dropWhile (·.version == slice.version)
    if limits.versions + limits.overflow + halted < v then
      reduceSlices e version symbol dynamic production fuel rest (removed + 1) halted
        (r.modifyStack (·.remove v))
    else
      let s := r.stack
      let place := s.place v
      let (parts, extras) := splitTrailingExtras slice.trees
      let (tree, trailing) := chooseParts e place symbol production
        (.ofParts e.table e.input place symbol parts (some production), extras)
        (same.map (·.trees))
      let next := e.table.next (s.state v) symbol
      let s := s.push e.table v (some (tree.addDynamic dynamic)) next
      let s := trailing.foldl (fun s x => s.push e.table v (some x) next) s
      let (s, merged) := s.mergeIntoFirst e.table v ((List.range v).filter (· ≠ version))
      reduceSlices e version symbol dynamic production fuel rest
        (if merged then removed + 1 else removed) halted { r with stack := s }

/-- Combines the topmost `count` trees of a parse by a production. The parse itself stays as it
was; the first of the new ones is the result, if there is one. -/
def reduce (e : Setting) (r : Run) (version symbol count : Nat) (dynamic : Int)
    (production : Nat) : Run × Option Nat :=
  let before := r.stack.count
  let halted := r.stack.haltedCount
  let (slices, s) := r.stack.pop version count
  let r := reduceSlices e version symbol dynamic production (slices.length + 1) slices 0 halted
    { r with stack := s }
  (r, if before < r.stack.count then some before else none)

/-- Completes a tree of the whole text: the parts of the last tree that is not extra become parts
of the root, together with the extras around it. -/
def accept (e : Setting) (r : Run) (version : Nat) (lookahead : Subtree) : Run :=
  let s := r.stack.push e.table version (some lookahead) startState
  let (slices, s) := s.popAll version
  let complete := fun (r : Run) (slice : Stack.Slice) =>
    let trees := slice.trees
    let after := (trees.reverse.takeWhile (·.isExtra)).reverse
    match (trees.take (trees.length - after.length)).getLast? with
    | none => r
    | some tree =>
      let before := trees.take (trees.length - after.length - 1)
      let root := Subtree.ofParts e.table e.input tree.facts.start tree.symbol
        (before ++ tree.children ++ after) tree.facts.production
      { r with
        accepted := r.accepted + 1
        finished := match r.finished with
          | some old => if prefersSecond old root then some root else some old
          | none => some root }
  let r := slices.foldl complete { r with stack := s }
  let s := match slices.head? with
    | some slice => r.stack.remove slice.version
    | none => r.stack
  { r with stack := s.halt version }

/-! ### Recovery from errors -/

/-- The reductions that a state allows on some tokens, without repetition, and whether it can shift
one of them. -/
def possibleActions (t : Table) (state : Nat) (tokens : List Nat) :
    List (Nat × Nat × Int × Nat) × Bool :=
  let note := fun (acc : List (Nat × Nat × Int × Nat) × Bool) (a : Action) =>
    match a with
    | .shift _ repetition => (acc.1, acc.2 || !repetition)
    | .recover => (acc.1, true)
    | .reduce symbol count dynamic production =>
      if count = 0 || acc.1.any fun x => x.1 == symbol && x.2.1 == count then acc
      else (acc.1 ++ [(symbol, count, dynamic, production)], acc.2)
    | _ => acc
  tokens.foldl (fun acc token => (t.actionsAt state token).foldl note acc) ([], false)

/-- Makes all reductions that the parse `start` and those that come from it allow, on one token or
on any; the flag of the result says whether some parse can shift the token. On one token, parses
that can neither shift nor reduce are removed. -/
def reduceAll (e : Setting) (start : Nat) (lookahead : Option Nat) (before : Nat) :
    (fuel : Nat) → (turn version : Nat) → Bool → Run → Run × Bool
  | 0, _, _, able, r => (r, able)
  | fuel + 1, turn, version, able, r =>
    let count := r.stack.count
    if count ≤ version then (r, able)
    else
      let (s, merged) := r.stack.mergeIntoFirst e.table version
        ((List.range version).filter (before ≤ ·))
      if merged then reduceAll e start lookahead before fuel (turn + 1) version able { r with stack := s }
      else
        let tokens := match lookahead with
          | some l => [l]
          | none => (List.range e.table.bnf.terminals.size).tail
        let (reductions, shifts) := possibleActions e.table (r.stack.state version) tokens
        let (r, last) := reductions.foldl (fun (acc : Run × Option Nat) x =>
          acc.1.reduce e version x.1 x.2.1 x.2.2.1 x.2.2.2) (r, none)
        let advance := if version = start then count else version + 1
        if shifts then reduceAll e start lookahead before fuel (turn + 1) advance true r
        else match last with
          | some new =>
            if turn < limits.versions then
              reduceAll e start lookahead before fuel (turn + 1) version able
                (r.modifyStack (·.renumber new version))
            else if lookahead.isSome then
              reduceAll e start lookahead before fuel (turn + 1) advance able
                (r.modifyStack (·.remove version))
            else reduceAll e start lookahead before fuel (turn + 1) advance able r
          | none =>
            if lookahead.isSome then
              reduceAll e start lookahead before fuel (turn + 1) advance able
                (r.modifyStack (·.remove version))
            else reduceAll e start lookahead before fuel (turn + 1) advance able r

/-- All reductions from a parse, on one token or on any. -/
def allReductions (e : Setting) (r : Run) (start : Nat) (lookahead : Option Nat) : Run × Bool :=
  reduceAll e start lookahead r.stack.count (64 * (r.stack.count + 16)) 0 start false r

/-- Takes a parse back to an earlier state: what lies above it becomes skipped text. -/
def backTo (e : Setting) (r : Run) (version depth goal : Nat) : Run × Bool :=
  let (slices, s) := r.stack.pop version depth
  let visit := fun (acc : Stack × Option Nat) (slice : Stack.Slice) =>
    let (s, previous) := acc
    let v := slice.version
    if previous = some v then (s, previous)
    else if s.state v ≠ goal then (s.halt v, previous)
    else
      let place := s.place v
      let (error, s) := s.popError e.table v
      let trees := match error with
        | some x => x.children ++ slice.trees
        | none => slice.trees
      let (parts, trailing) := splitTrailingExtras trees
      let s := if parts.isEmpty then s
        else
          let skipped := Subtree.ofParts e.table e.input place (errorSymbol e.table) parts none
          s.push e.table v (some (skipped.withExtra true)) goal
      (trailing.foldl (fun s x => s.push e.table v (some x) goal) s, some v)
  let (s, previous) := slices.foldl visit (s, none)
  ({ r with stack := s }, previous.isSome)

/-- Removes the parses from position `n` on that do not go on. -/
def removeIdle (n : Nat) : (fuel : Nat) → Stack → Stack
  | 0, s => s
  | fuel + 1, s =>
    match ((List.range s.count).filter (n ≤ ·)).find? fun v => !s.isActive v with
    | some v => removeIdle n fuel (s.remove v)
    | none => s

/-- Tries to take a parse back to one of its earlier states in which the token fits. -/
def tryBack (e : Setting) (version : Nat) (lookahead : Subtree) (place cost : Nat)
    (skippedBefore : Bool) (count : Nat) : List Earlier → Run → Run × Bool
  | [], r => (r, false)
  | x :: rest, r =>
    let redundant := (List.range count).any fun j =>
      r.stack.state j == x.state && r.stack.place j == place
    if x.state = errorState || x.place = place || redundant then
      tryBack e version lookahead place cost skippedBefore count rest r
    else
      let depth := if skippedBefore then x.depth + 1 else x.depth
      let newCost := cost + x.depth * costs.tree + e.input.bytesBetween x.place place * costs.byte +
        e.input.rowsBetween x.place place * costs.line
      let (r, better) := r.betterExists version false newCost
      if better then (r, false)
      else if (e.table.actionsAt x.state lookahead.symbol).isEmpty then
        tryBack e version lookahead place cost skippedBefore count rest r
      else
        let (r, done) := r.backTo e version depth x.state
        if done then (r, true)
        else tryBack e version lookahead place cost skippedBefore count rest r

/-- Skips the token: it joins the skipped text on top of the parse. -/
def skipToken (e : Setting) (r : Run) (version : Nat) (lookahead : Subtree) (more : Bool) : Run :=
  let t := e.table
  let extra := match (t.actionsAt startState lookahead.symbol).getLast? with
    | some .shiftExtra => true
    | _ => false
  let lookahead := if extra then lookahead.withExtra true else lookahead
  let place := lookahead.facts.lead
  let wrap := fun parts => Subtree.ofParts t e.input place (skippedSymbol t) parts none
  let own := wrap [lookahead]
  if more then
    let (slices, s) := r.stack.pop version 1
    match slices with
    | [] => { r with stack := s.push t version (some own) errorState }
    | first :: others =>
      let s := if others.isEmpty then s
        else (List.range (s.count - (first.version + 1))).foldl (fun s _ =>
          s.remove (first.version + 1)) s
      let s := s.renumber first.version version
      { r with stack := s.push t version (some (wrap (first.trees ++ [own]))) errorState }
  else { r with stack := r.stack.push t version (some own) errorState }

/-- Deals with a token in the state of error recovery. -/
def recover (e : Setting) (r : Run) (version : Nat) (lookahead : Subtree) : Run :=
  let t := e.table
  let count := r.stack.count
  let place := r.stack.place version
  let r := r.modifyStack (·.lowerMark version)
  let skippedBefore := 0 < r.stack.countSinceError version
  let cost := r.stack.errorCost version
  let earlier := if lookahead.isError t then [] else ((r.stack.head version).earlier).getD []
  let (r, back) := tryBack e version lookahead place cost skippedBefore count earlier r
  let r := r.modifyStack fun s => removeIdle count s.count s
  if lookahead.symbol = 0 then
    let nothing := (Subtree.ofParts t e.input place (errorSymbol t) [] none)
    (r.modifyStack fun s => s.push t version (some nothing) startState).accept e version lookahead
  else if back && limits.versions < r.stack.count then r.modifyStack (·.halt version)
  else
    let f := lookahead.facts
    let newCost := cost + costs.tree + e.input.bytesBetween f.lead f.stop * costs.byte +
      e.input.rowsBetween f.lead f.stop * costs.line
    let (r, better) := r.betterExists version false newCost
    if better then r.modifyStack (·.halt version)
    else r.skipToken e version lookahead skippedBefore

/-- Puts in the first missing token after which the state can reduce on the token ahead, and after
whose reductions the token ahead can be shifted. -/
def tryMissing (e : Setting) (version : Nat) (lookahead place : Nat) : List Nat → Run → Run × Bool
  | [], r => (r, false)
  | symbol :: rest, r =>
    let t := e.table
    let state := r.stack.state version
    let after := t.next state symbol
    let reduces := match (t.actionsAt after lookahead).head? with
      | some (.reduce ..) => true
      | _ => false
    if after = 0 || after = state || !reduces then tryMissing e version lookahead place rest r
    else
      let new := r.stack.count
      let s := r.stack.copy version
      let s := s.push t new (some (.missingToken t symbol place)) after
      let (r, able) := ({ r with stack := s } : Run).allReductions e new (some lookahead)
      if able then (r, true) else tryMissing e version lookahead place rest r

/-- Visits the parses that share an error: a missing token is put in for the first that has one,
and all are broken off. -/
def breakOff (e : Setting) (lookahead place : Nat) : List Nat → Bool → Run → Run
  | [], _, r => r
  | v :: rest, did, r =>
    let (r, did) :=
      if did then (r, true)
      else tryMissing e v lookahead place (List.range e.table.bnf.terminals.size).tail r
    breakOff e lookahead place rest did
      (r.modifyStack fun s => s.push e.table v none errorState)

/-- Starts the recovery of a parse from a token that does not fit. -/
def handleError (e : Setting) (r : Run) (version : Nat) (lookahead : Subtree) : Run :=
  let before := r.stack.count
  let (r, _) := r.allReductions e version none
  let count := r.stack.count
  let place := r.stack.place version
  let r := breakOff e lookahead.symbol place
    (version :: (List.range count).filter (before ≤ ·)) false r
  let s := (List.range (count - before)).foldl (fun s _ =>
    (s.merge e.table version before).1) r.stack
  let found := s.earlierStates version limits.depth
  let s := s.modifyHead version fun h => { h with earlier := some found }
  ({ r with stack := s } : Run).recover e version lookahead

/-! ### Rounds -/

/-- What became of the actions on a token. -/
inductive Advance where
  /-- The token was taken, or the parse ended. -/
  | done
  /-- Reductions were made; `some` names the parse that the last of them made. -/
  | reduced (last : Option Nat)
  /-- There was no action. -/
  | stuck

/-- Performs the actions on a token, in order. -/
def perform (e : Setting) (version : Nat) (lookahead : Subtree) :
    List Action → (last : Option Nat) → (any : Bool) → Run → Run × Advance
  | [], last, any, r => (r, if any then .reduced last else .stuck)
  | a :: rest, last, any, r =>
    match a with
    | .shift _ true => perform e version lookahead rest last any r
    | .shift state false =>
      (r.modifyStack fun s => s.push e.table version (some (lookahead.withExtra false)) state, .done)
    | .shiftExtra =>
      (r.modifyStack fun s =>
        s.push e.table version (some (lookahead.withExtra true)) (s.state version), .done)
    | .reduce symbol count dynamic production =>
      let (r, new) := r.reduce e version symbol count dynamic production
      perform e version lookahead rest (new.or last) true r
    | .accept => (r.accept e version lookahead, .done)
    | .recover => (r.recover e version lookahead, .done)

/-- Lets a parse go on until it has taken a token, or cannot go on. A keyword that does not fit is
taken for a plain word where that fits. -/
def advanceWith (e : Setting) (version : Nat) : (fuel : Nat) → Subtree → Run → Run
  | 0, _, r => r.modifyStack (·.halt version)
  | fuel + 1, lookahead, r =>
    let state := r.stack.state version
    match perform e version lookahead (e.table.actionsAt state lookahead.symbol) none false r with
    | (r, .done) => r
    | (r, .reduced (some new)) =>
      advanceWith e version fuel lookahead (r.modifyStack (·.renumber new version))
    | (r, .reduced none) => r.modifyStack (·.halt version)
    | (r, .stuck) =>
      if lookahead.facts.keyword && lookahead.symbol ≠ 1 &&
          !(e.table.actionsAt state 1).isEmpty then
        advanceWith e version fuel (lookahead.withSymbol 1 true) r
      else if state = errorState then r.recover e version lookahead
      else r.modifyStack (·.pause version lookahead)

/-- Enough steps for one token: each reduction shortens the stack or turns one tree into another. -/
def stepLimit (e : Setting) : Nat := 64 * (e.input.length + 64)

/-- Lets a parse go on with the next token. -/
def advance (e : Setting) (r : Run) (version : Nat) : Run :=
  let lookahead := nextToken e.table e.input (r.stack.place version) (r.stack.state version)
  advanceWith e version (stepLimit e) lookahead r

/-- Lets one parse go on until it has passed the place that the round has reached. -/
def advanceBeyond (e : Setting) (version : Nat) : (fuel : Nat) → (last : Nat) → Run → Run × Nat
  | 0, last, r => (r, last)
  | fuel + 1, last, r =>
    if r.stack.isActive version then
      let r := r.advance e version
      let place := r.stack.place version
      if last < place || (0 < version && place = last) then (r, place)
      else advanceBeyond e version fuel last r
    else (r, last)

/-- Lets all parses go on, those too that are made on the way. -/
def advanceAll (e : Setting) : (fuel : Nat) → (version last : Nat) → Run → Run × Nat
  | 0, _, last, r => (r, last)
  | fuel + 1, version, last, r =>
    if version < r.stack.count then
      let (r, last) := advanceBeyond e version (stepLimit e) last r
      advanceAll e fuel (version + 1) last r
    else (r, last)

/-- Compares parse `i` with those before it, from `j` on. The result says whether `i` is gone. -/
def condenseAgainst (t : Table) (own : Standing) : (fuel : Nat) → (i j : Nat) → Run → Run × Nat
  | 0, i, _, r => (r, i + 1)
  | fuel + 1, i, j, r =>
    if j < i then
      let r := r.modifyStack (·.lowerMark j)
      let merged := fun (r : Run) =>
        let (s, merged) := r.stack.merge t j i
        (({ r with stack := s } : Run), merged)
      match (r.standing j).compare own with
      | .takeLeft => (r.modifyStack (·.remove i), i)
      | .preferLeft | .neither =>
        let (r, gone) := merged r
        if gone then (r, i) else condenseAgainst t own fuel i (j + 1) r
      | .preferRight =>
        let (r, gone) := merged r
        if gone then (r, i)
        else condenseAgainst t own fuel i (j + 1) (r.modifyStack (·.swap i j))
      | .takeRight => condenseAgainst t own fuel (i - 1) j (r.modifyStack (·.remove j))
    else (r, i + 1)

/-- Compares all parses with each other: given-up ones go, clearly worse ones go, equal ones are
merged, and better ones come first. The result holds the least cost of a parse without open
error. -/
def condenseFrom (t : Table) : (fuel : Nat) → (i : Nat) → Option Nat → Run → Run × Option Nat
  | 0, _, least, r => (r, least)
  | fuel + 1, i, least, r =>
    if i < r.stack.count then
      if r.stack.isHalted i then condenseFrom t fuel i least (r.modifyStack (·.remove i))
      else
        let r := r.modifyStack (·.lowerMark i)
        let own := r.standing i
        let least := if own.inError then least else
          some (match least with
            | some n => min n own.cost
            | none => own.cost)
        let (r, next) := condenseAgainst t own (r.stack.count + 1) i 0 r
        condenseFrom t fuel next least r
    else (r, least)

/-- Lets the first parse recover if all before it wait too; other waiting parses are dropped. -/
def wake (e : Setting) : (fuel : Nat) → (i : Nat) → (going : Bool) → Option Nat → Run →
    Run × Option Nat
  | 0, _, _, least, r => (r, least)
  | fuel + 1, i, going, least, r =>
    if i < r.stack.count then
      if r.stack.isPaused i then
        if !going && r.accepted < limits.versions then
          let least := some (r.stack.errorCost i)
          let (s, lookahead) := r.stack.resume i
          let count := s.count
          let r := { r with stack := s }
          let r := match lookahead with
            | some l => r.handleError e i l
            | none => r
          wakeRest e fuel (i + 1) count least r
        else wake e fuel i going least (r.modifyStack (·.remove i))
      else wake e fuel (i + 1) true least r
    else (r, least)
where
  /-- Drops the waiting parses from `i` on, among the first `n`. -/
  wakeRest (e : Setting) (fuel i n : Nat) (least : Option Nat) (r : Run) : Run × Option Nat :=
    match fuel with
    | 0 => (r, least)
    | fuel + 1 =>
      if i < n then
        if r.stack.isPaused i then wakeRest e fuel i (n - 1) least (r.modifyStack (·.remove i))
        else wakeRest e fuel (i + 1) n least r
      else (r, least)

/-- Compares the parses after a round, and starts recovery if all that are left wait. -/
def condense (e : Setting) (r : Run) : Run × Option Nat :=
  let (r, least) := condenseFrom e.table (4 * r.stack.count + 4) 0 none r
  let r := r.modifyStack fun s => { s with heads := s.heads.take limits.versions }
  wake e (4 * r.stack.count + 4) 0 false least r

/-- Rounds until no parse is left, or a complete tree is better than all that are. -/
def rounds (e : Setting) : (fuel : Nat) → (last : Nat) → Run → Run
  | 0, _, r => r
  | fuel + 1, last, r =>
    let (r, last) := advanceAll e (stepLimit e) 0 last r
    let (r, least) := r.condense e
    let better := r.finished.any fun t => match least with
      | some n => t.facts.errorCost < n
      | none => true
    if better || r.stack.count = 0 then r else rounds e fuel last r

end Run

/-- The tree of a text. There always is one; a text that is no program gives a tree with errors. -/
def parse (t : Table) (text : String) : Input × Option Subtree :=
  let input := Input.ofString text
  let e : Setting := ⟨t, input⟩
  let r := Run.rounds e (Run.stepLimit e) 0 ⟨.initial, none, 0⟩
  (input, r.finished)

end JavaLint.Parse
