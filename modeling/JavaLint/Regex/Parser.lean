import JavaLint.Regex.Bracket

/-!
# Reading a written expression

An expression is read from left to right. The groups that are open are kept on a stack, each with its
finished alternatives and the items of the one that is being read.
-/

namespace JavaLint.Regex

open JavaLint.Text JavaLint.Unicode

/-- An item of an alternative. -/
structure Item where
  expr : Expr
  /-- How deeply groups, repetitions and lists are nested in the item. -/
  depth : Nat
  /-- Whether it may be repeated; switches may not. -/
  repeatable : Bool
deriving Inhabited

namespace Item

/-- An item without parts. -/
def leaf (e : Expr) : Item := ⟨e, 0, true⟩

/-- Several items in one. -/
def join (f : List Expr → Expr) : List Item → Item
  | [] => ⟨.empty, 0, true⟩
  | [i] => i
  | items => ⟨f (items.map (·.expr)), 1 + (items.map (·.depth)).foldl max 0, true⟩

end Item

/-- A group that is being read, or the whole expression. -/
structure OpenGroup where
  /-- The number under which the group keeps what it matches. -/
  index : Option Nat
  /-- The switches around the group. -/
  around : Flags
  /-- The alternatives that are finished, the last first. -/
  alternatives : List Item
  /-- The items of the alternative that is being read, the last first. -/
  items : List Item
deriving Inhabited

namespace OpenGroup

/-- A group of which nothing has been read. -/
def start (index : Option Nat) (around : Flags) : OpenGroup := ⟨index, around, [], []⟩

/-- Adds an item. -/
def push (g : OpenGroup) (i : Item) : OpenGroup := { g with items := i :: g.items }

/-- Finishes an alternative. -/
def branch (g : OpenGroup) : OpenGroup :=
  { g with alternatives := Item.join .seqs g.items.reverse :: g.alternatives, items := [] }

/-- All that has been read of the group. -/
def content (g : OpenGroup) : Item := Item.join .anyOf g.branch.alternatives.reverse

/-- The group as an item, when it is closed. -/
def close (g : OpenGroup) : Item :=
  let content := g.content
  let expr := match g.index with
    | some i => .group i content.expr
    | none => content.expr
  ⟨expr, 1 + content.depth, true⟩

end OpenGroup

/-- How far an expression has been read. -/
structure Reading where
  /-- What is left to read. -/
  rest : List Char
  flags : Flags
  /-- The number of groups that keep what they match. -/
  groups : Nat
  /-- The names of groups. -/
  names : List (List Char)
  current : OpenGroup
  /-- The groups around the current one, the nearest first. -/
  outer : List OpenGroup
deriving Inhabited

namespace Reading

/-- Nothing of the text has been read. -/
def ofText (text : String) : Reading :=
  ⟨text.toList, .standard, 0, [], .start none .standard, []⟩

/-- Adds an item to the current group, and goes on with the rest. -/
def push (r : Reading) (i : Item) (rest : List Char) : Reading :=
  { r with rest, current := r.current.push i }

/-! ## Repetition -/

/-- A number in decimal digits, with blanks around, if it fits into 32 bits. -/
def decimal? (f : Flags) (cs : List Char) : Option (Nat × List Char) :=
  let (digits, rest) := f.span Char.isDigit (cs.dropWhile isBlank)
  let (_, rest) := f.span isBlank rest
  let n := digits.foldl (fun n c => 10 * n + (c.toNat - 48)) 0
  if digits.isEmpty || UInt32.size ≤ n then none else some (n, rest)

/-- Puts a repetition in the place of the last item. -/
def repeatLast (r : Reading) (least : Nat) (most : Option Nat) (rest : List Char) :
    Option Reading :=
  let (greedy, rest) := match rest with
    | '?' :: rest => (false, rest)
    | rest => (true, rest)
  match r.current.items with
  | [] => none
  | last :: items =>
    if last.repeatable then
      let expr := .repeated least most (greedy != r.flags.swapGreed) last.expr
      some { r with rest, current := { r.current with items := ⟨expr, 1 + last.depth, true⟩ :: items } }
    else none

/-- Reads a repetition with numbers behind its brace. -/
def repeatCounted (r : Reading) (cs : List Char) : Option Reading := do
  let f := r.flags
  let (least, cs) ← decimal? f (f.skip cs)
  let (most, cs) ←
    match cs with
    | ',' :: cs =>
      match f.skip cs with
      | '\x7d' :: _ => some (none, f.skip cs)
      | cs => (decimal? f cs).map fun (n, cs) => (some n, cs)
    | cs => some (some least, cs)
  let cs ← behind? ['\x7d'] cs
  if most.all (least ≤ ·) then r.repeatLast least most (f.skip cs) else none

/-! ## Groups -/

/-- Whether the name of a group may hold a character, or start with it. -/
def isNameChar (first : Bool) (c : Char) : Bool :=
  c == '_' || (if first then alphabetic.contains c
    else c == '.' || c == '[' || c == ']' || alphanumeric.contains c)

/-- The name of a group up to its bracket; it has to be new. -/
def groupName? (r : Reading) (cs : List Char) : Option (List Char × List Char) :=
  let name := cs.takeWhile (· != '>')
  match name, cs.dropWhile (· != '>') with
  | c :: more, _ :: rest =>
    if isNameChar true c && more.all (isNameChar false) && !r.names.contains name then
      some (name, rest)
    else none
  | _, _ => none

/-- Reads switches up to the mark that ends them; returns that mark with the switches. A hyphen
switches off what follows it. No switch is written twice, and something follows the hyphen. -/
def switches? : Flags → List Char → Bool → List Char → Option (Flags × Char × Bool × List Char)
  | _, _, _, [] => none
  | f, seen, on, c :: cs =>
    if c = ':' ∨ c = ')' then
      if seen.head? = some '-' then none else some (f, c, seen.isEmpty, cs)
    else if seen.contains c then none
    else if c = '-' then switches? f (c :: seen) false cs
    else (f.set? c on).bind fun f => switches? f (c :: seen) on cs

/-- Opens a group whose content starts at the rest. -/
def openGroup (r : Reading) (index : Option Nat) (flags : Flags) (rest : List Char) : Reading :=
  { r with rest, flags, current := .start index r.flags, outer := r.current :: r.outer }

/-- Opens a group that keeps what it matches. -/
def openKeeping (r : Reading) (rest : List Char) : Reading :=
  { r.openGroup (some (r.groups + 1)) r.flags rest with groups := r.groups + 1 }

/-- Reads the start of a group behind its parenthesis, or switches for the rest of the group that is
open. Groups that look ahead or back are not known. -/
def group (r : Reading) (cs : List Char) : Option Reading :=
  match r.flags.skip cs with
  | '?' :: '=' :: _ | '?' :: '!' :: _ | '?' :: '<' :: '=' :: _ | '?' :: '<' :: '!' :: _ => none
  | '?' :: 'P' :: '<' :: cs | '?' :: '<' :: cs =>
    (r.groupName? cs).map fun (name, rest) =>
      { r.openKeeping rest with names := name :: r.names }
  | '?' :: cs =>
    match switches? r.flags [] true cs with
    | some (flags, mark, noneGiven, rest) =>
      if mark = ':' then some (r.openGroup none flags rest)
      else if noneGiven then none
      else some { r.push ⟨.empty, 0, false⟩ rest with flags }
    | none => none
  | cs => some (r.openKeeping cs)

/-- Closes the group that is open. -/
def closeGroup (r : Reading) (rest : List Char) : Option Reading :=
  match r.outer with
  | [] => none
  | next :: outer =>
    some { r with
      rest, flags := r.current.around, current := next.push r.current.close, outer }

/-! ## The whole -/

/-- The set that a dot matches. A set of bytes beyond ASCII has no meaning. -/
def dotSet? (f : Flags) : Option CharSet :=
  if !f.unicode then none
  else if f.dotAll then some (CharSet.complement .empty)
  else if f.crlf then some (CharSet.complement (.ofChars ['\n', '\r']))
  else some (CharSet.complement (.single '\n'))

/-- Adds what an atom stands for. -/
def pushAtom (r : Reading) (a : Atom) (rest : List Char) : Option Reading :=
  match a with
  | .set s => some (r.push (.leaf (.oneOf s)) rest)
  | .assert a => some (r.push (.leaf (.assert a)) rest)
  | .char c asByte =>
    let f := r.flags
    if !f.unicode && asByte && 128 ≤ c.val then none
    else if !f.unicode && 128 ≤ c.val then some (r.push (.leaf (.oneOf (.single c))) rest)
    else (f.closeSet false (.single c)).map fun s => r.push (.leaf (.oneOf s)) rest

/-- Reads one item, or one mark between items. -/
def step (r : Reading) : Option Reading :=
  match r.rest with
  | [] => some r
  | '(' :: cs => r.group cs
  | ')' :: cs => r.closeGroup cs
  | '|' :: cs => some { r with rest := cs, current := r.current.branch }
  | '[' :: cs =>
    (r.flags.bracket cs).map fun (set, depth, rest) => r.push ⟨.oneOf set, depth, true⟩ rest
  | '?' :: cs => r.repeatLast 0 (some 1) cs
  | '*' :: cs => r.repeatLast 0 none cs
  | '+' :: cs => r.repeatLast 1 none cs
  | '\x7b' :: cs => r.repeatCounted cs
  | '.' :: cs => (dotSet? r.flags).map fun s => r.push (.leaf (.oneOf s)) cs
  | '^' :: cs =>
    let a := if r.flags.manyLines then .lineStart r.flags.crlf else .textStart
    some (r.push (.leaf (.assert a)) cs)
  | '$' :: cs =>
    let a := if r.flags.manyLines then .lineEnd r.flags.crlf else .textEnd
    some (r.push (.leaf (.assert a)) cs)
  | '\\' :: cs => (r.flags.escape cs).bind fun (a, rest) => r.pushAtom a rest
  | c :: cs => r.pushAtom (.char c false) cs

/-- Reads to the end. Each step takes a character or more, so `fuel` need not exceed their number. -/
def finish : Nat → Reading → Option Reading
  | 0, r => if r.rest.isEmpty then some r else none
  | fuel + 1, r =>
    let r := { r with rest := r.flags.skip r.rest }
    if r.rest.isEmpty then some r else r.step.bind (finish fuel)

/-- How deeply an expression may be nested. -/
def depthLimit : Nat := 250

end Reading

/-- Reads a written expression; returns it with the number of its groups that keep what they match.
There is none if it is not well written, nested too deeply or too large. -/
def Expr.ofText? (text : String) : Option (Expr × Nat) := do
  let r ← Reading.finish (text.length + 1) (.ofText text)
  let content := r.current.content
  if r.outer.isEmpty && content.depth ≤ Reading.depthLimit && content.expr.cost ≤ costLimit then
    pure (content.expr, r.groups)
  else none

end JavaLint.Regex
