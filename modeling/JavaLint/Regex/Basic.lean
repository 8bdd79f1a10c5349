import JavaLint.Regex.Parser
import JavaLint.Regex.Program

/-!
# Searching with regular expressions

A regular expression is searched for in a text. The match that starts first is found, and of those the
one that the expression prefers.
-/

namespace JavaLint

/-- A regular expression that is ready for searching. -/
structure Regex where
  /-- What is searched for. -/
  expr : Regex.Expr
  /-- The number of its groups. -/
  groups : Nat
  program : Array Regex.Instr
deriving Inhabited

namespace Regex

/-- Where a match and its groups lie. -/
structure Match where
  /-- The characters of the text. -/
  text : List Char
  /-- The number of characters before each start and each end, the whole match first. -/
  slots : Array (Option Nat)
deriving Inhabited

/-- What a group has matched, if it took part in the match. The group with the number zero is the whole
match. -/
def Match.group? (m : Match) (index : Nat) : Option String :=
  match m.slots[2 * index]?.join, m.slots[2 * index + 1]?.join with
  | some start, some stop => some (String.ofList ((m.text.drop start).take (stop - start)))
  | _, _ => none

/-- The expression that a text writes, if it writes one. -/
def ofText? (text : String) : Option Regex :=
  (Expr.ofText? text).map fun (expr, groups) => ⟨expr, groups, Program.ofExpr expr⟩

/-- The first match in a text. -/
def find? (r : Regex) (text : String) : Option Match :=
  (Program.run r.program (2 * (r.groups + 1)) text.toList none 0 [] none).map fun slots =>
    ⟨text.toList, slots⟩

/-- Whether a text has a match. -/
def matchesIn (r : Regex) (text : String) : Bool := (r.find? text).isSome

end Regex

end JavaLint
