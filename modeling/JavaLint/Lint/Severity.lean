import JavaLint.Text.Blank
import JavaLint.Text.Lowercase

/-!
# Severities

Each rule runs at a severity, which its reports carry. At the lowest severity a rule does not run.
-/

namespace JavaLint

/-- How grave a report is. -/
inductive Severity where
  /-- Reports are dropped. -/
  | ignore
  | info
  | warning
  | error
deriving DecidableEq, Repr, Inhabited

namespace Severity

/-- The place in the order, from the least grave. -/
def rank : Severity → Nat
  | ignore => 0
  | info => 1
  | warning => 2
  | error => 3

instance : Ord Severity := ⟨fun a b => compare a.rank b.rank⟩

/-- The severity of a rule for which none is given. -/
def standard : Severity := error

/-- The name of a severity. -/
def name : Severity → String
  | ignore => "ignore"
  | info => "info"
  | warning => "warning"
  | error => "error"

/-- The severity with a name; case and blanks around do not matter. -/
def parse? (text : String) : Option Severity :=
  match Text.lower (Text.trim text) with
  | "ignore" => some ignore
  | "info" => some info
  | "warning" => some warning
  | "warn" => some warning
  | "error" => some error
  | _ => none

/-- What is said of a name that is no severity. -/
def invalidMessage (text : String) : String :=
  s!"invalid severity '{text}', expected ignore, info, warning or error"

end Severity

end JavaLint
