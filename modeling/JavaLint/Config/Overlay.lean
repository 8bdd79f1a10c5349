import JavaLint.Text.Lowercase

/-!
# Overlays

An overlay may name the checkstyle configuration that it belongs to, and switches rules off without a
change to that.
-/

namespace JavaLint.Config

/-- Whether a configured rule runs. -/
inductive RuleMode where
  /-- The rule runs. -/
  | check
  /-- The rule does not run. -/
  | disabled
deriving DecidableEq, Repr, Inhabited

namespace RuleMode

/-- The mode that a text names, whatever its case is. -/
def parse? (text : String) : Option RuleMode :=
  match Text.lower text with
  | "check" => some check
  | "on" => some check
  | "disabled" => some disabled
  | "disable" => some disabled
  | "off" => some disabled
  | _ => none

/-- What is said of a text that names no mode. -/
def invalidMessage (text : String) : String :=
  s!"Invalid rule mode: {text}. Expected check or disabled"

end RuleMode

/-- An overlay. -/
structure Overlay where
  /-- The path of the checkstyle configuration. -/
  checkstyle : Option String
  /-- The modes of rules; no rule occurs twice. -/
  modes : List (String × RuleMode)
deriving DecidableEq, Repr, Inhabited

namespace Overlay

/-- The mode of a rule; rules that are not listed run. -/
def modeOf (o : Overlay) (rule : String) : RuleMode := (o.modes.lookup rule).getD .check

theorem modeOf_eq_disabled_iff {o : Overlay} {rule : String} :
    o.modeOf rule = .disabled ↔ o.modes.lookup rule = some .disabled := by
  rw [modeOf]
  cases o.modes.lookup rule with
  | none => exact iff_of_false nofun nofun
  | some mode => exact Option.some_inj.symm

/-- Whether a rule runs. -/
def enables (o : Overlay) (rule : String) : Bool := o.modeOf rule != .disabled

end Overlay

end JavaLint.Config
