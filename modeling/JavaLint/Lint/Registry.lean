import JavaLint.Config.Module
import JavaLint.Modifier.Clause

/-!
# Registries of rules

A registry makes the rules that a configuration names.
-/

namespace JavaLint

/-- Makes a rule from its properties. -/
abbrev RuleFactory := Config.PropertyMap → Rule

/-- The factories of rules by the names of their modules. -/
structure Registry where
  /-- The names with their factories; no name occurs twice. -/
  factories : List (String × RuleFactory)
deriving Inhabited

namespace Registry

/-- The registry without rules. -/
def empty : Registry := ⟨[]⟩

/-- Adds a factory, in place of an earlier one of the same name. -/
def register (r : Registry) (name : String) (factory : RuleFactory) : Registry :=
  ⟨r.factories.filter (fun f => f.1 != name) ++ [(name, factory)]⟩

/-- The registry of the rules of this library. -/
def builtin : Registry := empty.register Modifier.ruleName fun _ => Modifier.rule

/-- The rule of a module, if its name is known. -/
def create? (r : Registry) (name : String) (properties : Config.PropertyMap) : Option Rule :=
  (r.factories.lookup name).map (· properties)

/-- Whether a name is known. -/
def has (r : Registry) (name : String) : Bool := (r.factories.lookup name).isSome

/-- All names, in the order of their characters. -/
def names (r : Registry) : List String :=
  (r.factories.map (·.1)).mergeSort fun a b => a ≤ b

end Registry

end JavaLint
