import JavaLint.Lint.Linter

/-!
# The rules that a configuration is read for

The rules of a checkstyle configuration stand in modules of one name directly below the root, the
walkers. Only the first walker is read: what stands in the later ones becomes no rule, nor is it
among the modules about whole files (`Config.Checkstyle.walkedModules_eq`). The modules of the first
walker become rules one by one in the order of the document, save those that the overlay disables
and those whose names no factory knows (`Linter.rules_ofConfig`).

Main statement: nothing that is configured is lost exactly if the later walkers hold no module that
would become a rule (`Linter.rules_ofConfig_eq_iff`). A configuration with a rule in its second
walker shows that something can be lost (`Linter.rules_ofConfig_secondWalker`).
-/

namespace JavaLint

open JavaLint.Config

/-! ### The modules of a configuration -/

namespace Config.Checkstyle

/-- The modules directly below the root that hold rules. -/
def walkers (c : Checkstyle) : List Module := c.root.modules.filter fun m => m.name == walkerName

/-- The modules directly below any walker, in the order of the document. -/
def walkedModules (c : Checkstyle) : List Module := c.walkers.flatMap Module.modules

/-- The modules directly below the walkers after the first. -/
def laterModules (c : Checkstyle) : List Module := c.walkers.tail.flatMap Module.modules

theorem treeWalker?_eq_head? (c : Checkstyle) : c.treeWalker? = c.walkers.head? :=
  List.head?_filter.symm

/-- Of all walkers only the first one is read for rules. -/
theorem walkedModules_eq (c : Checkstyle) : c.walkedModules = c.rules ++ c.laterModules := by
  rw [walkedModules, laterModules, rules, treeWalker?_eq_head?]
  cases c.walkers with
  | nil => rfl
  | cons first later => rfl

/-- A module directly below the root is a walker or one about whole files. -/
theorem modules_perm (c : Checkstyle) : c.root.modules.Perm (c.walkers ++ c.fileModules) :=
  (List.filter_append_perm (fun m : Module => m.name == walkerName) c.root.modules).symm

end Config.Checkstyle

/-! ### The rules of the linter -/

namespace Linter

variable {registry : Registry} {overlay : Option Overlay} {c : Checkstyle} {m : Module}

/-- The rule that a module below a walker asks for: the registry makes it from the properties of the
module, and its severity is written at the module or else at the root. There is none if the overlay
disables it or no factory knows its name. -/
def moduleRule? (registry : Registry) (overlay : Option Overlay) (c : Checkstyle) (m : Module) :
    Option ActiveRule :=
  if overlay.any fun o => o.modes.lookup m.name = some .disabled then none
  else (registry.create? m.name m.propertyMap).map fun rule =>
    ⟨rule, (((m.property? "severity").or (c.property? "severity")).bind Severity.parse?).getD
      .standard⟩

/-- A module asks for a rule exactly if its name is known and the overlay does not disable it. -/
theorem isSome_moduleRule?_iff : (moduleRule? registry overlay c m).isSome = true ↔
    registry.has m.name = true ∧ ∀ o ∈ overlay, o.modes.lookup m.name ≠ some .disabled := by
  have hknown : ∀ {f : Rule → ActiveRule},
      ((registry.create? m.name m.propertyMap).map f).isSome = registry.has m.name := by
    intro f
    rw [Registry.create?, Registry.has, Option.isSome_map, Option.isSome_map]
  cases overlay with
  | none =>
    have hnone : moduleRule? registry none c m = _ := if_neg Bool.false_ne_true
    rw [hnone, hknown]
    exact (and_iff_left fun o ho => nomatch ho).symm
  | some o =>
    by_cases hmode : o.modes.lookup m.name = some .disabled
    · have hnone : moduleRule? registry (some o) c m = none := if_pos (decide_eq_true hmode)
      rw [hnone]
      exact iff_of_false Bool.false_ne_true fun h => h.2 o rfl hmode
    · have hsome : moduleRule? registry (some o) c m = _ :=
        if_neg fun h => hmode (of_decide_eq_true h)
      rw [hsome, hknown]
      refine (and_iff_left fun o' ho' => ?_).symm
      rwa [← Option.some.inj ho']

/-- The rules of a linter are those that the modules of the first walker ask for. -/
theorem rules_ofConfig (c : Checkstyle) (overlay : Option Overlay) (registry : Registry) :
    (ofConfig (.of c overlay) registry).rules =
      c.rules.filterMap (moduleRule? registry overlay c) := by
  rw [ofConfig, Merged.enabledRules, Merged.of, List.filterMap_filter, List.filterMap_map]
  refine congrArg (List.filterMap · c.rules) (funext fun m => ?_)
  cases overlay with
  | none => rfl
  | some o =>
    by_cases hlisted : o.modes.lookup m.name = some .disabled
    · have hmode : o.modeOf m.name = .disabled := Overlay.modeOf_eq_disabled_iff.2 hlisted
      simp [moduleRule?, Merged.configure, ConfiguredRule.isEnabled, hlisted, hmode]
    · have hmode : o.modeOf m.name ≠ .disabled := mt Overlay.modeOf_eq_disabled_iff.1 hlisted
      simp [moduleRule?, activeRule?, severityOf, Merged.configure, ConfiguredRule.isEnabled,
        Merged.severityName, hlisted, hmode]

/-- No configured rule is lost exactly if the later walkers hold no module that would become a rule.
The linter of a configuration has, in the order of the document, one rule for each module of the
first walker whose name is known and which the overlay does not disable. Modules of later walkers
become no rules, and are the only modules directly below the root or below a walker that are neither
read as rules nor as modules about whole files. So the linter has the rules of all walkers exactly
if every module of a later walker has an unknown name or is disabled. -/
theorem rules_ofConfig_eq_iff (c : Checkstyle) (overlay : Option Overlay) (registry : Registry) :
    ((ofConfig (.of c overlay) registry).rules =
        c.rules.filterMap (moduleRule? registry overlay c) ∧
      ∀ m, (moduleRule? registry overlay c m).isSome = true ↔
        registry.has m.name = true ∧ ∀ o ∈ overlay, o.modes.lookup m.name ≠ some .disabled) ∧
    (c.root.modules.Perm (c.walkers ++ c.fileModules) ∧
      c.walkedModules = c.rules ++ c.laterModules) ∧
    ((ofConfig (.of c overlay) registry).rules =
        c.walkedModules.filterMap (moduleRule? registry overlay c) ↔
      ∀ m ∈ c.laterModules, registry.has m.name = true →
        ∃ o ∈ overlay, o.modes.lookup m.name = some .disabled) := by
  refine ⟨⟨rules_ofConfig c overlay registry, fun m => isSome_moduleRule?_iff⟩,
    ⟨c.modules_perm, c.walkedModules_eq⟩, ?_⟩
  have hlost : c.laterModules.filterMap (moduleRule? registry overlay c) = [] ↔
      ∀ m ∈ c.laterModules, ¬ (moduleRule? registry overlay c m).isSome = true := by
    simp only [List.filterMap_eq_nil_iff, Option.not_isSome_iff_eq_none]
  rw [rules_ofConfig, c.walkedModules_eq, List.filterMap_append, List.self_eq_append_right,
    hlost]
  refine forall₂_congr fun m _ => ?_
  rw [isSome_moduleRule?_iff, not_and]
  refine imp_congr_right fun _ => ?_
  simp only [Classical.not_forall, ne_eq, Classical.not_not, exists_prop]

/-- A configuration whose second walker holds a rule, which is known and not disabled. The linter
does not have it, and it is no module about whole files either. -/
theorem rules_ofConfig_secondWalker :
    let order : Module := .mk "ModifierOrder" [] []
    let c : Checkstyle := ⟨.mk "Checker" [] [.mk "TreeWalker" [] [], .mk "TreeWalker" [] [order]]⟩
    order ∈ c.walkedModules ∧ Registry.builtin.has order.name = true ∧
      (ofConfig (.of c none) .builtin).rules = [] ∧
      (c.walkedModules.filterMap (moduleRule? .builtin none c)).length = 1 ∧
      c.rules = [] ∧ c.fileModules = [] := by
  intro order c
  exact ⟨List.mem_singleton_self order, rfl, rfl, rfl, rfl, rfl⟩

end Linter

end JavaLint
