import Mathlib.Data.List.Forall2
import JavaLint.Lint.Linter

/-!
# What a linter takes from its configuration

The linter of a configuration is put together entry by entry: each enabled rule whose name is known
adds a rule, and each module that configures a filter with sound expressions adds a filter
(`Linter.ofConfig_eq_assemble`). Everything else is passed over, wherever it stands among the others.

A configured rule asks for the rule that the registry makes from its own properties, at its own
severity (`ActiveRule.IsAskedBy`), and a module for the filter of its own expressions
(`CommentFilter.IsAskedBy`). Main statement: the linter has exactly what is asked for, in order, and
an entry can be deleted without a change to the linter exactly if it asks for nothing
(`Linter.ofConfig_exact`).
-/

namespace JavaLint

open JavaLint.Config

/-! ### Severities as they are written -/

namespace Severity

/-- The names under which a severity may be written, in small letters. -/
def spellings : Severity → List String
  | ignore => ["ignore"]
  | info => ["info"]
  | warning => ["warning", "warn"]
  | error => ["error"]

/-- The text names the severity; case and blanks around do not matter. -/
def Spelled (text : String) (s : Severity) : Prop := Text.lower (Text.trim text) ∈ s.spellings

/-- A severity is read where it is spelled, and from no other text. -/
theorem parse?_eq_some_iff {text : String} {s : Severity} :
    parse? text = some s ↔ Spelled text s := by
  unfold parse? Spelled
  generalize Text.lower (Text.trim text) = word
  split
  all_goals
    cases s <;> simp_all [spellings]

/-- The severity that a rule runs at: the one that is written for it, and the gravest one where
nothing is written or what is written is no severity. -/
def Given (written : Option String) (s : Severity) : Prop :=
  (∃ text ∈ written, Spelled text s) ∨ (∀ text ∈ written, ∀ s', ¬ Spelled text s') ∧ s = error

theorem given_iff {written : Option String} {s : Severity} :
    Given written s ↔ (written.bind parse?).getD .standard = s := by
  simp only [Given, ← parse?_eq_some_iff]
  cases written with
  | none => simp [standard, eq_comm]
  | some text =>
    cases hparse : parse? text with
    | none => simp [hparse, standard, eq_comm]
    | some s' => simp [hparse]

end Severity

/-! ### What an entry asks for -/

namespace ActiveRule

variable {registry : Registry}

/-- The rule of a linter is the one that a configured rule asks for. -/
structure IsAskedBy (registry : Registry) (r : ConfiguredRule) (a : ActiveRule) : Prop where
  rule_eq : ∃ factory, registry.factories.lookup r.name = some factory ∧
    a.rule = factory r.properties
  severity : Severity.Given r.severity a.severity

/-- The configured rule runs, and its name is known. -/
def isAsked (registry : Registry) (r : ConfiguredRule) : Bool :=
  r.isEnabled && registry.has r.name

/-- The rule that a configured rule asks for, if it runs and its name is known. -/
def asked? (registry : Registry) (r : ConfiguredRule) : Option ActiveRule :=
  if r.isEnabled then Linter.activeRule? registry r else none

theorem isSome_asked? (r : ConfiguredRule) : (asked? registry r).isSome = isAsked registry r := by
  have hknown : (Linter.activeRule? registry r).isSome = registry.has r.name := by
    rw [Linter.activeRule?, Registry.create?, Registry.has, Option.isSome_map, Option.isSome_map]
  rw [asked?, isAsked, ← hknown]
  cases r.isEnabled <;> rfl

theorem isAskedBy_of_asked? {r : ConfiguredRule} {a : ActiveRule}
    (h : asked? registry r = some a) : IsAskedBy registry r a := by
  rw [asked?] at h
  split at h
  · obtain ⟨rule, hrule, rfl⟩ := Option.map_eq_some_iff.1 h
    obtain ⟨factory, hfactory, rfl⟩ := Option.map_eq_some_iff.1 hrule
    exact ⟨⟨factory, hfactory, rfl⟩, Severity.given_iff.2 rfl⟩
  · exact absurd h.symm (Option.some_ne_none a)

end ActiveRule

namespace CommentFilter

/-- How the comments are written that start a silent stretch, as a module tells or by default. -/
def offFormat (m : Module) : String := (m.property? "offCommentFormat").getD "// CHECKSTYLE:OFF"

/-- How the comments are written that end a silent stretch, as a module tells or by default. -/
def onFormat (m : Module) : String := (m.property? "onCommentFormat").getD "// CHECKSTYLE:ON"

/-- The filter is the one that a module asks for. -/
structure IsAskedBy (m : Module) (f : CommentFilter) : Prop where
  off_eq : Regex.ofText? (offFormat m) = some f.off
  on_eq : Regex.ofText? (onFormat m) = some f.on
  group_eq : f.group = groupOf (m.property? "checkFormat")

theorem ofModule?_eq_some_iff {m : Module} {f : CommentFilter} :
    ofModule? m = some f ↔ IsAskedBy m f := by
  obtain ⟨off, on, group⟩ := f
  have hformats : ofModule? m = (Regex.ofText? (offFormat m)).bind fun off =>
      (Regex.ofText? (onFormat m)).bind fun on =>
        some ⟨off, on, groupOf (m.property? "checkFormat")⟩ := rfl
  simp only [hformats, Option.bind_eq_some_iff, Option.some.injEq, mk.injEq]
  constructor
  · rintro ⟨_, hoff, _, hon, rfl, rfl, rfl⟩
    exact ⟨hoff, hon, rfl⟩
  · rintro ⟨hoff, hon, hgroup⟩
    exact ⟨off, hoff, on, hon, rfl, rfl, hgroup.symm⟩

/-- The module is one for filters, and both of its expressions are sound. -/
def isAsked (m : Module) : Bool :=
  m.name == moduleName &&
    ((Regex.ofText? (offFormat m)).isSome && (Regex.ofText? (onFormat m)).isSome)

/-- The filter that a module asks for, if it is one for filters with sound expressions. -/
def asked? (m : Module) : Option CommentFilter :=
  if m.name == moduleName then ofModule? m else none

theorem isSome_asked? (m : Module) : (asked? m).isSome = isAsked m := by
  have hsound : (ofModule? m).isSome =
      ((Regex.ofText? (offFormat m)).isSome && (Regex.ofText? (onFormat m)).isSome) := by
    change ((Regex.ofText? (offFormat m)).bind fun off =>
      (Regex.ofText? (onFormat m)).bind fun on => some (mk off on _)).isSome = _
    cases Regex.ofText? (offFormat m) <;> cases Regex.ofText? (onFormat m) <;> rfl
  rw [asked?, isAsked, ← hsound]
  cases m.name == moduleName <;> rfl

theorem isAskedBy_of_asked? {m : Module} {f : CommentFilter} (h : asked? m = some f) :
    IsAskedBy m f := by
  rw [asked?] at h
  split at h
  · exact ofModule?_eq_some_iff.1 h
  · exact absurd h.symm (Option.some_ne_none f)

end CommentFilter

/-! ### Entry by entry -/

namespace Linter

variable {registry : Registry}

/-- Adds the rule that a configured rule asks for, if its name is known. -/
def addConfigured (registry : Registry) (l : Linter) (r : ConfiguredRule) : Linter :=
  match registry.create? r.name r.properties with
  | some rule => l.addRule rule (severityOf r)
  | none => l

/-- Adds the filter that a module configures, if its expressions are sound. -/
def addConfiguredFilter (l : Linter) (m : Module) : Linter :=
  match CommentFilter.ofModule? m with
  | some f => l.addFilter f
  | none => l

/-- Puts a linter together: first the rules one by one, then the filters. -/
def assemble (config : Merged) (registry : Registry) : Linter :=
  (config.fileModulesNamed CommentFilter.moduleName).foldl addConfiguredFilter
    (config.enabledRules.foldl (addConfigured registry) empty)

/-- One configured rule adds one rule or none, and leaves the filters alone. -/
theorem addConfigured_eq (l : Linter) (r : ConfiguredRule) :
    addConfigured registry l r = ⟨l.rules ++ (activeRule? registry r).toList, l.filters⟩ := by
  rw [addConfigured, activeRule?]
  cases registry.create? r.name r.properties with
  | none => rw [Option.map_none, Option.toList_none, List.append_nil]
  | some rule => rfl

/-- One module adds one filter or none, and leaves the rules alone. -/
theorem addConfiguredFilter_eq (l : Linter) (m : Module) :
    addConfiguredFilter l m = ⟨l.rules, l.filters ++ (CommentFilter.ofModule? m).toList⟩ := by
  rw [addConfiguredFilter]
  cases CommentFilter.ofModule? m with
  | none => rw [Option.toList_none, List.append_nil]
  | some f => rfl

theorem foldl_addConfigured (l : Linter) (rs : List ConfiguredRule) :
    rs.foldl (addConfigured registry) l =
      ⟨l.rules ++ rs.filterMap (activeRule? registry), l.filters⟩ := by
  induction rs generalizing l with
  | nil => rw [List.filterMap_nil, List.append_nil]; rfl
  | cons r rs ih =>
    rw [List.foldl_cons, ih, addConfigured_eq, List.append_assoc, List.filterMap_cons]
    cases activeRule? registry r <;> rfl

theorem foldl_addConfiguredFilter (l : Linter) (ms : List Module) :
    ms.foldl addConfiguredFilter l =
      ⟨l.rules, l.filters ++ ms.filterMap CommentFilter.ofModule?⟩ := by
  induction ms generalizing l with
  | nil => rw [List.filterMap_nil, List.append_nil]; rfl
  | cons m ms ih =>
    rw [List.foldl_cons, ih, addConfiguredFilter_eq, List.append_assoc, List.filterMap_cons]
    cases CommentFilter.ofModule? m <;> rfl

theorem ofConfig_eq_assemble (config : Merged) (registry : Registry) :
    ofConfig config registry = assemble config registry := by
  rw [assemble, foldl_addConfigured, foldl_addConfiguredFilter]
  rfl

/-! ### What the linter has -/

theorem rules_ofConfig_eq_filterMap (config : Merged) :
    (ofConfig config registry).rules = config.rules.filterMap (ActiveRule.asked? registry) :=
  List.filterMap_filter

theorem filters_ofConfig_eq_filterMap (config : Merged) :
    (ofConfig config registry).filters =
      .standard :: config.fileModules.filterMap CommentFilter.asked? :=
  congrArg (CommentFilter.standard :: ·) List.filterMap_filter

/-- What is asked for stands in the order of those that ask for it. -/
private theorem forall₂_filter_filterMap {α β : Type} {f : α → Option β} {p : α → Bool}
    {R : α → β → Prop} (hp : ∀ a, (f a).isSome = p a) (hR : ∀ a b, f a = some b → R a b)
    (xs : List α) : List.Forall₂ R (xs.filter p) (xs.filterMap f) := by
  induction xs with
  | nil => exact .nil
  | cons a xs ih =>
    cases hf : f a with
    | none =>
      rw [List.filterMap_cons_none hf, List.filter_cons_of_neg (by simp [← hp, hf])]
      exact ih
    | some b =>
      rw [List.filterMap_cons_some hf, List.filter_cons_of_pos (by simp [← hp, hf])]
      exact .cons (hR a b hf) ih

/-- An entry can be deleted exactly if it asks for nothing. -/
private theorem filterMap_delete_iff {α β : Type} {f : α → Option β} {before after : List α}
    {a : α} : (before ++ a :: after).filterMap f = (before ++ after).filterMap f ↔ f a = none := by
  rw [List.filterMap_append, List.filterMap_append, List.append_cancel_left_eq]
  cases hf : f a with
  | none => simp [List.filterMap_cons_none hf]
  | some b => simp [List.filterMap_cons_some hf]

/-- A linter is its rules and its filters. -/
private theorem eq_iff {l l' : Linter} : l = l' ↔ l.rules = l'.rules ∧ l.filters = l'.filters := by
  cases l
  cases l'
  exact mk.injEq .. ▸ Iff.rfl

theorem ofConfig_deleteRule_iff (config : Merged) (registry : Registry)
    (before after : List ConfiguredRule) (r : ConfiguredRule) :
    ofConfig { config with rules := before ++ r :: after } registry =
        ofConfig { config with rules := before ++ after } registry ↔
      ActiveRule.isAsked registry r = false := by
  rw [eq_iff, rules_ofConfig_eq_filterMap, rules_ofConfig_eq_filterMap, filterMap_delete_iff,
    ← ActiveRule.isSome_asked?, Option.isSome_eq_false_iff, Option.isNone_iff_eq_none]
  exact and_iff_left rfl

theorem ofConfig_deleteModule_iff (config : Merged) (registry : Registry)
    (before after : List Module) (m : Module) :
    ofConfig { config with fileModules := before ++ m :: after } registry =
        ofConfig { config with fileModules := before ++ after } registry ↔
      CommentFilter.isAsked m = false := by
  rw [eq_iff, filters_ofConfig_eq_filterMap, filters_ofConfig_eq_filterMap, List.cons_inj_right,
    filterMap_delete_iff, ← CommentFilter.isSome_asked?, Option.isSome_eq_false_iff,
    Option.isNone_iff_eq_none]
  exact and_iff_right rfl

/-- The linter of a configuration is put together entry by entry. Its rules are, in order and as
often as they are configured, those that the enabled rules with known names ask for, each made from
its own properties and at its own severity; its filters are the standard one and, in order, those of
the modules for filters with two sound expressions. An entry can be deleted without a change to the
linter, and so to its reports, exactly if it asks for nothing: if it is a rule that is disabled or
has an unknown name, or a module that is none for filters or has a faulty expression. -/
theorem ofConfig_exact (config : Merged) (registry : Registry) :
    ofConfig config registry = assemble config registry ∧
    List.Forall₂ (ActiveRule.IsAskedBy registry)
      (config.rules.filter (ActiveRule.isAsked registry)) (ofConfig config registry).rules ∧
    (∃ filters, (ofConfig config registry).filters = .standard :: filters ∧
      List.Forall₂ CommentFilter.IsAskedBy (config.fileModules.filter CommentFilter.isAsked)
        filters) ∧
    (∀ before r after,
      (ofConfig { config with rules := before ++ r :: after } registry =
          ofConfig { config with rules := before ++ after } registry ↔
        ActiveRule.isAsked registry r = false) ∧
      (ActiveRule.isAsked registry r = false →
        (ofConfig { config with rules := before ++ r :: after } registry).check =
          (ofConfig { config with rules := before ++ after } registry).check)) ∧
    ∀ before m after,
      (ofConfig { config with fileModules := before ++ m :: after } registry =
          ofConfig { config with fileModules := before ++ after } registry ↔
        CommentFilter.isAsked m = false) ∧
      (CommentFilter.isAsked m = false →
        (ofConfig { config with fileModules := before ++ m :: after } registry).check =
          (ofConfig { config with fileModules := before ++ after } registry).check) := by
  refine ⟨ofConfig_eq_assemble config registry, ?_, ⟨_, filters_ofConfig_eq_filterMap config, ?_⟩,
    fun before r after => ?_, fun before m after => ?_⟩
  · rw [rules_ofConfig_eq_filterMap]
    exact forall₂_filter_filterMap ActiveRule.isSome_asked?
      (fun _ _ => ActiveRule.isAskedBy_of_asked?) config.rules
  · exact forall₂_filter_filterMap CommentFilter.isSome_asked?
      (fun _ _ => CommentFilter.isAskedBy_of_asked?) config.fileModules
  · have hiff := ofConfig_deleteRule_iff config registry before after r
    exact ⟨hiff, fun hr => congrArg check (hiff.2 hr)⟩
  · have hiff := ofConfig_deleteModule_iff config registry before after m
    exact ⟨hiff, fun hm => congrArg check (hiff.2 hm)⟩

/-- A rule of an unknown name in front of a known one, and a module that is none for filters. -/
theorem ofConfig_exact_sample :
    let unknown : ConfiguredRule := ⟨"NoSuchRule", .empty, .check, none⟩
    let known : ConfiguredRule := ⟨"ModifierOrder", .empty, .check, some " Warn "⟩
    let size : Module := .mk "FileLength" [] []
    ActiveRule.isAsked .builtin unknown = false ∧ CommentFilter.isAsked size = false ∧
      (ofConfig ⟨[unknown, known], [size], none⟩ .builtin).check =
        (ofConfig ⟨[known], [size], none⟩ .builtin).check ∧
      (ofConfig ⟨[known], [size], none⟩ .builtin).check =
        (ofConfig ⟨[known], [], none⟩ .builtin).check := by
  intro unknown known size
  have hunknown : ActiveRule.isAsked .builtin unknown = false := by decide
  have hsize : CommentFilter.isAsked size = false := by decide
  obtain ⟨-, -, -, hrules, -⟩ := ofConfig_exact ⟨[unknown, known], [size], none⟩ .builtin
  obtain ⟨-, -, -, -, hmodules⟩ := ofConfig_exact ⟨[known], [size], none⟩ .builtin
  exact ⟨hunknown, hsize, (hrules [] unknown [known]).2 hunknown, (hmodules [] size []).2 hsize⟩

end Linter

end JavaLint
