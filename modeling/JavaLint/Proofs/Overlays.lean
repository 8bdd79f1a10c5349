import JavaLint.Program.Setup
import JavaLint.Proofs.Independence
import JavaLint.Proofs.Loading

/-!
# Overlays switch rules off

An overlay gives rules their modes by their names, so rules of one name run together or not at all
(`Config.Merged.enables_iff`). With an overlay the linter of a configuration is the one without it,
less the rules that the overlay disables (`Linter.ofConfig_overlay`), and reports what that one
reports, less the reports of these rules (`Linter.checkParsed_overlay`).

A program looks for the overlay and for the checkstyle configuration separately. Where it finds
both, the rules that the overlay disables do not run. Where it finds no checkstyle configuration, it
falls back on the standard linter, and an overlay has no say in that: `Program.linterFor_overlay`
tells exactly which rules an overlay keeps from running.
-/

namespace JavaLint

open JavaLint.Config JavaLint.Files JavaLint.Text

/-! ### Merged configurations -/

namespace Config.Merged

variable {c : Checkstyle} {o : Overlay}

/-- The mode of a configured rule is the one that the overlay gives its name. -/
theorem mode_of_mem_rules {r : ConfiguredRule} (hr : r ∈ (of c (some o)).rules) :
    r.mode = o.modeOf r.name := by
  obtain ⟨m, -, rfl⟩ := List.mem_map.1 hr
  rfl

theorem isEnabled_of_mem_rules {r : ConfiguredRule} (hr : r ∈ (of c (some o)).rules) :
    r.isEnabled = true ↔ o.modes.lookup r.name ≠ some .disabled := by
  rw [ConfiguredRule.isEnabled, bne_iff_ne, mode_of_mem_rules hr, Ne,
    Overlay.modeOf_eq_disabled_iff]

theorem eq_check_of_ne_disabled {mode : RuleMode} (h : mode ≠ .disabled) : mode = .check := by
  cases mode with
  | check => rfl
  | disabled => exact absurd rfl h

/-- With an overlay those rules run that it does not disable. -/
theorem enabledRules_overlay :
    (of c (some o)).enabledRules =
      (of c none).enabledRules.filter fun r => o.modes.lookup r.name ≠ some .disabled := by
  have hnone : (of c none).enabledRules = (of c none).rules := by
    refine List.filter_eq_self.2 fun r hr => ?_
    obtain ⟨m, -, rfl⟩ := List.mem_map.1 hr
    rfl
  have hmode : ∀ m : Module, (configure (c.property? severityName) (some o) m).isEnabled =
      decide (o.modes.lookup (configure (c.property? severityName) none m).name ≠
        some .disabled) := by
    intro m
    rw [Bool.eq_iff_iff, ConfiguredRule.isEnabled, bne_iff_ne, decide_eq_true_eq]
    exact Overlay.modeOf_eq_disabled_iff.not
  rw [hnone, enabledRules, of, of, List.filter_map, List.filter_map]
  simp only [Function.comp_def, hmode]
  refine List.map_congr_left fun m hm => ?_
  have hlisted := of_decide_eq_true (List.mem_filter.1 hm).2
  have hcheck := eq_check_of_ne_disabled (mt Overlay.modeOf_eq_disabled_iff.1 hlisted)
  exact congrArg (fun mode => { configure (c.property? severityName) none m with mode }) hcheck

theorem names_rules (overlay : Option Overlay) :
    (of c overlay).rules.map (·.name) = c.rules.map Module.name := by
  rw [of, List.map_map]
  rfl

/-- Among the rules that run is one of a name exactly if a module has that name and the overlay does
not disable it. -/
theorem name_mem_enabledRules {n : String} :
    n ∈ (of c (some o)).enabledRules.map (·.name) ↔
      n ∈ c.rules.map Module.name ∧ o.modes.lookup n ≠ some .disabled := by
  rw [← names_rules (some o), List.mem_map, List.mem_map]
  constructor
  · rintro ⟨r, hr, rfl⟩
    obtain ⟨hr, henabled⟩ := List.mem_filter.1 hr
    exact ⟨⟨r, hr, rfl⟩, (isEnabled_of_mem_rules hr).1 henabled⟩
  · rintro ⟨⟨r, hr, rfl⟩, hmode⟩
    exact ⟨r, List.mem_filter.2 ⟨hr, (isEnabled_of_mem_rules hr).2 hmode⟩, rfl⟩

theorem of_rule?_eq_some {m : Merged} {n : String} {r : ConfiguredRule} (h : m.rule? n = some r) :
    r ∈ m.rules ∧ r.name = n := by
  have hname := List.find?_some h
  exact ⟨List.mem_of_find?_eq_some h, beq_iff_eq.1 hname⟩

/-- The first rule of a name tells whether any rule of that name runs. -/
theorem enables_iff {n : String} :
    (of c (some o)).enables n = true ↔ n ∈ (of c (some o)).enabledRules.map (·.name) := by
  rw [name_mem_enabledRules, ← names_rules (some o), enables]
  cases hfirst : (of c (some o)).rule? n with
  | none =>
    refine iff_of_false Bool.false_ne_true fun h => ?_
    obtain ⟨r, hr, hname⟩ := List.mem_map.1 h.1
    exact List.find?_eq_none.1 hfirst r hr (beq_iff_eq.2 hname)
  | some r =>
    obtain ⟨hr, rfl⟩ := of_rule?_eq_some hfirst
    rw [Option.any_some, isEnabled_of_mem_rules hr]
    exact (and_iff_right (List.mem_map_of_mem hr)).symm

/-- Overlays that disable the same configured rules make the same configuration. -/
theorem of_congr {o' : Overlay} (h : ∀ n ∈ c.rules.map Module.name,
    (o'.modes.lookup n = some .disabled ↔ o.modes.lookup n = some .disabled)) :
    of c (some o') = of c (some o) := by
  have hmode : ∀ n ∈ c.rules.map Module.name, o'.modeOf n = o.modeOf n := by
    intro n hn
    have hsame : o'.modeOf n = .disabled ↔ o.modeOf n = .disabled := by
      rw [Overlay.modeOf_eq_disabled_iff, Overlay.modeOf_eq_disabled_iff, h n hn]
    by_cases hdisabled : o.modeOf n = .disabled
    · rw [hdisabled, hsame.2 hdisabled]
    · rw [eq_check_of_ne_disabled hdisabled, eq_check_of_ne_disabled (hsame.not.2 hdisabled)]
  have hrules : ∀ m ∈ c.rules, configure (c.property? severityName) (some o') m =
      configure (c.property? severityName) (some o) m := by
    intro m hm
    simp only [configure, hmode m.name (List.mem_map_of_mem hm)]
  rw [of, of, List.map_congr_left hrules]

end Config.Merged

/-! ### Linters of configurations -/

namespace Linter

variable {registry : Registry} {source : String} {tree : Tree}

theorem name_of_activeRule? (hnames : registry.NamesRules) {r : ConfiguredRule} {a : ActiveRule}
    (h : activeRule? registry r = some a) : a.rule.name = r.name := by
  obtain ⟨factory, hfactory, hrule⟩ := exists_of_activeRule? h
  rw [← hrule]
  exact hnames _ hfactory r.properties

/-- The linter of a configuration only has rules that run there. -/
theorem name_mem_of_ofConfig (hnames : registry.NamesRules) {config : Merged} {n : String}
    (h : n ∈ (ofConfig config registry).ruleNames) : n ∈ config.enabledRules.map (·.name) := by
  obtain ⟨a, ha, rfl⟩ := List.mem_map.1 h
  obtain ⟨r, hr, hactive⟩ := List.mem_filterMap.1 ha
  rw [name_of_activeRule? hnames hactive]
  exact List.mem_map_of_mem hr

/-- The linter of a configuration with an overlay is the one without it, less the rules that the
overlay disables. -/
theorem ofConfig_overlay (hnames : registry.NamesRules) (c : Checkstyle) (o : Overlay) :
    ofConfig (.of c (some o)) registry =
      (ofConfig (.of c none) registry).keeping fun n => o.modes.lookup n ≠ some .disabled := by
  have hrules : ((Merged.of c none).enabledRules.filter fun r =>
        o.modes.lookup r.name ≠ some .disabled).filterMap (activeRule? registry) =
      ((Merged.of c none).enabledRules.filterMap (activeRule? registry)).filter fun a =>
        o.modes.lookup a.rule.name ≠ some .disabled := by
    rw [List.filterMap_filter, List.filter_filterMap]
    refine congrArg (List.filterMap · _) (funext fun r => ?_)
    cases hactive : activeRule? registry r with
    | none => rw [Option.filter_none, ite_self]
    | some a => rw [Option.filter_some, name_of_activeRule? hnames hactive]
  rw [ofConfig, Merged.enabledRules_overlay, hrules]
  rfl

/-- From the configuration to the reports an overlay only switches off. The linter of a
configuration with an overlay reports what it reports without, less the reports of the rules that
the overlay disables, unchanged and in the same order. The rules that run bear the names of modules
that the overlay does not disable, the first rule of a name tells whether it is among them, and what
the overlay says of other names plays no part. -/
theorem checkParsed_overlay (c : Checkstyle) (o : Overlay) (registry : Registry) (source : String)
    (parsed : Java.Parsed) (hnames : registry.NamesRules)
    (hrules : registry.Answers source parsed.tree) (hsize : source.utf8ByteSize < UInt32.size)
    (hwf : parsed.tree.WellFormed source.utf8ByteSize) :
    (∃ result, (ofConfig (.of c none) registry).checkParsed source parsed = .ok result ∧
      (ofConfig (.of c (some o)) registry).checkParsed source parsed =
        .ok ⟨result.messages.filter fun m => o.modes.lookup m.rule ≠ some .disabled,
          result.hasSyntaxErrors⟩) ∧
    (∀ n, ((Merged.of c (some o)).enables n = true ↔
        n ∈ (Merged.of c (some o)).enabledRules.map (·.name)) ∧
      (n ∈ (Merged.of c (some o)).enabledRules.map (·.name) ↔
        n ∈ c.rules.map Module.name ∧ o.modes.lookup n ≠ some .disabled)) ∧
    ∀ o' : Overlay, (∀ n ∈ c.rules.map Module.name,
        (o'.modes.lookup n = some .disabled ↔ o.modes.lookup n = some .disabled)) →
      Merged.of c (some o') = .of c (some o) := by
  refine ⟨?_, fun n => ⟨Merged.enables_iff, Merged.name_mem_enabledRules⟩,
    fun o' => Merged.of_congr⟩
  have hanswers := answers_of_registry (.of c none) hrules
  have hkept := answers_of_registry (.of c (some o)) hrules
  rw [ofConfig_overlay hnames] at hkept ⊢
  have hfilters : (ofConfig (.of c none) registry).filters =
      ((ofConfig (.of c none) registry).keeping fun n =>
        o.modes.lookup n ≠ some .disabled).filters := rfl
  obtain ⟨lines, silent, hcheck, hcheck'⟩ :=
    exists_checkParsed_both hfilters hsize hwf hanswers hkept
  refine ⟨_, hcheck, ?_⟩
  rw [hcheck', emitted, emitted, findings_keeping, Message.filter_sort, List.filter_comm]

/-- A configuration with a rule that is named twice, another one, and one that no registry knows.
The overlay disables the first, and a rule that is not configured. -/
theorem checkParsed_overlay_sample :
    let c : Checkstyle := ⟨.mk "Checker" [⟨"severity", "warning"⟩] [.mk "TreeWalker" []
      [.mk "ModifierOrder" [] [], .mk "Order" [] [], .mk "Other" [] [], .mk "ModifierOrder" [] []]]⟩
    let o : Overlay := ⟨none, [("Absent", .disabled), ("ModifierOrder", .disabled)]⟩
    let registry := Registry.builtin.register "Order" fun _ =>
      { Modifier.rule with name := "Order" }
    (∃ result, (ofConfig (.of c none) registry).checkParsed sampleSource ⟨sampleTree, false⟩ =
        .ok result ∧
      (ofConfig (.of c (some o)) registry).checkParsed sampleSource ⟨sampleTree, false⟩ =
        .ok ⟨result.messages.filter fun m => o.modes.lookup m.rule ≠ some .disabled,
          result.hasSyntaxErrors⟩) ∧
    (∀ n, ((Merged.of c (some o)).enables n = true ↔
        n ∈ (Merged.of c (some o)).enabledRules.map (·.name)) ∧
      (n ∈ (Merged.of c (some o)).enabledRules.map (·.name) ↔
        n ∈ c.rules.map Module.name ∧ o.modes.lookup n ≠ some .disabled)) ∧
    ∀ o' : Overlay, (∀ n ∈ c.rules.map Module.name,
        (o'.modes.lookup n = some .disabled ↔ o.modes.lookup n = some .disabled)) →
      Merged.of c (some o') = .of c (some o) := by
  intro c o registry
  have hbuiltin : Registry.builtin.Answers sampleSource sampleTree :=
    Registry.builtin_answers sampleSource_size sampleTree_wellFormed (by decide)
  exact checkParsed_overlay c o registry sampleSource ⟨sampleTree, false⟩
    (Registry.builtin_namesRules.register fun _ => rfl)
    (hbuiltin.register fun _ => Modifier.rule_answers_sample) sampleSource_size
    sampleTree_wellFormed

end Linter

/-! ### Looking for configurations -/

namespace Config.Loader

variable {l : Loader} {fs : FileSystem} {path text : String} {o : Overlay}

/-- Unless another path is given, the overlay in the first of its usual places with a file is
read. -/
theorem readOverlay_of_place (hown : l.overlay = none)
    (hplace : l.firstFile? fs overlayPlaces = some path) (htext : fs.readText path = .ok text)
    (hoverlay : Overlay.ofText text = .ok o) : l.readOverlay fs = .ok (some (path, o)) := by
  have hpath : l.overlayPath? fs = some path := by rw [overlayPath?, hown, Option.none_or, hplace]
  have hread : readWith fs path Overlay.ofText = .ok o := by
    rw [readWith, htext]
    exact congrArg (Except.mapError _) hoverlay
  simp only [readOverlay, hpath, hread]

/-- With an overlay that has been read, the configuration is that of the overlay and the checkstyle
configuration which is found. -/
theorem load_eq_map (hoverlay : l.readOverlay fs = .ok (some (path, o))) :
    l.load fs = (l.readCheckstyle fs (some o)).map fun found =>
      { Merged.of found.2 (some o) with path := some found.1 } :=
  load_of_readOverlay hoverlay

/-- Reading finds no checkstyle configuration exactly if there is no path for one. -/
theorem readCheckstyle_eq_noConfiguration_iff (l : Loader) (fs : FileSystem)
    (overlay : Option Overlay) :
    l.readCheckstyle fs overlay = .error .noConfiguration ↔
      l.checkstylePath? fs overlay = none := by
  rw [readCheckstyle]
  split
  · rename_i hnone
    exact iff_of_true rfl hnone
  · rename_i found hfound
    refine iff_of_false (fun h => ?_) (hfound ▸ Option.some_ne_none found)
    split at h
    · split at h
      · cases h
      · cases h
    · cases h

end Config.Loader

namespace Program

variable {fs : FileSystem} {config : Option String} {path : String} {o : Overlay} {l : Linter}

/-- With an overlay that has been read, the linter is that of a configuration with the overlay, or
there is no path of a checkstyle configuration and it is the standard one. -/
theorem linterFor_cases (hoverlay : (loaderFor config).readOverlay fs = .ok (some (path, o)))
    (h : linterFor fs config = .ok l) :
    ((loaderFor config).checkstylePath? fs (some o) ≠ none ∧
        ∃ c, l = .ofConfig (.of c (some o)) .builtin) ∨
      (loaderFor config).checkstylePath? fs (some o) = none ∧ l = .standard := by
  have hnone := Loader.readCheckstyle_eq_noConfiguration_iff (loaderFor config) fs (some o)
  -- `rw` would first prove an equation for every pattern of `linterFor`, which is slow
  delta linterFor at h
  rw [Loader.load_eq_map hoverlay] at h
  cases hread : (loaderFor config).readCheckstyle fs (some o) with
  | error e =>
    rw [hread] at h
    cases e with
    | noConfiguration => exact .inr ⟨hnone.1 hread, (Except.ok.inj h).symm⟩
    | overlay => exact nomatch h
    | notFound => exact nomatch h
    | checkstyle => exact nomatch h
  | ok found =>
    rw [hread] at h
    refine .inl ⟨fun hpath => ?_, found.2, (Except.ok.inj h).symm⟩
    exact nomatch hread.symm.trans (hnone.2 hpath)

/-- What an overlay keeps from running. Of the rules that the overlay in the first of its usual
places disables, the linter that files are checked with has none if a path of a checkstyle
configuration is found. If none is found, it has the rule on the order of modifiers, and no other. A
rule that the linter does not have reports nothing for any source. -/
theorem linterFor_overlay (fs : FileSystem) (config : Option String) (path text rule : String)
    (o : Overlay) (l : Linter)
    (hplace : (loaderFor config).firstFile? fs Loader.overlayPlaces = some path)
    (htext : fs.readText path = .ok text) (hoverlay : Overlay.ofText text = .ok o)
    (hmode : o.modes.lookup rule = some .disabled) (hlinter : linterFor fs config = .ok l) :
    (rule ∉ l.ruleNames ↔
      (loaderFor config).checkstylePath? fs (some o) ≠ none ∨ rule ≠ Modifier.ruleName) ∧
    (rule ∉ l.ruleNames → ∀ source result, l.check source = .ok (some result) →
      ∀ m ∈ result.messages, m.rule ≠ rule) := by
  refine ⟨?_, fun hrule source result hcheck m hm heq => ?_⟩
  · have hread := Loader.readOverlay_of_place rfl hplace htext hoverlay
    rcases linterFor_cases hread hlinter with ⟨hfound, c, rfl⟩ | ⟨hnone, rfl⟩
    · refine iff_of_true (fun hmem => ?_) (.inl hfound)
      have henabled := Linter.name_mem_of_ofConfig Registry.builtin_namesRules hmem
      exact (Merged.name_mem_enabledRules.1 henabled).2 hmode
    · rw [hnone]
      have hnames : Linter.standard.ruleNames = [Modifier.ruleName] := rfl
      rw [hnames, List.mem_singleton, or_iff_right (not_not_intro rfl)]
  · exact hrule (heq ▸ Linter.rule_mem_of_check hcheck hm)

/-- An overlay that disables the rule on the order of modifiers, as it is written. -/
def disablingText : String := "[rules]\nModifierOrder = \"off\"\n"

/-- A directory with that overlay alone. -/
def overlayAlone : FileSystem := ⟨[.file "modorder.toml" disablingText.toUTF8], "/"⟩

/-- A directory with that overlay and a checkstyle configuration that has the rule. -/
def overlayWithCheckstyle : FileSystem where
  root := .file "checkstyle.xml" ("<module name=\"Checker\"><module name=\"TreeWalker\">" ++
    "<module name=\"ModifierOrder\"/></module></module>").toUTF8 :: overlayAlone.root
  workingDirectory := "/"

/-- What is written there. -/
def disabling : Overlay := ⟨none, [(Modifier.ruleName, .disabled)]⟩

private theorem ofText_disablingText : Overlay.ofText disablingText = .ok disabling :=
  Attempt.eq_ok_of_toOption (by decide +kernel)

/-- With a checkstyle configuration the overlay is heeded. -/
theorem linterFor_overlay_sample :
    ∃ l, linterFor overlayWithCheckstyle none = .ok l ∧ Modifier.ruleName ∉ l.ruleNames ∧
      ∀ source result, l.check source = .ok (some result) →
        ∀ m ∈ result.messages, m.rule ≠ Modifier.ruleName := by
  have hplace : (loaderFor none).firstFile? overlayWithCheckstyle Loader.overlayPlaces =
      some "./modorder.toml" := by decide +kernel
  have htext : overlayWithCheckstyle.readText "./modorder.toml" = .ok disablingText := by
    decide +kernel
  have hread := Loader.readOverlay_of_place rfl hplace htext ofText_disablingText
  have hok : ((loaderFor none).readCheckstyle overlayWithCheckstyle
      (some disabling)).isOk = true := by decide +kernel
  cases hfound : (loaderFor none).readCheckstyle overlayWithCheckstyle (some disabling) with
  | error e =>
    rw [hfound] at hok
    exact absurd hok Bool.false_ne_true
  | ok found =>
    have hlinter : linterFor overlayWithCheckstyle none =
        .ok (.ofConfig (.of found.2 (some disabling)) .builtin) := by
      delta linterFor
      rw [Loader.load_eq_map hread, hfound]
      rfl
    obtain ⟨hrule, hreports⟩ := linterFor_overlay overlayWithCheckstyle none "./modorder.toml"
      disablingText Modifier.ruleName _ _ hplace htext ofText_disablingText (by decide) hlinter
    have hnot := hrule.2 (.inl (by decide +kernel))
    exact ⟨_, hlinter, hnot, hreports hnot⟩

/-- Without one the linter has the rule that the overlay disables. -/
theorem linterFor_overlayAlone :
    (loaderFor none).firstFile? overlayAlone Loader.overlayPlaces = some "./modorder.toml" ∧
      overlayAlone.readText "./modorder.toml" = .ok disablingText ∧
      (∃ o, Overlay.ofText disablingText = .ok o ∧
        o.modes.lookup Modifier.ruleName = some .disabled) ∧
      ∃ l, linterFor overlayAlone none = .ok l ∧ Modifier.ruleName ∈ l.ruleNames := by
  have hplace : (loaderFor none).firstFile? overlayAlone Loader.overlayPlaces =
      some "./modorder.toml" := by decide +kernel
  have htext : overlayAlone.readText "./modorder.toml" = .ok disablingText := by decide +kernel
  have hread := Loader.readOverlay_of_place rfl hplace htext ofText_disablingText
  have hfallback : linterFor overlayAlone none = .ok .standard := by
    have hpath := (Loader.readCheckstyle_eq_noConfiguration_iff (loaderFor none) overlayAlone
      (some disabling)).2 (by decide +kernel)
    delta linterFor
    rw [Loader.load_eq_map hread, hpath]
    rfl
  exact ⟨hplace, htext, ⟨_, ofText_disablingText, by decide +kernel⟩, .standard, hfallback,
    List.mem_singleton_self Modifier.ruleName⟩

end Program

end JavaLint
