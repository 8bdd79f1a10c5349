import JavaLint.Lint.Linter
import JavaLint.Proofs.Clauses

/-!
# Rules that have answers

A rule may fail at a node, and then a linter with that rule has no outcome. What is known of a
linter is known of rules that have answers: they do not fail at the nodes that they ask for, and
what they find starts between characters (`Rule.Answers`). The rule on the order of modifiers has
answers in every well-formed tree whose nodes start and end between characters
(`Modifier.rule_answers`), and so has the linter of every configuration (`Linter.ofConfig_answers`).

A registry has answers where all rules that it makes have them. Rules are reported by their own
names and looked up by the names of modules; in a registry like the built-in one these agree
(`Registry.NamesRules`).
-/

namespace JavaLint

open JavaLint.Text

/-- The rule has an answer at every node of the tree that it asks for, and what it finds starts
between characters of the source. -/
def Rule.Answers (r : Rule) (source : String) (tree : Tree) : Prop :=
  ∀ lines, Lines.ofText source = .ok lines →
    ∀ c ∈ tree.places, r.kinds = [] ∨ c.kind ∈ r.kinds →
      ∃ ds, r.check lines c = .ok ds ∧
        ∀ d ∈ ds, String.Pos.Raw.IsValid source ⟨d.span.start.val⟩

/-- All rules that run have answers. -/
def Linter.Answers (l : Linter) (source : String) (tree : Tree) : Prop :=
  ∀ a ∈ l.rules, a.severity ≠ .ignore → a.rule.Answers source tree

/-- All nodes of the tree start and end between characters of the source. -/
def Tree.OnBoundaries (source : String) (t : Tree) : Prop :=
  ∀ u ∈ t.nodes, String.Pos.Raw.IsValid source ⟨u.label.start⟩ ∧
    String.Pos.Raw.IsValid source ⟨u.label.stop⟩

instance (source : String) (t : Tree) : Decidable (t.OnBoundaries source) :=
  inferInstanceAs (Decidable (∀ u ∈ t.nodes, _))

/-- The nodes of a well-formed tree between characters cover parts of the source. -/
theorem Tree.WellFormed.covers {source : String} {tree u : Tree}
    (hwf : tree.WellFormed source.utf8ByteSize) (hbounds : tree.OnBoundaries source)
    (hu : u ∈ tree.nodes) : u.Covers source :=
  ⟨(hwf u hu).start_le_stop, hbounds u hu⟩

theorem Tree.WellFormed.covers_children {source : String} {tree : Tree}
    (hwf : tree.WellFormed source.utf8ByteSize) (hbounds : tree.OnBoundaries source) {c : Cursor}
    (hc : c ∈ tree.places) : ∀ u ∈ c.focus.children, u.Covers source := fun _ hu =>
  hwf.covers hbounds (Tree.mem_nodes_of_child (Tree.focus_mem_nodes hc) hu)

namespace Modifier

variable {source : String} {tree : Tree}

/-- The rule on the order of modifiers has answers. -/
theorem rule_answers (hsize : source.utf8ByteSize < UInt32.size)
    (hwf : tree.WellFormed source.utf8ByteSize) (hbounds : tree.OnBoundaries source) :
    rule.Answers source tree := by
  intro lines hlines c hc hasked
  have hkind : c.kind = .modifiers := by simpa [rule] using hasked
  have hcovers := hwf.covers_children hbounds hc
  obtain ⟨ds, k?, hcheck, hflags, hbreaks⟩ := exists_flags hsize hlines hkind hcovers
  refine ⟨ds, hcheck, fun d hd => ?_⟩
  obtain ⟨k, u, -, hu, hon⟩ := hflags.exists_keyword hbreaks hd
  rw [hon.start_eq]
  exact (hcovers u (List.mem_filter.1 (List.mem_of_getElem? hu)).1).2.1

theorem rule_answers_sample : rule.Answers sampleSource sampleTree :=
  rule_answers sampleSource_size sampleTree_wellFormed (by decide)

end Modifier

/-! ### Rules of a registry -/

namespace Registry

/-- The rules that the registry makes bear the names of their modules. -/
def NamesRules (registry : Registry) : Prop :=
  ∀ e ∈ registry.factories, ∀ properties, (e.2 properties).name = e.1

/-- The rules that the registry makes have answers. -/
def Answers (registry : Registry) (source : String) (tree : Tree) : Prop :=
  ∀ e ∈ registry.factories, ∀ properties, (e.2 properties).Answers source tree

variable {registry : Registry} {name : String} {factory : RuleFactory} {source : String}
  {tree : Tree}

theorem exists_of_create? {properties : Config.PropertyMap} {rule : Rule}
    (h : registry.create? name properties = some rule) :
    ∃ factory, (name, factory) ∈ registry.factories ∧ factory properties = rule := by
  obtain ⟨factory, hfactory, rfl⟩ := Option.map_eq_some_iff.1 h
  obtain ⟨before, after, hfactories, -⟩ := List.lookup_eq_some_iff.1 hfactory
  exact ⟨factory, hfactories ▸ List.mem_append_right before List.mem_cons_self, rfl⟩

private theorem mem_register {e : String × RuleFactory}
    (he : e ∈ (registry.register name factory).factories) :
    e ∈ registry.factories ∨ e = (name, factory) := by
  rcases List.mem_append.1 he with he | he
  · exact .inl (List.mem_filter.1 he).1
  · exact .inr (List.mem_singleton.1 he)

theorem NamesRules.register (h : registry.NamesRules)
    (hfactory : ∀ properties, (factory properties).name = name) :
    (registry.register name factory).NamesRules := by
  intro e he
  rcases mem_register he with he | rfl
  · exact h e he
  · exact hfactory

theorem Answers.register (h : registry.Answers source tree)
    (hfactory : ∀ properties, (factory properties).Answers source tree) :
    (registry.register name factory).Answers source tree := by
  intro e he
  rcases mem_register he with he | rfl
  · exact h e he
  · exact hfactory

theorem builtin_namesRules : builtin.NamesRules :=
  NamesRules.register (fun _ he => absurd he List.not_mem_nil) fun _ => rfl

theorem builtin_answers (hsize : source.utf8ByteSize < UInt32.size)
    (hwf : tree.WellFormed source.utf8ByteSize) (hbounds : tree.OnBoundaries source) :
    builtin.Answers source tree :=
  Answers.register (fun _ he => absurd he List.not_mem_nil) fun _ =>
    Modifier.rule_answers hsize hwf hbounds

end Registry

/-! ### Linters of this library -/

namespace Linter

variable {source : String} {tree : Tree}

/-- A rule that a configuration asks for is made by the registry under the configured name. -/
theorem exists_of_activeRule? {registry : Registry} {r : Config.ConfiguredRule} {a : ActiveRule}
    (h : activeRule? registry r = some a) :
    ∃ factory, (r.name, factory) ∈ registry.factories ∧ factory r.properties = a.rule := by
  obtain ⟨rule, hrule, rfl⟩ := Option.map_eq_some_iff.1 h
  exact Registry.exists_of_create? hrule

/-- The linter of a configuration has answers if the rules of the registry have. -/
theorem answers_of_registry {registry : Registry} (config : Config.Merged)
    (hrules : registry.Answers source tree) : (ofConfig config registry).Answers source tree := by
  intro a ha _
  obtain ⟨r, -, hr⟩ := List.mem_filterMap.1 ha
  obtain ⟨factory, hfactory, hrule⟩ := exists_of_activeRule? hr
  exact hrule ▸ hrules _ hfactory r.properties

/-- A linter that only has the rule on the order of modifiers has answers. -/
theorem answers_of_modifier {l : Linter} (hl : ∀ a ∈ l.rules, a.rule = Modifier.rule)
    (hsize : source.utf8ByteSize < UInt32.size) (hwf : tree.WellFormed source.utf8ByteSize)
    (hbounds : tree.OnBoundaries source) : l.Answers source tree := by
  intro a ha _
  rw [hl a ha]
  exact Modifier.rule_answers hsize hwf hbounds

/-- The linter of a configuration has answers. -/
theorem ofConfig_answers (config : Config.Merged) (hsize : source.utf8ByteSize < UInt32.size)
    (hwf : tree.WellFormed source.utf8ByteSize) (hbounds : tree.OnBoundaries source) :
    (ofConfig config .builtin).Answers source tree :=
  answers_of_registry config (Registry.builtin_answers hsize hwf hbounds)

theorem standard_answers (hsize : source.utf8ByteSize < UInt32.size)
    (hwf : tree.WellFormed source.utf8ByteSize) (hbounds : tree.OnBoundaries source) :
    standard.Answers source tree := by
  refine answers_of_modifier (fun a ha => ?_) hsize hwf hbounds
  obtain rfl : a = ⟨Modifier.rule, .standard⟩ := List.mem_singleton.1 ha
  rfl

theorem standard_answers_sample : standard.Answers sampleSource sampleTree :=
  standard_answers sampleSource_size sampleTree_wellFormed (by decide)

end Linter

end JavaLint
