import Mathlib.Data.List.Forall2
import Mathlib.Data.List.Induction
import JavaLint.Lint.Linter

/-!
# Properties of one name

Several properties of a module may have the same name. A look-up in the list of the properties finds
the first of the values that are written under the name (`Config.firstValue?_eq_head?`), while the
map of the properties keeps the last one (`Config.PropertyMap.get?_ofList`). So the readers of a
module agree on a name exactly if the first value that is written under it is also the last one, as
it is for every name that is written once or not at all.

A configured rule is read both ways: its severity comes from the list, and the properties that its
factory is shown come from the map. Main statement: `Config.Merged.readers_agree_iff` tells for which
names all readers agree. A rule with two severities runs at the first and is shown the second
(`Config.Merged.severity_of_two`).
-/

namespace JavaLint.Config

/-- The values that are written under a name, in the order of the properties. -/
def valuesOf (properties : List Property) (name : String) : List String :=
  (properties.filter fun p => p.name == name).map (·.value)

/-- A look-up in the list finds the first value of a name. -/
theorem firstValue?_eq_head? (properties : List Property) (name : String) :
    firstValue? properties name = (valuesOf properties name).head? := by
  rw [firstValue?, valuesOf, List.head?_map, List.head?_filter]

namespace PropertyMap

/-- An entry in front is found under its name, and hides nothing else. -/
private theorem lookup_cons_eq (name value other : String) (entries : List (String × String)) :
    ((name, value) :: entries).lookup other =
      if other = name then some value else entries.lookup other := by
  rw [List.lookup_cons]
  by_cases h : other = name
  · rw [if_pos h, beq_iff_eq.2 h]
  · rw [if_neg h, beq_eq_false_iff_ne.2 h]

/-- What is put under a name is found there, and nothing else changes. -/
theorem lookup_put (name value other : String) (entries : List (String × String)) :
    (put name value entries).lookup other =
      if other = name then some value else entries.lookup other := by
  induction entries with
  | nil => rw [put, lookup_cons_eq]
  | cons e rest ih =>
    obtain ⟨n, v⟩ := e
    rw [put]
    split
    · rename_i hn
      rw [← hn, lookup_cons_eq, lookup_cons_eq]
      split <;> rfl
    · rename_i hn
      rw [lookup_cons_eq, lookup_cons_eq, ih]
      split
      · rename_i h
        rw [if_neg (h ▸ hn)]
      · rfl

theorem get?_insert (m : PropertyMap) (name value other : String) :
    (m.insert name value).get? other = if other = name then some value else m.get? other :=
  lookup_put name value other m.entries

/-- The map of some properties keeps the last value of a name. -/
theorem get?_ofList (properties : List Property) (name : String) :
    (ofList properties).get? name = (valuesOf properties name).getLast? := by
  induction properties using List.reverseRecOn with
  | nil => rfl
  | append_singleton properties p ih =>
    have hstep : ofList (properties ++ [p]) = (ofList properties).insert p.name p.value := by
      rw [ofList, List.foldl_append]
      rfl
    rw [hstep, get?_insert, ih, valuesOf, valuesOf, List.filter_append, List.map_append]
    by_cases h : name = p.name
    · subst h
      simp
    · simp [h, Ne.symm h]

end PropertyMap

/-! ### The readers of a module -/

namespace Module

variable {m : Module} {name : String}

/-- The values that are written under a name in the module. -/
def values (m : Module) (name : String) : List String := valuesOf m.properties name

theorem property?_eq_head? : m.property? name = (m.values name).head? :=
  firstValue?_eq_head? m.properties name

theorem get?_propertyMap : m.propertyMap.get? name = (m.values name).getLast? :=
  PropertyMap.get?_ofList m.properties name

/-- Neither reader finds a value exactly if none is written. -/
theorem eq_none_iff (m : Module) (name : String) :
    (m.property? name = none ↔ m.values name = []) ∧
    (m.propertyMap.get? name = none ↔ m.values name = []) := by
  rw [property?_eq_head?, get?_propertyMap, List.head?_eq_none_iff, List.getLast?_eq_none_iff]
  exact ⟨Iff.rfl, Iff.rfl⟩

/-- The readers agree on a name exactly if the first value that is written under it is also the last
one, as it is if there is only one or none. -/
theorem property?_eq_get?_iff : m.property? name = m.propertyMap.get? name ↔
    ∀ first ∈ (m.values name).head?, ∀ last ∈ (m.values name).getLast?, first = last := by
  rw [property?_eq_head?, get?_propertyMap]
  cases hvalues : m.values name with
  | nil => simp
  | cons v rest =>
    rw [List.head?_cons, List.getLast?_eq_some_getLast (List.cons_ne_nil v rest)]
    simp only [Option.mem_some_iff, Option.some.injEq, forall_eq']

end Module

/-! ### The rules of a configuration -/

namespace Merged

/-- What is read of the rule that a module configures, where the root has a standard severity. -/
structure ReadAs (standard : Option String) (m : Module) (r : ConfiguredRule) : Prop where
  name_eq : r.name = m.name
  property?_eq : ∀ name, r.property? name = m.propertyMap.get? name
  severity_eq : r.severity = (m.property? severityName).or standard
  /-- The severity that the rule runs at is the one that its factory is shown. -/
  shown_iff : r.severity = r.property? severityName ↔
    m.property? severityName = m.propertyMap.get? severityName ∧
      (m.values severityName = [] → standard = none)

theorem readAs_configure (standard : Option String) (overlay : Option Overlay) (m : Module) :
    ReadAs standard m (configure standard overlay m) where
  name_eq := rfl
  property?_eq _ := rfl
  severity_eq := rfl
  shown_iff := by
    obtain ⟨hlist, hmap⟩ := m.eq_none_iff severityName
    change (m.property? severityName).or standard = m.propertyMap.get? severityName ↔ _
    cases hsome : m.property? severityName with
    | none =>
      have hvalues := hlist.1 hsome
      rw [hmap.2 hvalues, Option.none_or, and_iff_right rfl, imp_iff_right hvalues]
    | some v =>
      have hvalues : m.values severityName ≠ [] := fun h => by simp [hlist.2 h] at hsome
      rw [Option.some_or, and_iff_left fun h => absurd h hvalues]

/-- A look-up in the properties of a module finds the first value of a name, the map of them the
last one. Both find none if none is written, and they agree exactly if the first value is also the
last one. The rule that the module configures answers as the map does, while its severity is the one
that the look-up finds, or else the standard one: so the rule runs at the severity that its factory
is shown exactly if the two agree on it and no standard one takes the place of a missing one. -/
theorem readers_agree_iff (c : Checkstyle) (overlay : Option Overlay) :
    (∀ (m : Module) (name : String),
      m.property? name = (m.values name).head? ∧
      m.propertyMap.get? name = (m.values name).getLast? ∧
      ((m.property? name = none ↔ m.values name = []) ∧
        (m.propertyMap.get? name = none ↔ m.values name = [])) ∧
      (m.property? name = m.propertyMap.get? name ↔
        ∀ first ∈ (m.values name).head?, ∀ last ∈ (m.values name).getLast?, first = last)) ∧
    List.Forall₂ (ReadAs (c.property? severityName)) c.rules (of c overlay).rules := by
  refine ⟨fun m name => ⟨Module.property?_eq_head?, Module.get?_propertyMap, m.eq_none_iff name,
    Module.property?_eq_get?_iff⟩, ?_⟩
  rw [of, List.forall₂_map_right_iff, List.forall₂_same]
  exact fun m _ => readAs_configure _ overlay m

/-- A module with two severities. The rule that it configures runs at the first one, and its factory
is shown the second one. -/
theorem severity_of_two :
    let m : Module := .mk "ModifierOrder" [⟨"severity", "error"⟩, ⟨"severity", "warning"⟩] []
    let c : Checkstyle := ⟨.mk "Checker" [] [.mk "TreeWalker" [] [m]]⟩
    m.property? "severity" = some "error" ∧ m.propertyMap.get? "severity" = some "warning" ∧
      ∃ r, (of c none).rules = [r] ∧ r.severity = some "error" ∧
        r.property? "severity" = some "warning" ∧ Linter.severityOf r = .error := by
  intro m c
  exact ⟨rfl, rfl, _, rfl, rfl, rfl, by decide +kernel⟩

end Merged

end JavaLint.Config
