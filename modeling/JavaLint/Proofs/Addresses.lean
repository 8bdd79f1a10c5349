import Mathlib.Data.List.Lex
import Mathlib.Data.List.Nodup
import JavaLint.Proofs.Preorder

/-!
# Addresses of nodes

The address of a node tells the way down to it from the root: for each step, how many siblings stand
before the node that the way leads to. The places of a tree stand in the lexicographic order of their
addresses (`Tree.pairwise_address`), and there is one place for each address at which the tree has a
node (`Tree.exists_place_iff`).

So the moves of a cursor can be told by addresses. A cursor in a tree moves to the first child, to
the next sibling or to the parent exactly if the tree has a node at the address of these, and then
stands there (`Tree.movesIn`).
-/

namespace JavaLint

namespace Tree

/-- The node at an address. -/
def at? : Tree → List Nat → Option Tree
  | t, [] => some t
  | t, i :: p => t.children[i]?.bind fun c => c.at? p

theorem at?_append (t : Tree) (p q : List Nat) : t.at? (p ++ q) = (t.at? p).bind (·.at? q) := by
  induction p generalizing t with
  | nil => rfl
  | cons i p ih =>
    rw [List.cons_append, at?, at?, Option.bind_assoc]
    exact congrArg _ (funext fun c => ih c)

end Tree

/-- The address to which a way leads back from the root. -/
def wayAddress (way : List Crumb) : List Nat := (way.map fun k => k.before.length).reverse

theorem wayAddress_cons (k : Crumb) (way : List Crumb) :
    wayAddress (k :: way) = wayAddress way ++ [k.before.length] := by
  rw [wayAddress, List.map_cons, List.reverse_cons, wayAddress]

/-- The address of the node at which a cursor stands. -/
def Cursor.address (c : Cursor) : List Nat := wayAddress c.crumbs

namespace Tree

/-! ### The places below a node -/

theorem mem_placesOnEach {way : List Crumb} {l : NodeLabel} {before ts : List Tree} {c : Cursor} :
    c ∈ placesOnEach way l before ts ↔
      ∃ a t b, ts = a ++ t :: b ∧ c ∈ t.placesOn (⟨l, a.reverse ++ before, b⟩ :: way) := by
  induction ts generalizing before with
  | nil => simp [placesOnEach]
  | cons u ts ih =>
    rw [placesOnEach, List.mem_append, ih]
    constructor
    · rintro (h | ⟨a, t, b, rfl, h⟩)
      · exact ⟨[], u, ts, rfl, h⟩
      · exact ⟨u :: a, t, b, rfl, by simpa using h⟩
    · rintro ⟨a, t, b, hts, h⟩
      cases a with
      | nil =>
        obtain ⟨rfl, rfl⟩ := List.cons.inj hts
        exact .inl h
      | cons v a =>
        obtain ⟨rfl, rfl⟩ := List.cons.inj hts
        exact .inr ⟨a, t, b, rfl, by simpa using h⟩

/-- The places on a node are the node itself and the places on its children. -/
theorem mem_placesOn_node {way : List Crumb} {l : NodeLabel} {cs : List Tree} {c : Cursor} :
    c ∈ (node l cs).placesOn way ↔ c = ⟨node l cs, way⟩ ∨
      ∃ a t b, cs = a ++ t :: b ∧ c ∈ t.placesOn (⟨l, a.reverse, b⟩ :: way) := by
  rw [placesOn, List.mem_cons, mem_placesOnEach]
  simp only [List.append_nil]

theorem self_mem_placesOn (t : Tree) (way : List Crumb) : ⟨t, way⟩ ∈ t.placesOn way := by
  cases t
  exact mem_placesOn_node.2 (.inl rfl)

theorem placesOn_subset {t : Tree} {way : List Crumb} {c : Cursor} (hc : c ∈ t.placesOn way) :
    c.focus.placesOn c.crumbs ⊆ t.placesOn way := by
  induction t using inductionOn generalizing way with
  | node l cs ih =>
    rcases mem_placesOn_node.1 hc with rfl | ⟨a, t, b, rfl, hbelow⟩
    · exact List.Subset.refl _
    · intro d hd
      exact mem_placesOn_node.2 (.inr ⟨a, t, b, rfl, ih t (by simp) hbelow hd⟩)

/-- A place on a node is the node, or its parent is a place on the node too. -/
theorem exists_parent_of_mem_placesOn {t : Tree} {way : List Crumb} {c : Cursor}
    (hc : c ∈ t.placesOn way) : c = ⟨t, way⟩ ∨ ∃ p ∈ t.placesOn way, c.parent? = some p := by
  induction t using inductionOn generalizing way with
  | node l cs ih =>
    rcases mem_placesOn_node.1 hc with rfl | ⟨a, t, b, rfl, hbelow⟩
    · exact .inl rfl
    · right
      rcases ih t (by simp) hbelow with rfl | ⟨p, hp, hparent⟩
      · refine ⟨_, self_mem_placesOn _ way, ?_⟩
        simp only [Cursor.parent?, List.reverse_reverse]
      · exact ⟨p, mem_placesOn_node.2 (.inr ⟨a, t, b, rfl, hp⟩), hparent⟩

/-! ### Places and addresses -/

theorem exists_address_of_mem_placesOn {t : Tree} {way : List Crumb} {c : Cursor}
    (hc : c ∈ t.placesOn way) :
    ∃ p, c.address = wayAddress way ++ p ∧ t.at? p = some c.focus := by
  induction t using inductionOn generalizing way with
  | node l cs ih =>
    rcases mem_placesOn_node.1 hc with rfl | ⟨a, t, b, rfl, hbelow⟩
    · exact ⟨[], by rw [Cursor.address, List.append_nil], rfl⟩
    · obtain ⟨p, hp, hat⟩ := ih t (by simp) hbelow
      refine ⟨a.length :: p, ?_, ?_⟩
      · rw [hp, wayAddress_cons, List.length_reverse, List.append_assoc, List.singleton_append]
      · rw [at?, children, List.getElem?_append_right (Nat.le_refl _), Nat.sub_self,
          List.getElem?_cons_zero]
        exact hat

theorem exists_mem_placesOn_of_at? {t u : Tree} {p : List Nat} (way : List Crumb)
    (h : t.at? p = some u) :
    ∃ c ∈ t.placesOn way, c.address = wayAddress way ++ p ∧ c.focus = u := by
  induction p generalizing t way with
  | nil =>
    obtain rfl := Option.some.inj h
    exact ⟨_, self_mem_placesOn t way, by rw [Cursor.address, List.append_nil], rfl⟩
  | cons i p ih =>
    obtain ⟨l, cs⟩ := t
    obtain ⟨t, ht, hp⟩ := Option.bind_eq_some_iff.1 h
    obtain ⟨hlt, hget⟩ := List.getElem?_eq_some_iff.1 ht
    obtain ⟨a, b, rfl, rfl⟩ : ∃ a b, cs = a ++ t :: b ∧ a.length = i := by
      refine ⟨cs.take i, cs.drop (i + 1), ?_, List.length_take_of_le (Nat.le_of_lt hlt)⟩
      have hdrop : cs.drop i = t :: cs.drop (i + 1) := hget ▸ List.drop_eq_getElem_cons hlt
      rw [← hdrop, List.take_append_drop]
    obtain ⟨c, hc, haddress, hfocus⟩ := ih (⟨l, a.reverse, b⟩ :: way) hp
    refine ⟨c, mem_placesOn_node.2 (.inr ⟨a, t, b, rfl, hc⟩), ?_, hfocus⟩
    rw [haddress, wayAddress_cons, List.length_reverse, List.append_assoc, List.singleton_append]

/-- The places on some children come in the order of their addresses if those on each child do. -/
private theorem pairwise_address_placesOnEach {way : List Crumb} {l : NodeLabel} {ts : List Tree}
    (before : List Tree)
    (hplaces : ∀ t ∈ ts, ∀ way, (t.placesOn way).Pairwise fun c d => c.address < d.address) :
    (placesOnEach way l before ts).Pairwise fun c d => c.address < d.address := by
  induction ts generalizing before with
  | nil => exact List.Pairwise.nil
  | cons t ts ih =>
    rw [placesOnEach, List.pairwise_append]
    refine ⟨hplaces t List.mem_cons_self _,
      ih (t :: before) fun u hu => hplaces u (List.mem_cons_of_mem t hu), fun c hc d hd => ?_⟩
    obtain ⟨a, u, b, -, hd⟩ := mem_placesOnEach.1 hd
    obtain ⟨p, hp, -⟩ := exists_address_of_mem_placesOn hc
    obtain ⟨q, hq, -⟩ := exists_address_of_mem_placesOn hd
    rw [hp, hq, wayAddress_cons, wayAddress_cons, List.append_assoc, List.append_assoc]
    apply List.append_left_lt
    rw [List.singleton_append, List.singleton_append, List.cons_lt_cons_iff]
    left
    simp only [List.length_append, List.length_reverse, List.length_cons]
    omega

theorem pairwise_address_placesOn (t : Tree) (way : List Crumb) :
    (t.placesOn way).Pairwise fun c d => c.address < d.address := by
  induction t using inductionOn generalizing way with
  | node l cs ih =>
    rw [placesOn, List.pairwise_cons]
    refine ⟨fun c hc => ?_, pairwise_address_placesOnEach [] ih⟩
    obtain ⟨a, t, b, -, hc⟩ := mem_placesOnEach.1 hc
    obtain ⟨p, hp, -⟩ := exists_address_of_mem_placesOn hc
    rw [hp, wayAddress_cons, List.append_assoc]
    have hlt : wayAddress way ++ [] < wayAddress way ++ ([(a.reverse ++ []).length] ++ p) :=
      List.append_left_lt (List.nil_lt_cons _ _)
    rwa [List.append_nil] at hlt

/-- The places of a tree stand in the order of their addresses, and no two have the same one. -/
theorem pairwise_address (t : Tree) : (t.places.map (·.address)).Pairwise (· < ·) :=
  List.pairwise_map.2 (t.pairwise_address_placesOn [])

theorem at?_address {t : Tree} {c : Cursor} (hc : c ∈ t.places) : t.at? c.address = some c.focus := by
  obtain ⟨p, hp, hat⟩ := exists_address_of_mem_placesOn hc
  rw [hp]
  exact hat

/-- There is a place for each address of a node, and that node stands there. -/
theorem exists_place_iff {t u : Tree} {p : List Nat} :
    (∃ c ∈ t.places, c.address = p ∧ c.focus = u) ↔ t.at? p = some u := by
  refine ⟨?_, exists_mem_placesOn_of_at? []⟩
  rintro ⟨c, hc, rfl, rfl⟩
  exact at?_address hc

/-- Places are told apart by their addresses. -/
theorem eq_of_address_eq {t : Tree} {c d : Cursor} (hc : c ∈ t.places) (hd : d ∈ t.places)
    (h : c.address = d.address) : c = d := by
  have hnodup : (t.places.map (·.address)).Nodup := t.pairwise_address.imp ne_of_lt
  exact List.inj_on_of_nodup_map hnodup hc hd h

end Tree

/-! ### Moves and addresses -/

/-- A cursor moves to the nodes of the tree at the addresses of its first child, its next sibling and
its parent, if there are such nodes, and to no others. -/
structure Cursor.MovesIn (t : Tree) (c : Cursor) : Prop where
  firstChild?_eq_some_iff : ∀ d, c.firstChild? = some d ↔
    d ∈ t.places ∧ d.address = c.address ++ [0]
  nextSibling?_eq_some_iff : ∀ d, c.nextSibling? = some d ↔
    d ∈ t.places ∧ ∃ p i, c.address = p ++ [i] ∧ d.address = p ++ [i + 1]
  parent?_eq_some_iff : ∀ d, c.parent? = some d ↔ d ∈ t.places ∧ ∃ i, c.address = d.address ++ [i]

namespace Tree

variable {t : Tree} {c d : Cursor}

theorem of_firstChild? (hc : c ∈ t.places) (h : c.firstChild? = some d) :
    d ∈ t.places ∧ d.address = c.address ++ [0] := by
  obtain ⟨⟨l, cs⟩, way⟩ := c
  cases cs with
  | nil => exact nomatch h
  | cons u ts =>
    obtain rfl := Option.some.inj h
    refine ⟨placesOn_subset hc (mem_placesOn_node.2 (.inr ⟨[], u, ts, rfl, ?_⟩)), ?_⟩
    · exact self_mem_placesOn u _
    · exact wayAddress_cons _ way

theorem of_parent? (hc : c ∈ t.places) (h : c.parent? = some d) :
    d ∈ t.places ∧ ∃ i, c.address = d.address ++ [i] := by
  obtain ⟨focus, crumbs⟩ := c
  cases crumbs with
  | nil => exact nomatch h
  | cons k way =>
    refine ⟨?_, k.before.length, ?_⟩
    · rcases exists_parent_of_mem_placesOn hc with hroot | ⟨p, hp, hparent⟩
      · exact absurd (congrArg Cursor.crumbs hroot) (List.cons_ne_nil k way)
      · obtain rfl := Option.some.inj (hparent.symm.trans h)
        exact hp
    · obtain rfl := Option.some.inj h
      exact wayAddress_cons k way

theorem of_nextSibling? (hc : c ∈ t.places) (h : c.nextSibling? = some d) :
    d ∈ t.places ∧ ∃ p i, c.address = p ++ [i] ∧ d.address = p ++ [i + 1] := by
  obtain ⟨focus, crumbs⟩ := c
  cases crumbs with
  | nil => exact nomatch h
  | cons k way =>
    obtain ⟨l, before, after⟩ := k
    cases after with
    | nil => exact nomatch h
    | cons u after =>
      obtain rfl := Option.some.inj h
      refine ⟨?_, wayAddress way, before.length, wayAddress_cons _ way, wayAddress_cons _ way⟩
      have hparent := (of_parent? hc rfl).1
      refine placesOn_subset hparent (mem_placesOn_node.2 (.inr ⟨before.reverse ++ [focus], u, after,
        by simp, ?_⟩))
      simpa using self_mem_placesOn u _

theorem getElem?_children_of_address (hc : c ∈ t.places) (hd : d ∈ t.places) {i : Nat}
    (h : d.address = c.address ++ [i]) : c.focus.children[i]? = some d.focus := by
  have hat := at?_address hd
  rw [h, at?_append, at?_address hc, Option.bind_some] at hat
  obtain ⟨u, hu, hfocus⟩ := Option.bind_eq_some_iff.1 hat
  exact Option.some.inj hfocus ▸ hu

theorem firstChild?_of_address (hc : c ∈ t.places) (hd : d ∈ t.places)
    (h : d.address = c.address ++ [0]) : c.firstChild? = some d := by
  have hchild := getElem?_children_of_address hc hd h
  have hmove : ∃ e, c.firstChild? = some e := by
    obtain ⟨⟨l, cs⟩, way⟩ := c
    cases cs with
    | nil => exact nomatch hchild
    | cons u ts => exact ⟨_, rfl⟩
  obtain ⟨e, he⟩ := hmove
  obtain ⟨hplace, haddress⟩ := of_firstChild? hc he
  rw [he, eq_of_address_eq hplace hd (haddress.trans h.symm)]

theorem parent?_of_address (hc : c ∈ t.places) (hd : d ∈ t.places) {i : Nat}
    (h : c.address = d.address ++ [i]) : c.parent? = some d := by
  rcases exists_parent_of_mem_placesOn hc with rfl | ⟨p, -, hparent⟩
  · exact absurd h.symm (List.concat_ne_nil i d.address)
  · obtain ⟨hplace, j, haddress⟩ := of_parent? hc hparent
    have hsame := (List.append_inj' (haddress.symm.trans h) rfl).1
    rw [hparent, eq_of_address_eq hplace hd hsame]

theorem nextSibling?_of_address (hc : c ∈ t.places) (hd : d ∈ t.places) {p : List Nat} {i : Nat}
    (hcp : c.address = p ++ [i]) (hdp : d.address = p ++ [i + 1]) : c.nextSibling? = some d := by
  have hmove : ∃ e, c.nextSibling? = some e := by
    obtain ⟨focus, crumbs⟩ := c
    cases crumbs with
    | nil => exact absurd hcp.symm (List.concat_ne_nil i p)
    | cons k way =>
      obtain ⟨l, before, after⟩ := k
      -- the sibling is looked up below the parent
      obtain ⟨hparent, -⟩ := of_parent? hc rfl
      obtain ⟨hway, hi⟩ := List.append_inj' ((wayAddress_cons _ way).symm.trans hcp) rfl
      obtain rfl := List.singleton_inj.1 hi
      have hsibling := getElem?_children_of_address hparent hd (hway ▸ hdp)
      cases after with
      | nil => simp [children] at hsibling
      | cons u after => exact ⟨_, rfl⟩
  obtain ⟨e, he⟩ := hmove
  obtain ⟨hplace, q, j, hcq, heq⟩ := of_nextSibling? hc he
  obtain ⟨rfl, hij⟩ := List.append_inj' (hcp.symm.trans hcq) rfl
  obtain rfl := List.singleton_inj.1 hij
  rw [he, eq_of_address_eq hplace hd (heq.trans hdp.symm)]

/-- Cursors in a tree move as the addresses say. -/
theorem movesIn (hc : c ∈ t.places) : c.MovesIn t where
  firstChild?_eq_some_iff _ := ⟨of_firstChild? hc, fun ⟨hd, h⟩ => firstChild?_of_address hc hd h⟩
  nextSibling?_eq_some_iff _ :=
    ⟨of_nextSibling? hc, fun ⟨hd, _, _, hcp, hdp⟩ => nextSibling?_of_address hc hd hcp hdp⟩
  parent?_eq_some_iff _ := ⟨of_parent? hc, fun ⟨hd, _, h⟩ => parent?_of_address hc hd h⟩

end Tree

end JavaLint
