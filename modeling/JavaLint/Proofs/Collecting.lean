import Mathlib.Data.List.Forall2
import Mathlib.Data.List.Nodup
import JavaLint.Files.Collect
import JavaLint.Proofs.FileEdits
import JavaLint.Proofs.Sorting

/-!
# The files that paths stand for

A directory is walked entry by entry, in the order of the names, and what an entry holds comes
before the next entry. So the files are listed in the order of the components of their paths, which
is not the order of the paths as texts: what a directory `a` holds comes before a file `a.java`,
though a dot comes before a slash. A path below a directory has the components of the directory's
path and then the names on the way (`Path.components_join`), and the first of these that differ are
the names of siblings (`Entry.pairwise_filesBelow`).

A name leads from a path to what is found there under that name (`FileSystem.find_join_eq_ok_iff`).
So the listed paths are those that lead down from the directory to a file (`Entry.mem_filesBelow`),
at any depth and whatever the directories on the way are called.

Main statement: `FileSystem.collectAll_contributes`.
-/

namespace JavaLint.Files

open JavaLint.Text

/-! ### Components -/

namespace Path

/-- A component of a path. The root comes before all others and names come last, in their order as
texts. -/
inductive Component where
  | root
  | here
  | above
  | name (text : String)
deriving DecidableEq, Ord, Repr

namespace Component

instance : LT Component := ltOfOrd

theorem name_lt_name {m n : String} : name m < name n ↔ m < n := by
  have hcompare : compare (name m) (name n) = compare m n := Ordering.then_eq
  exact (Iff.of_eq (congrArg (· = Ordering.lt) hcompare)).trans compare_lt_iff_lt

theorem lt_irrefl (c : Component) : ¬ c < c := by
  cases c with
  | root => decide
  | here => decide
  | above => decide
  | name n => exact fun h => (name_lt_name.1 h).ne rfl

instance : Std.Irrefl fun a b : Component => a < b := ⟨lt_irrefl⟩

end Component

/-- The component that a part of a path is. Empty parts and single dots are none. -/
def component? (part : String) : Option Component :=
  if part = "" ∨ part = "." then none else if part = ".." then some .above else some (.name part)

/-- What a path begins with before its names: the root, or a dot for the working directory. -/
def anchor (path : String) : List Component :=
  if isAbsolute path then [.root] else if (parts path).head? = some "." then [.here] else []

/-- The components of a path. Apart from a leading one, single dots are dropped, and so are repeated
slashes and a slash at the end. -/
def components (path : String) : List Component :=
  anchor path ++ (parts path).filterMap component?

/-- A name that an entry of a directory can have. -/
def IsName (name : String) : Prop := LeadsDown name ∧ '/' ∉ name.toList

instance : DecidablePred IsName := fun _ => inferInstanceAs (Decidable (_ ∧ _))

/-- The path to which some names lead from a path. -/
def below (path : String) (names : List String) : String := names.foldl join path

namespace IsName

variable {name : String}

theorem parts_eq (h : IsName name) : parts name = [name] := by
  rw [parts, splitAtEach_of_not_mem h.2, List.map_singleton, String.ofList_toList]

theorem isAbsolute_eq (h : IsName name) : isAbsolute name = false := by
  refine Bool.eq_false_iff.2 fun habsolute => h.2 ?_
  exact List.mem_of_mem_head? (beq_iff_eq.1 habsolute)

theorem component?_eq (h : IsName name) : component? name = some (.name name) := by
  rw [component?, if_neg h.1.1, if_neg h.1.2]

end IsName

/-- Nothing is written behind a path but a slash, if it has none. -/
theorem join_empty {base : String} (hbase : base ≠ "") :
    join base "" = base ∨ join base "" = base ++ "/" ++ "" := by
  have hrelative : isAbsolute "" = false := rfl
  rw [join, hrelative, if_neg Bool.false_ne_true]
  split
  · rename_i hlast
    exact absurd (String.toList_eq_nil_iff.1 (List.getLast?_eq_none_iff.1 hlast)) hbase
  · exact .inl String.append_empty
  · exact .inr rfl

theorem parts_ne_nil (path : String) : parts path ≠ [] := by
  rw [parts, Ne, List.map_eq_nil_iff]
  exact splitAtEach_ne_nil _ _

theorem anchor_append (stem place : String) :
    anchor (stem ++ "/" ++ place) = anchor (stem ++ "/" ++ "") := by
  obtain ⟨first, rest, hstem⟩ := List.exists_cons_of_ne_nil (parts_ne_nil stem)
  rw [anchor, anchor, isAbsolute_append, isAbsolute_append, parts_append, parts_append, hstem]
  rfl

theorem anchor_slash {stem : String} (hstem : stem ≠ "") :
    anchor (stem ++ "/" ++ "") = anchor stem := by
  obtain ⟨c, cs, hchars⟩ := List.exists_cons_of_ne_nil (mt String.toList_eq_nil_iff.1 hstem)
  obtain ⟨first, rest, hparts⟩ := List.exists_cons_of_ne_nil (parts_ne_nil stem)
  rw [anchor, anchor, isAbsolute_append, isAbsolute, parts_append, hparts, hchars]
  rfl

theorem filterMap_parts_empty : (parts "").filterMap component? = [] := rfl

theorem components_append (stem place : String) :
    components (stem ++ "/" ++ place) =
      components (stem ++ "/" ++ "") ++ (parts place).filterMap component? := by
  rw [components, components, anchor_append, parts_append, parts_append, List.filterMap_append,
    List.filterMap_append, filterMap_parts_empty, List.append_nil, List.append_assoc]

theorem components_slash {stem : String} (hstem : stem ≠ "") :
    components (stem ++ "/" ++ "") = components stem := by
  rw [components, components, anchor_slash hstem, parts_append, List.filterMap_append,
    filterMap_parts_empty, List.append_nil]

/-- A path that one name leads to has that name as one more component. -/
theorem components_join {base name : String} (hbase : base ≠ "") (hname : IsName name) :
    components (join base name) = components base ++ [.name name] := by
  obtain ⟨stem, hjoin⟩ := exists_join_eq hbase
  have hstem : components (stem ++ "/" ++ "") = components base := by
    rw [← hjoin "" rfl]
    rcases join_empty hbase with h | h
    · rw [h]
    · rw [h, components_slash hbase]
  rw [hjoin name hname.isAbsolute_eq, components_append, hstem, hname.parts_eq,
    List.filterMap_cons_some hname.component?_eq, List.filterMap_nil]

theorem join_ne_empty {base name : String} (hbase : base ≠ "") (hname : IsName name) :
    join base name ≠ "" := by
  obtain ⟨stem, hjoin⟩ := exists_join_eq hbase
  rw [hjoin name hname.isAbsolute_eq, Ne, ← String.toList_eq_nil_iff, toList_append_slash]
  exact List.append_ne_nil_of_right_ne_nil _ nofun

end Path

/-! ### Well-formed entries -/

namespace Entry

/-- What a directory holds has names that can be looked up, no two alike, at any depth. -/
inductive WellFormed : Entry → Prop
  | file (name : String) (content : ByteArray) : WellFormed (.file name content)
  | special (name : String) (content : ByteArray) : WellFormed (.special name content)
  | directory {name : String} {entries : List Entry} (hnodup : (entries.map Entry.name).Nodup)
      (hnames : ∀ c ∈ entries, Path.IsName c.name) (hentries : ∀ c ∈ entries, c.WellFormed) :
      WellFormed (.directory name entries)

variable {d c : Entry} {name : String}

theorem WellFormed.nodup_names (hd : d.WellFormed) : (d.entries.map Entry.name).Nodup := by
  cases hd with
  | file n content => exact .nil
  | special n content => exact .nil
  | directory hnodup hnames hentries => exact hnodup

theorem WellFormed.isName (hd : d.WellFormed) (hc : c ∈ d.entries) : Path.IsName c.name := by
  cases hd with
  | file n content => exact absurd hc List.not_mem_nil
  | special n content => exact absurd hc List.not_mem_nil
  | directory hnodup hnames hentries => exact hnames c hc

theorem WellFormed.of_mem (hd : d.WellFormed) (hc : c ∈ d.entries) : c.WellFormed := by
  cases hd with
  | file n content => exact absurd hc List.not_mem_nil
  | special n content => exact absurd hc List.not_mem_nil
  | directory hnodup hnames hentries => exact hentries c hc

theorem WellFormed.of_child? (hd : d.WellFormed) (hc : d.child? name = some c) : c.WellFormed :=
  hd.of_mem (List.mem_of_find?_eq_some hc)

/-- An entry that replaces those of its name keeps a directory well-formed. -/
theorem WellFormed.replace (hd : d.WellFormed) (hc : c.WellFormed) (hname : Path.IsName c.name)
    (n : String) :
    (Entry.directory n (c :: d.entries.filter fun e => e.name != c.name)).WellFormed := by
  have hothers : ∀ e ∈ d.entries.filter fun e => e.name != c.name,
      e ∈ d.entries ∧ e.name ≠ c.name := by
    intro e he
    obtain ⟨he, hne⟩ := List.mem_filter.1 he
    exact ⟨he, bne_iff_ne.1 hne⟩
  refine .directory (List.nodup_cons.2 ⟨?_, hd.nodup_names.sublist (List.filter_sublist.map _)⟩)
    (List.forall_mem_cons.2 ⟨hname, fun e he => ?_⟩) (List.forall_mem_cons.2 ⟨hc, fun e he => ?_⟩)
  · intro hmem
    obtain ⟨e, he, heq⟩ := List.mem_map.1 hmem
    exact (hothers e he).2 heq
  · exact hd.isName (hothers e he).1
  · exact hd.of_mem (hothers e he).1

/-- Placing something in a well-formed directory keeps it well-formed. -/
theorem WellFormed.place {names : List String} (hd : d.WellFormed)
    (hnames : ∀ name ∈ names, Path.IsName name) (content : Option ByteArray) (n : String) :
    (Entry.directory n (FileSystem.place content names d.entries)).WellFormed := by
  induction names generalizing d n with
  | nil => exact .directory hd.nodup_names (fun _ => hd.isName) (fun _ => hd.of_mem)
  | cons name names ih =>
    obtain ⟨hname, hnames⟩ := List.forall_mem_cons.1 hnames
    have hinside : (Entry.directory name (FileSystem.place content names
        (((d.child? name).map Entry.entries).getD []))).WellFormed := by
      cases hc : d.child? name with
      | none => exact ih (.file name .empty) hnames name
      | some c => exact ih (hd.of_child? hc) hnames name
    cases names with
    | cons next names => exact hd.replace hinside hname n
    | nil =>
      cases content with
      | none => exact hd.replace hinside hname n
      | some bytes => exact hd.replace (.file name bytes) hname n

theorem name_of_child? (h : d.child? name = some c) : c.name = name :=
  beq_iff_eq.1 (List.find?_some (p := fun c : Entry => c.name == name) h)

theorem child?_eq_some_iff {entries : List Entry} {n : String}
    (hnodup : (entries.map Entry.name).Nodup) :
    (directory n entries).child? name = some c ↔ c ∈ entries ∧ c.name = name := by
  constructor
  · intro hc
    exact ⟨List.mem_of_find?_eq_some hc, name_of_child? hc⟩
  · rintro ⟨hc, rfl⟩
    obtain ⟨e, he⟩ : ∃ e, (directory n entries).child? c.name = some e :=
      Option.isSome_iff_exists.1 (List.find?_isSome.2 ⟨c, hc, beq_self_eq_true _⟩)
    rw [he, List.inj_on_of_nodup_map hnodup (List.mem_of_find?_eq_some he) hc (name_of_child? he)]

theorem isDirectory_of_child? (h : d.child? name = some c) : d.isDirectory = true := by
  cases d with
  | file n content => exact absurd h nofun
  | special n content => exact absurd h nofun
  | directory n entries => rfl

/-- A step through well-formed directories comes to another of them. -/
theorem advance_wellFormed {here there : Entry × List Entry}
    (h : ∀ d ∈ here.1 :: here.2, d.WellFormed) (hstep : advance here name = .ok there) :
    ∀ d ∈ there.1 :: there.2, d.WellFormed := by
  cases hd : here.1.isDirectory with
  | false => exact absurd ((advance_noDirectory hd).symm.trans hstep) nofun
  | true =>
    by_cases hstay : name = "" ∨ name = "."
    · rwa [← Except.ok.inj ((advance_stay hd hstay).symm.trans hstep)]
    by_cases hup : name = ".."
    · rw [← Except.ok.inj ((advance_up hd hstay hup).symm.trans hstep)]
      cases habove : here.2 with
      | nil => exact List.forall_mem_singleton.2 (h here.1 List.mem_cons_self)
      | cons d above => exact fun e he => h e (List.mem_cons_of_mem _ (habove ▸ he))
    · rw [advance_down hd ⟨hstay, hup⟩] at hstep
      cases hchild : here.1.child? name with
      | none =>
        rw [hchild] at hstep
        exact absurd hstep nofun
      | some c =>
        rw [hchild] at hstep
        rw [← Except.ok.inj hstep]
        exact List.forall_mem_cons.2 ⟨(h here.1 List.mem_cons_self).of_child? hchild, h⟩

end Entry

/-! ### Names below a path -/

namespace FileSystem

open Entry

variable {fs : FileSystem} {path name : String} {c : Entry}

/-- Following names goes from entry to entry. -/
theorem follow_eq_foldlM (here : Entry × List Entry) (names : List String) :
    follow here.1 here.2 names = (names.foldlM advance here).map Prod.fst := by
  induction names generalizing here with
  | nil => rfl
  | cons name names ih =>
    rw [follow_cons, List.foldlM_cons]
    cases advance here name with
    | error fault => rfl
    | ok there => exact ih there

theorem follow_concat (here : Entry × List Entry) (names : List String) (name : String) :
    follow here.1 here.2 (names ++ [name]) =
      (names.foldlM advance here >>= fun there => advance there name).map Prod.fst := by
  rw [follow_eq_foldlM, List.foldlM_append]
  simp only [List.foldlM_cons, List.foldlM_nil, bind_pure]

theorem names_slash {base : String} (hbase : base ≠ "") :
    fs.names (base ++ "/" ++ "") = fs.names base ++ Path.parts "" := by
  obtain ⟨c, cs, hchars⟩ := List.exists_cons_of_ne_nil (mt String.toList_eq_nil_iff.1 hbase)
  rw [names, names, Path.isAbsolute_append, Path.isAbsolute, hchars, List.head?_cons,
    Option.some_or]
  split
  · exact Path.parts_append _ _
  · rw [← String.append_assoc, ← String.append_assoc, Path.parts_append]

/-- The names on the way of a path that one name leads to. -/
theorem exists_names_join_name {base : String} (hbase : base ≠ "") (hname : Path.IsName name) :
    ∃ way, (fs.names base = way ∨ fs.names base = way ++ [""]) ∧
      fs.names (Path.join base name) = way ++ [name] := by
  obtain ⟨way, hway⟩ := fs.exists_names_join base
  refine ⟨way, ?_, (hway name hname.isAbsolute_eq).trans (congrArg _ hname.parts_eq)⟩
  rcases Path.join_empty hbase with h | h
  · exact .inr (h ▸ hway "" rfl)
  · have hempty := hway "" rfl
    rw [h, names_slash hbase] at hempty
    exact .inl (List.append_cancel_right hempty)

theorem map_advance_eq_ok_iff {here : Entry × List Entry} (hname : Path.LeadsDown name) :
    (advance here name).map Prod.fst = .ok c ↔ here.1.child? name = some c := by
  cases hd : here.1.isDirectory with
  | false =>
    rw [advance_noDirectory hd]
    refine iff_of_false nofun fun hc => ?_
    exact absurd (isDirectory_of_child? hc) (Bool.eq_false_iff.1 hd)
  | true =>
    rw [advance_down hd hname]
    cases here.1.child? name with
    | none => exact iff_of_false nofun nofun
    | some e =>
      rw [Option.some_inj]
      exact ⟨Except.ok.inj, congrArg _⟩

/-- A slash at the end of a path asks for a directory, and leads no further. -/
theorem find_eq_ok_iff {way : List String} {d : Entry} (hpath : path ≠ "")
    (hway : fs.names path = way ∨ fs.names path = way ++ [""]) (hd : d.isDirectory = true) :
    fs.find path = .ok d ↔ (way.foldlM advance fs.start).map Prod.fst = .ok d := by
  rw [find_eq fs hpath]
  rcases hway with hway | hway
  · rw [hway, follow_eq_foldlM]
  rw [hway, follow_concat]
  cases way.foldlM advance fs.start with
  | error fault => exact iff_of_false nofun nofun
  | ok there =>
    change (advance there "").map Prod.fst = .ok d ↔ Except.ok there.1 = .ok d
    cases hthere : there.1.isDirectory with
    | false =>
      rw [advance_noDirectory hthere]
      refine iff_of_false nofun fun h => ?_
      rw [Except.ok.inj h, hd] at hthere
      exact Bool.noConfusion hthere
    | true =>
      rw [advance_stay hthere (.inl rfl)]
      rfl

/-- A name leads from a path to what is found there under that name. -/
theorem find_join_eq_ok_iff (hpath : path ≠ "") (hname : Path.IsName name) :
    fs.find (Path.join path name) = .ok c ↔
      ∃ d, fs.find path = .ok d ∧ d.child? name = some c := by
  obtain ⟨way, hway, hjoin⟩ := fs.exists_names_join_name hpath hname
  have hwalk : (∃ d, fs.find path = .ok d ∧ d.child? name = some c) ↔
      ∃ d, (way.foldlM advance fs.start).map Prod.fst = .ok d ∧ d.child? name = some c :=
    exists_congr fun d => and_congr_left fun hc =>
      find_eq_ok_iff hpath hway (isDirectory_of_child? hc)
  rw [hwalk, find_eq fs (Path.join_ne_empty hpath hname), hjoin, follow_concat]
  cases way.foldlM advance fs.start with
  | error fault =>
    refine iff_of_false nofun ?_
    rintro ⟨d, hd, -⟩
    exact absurd hd nofun
  | ok there =>
    refine (map_advance_eq_ok_iff hname.1).trans ⟨fun hc => ⟨there.1, rfl, hc⟩, ?_⟩
    rintro ⟨d, hd, hc⟩
    rwa [← Except.ok.inj hd] at hc

/-- What stands below a path has something at that path. -/
theorem exists_find_of_below {names : List String} (hpath : path ≠ "")
    (hnames : ∀ name ∈ names, Path.IsName name) (h : fs.find (Path.below path names) = .ok c) :
    ∃ d, fs.find path = .ok d := by
  induction names generalizing path with
  | nil => exact ⟨c, h⟩
  | cons name names ih =>
    obtain ⟨hname, hnames⟩ := List.forall_mem_cons.1 hnames
    obtain ⟨e, he⟩ := ih (Path.join_ne_empty hpath hname) hnames h
    obtain ⟨d, hd, -⟩ := (find_join_eq_ok_iff hpath hname).1 he
    exact ⟨d, hd⟩

theorem isFile_eq_true_iff :
    fs.isFile path = true ↔ ∃ e, fs.find path = .ok e ∧ e.isFile = true := by
  rw [isFile]
  cases fs.find path with
  | error fault =>
    refine iff_of_false Bool.false_ne_true ?_
    rintro ⟨e, he, -⟩
    cases he
  | ok d =>
    constructor
    · intro h
      exact ⟨d, rfl, h⟩
    · rintro ⟨e, he, h⟩
      rwa [Except.ok.inj he]

/-- Names lead from a path down to a file, and `p` is the path of that file. A directory is no file,
so from a directory there is at least one name. -/
def HasFileBelow (fs : FileSystem) (path p : String) : Prop :=
  ∃ names, (∀ name ∈ names, Path.IsName name) ∧ p = Path.below path names ∧ fs.isFile p = true

/-- From what is found at a path either no name leads to a file, and it is one itself, or the first
name leads to one of its entries. -/
theorem hasFileBelow_iff {d : Entry} {p : String} (hpath : path ≠ "") (hd : fs.find path = .ok d) :
    fs.HasFileBelow path p ↔ (p = path ∧ d.isFile = true) ∨
      ∃ name c, Path.IsName name ∧ d.child? name = some c ∧
        fs.HasFileBelow (Path.join path name) p := by
  constructor
  · rintro ⟨names, hnames, rfl, hfile⟩
    obtain ⟨e, he, hfile'⟩ := isFile_eq_true_iff.1 hfile
    cases names with
    | nil => exact .inl ⟨rfl, Except.ok.inj (hd.symm.trans he) ▸ hfile'⟩
    | cons name names =>
      obtain ⟨hname, hnames⟩ := List.forall_mem_cons.1 hnames
      obtain ⟨c, hc⟩ := exists_find_of_below (Path.join_ne_empty hpath hname) hnames he
      obtain ⟨d', hd', hc⟩ := (find_join_eq_ok_iff hpath hname).1 hc
      rw [← Except.ok.inj (hd.symm.trans hd')] at hc
      exact .inr ⟨name, c, hname, hc, names, hnames, rfl, hfile⟩
  · rintro (⟨rfl, hfile⟩ | ⟨name, c, hname, hc, names, hnames, rfl, hfile⟩)
    · exact ⟨[], nofun, rfl, isFile_eq_true_iff.2 ⟨d, hd, hfile⟩⟩
    · exact ⟨name :: names, List.forall_mem_cons.2 ⟨hname, hnames⟩, rfl, hfile⟩

end FileSystem

/-! ### Walking a directory -/

namespace Entry

variable {extension : String}

theorem filesBelowEach_eq_map (extension path : String) (entries : List Entry) :
    filesBelowEach extension path entries =
      entries.map fun c => (c.name, c.filesBelow extension (Path.join path c.name)) := by
  induction entries with
  | nil => rfl
  | cons c entries ih => rw [filesBelowEach, ih, List.map_cons]

/-- The entries of a directory in the order of their names. -/
def inOrder (entries : List Entry) : List Entry := Sorting.sortBy Entry.name entries

theorem filesBelow_directory (extension path name : String) (entries : List Entry) :
    (directory name entries).filesBelow extension path =
      (inOrder entries).flatMap fun c => c.filesBelow extension (Path.join path c.name) := by
  rw [filesBelow, filesBelowEach_eq_map, inOrder, Sorting.sortBy]
  rw [← List.map_mergeSort (r := fun a b => decide (a.name ≤ b.name)), List.flatMap_map]
  exact fun _ _ _ _ => rfl

theorem mem_inOrder {entries : List Entry} {c : Entry} : c ∈ inOrder entries ↔ c ∈ entries :=
  (Sorting.sortBy_perm Entry.name entries).mem_iff

theorem pairwise_inOrder {entries : List Entry} (hnodup : (entries.map Entry.name).Nodup) :
    (inOrder entries).Pairwise fun a b => a.name < b.name := by
  have hsorted := Sorting.pairwise_sortBy Entry.name entries
  have hperm := (Sorting.sortBy_perm Entry.name entries).map Entry.name
  have hne : (inOrder entries).Pairwise fun a b => a.name ≠ b.name :=
    List.pairwise_map.1 (hperm.nodup_iff.2 hnodup)
  exact (hsorted.and hne).imp fun h => lt_of_le_of_ne h.1 h.2

/-- The walk lists the files with the extension to which paths lead down from here. -/
theorem mem_filesBelow {fs : FileSystem} {e : Entry} {path p : String} (he : e.WellFormed)
    (hpath : path ≠ "") (hfind : fs.find path = .ok e) :
    p ∈ e.filesBelow extension path ↔
      fs.HasFileBelow path p ∧ Path.extension? p = some extension := by
  induction he generalizing path with
  | file name content =>
    rw [FileSystem.hasFileBelow_iff hpath hfind, filesBelow]
    constructor
    · intro hp
      obtain ⟨hextension, hp⟩ := List.mem_ite_nil_right.1 hp
      obtain rfl := List.mem_singleton.1 hp
      exact ⟨.inl ⟨rfl, rfl⟩, hextension⟩
    · rintro ⟨⟨rfl, -⟩ | ⟨n, c, -, hchild, -⟩, hextension⟩
      · rw [if_pos hextension]
        exact List.mem_singleton_self p
      · -- no name leads further from a file
        exact absurd hchild nofun
  | special name content =>
    rw [FileSystem.hasFileBelow_iff hpath hfind]
    refine iff_of_false List.not_mem_nil ?_
    rintro ⟨⟨-, hfile⟩ | ⟨n, c, -, hchild, -⟩, -⟩
    · exact absurd hfile nofun
    · exact absurd hchild nofun
  | @directory name entries hnodup hnames hentries ih =>
    have hfindChild : ∀ c ∈ entries, fs.find (Path.join path c.name) = .ok c := fun c hc =>
      (FileSystem.find_join_eq_ok_iff hpath (hnames c hc)).2
        ⟨_, hfind, (child?_eq_some_iff hnodup).2 ⟨hc, rfl⟩⟩
    rw [FileSystem.hasFileBelow_iff hpath hfind, filesBelow_directory, List.mem_flatMap]
    constructor
    · rintro ⟨c, hc, hp⟩
      have hc := mem_inOrder.1 hc
      obtain ⟨hbelow, hextension⟩ :=
        (ih c hc (Path.join_ne_empty hpath (hnames c hc)) (hfindChild c hc)).1 hp
      have hchild := (child?_eq_some_iff (n := name) hnodup).2 ⟨hc, rfl⟩
      exact ⟨.inr ⟨c.name, c, hnames c hc, hchild, hbelow⟩, hextension⟩
    · rintro ⟨⟨-, hfile⟩ | ⟨n, c, hn, hchild, hbelow⟩, hextension⟩
      · exact absurd hfile nofun
      · obtain ⟨hc, rfl⟩ := (child?_eq_some_iff hnodup).1 hchild
        refine ⟨c, mem_inOrder.2 hc, ?_⟩
        exact (ih c hc (Path.join_ne_empty hpath hn) (hfindChild c hc)).2 ⟨hbelow, hextension⟩

/-- A listed path has the components of the path that the walk starts from. -/
theorem exists_components_eq_append {e : Entry} {path p : String} (he : e.WellFormed)
    (hpath : path ≠ "") (hp : p ∈ e.filesBelow extension path) :
    ∃ rest, Path.components p = Path.components path ++ rest := by
  induction he generalizing path with
  | file name content =>
    obtain rfl := List.mem_singleton.1 (List.mem_ite_nil_right.1 hp).2
    exact ⟨[], (List.append_nil _).symm⟩
  | special name content => exact absurd hp List.not_mem_nil
  | directory hnodup hnames hentries ih =>
    rw [filesBelow_directory] at hp
    obtain ⟨c, hc, hp⟩ := List.mem_flatMap.1 hp
    have hname := hnames c (mem_inOrder.1 hc)
    obtain ⟨rest, hrest⟩ := ih c (mem_inOrder.1 hc) (Path.join_ne_empty hpath hname) hp
    rw [Path.components_join hpath hname, List.append_assoc] at hrest
    exact ⟨_, hrest⟩

/-- The walk lists paths in the order of their components. -/
theorem pairwise_filesBelow {e : Entry} {path : String} (he : e.WellFormed) (hpath : path ≠ "") :
    (e.filesBelow extension path).Pairwise fun p q => Path.components p < Path.components q := by
  induction he generalizing path with
  | file name content =>
    rw [filesBelow]
    split
    · exact List.pairwise_singleton _ _
    · exact .nil
  | special name content => exact .nil
  | directory hnodup hnames hentries ih =>
    rw [filesBelow_directory, List.pairwise_flatMap]
    have hjoin : ∀ c ∈ inOrder _, Path.join path c.name ≠ "" := fun c hc =>
      Path.join_ne_empty hpath (hnames c (mem_inOrder.1 hc))
    constructor
    · exact fun c hc => ih c (mem_inOrder.1 hc) (hjoin c hc)
    · -- up to the names of two siblings the components of what they hold are the same
      refine (pairwise_inOrder hnodup).imp_of_mem fun {a b} ha hb hlt p hp q hq => ?_
      have ha' := mem_inOrder.1 ha
      have hb' := mem_inOrder.1 hb
      obtain ⟨restA, hp⟩ := exists_components_eq_append (hentries a ha') (hjoin a ha) hp
      obtain ⟨restB, hq⟩ := exists_components_eq_append (hentries b hb') (hjoin b hb) hq
      rw [hp, hq, Path.components_join hpath (hnames a ha'),
        Path.components_join hpath (hnames b hb'), List.append_assoc, List.append_assoc]
      exact List.append_left_lt (List.cons_lt_cons_iff.2 (.inl (Path.Component.name_lt_name.2 hlt)))

/-- No path is listed twice. -/
theorem nodup_filesBelow {e : Entry} {path : String} (he : e.WellFormed) (hpath : path ≠ "") :
    (e.filesBelow extension path).Nodup := by
  refine (pairwise_filesBelow he hpath).imp fun {p q} hlt heq => ?_
  rw [heq] at hlt
  exact List.lt_irrefl _ hlt

end Entry

/-! ### What paths contribute -/

namespace FileSystem

/-- All directories are well-formed. -/
def WellFormed (fs : FileSystem) : Prop := (Entry.directory "" fs.root).WellFormed

/-- Placing something in a well-formed file system keeps it well-formed. -/
theorem WellFormed.place {fs : FileSystem} (h : fs.WellFormed) {names : List String}
    (hnames : ∀ name ∈ names, Path.IsName name) (content : Option ByteArray) :
    WellFormed { fs with root := FileSystem.place content names fs.root } :=
  Entry.WellFormed.place h hnames content ""

theorem follow_wellFormed {here : Entry × List Entry} {names : List String} {e : Entry}
    (h : ∀ d ∈ here.1 :: here.2, d.WellFormed) (he : follow here.1 here.2 names = .ok e) :
    e.WellFormed := by
  induction names generalizing here with
  | nil => exact Except.ok.inj he ▸ h here.1 List.mem_cons_self
  | cons name names ih =>
    rw [follow_cons] at he
    cases hstep : Entry.advance here name with
    | error fault =>
      rw [hstep] at he
      exact absurd he nofun
    | ok there =>
      rw [hstep] at he
      exact ih (Entry.advance_wellFormed h hstep) he

theorem WellFormed.of_find {fs : FileSystem} (h : fs.WellFormed) {path : String} {e : Entry}
    (he : fs.find path = .ok e) : e.WellFormed := by
  have hpath : path ≠ "" := by
    rintro rfl
    exact absurd he nofun
  rw [find_eq fs hpath] at he
  have hstart : ∀ d ∈ fs.start.1 :: fs.start.2, d.WellFormed := List.forall_mem_singleton.2 h
  exact follow_wellFormed hstart he

/-- What a path contributes to the files that a list of paths stands for. -/
inductive Contributes (fs : FileSystem) (extension path : String) : List String → Prop
  /-- A directory contributes the files with the extension that are below it at any depth, each once
  and in the order of the components of their paths. -/
  | directory {d : Entry} {files : List String} (hpath : fs.find path = .ok d)
      (hd : d.isDirectory = true)
      (hmem : ∀ p, p ∈ files ↔ fs.HasFileBelow path p ∧ Path.extension? p = some extension)
      (hnodup : files.Nodup)
      (hincreasing : files.Pairwise fun p q => Path.components p < Path.components q) :
      Contributes fs extension path files
  /-- A file contributes itself if it has the extension. -/
  | file {e : Entry} (hpath : fs.find path = .ok e) (he : e.isFile = true) :
      Contributes fs extension path (if Path.extension? path = some extension then [path] else [])
  /-- A path that leads to nothing contributes itself. -/
  | missing {fault : ReadFault} (hpath : fs.find path = .error fault) :
      Contributes fs extension path [path]
  /-- What is neither a file nor a directory contributes nothing. -/
  | other {e : Entry} (hpath : fs.find path = .ok e) (hd : e.isDirectory = false)
      (he : e.isFile = false) : Contributes fs extension path []

theorem contributes_collect {fs : FileSystem} (h : fs.WellFormed) (extension path : String) :
    fs.Contributes extension path (fs.collect extension path) := by
  rw [collect]
  cases hfind : fs.find path with
  | error fault => exact .missing hfind
  | ok e =>
    have he := h.of_find hfind
    cases e with
    | file name content => exact .file hfind rfl
    | special name content => exact .other hfind rfl rfl
    | directory name entries =>
      have hpath : path ≠ "" := by
        rintro rfl
        exact absurd hfind nofun
      exact .directory hfind rfl (fun p => Entry.mem_filesBelow he hpath hfind)
        (Entry.nodup_filesBelow he hpath) (Entry.pairwise_filesBelow he hpath)

/-- The files that paths stand for are what each of them contributes, in the order of the paths. -/
theorem collectAll_contributes {fs : FileSystem} (h : fs.WellFormed) (extension : String)
    (paths : List String) :
    ∃ parts, List.Forall₂ (fs.Contributes extension) paths parts ∧
      fs.collectAll extension paths = parts.flatten :=
  ⟨paths.map (fs.collect extension),
    List.forall₂_map_right_iff.2
      (List.forall₂_same.2 fun path _ => contributes_collect h extension path),
    List.flatMap_def⟩

/-- A directory beside a file of its name and the extension, and a pipe that has the extension. -/
def sampleTree : FileSystem where
  root := [.directory "src" [.file "a.java" .empty, .directory "a" [.file "Z.java" .empty]],
    .special "pipe.java" .empty]
  workingDirectory := "/"

theorem collectAll_contributes_sample :
    sampleTree.WellFormed ∧
      (∃ parts,
        List.Forall₂ (sampleTree.Contributes "java")
          ["src", "pipe.java", "gone", "src/a/Z.java"] parts ∧
        sampleTree.collectAll "java" ["src", "pipe.java", "gone", "src/a/Z.java"] =
          parts.flatten) ∧
      sampleTree.collectAll "java" ["src", "pipe.java", "gone", "src/a/Z.java"] =
        ["src/a/Z.java", "src/a.java", "gone", "src/a/Z.java"] := by
  have hinner : (Entry.directory "a" [.file "Z.java" .empty]).WellFormed :=
    .directory (by decide) (by decide) (List.forall_mem_singleton.2 (.file _ _))
  have hsrc : (Entry.directory "src" [.file "a.java" .empty,
      .directory "a" [.file "Z.java" .empty]]).WellFormed :=
    .directory (by decide) (by decide)
      (List.forall_mem_cons.2 ⟨.file _ _, List.forall_mem_singleton.2 hinner⟩)
  have htree : sampleTree.WellFormed :=
    .directory (by decide) (by decide)
      (List.forall_mem_cons.2 ⟨hsrc, List.forall_mem_singleton.2 (.special _ _)⟩)
  have horder : Entry.inOrder [.file "a.java" .empty, .directory "a" [.file "Z.java" .empty]] =
      [.directory "a" [.file "Z.java" .empty], .file "a.java" .empty] := by
    simp [Entry.inOrder, Sorting.sortBy, List.mergeSort, List.MergeSort.Internal.splitInTwo,
      Entry.name]
  have hwalk : sampleTree.collect "java" "src" = ["src/a/Z.java", "src/a.java"] := by
    change Entry.filesBelow "java" "src" (.directory "src" _) = _
    rw [Entry.filesBelow_directory, horder, List.flatMap_cons, Entry.filesBelow_directory,
      Entry.inOrder, Sorting.sortBy, List.mergeSort_singleton]
    rfl
  refine ⟨htree, collectAll_contributes htree _ _, ?_⟩
  rw [collectAll, List.flatMap_cons, hwalk]
  rfl

end FileSystem

end JavaLint.Files
