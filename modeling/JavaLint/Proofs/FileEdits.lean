import JavaLint.Proofs.Paths

/-!
# Changing one file

A path is looked up name by name, and no entry but a directory leads further. So the place at which
a path ends is known from its names alone (`FileSystem.location`), whatever the directories hold.
Two file systems that hold the same except for one place, where each has a file or nothing
(`FileSystem.AlikeBut`), are told apart only by paths that come to that place. A path that ends
there names the changed file (`FileSystem.NamesPlace`). One that goes on from there leads nowhere in
either file system, though not always for the same reason: a missing name and a file that is no
directory are different faults (`FileSystem.PassesThrough`).

Main statements: `FileSystem.AlikeBut.isFile_eq` and `FileSystem.AlikeBut.readText_eq_or`.
-/

namespace JavaLint.Files

/-! ### Walking over names -/

namespace Entry

/-- What a directory has under a name. -/
def child? (e : Entry) (name : String) : Option Entry := e.entries.find? fun c => c.name == name

/-- One name further on the way through directories. An entry comes with the directories above it,
the last one first. -/
def advance (here : Entry × List Entry) (name : String) : Except ReadFault (Entry × List Entry) :=
  if here.1.isDirectory = false then .error .notDirectory
  else if name = "" ∨ name = "." then .ok here
  else if name = ".." then .ok (here.2.headD here.1, here.2.tail)
  else match here.1.child? name with
    | none => .error .notFound
    | some e => .ok (e, here.1 :: here.2)

variable {here : Entry × List Entry} {name : String}

theorem advance_noDirectory (h : here.1.isDirectory = false) :
    advance here name = .error .notDirectory :=
  if_pos h

theorem advance_stay (hd : here.1.isDirectory = true) (h : name = "" ∨ name = ".") :
    advance here name = .ok here := by
  rw [advance, if_neg (Bool.not_eq_false _ ▸ hd), if_pos h]

theorem advance_up (hd : here.1.isDirectory = true) (h : ¬ (name = "" ∨ name = "."))
    (hup : name = "..") :
    advance here name = .ok (here.2.headD here.1, here.2.tail) := by
  rw [advance, if_neg (Bool.not_eq_false _ ▸ hd), if_neg h, if_pos hup]

theorem advance_down (hd : here.1.isDirectory = true) (h : Path.LeadsDown name) :
    advance here name = ((here.1.child? name).elim (.error .notFound)
      fun e => .ok (e, here.1 :: here.2)) := by
  rw [advance, if_neg (Bool.not_eq_false _ ▸ hd), if_neg h.1, if_neg h.2]
  cases here.1.child? name <;> rfl

/-- An entry that replaces those of its name is what a directory has under that name. -/
theorem child?_replace (n : String) (e : Entry) (entries : List Entry) (name : String) :
    (directory n (e :: entries.filter fun c => c.name != e.name)).child? name =
      if e.name = name then some e else entries.find? fun c => c.name == name := by
  rw [child?, Entry.entries, List.find?_cons]
  by_cases hname : e.name = name
  · rw [if_pos hname, beq_iff_eq.2 hname]
  · have hkept : (fun c : Entry => decide ((c.name != e.name) = true ∧ (c.name == name) = true)) =
        fun c => c.name == name := by
      funext c
      rw [Bool.eq_iff_iff, decide_eq_true_eq, and_iff_right_iff_imp, beq_iff_eq, bne_iff_ne]
      exact fun hc he => hname (he.symm.trans hc)
    rw [if_neg hname, beq_eq_false_iff_ne.2 hname, List.find?_filter, hkept]

end Entry

namespace FileSystem

open Entry

/-- A walk over names goes from one to the next. -/
theorem follow_cons (here : Entry) (above : List Entry) (name : String) (names : List String) :
    follow here above (name :: names) =
      advance (here, above) name >>= fun there => follow there.1 there.2 names := by
  cases here with
  | file n content => rfl
  | special n content => rfl
  | directory n entries =>
    by_cases hstay : name = "" ∨ name = "."
    · rw [advance_stay rfl hstay]
      exact if_pos hstay
    · refine (if_neg hstay).trans ?_
      by_cases hup : name = ".."
      · rw [advance_up rfl hstay hup, if_pos hup]
        cases above <;> rfl
      · rw [advance_down rfl ⟨hstay, hup⟩, if_neg hup, child?, Entry.entries]
        cases entries.find? fun e => e.name == name <;> rfl

/-- Where every walk starts. -/
def start (fs : FileSystem) : Entry × List Entry := (.directory "" fs.root, [])

theorem find_eq {path : String} (fs : FileSystem) (h : path ≠ "") :
    fs.find path = follow fs.start.1 fs.start.2 (fs.names path) := if_neg h

/-- From an entry at a place some names come to another place: they end there, and what is before
the last of them is a directory. -/
def ComesTo (target place : List String) (here : Entry × List Entry) (names : List String) : Prop :=
  (names.foldl stepPlace place).reverse = target ∧
    ∃ before last, names = before ++ [last] ∧
      ∃ d, follow here.1 here.2 before = .ok d ∧ d.isDirectory = true

/-- A path is one of the entry at a place, whether there is one or not. -/
def NamesPlace (fs : FileSystem) (path : String) (target : List String) : Prop :=
  ComesTo target [] fs.start (fs.names path)

/-- A path comes to a place and goes on from there. -/
def PassesThrough (fs : FileSystem) (path : String) (target : List String) : Prop :=
  ∃ before after, fs.names path = before ++ after ∧ after ≠ [] ∧
    ComesTo target [] fs.start before

theorem NamesPlace.location_eq {fs : FileSystem} {path : String} {target : List String}
    (h : fs.NamesPlace path target) : fs.location path = target := h.1

theorem ComesTo.cons {target place names : List String} {here there : Entry × List Entry}
    {name : String} (hname : advance here name = .ok there)
    (h : ComesTo target (stepPlace place name) there names) :
    ComesTo target place here (name :: names) := by
  obtain ⟨hplace, before, last, rfl, d, hbefore, hd⟩ := h
  refine ⟨hplace, name :: before, last, rfl, d, ?_, hd⟩
  rw [follow_cons, hname]
  exact hbefore

end FileSystem

/-! ### Alike but for one place -/

/-- Two directories hold the same except at the end of a way of names, where each has a file or
nothing. -/
inductive Entry.AlikeBut : List String → Entry → Entry → Prop
  | atEnd {d d' : Entry} {name : String} (hd : d.isDirectory = true) (hd' : d'.isDirectory = true)
      (hothers : ∀ other ≠ name, d'.child? other = d.child? other)
      (hfile : ∀ e ∈ d.child? name, e.isFile = true)
      (hfile' : ∀ e ∈ d'.child? name, e.isFile = true) : AlikeBut [name] d d'
  | further {d d' e e' : Entry} {name : String} {way : List String}
      (hd : d.isDirectory = true) (hd' : d'.isDirectory = true)
      (hothers : ∀ other ≠ name, d'.child? other = d.child? other)
      (he : d.child? name = some e) (he' : d'.child? name = some e') (h : AlikeBut way e e') :
      AlikeBut (name :: way) d d'

/-- Two file systems hold the same except at one place, where each has a file or nothing. So it is
after a file was made, deleted or written. -/
def FileSystem.AlikeBut (place : List String) (fs fs' : FileSystem) : Prop :=
  fs'.workingDirectory = fs.workingDirectory ∧
    Entry.AlikeBut place (.directory "" fs.root) (.directory "" fs'.root)

namespace Entry

variable {way : List String} {d d' : Entry}

theorem AlikeBut.isDirectory (h : AlikeBut way d d') :
    d.isDirectory = true ∧ d'.isDirectory = true := by
  cases h with
  | atEnd hd hd' hothers hfile hfile' => exact ⟨hd, hd'⟩
  | further hd hd' hothers he he' h => exact ⟨hd, hd'⟩

theorem AlikeBut.ne_nil (h : AlikeBut way d d') : way ≠ [] := by
  cases h <;> nofun

theorem AlikeBut.place (h : AlikeBut way d d') (n : String) (content : ByteArray) :
    AlikeBut way d (.directory n (FileSystem.place (some content) way d'.entries)) := by
  induction h generalizing n with
  | @atEnd d d' name hd hd' hothers hfile hfile' =>
    have hchild := child?_replace n (.file name content) d'.entries
    refine .atEnd hd rfl (fun other hother => ?_) hfile fun e he => ?_
    · exact ((hchild other).trans (if_neg hother.symm)).trans (hothers other hother)
    · have hwritten := (hchild name).trans (if_pos rfl)
      rw [← Option.some.inj (hwritten.symm.trans he)]
      rfl
  | @further d d' e e' name way hd hd' hothers he he' h ih =>
    obtain ⟨next, rest, rfl⟩ := List.exists_cons_of_ne_nil h.ne_nil
    have hinside : ((d'.child? name).map Entry.entries).getD [] = e'.entries := by
      rw [he']
      rfl
    have hplace : FileSystem.place (some content) (name :: next :: rest) d'.entries =
        .directory name (FileSystem.place (some content) (next :: rest) e'.entries) ::
          d'.entries.filter fun c => c.name != name := by
      rw [← hinside]
      rfl
    have hchild := child?_replace n
      (.directory name (FileSystem.place (some content) (next :: rest) e'.entries)) d'.entries
    rw [hplace]
    refine .further hd rfl (fun other hother => ?_) he ?_ (ih name)
    · exact ((hchild other).trans (if_neg hother.symm)).trans (hothers other hother)
    · exact (hchild name).trans (if_pos rfl)

end Entry

namespace FileSystem

open Entry

/-- Writing a file at the place keeps everything else as it is. -/
theorem AlikeBut.place {target : List String} {fs fs' : FileSystem} (h : AlikeBut target fs fs')
    (content : ByteArray) :
    AlikeBut target fs { fs' with root := FileSystem.place (some content) target fs'.root } :=
  ⟨h.1, h.2.place "" content⟩

/-- Entries of two such file systems at a place are the same, or the way to the place where they
differ goes on below them. -/
def Beside (target place : List String) (e e' : Entry) : Prop :=
  e' = e ∨ ∃ way, place.reverse ++ way = target ∧ Entry.AlikeBut way e e'

/-- Two walks over the same names through such file systems have come to the same place. The last
name of the place stands first, as does the last of the directories above. -/
inductive Abreast (target : List String) :
    List String → Entry × List Entry → Entry × List Entry → Prop
  | root {e e' : Entry} (h : Beside target [] e e') : Abreast target [] (e, []) (e', [])
  | down {e e' d d' : Entry} {above above' : List Entry} {name : String} {place : List String}
      (h : Beside target (name :: place) e e')
      (habove : Abreast target place (d, above) (d', above')) :
      Abreast target (name :: place) (e, d :: above) (e', d' :: above')

variable {target place : List String} {e e' : Entry} {here here' : Entry × List Entry}

theorem Abreast.beside (h : Abreast target place here here') :
    Beside target place here.1 here'.1 := by
  cases h with
  | root h => exact h
  | down h habove => exact h

/-- One directory up the walks are still abreast; nothing is above the root. -/
theorem Abreast.up (h : Abreast target place here here') :
    Abreast target place.tail (here.2.headD here.1, here.2.tail)
      (here'.2.headD here'.1, here'.2.tail) := by
  cases h with
  | root h => exact .root h
  | down h habove => exact habove

theorem Beside.isDirectory_eq (h : Beside target place e e') :
    e'.isDirectory = e.isDirectory := by
  obtain rfl | ⟨way, -, h⟩ := h
  · rfl
  · rw [h.isDirectory.1, h.isDirectory.2]

/-- What a walk finds if it comes to the place where the file systems differ. -/
def IsFileOrNothing (r : Except ReadFault (Entry × List Entry)) : Prop :=
  r = .error .notFound ∨ ∃ there, r = .ok there ∧ there.1.isFile = true

/-- From entries beside each other a name leads to entries beside each other, or to nothing on both
sides, or it comes to the place where the file systems differ. -/
theorem Beside.child (h : Beside target place e e') (name : String) :
    (e.child? name = none ∧ e'.child? name = none) ∨
      (∃ c c', e.child? name = some c ∧ e'.child? name = some c' ∧
        Beside target (name :: place) c c') ∨
      ((name :: place).reverse = target ∧ (∀ c ∈ e.child? name, c.isFile = true) ∧
        ∀ c ∈ e'.child? name, c.isFile = true) := by
  have hsame (heq : e'.child? name = e.child? name) :
      (e.child? name = none ∧ e'.child? name = none) ∨
        ∃ c c', e.child? name = some c ∧ e'.child? name = some c' ∧
          Beside target (name :: place) c c' := by
    rw [heq]
    cases e.child? name with
    | none => exact .inl ⟨rfl, rfl⟩
    | some c => exact .inr ⟨c, c, rfl, rfl, .inl rfl⟩
  obtain rfl | ⟨way, hway, halike⟩ := h
  · exact (hsame rfl).imp_right .inl
  · cases halike with
    | @atEnd _ _ last hd hd' hothers hfile hfile' =>
      by_cases hname : name = last
      · subst hname
        exact .inr (.inr ⟨by rw [List.reverse_cons, hway], hfile, hfile'⟩)
      · exact (hsame (hothers name hname)).imp_right .inl
    | @further _ _ c c' next way hd hd' hothers hc hc' h =>
      by_cases hname : name = next
      · subst hname
        refine .inr (.inl ⟨c, c', hc, hc', .inr ⟨way, ?_, h⟩⟩)
        rw [List.reverse_cons, List.append_assoc, List.singleton_append, hway]
      · exact (hsame (hothers name hname)).imp_right .inl

/-- What one more name does to two walks that are abreast: both stop for the same reason, or they
stay abreast, or they come to the place where the file systems differ. -/
theorem Abreast.advance (h : Abreast target place here here') (name : String) :
    (∃ fault, advance here name = .error fault ∧ advance here' name = .error fault) ∨
      (∃ there there', advance here name = .ok there ∧ advance here' name = .ok there' ∧
        Abreast target (stepPlace place name) there there') ∨
      ((stepPlace place name).reverse = target ∧ here.1.isDirectory = true ∧
        IsFileOrNothing (advance here name) ∧ IsFileOrNothing (advance here' name)) := by
  have hkind := h.beside.isDirectory_eq
  cases hd : here.1.isDirectory with
  | false =>
    exact .inl ⟨.notDirectory, advance_noDirectory hd, advance_noDirectory (hkind.trans hd)⟩
  | true =>
    have hd' : here'.1.isDirectory = true := hkind.trans hd
    by_cases hstay : name = "" ∨ name = "."
    · refine .inr (.inl ⟨here, here', advance_stay hd hstay, advance_stay hd' hstay, ?_⟩)
      rwa [stepPlace, if_pos hstay]
    by_cases hup : name = ".."
    · refine .inr (.inl ⟨_, _, advance_up hd hstay hup, advance_up hd' hstay hup, ?_⟩)
      rw [stepPlace, if_neg hstay, if_pos hup]
      exact h.up
    · have hdown : Path.LeadsDown name := ⟨hstay, hup⟩
      rw [advance_down hd hdown, advance_down hd' hdown, stepPlace_down hdown]
      obtain ⟨hc, hc'⟩ | ⟨c, c', hc, hc', hbeside⟩ | ⟨hplace, hfile, hfile'⟩ :=
        h.beside.child name
      · rw [hc, hc']
        exact .inl ⟨.notFound, rfl, rfl⟩
      · rw [hc, hc']
        exact .inr (.inl ⟨_, _, rfl, rfl, .down hbeside h⟩)
      · have hfound : ∀ {there : Entry × List Entry},
            (∀ c ∈ there.1.child? name, c.isFile = true) →
            IsFileOrNothing ((there.1.child? name).elim (.error .notFound)
              fun e => .ok (e, there.1 :: there.2)) := by
          intro there hfile
          cases hc : there.1.child? name with
          | none => exact .inl rfl
          | some c => exact .inr ⟨_, rfl, hfile c hc⟩
        exact .inr (.inr ⟨hplace, rfl, hfound hfile, hfound hfile'⟩)

/-- Nothing is below a file. -/
theorem IsFileOrNothing.follow_eq {r : Except ReadFault (Entry × List Entry)}
    (h : IsFileOrNothing r) {names : List String} (hnames : names ≠ []) :
    ∃ fault, (r >>= fun there => follow there.1 there.2 names) = .error fault := by
  obtain rfl | ⟨there, rfl, hfile⟩ := h
  · exact ⟨.notFound, rfl⟩
  · obtain ⟨name, rest, rfl⟩ := List.exists_cons_of_ne_nil hnames
    refine ⟨.notDirectory, (follow_cons _ _ _ _).trans ?_⟩
    rw [advance_noDirectory (isDirectory_of_isFile hfile)]
    rfl

/-- Two walks lead to the same, or to a directory each. -/
def SameOutcome (r r' : Except ReadFault Entry) : Prop :=
  r' = r ∨ ∃ d d', r = .ok d ∧ r' = .ok d' ∧ d.isDirectory = true ∧ d'.isDirectory = true

theorem Beside.sameOutcome (h : Beside target place e e') : SameOutcome (.ok e) (.ok e') := by
  obtain rfl | ⟨way, -, h⟩ := h
  · exact .inl rfl
  · exact .inr ⟨e, e', rfl, rfl, h.isDirectory⟩

/-- Walks over the same names through file systems that differ at one place have the same outcome,
unless the names come to that place. If they go on from there, both walks fail. -/
theorem Abreast.follow_cases (h : Abreast target place here here') (names : List String) :
    SameOutcome (follow here.1 here.2 names) (follow here'.1 here'.2 names) ∨
      ComesTo target place here names ∨
      ((∃ before after, names = before ++ after ∧ after ≠ [] ∧ ComesTo target place here before) ∧
        (∃ fault, follow here.1 here.2 names = .error fault) ∧
        ∃ fault, follow here'.1 here'.2 names = .error fault) := by
  -- on the names that are left; the step keeps the walks abreast from wherever they have come to
  induction names generalizing place here here' with
  | nil => exact .inl h.beside.sameOutcome
  | cons name names ih =>
    rw [follow_cons, follow_cons]
    obtain ⟨fault, hstop, hstop'⟩ | ⟨there, there', hgo, hgo', habreast⟩ |
      ⟨hplace, hd, hfound, hfound'⟩ := h.advance name
    · rw [hstop, hstop']
      exact .inl (.inl rfl)
    · rw [hgo, hgo']
      obtain hsame | hcomes | ⟨⟨before, after, rfl, hafter, hcomes⟩, hfaults⟩ := ih habreast
      · exact .inl hsame
      · exact .inr (.inl (hcomes.cons hgo))
      · exact .inr (.inr ⟨⟨name :: before, after, rfl, hafter, hcomes.cons hgo⟩, hfaults⟩)
    · -- the walks are at the changed place, so no further name has an entry to go on from
      have hcomes : ComesTo target place here [name] :=
        ⟨hplace, [], name, rfl, here.1, rfl, hd⟩
      by_cases hnames : names = []
      · subst hnames
        exact .inr (.inl hcomes)
      · exact .inr (.inr ⟨⟨[name], names, rfl, hnames, hcomes⟩, hfound.follow_eq hnames,
          hfound'.follow_eq hnames⟩)

/-! ### What paths lead to -/

variable {fs fs' : FileSystem} {path : String}

theorem AlikeBut.names_eq (h : AlikeBut target fs fs') (path : String) :
    fs'.names path = fs.names path := by
  rw [names, names, h.1]

theorem AlikeBut.find_cases (h : AlikeBut target fs fs') (path : String)
    (hpath : ¬ fs.NamesPlace path target) :
    SameOutcome (fs.find path) (fs'.find path) ∨
      (fs.PassesThrough path target ∧ (∃ fault, fs.find path = .error fault) ∧
        ∃ fault, fs'.find path = .error fault) := by
  by_cases hempty : path = ""
  · rw [find, find, if_pos hempty, if_pos hempty]
    exact .inl (.inl rfl)
  · have habreast : Abreast target [] fs.start fs'.start := .root (.inr ⟨target, rfl, h.2⟩)
    rw [fs.find_eq hempty, fs'.find_eq hempty, h.names_eq]
    obtain hsame | hcomes | hpasses := habreast.follow_cases (fs.names path)
    · exact .inl hsame
    · exact absurd hcomes hpath
    · exact .inr hpasses

/-- A change at a place makes no file of what another path leads to, nor unmakes one. -/
theorem AlikeBut.isFile_eq (h : AlikeBut target fs fs') (hpath : ¬ fs.NamesPlace path target) :
    fs'.isFile path = fs.isFile path := by
  rw [isFile, isFile]
  obtain (heq | ⟨d, d', hd, hd', hkind, hkind'⟩) | ⟨-, ⟨f, hf⟩, f', hf'⟩ := h.find_cases path hpath
  · rw [heq]
  · rw [hd, hd']
    exact (isFile_of_isDirectory hkind').trans (isFile_of_isDirectory hkind).symm
  · rw [hf, hf']

/-- A change at a place does not change the text that another path leads to. A path that goes on
from the place leads to no text before and after it. -/
theorem AlikeBut.readText_eq_or (h : AlikeBut target fs fs')
    (hpath : ¬ fs.NamesPlace path target) :
    fs'.readText path = fs.readText path ∨
      (fs.PassesThrough path target ∧ fs.isFile path = false ∧
        (∃ fault, fs.readText path = .error fault) ∧
        ∃ fault, fs'.readText path = .error fault) := by
  rw [readText, readText, isFile]
  obtain (heq | ⟨d, d', hd, hd', hkind, hkind'⟩) | ⟨hpasses, ⟨f, hf⟩, f', hf'⟩ :=
    h.find_cases path hpath
  · rw [heq]
    exact .inl rfl
  · rw [hd, hd']
    obtain ⟨n, entries, rfl⟩ := exists_eq_directory hkind
    obtain ⟨n', entries', rfl⟩ := exists_eq_directory hkind'
    exact .inl rfl
  · rw [hf, hf']
    exact .inr ⟨hpasses, rfl, ⟨f, rfl⟩, f', rfl⟩

end FileSystem

end JavaLint.Files
