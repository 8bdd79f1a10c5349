import JavaLint.Files.Tree

/-!
# Paths below a directory

A path is looked up name by name. Where it ends can be told from its names: empty names and single
dots lead nowhere, two dots lead up, and every other name leads down (`FileSystem.location`). What
stands below a base directory has the names of its place behind those of the base directory, however
that is written (`FileSystem.exists_location_join`). So different places below it are different
places of the file system.
-/

namespace JavaLint

namespace Text

theorem splitAtEach_ne_nil (mark : Char) (cs : List Char) : splitAtEach mark cs ≠ [] := by
  cases cs with
  | nil => nofun
  | cons c cs =>
    rw [splitAtEach]
    split
    · nofun
    · split <;> nofun

/-- The pieces before and behind a place where the character stands. -/
theorem splitAtEach_append (mark : Char) (before after : List Char) :
    splitAtEach mark (before ++ mark :: after) =
      splitAtEach mark before ++ splitAtEach mark after := by
  induction before with
  | nil => exact if_pos rfl
  | cons c cs ih =>
    rw [List.cons_append, splitAtEach, splitAtEach, ih]
    by_cases hc : c = mark
    · rw [if_pos hc, if_pos hc, List.cons_append]
    · rw [if_neg hc, if_neg hc]
      obtain ⟨piece, pieces, hpieces⟩ := List.exists_cons_of_ne_nil (splitAtEach_ne_nil mark cs)
      rw [hpieces]
      rfl

theorem splitAtEach_of_not_mem {mark : Char} {cs : List Char} (h : mark ∉ cs) :
    splitAtEach mark cs = [cs] := by
  induction cs with
  | nil => rfl
  | cons c cs ih =>
    rw [List.mem_cons, not_or] at h
    rw [splitAtEach, ih h.2, if_neg (Ne.symm h.1)]

/-- Pieces with a mark behind each are found again, if no mark is in them. Behind the last mark is
nothing. -/
theorem splitAtEach_flatMap {mark : Char} {pieces : List (List Char)}
    (h : ∀ cs ∈ pieces, mark ∉ cs) :
    splitAtEach mark (pieces.flatMap (· ++ [mark])) = pieces ++ [[]] := by
  induction pieces with
  | nil => rfl
  | cons cs pieces ih =>
    obtain ⟨hcs, hpieces⟩ := List.forall_mem_cons.1 h
    rw [List.flatMap_cons, List.append_assoc, List.singleton_append, splitAtEach_append,
      splitAtEach_of_not_mem hcs, ih hpieces]
    rfl

end Text

namespace Files

open Text

namespace Path

/-- Names that lead from a directory to what it holds. -/
def LeadsDown (name : String) : Prop := ¬ (name = "" ∨ name = ".") ∧ name ≠ ".."

/-- A path that starts at the working directory and whose names all lead down. -/
def IsPlain (path : String) : Prop :=
  isAbsolute path = false ∧ ∀ name ∈ parts path, LeadsDown name

instance : DecidablePred LeadsDown := fun _ => inferInstanceAs (Decidable (_ ∧ _))

instance : DecidablePred IsPlain := fun _ => inferInstanceAs (Decidable (_ ∧ _))

theorem toList_append_slash (stem place : String) :
    (stem ++ "/" ++ place).toList = stem.toList ++ '/' :: place.toList := by
  rw [String.toList_append, String.toList_append, List.append_assoc]
  rfl

theorem parts_append (stem place : String) :
    parts (stem ++ "/" ++ place) = parts stem ++ parts place := by
  rw [parts, toList_append_slash, splitAtEach_append, List.map_append]
  rfl

theorem isAbsolute_append (stem place : String) :
    isAbsolute (stem ++ "/" ++ place) = (stem.toList.head?.or (some '/') == some '/') := by
  rw [isAbsolute, toList_append_slash, List.head?_append]
  rfl

/-- What stands below a directory is written behind its path and a slash. -/
theorem exists_join_eq {base : String} (hbase : base ≠ "") :
    ∃ stem, ∀ place, isAbsolute place = false → join base place = stem ++ "/" ++ place := by
  obtain hnil | ⟨stem, last, hchars⟩ := List.eq_nil_or_concat base.toList
  · exact absurd (String.toList_eq_nil_iff.1 hnil) hbase
  rw [List.concat_eq_append] at hchars
  have hlast : base.toList.getLast? = some last := by rw [hchars, List.getLast?_concat]
  by_cases hslash : last = '/'
  · subst hslash
    refine ⟨String.ofList stem, fun place hplace => ?_⟩
    have hstem : String.ofList stem ++ "/" = base := by
      apply String.toList_injective
      rw [String.toList_append, String.toList_ofList, hchars]
      rfl
    rw [join, hplace, hlast, hstem]
    rfl
  · refine ⟨base, fun place hplace => ?_⟩
    rw [join, hplace, hlast, if_neg Bool.false_ne_true]
    split
    · contradiction
    · exact absurd (Option.some.inj (by assumption)) hslash
    · rfl

end Path

namespace FileSystem

/-- The place one name further; the last name of a place stands first. -/
def stepPlace (place : List String) (name : String) : List String :=
  if name = "" ∨ name = "." then place else if name = ".." then place.tail else name :: place

/-- The names on the way of a path from the root. -/
def names (fs : FileSystem) (path : String) : List String :=
  Path.parts (if Path.isAbsolute path then path else fs.workingDirectory ++ "/" ++ path)

/-- The place of a path, as the names from the root to it. -/
def location (fs : FileSystem) (path : String) : List String :=
  ((fs.names path).foldl stepPlace []).reverse

theorem exists_names_join (fs : FileSystem) (base : String) :
    ∃ way, ∀ place, Path.isAbsolute place = false →
      fs.names (Path.join base place) = way ++ Path.parts place := by
  by_cases hbase : base = ""
  · refine ⟨Path.parts fs.workingDirectory, fun place hplace => ?_⟩
    have hjoin : Path.join base place = place := by
      rw [Path.join, hplace, hbase]
      rfl
    rw [hjoin, names, hplace]
    exact Path.parts_append _ _
  · obtain ⟨stem, hjoin⟩ := Path.exists_join_eq hbase
    refine ⟨if stem.toList.head?.or (some '/') = some '/' then Path.parts stem
      else Path.parts (fs.workingDirectory ++ "/" ++ stem), fun place hplace => ?_⟩
    rw [hjoin place hplace, names, Path.isAbsolute_append]
    by_cases habsolute : stem.toList.head?.or (some '/') = some '/'
    · rw [if_pos habsolute, if_pos (beq_iff_eq.2 habsolute), Path.parts_append]
    · rw [if_neg habsolute, if_neg (fun h => habsolute (beq_iff_eq.1 h)), ← String.append_assoc,
        ← String.append_assoc, Path.parts_append]

theorem stepPlace_down {name : String} (h : Path.LeadsDown name) (place : List String) :
    stepPlace place name = name :: place := by
  rw [stepPlace, if_neg h.1, if_neg h.2]

theorem foldl_stepPlace_down {names : List String} (h : ∀ name ∈ names, Path.LeadsDown name)
    (place : List String) :
    names.foldl stepPlace place = names.reverse ++ place := by
  induction names generalizing place with
  | nil => rfl
  | cons name names ih =>
    obtain ⟨hname, hrest⟩ := List.forall_mem_cons.1 h
    rw [List.foldl_cons, ih hrest, stepPlace_down hname, List.reverse_cons, List.append_assoc,
      List.singleton_append]

/-- The places below a base directory follow one way, which depends on the base directory alone. -/
theorem exists_location_join (fs : FileSystem) (base : String) :
    ∃ way, ∀ place, Path.IsPlain place →
      fs.location (Path.join base place) = way ++ Path.parts place := by
  obtain ⟨way, hway⟩ := fs.exists_names_join base
  refine ⟨(way.foldl stepPlace []).reverse, fun place hplace => ?_⟩
  rw [location, hway place hplace.1, List.foldl_append, foldl_stepPlace_down hplace.2,
    List.reverse_append, List.reverse_reverse]

end FileSystem

end Files

end JavaLint
