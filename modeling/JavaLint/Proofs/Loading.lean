import Mathlib.Data.List.Find
import JavaLint.Config.Loader
import JavaLint.Proofs.FileEdits

/-!
# What a configuration is loaded from

Of all the usual places of overlays and of checkstyle configurations at most two files are loaded.
What becomes of them is told by `Config.Loader.Outcome`: a fault in the overlay comes first,
whatever the checkstyle configuration is, then its absence, then a path of it that leads to no file,
then a fault in it. The usual places behind the ones that were selected are not looked at
(`Config.Loader.Unread`), so what is made, deleted or written there does not change the outcome.

Main statement: `Config.Loader.load_outcome`. The one thing that such a change can alter is the
reason why an overlay cannot be read, if its path is given and goes on from the changed place as
from a directory (`Config.Loader.load_otherReason`).
-/

namespace JavaLint.Config.Loader

open JavaLint.Files

variable {l : Loader} {fs fs' : FileSystem} {place M C : String} {overlay : Option Overlay}

/-! ### Paths -/

/-- The path of a configuration: the given one, or else that of the first place below the base
directory with a file. -/
inductive Chooses (l : Loader) (fs : FileSystem) (given : Option String) (places : List String) :
    Option String → Prop
  | given {path : String} (h : given = some path) : Chooses l fs given places (some path)
  | found {before after : List String} {first : String} (h : given = none)
      (hplaces : places = before ++ first :: after)
      (hbefore : ∀ p ∈ before, fs.isFile (Path.join l.base p) = false)
      (hfirst : fs.isFile (Path.join l.base first) = true) :
      Chooses l fs given places (some (Path.join l.base first))
  | nothing (h : given = none) (hplaces : ∀ p ∈ places, fs.isFile (Path.join l.base p) = false) :
      Chooses l fs given places none

theorem find?_eq_none_of {places : List String}
    (h : ∀ p ∈ places, fs.isFile (Path.join l.base p) = false) :
    places.find? (fs.isFile ∘ Path.join l.base) = none :=
  List.find?_eq_none.2 fun p hp => Bool.eq_false_iff.1 (h p hp)

/-- The first place with a file is the chosen one. -/
theorem chooses_iff {given r : Option String} {places : List String} :
    l.Chooses fs given places r ↔ given.or (l.firstFile? fs places) = r := by
  constructor
  · intro h
    cases h with
    | given h => rw [h, Option.some_or]
    | found h hplaces hbefore hfirst =>
      rw [h, Option.none_or, firstFile?, hplaces, List.find?_map, List.find?_append,
        find?_eq_none_of hbefore, Option.none_or,
        List.find?_cons_of_pos (p := fs.isFile ∘ Path.join l.base) hfirst, Option.map_some]
    | nothing h hplaces =>
      rw [h, Option.none_or, firstFile?, List.find?_map, find?_eq_none_of hplaces,
        Option.map_none]
  · rintro rfl
    cases given with
    | some path => exact .given rfl
    | none =>
      rw [Option.none_or, firstFile?, List.find?_map]
      cases hfirst : places.find? (fs.isFile ∘ Path.join l.base) with
      | none =>
        exact .nothing rfl fun p hp => Bool.eq_false_iff.2 (List.find?_eq_none.1 hfirst p hp)
      | some first =>
        obtain ⟨hfile, before, after, hplaces, hbefore⟩ := List.find?_eq_some_iff_append.1 hfirst
        exact .found rfl hplaces (fun p hp => by simpa using hbefore p hp) hfile

/-! ### Outcomes -/

/-- The overlay that a loader goes on with: none if there is no path for one, else what is read
there. -/
inductive HasOverlay (l : Loader) (fs : FileSystem) : Option Overlay → Prop
  | absent (hM : l.overlayPath? fs = none) : HasOverlay l fs none
  | present {M : String} {o : Overlay} (hM : l.overlayPath? fs = some M)
      (ho : readWith fs M Overlay.ofText = .ok o) : HasOverlay l fs (some o)

/-- What loading comes to. -/
inductive Outcome (l : Loader) (fs : FileSystem) : Except LoadFault Merged → Prop
  /-- The overlay cannot be read, or its text does not fit. -/
  | overlayFault {M : String} {f : FileFault OverlayFault} (hM : l.overlayPath? fs = some M)
      (hf : readWith fs M Overlay.ofText = .error f) : Outcome l fs (.error (.overlay M f))
  /-- There is no path of a checkstyle configuration. -/
  | noConfiguration {overlay : Option Overlay} (ho : l.HasOverlay fs overlay)
      (hC : l.checkstylePath? fs overlay = none) : Outcome l fs (.error .noConfiguration)
  /-- The path of the checkstyle configuration leads to no file. -/
  | notFound {overlay : Option Overlay} {C : String} (ho : l.HasOverlay fs overlay)
      (hC : l.checkstylePath? fs overlay = some C) (hfile : fs.isFile C = false) :
      Outcome l fs (.error (.notFound C))
  /-- The checkstyle configuration cannot be read, or its text does not fit. -/
  | checkstyleFault {overlay : Option Overlay} {C : String} {f : FileFault CheckstyleFault}
      (ho : l.HasOverlay fs overlay) (hC : l.checkstylePath? fs overlay = some C)
      (hfile : fs.isFile C = true) (hf : readWith fs C Checkstyle.ofText = .error f) :
      Outcome l fs (.error (.checkstyle C f))
  /-- Both have been read. -/
  | loaded {overlay : Option Overlay} {C : String} {c : Checkstyle} (ho : l.HasOverlay fs overlay)
      (hC : l.checkstylePath? fs overlay = some C) (hfile : fs.isFile C = true)
      (hc : readWith fs C Checkstyle.ofText = .ok c) :
      Outcome l fs (.ok { Merged.of c overlay with path := some C })

theorem readWith_of_error {α φ : Type} {ofText : String → Except φ α} {path : String}
    {f : ReadFault} (h : fs.readText path = .error f) :
    readWith fs path ofText = .error (.unreadable f) := by
  rw [readWith, h]

theorem readOverlay_of_error {f : FileFault OverlayFault} (hM : l.overlayPath? fs = some M)
    (hf : readWith fs M Overlay.ofText = .error f) :
    l.readOverlay fs = .error (.overlay M f) := by
  rw [readOverlay, hM]
  simp only [hf]

theorem HasOverlay.readOverlay_eq (h : l.HasOverlay fs overlay) :
    ∃ read, l.readOverlay fs = .ok read ∧ read.map (·.2) = overlay := by
  cases h with
  | absent hM =>
    refine ⟨none, ?_, rfl⟩
    rw [readOverlay, hM]
  | @present M o hM ho =>
    refine ⟨some (M, o), ?_, rfl⟩
    rw [readOverlay, hM]
    simp only [ho]

/-- Once the overlay has been read, loading depends on the checkstyle configuration. -/
theorem load_of_readOverlay {read : Option (String × Overlay)} (h : l.readOverlay fs = .ok read) :
    l.load fs = (l.readCheckstyle fs (read.map (·.2))).map fun found =>
      { Merged.of found.2 (read.map (·.2)) with path := some found.1 } := by
  rw [load, h]
  change (l.readCheckstyle fs (read.map (·.2)) >>= _) = _
  cases l.readCheckstyle fs (read.map (·.2)) <;> rfl

theorem HasOverlay.load_eq (h : l.HasOverlay fs overlay) :
    l.load fs = (l.readCheckstyle fs overlay).map fun found =>
      { Merged.of found.2 overlay with path := some found.1 } := by
  obtain ⟨read, hread, rfl⟩ := h.readOverlay_eq
  exact load_of_readOverlay hread

theorem HasOverlay.unique {overlay' : Option Overlay} (h : l.HasOverlay fs overlay)
    (h' : l.HasOverlay fs overlay') : overlay' = overlay := by
  obtain ⟨read, hread, rfl⟩ := h.readOverlay_eq
  obtain ⟨read', hread', rfl⟩ := h'.readOverlay_eq
  rw [Except.ok.inj (hread'.symm.trans hread)]

theorem HasOverlay.not_fault {f : FileFault OverlayFault} (h : l.HasOverlay fs overlay)
    (hM : l.overlayPath? fs = some M) : readWith fs M Overlay.ofText ≠ .error f := by
  intro hf
  obtain ⟨read, hread, -⟩ := h.readOverlay_eq
  exact nomatch hread.symm.trans (readOverlay_of_error hM hf)

/-- A loader has an overlay to go on with, or there is a fault in it. -/
theorem exists_hasOverlay_or (l : Loader) (fs : FileSystem) :
    (∃ overlay, l.HasOverlay fs overlay) ∨
      ∃ M f, l.overlayPath? fs = some M ∧ readWith fs M Overlay.ofText = .error f := by
  cases hM : l.overlayPath? fs with
  | none => exact .inl ⟨none, .absent hM⟩
  | some M =>
    cases ho : readWith fs M Overlay.ofText with
    | error f => exact .inr ⟨M, f, rfl, ho⟩
    | ok o => exact .inl ⟨some o, .present hM ho⟩

theorem load_of_overlayFault {f : FileFault OverlayFault} (hM : l.overlayPath? fs = some M)
    (hf : readWith fs M Overlay.ofText = .error f) : l.load fs = .error (.overlay M f) := by
  rw [load, readOverlay_of_error hM hf]
  rfl

theorem readCheckstyle_of_path (hC : l.checkstylePath? fs overlay = some C) :
    l.readCheckstyle fs overlay = if fs.isFile C = true then
      ((readWith fs C Checkstyle.ofText).mapError (.checkstyle C)).map (C, ·)
    else .error (.notFound C) := by
  rw [readCheckstyle, hC]
  change (if fs.isFile C = true then _ else _) = _
  refine if_congr Iff.rfl ?_ rfl
  cases readWith fs C Checkstyle.ofText <;> rfl

/-- Loading comes to its outcome. -/
theorem outcome_load (l : Loader) (fs : FileSystem) : l.Outcome fs (l.load fs) := by
  obtain ⟨overlay, ho⟩ | ⟨M, f, hM, hf⟩ := l.exists_hasOverlay_or fs
  · rw [ho.load_eq]
    cases hC : l.checkstylePath? fs overlay with
    | none =>
      rw [readCheckstyle, hC]
      exact .noConfiguration ho hC
    | some C =>
      rw [readCheckstyle_of_path hC]
      cases hfile : fs.isFile C with
      | false => exact .notFound ho hC hfile
      | true =>
        rw [if_pos rfl]
        cases hc : readWith fs C Checkstyle.ofText with
        | error f => exact .checkstyleFault ho hC hfile hc
        | ok c => exact .loaded ho hC hfile hc
  · rw [load_of_overlayFault hM hf]
    exact .overlayFault hM hf

/-- There is one outcome only. -/
theorem Outcome.load_eq {r : Except LoadFault Merged} (h : l.Outcome fs r) : l.load fs = r := by
  cases h with
  | overlayFault hM hf => exact load_of_overlayFault hM hf
  | noConfiguration ho hC =>
    rw [ho.load_eq, readCheckstyle, hC]
    rfl
  | notFound ho hC hfile =>
    rw [ho.load_eq, readCheckstyle_of_path hC, hfile]
    rfl
  | checkstyleFault ho hC hfile hf =>
    rw [ho.load_eq, readCheckstyle_of_path hC, if_pos hfile, hf]
    rfl
  | loaded ho hC hfile hc =>
    rw [ho.load_eq, readCheckstyle_of_path hC, if_pos hfile, hc]
    rfl

/-! ### The usual places -/

/-- All usual places, of overlays and of checkstyle configurations. -/
def usualPlaces : List String := overlayPlaces ++ checkstylePlaces

theorem nodup_usualPlaces : usualPlaces.Nodup := by decide

theorem isPlain_of_mem_usualPlaces : ∀ p ∈ usualPlaces, Path.IsPlain p := by decide +kernel

theorem eq_of_parts_eq :
    ∀ p ∈ usualPlaces, ∀ q ∈ usualPlaces, Path.parts p = Path.parts q → p = q := by
  decide +kernel

/-- Where something below the base directory is in a file system. -/
def locate (l : Loader) (fs : FileSystem) (place : String) : List String :=
  fs.location (Path.join l.base place)

/-- Usual places are at different places of the file system. -/
theorem eq_of_locate_eq {p q : String} (hp : p ∈ usualPlaces) (hq : q ∈ usualPlaces)
    (h : l.locate fs p = l.locate fs q) : p = q := by
  obtain ⟨way, hway⟩ := fs.exists_location_join l.base
  rw [locate, locate, hway p (isPlain_of_mem_usualPlaces p hp),
    hway q (isPlain_of_mem_usualPlaces q hq)] at h
  exact eq_of_parts_eq p hp q hq (List.append_cancel_left h)

/-- A usual place behind another one with a file. -/
def Later (l : Loader) (fs : FileSystem) (places : List String) (place : String) : Prop :=
  ∃ before first after, places = before ++ first :: after ∧
    fs.isFile (Path.join l.base first) = true ∧ place ∈ after

/-- The usual places that a loader does not look at. -/
inductive Unread (l : Loader) (fs : FileSystem) (place : String) : Prop
  /-- The path of the overlay is given. -/
  | overlayGiven (h : l.overlay ≠ none) (hplace : place ∈ overlayPlaces)
  /-- There is an overlay at a place that comes first. -/
  | overlayLater (h : l.Later fs overlayPlaces place)
  /-- There is a fault in the overlay. -/
  | overlayFault {M : String} {f : FileFault OverlayFault} (hM : l.overlayPath? fs = some M)
      (hf : readWith fs M Overlay.ofText = .error f) (hplace : place ∈ checkstylePlaces)
  /-- The path of the checkstyle configuration is given. -/
  | checkstyleGiven (h : l.checkstyle ≠ none) (hplace : place ∈ checkstylePlaces)
  /-- The overlay has the path of the checkstyle configuration. -/
  | checkstyleNamed {o : Overlay} (ho : l.HasOverlay fs (some o)) (h : o.checkstyle ≠ none)
      (hplace : place ∈ checkstylePlaces)
  /-- There is a checkstyle configuration at a place that comes first. -/
  | checkstyleLater (h : l.Later fs checkstylePlaces place)

/-- The path of the overlay, or of the checkstyle configuration that is loaded with it. -/
def Selects (l : Loader) (fs : FileSystem) (path : String) : Prop :=
  l.overlayPath? fs = some path ∨
    ∃ overlay, l.HasOverlay fs overlay ∧ l.checkstylePath? fs overlay = some path

theorem Later.mem {places : List String} (h : l.Later fs places place) : place ∈ places := by
  obtain ⟨before, first, after, rfl, -, hplace⟩ := h
  exact List.mem_append_right _ (List.mem_cons_of_mem _ hplace)

theorem Unread.mem_usualPlaces (h : l.Unread fs place) : place ∈ usualPlaces := by
  cases h with
  | overlayGiven h hplace => exact List.mem_append_left _ hplace
  | overlayLater h => exact List.mem_append_left _ h.mem
  | overlayFault hM hf hplace => exact List.mem_append_right _ hplace
  | checkstyleGiven h hplace => exact List.mem_append_right _ hplace
  | checkstyleNamed ho h hplace => exact List.mem_append_right _ hplace
  | checkstyleLater h => exact List.mem_append_right _ h.mem

/-- Which place of a list comes first does not depend on one that is not in the list, or is behind
another one with a file. -/
theorem firstFile?_eq {places : List String} (hnodup : places.Nodup)
    (hothers : ∀ p ∈ places, p ≠ place →
      fs'.isFile (Path.join l.base p) = fs.isFile (Path.join l.base p))
    (hplace : place ∉ places ∨ l.Later fs places place) :
    l.firstFile? fs' places = l.firstFile? fs places := by
  rw [firstFile?, firstFile?, List.find?_map, List.find?_map]
  refine congrArg _ ?_
  obtain hnot | ⟨before, first, after, rfl, hfile, hafter⟩ := hplace
  · exact List.find?_congr fun p hp => hothers p hp fun h => hnot (h ▸ hp)
  · obtain ⟨-, hnodup, hdisjoint⟩ := List.nodup_append.1 hnodup
    have hfirst : first ≠ place := fun h => (List.nodup_cons.1 hnodup).1 (h ▸ hafter)
    have hfile' := (hothers first (by simp) hfirst).trans hfile
    rw [List.find?_append, List.find?_append,
      List.find?_cons_of_pos (p := fs.isFile ∘ Path.join l.base) hfile,
      List.find?_cons_of_pos (p := fs'.isFile ∘ Path.join l.base) hfile']
    refine congrArg (Option.or · (some first)) (List.find?_congr fun p hp => ?_)
    exact hothers p (List.mem_append_left _ hp)
      (hdisjoint p hp place (List.mem_cons_of_mem _ hafter))

/-! ### Changes that loading does not see -/

/-- A usual place is not at the place of another one. -/
theorem not_namesPlace {p : String} (hplace : place ∈ usualPlaces) (hp : p ∈ usualPlaces)
    (hne : p ≠ place) : ¬ fs.NamesPlace (Path.join l.base p) (l.locate fs place) :=
  fun h => hne (eq_of_locate_eq hp hplace h.location_eq)

/-- A file is made, deleted or written at a usual place that a loader does not look at. -/
structure UnseenChange (l : Loader) (place : String) (fs fs' : FileSystem) : Prop where
  unread : l.Unread fs place
  alike : fs.AlikeBut (l.locate fs place) fs'
  /-- The changed file is not itself a selected one, by another path. -/
  others : ∀ path, l.Selects fs path → ¬ fs.NamesPlace path (l.locate fs place)

theorem isFile_of_overlayPath? (hgiven : l.overlay = none) (hM : l.overlayPath? fs = some M) :
    fs.isFile M = true := by
  rw [overlayPath?, hgiven, Option.none_or, firstFile?] at hM
  exact List.find?_some hM

namespace UnseenChange

theorem isFile_eq (h : l.UnseenChange place fs fs') {p : String} (hp : p ∈ usualPlaces)
    (hne : p ≠ place) : fs'.isFile (Path.join l.base p) = fs.isFile (Path.join l.base p) :=
  h.alike.isFile_eq (not_namesPlace h.unread.mem_usualPlaces hp hne)

theorem overlayPath?_eq (h : l.UnseenChange place fs fs') :
    l.overlayPath? fs' = l.overlayPath? fs := by
  obtain ⟨hnodup, -, hdisjoint⟩ := List.nodup_append.1 nodup_usualPlaces
  rw [overlayPath?, overlayPath?]
  cases hgiven : l.overlay with
  | some M => rw [Option.some_or, Option.some_or]
  | none =>
    rw [Option.none_or, Option.none_or]
    refine firstFile?_eq hnodup (fun p hp hne => h.isFile_eq (List.mem_append_left _ hp) hne) ?_
    have hnot (hplace : place ∈ checkstylePlaces) : place ∉ overlayPlaces :=
      fun hoverlay => hdisjoint place hoverlay place hplace rfl
    cases h.unread with
    | overlayGiven hsome hplace => exact absurd hgiven hsome
    | overlayLater hlater => exact .inr hlater
    | overlayFault hM hf hplace => exact .inl (hnot hplace)
    | checkstyleGiven hsome hplace => exact .inl (hnot hplace)
    | checkstyleNamed ho hsome hplace => exact .inl (hnot hplace)
    | checkstyleLater hlater => exact .inl (hnot hlater.mem)

theorem checkstylePath?_eq (h : l.UnseenChange place fs fs') (ho : l.HasOverlay fs overlay) :
    l.checkstylePath? fs' overlay = l.checkstylePath? fs overlay := by
  obtain ⟨-, hnodup, hdisjoint⟩ := List.nodup_append.1 nodup_usualPlaces
  rw [checkstylePath?, checkstylePath?]
  cases hfixed : l.checkstyle.or ((overlay.bind (·.checkstyle)).map (Path.join l.base)) with
  | some C => rw [Option.some_or, Option.some_or]
  | none =>
    rw [Option.none_or, Option.none_or]
    refine firstFile?_eq hnodup (fun p hp hne => h.isFile_eq (List.mem_append_right _ hp) hne) ?_
    have hnot (hplace : place ∈ overlayPlaces) : place ∉ checkstylePlaces :=
      fun hcheckstyle => hdisjoint place hplace place hcheckstyle rfl
    obtain ⟨hgiven, hnamed⟩ := Option.or_eq_none_iff.1 hfixed
    cases h.unread with
    | overlayGiven hsome hplace => exact .inl (hnot hplace)
    | overlayLater hlater => exact .inl (hnot hlater.mem)
    | overlayFault hM hf hplace => exact absurd hf (ho.not_fault hM)
    | checkstyleGiven hsome hplace => exact absurd hgiven hsome
    | checkstyleNamed ho' hsome hplace =>
      rw [ho'.unique ho] at hnamed
      exact absurd (Option.map_eq_none_iff.1 hnamed) hsome
    | checkstyleLater hlater => exact .inr hlater

theorem readCheckstyle_eq (h : l.UnseenChange place fs fs') (ho : l.HasOverlay fs overlay) :
    l.readCheckstyle fs' overlay = l.readCheckstyle fs overlay := by
  have hpath := h.checkstylePath?_eq ho
  cases hC : l.checkstylePath? fs overlay with
  | none =>
    rw [readCheckstyle, readCheckstyle, hpath, hC]
  | some C =>
    have hother := h.others C (.inr ⟨overlay, ho, hC⟩)
    rw [readCheckstyle_of_path hC, readCheckstyle_of_path (hpath.trans hC),
      h.alike.isFile_eq hother]
    by_cases hfile : fs.isFile C = true
    · rw [if_pos hfile, if_pos hfile, readWith, readWith]
      obtain htext | ⟨-, hnofile, -⟩ := h.alike.readText_eq_or hother
      · rw [htext]
      · exact absurd hfile (Bool.eq_false_iff.1 hnofile)
    · rw [if_neg hfile, if_neg hfile]

/-- A change that a loader does not see leaves the configuration and all faults as they are, save
the reason why an overlay cannot be read. Then its path is given and goes on from the changed
place. -/
theorem load_eq_or (h : l.UnseenChange place fs fs') :
    l.load fs' = l.load fs ∨
      ∃ M f f', l.overlay = some M ∧ fs.PassesThrough M (l.locate fs place) ∧
        l.load fs = .error (.overlay M (.unreadable f)) ∧
        l.load fs' = .error (.overlay M (.unreadable f')) := by
  have hkept {overlay : Option Overlay} (ho : l.HasOverlay fs overlay)
      (ho' : l.HasOverlay fs' overlay) : l.load fs' = l.load fs := by
    rw [ho.load_eq, ho'.load_eq, h.readCheckstyle_eq ho]
  have hpath := h.overlayPath?_eq
  cases hM : l.overlayPath? fs with
  | none => exact .inl (hkept (.absent hM) (.absent (hpath.trans hM)))
  | some M =>
    have hM' := hpath.trans hM
    -- a path that was found leads to a file, so only a given one can go on from the changed place
    obtain htext | ⟨hpasses, hnofile, ⟨f, hf⟩, f', hf'⟩ :=
      h.alike.readText_eq_or (h.others M (.inl hM))
    · have hread : readWith fs' M Overlay.ofText = readWith fs M Overlay.ofText := by
        rw [readWith, readWith, htext]
      cases ho : readWith fs M Overlay.ofText with
      | error f =>
        rw [load_of_overlayFault hM ho, load_of_overlayFault hM' (hread.trans ho)]
        exact .inl rfl
      | ok o => exact .inl (hkept (.present hM ho) (.present hM' (hread.trans ho)))
    · have hgiven : l.overlay = some M := by
        cases hgiven : l.overlay with
        | none => exact absurd (isFile_of_overlayPath? hgiven hM) (Bool.eq_false_iff.1 hnofile)
        | some path =>
          rw [overlayPath?, hgiven, Option.some_or] at hM
          exact hM
      exact .inr ⟨M, f, f', hgiven, hpasses, load_of_overlayFault hM (readWith_of_error hf),
        load_of_overlayFault hM' (readWith_of_error hf')⟩

end UnseenChange

/-- What a configuration is loaded from, and that nothing else matters. The overlay is at the given
path, or else at the first of its usual places with a file. The checkstyle configuration is at the
given path, or at the one that the overlay has, or else at the first of its usual places with a
file. Loading comes to the outcome that these two files have. A change at a usual place behind the
selected ones is seen only if the path of the overlay is given and goes on from that place: then the
overlay cannot be read before and after, and the reason may be another one. -/
theorem load_outcome (l : Loader) :
    (∀ fs path?, l.overlayPath? fs = path? ↔ l.Chooses fs l.overlay overlayPlaces path?) ∧
    (∀ fs overlay path?, l.checkstylePath? fs overlay = path? ↔
      l.Chooses fs (l.checkstyle.or ((overlay.bind (·.checkstyle)).map (Path.join l.base)))
        checkstylePlaces path?) ∧
    (∀ fs r, l.load fs = r ↔ l.Outcome fs r) ∧
    ∀ fs fs' place, l.UnseenChange place fs fs' →
      l.load fs' = l.load fs ∨
        ∃ M f f', l.overlay = some M ∧ fs.PassesThrough M (l.locate fs place) ∧
          l.load fs = .error (.overlay M (.unreadable f)) ∧
          l.load fs' = .error (.overlay M (.unreadable f')) := by
  refine ⟨fun fs path? => chooses_iff.symm, fun fs overlay path? => chooses_iff.symm,
    fun fs r => ⟨?_, Outcome.load_eq⟩, fun fs fs' place h => h.load_eq_or⟩
  rintro rfl
  exact l.outcome_load fs

/-- A checkstyle configuration at the first of its usual places, and a file that is written at the
last one. -/
theorem load_outcome_sample :
    let fs : FileSystem := ⟨[.file "checkstyle.xml" "<module name=\"Checker\"/>".toUTF8], ""⟩
    let fs' := { fs with root := FileSystem.place (some ⟨#[]⟩) [".checkstyle.xml"] fs.root }
    standard.UnseenChange ".checkstyle.xml" fs fs' ∧ standard.load fs' = standard.load fs := by
  intro fs fs'
  have hplace : standard.locate fs ".checkstyle.xml" = [".checkstyle.xml"] := by decide +kernel
  have hchange : standard.UnseenChange ".checkstyle.xml" fs fs' := by
    refine ⟨.checkstyleLater ⟨[], "checkstyle.xml", _, rfl, by decide +kernel, by decide⟩, ?_, ?_⟩
    · rw [hplace]
      have habsent : fs.AlikeBut [".checkstyle.xml"] fs :=
        ⟨rfl, .atEnd rfl rfl (fun _ _ => rfl) nofun nofun⟩
      exact habsent.place ⟨#[]⟩
    · have hoverlay : standard.overlayPath? fs = none := by decide +kernel
      have hC : standard.checkstylePath? fs none = some (Path.join "." "checkstyle.xml") := by
        decide +kernel
      rintro path (hM | ⟨overlay, ho, hpath⟩)
      · exact nomatch hoverlay.symm.trans hM
      · obtain rfl := (HasOverlay.absent hoverlay).unique ho
        rw [← Option.some.inj (hC.symm.trans hpath)]
        exact not_namesPlace (by decide) (by decide) (by decide)
  refine ⟨hchange, ((load_outcome standard).2.2.2 fs fs' _ hchange).resolve_right ?_⟩
  rintro ⟨M, f, f', hgiven, -⟩
  exact nomatch hgiven

/-- The path of an overlay that goes on from one of the usual places as from a directory. -/
theorem load_otherReason :
    let l : Loader := ⟨".", none, some "modorder.toml/x"⟩
    let fs : FileSystem := ⟨[], ""⟩
    let fs' : FileSystem := ⟨[.file "modorder.toml" ⟨#[]⟩], ""⟩
    l.UnseenChange "modorder.toml" fs fs' ∧
      l.load fs = .error (.overlay "modorder.toml/x" (.unreadable .notFound)) ∧
      l.load fs' = .error (.overlay "modorder.toml/x" (.unreadable .notDirectory)) := by
  intro l fs fs'
  have hM : l.overlayPath? fs = some "modorder.toml/x" := rfl
  have hread : fs.readText "modorder.toml/x" = .error .notFound := by decide +kernel
  have hread' : fs'.readText "modorder.toml/x" = .error .notDirectory := by decide +kernel
  refine ⟨⟨.overlayGiven nofun (by decide), ?_, ?_⟩,
    load_of_overlayFault hM (readWith_of_error hread),
    load_of_overlayFault rfl (readWith_of_error hread')⟩
  · have hplace : l.locate fs "modorder.toml" = ["modorder.toml"] := by decide +kernel
    rw [hplace]
    have habsent : fs.AlikeBut ["modorder.toml"] fs :=
      ⟨rfl, .atEnd rfl rfl (fun _ _ => rfl) nofun nofun⟩
    exact habsent.place ⟨#[]⟩
  · rintro path (hpath | ⟨overlay, ho, -⟩)
    · rw [← Option.some.inj (hM.symm.trans hpath)]
      intro h
      exact absurd h.location_eq (by decide +kernel)
    · exact absurd (readWith_of_error hread) (ho.not_fault hM)

end JavaLint.Config.Loader
