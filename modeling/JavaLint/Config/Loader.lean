import JavaLint.Config.CheckstyleReader
import JavaLint.Config.Merged
import JavaLint.Config.OverlayReader
import JavaLint.Files.Tree

/-!
# Loading configurations

An overlay and a checkstyle configuration are looked for in the usual places below a base directory,
unless their paths are given. The overlay comes first, since it may hold the path of the other.
-/

namespace JavaLint.Config

open JavaLint.Files

/-- Why a file holds no value of a kind: it cannot be read, or its text does not fit. -/
inductive FileFault (φ : Type) where
  | unreadable (fault : ReadFault)
  | unfit (document : String) (fault : φ)
deriving Repr, Inhabited

/-- Why there is no configuration. -/
inductive LoadFault where
  /-- The overlay has a fault. -/
  | overlay (path : String) (fault : FileFault OverlayFault)
  /-- There is no checkstyle configuration. -/
  | noConfiguration
  /-- The path of the checkstyle configuration leads to no file. -/
  | notFound (path : String)
  /-- The checkstyle configuration has a fault. -/
  | checkstyle (path : String) (fault : FileFault CheckstyleFault)
deriving Repr, Inhabited

/-- Where configurations are looked for. -/
structure Loader where
  base : String
  /-- The path of the checkstyle configuration, if it is given. -/
  checkstyle : Option String
  /-- The path of the overlay, if it is given. -/
  overlay : Option String
deriving DecidableEq, Repr, Inhabited

namespace Loader

/-- Looks in the working directory. -/
def standard : Loader := ⟨".", none, none⟩

/-- The usual places of overlays; the first one with a file counts. -/
def overlayPlaces : List String := ["modorder.toml", ".modorder.toml", "config/modorder.toml"]

/-- The usual places of checkstyle configurations; the first one with a file counts. -/
def checkstylePlaces : List String :=
  ["checkstyle.xml", "config/checkstyle/checkstyle.xml", "config/checkstyle.xml", ".checkstyle.xml"]

/-- The first of some places below the base directory with a file. -/
def firstFile? (l : Loader) (fs : FileSystem) (places : List String) : Option String :=
  (places.map (Path.join l.base)).find? fs.isFile

/-- Reads a file and what its text holds. -/
def readWith {α φ : Type} (fs : FileSystem) (path : String) (ofText : String → Except φ α) :
    Except (FileFault φ) α :=
  match fs.readText path with
  | .error e => .error (.unreadable e)
  | .ok text => (ofText text).mapError (.unfit text)

/-- The path of the overlay. -/
def overlayPath? (l : Loader) (fs : FileSystem) : Option String :=
  l.overlay.or (l.firstFile? fs overlayPlaces)

/-- The overlay with its path. -/
def readOverlay (l : Loader) (fs : FileSystem) : Except LoadFault (Option (String × Overlay)) :=
  match l.overlayPath? fs with
  | none => .ok none
  | some path =>
    match readWith fs path Overlay.ofText with
    | .ok o => .ok (some (path, o))
    | .error e => .error (.overlay path e)

/-- The path of the checkstyle configuration. -/
def checkstylePath? (l : Loader) (fs : FileSystem) (overlay : Option Overlay) : Option String :=
  (l.checkstyle.or ((overlay.bind (·.checkstyle)).map (Path.join l.base))).or
    (l.firstFile? fs checkstylePlaces)

/-- The checkstyle configuration with its path. -/
def readCheckstyle (l : Loader) (fs : FileSystem) (overlay : Option Overlay) :
    Except LoadFault (String × Checkstyle) :=
  match l.checkstylePath? fs overlay with
  | none => .error .noConfiguration
  | some path =>
    if fs.isFile path then
      match readWith fs path Checkstyle.ofText with
      | .ok c => .ok (path, c)
      | .error e => .error (.checkstyle path e)
    else .error (.notFound path)

/-- The configuration. -/
def load (l : Loader) (fs : FileSystem) : Except LoadFault Merged := do
  let overlay := (← l.readOverlay fs).map (·.2)
  let (path, checkstyle) ← l.readCheckstyle fs overlay
  pure { Merged.of checkstyle overlay with path := some path }

end Loader

/-! ## What is said of faults -/

/-- What is said of a file that cannot be read, before the reason. -/
def unreadableText : String := "Failed to read config file: "

/-- What is said of a fault in a checkstyle configuration and, one after the other, of its reasons. -/
def checkstyleCauses : FileFault CheckstyleFault → List String
  | .unreadable e => [unreadableText ++ e.message, e.message]
  | .unfit _ (.unexpectedRoot name) =>
    [s!"Expected root module '{Checkstyle.rootName}', found '{name}'"]
  | .unfit _ f =>
    let detail := f.detail.getD "the document is not well-formed"
    ["Failed to parse XML: " ++ detail, detail]

/-- What is said of a fault in an overlay and, one after the other, of its reasons. -/
def overlayCauses : FileFault OverlayFault → List String
  | .unreadable e => [unreadableText ++ e.message, e.message]
  | .unfit document f =>
    let report := f.report document
    ["Failed to parse TOML: " ++ report, report]

/-- What is said of a fault and, one after the other, of its reasons. -/
def LoadFault.causes : LoadFault → List String
  | overlay path f =>
    let rest := overlayCauses f
    (s!"modorder.toml error in {path}: " ++ rest.head?.getD "") :: rest
  | noConfiguration => ["No configuration found"]
  | notFound path => [s!"Checkstyle config not found: {path}"]
  | checkstyle path f =>
    let rest := checkstyleCauses f
    (s!"Checkstyle config error in {path}: " ++ rest.head?.getD "") :: rest

/-- What is said of a fault. -/
def LoadFault.message (f : LoadFault) : String := f.causes.head?.getD ""

end JavaLint.Config
