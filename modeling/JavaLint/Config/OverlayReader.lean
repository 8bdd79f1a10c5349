import JavaLint.Config.Overlay
import JavaLint.Text.Quoted
import JavaLint.Toml.Document

/-!
# Reading overlays

An overlay is a TOML document. Its table `checkstyle` may hold the path of the checkstyle
configuration, and its table `rules` holds the modes of rules. Tables are read in the order of their
keys, and the first fault is told.
-/

namespace JavaLint.Config

open JavaLint.Text JavaLint.Toml

/-- Why a document is no overlay. A place is told by the number of bytes that are left there. -/
inductive OverlayFault where
  /-- The document is not well written. -/
  | malformed (before : Nat)
  /-- A value is of another sort. -/
  | unexpected (found expected : String) (place : Place)
  /-- A text names no mode. -/
  | invalidMode (text : String) (place : Place)
deriving DecidableEq, Repr, Inhabited

namespace OverlayReader

/-- How a value is described. -/
def describe : Value → String
  | .text t _ => s!"string {quoted t}"
  | .scalar .boolean w _ => s!"boolean \x60{w}\x60"
  | .scalar .integer w _ => s!"integer \x60{w}\x60"
  | .scalar .float w _ => s!"floating point \x60{w}\x60"
  | .scalar .time .. => "map"
  | .list .. => "sequence"
  | .table .. => "map"

/-- The fault of a value of another sort. -/
def unexpected {α : Type} (v : Value) (expected : String) : Except OverlayFault α :=
  throw (.unexpected (describe v) expected v.place)

/-- Puts entries in the order of their keys. -/
def sorted {α : Type} (entries : List (String × α)) : List (String × α) :=
  entries.mergeSort fun a b => a.1 ≤ b.1

/-- The path of the checkstyle configuration in the table that may hold it. -/
def readReference (v : Value) : Except OverlayFault (Option String) :=
  match v.entries? with
  | none => unexpected v "struct CheckstyleReference"
  | some entries =>
    match entries.lookup "config" with
    | none => pure none
    | some (.text path _) => pure (some path)
    | some other => unexpected other "a string"

/-- The mode that a value names. -/
def readMode (v : Value) : Except OverlayFault RuleMode :=
  match v with
  | .text t place =>
    match RuleMode.parse? t with
    | some m => pure m
    | none => throw (.invalidMode t place)
  | _ => unexpected v "a string"

/-- The modes of rules in the table that holds them. -/
def readModes (v : Value) : Except OverlayFault (List (String × RuleMode)) :=
  match v.entries? with
  | none => unexpected v "a map"
  | some entries => (sorted entries).mapM fun (name, v) => do pure (name, ← readMode v)

end OverlayReader

open OverlayReader in
/-- The overlay that a document holds. -/
def Overlay.ofText (document : String) : Except OverlayFault Overlay := do
  match Toml.ofText document with
  | .error before => throw (.malformed before)
  | .ok entries =>
    let checkstyle ← match entries.lookup "checkstyle" with
      | some v => readReference v
      | none => pure none
    let modes ← match entries.lookup "rules" with
      | some v => readModes v
      | none => pure []
    pure ⟨checkstyle, modes⟩

namespace OverlayFault

/-- What is said of a fault. -/
def message : OverlayFault → String
  | malformed _ => "invalid document"
  | unexpected found expected _ => s!"invalid type: {found}, expected {expected}"
  | invalidMode t _ => RuleMode.invalidMessage t

/-- The bytes that are left at the start and at the end of a fault. -/
def place : OverlayFault → Place
  | malformed n => ⟨n, n⟩
  | unexpected _ _ p => p
  | invalidMode _ p => p

/-- What is said of a fault, with the line of the document where it is. -/
def report (document : String) (fault : OverlayFault) : String :=
  let total := document.utf8ByteSize
  let start := total - fault.place.startsBefore
  let length := fault.place.startsBefore - fault.place.endsBefore
  let before := ((cut? document.toList start).map (·.1)).getD []
  let line := before.count '\n'
  let column := (before.reverse.takeWhile (· != '\n')).length
  let content := (document.splitOn "\n")[line]?.getD ""
  let number := toString (line + 1)
  let gutter := "".pushn ' ' (number.length + 1)
  let marks := max 1 (min length (content.utf8ByteSize - column))
  s!"TOML parse error at line {number}, column {column + 1}\n" ++
    s!"{gutter}|\n{number} | {content}\n{gutter}|" ++
    "".pushn ' ' (column + 1) ++ "".pushn '^' marks ++ s!"\n{fault.message}\n"

end OverlayFault

end JavaLint.Config
