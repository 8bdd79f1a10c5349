import JavaLint.Config.Checkstyle
import JavaLint.Config.Overlay

/-!
# Merged configurations

The rules of a checkstyle configuration, each with its severity and with the mode that an overlay
gives it, and the modules about whole files.
-/

namespace JavaLint.Config

/-- A rule as it is configured. -/
structure ConfiguredRule where
  name : String
  properties : PropertyMap
  mode : RuleMode
  /-- What is written for the severity, at the rule or else at the root. -/
  severity : Option String
deriving DecidableEq, Repr, Inhabited

namespace ConfiguredRule

/-- The value of a property. -/
def property? (r : ConfiguredRule) (name : String) : Option String := r.properties.get? name

/-- Whether the rule runs. -/
def isEnabled (r : ConfiguredRule) : Bool := r.mode != .disabled

end ConfiguredRule

/-- A merged configuration. -/
structure Merged where
  rules : List ConfiguredRule
  fileModules : List Module
  /-- The path of the file that it was loaded from. -/
  path : Option String
deriving Repr, Inhabited

namespace Merged

/-- The name of the property that holds the severity. -/
def severityName : String := "severity"

/-- A rule as it is configured by its module, the severity at the root, and an overlay. -/
def configure (standard : Option String) (overlay : Option Overlay) (m : Module) :
    ConfiguredRule where
  name := m.name
  properties := m.propertyMap
  mode := match overlay with
    | some o => o.modeOf m.name
    | none => .check
  severity := (m.property? severityName).or standard

/-- A checkstyle configuration with an overlay. -/
def of (c : Checkstyle) (overlay : Option Overlay) : Merged where
  rules := c.rules.map (configure (c.property? severityName) overlay)
  fileModules := c.fileModules
  path := none

/-- The rules that run. -/
def enabledRules (m : Merged) : List ConfiguredRule := m.rules.filter (·.isEnabled)

/-- The first rule of a name. -/
def rule? (m : Merged) (name : String) : Option ConfiguredRule :=
  m.rules.find? fun r => r.name == name

/-- Whether there is a rule of a name and the first one runs. -/
def enables (m : Merged) (name : String) : Bool := (m.rule? name).any (·.isEnabled)

/-- The modules about whole files with a name. -/
def fileModulesNamed (m : Merged) (name : String) : List Module :=
  m.fileModules.filter fun f => f.name == name

end Merged

end JavaLint.Config
