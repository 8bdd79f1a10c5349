import JavaLint.CommandLine.Level

/-!
# Help

How a level of a command line is used, in one line and at length.
-/

namespace JavaLint.CommandLine

namespace Level

/-- What stands behind the flags. -/
def usageEnd (l : Level) : String :=
  ((l.operand.map fun o => " " ++ o.shown).getD "") ++
    (if l.commands.isEmpty then "" else " <COMMAND>")

/-- The line that tells how a level is used. It names the flags that are in use already; if there are
neither such flags nor other words, it only says that there are flags. -/
def usage (l : Level) (flags : List Flag) (words : Bool) : String :=
  let others := l.flags.any fun f => f.value.isSome
  let middle :=
    if flags.isEmpty && !words then (if others then " [OPTIONS]" else "")
    else String.join (flags.map fun f => " " ++ f.shown)
  s!"Usage: {l.title}" ++ middle ++ l.usageEnd

/-- The line that tells how a level is used when nothing of it is in use. -/
def plainUsage (l : Level) : String := l.usage [] false

/-- Lines of a name and of what it is about. The second parts start in one column. -/
def table (rows : List (String × String)) : String :=
  let width := (rows.map fun r => r.1.length).foldl max 0
  String.join (rows.map fun (name, about) =>
    "  " ++ name ++ "".pushn ' ' (width - name.length) ++ "  " ++ about ++ "\n")

/-- A part of the help with its heading; without rows there is none. -/
def part (heading : String) (rows : List (String × String)) : String :=
  if rows.isEmpty then "" else s!"\n{heading}:\n" ++ table rows

/-- A flag as help lists it. -/
def flagRow (f : Flag) : String × String :=
  let short := match f.short with
    | some c => s!"-{c}, "
    | none => "    "
  let standard := match f.value.bind (·.standard) with
    | some v => s!" [default: {v}]"
    | none => ""
  (short ++ f.shown, f.about ++ standard)

/-- The help of a level. -/
def helpText (l : Level) : String :=
  l.about ++ "\n\n" ++ l.plainUsage ++ "\n" ++ part "Commands" l.commands ++
    part "Arguments" (l.operand.toList.map fun o => (o.shown, o.about)) ++
    part "Options" (l.flags.map flagRow)

end Level

end JavaLint.CommandLine
