/-!
# Log events

What a program tells of its work on the side: how grave it is, which part of the program tells it, and
the text.
-/

namespace JavaLint.Log

/-- How grave an event is, the gravest first. -/
inductive Level where
  | error
  | warn
  | info
  | debug
  | trace
deriving DecidableEq, Repr, Inhabited

namespace Level

/-- All levels, the gravest first. -/
def all : List Level := [error, warn, info, debug, trace]

/-- The name. -/
def name : Level → String
  | error => "ERROR"
  | warn => "WARN"
  | info => "INFO"
  | debug => "DEBUG"
  | trace => "TRACE"

/-- How many levels are as grave. -/
def rank : Level → Nat
  | error => 1
  | warn => 2
  | info => 3
  | debug => 4
  | trace => 5

end Level

/-- An event. -/
structure Event where
  level : Level
  /-- The part of the program that tells it. -/
  target : String
  text : String
deriving DecidableEq, Repr, Inhabited

namespace Event

/-- An event as it is written. -/
def render (e : Event) : String := s!"{e.level.name} {e.target}: {e.text}\n"

end Event

end JavaLint.Log
