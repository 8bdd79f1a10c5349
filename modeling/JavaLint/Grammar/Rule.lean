import JavaLint.Grammar.Pattern

/-!
# Rules of a grammar

A grammar is written as named rules. A rule is a regular expression whose atoms are tokens and
names of rules; marks on a part of a rule say how conflicts are decided there and what the part
is called in the tree.
-/

namespace JavaLint.Grammar

open JavaLint.Text

/-- How an operator binds to a neighbour of equal precedence. -/
inductive Assoc where
  | left
  | right
deriving BEq, DecidableEq, Repr, Inhabited

/-- What a rule says of one of its parts. -/
structure Mark where
  /-- Decides between actions when the tables are built. -/
  precedence : Option Int := none
  /-- Decides between actions of equal precedence. -/
  assoc : Option Assoc := none
  /-- Decides between whole trees when a text has several. -/
  dynamic : Int := 0
  /-- The kind under which the part appears in the tree. -/
  rename : Option String := none
  /-- The role of the part in its parent. -/
  field : Option String := none
deriving BEq, Repr, Inhabited

/-- A regular expression over atoms of type `α`. -/
inductive Rule (α : Type) where
  | blank
  | atom (a : α)
  | seq (parts : List (Rule α))
  | choice (options : List (Rule α))
  | many1 (inner : Rule α)
  | marked (mark : Mark) (inner : Rule α)
deriving BEq, Repr, Inhabited

namespace Rule

variable {α β : Type}

mutual

/-- The atoms, from left to right. -/
def atoms : Rule α → List α
  | blank => []
  | atom a => [a]
  | seq rs => atomsAll rs
  | choice rs => atomsAll rs
  | many1 r => r.atoms
  | marked _ r => r.atoms

/-- The atoms of several rules, from left to right. -/
def atomsAll : List (Rule α) → List α
  | [] => []
  | r :: rs => r.atoms ++ atomsAll rs

end

mutual

/-- The rule with every atom replaced. -/
def map (f : α → β) : Rule α → Rule β
  | blank => blank
  | atom a => atom (f a)
  | seq rs => seq (mapAll f rs)
  | choice rs => choice (mapAll f rs)
  | many1 r => many1 (r.map f)
  | marked m r => marked m (r.map f)

/-- The rules with every atom replaced. -/
def mapAll (f : α → β) : List (Rule α) → List (Rule β)
  | [] => []
  | r :: rs => r.map f :: mapAll f rs

end

/-- The rule or nothing. -/
def optional (r : Rule α) : Rule α := choice [r, blank]

/-- The rule, any number of times. -/
def many (r : Rule α) : Rule α := choice [many1 r, blank]

/-- One or more of the rule, with the second between them. -/
def sepBy1 (r separator : Rule α) : Rule α := seq [r, many (seq [separator, r])]

/-- Any number of the rule, with the second between them. -/
def sepBy (r separator : Rule α) : Rule α := optional (sepBy1 r separator)

/-- The part has a precedence. -/
def prec (level : Int) (r : Rule α) : Rule α := marked { precedence := some level } r

/-- The part has a precedence and binds to the left. -/
def precLeft (level : Int) (r : Rule α) : Rule α :=
  marked { precedence := some level, assoc := some .left } r

/-- The part has a precedence and binds to the right. -/
def precRight (level : Int) (r : Rule α) : Rule α :=
  marked { precedence := some level, assoc := some .right } r

/-- Trees with this part are preferred by its level. -/
def precDynamic (level : Int) (r : Rule α) : Rule α := marked { dynamic := level } r

/-- The part appears under another kind. -/
def renamed (kind : String) (r : Rule α) : Rule α := marked { rename := some kind } r

/-- The part has a role in its parent. -/
def field (name : String) (r : Rule α) : Rule α := marked { field := some name } r

end Rule

/-- What rules are written over: tokens, and rules by their names. -/
inductive Atom where
  | token (lexeme : Lexeme)
  | name (rule : String)
deriving BEq, Repr, Inhabited

/-- A named rule. -/
structure Definition where
  /-- The name; one that starts with an underscore does not appear in the tree. -/
  name : String
  /-- What the name stands for. -/
  rule : Rule Atom
deriving Repr, Inhabited

/-- A grammar in the form in which it is written. -/
structure Ruleset where
  /-- The rules; the first is the start. -/
  definitions : List Definition
  /-- The token from which keywords are told apart. -/
  word : String
  /-- Tokens that may stand anywhere, and are kept in the tree. -/
  extras : List String
  /-- Characters that may stand between tokens and are not kept. -/
  blanks : CharSet
  /-- Rules that are replaced by their alternatives wherever they are used. -/
  inlined : List String
  /-- Rules that only group others and do not appear in the tree. -/
  groups : List String
deriving Inhabited

end JavaLint.Grammar
