import JavaLint.Java.Grammar
import JavaLint.Parse.Run
import JavaLint.Tree.Basic

/-!
# Reading Java

A Java source is parsed with the tables of the grammar, and the trees on the stack of the parse are
turned into a syntax tree: hidden nodes give way to their parts, parts get the kinds and the roles
that their production gives them, and places are counted in bytes.
-/

namespace JavaLint.Java

open JavaLint.Grammar JavaLint.Parse

/-- The tables of the grammar of Java. -/
def table : Table := Table.ofGrammar grammar

mutual

/-- The visible trees that a part of a node stands for. `rename` and `role` are those of its step
in the production of the node; the role of a hidden part goes to its parts. -/
def visibleTrees (t : Table) (input : Input) (rename role : Option String) :
    Subtree → List Tree
  | .mk f parts =>
    let own := t.bnf.label f.symbol
    let below := visibleParts t input (if f.visible || rename.isSome then none else role)
      parts (stepsOf t f.production)
    let node := fun (kind : String) (named : Bool) =>
      [Tree.node {
        kind, named, missing := f.missing, start := input.byteAt f.start
        stop := input.byteAt f.stop, role } below]
    match rename with
    | some kind => if f.symbol == 0 then below else node kind true
    | none =>
      if f.symbol == errorSymbol t then node Tree.errorKind true
      else if f.visible then node own.kind own.named
      else below

/-- The visible trees of the parts of a node with the given steps. -/
def visibleParts (t : Table) (input : Input) (role : Option String) :
    List Subtree → List Step → List Tree
  | [], _ => []
  | s :: rest, steps =>
    if s.isExtra then
      visibleTrees t input none none s ++ visibleParts t input role rest steps
    else
      let step := steps.head?
      visibleTrees t input (step.bind (·.rename)) ((step.bind (·.field)).or role) s ++
        visibleParts t input role rest steps.tail

end

/-- A source with its syntax tree. -/
structure Parsed where
  tree : Tree
  /-- Whether the source is no program, so that the tree holds skipped text or missing tokens. -/
  hasErrors : Bool
deriving Inhabited

/-- The syntax tree of a source. There is none only if the parser gives up. -/
def parse (source : String) : Option Parsed :=
  match Parse.parse table source with
  | (input, some s) =>
    match visibleTrees table input none none s with
    | tree :: _ => some ⟨tree, 0 < s.facts.errorCost⟩
    | [] => none
  | _ => none

end JavaLint.Java
