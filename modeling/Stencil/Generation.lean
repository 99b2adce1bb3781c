import Stencil.Body.Code
import Stencil.Digest

/-! A generation pass: what is generated for bound methods, and what is reported. -/
namespace Stencil

open Source Code

namespace Method

def header (m : Method) : List Tree :=
  m.signature.withInputs
    (m.params.map fun p => [Tree.ofName p.name] ++ code ":" ++ p.type.trees) false

def function (m : Method) (body : Body) : List Tree :=
  let inline :=
    if m.attributes.any (·.isNamed "inline") then []
    else code "#" ++ [.brackets (code "inline")]
  let allow := code "#" ++ [.brackets (code "allow" ++
    [.parens (code "unused_mut , unused_variables , unused_assignments , clippy :: all")])]
  attributeTrees m.attributes ++ inline ++ allow ++ m.visibility ++ m.header ++ [.braces body.trees]

end Method

/-- What is generated for one owner: an impl block that holds one function for each method. -/
structure CodeUnit where
  owner : Owner
  functions : List (List Tree)

namespace CodeUnit

def fileName (u : CodeUnit) : String := u.owner.fileName

def trees (u : CodeUnit) : List Tree :=
  code "impl" ++ u.owner.generics.implTrees ++ u.owner.selfType.trees ++ u.owner.whereClause
    ++ [.braces u.functions.flatten]

def source (u : CodeUnit) : String :=
  "// <auto-generated/>\n// named-format: " ++ u.owner.qualifiedName ++ "\n"
    ++ render u.trees ++ "\n"

def hash (u : CodeUnit) : UInt64 := Digest.xxh64 0 (Text.encode u.source.toList)

def ofMethods (strategy : Strategy) (options : Options) (owner : Owner) (methods : List Method) :
    CodeUnit where
  owner := owner
  functions := methods.map fun m => m.function (m.body strategy options)

end CodeUnit

/-- A stub is either bound or reported. -/
abbrev Outcome := Except Diagnostic Method

namespace Outcome

def method? : Outcome → Option Method
  | .ok m => some m
  | .error _ => none

def diagnostic? : Outcome → Option Diagnostic
  | .ok _ => none
  | .error d => some d

end Outcome

/-- Methods by owner while they are collected: one group for each owner, and an index that tells
where the group of an owner stands. -/
structure Grouping where
  index : List (Owner × Nat) := []
  groups : List (Owner × List Method) := []

namespace Grouping

def slot? (g : Grouping) (owner : Owner) : Option Nat :=
  (g.index.find? (·.1.same owner)).map Prod.snd

/-- Add a method to the group of its owner, or begin a new group at the end. -/
def add (g : Grouping) (m : Method) : Grouping :=
  match g.slot? m.owner with
  | some slot =>
    { g with groups := g.groups.modify slot fun (owner, methods) => (owner, methods ++ [m]) }
  | none =>
    { index := (m.owner, g.groups.length) :: g.index
      groups := g.groups ++ [(m.owner, [m])] }

end Grouping

structure Generation where
  diagnostics : List Diagnostic
  units : List CodeUnit

namespace Generation

def hasErrors (g : Generation) : Bool := !g.diagnostics.isEmpty

/-- Methods by owner, in the order in which owners first appear. -/
def groups (methods : List Method) : List (Owner × List Method) :=
  (methods.foldl Grouping.add {}).groups

def run (options : Options) (outcomes : List Outcome) : Generation where
  diagnostics := outcomes.filterMap Outcome.diagnostic?
  units := (groups (outcomes.filterMap Outcome.method?)).map fun (owner, methods) =>
    .ofMethods options.strategy options owner methods

end Generation

end Stencil
