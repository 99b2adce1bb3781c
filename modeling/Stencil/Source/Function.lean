import Stencil.Source.Attribute
import Stencil.Source.Type

/-! Function headers: generics, parameters and signatures. -/
namespace Stencil.Source

/-- Items with a comma after each, the last perhaps excepted: those marked `true` come first. A
comma is put in where one is missing between the two kinds. -/
def markedFirst (items : List (Bool × List Tree)) (trailing : Bool) : List Tree :=
  let comma := Tree.op ","
  let count := items.length
  let ended := items.mapIdx fun i (marked, trees) =>
    (marked, trees ++ if i + 1 < count || trailing then comma else [])
  let first := ended.filter (·.1)
  let others := ended.filter (!·.1)
  let lastIsFirst := items.getLast?.any (·.1)
  let bridge := if lastIsFirst && !trailing && !others.isEmpty then comma else []
  (first.flatMap (·.2)) ++ bridge ++ (others.flatMap (·.2))

structure GenericParam where
  isLifetime : Bool
  /-- The parameter with its bounds. -/
  head : List Tree
  /-- The default with its equals sign, if there is one. -/
  default : List Tree

structure Generics where
  params : List GenericParam
  /-- Whether a comma follows the last parameter. -/
  trailing : Bool

namespace Generics

def empty : Generics := ⟨[], false⟩

def shown (g : Generics) (trees : GenericParam → List Tree) : List Tree :=
  if g.params.isEmpty then []
  else Tree.op "<" ++ markedFirst (g.params.map fun p => (p.isLifetime, trees p)) g.trailing
    ++ Tree.op ">"

def trees (g : Generics) : List Tree := g.shown fun p => p.head ++ p.default

/-- The parameters as an impl block declares them: without defaults. -/
def implTrees (g : Generics) : List Tree := g.shown (·.head)

end Generics

inductive PatternForm where
  /-- It binds one name as a whole. -/
  | binding (name : String)
  /-- A range, which has one end only if `open?`. -/
  | range (open? : Bool)
  /-- A block that is computed before the program runs. -/
  | constant
  /-- It is kept as it stands, and no attribute can be given to it. -/
  | fixed
  | other
  deriving DecidableEq, Repr

structure Pattern where
  form : PatternForm
  trees : List Tree

def undescribed : List Tree → List Tree
  | .mark '#' _ :: .mark '!' _ :: .group .bracket _ :: rest => undescribed rest
  | trees => trees

/-- A pattern with these attributes in place of its own. A range takes them only in brackets, and a
pattern that is kept as it stands takes none. -/
def Pattern.withAttributes (attributes : List Tree) (p : Pattern) : List Tree :=
  match p.form with
  | .fixed => p.trees
  | .range _ => if attributes.isEmpty then p.trees else attributes ++ [.parens p.trees]
  | .constant =>
    attributes ++ p.trees.map fun
      | .group delim body => .group delim (undescribed body)
      | t => t
  | .binding _ | .other => attributes ++ p.trees

/-- The name that is bound, if the pattern binds one as a whole. -/
def Pattern.name (p : Pattern) : Option String :=
  match p.form with
  | .binding name => some name
  | _ => none

inductive Input where
  | receiver (trees : List Tree)
  | typed (attributes : List Attribute) (pattern : Pattern) (type : Ty)

def Input.trees : Input → List Tree
  | .receiver trees => trees
  | .typed attributes pattern type =>
    attributeTrees attributes ++ pattern.trees ++ Tree.op ":" ++ type.trees

structure Signature where
  /-- The words before `fn`. -/
  qualifiers : List Tree
  name : String
  pos : Pos
  generics : Generics
  inputs : List Input
  /-- Whether a comma follows the last input. -/
  trailing : Bool
  /-- The dots of a variable number of arguments, with what belongs to them. -/
  variadic : List Tree
  output : Option Ty
  whereClause : List Tree

namespace Signature

def withInputs (s : Signature) (inputs : List (List Tree)) (trailing : Bool) : List Tree :=
  let comma := Tree.op ","
  let bridge := if trailing || (!s.variadic.isEmpty && !inputs.isEmpty) then comma else []
  s.qualifiers ++ [.ofName "fn", .ofName s.name] ++ s.generics.trees
    ++ [.parens (separate comma inputs ++ bridge ++ s.variadic)]
    ++ (match s.output with
      | some type => Tree.op "->" ++ type.trees
      | none => [])
    ++ s.whereClause

def trees (s : Signature) : List Tree := s.withInputs (s.inputs.map Input.trees) s.trailing

end Signature

structure BareFn where
  attributes : List Attribute
  visibility : List Tree
  signature : Signature

end Stencil.Source
