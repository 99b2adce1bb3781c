import Stencil.Source.Function

/-! The items of a source text: impl blocks, modules, and all else. -/
namespace Stencil.Source

/-- An item of an impl block, with the trees that it prints as. -/
inductive ImplItem where
  | bare (fn : BareFn) (trees : List Tree)
  | other (trees : List Tree)

def ImplItem.trees : ImplItem → List Tree
  | .bare _ trees | .other trees => trees

structure Impl where
  attributes : List Attribute
  /-- The words before `impl`. -/
  qualifiers : List Tree
  generics : Generics
  /-- The trait that is implemented, up to the word before the type; empty for an inherent impl. -/
  traitTrees : List Tree
  selfType : Ty
  whereClause : List Tree
  items : List ImplItem

namespace Impl

def isInherent (i : Impl) : Bool := i.traitTrees.isEmpty

def outer (i : Impl) : List Attribute := i.attributes.filter (!·.inner)
def inner (i : Impl) : List Attribute := i.attributes.filter (·.inner)

def trees (i : Impl) : List Tree :=
  attributeTrees i.outer ++ i.qualifiers ++ [.ofName "impl"] ++ i.generics.trees ++ i.traitTrees
    ++ i.selfType.trees ++ i.whereClause
    ++ [.braces (attributeTrees i.inner ++ i.items.flatMap ImplItem.trees)]

end Impl

inductive Item where
  | impl (block : Impl)
  /-- A module whose items stand in the same text. -/
  | module (name : String) (items : List Item)
  | other

end Stencil.Source
