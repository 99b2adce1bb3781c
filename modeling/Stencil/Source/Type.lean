import Stencil.Source.Tree

/-! Types, as far as a stub is judged by them. -/
namespace Stencil.Source

mutual

/-- A type. The forms that nobody looks into are kept as trees. -/
inductive Ty where
  /-- A path, which begins with a double colon if `rooted`. -/
  | path (rooted : Bool) (segments : List Segment)
  /-- An item of a type seen through a trait or on its own, with the names along its path. -/
  | projection (names : List String) (trees : List Tree)
  | reference (lifetime : Option String) (mutable : Bool) (target : Ty)
  | paren (inner : Ty)
  /-- A type that brackets without a written form hold together. -/
  | group (inner : Ty)
  /-- A trait object, with the last names of the traits that bound it. If nothing but one bound is
  written, `only` holds it without brackets. -/
  | traitObject (traits : List String) (only : Option (List Tree)) (trees : List Tree)
  | other (trees : List Tree)

inductive Segment where
  | plain (name : String)
  /-- A name with arguments; `types` are the types among them. -/
  | applied (name : String) (types : List Ty) (trees : List Tree)

end

def Segment.name : Segment → String
  | .plain name | .applied name .. => name

def Segment.isPlain : Segment → Bool
  | .plain _ => true
  | .applied .. => false

/-- No arguments are given, though brackets for them may be. -/
def Segment.isUnapplied : Segment → Bool
  | .plain _ => true
  | .applied _ _ [.mark '<' _, .mark '>' _] => true
  | .applied _ _ [.mark ':' _, .mark ':' _, .mark '<' _, .mark '>' _] => true
  | .applied .. => false

def Segment.trees : Segment → List Tree
  | .plain name => [.ofName name]
  | .applied name _ trees => .ofName name :: trees

def pathTrees (rooted : Bool) (segments : List Segment) : List Tree :=
  (if rooted then Tree.op "::" else []) ++ separate (Tree.op "::") (segments.map Segment.trees)

namespace Ty

def trees : Ty → List Tree
  | .path rooted segments => pathTrees rooted segments
  | .projection _ trees => trees
  | .reference lifetime mutable target =>
    Tree.op "&" ++ (lifetime.map Tree.lifetime).toList
      ++ (if mutable then [.ofName "mut"] else []) ++ target.trees
  | .paren inner => [.parens inner.trees]
  | .group inner => inner.trees
  | .traitObject _ _ trees => trees
  | .other trees => trees

def isNamed (name : String) : Ty → Bool
  | .path false [.plain found] => found = name
  | _ => false

/-- The type inside `n` brackets without a written form. -/
def grouped : Nat → Ty → Ty
  | 0, t => t
  | n + 1, t => .group (grouped n t)

end Ty

end Stencil.Source
