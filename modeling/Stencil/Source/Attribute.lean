import Stencil.Source.Tree

/-! Expressions and attributes, as far as a stub is judged by them. -/
namespace Stencil.Source

inductive ExprForm where
  /-- A string literal and nothing else. -/
  | text (value : List Char)
  /-- A range, which no operator can take as its left side. -/
  | range
  /-- A comparison, which cannot be chained. -/
  | comparison
  /-- An expression that ends a statement without a semicolon. -/
  | block
  /-- A macro call that ends in braces. -/
  | bracedCall
  | other
  deriving DecidableEq, Repr

structure Expr where
  form : ExprForm
  trees : List Tree
  /-- It begins with a part that is kept as it stands, to which no attribute can be given. -/
  fixed : Bool := false

def Expr.of (form : ExprForm) (trees : List Tree) : Expr := { form, trees }

/-- An expression with attributes before it. A range takes them only in brackets. -/
def Expr.withAttributes (attributes : List Tree) (e : Expr) : Expr :=
  if attributes.isEmpty || e.fixed then e
  else if e.form = .range then { e with trees := attributes ++ [.parens e.trees] }
  else { e with trees := attributes ++ e.trees }

def Expr.text? (e : Expr) : Option (List Char) :=
  match e.form with
  | .text value => some value
  | _ => none

structure NamePath where
  rooted : Bool
  names : List String
  deriving DecidableEq, Repr

namespace NamePath

def trees (p : NamePath) : List Tree :=
  (if p.rooted then Tree.op "::" else [])
    ++ separate (Tree.op "::") (p.names.map fun name => [.ofName name])

def isNamed (name : String) (p : NamePath) : Bool := !p.rooted && p.names = [name]

end NamePath

inductive AttributeArgs where
  | none
  | list (delim : Delim) (body : List Tree)
  | value (e : Expr)

structure Attribute where
  /-- Whether it stands inside of what it describes. -/
  inner : Bool
  path : NamePath
  args : AttributeArgs

namespace Attribute

def isNamed (name : String) (a : Attribute) : Bool := a.path.isNamed name

def trees (a : Attribute) : List Tree :=
  let args :=
    match a.args with
    | .none => []
    | .list delim body => [.group delim body]
    | .value e => Tree.op "=" ++ e.trees
  Tree.op "#" ++ (if a.inner then Tree.op "!" else []) ++ [.brackets (a.path.trees ++ args)]

end Attribute

def attributeTrees (attributes : List Attribute) : List Tree := attributes.flatMap Attribute.trees

end Stencil.Source
