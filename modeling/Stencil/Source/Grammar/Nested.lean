import Stencil.Source.Item
import Stencil.Source.Literal
import Stencil.Source.Parser

/-! Grammars that refer to each other do so one level down. -/
namespace Stencil.Source

/-- Where a bound stands, which decides what kinds of bounds there can be. -/
inductive BoundPlace where
  /-- In a trait object: only traits and lifetimes. -/
  | object
  /-- Where something is declared: also traits that hold for constants. -/
  | declared
  /-- In a type that is known by its bounds alone: also the parameters that it captures. -/
  | implied
  deriving DecidableEq, Repr

inductive BoundKind where
  /-- A trait, with the last name of its path. -/
  | trait (name : String)
  /-- A trait that holds for constants. -/
  | constTrait
  | lifetime
  | captures
  deriving DecidableEq, Repr

structure Bound where
  kind : BoundKind
  trees : List Tree

namespace Bound

/-- The last name of the trait, if it is a plain one. -/
def trait? (b : Bound) : Option String :=
  match b.kind with
  | .trait name => some name
  | _ => none

def isTrait (b : Bound) : Bool :=
  match b.kind with
  | .trait _ | .constTrait => true
  | .lifetime | .captures => false

end Bound

/-- The grammars that are at hand one level further down. -/
structure Nested where
  /-- A type; bounds joined by plus signs only if `plus`. -/
  type (plus : Bool) : Parser Ty
  bound (place : BoundPlace) : Parser Bound
  /-- A pattern without alternatives at its top. -/
  pattern : Parser Pattern
  /-- An expression; a path does not begin a struct literal unless `structs`. -/
  expr (structs : Bool) : Parser Expr
  /-- Operators after an operand, as long as they bind at least as tightly as `base`. -/
  operators (structs : Bool) (base : Nat) (left : Expr) : Parser Expr
  /-- An operand with its operators in front and behind. -/
  operand (structs : Bool) : Parser Expr
  /-- The arms of a match up to the end of the group. -/
  arms : Grammar
  /-- Statements up to the end of the group. -/
  statements : Grammar
  /-- The fields of a struct in braces. -/
  fields : Grammar
  /-- What a use declaration brings in. A path in braces may begin at the root only if `root`; the
  first result tells whether one does. -/
  useTree (root : Bool) : Parser (Bool × List Tree)
  item : Parser (Item × List Tree)

def Nested.none : Nested where
  type _ := Parser.fail
  bound _ := Parser.fail
  pattern := Parser.fail
  expr _ := Parser.fail
  operators _ _ _ := Parser.fail
  operand _ := Parser.fail
  arms := Parser.fail
  statements := Parser.fail
  fields := Parser.fail
  useTree _ := Parser.fail
  item := Parser.fail

namespace Nested

variable (n : Nested)

def typeTrees : Grammar := Ty.trees <$> n.type true

def closedType : Grammar := Ty.trees <$> n.type false

def exprTrees : Grammar := Expr.trees <$> n.expr true

def boundTrees : Grammar := Bound.trees <$> n.bound .declared

end Nested

end Stencil.Source
