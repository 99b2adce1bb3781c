import Stencil.Source.Item
import Stencil.Text.Alphanumeric
import Stencil.Text.Blank

/-! The type that an impl block belongs to. -/
namespace Stencil

open Source

inductive OwnerKind where
  | value
  /-- A trait object. -/
  | reference
  deriving DecidableEq, Repr

structure Owner where
  /-- The modules around the type, with double colons between them. -/
  space : Option String
  name : String
  kind : OwnerKind
  generics : Generics
  whereClause : List Tree
  selfType : Ty

namespace Owner

/-- Two owners are the same when space and name are: their generics do not count. -/
def same (a b : Owner) : Bool := a.space = b.space && a.name = b.name

def qualifiedName (o : Owner) : String :=
  match o.space with
  | some space => space ++ "::" ++ o.name
  | none => o.name

def splitColons : List Char → List (List Char)
  | [] => [[]]
  | ':' :: ':' :: rest => [] :: splitColons rest
  | c :: rest =>
    match splitColons rest with
    | [] => [[c]]
    | part :: parts => (c :: part) :: parts

def spaceParts (text : String) : List String :=
  ((splitColons text.toList).filter (!·.isEmpty)).map String.ofList

def joinSpace (parts : List String) : Option String :=
  if parts.isEmpty then none else some (String.intercalate "::" parts)

/-- A name made of any text: blanks are dropped, and an underscore stands for each character that
is neither a letter nor a digit. -/
def nameOfText (text : String) : String :=
  String.ofList ((text.toList.filter (!Text.isBlank ·)).map fun c =>
    if Text.isAlphanumeric c then c else '_')

/-- The names along the path before the type's own, its own name, and its kind. -/
def describe : Ty → List String × String × OwnerKind
  | .path _ segments =>
    let names := segments.map Segment.name
    (names.dropLast, names.getLast?.getD "", .value)
  | .projection names _ => (names.dropLast, names.getLast?.getD "", .value)
  | .traitObject traits _ _ => ([], traits.head?.getD "dyn", .reference)
  | type => ([], nameOfText (render type.trees), .value)

def ofImpl (block : Impl) (module : Option String) : Owner :=
  let (outer, name, kind) := describe block.selfType
  { space := joinSpace ((module.map spaceParts).getD [] ++ outer)
    name, kind
    generics := block.generics
    whereClause := block.whereClause
    selfType := block.selfType }

def flatten : List Char → List Char
  | [] => []
  | ':' :: ':' :: rest => '_' :: flatten rest
  | c :: rest => c :: flatten rest

def fileName (o : Owner) : String :=
  let start :=
    match o.space with
    | some space => String.ofList (flatten space.toList) ++ "_"
    | none => ""
  start ++ o.name ++ "_NamedFormat.g.rs"

end Owner

end Stencil
