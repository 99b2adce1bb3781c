import Stencil.Generation

/-! Generation for a whole file. -/
namespace Stencil

open Source

namespace SourceFile

/-- An impl block is marked by an attribute whose path ends in the marker's name. -/
def isMarked (block : Impl) : Bool :=
  block.attributes.any fun a => a.path.names.getLast? = some "named_formats"

def outcomesOf (owner : Owner) (options : Options) :
    List ImplItem → Except SourceError (List Outcome)
  | [] => .ok []
  | item :: rest => do
    let found ← Stub.inspect item
    let others ← outcomesOf owner options rest
    match found with
    | .skip => return others
    | .stub stub => return stub.bind owner options :: others
    | .rejected diagnostic => return .error diagnostic :: others

/-- The module path as text; none at the top of the file. -/
def spaceOf (modules : List String) : Option String :=
  let text := String.intercalate "::" modules
  if text.isEmpty then none else some text

mutual

def outcomesOfItem (options : Options) (modules : List String) :
    Item → Except SourceError (List Outcome)
  | .impl block =>
    if isMarked block then outcomesOf (.ofImpl block (spaceOf modules)) options block.items
    else .ok []
  | .module name items => outcomesOfItems options (modules ++ [name]) items
  | .other => .ok []

def outcomesOfItems (options : Options) (modules : List String) :
    List Item → Except SourceError (List Outcome)
  | [] => .ok []
  | item :: rest => do
    let first ← outcomesOfItem options modules item
    let others ← outcomesOfItems options modules rest
    return first ++ others

end

def generate (text : List Char) (options : Options) : Except SourceError Generation := do
  match readFile? text with
  | none => .error .malformed
  | some items => return .run options (← outcomesOfItems options [] items)

end SourceFile

end Stencil
