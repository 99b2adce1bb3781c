import Stencil.Generation
import Stencil.Marker

/-! The expansion of a marked impl block. -/
namespace Stencil

open Source

structure Expansion where
  /-- The block without its stubs. -/
  rest : Impl
  generation : Generation

namespace Expansion

/-- The block without its stubs, what is generated for them, and a call that fails to compile for
each that cannot be bound. -/
def trees (e : Expansion) : List Tree :=
  e.rest.trees ++ e.generation.units.flatMap CodeUnit.trees
    ++ e.generation.diagnostics.flatMap Diagnostic.compileError

structure Sorted where
  kept : List ImplItem
  outcomes : List Outcome

def sort (owner : Owner) (options : Options) : List ImplItem → Except SourceError Sorted
  | [] => .ok ⟨[], []⟩
  | item :: rest => do
    let found ← Stub.inspect item
    let others ← sort owner options rest
    match found with
    | .skip => return { others with kept := item :: others.kept }
    | .stub stub =>
      return { others with outcomes := stub.bind owner options :: others.outcomes }
    | .rejected diagnostic =>
      return { others with outcomes := .error diagnostic :: others.outcomes }

/-- The expansion of an impl block, which must not be that of a trait. -/
def ofImpl (block : Impl) (options : Options) : Except SourceError Expansion := do
  if !block.isInherent then throw .traitImpl
  let sorted ← sort (.ofImpl block none) options block.items
  return ⟨{ block with items := sorted.kept }, .run options sorted.outcomes⟩

/-- The trees that a marker with its arguments makes of an item, where the environment sets the
other options; whether code is generated unchecked is not for it to say. Both texts must be well
spelled before either is looked into. -/
def expand (unchecked : Bool) (arguments item : List Char)
    (environment : String → Option String) : Except SourceError (List Tree) := do
  match trees? arguments, trees? item with
  | some arguments, some item =>
    let marker := Marker.ofSettings (← Marker.settings arguments)
    match phrase? Grammar.implBlock item with
    | none => throw .malformed
    | some block =>
      return (← ofImpl block (marker.apply (.ofEnvironment environment unchecked))).trees
  | _, _ => throw .malformed

end Expansion

end Stencil
