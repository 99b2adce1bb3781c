import Stencil.Options
import Stencil.Owner
import Stencil.Stub
import Stencil.Template

/-! Methods: stubs whose template fits their signature. -/
namespace Stencil

structure Method extends Stub where
  owner : Owner

namespace Stub

/-- The first placeholder that is not named like its parameter, with that parameter's name. -/
def firstMismatch : List (List Char) → List Parameter → Option (List Char × String)
  | placeholder :: placeholders, param :: params =>
    if String.ofList (Text.trim placeholder) = param.name then firstMismatch placeholders params
    else some (placeholder, param.name)
  | _, _ => none

/-- The first problem of a stub: a blank template that has parameters to show, braces that do not
match, a wrong number of holes, and, if names are strict, a placeholder with a wrong name. -/
def problem? (s : Stub) (options : Options) : Option Problem :=
  let balance := Template.balance s.template
  if Template.isBlank s.template && 0 < s.params.length then some .templateEmpty
  else if !balance.wellFormed then some .templateMalformed
  else if balance.holes ≠ s.params.length then some (.holeCount balance.holes s.params.length)
  else if options.strictNames then
    (firstMismatch (Template.holeNames s.template) s.params).map fun (placeholder, name) =>
      .placeholderName placeholder name
  else none

def bind (s : Stub) (owner : Owner) (options : Options) : Except Diagnostic Method :=
  match s.problem? options with
  | some problem => .error ⟨problem, s.pos⟩
  | none => .ok { s with owner }

end Stub

end Stencil
