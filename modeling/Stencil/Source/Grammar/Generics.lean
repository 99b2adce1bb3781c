import Stencil.Source.Grammar.Type

/-! The grammar of generic parameters, where clauses and visibility. -/
namespace Stencil.Source.Grammar

open Stencil.Source.Parser

variable (n : Nested)

def itemParam : Parser GenericParam := do
  let attributes ← outerTrees n
  if ← peek (.keyword "_") then return ⟨false, attributes ++ (← keyword "_"), []⟩
  else paramAfter n attributes

def generics : Parser Generics := do
  if ← peek (.op "<") then
    let _ ← op "<"
    let (params, trailing) ← angled (itemParam n)
    let _ ← op ">"
    return ⟨params, trailing⟩
  else return .empty

def whereEnd : Peek := .any [.done, .brace, .op ",", .op ";", .opNot ":" ["::"], .op "="]

def predicate : Grammar := do
  if ← peek (.and .lifetime (.past 1 (.op ":"))) then
    seq [lifetime, op ":", summed whereEnd lifetime]
  else seq [binder? n, n.typeTrees, op ":", summed whereEnd n.boundTrees]

/-- A where clause, if there is one. Without predicates it is dropped. -/
def whereClause : Grammar := do
  if ← peek (.keyword "where") then
    let word ← keyword "where"
    if ← peek genericsStart then fail
    let step (state : Bool × List Tree) : Parser (Option (Bool × List Tree)) := do
      let (more, trees) := state
      if !more || (← peek whereEnd) then return none
      let found ← predicate n
      let comma ← op? ","
      return some (!comma.isEmpty, trees ++ found ++ comma)
    let (_, predicates) ← iterate step (true, [])
    return if predicates.isEmpty then [] else word ++ predicates
  else nothing

/-- A restriction in brackets after `pub`; brackets that hold something else are left. -/
def restriction : Grammar := fun ts =>
  match ts with
  | .group .paren [.word name pos] :: rest =>
    if ["crate", "self", "super"].contains name then some ([.parens [.word name pos]], rest)
    else some ([], ts)
  | .group .paren (.word "in" _ :: _) :: _ =>
    wrap .paren (seq [keyword "in", NamePath.trees <$> namePath]) ts
  | _ => some ([], ts)

def visibility : Grammar := when (.keyword "pub") (seq [keyword "pub", restriction])

end Stencil.Source.Grammar
