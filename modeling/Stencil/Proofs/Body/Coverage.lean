import Stencil.Body.Code
import Stencil.Proofs.Binding

/-! How far a body of writes gets in its template, and how it ends. -/
namespace Stencil

open Source (Tree)
open Template Code

namespace BufferWrites

/-- What every body begins with under the same options: its buffer and its cursor. -/
def opening (options : Options) : List Tree :=
  setup ⟨options.storage, options.unchecked, [], .written⟩

def finish (unchecked : Bool) : List Tree :=
  if unchecked then uncheckedBlock (code "__buf . finish_unchecked" ++ [.parens (code "__pos")])
  else code "__buf . finish" ++ [.parens (code "__pos")]

/-- One write for each segment: a literal writes itself, and a hole writes the parameter that has as
many others before it as the hole has. -/
structure Covers (segments : List Segment) (params : List Parameter) (writes : List Write) :
    Prop where
  length : writes.length = segments.length
  literal : ∀ (i : Nat) (text : List Char), segments[i]? = some (.literal text) →
    writes[i]? = some (literal text)
  hole : ∀ (i : Nat) (name : List Char), segments[i]? = some (.hole name) →
    ∃ p, params[holeCount (segments.take i)]? = some p ∧ writes[i]? = some (parameter p)

theorem covers_nil (params : List Parameter) : Covers [] params [] where
  length := rfl
  literal i text h := by simp at h
  hole i name h := by simp at h

theorem Covers.cons_literal {segments : List Segment} {params : List Parameter}
    {writes : List Write} (h : Covers segments params writes) (text : List Char) :
    Covers (.literal text :: segments) params (BufferWrites.literal text :: writes) where
  length := congrArg (· + 1) h.length
  literal i text' hi := by
    cases i with
    | zero =>
      cases hi
      rfl
    | succ i => exact h.literal i text' hi
  hole i name hi := by
    cases i with
    | zero => cases hi
    | succ i =>
      rw [List.take_succ_cons, holeCount_literal]
      exact h.hole i name hi

theorem Covers.cons_hole {segments : List Segment} {params : List Parameter}
    {writes : List Write} (h : Covers segments params writes) (name : List Char) (p : Parameter) :
    Covers (.hole name :: segments) (p :: params) (parameter p :: writes) where
  length := congrArg (· + 1) h.length
  literal i text hi := by
    cases i with
    | zero => cases hi
    | succ i => exact h.literal i text hi
  hole i name' hi := by
    cases i with
    | zero => exact ⟨p, rfl, rfl⟩
    | succ i =>
      rw [List.take_succ_cons, holeCount_hole]
      exact h.hole i name' hi

/-- The writes cover all segments, or those before the first hole without a parameter. -/
theorem ofSegments_cases (segments : List Segment) (params : List Parameter) :
    ((ofSegments segments params).2 = .written ∧ holeCount segments ≤ params.length ∧
      Covers segments params (ofSegments segments params).1) ∨
    ∃ done name rest, segments = done ++ .hole name :: rest ∧ params[holeCount done]? = none ∧
      (ofSegments segments params).2 = .fixed ∧
      Covers done params (ofSegments segments params).1 := by
  induction segments generalizing params with
  | nil => exact .inl ⟨rfl, Nat.zero_le _, covers_nil params⟩
  | cons segment segments ih =>
    cases segment with
    | literal text =>
      rcases ih params with ⟨hend, hle, hcovers⟩ | ⟨done, name, rest, rfl, hnone, hend, hcovers⟩
      · left
        rw [holeCount_literal]
        exact ⟨hend, hle, hcovers.cons_literal text⟩
      · right
        refine ⟨.literal text :: done, name, rest, rfl, ?_, hend, hcovers.cons_literal text⟩
        rw [holeCount_literal]
        exact hnone
    | hole name' =>
      cases params with
      | nil => exact .inr ⟨[], name', segments, rfl, rfl, rfl, covers_nil []⟩
      | cons p params =>
        rcases ih params with ⟨hend, hle, hcovers⟩ | ⟨done, name, rest, rfl, hnone, hend, hcovers⟩
        · left
          rw [holeCount_hole]
          exact ⟨hend, Nat.succ_le_succ hle, hcovers.cons_hole name' p⟩
        · right
          refine ⟨.hole name' :: done, name, rest, rfl, ?_, hend, hcovers.cons_hole name' p⟩
          rw [holeCount_hole]
          exact hnone

theorem ofSegments_fixed_iff {segments : List Segment} {params : List Parameter} :
    (ofSegments segments params).2 = .fixed ↔ params.length < holeCount segments := by
  rcases ofSegments_cases segments params with
    ⟨hend, hle, -⟩ | ⟨done, name, rest, rfl, hnone, hend, -⟩
  · rw [hend]
    simp [hle]
  · have hlen : params.length ≤ holeCount done := List.getElem?_eq_none_iff.mp hnone
    have hcount : holeCount (done ++ .hole name :: rest) =
        holeCount done + (holeCount rest + 1) := by
      rw [← holeCount_hole name]
      exact List.countP_append
    rw [hend, hcount]
    exact ⟨fun _ => by omega, fun _ => rfl⟩

theorem ofSegments_written {segments : List Segment} {params : List Parameter}
    (hholes : holeCount segments ≤ params.length) : (ofSegments segments params).2 = .written := by
  cases hend : (ofSegments segments params).2 with
  | written => rfl
  | fixed => exact absurd (ofSegments_fixed_iff.mp hend) (Nat.not_lt.mpr hholes)

end BufferWrites

end Stencil
