import Stencil.Body.Run
import Stencil.Proofs.Buffer.Tape

/-! What each statement of a generated body does to a frame, and the frames that a run of
statements reaches. -/
namespace Stencil

/-- What has a result after a change had one before it. -/
theorem exists_of_map_eq_ok {ε α β : Type} {e : Except ε α} {f : α → β} {b : β}
    (h : e.map f = .ok b) : ∃ a, e = .ok a ∧ f a = b := by
  cases e with
  | error err => cases h
  | ok a =>
    cases h
    exact ⟨a, rfl, rfl⟩

/-- Neither the buffer nor the cursor says what a payload stands for. -/
@[simp] theorem Payload.value_toCursor (payload : Payload) (f : Frame) (c : Cursor) :
    payload.value { f with toCursor := c } = payload.value f := by
  cases payload <;> rfl

namespace Statement

variable (env : Environment) (f : Frame)

theorem run_bind (view : View) (param : String) :
    (Statement.bind view param).run env f =
      (view.read (env param)).map fun text => { f with bound := Text.encode text } := by
  simp only [run]
  cases view.read (env param) <;> rfl

theorem run_ensure (payload : Payload) :
    (Statement.ensure payload).run env f =
      (f.buffer.grow (f.pos + (payload.value f).length)).map fun b => { f with buffer := b } := by
  simp only [run]
  cases f.buffer.grow (f.pos + (payload.value f).length) <;> rfl

theorem run_store (payload : Payload) :
    (Statement.store payload).run env f =
      (f.buffer.store f.pos (payload.value f)).map fun b => { f with buffer := b } := by
  simp only [run]
  cases f.buffer.store f.pos (payload.value f) <;> rfl

theorem run_format (param : String) :
    (Statement.format param).run env f =
      (f.toCursor.format (env param).writable).map fun written =>
        { f with toCursor := written.2 } := by
  simp only [run]
  cases f.toCursor.format (env param).writable <;> rfl

/-- A statement that stores does so inside the buffer. -/
def Inside (f : Frame) : Statement → Prop
  | .store payload => f.pos + (payload.value f).length ≤ f.buffer.size
  | _ => True

variable {f}

/-- Making room keeps what is written, and there is room for the payload then. -/
theorem run_ensure_ok {payload : Payload} {bytes : List UInt8} {g : Frame} (hf : f.Holds bytes)
    (hrun : (Statement.ensure payload).run env f = .ok g) :
    g.Holds bytes ∧ (Statement.store payload).Inside g ∧ payload.value g = payload.value f := by
  rw [run_ensure] at hrun
  obtain ⟨b, hgrow, rfl⟩ := exists_of_map_eq_ok hrun
  rw [Buffer.eq_reserve_of_grow hgrow]
  refine ⟨⟨hf.1, hf.2.trans (Buffer.slice_prefix_reserve _ _)⟩, ?_, payload.value_toCursor f _⟩
  simpa only [Inside, payload.value_toCursor] using Buffer.le_size_reserve _ f.buffer

/-- A payload that fits is stored behind what is written. -/
theorem exists_run_store {payload : Payload} {bytes : List UInt8} (hf : f.Holds bytes)
    (hfits : (Statement.store payload).Inside f) :
    ∃ g, (Statement.store payload).run env f = .ok g ∧ g.Holds bytes ∧
      bytes ++ payload.value f <+: g.buffer.slice ∧ payload.value g = payload.value f := by
  obtain ⟨hpos, hbytes⟩ := hf
  unfold Inside at hfits
  rw [hpos] at hfits
  obtain ⟨b, hstore, hwritten⟩ := Buffer.store_prefix hbytes hfits
  rw [← hpos] at hstore
  refine ⟨{ f with buffer := b }, ?_, ⟨hpos, (List.prefix_append _ _).trans hwritten⟩, hwritten,
    payload.value_toCursor f _⟩
  rw [run_store, hstore]
  rfl

/-- A run of statements from one frame comes to another, with the last of the statements left. -/
inductive Reaches (env : Environment) : Frame → List Statement → Frame → List Statement → Prop
  | here (f : Frame) (todo : List Statement) : Reaches env f todo f todo
  | step {s : Statement} {f g h : Frame} {rest todo : List Statement} (hrun : s.run env f = .ok g)
      (hrest : Reaches env g rest h todo) : Reaches env f (s :: rest) h todo

/-- A run ends in a frame that it reaches: with nothing left, or before a statement that breaks
off. -/
theorem reaches_runAll (f : Frame) (todo : List Statement) :
    ∃ rest, Reaches env f todo (runAll env f todo).2 rest ∧
      ((runAll env f todo).1 = none ↔ rest = []) := by
  induction todo generalizing f with
  | nil => exact ⟨[], .here f [], by simp [runAll]⟩
  | cons s todo ih =>
    cases hrun : s.run env f with
    | error panic =>
      simp only [runAll, hrun]
      exact ⟨s :: todo, .here f (s :: todo), by simp⟩
    | ok g =>
      simp only [runAll, hrun]
      obtain ⟨rest, hreaches, hnone⟩ := ih g
      exact ⟨rest, .step hrun hreaches, hnone⟩

/-- What a run comes to if the text before the cursor is taken at its end. -/
def outcome : Option Panic × Frame → Except Panic (List Char)
  | (none, f) => f.text
  | (some panic, _) => .error panic

end Statement

theorem BufferWrites.result_run {b : BufferWrites} {pool left : Pool} {buffer : Buffer}
    (env : Environment) (hbuffer : b.acquire pool = (.ok buffer, left))
    (hending : b.ending = .written) :
    (b.run pool env).result =
      Statement.outcome (Statement.runAll env { buffer } b.statements) := by
  simp only [run, hbuffer, hending]
  obtain ⟨panic?, f⟩ := Statement.runAll env { buffer } b.statements
  cases panic? <;> rfl

end Stencil
