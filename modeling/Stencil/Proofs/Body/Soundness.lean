import Stencil.Proofs.Body.Statement
import Stencil.Proofs.Buffer.Format

/-! Generated bodies write inside their buffer, and at every statement text stands before the
cursor. -/
namespace Stencil

namespace Cursor

/-- The cursor stands inside the buffer, and the bytes before it are text. -/
structure Sound (c : Cursor) : Prop where
  inside : c.pos ≤ c.buffer.size
  valid : Text.Valid (c.buffer.slice.take c.pos)

theorem Holds.sound {c : Cursor} {bytes : List UInt8} (h : c.Holds bytes)
    (hbytes : Text.Valid bytes) : c.Sound where
  inside := h.pos_le
  valid := by
    rw [h.take_eq]
    exact hbytes

theorem Sound.holds {c : Cursor} (h : c.Sound) : c.Holds (c.buffer.slice.take c.pos) := by
  constructor
  · have hinside := h.inside
    rw [List.length_take]
    unfold Buffer.size at hinside
    omega
  · exact List.take_prefix _ _

/-- An honest value keeps a cursor sound when it writes itself there. -/
theorem Sound.format {c : Cursor} (h : c.Sound) {w : Writable} (hw : w.Honest)
    {written : Nat × Cursor} (hwrite : c.format w = .ok written) : written.2.Sound := by
  obtain ⟨hpos, hbytes⟩ := h.holds
  obtain ⟨⟨n, b⟩, hat, hok⟩ := Panic.exists_of_bind hwrite
  cases hok
  have hoffers := Buffer.offers_writeAt c.pos w c.buffer
  obtain ⟨more, hmore, hlength, hlanded⟩ := hoffers.honest hw hat
  rw [hpos] at hlanded
  refine Holds.sound ⟨?_, hlanded.append_prefix hbytes⟩ (h.valid.append hmore)
  rw [List.length_append, ← hpos, hlength]

/-- What is taken as text without a check is what a check would have found. -/
theorem Sound.text {c : Cursor} (h : c.Sound) :
    ∃ text, c.text = .ok text ∧ Text.encode text = c.buffer.slice.take c.pos := by
  obtain ⟨text, htext⟩ := h.valid
  have hholds := h.holds
  rw [← htext] at hholds
  exact ⟨text, hholds.text, htext⟩

end Cursor

namespace Statement

/-- Every frame that the statements reach is sound, and what is stored next fits into it. -/
def Guarded (env : Environment) (f : Frame) (todo : List Statement) : Prop :=
  ∀ g rest, Reaches env f todo g rest → g.Sound ∧ ∀ s ∈ rest.head?, s.Inside g

variable {env : Environment} {f : Frame} {rest : List Statement}

theorem guarded_nil (hf : f.Sound) : Guarded env f [] := by
  intro g todo hreaches
  cases hreaches with
  | here => exact ⟨hf, by simp⟩

theorem guarded_cons {s : Statement} (hf : f.Sound) (hs : s.Inside f)
    (hrest : ∀ g, s.run env f = .ok g → Guarded env g rest) : Guarded env f (s :: rest) := by
  intro g todo hreaches
  cases hreaches with
  | here => exact ⟨hf, by simpa using hs⟩
  | step hrun hreaches => exact hrest _ hrun _ _ hreaches

/-- A copy of text is guarded: room is made for all of it, it is stored there, and only then does
the cursor move behind it. -/
theorem guarded_copy {payload : Payload} (hf : f.Sound) (hp : Text.Valid (payload.value f))
    (hrest : ∀ g : Frame, g.Sound → Guarded env g rest) :
    Guarded env f (Statement.copy payload ++ rest) := by
  refine guarded_cons hf trivial fun f₁ hensure => ?_
  obtain ⟨hf₁, hfits, hvalue₁⟩ := run_ensure_ok env hf.holds hensure
  refine guarded_cons (hf₁.sound hf.valid) hfits fun g hstore => ?_
  obtain ⟨f₂, hstored, hf₂, hwritten, hvalue₂⟩ := exists_run_store env hf₁ hfits
  cases hstored.symm.trans hstore
  refine guarded_cons (hf₂.sound hf.valid) trivial fun f₃ hadvance => ?_
  cases hadvance
  rw [hvalue₁] at hwritten hvalue₂
  refine hrest _ (Cursor.Holds.sound ⟨?_, hwritten⟩ (hf.valid.append hp))
  rw [List.length_append, ← hf₂.1, hvalue₂]

/-- An honest value that writes itself is guarded. -/
theorem guarded_format {param : String} (hf : f.Sound) (hw : (env param).writable.Honest)
    (hrest : ∀ g : Frame, g.Sound → Guarded env g rest) :
    Guarded env f (.format param :: rest) := by
  refine guarded_cons hf trivial fun g hrun => hrest g ?_
  rw [run_format] at hrun
  obtain ⟨written, hwrite, rfl⟩ := exists_of_map_eq_ok hrun
  exact hf.format hw hwrite

/-- The text of a parameter is copied once it is bound. -/
theorem guarded_bind (view : View) (param : String) (hf : f.Sound)
    (hrest : ∀ g : Frame, g.Sound → Guarded env g rest) :
    Guarded env f (.bind view param :: (Statement.copy .bound ++ rest)) := by
  refine guarded_cons hf trivial fun g hrun => ?_
  rw [run_bind] at hrun
  obtain ⟨text, hread, rfl⟩ := exists_of_map_eq_ok hrun
  exact guarded_copy hf (Text.valid_encode text) hrest

end Statement

namespace Write

/-- What is written is text, as far as the step itself decides it. -/
def Textual (env : Environment) : Write → Prop
  | .byte b => Text.Valid [b]
  | .bytes bs => Text.Valid bs
  | .value rendering param => rendering = .selfWriting → (env param).writable.Honest

variable {env : Environment}

theorem guarded_statements {w : Write} (hw : w.Textual env) {f : Frame} (hf : f.Sound)
    {rest : List Statement} (hrest : ∀ g : Frame, g.Sound → Statement.Guarded env g rest) :
    Statement.Guarded env f (w.statements ++ rest) := by
  cases w with
  | byte b => exact Statement.guarded_copy hf hw hrest
  | bytes bs => exact Statement.guarded_copy hf hw hrest
  | value rendering param =>
    cases rendering with
    | plainText => exact Statement.guarded_bind .text param hf hrest
    | selfWriting => exact Statement.guarded_format hf (hw rfl) hrest
    | displayed => exact Statement.guarded_bind .display param hf hrest
    | debugged => exact Statement.guarded_bind .debug param hf hrest

/-- Steps that write text are guarded one after the other. -/
theorem guarded_writes {writes : List Write} (hwrites : ∀ w ∈ writes, w.Textual env) {f : Frame}
    (hf : f.Sound) : Statement.Guarded env f (writes.flatMap statements) := by
  induction writes generalizing f with
  | nil => exact Statement.guarded_nil hf
  | cons w writes ih =>
    rw [List.forall_mem_cons] at hwrites
    rw [List.flatMap_cons]
    exact guarded_statements hwrites.1 hf fun g hg => ih hwrites.2 hg

end Write

namespace BufferWrites

/-- A literal of one byte is one character, since it is stored as it is encoded. -/
theorem textual_literal (env : Environment) (text : List Char) : (literal text).Textual env := by
  unfold literal
  split
  · next b hb => exact ⟨text, hb⟩
  · exact Text.valid_encode text

theorem textual_ofSegments {env : Environment} (segments : List Template.Segment)
    {params : List Parameter}
    (honest : ∀ p ∈ params, p.rendering = .selfWriting → (env p.name).writable.Honest) :
    ∀ w ∈ (ofSegments segments params).1, w.Textual env := by
  induction segments generalizing params with
  | nil => simp [ofSegments]
  | cons segment segments ih =>
    cases segment with
    | literal text =>
      rw [ofSegments, List.forall_mem_cons]
      exact ⟨textual_literal env text, ih honest⟩
    | hole name =>
      cases params with
      | nil => simp [ofSegments]
      | cons p params =>
        rw [List.forall_mem_cons] at honest
        rw [ofSegments, List.forall_mem_cons]
        exact ⟨honest.1, ih honest.2⟩

/-- A body that gives what it has written gives the text before the cursor of its last frame. -/
theorem exists_last_of_run {b : BufferWrites} {pool left : Pool} {env : Environment}
    {buffer : Buffer} {text : List Char} (hbuffer : b.acquire pool = (.ok buffer, left))
    (hending : b.ending = .written) (hresult : (b.run pool env).result = .ok text) :
    ∃ f, Statement.Reaches env { buffer } b.statements f [] ∧ f.text = .ok text := by
  obtain ⟨rest, hreaches, hnone⟩ := Statement.reaches_runAll env { buffer } b.statements
  rw [result_run env hbuffer hending] at hresult
  generalize Statement.runAll env { buffer } b.statements = last at hreaches hnone hresult
  obtain ⟨panic?, f⟩ := last
  cases panic? with
  | some panic => cases hresult
  | none =>
    rw [hnone.mp rfl] at hreaches
    exact ⟨f, hreaches, hresult⟩

end BufferWrites

/-- Whatever the template and the parameters are, and whether or not bounds are checked: before
each statement that a generated body comes to, the cursor stands inside the buffer with text before
it, and a store that is next fits into the buffer. What the body gives in the end is the text whose
bytes stand before the cursor then. Values that write themselves are trusted to report truly. -/
theorem Method.body_reaches_sound (m : Method) (options : Options) (env : Environment) (pool : Pool)
    (honest : ∀ p ∈ m.params, p.rendering = .selfWriting → (env p.name).writable.Honest)
    {b : BufferWrites} (hbody : m.body .bufferWrites options = .bufferWrites b)
    {buffer : Buffer} {left : Pool} (hbuffer : b.acquire pool = (.ok buffer, left)) :
    (∀ f rest, Statement.Reaches env { buffer } b.statements f rest →
      f.pos ≤ f.buffer.size ∧ Text.Valid (f.buffer.slice.take f.pos) ∧
        ∀ payload, rest.head? = some (.store payload) →
          f.pos + (payload.value f).length ≤ f.buffer.size) ∧
    (∀ text, b.ending = .written → (b.run pool env).result = .ok text →
      ∃ f, Statement.Reaches env { buffer } b.statements f [] ∧
        Text.encode text = f.buffer.slice.take f.pos) := by
  cases hbody
  have htextual := BufferWrites.textual_ofSegments (Template.read m.template).segments honest
  have hstart : Cursor.Sound ⟨buffer, 0⟩ := (Cursor.holds_nil buffer).sound Text.valid_nil
  have hguarded := Write.guarded_writes htextual (f := { buffer }) hstart
  constructor
  · intro f rest hreaches
    obtain ⟨hf, hinside⟩ := hguarded f rest hreaches
    exact ⟨hf.inside, hf.valid, fun payload hnext => hinside _ hnext⟩
  · intro text hending hresult
    obtain ⟨f, hreaches, htext⟩ := BufferWrites.exists_last_of_run hbuffer hending hresult
    obtain ⟨text', htext', hencode⟩ := (hguarded f [] hreaches).1.text
    obtain rfl : text' = text := Except.ok.inj (htext'.symm.trans htext)
    exact ⟨f, hreaches, hencode⟩

def Method.ofTemplate (template : List Char) (params : List Parameter) : Method where
  attributes := []
  visibility := []
  signature :=
    { qualifiers := []
      name := "sample"
      pos := .start
      generics := .empty
      inputs := []
      trailing := false
      variadic := []
      output := none
      whereClause := [] }
  params
  template
  owner :=
    { space := none
      name := "Sample"
      kind := .value
      generics := .empty
      whereClause := []
      selfType := .path false [.plain "Sample"] }

/-- The second hole is not closed and has no parameter. -/
theorem Method.body_reaches_sound_unclosed :
    let m := Method.ofTemplate ['é', '\x7b', 'a', '\x7d', '-', '\x7b', 'b']
      [⟨"a", .other [], .selfWriting⟩]
    let env : Environment := fun _ => .ofText ['ü', '1']
    ∃ b buffer, m.body .bufferWrites { unchecked := true } = .bufferWrites b ∧
      b.acquire {} = (.ok buffer, {}) ∧
      ∀ f rest, Statement.Reaches env { buffer } b.statements f rest →
        f.pos ≤ f.buffer.size ∧ Text.Valid (f.buffer.slice.take f.pos) ∧
          ∀ payload, rest.head? = some (.store payload) →
            f.pos + (payload.value f).length ≤ f.buffer.size := by
  intro m env
  have honest : ∀ p ∈ m.params, p.rendering = .selfWriting → (env p.name).writable.Honest := by
    intro p hp hrendering
    exact (Writable.writes_ofBytes (.inr (by decide))).honest
  exact ⟨_, _, rfl, rfl, (Method.body_reaches_sound m _ env {} honest rfl rfl).1⟩

end Stencil
