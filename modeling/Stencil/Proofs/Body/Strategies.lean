import Stencil.Proofs.Body.Coverage
import Stencil.Proofs.Body.FormatString
import Stencil.Proofs.Body.Soundness
import Stencil.Proofs.Scratch

/-! Both strategies compute the text of a template with its parameters in the places of the
holes. -/
namespace Stencil

namespace Parameter

/-- The ways of writing a value that the two strategies take give the same text. -/
def Agrees (env : Environment) (p : Parameter) : Prop :=
  match p.rendering with
  | .plainText => (env p.name).display.toText = .ok (env p.name).text
  | .selfWriting => ∃ text, (env p.name).display.toText = .ok text ∧
      (env p.name).writable.Writes (Text.encode text)
  | .displayed | .debugged => True

/-- The memory that a parameter may take. A value that writes itself is offered tails that double
up to its length. -/
def footprint (env : Environment) (p : Parameter) : Nat :=
  let shown := Text.byteLength (p.showing env).pieces.flatten
  if p.rendering = .selfWriting then max (2 * shown) (env p.name).writable.lengthBound + 1
  else shown

end Parameter

namespace Template

/-- The literals of a template unchanged, and in the place of each hole the parameter whose turn it
is. The first parameter that breaks off breaks off the whole. -/
def filled (env : Environment) : List Segment → List Parameter → Except Panic (List Char)
  | [], _ | .hole _ :: _, [] => .ok []
  | .literal text :: segments, params => (filled env segments params).map (text ++ ·)
  | .hole _ :: segments, p :: params => do
    let text ← (p.showing env).toText
    let more ← filled env segments params
    return text ++ more

def footprint (env : Environment) : List Segment → List Parameter → Nat
  | [], _ | .hole _ :: _, [] => 0
  | .literal text :: segments, params => Text.byteLength text + footprint env segments params
  | .hole _ :: segments, p :: params => p.footprint env + footprint env segments params

variable {env : Environment}

theorem filled_hole_ok {p : Parameter} {text : List Char} (h : (p.showing env).toText = .ok text)
    (name : List Char) (segments : List Segment) (params : List Parameter) :
    filled env (.hole name :: segments) (p :: params) =
      (filled env segments params).map (text ++ ·) := by
  simp only [filled, h]
  cases filled env segments params <;> rfl

theorem filled_hole_error {p : Parameter} {panic : Panic}
    (h : (p.showing env).toText = .error panic) (name : List Char) (segments : List Segment)
    (params : List Parameter) :
    filled env (.hole name :: segments) (p :: params) = .error panic := by
  simp only [filled, h]
  rfl

end Template

theorem Parameter.shown_le_footprint (env : Environment) (p : Parameter) :
    Text.byteLength (p.showing env).pieces.flatten ≤ p.footprint env := by
  unfold footprint
  dsimp only
  split
  · omega
  · exact Nat.le_refl _

namespace FormatCall

open Scratch Template

variable {env : Environment}

theorem joined_chars (text : List Char) (rest : List Fragment) :
    joined ((text.map fun c => .literal [c]) ++ rest) = (joined rest).map (text ++ ·) := by
  induction text with
  | nil => exact (map_nil_append _).symm
  | cons c text ih =>
    rw [List.map_cons, List.cons_append, joined_cons_ok rfl, ih, map_append_append]
    rfl

theorem sizes_chars (text : List Char) (rest : List Fragment) :
    sizes ((text.map fun c => .literal [c]) ++ rest) = Text.byteLength text + sizes rest := by
  induction text with
  | nil => simp [Text.byteLength, Text.encode]
  | cons c text ih =>
    have hcons : Text.byteLength (c :: text) = Text.byteLength [c] + Text.byteLength text :=
      Text.byteLength_append [c] text
    rw [List.map_cons, List.cons_append, sizes, ih, hcons, Nat.add_assoc]
    rfl

/-- The fragments of a format call join to the filled template. -/
theorem joined_fragmentsOf (segments : List Segment) (params : List Parameter) :
    joined (fragmentsOf env segments params) = filled env segments params := by
  induction segments generalizing params with
  | nil => rfl
  | cons segment segments ih =>
    cases segment with
    | literal text => rw [fragmentsOf, filled, joined_chars, ih]
    | hole name =>
      cases params with
      | nil => rfl
      | cons p params =>
        rw [fragmentsOf, joined, filled, ih]
        rfl

theorem sizes_fragmentsOf_le (env : Environment) (segments : List Segment)
    (params : List Parameter) :
    sizes (fragmentsOf env segments params) ≤ footprint env segments params := by
  induction segments generalizing params with
  | nil => exact Nat.le_refl _
  | cons segment segments ih =>
    cases segment with
    | literal text =>
      rw [fragmentsOf, footprint, sizes_chars]
      exact Nat.add_le_add_left (ih params) _
    | hole name =>
      cases params with
      | nil => exact Nat.le_refl _
      | cons p params =>
        rw [fragmentsOf, footprint, sizes]
        exact Nat.add_le_add (p.shown_le_footprint env) (ih params)

end FormatCall

namespace Statement

variable {env : Environment} {f : Frame}

/-- The statements run to their end, whatever follows them, and leave bytes before the cursor. -/
def Leaves (env : Environment) (f : Frame) (statements : List Statement) (bytes : List UInt8) :
    Prop :=
  ∃ g : Frame, g.Holds bytes ∧ ∀ rest, runAll env f (statements ++ rest) = runAll env g rest

/-- Where memory is granted, a copy goes behind what is written. -/
theorem leaves_copy (payload : Payload) {bytes : List UInt8} (hf : f.Holds bytes)
    (hroom : bytes.length + (payload.value f).length ≤ Buffer.ample) :
    Leaves env f (Statement.copy payload) (bytes ++ payload.value f) := by
  have hgrow := Buffer.grow_of_le_ample hroom f.buffer
  rw [← hf.1] at hgrow
  obtain ⟨f₁, hensure⟩ : ∃ f₁, (Statement.ensure payload).run env f = .ok f₁ := by
    rw [run_ensure, hgrow]
    exact ⟨_, rfl⟩
  obtain ⟨hf₁, hfits, hvalue₁⟩ := run_ensure_ok env hf hensure
  obtain ⟨f₂, hstore, hf₂, hwritten, hvalue₂⟩ := exists_run_store env hf₁ hfits
  rw [hvalue₁] at hwritten hvalue₂
  refine ⟨{ f₂ with pos := f₂.pos + (payload.value f₂).length }, ⟨?_, hwritten⟩, fun rest => ?_⟩
  · rw [hf₂.1, hvalue₂, List.length_append]
  · simp only [copy, List.cons_append, runAll, hensure, hstore]
    rfl

/-- A value that can be read is bound and copied. -/
theorem leaves_bind (view : View) {param : String} {text before : List Char}
    (hread : view.read (env param) = .ok text) (hf : f.Holds (Text.encode before))
    (hroom : Text.byteLength before + Text.byteLength text ≤ Buffer.ample) :
    Leaves env f (.bind view param :: Statement.copy .bound) (Text.encode (before ++ text)) := by
  have hbound : Cursor.Holds { f with bound := Text.encode text }.toCursor (Text.encode before) :=
    hf
  have hcopy : Leaves env _ (Statement.copy .bound) _ := leaves_copy .bound hbound hroom
  obtain ⟨g, hg, hrun⟩ := hcopy
  refine ⟨g, by rw [Text.encode_append]; exact hg, fun rest => ?_⟩
  rw [← hrun, List.cons_append, runAll, run_bind, hread]
  rfl

theorem runAll_bind_error (view : View) {param : String} {panic : Panic}
    (hread : view.read (env param) = .error panic) (rest : List Statement) :
    runAll env f (.bind view param :: rest) = (some panic, f) := by
  rw [runAll, run_bind, hread]
  rfl

end Statement

theorem Showing.flatten_of_toText {s : Showing} {text : List Char} (h : s.toText = .ok text) :
    s.pieces.flatten = text := by
  rw [toText_eq] at h
  obtain ⟨done, hend, htext⟩ := exists_of_map_eq_ok h
  exact htext

namespace BufferWrites

open Template

variable {env : Environment} {f : Frame} {before : List Char}

/-- Where memory is granted, a literal goes behind the text that is there. -/
theorem leaves_literal (text : List Char) (hf : f.Holds (Text.encode before))
    (hroom : Text.byteLength before + Text.byteLength text ≤ Buffer.ample) :
    Statement.Leaves env f (literal text).statements (Text.encode (before ++ text)) := by
  rw [Text.encode_append]
  unfold literal
  split
  · next b hb =>
    unfold Text.byteLength at hroom
    rw [hb] at hroom ⊢
    exact Statement.leaves_copy (.byte b) hf hroom
  · exact Statement.leaves_copy (.bytes (Text.encode text)) hf hroom

/-- Where memory is granted, a parameter that shows itself goes behind the text that is there,
whichever way it is written. -/
theorem leaves_parameter {p : Parameter} (hagrees : p.Agrees env) {text : List Char}
    (htext : (p.showing env).toText = .ok text) (hf : f.Holds (Text.encode before))
    (hroom : Text.byteLength before + p.footprint env ≤ Buffer.ample) :
    Statement.Leaves env f (parameter p).statements (Text.encode (before ++ text)) := by
  have hlength := p.shown_le_footprint env
  rw [Showing.flatten_of_toText htext] at hlength
  have hroom' : Text.byteLength before + Text.byteLength text ≤ Buffer.ample := by omega
  obtain ⟨name, type, rendering⟩ := p
  cases rendering with
  | plainText =>
    have htext' : View.text.read (env name) = .ok text := by
      rw [← htext]
      exact hagrees.symm
    exact Statement.leaves_bind .text htext' hf hroom'
  | displayed => exact Statement.leaves_bind .display htext hf hroom'
  | debugged => exact Statement.leaves_bind .debug htext hf hroom'
  | selfWriting =>
    obtain ⟨text', htext', hwrites⟩ := hagrees
    obtain rfl : text' = text := Except.ok.inj (htext'.symm.trans htext)
    have hfootprint : Parameter.footprint env ⟨name, type, .selfWriting⟩ =
        max (2 * Text.byteLength text') (env name).writable.lengthBound + 1 := by
      rw [← Showing.flatten_of_toText htext]
      rfl
    rw [hfootprint] at hroom
    obtain ⟨c, hformat, hc⟩ := hf.format hwrites (by unfold Text.byteLength at hroom; omega)
    refine ⟨{ f with toCursor := c }, by rw [Text.encode_append]; exact hc, fun rest => ?_⟩
    show Statement.runAll env f (.format name :: rest) = _
    rw [Statement.runAll, Statement.run_format, hformat]
    rfl

/-- A parameter that breaks off does so before anything of it is written. -/
theorem runAll_parameter_error {p : Parameter} (hagrees : p.Agrees env) {panic : Panic}
    (htext : (p.showing env).toText = .error panic) (rest : List Statement) :
    Statement.runAll env f ((parameter p).statements ++ rest) = (some panic, f) := by
  obtain ⟨name, type, rendering⟩ := p
  cases rendering with
  | plainText => cases hagrees.symm.trans htext
  | displayed => exact Statement.runAll_bind_error .display htext _
  | debugged => exact Statement.runAll_bind_error .debug htext _
  | selfWriting =>
    obtain ⟨text, htext', -⟩ := hagrees
    cases htext'.symm.trans htext

/-- The writes of segments append the filled template. The induction is on the segments; the text
before the cursor carries it. -/
theorem outcome_runAll_ofSegments {segments : List Segment} {params : List Parameter}
    (hholes : holeCount segments ≤ params.length) (hagrees : ∀ p ∈ params, p.Agrees env)
    (hf : f.Holds (Text.encode before))
    (hroom : Text.byteLength before + footprint env segments params ≤ Buffer.ample) :
    Statement.outcome
        (Statement.runAll env f ((ofSegments segments params).1.flatMap Write.statements)) =
      (filled env segments params).map (before ++ ·) := by
  induction segments generalizing params before f with
  | nil =>
    simp only [filled, Except.map, List.append_nil]
    exact hf.text
  | cons segment segments ih =>
    -- what is left after a segment, once its text stands before the cursor
    have hnext {params : List Parameter} {text : List Char} {g : Frame}
        (hholes : holeCount segments ≤ params.length) (hagrees : ∀ p ∈ params, p.Agrees env)
        (hg : g.Holds (Text.encode (before ++ text)))
        (hroom : Text.byteLength before + Text.byteLength text + footprint env segments params ≤
          Buffer.ample) :
        Statement.outcome
            (Statement.runAll env g ((ofSegments segments params).1.flatMap Write.statements)) =
          ((filled env segments params).map (text ++ ·)).map (before ++ ·) := by
      rw [map_append_append]
      exact ih hholes hagrees hg (by rw [Text.byteLength_append]; exact hroom)
    cases segment with
    | literal text =>
      rw [holeCount_literal] at hholes
      rw [footprint, ← Nat.add_assoc] at hroom
      obtain ⟨g, hg, hrun⟩ := leaves_literal text hf (Nat.le_of_add_right_le hroom)
      rw [ofSegments, List.flatMap_cons, hrun, filled]
      exact hnext hholes hagrees hg hroom
    | hole name =>
      rw [holeCount_hole] at hholes
      cases params with
      | nil => cases hholes
      | cons p params =>
        rw [List.forall_mem_cons] at hagrees
        rw [footprint, ← Nat.add_assoc] at hroom
        rw [ofSegments, List.flatMap_cons]
        cases htext : (p.showing env).toText with
        | error panic =>
          rw [runAll_parameter_error hagrees.1 htext, filled_hole_error htext]
          rfl
        | ok text =>
          obtain ⟨g, hg, hrun⟩ := leaves_parameter hagrees.1 htext hf
            (Nat.le_of_add_right_le hroom)
          have hlength := p.shown_le_footprint env
          rw [Showing.flatten_of_toText htext] at hlength
          rw [hrun, filled_hole_ok htext]
          exact hnext (Nat.le_of_succ_le_succ hholes) hagrees.2 hg (by omega)

/-- A buffer is granted if the size that is asked for is one that a buffer can have. -/
theorem exists_acquire {b : BufferWrites} (pool : Pool)
    (hsize : ∀ size, b.storage = .pooled size → size ≤ Buffer.maxBytes) :
    ∃ buffer left, b.acquire pool = (.ok buffer, left) := by
  unfold acquire
  split
  · exact ⟨_, _, rfl⟩
  · next size hstorage =>
    rw [Pool.lend, if_neg (Nat.not_lt.mpr (hsize size hstorage))]
    exact ⟨_, _, rfl⟩

/-- A body whose template is read to its end gives the filled template, whatever buffer it gets. -/
theorem result_run_ofTemplate {template : List Char} {params : List Parameter} {options : Options}
    (pool : Pool) (hfault : (read template).fault = none)
    (hholes : holeCount (read template).segments ≤ params.length)
    (hagrees : ∀ p ∈ params, p.Agrees env)
    (hsize : ∀ size, options.bufferSize = some size → size ≤ Buffer.maxBytes)
    (hroom : footprint env (read template).segments params ≤ Buffer.ample) :
    ((ofTemplate template params options).run pool env).result =
      filled env (read template).segments params := by
  have hstorage : ∀ size, (ofTemplate template params options).storage = .pooled size →
      size ≤ Buffer.maxBytes := by
    intro size hpooled
    refine hsize size ?_
    simp only [ofTemplate, Options.storage] at hpooled
    split at hpooled
    · split at hpooled
      · cases hpooled
        assumption
      · cases hpooled
    · cases hpooled
  obtain ⟨buffer, left, hbuffer⟩ := exists_acquire pool hstorage
  have hstart : Cursor.Holds ({ buffer } : Frame).toCursor (Text.encode []) :=
    Cursor.holds_nil buffer
  have hrun := outcome_runAll_ofSegments hholes hagrees hstart
    (by simpa [Text.byteLength, Text.encode] using hroom)
  have hending : (ofTemplate template params options).ending = .written := by
    simp [ofTemplate, hfault, ofSegments_written hholes]
  rw [map_nil_append] at hrun
  rw [result_run env hbuffer hending]
  exact hrun

end BufferWrites

def Method.filled (env : Environment) (m : Method) : Except Panic (List Char) :=
  Template.filled env (Template.read m.template).segments m.params

/-- Whatever the strategy, the options and the buffers in the pool are: where the braces of the
template are well formed, each of its holes has a parameter, and the names of the parameters stay
distinct inside a format, the body gives the filled template. Values are trusted to look the same
in each way of writing them, and memory for the text is granted. -/
theorem Method.run?_body (m : Method) (strategy : Strategy) (options : Options) (pool : Pool)
    (env : Environment) (hwell : (Template.balance m.template).wellFormed = true)
    (hholes : (Template.balance m.template).holes ≤ m.params.length)
    (hnames : (m.params.map fun p => FormatCall.argumentName p.name).Nodup)
    (hnamed : ∀ p ∈ m.params, p.Named) (hagrees : ∀ p ∈ m.params, p.Agrees env)
    (hsize : ∀ size, options.bufferSize = some size → size ≤ Buffer.maxBytes)
    (hroom : Template.footprint env (Template.read m.template).segments m.params ≤
      Buffer.ample) :
    ∃ left, (m.body strategy options).run? pool env = some ⟨m.filled env, left⟩ := by
  rw [Template.balance_eq_verdict] at hwell hholes
  have hfault : (Template.read m.template).fault = none := by
    simpa [Template.Reading.verdict] using hwell
  have hcount : Template.holeCount (Template.read m.template).segments ≤ m.params.length :=
    Nat.le_of_add_right_le hholes
  cases strategy with
  | formatCall =>
    refine ⟨pool, ?_⟩
    have hfragments := FormatCall.sizes_fragmentsOf_le env
      (Template.read m.template).segments m.params
    have hrun := FormatCall.run?_fill env hfault hcount hnames hnamed
    rw [Scratch.format_eq_joined _ (Nat.le_trans hfragments hroom),
      FormatCall.joined_fragmentsOf] at hrun
    simp only [body, Body.run?, hrun]
    rfl
  | bufferWrites =>
    refine ⟨((BufferWrites.ofTemplate m.template m.params options).run pool env).pool, ?_⟩
    have hresult := BufferWrites.result_run_ofTemplate pool hfault hcount hagrees hsize hroom
    simp only [body, Body.run?, filled, ← hresult]

/-- A raw name, a value that writes itself, one in its debug form, and a rented buffer that holds
bytes of an earlier text. -/
theorem Method.run?_body_rented :
    let m := Method.ofTemplate
      ['é', '\x7b', '\x7d', '-', '\x7b', 'n', '\x7d', '\x7b', 'v', '\x7d']
      [⟨"r#type", .other [], .plainText⟩, ⟨"n", .other [], .selfWriting⟩,
        ⟨"v", .other [], .debugged⟩]
    let options : Options := { unchecked := true, bufferSize := some 200 }
    let pool : Pool := { free := [[0xff, 0x41]] }
    let env : Environment := fun name =>
      .ofForms (if name = "n" then ['7'] else ['ü']) ['<', 'v', '>']
    ∀ strategy, ∃ left, (m.body strategy options).run? pool env =
      some ⟨.ok ['é', 'ü', '-', '7', '<', 'v', '>'], left⟩ := by
  intro m options pool env strategy
  have hread : Template.read m.template = ⟨[.literal ['é'], .hole [], .literal ['-'], .hole ['n'],
    .hole ['v']], none⟩ := by cbv
  have hfilled : m.filled env = .ok ['é', 'ü', '-', '7', '<', 'v', '>'] := by
    unfold Method.filled
    rw [hread]
    rfl
  have hnamed : ∀ p ∈ m.params, p.Named := by
    unfold Parameter.Named
    decide +kernel
  have hagrees : ∀ p ∈ m.params, p.Agrees env := by
    intro p hp
    simp only [m, ofTemplate, List.mem_cons, List.not_mem_nil, or_false] at hp
    rcases hp with rfl | rfl | rfl
    · rfl
    · exact ⟨['7'], rfl, Writable.writes_ofBytes (.inr (by decide))⟩
    · trivial
  have hbind : m.toStub.bind m.owner options = .ok m := rfl
  obtain ⟨hwell, hholes⟩ := Stub.fits_of_bind hbind
  rw [← hfilled]
  refine Method.run?_body m strategy options pool env hwell hholes (by decide +kernel) hnamed
    hagrees ?_ ?_
  · rintro size ⟨⟩
    decide
  · rw [hread]
    decide +kernel

end Stencil
