import Stencil.Proofs.Body.Coverage
import Stencil.Proofs.Body.FormatString
import Stencil.Proofs.Body.Soundness
import Stencil.Proofs.Template.Segmentation

/-! What is left of the names in the holes of a template: parameters are put in by their positions
alone. -/
namespace Stencil

namespace Template

/-- Segments that differ at most in the texts inside their holes. -/
inductive Alike : List Segment → List Segment → Prop where
  | nil : Alike [] []
  | literal (text : List Char) {segments others : List Segment} (h : Alike segments others) :
      Alike (.literal text :: segments) (.literal text :: others)
  | hole (name name' : List Char) {segments others : List Segment} (h : Alike segments others) :
      Alike (.hole name :: segments) (.hole name' :: others)

def namesOf (segments : List Segment) : List (List Char) := segments.filterMap Segment.holeName?

namespace Alike

variable {segments others : List Segment}

theorem length_namesOf (h : Alike segments others) :
    (namesOf segments).length = (namesOf others).length := by
  induction h with
  | nil => rfl
  | literal text h ih => exact ih
  | hole name name' h ih => exact congrArg (· + 1) ih

/-- The texts inside the holes are all that may differ. -/
theorem eq_iff (h : Alike segments others) :
    segments = others ↔ namesOf segments = namesOf others := by
  refine ⟨congrArg namesOf, fun hnames => ?_⟩
  induction h with
  | nil => rfl
  | literal text h ih => rw [ih hnames]
  | hole name name' h ih =>
    obtain ⟨hname, hrest⟩ := List.cons.inj hnames
    rw [hname, ih hrest]

theorem ofSegments_eq (h : Alike segments others) (params : List Parameter) :
    BufferWrites.ofSegments segments params = BufferWrites.ofSegments others params := by
  induction h generalizing params with
  | nil => rfl
  | literal text h ih => simp only [BufferWrites.ofSegments, ih params]
  | hole name name' h ih =>
    cases params with
    | nil => rfl
    | cons p params => simp only [BufferWrites.ofSegments, ih params]

end Alike

theorem Canonical.eq_of_render_eq {segments others : List Segment} (h : Canonical segments)
    (h' : Canonical others) (heq : render segments = render others) : segments = others := by
  have hread := (h.reads_render 0).eq_reading
  have hread' := (h'.reads_render 0).eq_reading
  rw [heq, hread'] at hread
  exact congrArg Reading.segments hread.symm

/-- A template with well-formed braces is made up of its segments. -/
theorem render_segments {s : List Char} (hwell : (balance s).wellFormed = true) :
    render (read s).segments = s ∧ Canonical (read s).segments := by
  have hreads : Reads s 0 (read s) := reads_reading (start s)
  obtain ⟨rest, hs, hrest⟩ := hreads.exists_remains
  rw [wellFormed_iff.mp hwell] at hrest
  cases hrest
  rw [List.append_nil] at hs
  exact ⟨hs.symm, hreads.canonical⟩

end Template

open Template

namespace FormatCall

theorem escape_inj {text text' : List Char} : escape text = escape text' ↔ text = text' := by
  refine ⟨fun heq => ?_, congrArg escape⟩
  have hitems := items?_escape text []
  rw [heq, items?_escape, Option.some.injEq] at hitems
  exact (List.map_inj_right fun _ _ => Item.char.inj).mp hitems.symm

theorem mk_append_inj (format : List Char) (args : List (String × String)) {c c' : FormatCall} :
    (⟨format ++ c.format, args ++ c.args⟩ : FormatCall) =
      ⟨format ++ c'.format, args ++ c'.args⟩ ↔ c = c' := by
  obtain ⟨_, _⟩ := c
  obtain ⟨_, _⟩ := c'
  simp

/-- Alike templates make the same call just if they agree in the names of the holes that no
parameter is left for. -/
theorem fill_render_eq_iff {segments others : List Segment} (h : Alike segments others)
    (hs : Canonical segments) (ho : Canonical others) (params : List Parameter) :
    fill params (render segments) = fill params (render others) ↔
      (namesOf segments).drop params.length = (namesOf others).drop params.length := by
  induction h generalizing params with
  | nil => simp
  | @literal text segments others h ih =>
    obtain ⟨-, hp, -, hs⟩ := canonical_cons.mp hs
    obtain ⟨-, -, -, ho⟩ := canonical_cons.mp ho
    have hp : Plain text := hp
    rw [render_cons, render_cons, Segment.source, fill_plain hp, fill_plain hp]
    exact (mk_append_inj text []).trans (ih hs ho params)
  | @hole name name' segments others h ih =>
    cases params with
    | nil =>
      have hrender : render (.hole name :: segments) = render (.hole name' :: others) ↔
          Segment.hole name :: segments = .hole name' :: others :=
        ⟨hs.eq_of_render_eq ho, congrArg render⟩
      simp only [fill, FormatCall.mk.injEq, and_true, escape_inj, hrender]
      exact (Alike.hole name name' h).eq_iff
    | cons p params =>
      obtain ⟨-, hp, -, hs⟩ := canonical_cons.mp hs
      obtain ⟨-, hp', -, ho⟩ := canonical_cons.mp ho
      have hfill (name : List Char) (hp : Plain name) (segments : List Segment) :
          fill (p :: params) (render (.hole name :: segments)) =
            ⟨placeholder p ++ (fill params (render segments)).format,
              [(argumentName p.name, p.name)] ++ (fill params (render segments)).args⟩ := by
        simpa [render_cons, Segment.source] using fill_hole hp p params (render segments)
      rw [hfill name hp, hfill name' hp']
      exact (mk_append_inj _ _).trans (ih hs ho params)

end FormatCall

/-- Bodies of writes do not depend on the texts inside the holes at all. -/
theorem BufferWrites.ofTemplate_eq {template other : List Char} (params : List Parameter)
    (options : Options) (hwell : (balance template).wellFormed = true)
    (hother : (balance other).wellFormed = true)
    (halike : Alike (read template).segments (read other).segments) :
    ofTemplate template params options = ofTemplate other params options := by
  have hfault : (read template).fault = (read other).fault := by
    rw [wellFormed_iff.mp hwell, wellFormed_iff.mp hother]
  simp only [ofTemplate, halike.ofSegments_eq, hfault]

/-- A template without holes is the only one of its kind. -/
theorem Template.eq_of_alike {template other : List Char}
    (hwell : (balance template).wellFormed = true) (hother : (balance other).wellFormed = true)
    (halike : Alike (read template).segments (read other).segments)
    (hnone : (balance template).holes = 0) : other = template := by
  have hlength := halike.length_namesOf
  have hnames : namesOf (read template).segments = [] := by
    rw [holes_eq_length hwell] at hnone
    exact List.length_eq_zero_iff.mp hnone
  rw [hnames] at hlength
  have hnames' : namesOf (read other).segments = [] := List.length_eq_zero_iff.mp hlength.symm
  have heq := halike.eq_iff.mpr (hnames.trans hnames'.symm)
  rw [← (render_segments hwell).1, ← (render_segments hother).1, heq]

/-- Where names are not strict, the texts inside the holes are no reason for a problem. -/
theorem Stub.problem?_withTemplate (s : Stub) (other : List Char) {options : Options}
    (hstrict : options.strictNames = false) (hwell : (balance s.template).wellFormed = true)
    (hother : (balance other).wellFormed = true)
    (halike : Alike (read s.template).segments (read other).segments) :
    ({ s with template := other } : Stub).problem? options = s.problem? options := by
  have hholes : (balance other).holes = (balance s.template).holes := by
    rw [holes_eq_length hother, holes_eq_length hwell]
    exact halike.length_namesOf.symm
  by_cases hnone : (balance s.template).holes = 0
  · rw [eq_of_alike hwell hother halike hnone]
  · have hblank (template : List Char) (h : (balance template).holes ≠ 0) :
        isBlank template = false := by
      cases hblank : isBlank template with
      | false => rfl
      | true => exact absurd (congrArg Balance.holes (balance_of_isBlank hblank)) h
    have hshows := hblank s.template hnone
    have hshows' := hblank other (hholes ▸ hnone)
    simp [problem?, hshows, hshows', hwell, hother, hholes, hstrict]

/-- Parameters are put in by position. For two methods whose templates are well formed and differ at
most in the texts inside their holes, the writes are the same, and so is the call of the formatter
and its code unless they differ in a hole that no parameter is left for, whose text it keeps. Where
each hole has a parameter, the bodies are the same code. Where names are not strict, binding gives
the same answer for both. -/
theorem Method.body_independent_of_holeNames (m : Method) (other : List Char)
    (hwell : (balance m.template).wellFormed = true) (hother : (balance other).wellFormed = true)
    (halike : Alike (read m.template).segments (read other).segments) :
    let m' : Method := { m with template := other }
    (∀ options, m.body .bufferWrites options = m'.body .bufferWrites options) ∧
    (∀ options, m.body .formatCall options = m'.body .formatCall options ↔
      (holeNames m.template).drop m.params.length = (holeNames other).drop m.params.length) ∧
    (∀ options, (m.body .formatCall options).trees = (m'.body .formatCall options).trees ↔
      (holeNames m.template).drop m.params.length = (holeNames other).drop m.params.length) ∧
    ((balance m.template).holes ≤ m.params.length → ∀ strategy options,
      (m.body strategy options).trees = (m'.body strategy options).trees) ∧
    ∀ owner options, options.strictNames = false →
      m'.toStub.bind owner options =
        (m.toStub.bind owner options).map fun bound => { bound with template := other } := by
  intro m'
  have hwrites : ∀ options, m.body .bufferWrites options = m'.body .bufferWrites options :=
    fun options => congrArg Body.bufferWrites
      (BufferWrites.ofTemplate_eq m.params options hwell hother halike)
  have hcall : ∀ options, m.body .formatCall options = m'.body .formatCall options ↔
      (holeNames m.template).drop m.params.length =
        (holeNames other).drop m.params.length := by
    intro options
    obtain ⟨hrender, hcanonical⟩ := render_segments hwell
    obtain ⟨hrender', hcanonical'⟩ := render_segments hother
    have hfill := FormatCall.fill_render_eq_iff halike hcanonical hcanonical' m.params
    rw [hrender, hrender'] at hfill
    simp only [body, Body.formatCall.injEq]
    exact hfill
  refine ⟨hwrites, hcall, ?_, ?_, ?_⟩
  · intro options
    rw [← hcall options, body, body, Body.formatCall.injEq]
    exact FormatCall.trees_inj
  · intro hfits strategy options
    cases strategy with
    | bufferWrites => rw [hwrites]
    | formatCall =>
      have hlength : (holeNames m.template).length = (holeNames other).length :=
        halike.length_namesOf
      rw [holes_eq_length hwell] at hfits
      have hdrop : (holeNames m.template).drop m.params.length = [] :=
        List.drop_eq_nil_of_le hfits
      have hdrop' : (holeNames other).drop m.params.length = [] :=
        List.drop_eq_nil_of_le (hlength ▸ hfits)
      rw [(hcall options).mpr (hdrop.trans hdrop'.symm)]
  · intro owner options hstrict
    have hproblem : m'.toStub.problem? options = m.toStub.problem? options :=
      m.toStub.problem?_withTemplate other hstrict hwell hother halike
    unfold Stub.bind
    rw [hproblem]
    cases m.toStub.problem? options with
    | none => rfl
    | some problem => rfl

/-- Blanks, an accent, the characters of a format, and no name at all. -/
theorem Method.body_independent_of_holeNames_accented :
    let params : List Parameter := [⟨"a", .other [], .plainText⟩, ⟨"b", .other [], .debugged⟩]
    let m := Method.ofTemplate ['\x7b', 'a', '\x7d', '-', '\x7b', 'b', '\x7d'] params
    let m' := Method.ofTemplate ['\x7b', ' ', 'é', ':', '?', '\x7d', '-', '\x7b', '\x7d'] params
    (∀ strategy options, (m.body strategy options).trees = (m'.body strategy options).trees) ∧
      m'.toStub.bind m.owner {} = .ok m' := by
  intro params m m'
  have hread : Template.read m.template = ⟨[.hole ['a'], .literal ['-'], .hole ['b']], none⟩ := by
    cbv
  have hread' : Template.read m'.template =
      ⟨[.hole [' ', 'é', ':', '?'], .literal ['-'], .hole []], none⟩ := by cbv
  have halike : Alike (Template.read m.template).segments (Template.read m'.template).segments := by
    rw [hread, hread']
    exact .hole _ _ (.literal _ (.hole _ _ .nil))
  obtain ⟨-, -, -, hbody, hbind⟩ :=
    Method.body_independent_of_holeNames m m'.template (by decide) (by decide) halike
  exact ⟨hbody (by decide), hbind m.owner {} rfl⟩

/-- The second hole finds no parameter, and the call of the formatter shows its name. -/
theorem Method.body_shows_surplus_holeName :
    let params : List Parameter := [⟨"a", .other [], .displayed⟩]
    let m := Method.ofTemplate ['\x7b', 'a', '\x7d', '\x7b', 'x', '\x7d'] params
    let m' := Method.ofTemplate ['\x7b', 'a', '\x7d', '\x7b', 'y', '\x7d'] params
    (balance m.template).wellFormed = true ∧ (balance m'.template).wellFormed = true ∧
      Alike (read m.template).segments (read m'.template).segments ∧
      Source.render (m.body .formatCall {}).trees ≠
        Source.render (m'.body .formatCall {}).trees := by
  intro params m m'
  have hread : Template.read m.template = ⟨[.hole ['a'], .hole ['x']], none⟩ := by cbv
  have hread' : Template.read m'.template = ⟨[.hole ['a'], .hole ['y']], none⟩ := by cbv
  refine ⟨by decide, by decide, ?_, by decide +kernel⟩
  rw [hread, hread']
  exact .hole _ _ (.hole _ _ .nil)

end Stencil
