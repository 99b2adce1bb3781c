import Stencil.Proofs.Template.Balance

/-! A template and its segments are two forms of one thing: reading and writing undo each other. -/
namespace Stencil.Template

def Segment.text : Segment → List Char
  | .literal text => text
  | .hole name => name

def Segment.source : Segment → List Char
  | .literal text => text
  | .hole name => '\x7b' :: (name ++ ['\x7d'])

def render (segments : List Segment) : List Char := segments.flatMap Segment.source

/-- The form in which a template has its segments: no literal is empty, no two literals are next to
each other, and no text holds a brace. -/
structure Canonical (segments : List Segment) : Prop where
  ne_nil : Segment.literal [] ∉ segments
  apart : ∀ text text', ¬[Segment.literal text, .literal text'] <:+: segments
  plain : ∀ s ∈ segments, Plain s.text

theorem render_cons (s : Segment) (segments : List Segment) :
    render (s :: segments) = s.source ++ render segments := List.flatMap_cons

theorem canonical_nil : Canonical [] where
  ne_nil := List.not_mem_nil
  apart text text' h := by simpa using h.length_le
  plain s hs := absurd hs List.not_mem_nil

theorem canonical_cons {s : Segment} {segments : List Segment} :
    Canonical (s :: segments) ↔
      s ≠ .literal [] ∧ Plain s.text ∧
        (∀ text text', s = .literal text → segments.head? ≠ some (.literal text')) ∧
        Canonical segments := by
  have hadjacent (text text' : List Char) :
      [Segment.literal text, .literal text'] <:+: s :: segments ↔
        (s = .literal text ∧ segments.head? = some (.literal text')) ∨
          [Segment.literal text, .literal text'] <:+: segments := by
    rw [List.infix_cons_iff, List.cons_prefix_cons, eq_comm]
    cases segments with
    | nil => simp
    | cons t segments =>
      simp [List.cons_prefix_cons, eq_comm (b := t)]
  constructor
  · rintro ⟨hne, hapart, hplain⟩
    refine ⟨?_, ?_, ?_, ?_, ?_, ?_⟩
    · rintro rfl
      exact hne List.mem_cons_self
    · exact hplain s List.mem_cons_self
    · intro text text' hs hhead
      exact hapart text text' ((hadjacent text text').mpr (.inl ⟨hs, hhead⟩))
    · exact fun h => hne (List.mem_cons_of_mem _ h)
    · exact fun text text' h => hapart text text' ((hadjacent text text').mpr (.inr h))
    · exact fun t ht => hplain t (List.mem_cons_of_mem _ ht)
  · rintro ⟨hs, hp, hhead, hne, hapart, hplain⟩
    refine ⟨?_, ?_, ?_⟩
    · intro h
      rcases List.mem_cons.mp h with h | h
      · exact hs h.symm
      · exact hne h
    · intro text text' h
      rcases (hadjacent text text').mp h with ⟨hs, hhead'⟩ | h
      · exact hhead text text' hs hhead'
      · exact hapart text text' h
    · exact List.forall_mem_cons.mpr ⟨hp, hplain⟩

/-- What is left of a template where reading it ends. -/
inductive Remains : List Char → Nat → Option Fault → Prop where
  | ended {n : Nat} : Remains [] n none
  | unmatched {n : Nat} {after : List Char} : Remains ('\x7d' :: after) n (some (.unmatched n))
  | unclosed {n : Nat} {text : List Char} (hp : Plain text) :
      Remains ('\x7b' :: text) n (some (.unclosed n))
  | nested {n : Nat} {text after : List Char} (hp : Plain text) :
      Remains ('\x7b' :: (text ++ '\x7b' :: after)) n
        (some (.nested (n + 1 + Text.byteLength text)))

/-- The segments that are read make up the template as far as it is read. -/
theorem Reads.exists_remains {s : List Char} {n : Nat} {reading : Reading}
    (h : Reads s n reading) :
    ∃ rest, s = render reading.segments ++ rest ∧
      Remains rest (n + Text.byteLength (render reading.segments)) reading.fault := by
  induction h with
  | ended => exact ⟨[], rfl, .ended⟩
  | unmatched => exact ⟨_, rfl, .unmatched⟩
  | unclosed hp => exact ⟨_, rfl, .unclosed hp⟩
  | nested hp => exact ⟨_, rfl, .nested hp⟩
  | @hole n text after reading hp _ ih =>
    obtain ⟨rest, rfl, hrest⟩ := ih
    refine ⟨rest, by simp [Reading.cons, render_cons, Segment.source], ?_⟩
    have hlength : Text.byteLength (Segment.hole text).source = 1 + Text.byteLength text + 1 := by
      rw [Segment.source, Text.byteLength_cons, Text.byteLength_append]
      exact (Nat.add_assoc _ _ _).symm
    rw [Reading.cons, render_cons, Text.byteLength_append, hlength]
    simpa only [Nat.add_assoc] using hrest
  | @literal n text after reading hp _ _ _ ih =>
    obtain ⟨rest, rfl, hrest⟩ := ih
    refine ⟨rest, by simp [Reading.cons, render_cons, Segment.source], ?_⟩
    rw [Reading.cons, render_cons, Text.byteLength_append, Segment.source, ← Nat.add_assoc]
    exact hrest

/-- What begins at a boundary does not begin with a literal. -/
theorem Reads.head?_ne_literal {s : List Char} {n : Nat} {reading : Reading}
    (h : Reads s n reading) (hb : Boundary s) (text : List Char) :
    reading.segments.head? ≠ some (.literal text) := by
  cases h with
  | ended => simp
  | unmatched => simp
  | unclosed => simp
  | nested => simp
  | hole => simp [Reading.cons]
  | literal hp hne =>
    obtain ⟨c, text, rfl⟩ := List.exists_cons_of_ne_nil hne
    have hc := hb c rfl
    rw [(plain_cons.mp hp).1] at hc
    cases hc

theorem Reads.canonical {s : List Char} {n : Nat} {reading : Reading} (h : Reads s n reading) :
    Canonical reading.segments := by
  induction h with
  | ended => exact canonical_nil
  | unmatched => exact canonical_nil
  | unclosed => exact canonical_nil
  | nested => exact canonical_nil
  | hole hp _ ih => exact canonical_cons.mpr ⟨by simp, hp, by simp, ih⟩
  | literal hp hne hb h ih =>
    refine canonical_cons.mpr ⟨by simpa using hne, hp, ?_, ih⟩
    intro _ text' _
    exact h.head?_ne_literal hb text'

theorem boundary_render {segments : List Segment}
    (h : ∀ text, segments.head? ≠ some (.literal text)) : Boundary (render segments) := by
  cases segments with
  | nil => exact boundary_nil
  | cons s segments =>
    cases s with
    | literal text => exact absurd rfl (h text)
    | hole name => exact boundary_cons '\x7b' _ rfl

/-- The rules of reading give back canonical segments from what is written for them. -/
theorem Canonical.reads_render {segments : List Segment} (h : Canonical segments) (n : Nat) :
    Reads (render segments) n ⟨segments, none⟩ := by
  induction segments generalizing n with
  | nil => exact .ended
  | cons s segments ih =>
    obtain ⟨hne, hp, hhead, hrest⟩ := canonical_cons.mp h
    rw [render_cons]
    cases s with
    | literal text =>
      have hp : Plain text := hp
      have hb : Boundary (render segments) :=
        boundary_render fun text' => hhead text text' rfl
      exact .literal hp (by simpa using hne) hb (ih hrest _)
    | hole name =>
      have hp : Plain name := hp
      have hhole := Reads.hole hp (ih hrest (n + 1 + Text.byteLength name + 1))
      simpa [Segment.source, Reading.cons] using hhole

theorem Reader.next_of_scan {r : Reader} {found : Option (Except Fault Segment × Reader)}
    (h : r.scan = .ok found) : r.next = found := by
  rw [next, h]

/-- The rules leave no choice. -/
theorem Reads.eq_reading {s : List Char} {n : Nat} {reading : Reading} (h : Reads s n reading) :
    Reader.reading ⟨s, n⟩ = reading := by
  induction h with
  | ended => exact Reader.reading_none rfl
  | unmatched => exact Reader.reading_error rfl
  | unclosed hp =>
    exact Reader.reading_error (Reader.next_of_scan (Reader.scan_open (Reader.hole_unclosed hp _)))
  | nested hp =>
    exact Reader.reading_error (Reader.next_of_scan (Reader.scan_open (Reader.hole_nested hp _ _)))
  | hole hp _ ih =>
    rw [Reader.reading_ok (Reader.next_of_scan (Reader.scan_open (Reader.hole_closed hp _ _))), ih]
  | literal hp hne hb _ ih =>
    rw [Reader.reading_ok (Reader.next_of_scan (Reader.scan_literal hp hne hb _)), ih]

/-- Segmentation is a bijection between the templates that are well formed and the lists of segments
that are canonical. -/
theorem read_render_bijective :
    (∀ template, (balance template).wellFormed = true →
      ∃ segments, read template = ⟨segments, none⟩ ∧ render segments = template ∧
        Canonical segments) ∧
    ∀ segments, Canonical segments →
      (balance (render segments)).wellFormed = true ∧
        read (render segments) = ⟨segments, none⟩ := by
  constructor
  · intro template hwell
    have hreads : Reads template 0 (read template) := reads_reading (start template)
    have hfault := wellFormed_iff.mp hwell
    obtain ⟨rest, htemplate, hrest⟩ := hreads.exists_remains
    rw [hfault] at hrest
    cases hrest
    rw [List.append_nil] at htemplate
    exact ⟨(read template).segments, by rw [← hfault], htemplate.symm, hreads.canonical⟩
  · intro segments hcanonical
    have hread : read (render segments) = ⟨segments, none⟩ := (hcanonical.reads_render 0).eq_reading
    exact ⟨wellFormed_iff.mpr (congrArg Reading.fault hread), hread⟩

/-- Characters of more than one byte on both sides of an empty hole and of adjacent holes. -/
theorem read_render_bijective_accented :
    let template := ['é', '\x7b', '\x7d', '\x7b', 'ü', '\x7d', '€']
    let segments := [Segment.literal ['é'], .hole [], .hole ['ü'], .literal ['€']]
    (balance template).wellFormed = true ∧ Canonical segments ∧ render segments = template ∧
      read template = ⟨segments, none⟩ := by
  intro template segments
  have hwell : (balance template).wellFormed = true := by decide
  obtain ⟨found, hread, hrender, hcanonical⟩ := read_render_bijective.1 template hwell
  obtain ⟨-, hback⟩ := read_render_bijective.2 found hcanonical
  have hsegments : read template = ⟨segments, none⟩ := by cbv
  have hfound : found = segments := by
    rw [hread] at hsegments
    exact congrArg Reading.segments hsegments
  subst hfound
  exact ⟨hwell, hcanonical, hrender, hrender ▸ hback⟩

end Stencil.Template
