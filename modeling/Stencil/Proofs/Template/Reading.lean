import Stencil.Proofs.Text.Slice
import Stencil.Template

/-! What reading a template comes to, one rule for each beginning of a segment or fault. -/
namespace Stencil.Template

def Plain (text : List Char) : Prop := ∀ c ∈ text, isBrace c = false

/-- Where text without braces ends: before a brace, or at the end. -/
def Boundary (after : List Char) : Prop := ∀ c ∈ after.head?, isBrace c = true

theorem isBrace_eq_false {c : Char} : isBrace c = false ↔ c ≠ '\x7b' ∧ c ≠ '\x7d' := by
  simp [isBrace]

theorem isBrace_eq_true {c : Char} : isBrace c = true ↔ c = '\x7b' ∨ c = '\x7d' := by
  simp [isBrace]

theorem plain_cons {c : Char} {text : List Char} :
    Plain (c :: text) ↔ isBrace c = false ∧ Plain text := List.forall_mem_cons

theorem Plain.append {text more : List Char} (h : Plain text) (h' : Plain more) :
    Plain (text ++ more) := List.forall_mem_append.mpr ⟨h, h'⟩

theorem boundary_nil : Boundary [] := by simp [Boundary]

theorem boundary_cons (c : Char) (after : List Char) (hc : isBrace c = true) :
    Boundary (c :: after) := by simp [Boundary, hc]

/-- Every text is text without braces up to a boundary. -/
theorem exists_plain_append (s : List Char) :
    ∃ text after, Plain text ∧ Boundary after ∧ s = text ++ after := by
  refine ⟨s.takeWhile (!isBrace ·), s.dropWhile (!isBrace ·), ?_, ?_,
    List.takeWhile_append_dropWhile.symm⟩
  · intro c hc
    simpa using List.all_eq_true.mp List.all_takeWhile c hc
  · intro c hc
    have h := List.head?_dropWhile_not (!isBrace ·) s
    rw [show (s.dropWhile (!isBrace ·)).head? = some c from hc] at h
    simpa using h

theorem Plain.position? {text : List Char} (hp : Plain text) :
    Text.position? isBrace text = none := by
  simpa [Text.position?] using Text.position?_append hp []

theorem Plain.position?_append {text : List Char} (hp : Plain text) {c : Char}
    (hc : isBrace c = true) (after : List Char) :
    Text.position? isBrace (text ++ c :: after) = some (Text.byteLength text) := by
  simp [Text.position?_append hp, Text.position?, hc]

theorem encodeChar_open : Text.encodeChar '\x7b' = [0x7b] := by decide

theorem encodeChar_close : Text.encodeChar '\x7d' = [0x7d] := by decide

namespace Reader

/-- What a reader can do in one step: one rule for each way in which a segment or a fault begins. -/
inductive Step : Reader → Option (Except Fault Segment × Reader) → Prop where
  | ended {n : Nat} : Step ⟨[], n⟩ none
  | unmatched {n : Nat} {after : List Char} :
      Step ⟨'\x7d' :: after, n⟩ (some (.error (.unmatched n), ⟨[], n⟩))
  | unclosed {n : Nat} {text : List Char} (hp : Plain text) :
      Step ⟨'\x7b' :: text, n⟩ (some (.error (.unclosed n), ⟨[], n⟩))
  | nested {n : Nat} {text after : List Char} (hp : Plain text) :
      Step ⟨'\x7b' :: (text ++ '\x7b' :: after), n⟩
        (some (.error (.nested (n + 1 + Text.byteLength text)), ⟨[], n⟩))
  | hole {n : Nat} {text after : List Char} (hp : Plain text) :
      Step ⟨'\x7b' :: (text ++ '\x7d' :: after), n⟩
        (some (.ok (.hole text), ⟨after, n + 1 + Text.byteLength text + 1⟩))
  | literal {n : Nat} {text after : List Char} (hp : Plain text) (hne : text ≠ [])
      (hb : Boundary after) :
      Step ⟨text ++ after, n⟩ (some (.ok (.literal text), ⟨after, n + Text.byteLength text⟩))

theorem advance_append (text after : List Char) (n : Nat) :
    advance ⟨text ++ after, n⟩ (Text.byteLength text) = .ok ⟨after, n + Text.byteLength text⟩ := by
  simp only [advance, Text.after_append]
  rfl

theorem after_open (body : List Char) : Text.after 1 ('\x7b' :: body) = .ok body :=
  Text.after_append ['\x7b'] body

theorem hole_unclosed {text : List Char} (hp : Plain text) (n : Nat) :
    hole ⟨'\x7b' :: text, n⟩ = .ok (.error (.unclosed n), ⟨[], n⟩) := by
  simp only [hole, after_open, bind, Except.bind, hp.position?]
  rfl

theorem hole_nested {text : List Char} (hp : Plain text) (after : List Char) (n : Nat) :
    hole ⟨'\x7b' :: (text ++ '\x7b' :: after), n⟩ =
      .ok (.error (.nested (n + 1 + Text.byteLength text)), ⟨[], n⟩) := by
  have hposition := hp.position?_append (c := '\x7b') rfl after
  have hbyte := Text.byteAt_append encodeChar_open text after
  simp only [hole, after_open, bind, Except.bind, hposition, hbyte]
  rfl

theorem hole_closed {text : List Char} (hp : Plain text) (after : List Char) (n : Nat) :
    hole ⟨'\x7b' :: (text ++ '\x7d' :: after), n⟩ =
      .ok (.ok (.hole text), ⟨after, n + 1 + Text.byteLength text + 1⟩) := by
  have hposition := hp.position?_append (c := '\x7d') rfl after
  have hbyte := Text.byteAt_append encodeChar_close text after
  have hlength : Text.byteLength ('\x7b' :: (text ++ ['\x7d'])) = Text.byteLength text + 2 := by
    rw [Text.byteLength_cons, Text.byteLength_append]
    exact Nat.add_comm _ _
  have hadvance : advance ⟨'\x7b' :: (text ++ '\x7d' :: after), n⟩ (Text.byteLength text + 2) =
      .ok ⟨after, n + (Text.byteLength text + 2)⟩ := by
    simpa [hlength] using advance_append ('\x7b' :: (text ++ ['\x7d'])) after n
  have hoffset : n + (Text.byteLength text + 2) = n + 1 + Text.byteLength text + 1 := by omega
  simp only [hole, after_open, bind, Except.bind, hposition, hbyte, ↓reduceIte, Text.before_append,
    hadvance, hoffset]
  rfl

theorem scan_open {body : List Char} {n : Nat} {found : Except Fault Segment × Reader}
    (h : hole ⟨'\x7b' :: body, n⟩ = .ok found) : scan ⟨'\x7b' :: body, n⟩ = .ok (some found) := by
  have hscan : scan ⟨'\x7b' :: body, n⟩ = (do return some (← hole ⟨'\x7b' :: body, n⟩)) := rfl
  rw [hscan, h]
  rfl

theorem scan_literal {text after : List Char} (hp : Plain text) (hne : text ≠ [])
    (hb : Boundary after) (n : Nat) :
    scan ⟨text ++ after, n⟩ =
      .ok (some (.ok (.literal text), ⟨after, n + Text.byteLength text⟩)) := by
  have hempty : (text ++ after).isEmpty = false := by simp [hne]
  have hadvance := advance_append text after n
  cases after with
  | nil =>
    rw [List.append_nil] at hempty hadvance ⊢
    simp [scan, hempty, hp.position?, hadvance, bind, Except.bind, pure, Except.pure]
  | cons c after =>
    have hposition := hp.position?_append (hb c rfl) after
    obtain ⟨k, hk⟩ := Nat.exists_eq_add_one.mpr (Text.byteLength_pos hne)
    have hbefore := Text.before_append text (c :: after)
    rw [hk] at hposition hadvance hbefore ⊢
    simp [scan, hempty, hposition, hbefore, hadvance, bind, Except.bind, pure, Except.pure]

/-- No scan breaks off: each of its cuts is between two characters. -/
theorem exists_scan (r : Reader) : ∃ found, r.scan = .ok found ∧ Step r found := by
  obtain ⟨rest, n⟩ := r
  obtain ⟨text, after, hp, hb, rfl⟩ := exists_plain_append rest
  by_cases hne : text = []
  · subst hne
    cases after with
    | nil => exact ⟨none, rfl, .ended⟩
    | cons c body =>
      rcases isBrace_eq_true.mp (hb c rfl) with rfl | rfl
      · -- what matters is the first brace behind the one that opens
        obtain ⟨name, after, hname, hafter, rfl⟩ := exists_plain_append body
        cases after with
        | nil =>
          rw [List.append_nil]
          exact ⟨_, scan_open (hole_unclosed hname n), .unclosed hname⟩
        | cons d after =>
          rcases isBrace_eq_true.mp (hafter d rfl) with rfl | rfl
          · exact ⟨_, scan_open (hole_nested hname after n), .nested hname⟩
          · exact ⟨_, scan_open (hole_closed hname after n), .hole hname⟩
      · exact ⟨_, rfl, .unmatched⟩
  · exact ⟨_, scan_literal hp hne hb n, .literal hp hne hb⟩

theorem scan_eq_next (r : Reader) : r.scan = .ok r.next := by
  obtain ⟨found, hscan, -⟩ := exists_scan r
  rw [next, hscan]

theorem step_next (r : Reader) : Step r r.next := by
  obtain ⟨found, hscan, hstep⟩ := exists_scan r
  rwa [next, hscan]

theorem step_of_next {r : Reader} {found : Option (Except Fault Segment × Reader)}
    (h : r.next = found) : Step r found := h ▸ r.step_next

end Reader

theorem Reader.reading_none {r : Reader} (h : r.next = none) : r.reading = ⟨[], none⟩ := by
  rw [reading]
  split
  · rfl
  · next h' => rw [h] at h'; cases h'
  · next h' => rw [h] at h'; cases h'

theorem Reader.reading_error {r r' : Reader} {fault : Fault}
    (h : r.next = some (.error fault, r')) : r.reading = ⟨[], some fault⟩ := by
  rw [reading]
  split
  · next h' => rw [h] at h'; cases h'
  · next h' => rw [h] at h'; cases h'; rfl
  · next h' => rw [h] at h'; cases h'

theorem Reader.reading_ok {r r' : Reader} {segment : Segment}
    (h : r.next = some (.ok segment, r')) : r.reading = .cons segment r'.reading := by
  rw [reading]
  split
  · next h' => rw [h] at h'; cases h'
  · next h' => rw [h] at h'; cases h'
  · next h' => rw [h] at h'; cases h'; rfl

/-- What reading a text from an offset on comes to: one rule for each way in which a segment or a
fault begins. -/
inductive Reads : List Char → Nat → Reading → Prop where
  | ended {n : Nat} : Reads [] n ⟨[], none⟩
  | unmatched {n : Nat} {after : List Char} :
      Reads ('\x7d' :: after) n ⟨[], some (.unmatched n)⟩
  | unclosed {n : Nat} {text : List Char} (hp : Plain text) :
      Reads ('\x7b' :: text) n ⟨[], some (.unclosed n)⟩
  | nested {n : Nat} {text after : List Char} (hp : Plain text) :
      Reads ('\x7b' :: (text ++ '\x7b' :: after)) n
        ⟨[], some (.nested (n + 1 + Text.byteLength text))⟩
  | hole {n : Nat} {text after : List Char} {reading : Reading} (hp : Plain text)
      (h : Reads after (n + 1 + Text.byteLength text + 1) reading) :
      Reads ('\x7b' :: (text ++ '\x7d' :: after)) n (.cons (.hole text) reading)
  | literal {n : Nat} {text after : List Char} {reading : Reading} (hp : Plain text)
      (hne : text ≠ []) (hb : Boundary after) (h : Reads after (n + Text.byteLength text) reading) :
      Reads (text ++ after) n (.cons (.literal text) reading)

/-- The scanner follows the rules. -/
theorem reads_reading (r : Reader) : Reads r.rest r.offset r.reading := by
  induction r using Reader.reading.induct with
  | case1 r hnext =>
    rw [Reader.reading_none hnext]
    cases Reader.step_of_next hnext
    exact .ended
  | case2 r fault r' hnext =>
    rw [Reader.reading_error hnext]
    cases Reader.step_of_next hnext with
    | unmatched => exact .unmatched
    | unclosed hp => exact .unclosed hp
    | nested hp => exact .nested hp
  | case3 r segment r' hnext ih =>
    rw [Reader.reading_ok hnext]
    cases Reader.step_of_next hnext with
    | hole hp => exact .hole hp ih
    | literal hp hne hb => exact .literal hp hne hb ih

end Stencil.Template
