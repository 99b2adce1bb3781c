import Stencil.Text.Blank
import Stencil.Text.Slice

/-! Templates: literal text with named holes in braces. -/
namespace Stencil.Template

inductive Segment where
  | literal (text : List Char)
  | hole (name : List Char)
  deriving DecidableEq, Repr

/-- Why a template cannot be read on, with the byte offset of the brace at fault. -/
inductive Fault where
  | unclosed (offset : Nat)
  | unmatched (offset : Nat)
  | nested (offset : Nat)
  deriving DecidableEq, Repr

def Fault.offset : Fault → Nat
  | .unclosed n | .unmatched n | .nested n => n

def Fault.message : Fault → String
  | .unclosed n => s!"unclosed '\x7b' at byte {n}"
  | .unmatched n => s!"unmatched '\x7d' at byte {n}"
  | .nested n => s!"nested '\x7b' at byte {n}"

/-- The segments before the first fault, and the fault if there is one. -/
structure Reading where
  segments : List Segment
  fault : Option Fault
  deriving DecidableEq, Repr

def Reading.cons (s : Segment) (r : Reading) : Reading := { r with segments := s :: r.segments }

def isBrace (c : Char) : Bool := c = '\x7b' || c = '\x7d'

/-- A place in a template: the text to come, and how many bytes lie before it. -/
structure Reader where
  rest : List Char
  offset : Nat
  deriving DecidableEq, Repr

/-- Past a fault nothing is left to read. -/
def Reader.stop (r : Reader) : Reader := { r with rest := [] }

def Reader.advance (r : Reader) (n : Nat) : Except Panic Reader := do
  return ⟨← Text.after n r.rest, r.offset + n⟩

def Reader.hole (r : Reader) : Except Panic (Except Fault Segment × Reader) := do
  let body ← Text.after 1 r.rest
  match Text.position? isBrace body with
  | none => return (.error (.unclosed r.offset), r.stop)
  | some n =>
    if (← Text.byteAt n body) = 0x7d then
      return (.ok (.hole (← Text.before n body)), ← r.advance (n + 2))
    else return (.error (.nested (r.offset + 1 + n)), r.stop)

/-- Read one segment or find one fault; texts are cut at the byte positions of braces. -/
def Reader.scan (r : Reader) : Except Panic (Option (Except Fault Segment × Reader)) :=
  if r.rest.isEmpty then .ok none
  else
    match Text.position? isBrace r.rest with
    | none => do return some (.ok (.literal r.rest), ← r.advance (Text.byteLength r.rest))
    | some 0 =>
      if r.rest.head? = some '\x7d' then .ok (some (.error (.unmatched r.offset), r.stop))
      else do return some (← r.hole)
    | some (n + 1) => do
      return some (.ok (.literal (← Text.before (n + 1) r.rest)), ← r.advance (n + 1))

/-- What is read next. All cuts are made between characters, so a scan does not break off. -/
def Reader.next (r : Reader) : Option (Except Fault Segment × Reader) :=
  match r.scan with
  | .ok found => found
  | .error _ => none

theorem Reader.scan_of_next {r r' : Reader} {x : Except Fault Segment}
    (h : r.next = some (x, r')) : r.scan = .ok (some (x, r')) := by
  unfold next at h
  split at h
  · next found hscan => rw [hscan, h]
  · cases h

theorem Reader.length_advance_lt {r r' : Reader} {n : Nat} (h : r.advance n = .ok r')
    (hn : 0 < n) : r'.rest.length < r.rest.length := by
  obtain ⟨rest, hrest, hok⟩ := Panic.exists_of_bind h
  cases hok
  exact Text.length_lt_of_after hrest hn

theorem Reader.length_stop_lt {r : Reader} (h : r.rest ≠ []) :
    r.stop.rest.length < r.rest.length := List.length_pos_iff.mpr h

theorem Reader.length_hole_lt {r r' : Reader} {x : Except Fault Segment} (hrest : r.rest ≠ [])
    (h : r.hole = .ok (x, r')) : r'.rest.length < r.rest.length := by
  obtain ⟨body, -, hbody⟩ := Panic.exists_of_bind h
  split at hbody
  · cases hbody
    exact length_stop_lt hrest
  · obtain ⟨b, -, hbyte⟩ := Panic.exists_of_bind hbody
    split at hbyte
    · obtain ⟨name, -, hname⟩ := Panic.exists_of_bind hbyte
      obtain ⟨r'', hadvance, hok⟩ := Panic.exists_of_bind hname
      cases hok
      exact length_advance_lt hadvance (by omega)
    · cases hbyte
      exact length_stop_lt hrest

theorem Reader.length_next_lt {r r' : Reader} {x : Except Fault Segment}
    (h : r.next = some (x, r')) : r'.rest.length < r.rest.length := by
  have hscan := scan_of_next h
  unfold scan at hscan
  split at hscan
  · cases hscan
  · next hempty =>
    have hrest : r.rest ≠ [] := by simpa using hempty
    split at hscan
    · obtain ⟨r'', hadvance, hok⟩ := Panic.exists_of_bind hscan
      cases hok
      exact length_advance_lt hadvance (Text.byteLength_pos hrest)
    · split at hscan
      · cases hscan
        exact length_stop_lt hrest
      · obtain ⟨found, hhole, hok⟩ := Panic.exists_of_bind hscan
        cases hok
        exact length_hole_lt hrest hhole
    · obtain ⟨text, -, htext⟩ := Panic.exists_of_bind hscan
      obtain ⟨r'', hadvance, hok⟩ := Panic.exists_of_bind htext
      cases hok
      exact length_advance_lt hadvance (by omega)

def Reader.reading (r : Reader) : Reading :=
  match _h : r.next with
  | none => ⟨[], none⟩
  | some (.error fault, _) => ⟨[], some fault⟩
  | some (.ok segment, r') => .cons segment r'.reading
termination_by r.rest.length
decreasing_by exact Reader.length_next_lt _h

def Reader.last (r : Reader) : Reader :=
  match _h : r.next with
  | none => r
  | some (_, r') => r'.last
termination_by r.rest.length
decreasing_by exact Reader.length_next_lt _h

def start (s : List Char) : Reader := ⟨s, 0⟩

def read (s : List Char) : Reading := (start s).reading

def Segment.holeName? : Segment → Option (List Char)
  | .hole name => some name
  | .literal _ => none

/-- The texts inside the holes, up to the first fault. -/
def holeNames (s : List Char) : List (List Char) := (read s).segments.filterMap Segment.holeName?

/-- The verdict of a look at the braces alone. -/
structure Balance where
  wellFormed : Bool
  holes : Nat
  deriving DecidableEq, Repr

/-- Go through the bytes knowing whether a brace is open, and stop at the first that does not
fit. -/
def balanceFrom (inside : Bool) (holes : Nat) : List UInt8 → Balance
  | [] => ⟨!inside, holes⟩
  | b :: rest =>
    if b = 0x7b then
      if inside then ⟨false, holes⟩ else balanceFrom true (holes + 1) rest
    else if b = 0x7d then
      if inside then balanceFrom false holes rest else ⟨false, holes⟩
    else balanceFrom inside holes rest

def balance (s : List Char) : Balance := balanceFrom false 0 (Text.encode s)

def isBlank (s : List Char) : Bool := s.all Text.isBlank

end Stencil.Template
