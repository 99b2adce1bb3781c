/-! How a running function can break off. -/
namespace Stencil

inductive Panic where
  /-- A place or a range lies outside of the bytes that it is taken from. -/
  | outOfRange
  /-- A text is cut inside of a character. -/
  | insideCharacter
  /-- More bytes are asked for than a buffer can hold. -/
  | tooLarge
  /-- A value failed while it was shown. -/
  | displayFailed
  /-- A value broke off by itself while it was shown. -/
  | raised (message : String)
  deriving DecidableEq, Repr

def Panic.message : Panic → String
  | .outOfRange => "range out of bounds"
  | .insideCharacter => "not a character boundary"
  | .tooLarge => "capacity overflow"
  | .displayFailed => "a Display implementation returned an error unexpectedly: Error"
  | .raised message => message

/-- Two steps come to an end if the first does and the second after it. -/
theorem Panic.exists_of_bind {α β : Type} {x : Except Panic α} {f : α → Except Panic β} {b : β}
    (h : x >>= f = .ok b) : ∃ a, x = .ok a ∧ f a = .ok b := by
  cases x with
  | error panic => cases h
  | ok a => exact ⟨a, rfl, h⟩

end Stencil
