/-! What is known of a parameter's type, and how a value of it is therefore written. -/
namespace Stencil

structure Capabilities where
  /-- The value is text. -/
  text : Bool
  /-- The value writes itself into a byte buffer. -/
  selfWriting : Bool
  /-- The value has a display form. -/
  display : Bool
  deriving DecidableEq, Repr

namespace Capabilities

def ofText : Capabilities := ⟨true, false, false⟩
def ofSelfWriting : Capabilities := ⟨false, true, true⟩
def ofDisplay : Capabilities := ⟨false, false, true⟩
def empty : Capabilities := ⟨false, false, false⟩

/-- The set as a number; text is 1, self-writing 2, display 4. -/
def toBits (c : Capabilities) : Nat := c.text.toNat + 2 * c.selfWriting.toNat + 4 * c.display.toNat

/-- Only the three lowest bits have a meaning. -/
def ofBits (n : Nat) : Capabilities := ⟨n.testBit 0, n.testBit 1, n.testBit 2⟩

end Capabilities

inductive Rendering where
  | plainText
  | selfWriting
  | displayed
  | debugged
  deriving DecidableEq, Repr

/-- Text is copied; else the value writes itself; else it is displayed; a value of which nothing is
known is shown in its debug form. -/
def Capabilities.rendering (c : Capabilities) : Rendering :=
  if c.text then .plainText
  else if c.selfWriting then .selfWriting
  else if c.display then .displayed
  else .debugged

end Stencil
