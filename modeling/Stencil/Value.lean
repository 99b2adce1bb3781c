import Stencil.Primitive
import Stencil.Scratch
import Stencil.Text.Quoted

/-! The values that generated functions are called with. -/
namespace Stencil

/-- A value, as each way of writing sees it. -/
structure Value where
  /-- The text that it is, if it is text. -/
  text : List Char
  display : Showing
  debug : Showing
  writable : Writable

namespace Value

/-- A value that looks the same to every way of writing but the debug form. -/
def ofForms (display debug : List Char) : Value where
  text := display
  display := .ofText display
  debug := .ofText debug
  writable := .ofBytes (Text.byteLength display) (Text.encode display)

def ofText (text : List Char) : Value := ofForms text (Text.quoteDebug text)

def ofPrimitive (p : Primitive) (references : List Reference) : Value :=
  { ofForms p.display p.display with writable := p.writable.behind references }

def ofTexts (texts : List (List Char)) : Value :=
  let shown := '[' :: ((texts.map Text.quoteDebug).intersperse [',', ' ']).flatten ++ [']']
  ofForms shown shown

/-- A value that breaks off after it has written some text. -/
def broken (text : List Char) (ending : ShowEnd) : Value :=
  { ofForms text text with display := ⟨[text], ending⟩, debug := ⟨[text], ending⟩ }

end Value

end Stencil
