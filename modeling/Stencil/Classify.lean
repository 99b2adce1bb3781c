import Stencil.Capability
import Stencil.Source.Type

/-! What the spelling of a type tells about its values. -/
namespace Stencil

open Source

namespace Capabilities

def primitives : List String :=
  ["i8", "i16", "i32", "i64", "i128", "isize", "u8", "u16", "u32", "u64", "u128", "usize", "bool",
    "char"]

/-- Types that hold text when one of their arguments is the text type. -/
def textHolders : List String := ["Box", "Rc", "Arc", "Cow"]

def ofSegment : Segment → Capabilities
  | .plain name =>
    if name = "String" then ofText
    else if primitives.contains name then ofSelfWriting
    else ofDisplay
  | .applied name types _ =>
    if textHolders.contains name && types.any (Ty.isNamed "str") then ofText else ofDisplay

/-- References, brackets and groups do not count, except that a reference right before the text
type makes it text. Of a type that is not known a display form is assumed. -/
def ofType : Ty → Capabilities
  | .reference _ _ target => if target.isNamed "str" then ofText else ofType target
  | .paren inner | .group inner => ofType inner
  | .path _ segments => (segments.getLast?.map ofSegment).getD ofDisplay
  | .projection .. | .traitObject .. | .other _ => ofDisplay

end Capabilities

def returnsText : Option Ty → Bool
  | some (.path _ segments) =>
    segments.all Segment.isPlain &&
      match segments.map Segment.name with
      | [name] => name = "String"
      | [root, module, name] =>
        (root = "std" || root = "alloc") && module = "string" && name = "String"
      | _ => false
  | _ => false

end Stencil
