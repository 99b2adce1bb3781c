import Stencil.Method

/-! The bodies of generated functions. -/
namespace Stencil

/-- One call of the formatter: the format, and its arguments, each a name in the format with the
parameter that it stands for. -/
structure FormatCall where
  format : List Char
  args : List (String × String)
  deriving DecidableEq, Repr

namespace FormatCall

/-- Literal text inside a format: braces are written twice. -/
def escape (text : List Char) : List Char :=
  text.flatMap fun c => if Template.isBrace c then [c, c] else [c]

/-- The name of a parameter inside a format, where a raw identifier cannot stand. -/
def argumentName (name : String) : String :=
  match name.toList with
  | 'r' :: '#' :: rest => "__raw_" ++ String.ofList rest
  | _ => name

def placeholder (p : Parameter) : List Char :=
  '\x7b' :: (argumentName p.name).toList
    ++ (if p.rendering = .debugged then [':', '?'] else []) ++ ['\x7d']

/-- Put parameters in the places of the holes from left to right. What is left of the template when
either runs out is literal text. -/
def fill : List Parameter → List Char → FormatCall
  | [], rest => ⟨escape rest, []⟩
  | p :: params, rest =>
    let before := rest.takeWhile (· ≠ '\x7b')
    let hole := rest.dropWhile (· ≠ '\x7b')
    if hole.isEmpty then ⟨escape rest, []⟩
    else
      let arg := (argumentName p.name, p.name)
      let start := escape before ++ placeholder p
      match hole.dropWhile (· ≠ '\x7d') with
      | [] => ⟨start, [arg]⟩
      | _ :: rest =>
        let more := fill params rest
        ⟨start ++ more.format, arg :: more.args⟩

end FormatCall

inductive Storage where
  | stack (size : Nat)
  | pooled (size : Nat)
  deriving DecidableEq, Repr

/-- A large buffer is rented, any other is the one that fits on the stack. -/
def Options.storage (o : Options) : Storage :=
  match o.bufferSize with
  | some size => if o.pooled then .pooled size else .stack stackLimit
  | none => .stack stackLimit

/-- One step of a generated body: it writes at the cursor and moves the cursor on. -/
inductive Write where
  | byte (b : UInt8)
  | bytes (bs : List UInt8)
  /-- The value of a parameter. -/
  | value (rendering : Rendering) (param : String)
  deriving DecidableEq, Repr

inductive View where
  | text
  | display
  | debug
  deriving DecidableEq, Repr

inductive Payload where
  | byte (b : UInt8)
  | bytes (bs : List UInt8)
  /-- The text that was bound last. -/
  | bound
  deriving DecidableEq, Repr

inductive Statement where
  /-- Bind the text of a parameter. -/
  | bind (view : View) (param : String)
  /-- Make room for a payload at the cursor. -/
  | ensure (payload : Payload)
  | store (payload : Payload)
  /-- Move the cursor behind a payload. -/
  | advance (payload : Payload)
  /-- Let a parameter write itself at the cursor, and move the cursor behind it. -/
  | format (param : String)
  deriving DecidableEq, Repr

def Statement.copy (payload : Payload) : List Statement :=
  [.ensure payload, .store payload, .advance payload]

def Write.statements : Write → List Statement
  | .byte b => Statement.copy (.byte b)
  | .bytes bs => Statement.copy (.bytes bs)
  | .value .plainText param => .bind .text param :: Statement.copy .bound
  | .value .selfWriting param => [.format param]
  | .value .displayed param => .bind .display param :: Statement.copy .bound
  | .value .debugged param => .bind .debug param :: Statement.copy .bound

inductive Ending where
  /-- It gives what it has written. -/
  | written
  /-- It gives a fixed text, since the template does not fit. -/
  | fixed
  deriving DecidableEq, Repr

structure BufferWrites where
  storage : Storage
  /-- Bounds are not checked. -/
  unchecked : Bool
  writes : List Write
  ending : Ending
  deriving DecidableEq, Repr

namespace BufferWrites

def literal (text : List Char) : Write :=
  match Text.encode text with
  | [b] => .byte b
  | bs => .bytes bs

def parameter (p : Parameter) : Write := .value p.rendering p.name

def statements (b : BufferWrites) : List Statement := b.writes.flatMap Write.statements

/-- One write for each segment, until a hole finds no parameter. -/
def ofSegments : List Template.Segment → List Parameter → List Write × Ending
  | [], _ => ([], .written)
  | .literal text :: segments, params =>
    let (writes, ending) := ofSegments segments params
    (literal text :: writes, ending)
  | .hole _ :: segments, p :: params =>
    let (writes, ending) := ofSegments segments params
    (parameter p :: writes, ending)
  | .hole _ :: _, [] => ([], .fixed)

/-- The writes of a template; one that cannot be read to its end gives the fixed text. -/
def ofTemplate (template : List Char) (params : List Parameter) (options : Options) :
    BufferWrites :=
  let reading := Template.read template
  let (writes, ending) := ofSegments reading.segments params
  { storage := options.storage
    unchecked := options.unchecked
    writes
    ending := if reading.fault.isSome then .fixed else ending }

end BufferWrites

inductive Body where
  | formatCall (call : FormatCall)
  | bufferWrites (writes : BufferWrites)
  deriving DecidableEq, Repr

def Method.body (m : Method) (strategy : Strategy) (options : Options) : Body :=
  match strategy with
  | .formatCall => .formatCall (.fill m.params m.template)
  | .bufferWrites => .bufferWrites (.ofTemplate m.template m.params options)

end Stencil
