import Stencil.Body
import Stencil.Pool
import Stencil.Value

/-! What generated bodies compute. -/
namespace Stencil

/-- The values of the parameters by name. The names that a body gives to what it declares itself do
not count among them. -/
abbrev Environment := String → Value

namespace FormatCall

inductive Item where
  | char (c : Char)
  | arg (name : String) (debug : Bool)
  deriving DecidableEq, Repr

def argItem (text : List Char) : Item :=
  match text.reverse with
  | '?' :: ':' :: name => .arg (String.ofList name.reverse) true
  | _ => .arg (String.ofList text) false

inductive Place where
  | outside
  /-- Right behind a brace that may be one of two. -/
  | behind (brace : Char)
  /-- Behind an opening brace, with what has been read since in reverse. -/
  | inside (read : List Char)
  deriving DecidableEq, Repr

def readItems : Place → List Char → Option (List Item)
  | .outside, [] => some []
  | .behind _, [] | .inside _, [] => none
  | .outside, c :: rest =>
    if Template.isBrace c then readItems (.behind c) rest
    else (readItems .outside rest).map (.char c :: ·)
  | .behind brace, c :: rest =>
    if c = brace then (readItems .outside rest).map (.char c :: ·)
    else if brace = '\x7d' then none
    else if c = '\x7d' then (readItems .outside rest).map (argItem [] :: ·)
    else readItems (.inside [c]) rest
  | .inside read, c :: rest =>
    if c = '\x7d' then (readItems .outside rest).map (argItem read.reverse :: ·)
    else if c = '\x7b' then none
    else readItems (.inside (c :: read)) rest

def items? (c : FormatCall) : Option (List Item) := readItems .outside c.format

/-- What an item stands for; nothing if there is no such argument. -/
def fragment? (c : FormatCall) (env : Environment) : Item → Option Fragment
  | .char x => some (.literal [x])
  | .arg name debug => do
    let param ← c.args.lookup name
    some (.value (if debug then (env param).debug else (env param).display))

/-- The result of the call; nothing if it does not compile. -/
def run? (c : FormatCall) (env : Environment) : Option (Except Panic (List Char)) := do
  let items ← c.items?
  let fragments ← items.mapM (c.fragment? env)
  some (Scratch.format Options.stackLimit fragments)

end FormatCall

/-- The locals of a running body: its buffer, its cursor and the text that was bound last. -/
structure Frame extends Cursor where
  bound : List UInt8 := []
  deriving DecidableEq, Repr

def View.read (v : Value) : View → Except Panic (List Char)
  | .text => .ok v.text
  | .display => v.display.toText
  | .debug => v.debug.toText

def Payload.value (f : Frame) : Payload → List UInt8
  | .byte b => [b]
  | .bytes bs => bs
  | .bound => f.bound

namespace Statement

def run (env : Environment) (f : Frame) : Statement → Except Panic Frame
  | .bind view param => do return { f with bound := Text.encode (← view.read (env param)) }
  | .ensure payload => do
    return { f with buffer := ← f.buffer.grow (f.pos + (payload.value f).length) }
  | .store payload => do return { f with buffer := ← f.buffer.store f.pos (payload.value f) }
  | .advance payload => .ok { f with pos := f.pos + (payload.value f).length }
  | .format param => do
    let (_, c) ← f.toCursor.format (env param).writable
    return { f with toCursor := c }

def runAll (env : Environment) : Frame → List Statement → Option Panic × Frame
  | f, [] => (none, f)
  | f, s :: rest =>
    match s.run env f with
    | .ok f => runAll env f rest
    | .error panic => (some panic, f)

end Statement

structure Run where
  result : Except Panic (List Char)
  pool : Pool

namespace BufferWrites

def fixedText : List Char := "<named-format: template mismatch>".toList

def acquire (b : BufferWrites) (pool : Pool) : Except Panic Buffer × Pool :=
  match b.storage with
  | .stack size => (.ok (.ofSize size), pool)
  | .pooled size =>
    match pool.lend size with
    | .ok (buffer, pool) => (.ok buffer, pool)
    | .error panic => (.error panic, pool.refuse)

/-- A rented buffer goes back however the body ends. -/
def release (b : BufferWrites) (buffer : Buffer) (pool : Pool) : Pool :=
  match b.storage with
  | .stack _ => pool
  | .pooled _ => pool.takeBack buffer

def run (b : BufferWrites) (pool : Pool) (env : Environment) : Run :=
  match b.acquire pool with
  | (.error panic, pool) => ⟨.error panic, pool⟩
  | (.ok buffer, pool) =>
    let (panic?, f) := Statement.runAll env { buffer } b.statements
    { result :=
        match panic? with
        | some panic => .error panic
        | none =>
          match b.ending with
          | .written => f.text
          | .fixed => .ok fixedText
      pool := b.release f.buffer pool }

end BufferWrites

def Body.run? (body : Body) (pool : Pool) (env : Environment) : Option Run :=
  match body with
  | .formatCall call => (call.run? env).map fun result => ⟨result, pool⟩
  | .bufferWrites writes => some (writes.run pool env)

end Stencil
