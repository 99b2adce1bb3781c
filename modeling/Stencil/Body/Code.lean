import Stencil.Body

/-! Generated bodies as source code. -/
namespace Stencil

open Source

namespace Code

/-- The tree of one word of code: a name, a number, a quoted text or an operator. -/
def ofWord (word : List Char) : List Tree :=
  match word with
  | [] => []
  | c :: _ =>
    if c = '"' || Text.isDigit c then [.literal (String.ofList word)]
    else if c.isAlpha || c = '_' then [.ofName (String.ofList word)]
    else Tree.ofOperator word

def splitBlanks : List Char → List (List Char)
  | [] => [[]]
  | ' ' :: rest => [] :: splitBlanks rest
  | c :: rest =>
    match splitBlanks rest with
    | [] => [[c]]
    | word :: words => (c :: word) :: words

/-- Code without brackets, its words separated by blanks. -/
def code (text : String) : List Tree := (splitBlanks text.toList).flatMap ofWord

/-- The module that generated code calls. -/
def support : List Tree := code ":: named_format :: __private"

def size (n : Nat) : List Tree := [.literal (toString n ++ "usize")]

def call : List Tree := [.parens []]

def uncheckedBlock (body : List Tree) : List Tree := code "unsafe" ++ [.braces body]

def byteText (bs : List UInt8) : List Tree := [.literal (String.ofList (Text.quoteBytes bs))]
def byteLiteral (b : UInt8) : List Tree := [.literal (String.ofList (Text.quoteByte b))]

end Code

open Code

namespace FormatCall

def trees (c : FormatCall) : List Tree :=
  let args := c.args.flatMap fun (name, param) =>
    code "," ++ [.ofName name] ++ code "=" ++ [.ofName param]
  support ++ code ":: format_with_scratch :: <" ++ size Options.stackLimit ++ code ">"
    ++ [.parens (code ":: core :: format_args !" ++ [.parens (.ofText c.format :: args)])]

end FormatCall

namespace Storage

def trees : Storage → List Tree
  | .stack n => support ++ code ":: StackBuffer :: <" ++ size n ++ code "> :: new" ++ call
  | .pooled n =>
    support ++ code ":: BufferPool :: shared" ++ call ++ code ". rent" ++ [.parens (size n)]

end Storage

namespace Payload

def trees : Payload → List Tree
  | .byte b => byteLiteral b
  | .bytes bs => byteText bs
  | .bound => code "__s . as_bytes" ++ call

def lengthTrees : Payload → List Tree
  | .byte _ => code "1"
  | .bytes bs => size bs.length
  | .bound => code "__s . len" ++ call

end Payload

namespace Statement

/-- A store of one byte is an assignment, any other is a copy. -/
def storeTrees (unchecked : Bool) (payload : Payload) : List Tree :=
  match payload with
  | .byte _ =>
    if unchecked then
      uncheckedBlock (code "* __buf . as_mut_slice" ++ call ++ code ". get_unchecked_mut"
        ++ [.parens (code "__pos")] ++ code "=" ++ payload.trees ++ code ";")
    else
      code "__buf . as_mut_slice" ++ call ++ [.brackets (code "__pos")] ++ code "="
        ++ payload.trees ++ code ";"
  | .bytes _ | .bound =>
    if unchecked then
      uncheckedBlock (code ":: core :: ptr :: copy_nonoverlapping"
        ++ [.parens ([.parens payload.trees] ++ code ". as_ptr" ++ call
          ++ code ", __buf . as_mut_slice" ++ call ++ code ". as_mut_ptr" ++ call
          ++ code ". add" ++ [.parens (code "__pos")] ++ code "," ++ payload.lengthTrees
          ++ code ",")]
        ++ code ";")
    else
      code "__buf . as_mut_slice" ++ call
        ++ [.brackets (code "__pos .. __pos +" ++ payload.lengthTrees)]
        ++ code ". copy_from_slice" ++ [.parens payload.trees] ++ code ";"

def borrow (param : String) : List Tree := [.parens (code "&" ++ [.ofName param])]

def bindTrees (param : String) : View → List Tree
  | .text =>
    code "let __s : & str = :: core :: convert :: AsRef :: < str > :: as_ref" ++ borrow param
  | .display => code "let __s = :: std :: string :: ToString :: to_string" ++ borrow param
  | .debug =>
    code "let __s = :: std :: format !" ++ [.parens (code "\"\x7b:?\x7d\" ," ++ [.ofName param])]

def trees (unchecked : Bool) : Statement → List Tree
  | .bind view param => bindTrees param view ++ code ";"
  | .ensure payload =>
    code "__buf . ensure" ++ [.parens (code "__pos +" ++ payload.lengthTrees)] ++ code ";"
  | .store payload => storeTrees unchecked payload
  | .advance payload => code "__pos +=" ++ payload.lengthTrees ++ code ";"
  | .format param =>
    code "__pos += __buf . format_at"
      ++ [.parens (code "__pos , &" ++ [.ofName param])] ++ code ";"

end Statement

/-- The statements of one step; what is bound in it is bound in a block of its own. -/
def Write.trees (unchecked : Bool) (w : Write) : List Tree :=
  let body := w.statements.flatMap (Statement.trees unchecked)
  match w with
  | .byte _ | .bytes _ | .value .selfWriting _ => body
  | .value _ _ => [.braces body]

namespace BufferWrites

def setup (b : BufferWrites) : List Tree :=
  code "use" ++ support ++ code ":: Buffer as _ ;"
    ++ code "let mut __buf =" ++ b.storage.trees ++ code ";"
    ++ code "let mut __pos : usize = 0 ;"

def endingTrees (b : BufferWrites) : List Tree :=
  match b.ending with
  | .written =>
    if b.unchecked then uncheckedBlock (code "__buf . finish_unchecked" ++ [.parens (code "__pos")])
    else code "__buf . finish" ++ [.parens (code "__pos")]
  | .fixed =>
    code "let _ =" ++ [.parens (code "& mut __buf , __pos")] ++ code ";"
      ++ code ":: std :: string :: String :: from" ++ [.parens (support ++ code ":: FALLBACK")]

def trees (b : BufferWrites) : List Tree :=
  b.setup ++ b.writes.flatMap (Write.trees b.unchecked) ++ b.endingTrees

end BufferWrites

def Body.trees : Body → List Tree
  | .formatCall call => call.trees
  | .bufferWrites writes => writes.trees

end Stencil
