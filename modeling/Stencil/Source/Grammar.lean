import Stencil.Source.Grammar.Impl
import Stencil.Source.Lexeme

/-! Reading a source text: the grammars that refer to each other are tied together here. -/
namespace Stencil.Source

def Nested.above (n : Nested) : Nested where
  type := Grammar.type n
  bound := Grammar.bound n
  pattern := Grammar.pattern n
  expr := Grammar.expr n
  operators := Grammar.operators n
  operand := Grammar.operand n
  arms := Grammar.arms n
  statements := Grammar.statements n
  fields := Grammar.fieldDeclarations n
  useTree := Grammar.useTree n
  item := Grammar.item n

/-- The grammars of texts that are nested at most so deep. -/
def Nested.level : Nat → Nested
  | 0 => .none
  | depth + 1 => (level depth).above

/-- No text is nested deeper than this. -/
def depthLimit (trees : List Tree) : Nat := 4 * sizeOfAll trees + 16

def phrase? {α : Type} (p : Nested → Parser α) (trees : List Tree) : Option α :=
  (p (.level (depthLimit trees))).all trees

def read? {α : Type} (p : Nested → Parser α) (text : List Char) : Option α :=
  (trees? text).bind (phrase? p)

def Ty.read? : List Char → Option Ty := Source.read? fun n => n.type true

def readOutput? : List Char → Option (Option Ty) := Source.read? fun n => Grammar.output n true

def Impl.read? : List Char → Option Impl := Source.read? Grammar.implBlock

def ImplItem.read? : List Char → Option ImplItem := Source.read? Grammar.implItem

/-- The text of a file after its byte order mark and its first line, if that tells which program
runs it. -/
def fileText (text : List Char) : List Char :=
  let text := if text.head? = some '\ufeff' then text.drop 1 else text
  if Lexeme.startsWith "#!" text && (skipped (text.drop 2)).head? ≠ some '[' then
    text.dropWhile (· ≠ '\n')
  else text
where
  skipped (text : List Char) : List Char := ((Lexeme.blanks text).map Prod.snd).getD text

def readFile? (text : List Char) : Option (List Item) :=
  read? (fun n => do
    let _ ← Grammar.innerTrees n
    return (← Grammar.items n).map Prod.fst) (fileText text)

end Stencil.Source
