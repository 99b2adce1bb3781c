import Stencil.Proofs.Body.Strategies
import Stencil.Proofs.ParameterNames

/-! A generated body as it is written down, where identifiers are plain names, and what scoping
makes of these names. -/
namespace Stencil

open Source Code

inductive Local where
  | buffer
  | cursor
  | text
  deriving DecidableEq, Repr

def Local.name : Local → String
  | .buffer => "__buf"
  | .cursor => "__pos"
  | .text => "__s"

inductive Referent where
  | own (l : Local)
  | param (name : String)
  deriving DecidableEq, Repr

def Referent.spelling : Referent → String
  | .own l => l.name
  | .param name => name

inductive Chunk (ι : Type) where
  | byte (b : UInt8)
  | bytes (bs : List UInt8)
  | text (x : ι)
  deriving DecidableEq, Repr

inductive Amount (ι : Type) where
  | one
  | size (n : Nat)
  | length (x : ι)
  deriving DecidableEq, Repr

/-- A line of a generated body with the identifiers that stand in it. -/
inductive Line (ι : Type) where
  | bind (x : ι) (view : View) (arg : ι)
  | ensure (buf pos : ι) (amount : Amount ι)
  | store (buf pos : ι) (chunk : Chunk ι)
  | advance (pos : ι) (amount : Amount ι)
  | format (pos buf arg : ι)
  deriving DecidableEq, Repr

/-- The lines of one write, which may stand in a block of their own. -/
structure Step (ι : Type) where
  inBlock : Bool
  lines : List (Line ι)
  deriving DecidableEq, Repr

structure Program (ι : Type) where
  storage : Storage
  unchecked : Bool
  /-- The identifiers that are declared for the buffer and the cursor. -/
  buffer : ι
  cursor : ι
  steps : List (Step ι)
  ending : Ending
  /-- The identifiers in the ending. -/
  lastBuffer : ι
  lastCursor : ι
  deriving DecidableEq, Repr

section Map

variable {ι κ : Type} (f : ι → κ)

def Chunk.map : Chunk ι → Chunk κ
  | .byte b => .byte b
  | .bytes bs => .bytes bs
  | .text x => .text (f x)

def Amount.map : Amount ι → Amount κ
  | .one => .one
  | .size n => .size n
  | .length x => .length (f x)

def Line.map : Line ι → Line κ
  | .bind x view arg => .bind (f x) view (f arg)
  | .ensure buf pos amount => .ensure (f buf) (f pos) (amount.map f)
  | .store buf pos chunk => .store (f buf) (f pos) (chunk.map f)
  | .advance pos amount => .advance (f pos) (amount.map f)
  | .format pos buf arg => .format (f pos) (f buf) (f arg)

def Step.map (s : Step ι) : Step κ := ⟨s.inBlock, s.lines.map (Line.map f)⟩

def Program.map (p : Program ι) : Program κ where
  storage := p.storage
  unchecked := p.unchecked
  buffer := f p.buffer
  cursor := f p.cursor
  steps := p.steps.map (Step.map f)
  ending := p.ending
  lastBuffer := f p.lastBuffer
  lastCursor := f p.lastCursor

end Map

/-! ### The text -/

def Chunk.trees : Chunk String → List Tree
  | .byte b => byteLiteral b
  | .bytes bs => byteText bs
  | .text x => [.ofName x] ++ code ". as_bytes" ++ call

def Amount.trees : Amount String → List Tree
  | .one => code "1"
  | .size n => Code.size n
  | .length x => [.ofName x] ++ code ". len" ++ call

def Chunk.amount {ι : Type} : Chunk ι → Amount ι
  | .byte _ => .one
  | .bytes bs => .size bs.length
  | .text x => .length x

namespace Line

def storeTrees (unchecked : Bool) (buf pos : String) (chunk : Chunk String) : List Tree :=
  let slice := [.ofName buf] ++ code ". as_mut_slice" ++ call
  match chunk with
  | .byte _ =>
    if unchecked then
      uncheckedBlock (code "*" ++ slice ++ code ". get_unchecked_mut" ++ [.parens [.ofName pos]]
        ++ code "=" ++ chunk.trees ++ code ";")
    else slice ++ [.brackets [.ofName pos]] ++ code "=" ++ chunk.trees ++ code ";"
  | .bytes _ | .text _ =>
    if unchecked then
      uncheckedBlock (code ":: core :: ptr :: copy_nonoverlapping"
        ++ [.parens ([.parens chunk.trees] ++ code ". as_ptr" ++ call ++ code "," ++ slice
          ++ code ". as_mut_ptr" ++ call ++ code ". add" ++ [.parens [.ofName pos]] ++ code ","
          ++ chunk.amount.trees ++ code ",")]
        ++ code ";")
    else
      slice ++ [.brackets ([.ofName pos] ++ code ".." ++ [.ofName pos] ++ code "+"
          ++ chunk.amount.trees)]
        ++ code ". copy_from_slice" ++ [.parens chunk.trees] ++ code ";"

def bindTrees (x arg : String) : View → List Tree
  | .text =>
    code "let" ++ [.ofName x] ++ code ": & str = :: core :: convert :: AsRef :: < str > :: as_ref"
      ++ [.parens (code "&" ++ [.ofName arg])]
  | .display =>
    code "let" ++ [.ofName x] ++ code "= :: std :: string :: ToString :: to_string"
      ++ [.parens (code "&" ++ [.ofName arg])]
  | .debug =>
    code "let" ++ [.ofName x] ++ code "= :: std :: format !"
      ++ [.parens (code "\"\x7b:?\x7d\" ," ++ [.ofName arg])]

def trees (unchecked : Bool) : Line String → List Tree
  | .bind x view arg => bindTrees x arg view ++ code ";"
  | .ensure buf pos amount =>
    [.ofName buf] ++ code ". ensure" ++ [.parens ([.ofName pos] ++ code "+" ++ amount.trees)]
      ++ code ";"
  | .store buf pos chunk => storeTrees unchecked buf pos chunk
  | .advance pos amount => [.ofName pos] ++ code "+=" ++ amount.trees ++ code ";"
  | .format pos buf arg =>
    [.ofName pos] ++ code "+=" ++ [.ofName buf] ++ code ". format_at"
      ++ [.parens ([.ofName pos] ++ code ", &" ++ [.ofName arg])] ++ code ";"

end Line

def Step.trees (unchecked : Bool) (s : Step String) : List Tree :=
  let body := s.lines.flatMap (Line.trees unchecked)
  if s.inBlock then [.braces body] else body

namespace Program

def endingTrees (p : Program String) : List Tree :=
  match p.ending with
  | .written =>
    if p.unchecked then
      uncheckedBlock ([.ofName p.lastBuffer] ++ code ". finish_unchecked"
        ++ [.parens [.ofName p.lastCursor]])
    else [.ofName p.lastBuffer] ++ code ". finish" ++ [.parens [.ofName p.lastCursor]]
  | .fixed =>
    code "let _ =" ++ [.parens (code "& mut" ++ [.ofName p.lastBuffer] ++ code ","
        ++ [.ofName p.lastCursor])]
      ++ code ";" ++ code ":: std :: string :: String :: from"
      ++ [.parens (support ++ code ":: FALLBACK")]

def setup (p : Program String) : List Tree :=
  code "use" ++ support ++ code ":: Buffer as _ ;"
    ++ (code "let mut" ++ [.ofName p.buffer] ++ code "=") ++ p.storage.trees ++ code ";"
    ++ (code "let mut" ++ [.ofName p.cursor] ++ code ": usize = 0 ;")

def trees (p : Program String) : List Tree :=
  p.setup ++ p.steps.flatMap (Step.trees p.unchecked) ++ p.endingTrees

end Program

/-! ### The identifiers that a body means -/

def Payload.chunk : Payload → Chunk Referent
  | .byte b => .byte b
  | .bytes bs => .bytes bs
  | .bound => .text (.own .text)

def Statement.line : Statement → Line Referent
  | .bind view param => .bind (.own .text) view (.param param)
  | .ensure payload => .ensure (.own .buffer) (.own .cursor) payload.chunk.amount
  | .store payload => .store (.own .buffer) (.own .cursor) payload.chunk
  | .advance payload => .advance (.own .cursor) payload.chunk.amount
  | .format param => .format (.own .cursor) (.own .buffer) (.param param)

def Write.inBlock : Write → Bool
  | .byte _ | .bytes _ | .value .selfWriting _ => false
  | .value _ _ => true

def Write.step (w : Write) : Step Referent := ⟨w.inBlock, w.statements.map Statement.line⟩

def BufferWrites.program (b : BufferWrites) : Program Referent where
  storage := b.storage
  unchecked := b.unchecked
  buffer := .own .buffer
  cursor := .own .cursor
  steps := b.writes.map Write.step
  ending := b.ending
  lastBuffer := .own .buffer
  lastCursor := .own .cursor

theorem Statement.trees_line (unchecked : Bool) (s : Statement) :
    (s.line.map Referent.spelling).trees unchecked = s.trees unchecked := by
  cases s with
  | bind view param => cases view <;> rfl
  | ensure payload => cases payload <;> rfl
  | store payload => cases payload <;> cases unchecked <;> rfl
  | advance payload => cases payload <;> rfl
  | format param => rfl

theorem Write.trees_step (unchecked : Bool) (w : Write) :
    (w.step.map Referent.spelling).trees unchecked = w.trees unchecked := by
  have hlines : ((w.statements.map Statement.line).map (Line.map Referent.spelling)).flatMap
      (Line.trees unchecked) = w.statements.flatMap (Statement.trees unchecked) := by
    rw [List.map_map, List.flatMap_map]
    congr 1
    funext s
    exact Statement.trees_line unchecked s
  unfold Step.trees Step.map Write.step Write.trees
  dsimp only
  rw [hlines]
  cases w with
  | byte b => rfl
  | bytes bs => rfl
  | value rendering param => cases rendering <;> rfl

/-- A body is written down with the names of its locals and its parameters. -/
theorem BufferWrites.trees_program (b : BufferWrites) :
    (b.program.map Referent.spelling).trees = b.trees := by
  have hsteps : ((b.writes.map Write.step).map (Step.map Referent.spelling)).flatMap
      (Step.trees b.unchecked) = b.writes.flatMap (Write.trees b.unchecked) := by
    rw [List.map_map, List.flatMap_map]
    congr 1
    funext w
    exact w.trees_step b.unchecked
  have hsetup : (b.program.map Referent.spelling).setup = b.setup := by
    have hbuffer : code "let mut" ++ [.ofName "__buf"] ++ code "=" = code "let mut __buf =" := rfl
    have hcursor : code "let mut" ++ [.ofName "__pos"] ++ code ": usize = 0 ;" =
        code "let mut __pos : usize = 0 ;" := rfl
    rw [BufferWrites.setup, ← hbuffer, ← hcursor]
    rfl
  have hending : (b.program.map Referent.spelling).endingTrees = b.endingTrees := by
    obtain ⟨storage, unchecked, writes, ending⟩ := b
    cases ending <;> cases unchecked <;> rfl
  rw [Program.trees, BufferWrites.trees, hsetup, hending, ← hsteps]
  rfl

/-! ### Scoping -/

/-- The identifiers that can be seen, the innermost first. -/
abbrev Scope := List (String × Referent)

/-- What a name stands for: whatever was declared under it last. -/
def Scope.find (scope : Scope) (name : String) : Option Referent :=
  (scope.find? fun entry => bareName entry.1 = bareName name).map Prod.snd

def Chunk.resolve (scope : Scope) : Chunk String → Option (Chunk Referent)
  | .byte b => some (.byte b)
  | .bytes bs => some (.bytes bs)
  | .text x => (scope.find x).map .text

def Amount.resolve (scope : Scope) : Amount String → Option (Amount Referent)
  | .one => some .one
  | .size n => some (.size n)
  | .length x => (scope.find x).map .length

namespace Line

def resolve (scope : Scope) : Line String → Option (Line Referent)
  | .bind _ view arg => do return .bind (.own .text) view (← scope.find arg)
  | .ensure buf pos amount => do
    return .ensure (← scope.find buf) (← scope.find pos) (← amount.resolve scope)
  | .store buf pos chunk => do
    return .store (← scope.find buf) (← scope.find pos) (← chunk.resolve scope)
  | .advance pos amount => do return .advance (← scope.find pos) (← amount.resolve scope)
  | .format pos buf arg => do
    return .format (← scope.find pos) (← scope.find buf) (← scope.find arg)

def after (scope : Scope) : Line String → Scope
  | .bind x _ _ => (x, .own .text) :: scope
  | _ => scope

def resolveAll : Scope → List (Line String) → Option (List (Line Referent) × Scope)
  | scope, [] => some ([], scope)
  | scope, l :: rest => do
    let first ← l.resolve scope
    let (others, scope) ← resolveAll (l.after scope) rest
    return (first :: others, scope)

end Line

namespace Step

/-- A block keeps to itself what is declared in it. -/
def resolve (scope : Scope) (s : Step String) : Option (Step Referent × Scope) := do
  let (lines, inner) ← Line.resolveAll scope s.lines
  return (⟨s.inBlock, lines⟩, if s.inBlock then scope else inner)

def resolveAll : Scope → List (Step String) → Option (List (Step Referent) × Scope)
  | scope, [] => some ([], scope)
  | scope, s :: rest => do
    let (first, scope) ← s.resolve scope
    let (others, scope) ← resolveAll scope rest
    return (first :: others, scope)

end Step

namespace Program

def scope (params : List String) (p : Program String) : Scope :=
  (p.cursor, .own .cursor) :: (p.buffer, .own .buffer) :: params.map fun name => (name, .param name)

def resolve (params : List String) (p : Program String) : Option (Program Referent) := do
  let (steps, scope) ← Step.resolveAll (p.scope params) p.steps
  let lastBuffer ← scope.find p.lastBuffer
  let lastCursor ← scope.find p.lastCursor
  return { p with buffer := .own .buffer, cursor := .own .cursor, steps, lastBuffer, lastCursor }

end Program

/-- What stands for a parameter in the text: a local of the same name hides it. -/
def Referent.seen : Referent → Referent
  | .own l => .own l
  | .param name =>
    if bareName name = "__pos" then .own .cursor
    else if bareName name = "__buf" then .own .buffer
    else .param name

theorem find_cons_of_eq {name other : String} (h : bareName other = bareName name) (r : Referent)
    (scope : Scope) : Scope.find ((other, r) :: scope) name = some r := by
  simp [Scope.find, h]

theorem find_cons_of_ne {name other : String} (h : bareName other ≠ bareName name) (r : Referent)
    (scope : Scope) : Scope.find ((other, r) :: scope) name = scope.find name := by
  simp [Scope.find, h]

/-- Among parameters with distinct names each is found under its own. -/
theorem find_params {params : List String} (h : (params.map bareName).Nodup) {name : String}
    (hname : name ∈ params) :
    Scope.find (params.map fun name => (name, .param name)) name = some (.param name) := by
  induction params with
  | nil => cases hname
  | cons first params ih =>
    rw [List.map_cons, List.nodup_cons] at h
    rcases List.mem_cons.mp hname with rfl | hname
    · exact find_cons_of_eq rfl _ _
    · have hne : bareName first ≠ bareName name := fun heq =>
        h.1 (heq ▸ List.mem_map_of_mem hname)
      rw [List.map_cons, find_cons_of_ne hne, ih h.2 hname]

/-- The locals can be seen, and each parameter unless one of them hides it. -/
structure Sees (scope : Scope) (params : List String) : Prop where
  buffer : scope.find "__buf" = some (.own .buffer)
  cursor : scope.find "__pos" = some (.own .cursor)
  param : ∀ name ∈ params, scope.find name = some (Referent.param name).seen

/-- What can be seen behind the declarations of a generated body. -/
def Scope.ofParams (params : List String) : Scope :=
  ("__pos", .own .cursor) :: ("__buf", .own .buffer) :: params.map fun name => (name, .param name)

theorem sees_ofParams {params : List String} (h : (params.map bareName).Nodup) :
    Sees (.ofParams params) params := by
  have hcursor : bareName "__pos" = "__pos" := rfl
  have hbuffer : bareName "__buf" = "__buf" := rfl
  constructor
  · exact (find_cons_of_ne (by decide) _ _).trans (find_cons_of_eq rfl _ _)
  · exact find_cons_of_eq rfl _ _
  · intro name hname
    dsimp only [Referent.seen, Scope.ofParams]
    by_cases hpos : bareName name = "__pos"
    · rw [if_pos hpos, find_cons_of_eq (hcursor.trans hpos.symm)]
    · rw [if_neg hpos, find_cons_of_ne fun heq => hpos (heq.symm.trans hcursor)]
      by_cases hbuf : bareName name = "__buf"
      · rw [if_pos hbuf, find_cons_of_eq (hbuffer.trans hbuf.symm)]
      · rw [if_neg hbuf, find_cons_of_ne fun heq => hbuf (heq.symm.trans hbuffer),
          find_params h hname]

def Write.param? : Write → Option String
  | .value _ param => some param
  | _ => none

variable {scope : Scope} {params : List String}

/-- The lines of a copy name nothing but locals, so they mean the same in the text. -/
theorem resolveAll_copy (hbuffer : scope.find "__buf" = some (.own .buffer))
    (hcursor : scope.find "__pos" = some (.own .cursor)) {payload : Payload}
    (hbound : payload = .bound → scope.find "__s" = some (.own .text)) :
    Line.resolveAll scope
        (((Statement.copy payload).map Statement.line).map (Line.map Referent.spelling)) =
      some (((Statement.copy payload).map Statement.line).map (Line.map Referent.seen), scope) := by
  cases payload <;>
    simp [Statement.copy, Statement.line, Payload.chunk, Chunk.amount, Line.map, Amount.map,
      Chunk.map, Referent.spelling, Local.name, Referent.seen, Line.resolveAll, Line.resolve,
      Line.after, Amount.resolve, Chunk.resolve, hbuffer, hcursor, hbound]

/-- A parameter is bound before the text that it is bound to can be seen, and the block ends before
anything else is bound. -/
theorem resolve_block (h : Sees scope params) (view : View) {param : String}
    (hparam : param ∈ params) :
    Step.resolve scope (Step.map Referent.spelling
        ⟨true, (.bind view param :: Statement.copy .bound).map Statement.line⟩) =
      some (Step.map Referent.seen
        ⟨true, (.bind view param :: Statement.copy .bound).map Statement.line⟩, scope) := by
  have hbuffer : Scope.find (("__s", .own .text) :: scope) "__buf" = some (.own .buffer) :=
    (find_cons_of_ne (by decide) _ _).trans h.buffer
  have hcursor : Scope.find (("__s", .own .text) :: scope) "__pos" = some (.own .cursor) :=
    (find_cons_of_ne (by decide) _ _).trans h.cursor
  have hcopy := resolveAll_copy hbuffer hcursor fun (_ : Payload.bound = .bound) =>
    find_cons_of_eq rfl _ _
  simp [-List.map_map, Step.resolve, Step.map, Line.resolveAll, Statement.line, Line.map,
    Line.resolve, Line.after, Referent.spelling, Local.name, Referent.seen, h.param param hparam,
    hcopy]

theorem resolve_step (h : Sees scope params) {w : Write} (hw : ∀ name ∈ w.param?, name ∈ params) :
    (w.step.map Referent.spelling).resolve scope = some (w.step.map Referent.seen, scope) := by
  have hcopied (payload : Payload) (hpayload : payload ≠ .bound) :
      Step.resolve scope (Step.map Referent.spelling
          ⟨false, (Statement.copy payload).map Statement.line⟩) =
        some (Step.map Referent.seen ⟨false, (Statement.copy payload).map Statement.line⟩,
          scope) := by
    have hcopy := resolveAll_copy h.buffer h.cursor fun hbound => absurd hbound hpayload
    simp [-List.map_map, Step.resolve, Step.map, hcopy]
  cases w with
  | byte b => exact hcopied (.byte b) (by simp)
  | bytes bs => exact hcopied (.bytes bs) (by simp)
  | value rendering param =>
    have hparam : param ∈ params := hw param rfl
    cases rendering with
    | plainText => exact resolve_block h .text hparam
    | displayed => exact resolve_block h .display hparam
    | debugged => exact resolve_block h .debug hparam
    | selfWriting =>
      -- nothing is declared for the value, so this step needs no block of its own
      simp [Write.step, Write.inBlock, Write.statements, Statement.line, Step.map, Line.map,
        Step.resolve, Line.resolveAll, Line.resolve, Line.after, Referent.spelling, Local.name,
        h.buffer, h.cursor, h.param param hparam, Referent.seen]

theorem resolveAll_steps (h : Sees scope params) {writes : List Write}
    (hwrites : ∀ w ∈ writes, ∀ name ∈ w.param?, name ∈ params) :
    Step.resolveAll scope ((writes.map Write.step).map (Step.map Referent.spelling)) =
      some ((writes.map Write.step).map (Step.map Referent.seen), scope) := by
  induction writes with
  | nil => rfl
  | cons w writes ih =>
    obtain ⟨hw, hwrites⟩ := List.forall_mem_cons.mp hwrites
    simp [-List.map_map, Step.resolveAll, resolve_step h hw, ih hwrites]

/-- In the text of a body the locals stand for themselves, and a parameter for itself unless one of
the locals hides it. -/
theorem resolve_spelled (hparams : (params.map bareName).Nodup) {b : BufferWrites}
    (hwrites : ∀ w ∈ b.writes, ∀ name ∈ w.param?, name ∈ params) :
    (b.program.map Referent.spelling).resolve params = some (b.program.map Referent.seen) := by
  have hsees := sees_ofParams hparams
  have hscope : (b.program.map Referent.spelling).scope params = .ofParams params := rfl
  have hsteps := resolveAll_steps hsees hwrites
  unfold Program.resolve
  rw [hscope]
  simp [-List.map_map, Program.map, BufferWrites.program, hsteps, Referent.spelling, Local.name,
    hsees.buffer, hsees.cursor, Referent.seen]

/-- No local hides the parameter. -/
def Unhidden (name : String) : Prop := bareName name ∉ ["__buf", "__pos"]

instance (name : String) : Decidable (Unhidden name) :=
  inferInstanceAs (Decidable (bareName name ∉ ["__buf", "__pos"]))

theorem seen_param_iff {name : String} :
    (Referent.param name).seen = .param name ↔ Unhidden name := by
  unfold Referent.seen Unhidden
  dsimp only
  split
  · next h => simp [h]
  · next hpos =>
    split
    · next h => simp [h]
    · next hbuf => simp [hpos, hbuf]

theorem map_seen_step_iff {w : Write} :
    w.step.map Referent.seen = w.step ↔ ∀ name ∈ w.param?, Unhidden name := by
  cases w with
  | byte b => exact iff_of_true rfl (by simp [Write.param?])
  | bytes bs => exact iff_of_true rfl (by simp [Write.param?])
  | value rendering param =>
    have hparam : (∀ name ∈ (Write.value rendering param).param?, Unhidden name) ↔
        (Referent.param param).seen = .param param := by
      simp [Write.param?, seen_param_iff]
    rw [hparam]
    cases rendering <;>
      simp [Step.map, Write.step, Write.statements, Statement.copy, Statement.line, Line.map,
        Payload.chunk, Chunk.amount, Chunk.map, Amount.map, Referent.seen]

/-- In the text each identifier stands for what it is meant for, exactly if no local hides a
parameter that is written. -/
theorem map_seen_program_iff {b : BufferWrites} :
    b.program.map Referent.seen = b.program ↔
      ∀ w ∈ b.writes, ∀ name ∈ w.param?, Unhidden name := by
  have hsteps : b.program.map Referent.seen = b.program ↔
      b.writes.map (fun w => w.step.map Referent.seen) = b.writes.map Write.step := by
    simp [Program.map, BufferWrites.program, Referent.seen, Function.comp_def]
  rw [hsteps, List.map_inj_left]
  exact forall₂_congr fun w hw => map_seen_step_iff

/-! ### The body that a text stands for -/

def View.rendering : View → Rendering
  | .text => .plainText
  | .display => .displayed
  | .debug => .debugged

namespace Step

/-- The only write that a step can be. -/
def candidate : Step Referent → Option Write
  | ⟨_, _ :: .store _ _ (.byte b) :: _⟩ => some (.byte b)
  | ⟨_, _ :: .store _ _ (.bytes bs) :: _⟩ => some (.bytes bs)
  | ⟨_, .format _ _ (.param name) :: _⟩ => some (.value .selfWriting name)
  | ⟨_, .bind _ view (.param name) :: _⟩ => some (.value view.rendering name)
  | _ => none

/-- The write that a step is, if each identifier stands for what its place asks for. -/
def write? (s : Step Referent) : Option Write := s.candidate.filter (·.step = s)

theorem write?_step (w : Write) : w.step.write? = some w := by
  have hcandidate : w.step.candidate = some w := by
    cases w with
    | byte b => rfl
    | bytes bs => rfl
    | value rendering param => cases rendering <;> rfl
  simp [write?, hcandidate]

end Step

namespace Program

/-- The body that a program is, if each identifier stands for what its place asks for. -/
def body? (p : Program Referent) : Option BufferWrites := do
  let writes ← p.steps.mapM Step.write?
  let b : BufferWrites := ⟨p.storage, p.unchecked, writes, p.ending⟩
  if b.program = p then some b else none

theorem body?_program (b : BufferWrites) : b.program.body? = some b := by
  have hwrites : (b.writes.map Write.step).mapM Step.write? = some b.writes := by
    induction b.writes with
    | nil => rfl
    | cons w writes ih => simp [List.mapM_cons, Step.write?_step, ih]
  have hsteps : b.program.steps = b.writes.map Write.step := rfl
  rw [body?, hsteps, hwrites]
  exact if_pos rfl

/-- Run a text with these parameters: scoping says what its identifiers stand for. -/
def run? (p : Program String) (params : List String) (pool : Pool) (env : Environment) :
    Option Run := do
  let b ← (← p.resolve params).body?
  return b.run pool env

end Program

theorem param?_literal (text : List Char) : (BufferWrites.literal text).param? = none := by
  unfold BufferWrites.literal
  split <;> rfl

/-- The parameters are written in their order, as many as there are holes. -/
theorem filterMap_param?_ofSegments (segments : List Template.Segment) (params : List Parameter) :
    (BufferWrites.ofSegments segments params).1.filterMap Write.param? =
      (params.take (Template.holeCount segments)).map Parameter.name := by
  induction segments generalizing params with
  | nil => rfl
  | cons segment segments ih =>
    cases segment with
    | literal text =>
      rw [Template.holeCount_literal, ← ih params, BufferWrites.ofSegments,
        List.filterMap_cons_none (param?_literal text)]
    | hole name =>
      cases params with
      | nil => simp [BufferWrites.ofSegments]
      | cons p params =>
        rw [Template.holeCount_hole, List.take_succ_cons, List.map_cons, ← ih params]
        rfl

/-- A bound method writes each of its parameters. -/
theorem filterMap_param?_of_bind {s : Stub} {owner : Owner} {options : Options} {m : Method}
    (h : s.bind owner options = .ok m) :
    (BufferWrites.ofTemplate m.template m.params options).writes.filterMap Write.param? =
      m.params.map Parameter.name := by
  have hwrites := filterMap_param?_ofSegments (Template.read m.template).segments m.params
  rwa [(Stub.read_of_bind h).2, List.take_length] at hwrites

/-- The text of a bound method's body is written with the names of its locals and parameters. Behind
the parameters' declarations, and where these have distinct names, every identifier in it stands for
what it is meant for exactly if no parameter is named like the buffer or the cursor. Then the text
on its own gives the filled template. -/
theorem Method.printed_body_iff {s : Stub} {owner : Owner} {options : Options} {m : Method}
    (hbind : s.bind owner options = .ok m)
    (hnames : (m.params.map fun p => bareName p.name).Nodup) :
    ∃ (b : BufferWrites) (text : Program String),
      m.body .bufferWrites options = .bufferWrites b ∧ b.trees = text.trees ∧
      text = b.program.map Referent.spelling ∧
      text.resolve (m.params.map Parameter.name) = some (b.program.map Referent.seen) ∧
      (text.resolve (m.params.map Parameter.name) = some b.program ↔
        ∀ p ∈ m.params, Unhidden p.name) ∧
      ((∀ p ∈ m.params, Unhidden p.name) → ∀ (pool : Pool) (env : Environment),
        (∀ p ∈ m.params, p.Agrees env) →
        (∀ size, options.bufferSize = some size → size ≤ Buffer.maxBytes) →
        Template.footprint env (Template.read m.template).segments m.params ≤ Buffer.ample →
        ∃ left, text.run? (m.params.map Parameter.name) pool env =
          some ⟨m.filled env, left⟩) := by
  have hwritten := filterMap_param?_of_bind hbind
  have hparams : ((m.params.map Parameter.name).map bareName).Nodup := by
    rwa [List.map_map]
  have hresolve := resolve_spelled hparams
    fun w hw name hname => hwritten ▸ List.mem_filterMap.mpr ⟨w, hw, hname⟩
  -- every parameter is written by some step, so what holds of the writes holds of the parameters
  have hunhidden : (∀ w ∈ (BufferWrites.ofTemplate m.template m.params options).writes,
      ∀ name ∈ w.param?, Unhidden name) ↔ ∀ p ∈ m.params, Unhidden p.name := by
    rw [← List.forall_mem_map, ← hwritten, List.forall_mem_filterMap]
    rfl
  refine ⟨_, _, rfl, (BufferWrites.trees_program _).symm, rfl, hresolve, ?_, ?_⟩
  · rw [hresolve, Option.some.injEq, map_seen_program_iff, hunhidden]
  · intro hfree pool env hagrees hsize hroom
    obtain ⟨hfault, hcount⟩ := Stub.read_of_bind hbind
    have hrun := BufferWrites.result_run_ofTemplate pool hfault (Nat.le_of_eq hcount) hagrees hsize
      hroom
    refine ⟨((BufferWrites.ofTemplate m.template m.params options).run pool env).pool, ?_⟩
    have hmeant := map_seen_program_iff.mpr (hunhidden.mpr hfree)
    simp only [Program.run?, hresolve, hmeant, Program.body?_program, Option.bind_eq_bind,
      Option.bind_some, Method.filled, ← hrun]
    rfl

/-- A parameter named like the text that is bound, a raw one, and one whose name only begins like
that of the buffer. -/
theorem Method.printed_body_iff_lookalikes :
    let m := Method.ofTemplate
      ['é', '\x7b', '\x7d', '-', '\x7b', 'n', '\x7d', '\x7b', 'v', '\x7d']
      [⟨"__s", .other [], .plainText⟩, ⟨"r#type", .other [], .selfWriting⟩,
        ⟨"__buffer", .other [], .debugged⟩]
    let options : Options := { unchecked := true, bufferSize := some 200 }
    let pool : Pool := { free := [[0xff, 0x41]] }
    let env : Environment := fun name =>
      .ofForms (if name = "r#type" then ['7'] else ['ü']) ['<', 'v', '>']
    m.toStub.bind m.owner options = .ok m ∧
    ∃ (b : BufferWrites) (text : Program String),
      m.body .bufferWrites options = .bufferWrites b ∧ b.trees = text.trees ∧
      text.resolve (m.params.map Parameter.name) = some b.program ∧
      ∃ left, text.run? (m.params.map Parameter.name) pool env =
        some ⟨.ok ['é', 'ü', '-', '7', '<', 'v', '>'], left⟩ := by
  intro m options pool env
  have hread : Template.read m.template = ⟨[.literal ['é'], .hole [], .literal ['-'], .hole ['n'],
    .hole ['v']], none⟩ := by cbv
  have hfilled : m.filled env = .ok ['é', 'ü', '-', '7', '<', 'v', '>'] := by
    unfold Method.filled
    rw [hread]
    rfl
  have hagrees : ∀ p ∈ m.params, p.Agrees env := by
    intro p hp
    simp only [m, ofTemplate, List.mem_cons, List.not_mem_nil, or_false] at hp
    rcases hp with rfl | rfl | rfl
    · rfl
    · exact ⟨['7'], rfl, Writable.writes_ofBytes (.inr (by decide))⟩
    · trivial
  have hbind : m.toStub.bind m.owner options = .ok m := rfl
  have hfree : ∀ p ∈ m.params, Unhidden p.name := by decide +kernel
  obtain ⟨b, text, hbody, htrees, -, -, hresolve, hrun⟩ :=
    Method.printed_body_iff hbind (by decide +kernel)
  refine ⟨hbind, b, text, hbody, htrees, hresolve.mpr hfree, ?_⟩
  rw [← hfilled]
  refine hrun hfree pool env hagrees ?_ ?_
  · rintro size ⟨⟩
    decide
  · rw [hread]
    decide +kernel

set_option maxRecDepth 20000 in
/-- A parameter that is named like the cursor: in the text the cursor itself is written in its
place. -/
theorem Method.printed_body_writes_cursor :
    ∃ item s, ImplItem.read? "#[template(\"\x7ba\x7d\")] fn f(__pos: u32) -> String;".toList =
        some item ∧
      Stub.inspect item = .ok (.stub s) ∧ s.params.map Parameter.name = ["__pos"] ∧
      ∀ owner, ∃ (m : Method) (b : BufferWrites) (text : Program String),
        s.bind owner {} = .ok m ∧ m.body .bufferWrites {} = .bufferWrites b ∧
        b.trees = text.trees ∧
        b.program.steps = [⟨false, [.format (.own .cursor) (.own .buffer) (.param "__pos")]⟩] ∧
        (text.resolve ["__pos"]).map Program.steps =
          some [⟨false, [.format (.own .cursor) (.own .buffer) (.own .cursor)]⟩] := by
  have hfacts : (Stub.ofText? "#[template(\"\x7ba\x7d\")] fn f(__pos: u32) -> String;".toList).map
      (fun s => (s.params.map Parameter.name, (s.problem? {}).isNone,
        BufferWrites.ofTemplate s.template s.params {})) =
      some (["__pos"], true, ⟨.stack 128, false, [.value .selfWriting "__pos"], .written⟩) := by
    decide +kernel
  obtain ⟨item, s, hitem, hfound, hfacts⟩ := Stub.exists_of_map_ofText? hfacts
  simp only [Prod.mk.injEq] at hfacts
  obtain ⟨hnames, hproblem, hbody⟩ := hfacts
  refine ⟨item, s, hitem, hfound, hnames, fun owner => ?_⟩
  have hbind : s.bind owner {} = .ok ⟨s, owner⟩ :=
    Stub.bind_eq_ok_iff.mpr ⟨Option.isNone_iff_eq_none.mp hproblem, rfl, rfl⟩
  refine ⟨_, _, _, hbind, rfl, (BufferWrites.trees_program _).symm, ?_, ?_⟩
  · rw [hbody]
    rfl
  · rw [hbody]
    decide +kernel

end Stencil
