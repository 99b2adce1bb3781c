import Stencil.Body.Code
import Stencil.Body.Run
import Stencil.Proofs.Source.Quoting
import Stencil.Proofs.Source.Spelling
import Stencil.Proofs.Template.Balance

/-! The format that parameters make of a template reads back as the template's text with their
places in it. -/
namespace Stencil

/-- The name of a parameter is an identifier, raw or plain. -/
def Parameter.Named (p : Parameter) : Prop :=
  Source.Lexeme.anyWord p.name.toList = some (p.name.toList, [])

/-- How a parameter shows itself: one of which nothing is known in its debug form, any other in its
display form. -/
def Parameter.showing (env : Environment) (p : Parameter) : Showing :=
  if p.rendering = .debugged then (env p.name).debug else (env p.name).display

namespace FormatCall

open Template

/-- A name without the characters that mean something inside a place of a format. -/
def Safe (name : List Char) : Prop := Plain name ∧ ':' ∉ name

theorem escape_plain {text : List Char} (hp : Plain text) (rest : List Char) :
    escape (text ++ rest) = text ++ escape rest := by
  induction text with
  | nil => rfl
  | cons c text ih =>
    obtain ⟨hc, htext⟩ := plain_cons.mp hp
    have ih := ih htext
    simp only [escape, List.cons_append, List.flatMap_cons, hc, Bool.false_eq_true, ↓reduceIte,
      List.nil_append] at ih ⊢
    rw [ih]

theorem fill_nil (params : List Parameter) : fill params [] = ⟨[], []⟩ := by
  cases params <;> rfl

/-- Text before the first hole stays as it is. -/
theorem fill_plain {text : List Char} (hp : Plain text) (params : List Parameter)
    (rest : List Char) :
    fill params (text ++ rest) =
      ⟨text ++ (fill params rest).format, (fill params rest).args⟩ := by
  cases params with
  | nil => simp only [fill, escape_plain hp]
  | cons p params =>
    have hne : ∀ c ∈ text, decide (c ≠ '\x7b') = true := by
      intro c hc
      exact decide_eq_true (isBrace_eq_false.mp (hp c hc)).1
    simp only [fill, List.takeWhile_append_of_pos hne, List.dropWhile_append_of_pos hne,
      escape_plain hp]
    split
    · rfl
    · split
      · simp
      · simp

theorem decide_ne_of_notMem {c : Char} {text : List Char} (h : c ∉ text) :
    ∀ d ∈ text, decide (d ≠ c) = true := by
  intro d hd
  apply decide_eq_true
  rintro rfl
  exact h hd

theorem takeWhile_ne {c : Char} {text : List Char} (h : c ∉ text) (rest : List Char) :
    (text ++ c :: rest).takeWhile (· ≠ c) = text := by
  rw [List.takeWhile_append_of_pos (decide_ne_of_notMem h)]
  simp

theorem dropWhile_ne {c : Char} {text : List Char} (h : c ∉ text) (rest : List Char) :
    (text ++ c :: rest).dropWhile (· ≠ c) = c :: rest := by
  rw [List.dropWhile_append_of_pos (decide_ne_of_notMem h)]
  simp

/-- The next parameter takes the place of what stands from the first opening brace to the first
closing brace behind it. -/
theorem fill_closed {before body : List Char} (hbefore : '\x7b' ∉ before) (hbody : '\x7d' ∉ body)
    (p : Parameter) (params : List Parameter) (rest : List Char) :
    fill (p :: params) (before ++ '\x7b' :: (body ++ '\x7d' :: rest)) =
      ⟨escape before ++ (placeholder p ++ (fill params rest).format),
        (argumentName p.name, p.name) :: (fill params rest).args⟩ := by
  have hmem : '\x7d' ∉ '\x7b' :: body := by simpa using hbody
  have hclose : ('\x7b' :: (body ++ '\x7d' :: rest)).dropWhile (· ≠ '\x7d') = '\x7d' :: rest :=
    dropWhile_ne hmem rest
  simp only [fill, takeWhile_ne hbefore, dropWhile_ne hbefore, hclose]
  simp

theorem fill_hole {name : List Char} (hp : Plain name) (p : Parameter) (params : List Parameter)
    (rest : List Char) :
    fill (p :: params) ('\x7b' :: (name ++ '\x7d' :: rest)) =
      ⟨placeholder p ++ (fill params rest).format,
        (argumentName p.name, p.name) :: (fill params rest).args⟩ := by
  have hname : '\x7d' ∉ name := fun hmem => (isBrace_eq_false.mp (hp _ hmem)).2 rfl
  exact fill_closed List.not_mem_nil hname p params rest

/-- Escaped text reads back as its characters. -/
theorem readItems_escape (text rest : List Char) :
    readItems .outside (escape text ++ rest) =
      (readItems .outside rest).map (text.map .char ++ ·) := by
  induction text with
  | nil => simp [escape]
  | cons c text ih =>
    simp only [escape] at ih
    by_cases hc : isBrace c = true
    · simp only [escape, List.flatMap_cons, hc, ↓reduceIte, List.cons_append, List.nil_append,
        readItems, ih, Option.map_map]
      rfl
    · simp only [escape, List.flatMap_cons, hc, Bool.false_eq_true, ↓reduceIte, List.cons_append,
        List.nil_append, readItems, ih, Option.map_map]
      rfl

theorem items?_escape (text : List Char) (args : List (String × String)) :
    items? ⟨escape text, args⟩ = some (text.map .char) := by
  have hread := readItems_escape text []
  rw [List.append_nil] at hread
  simp [items?, hread, readItems]

theorem readItems_plain {text : List Char} (hp : Plain text) (rest : List Char) :
    readItems .outside (text ++ rest) =
      (readItems .outside rest).map (text.map .char ++ ·) := by
  have hescape : escape text = text := by simpa [escape] using escape_plain hp []
  rw [← readItems_escape, hescape]

/-- Inside a place everything up to the closing brace belongs to it. -/
theorem readItems_inside {text : List Char} (hp : Plain text) (read rest : List Char) :
    readItems (.inside read) (text ++ '\x7d' :: rest) =
      (readItems .outside rest).map (argItem (read.reverse ++ text) :: ·) := by
  induction text generalizing read with
  | nil => simp [readItems]
  | cons c text ih =>
    obtain ⟨hc, htext⟩ := plain_cons.mp hp
    rw [isBrace_eq_false] at hc
    simp only [List.cons_append, readItems, hc, ↓reduceIte, ih htext, List.reverse_cons,
      List.append_assoc, List.nil_append]

theorem readItems_place {text : List Char} (hp : Plain text) (rest : List Char) :
    readItems .outside ('\x7b' :: (text ++ '\x7d' :: rest)) =
      (readItems .outside rest).map (argItem text :: ·) := by
  cases text with
  | nil => simp [readItems, isBrace]
  | cons c text =>
    obtain ⟨hc, htext⟩ := plain_cons.mp hp
    rw [isBrace_eq_false] at hc
    have hinside := readItems_inside htext [c] rest
    simpa [readItems, isBrace, hc] using hinside

theorem argItem_display {name : List Char} (h : ':' ∉ name) :
    argItem name = .arg (String.ofList name) false := by
  unfold argItem
  split
  · next start hreverse =>
    have hmem : ':' ∈ name.reverse := by simp [hreverse]
    exact absurd (List.mem_reverse.mp hmem) h
  · rfl

theorem argItem_debug (name : List Char) :
    argItem (name ++ [':', '?']) = .arg (String.ofList name) true := by
  simp [argItem]

/-- The place of a parameter reads back as its name and the way in which it is shown. -/
theorem readItems_placeholder {p : Parameter} (h : Safe (argumentName p.name).toList)
    (rest : List Char) :
    readItems .outside (placeholder p ++ rest) =
      (readItems .outside rest).map
        (.arg (argumentName p.name) (p.rendering = .debugged) :: ·) := by
  obtain ⟨hp, hcolon⟩ := h
  unfold placeholder
  by_cases hdebug : p.rendering = .debugged
  · have hmark : Plain [':', '?'] := by simp [Plain, isBrace]
    have hread := readItems_place (hp.append hmark) rest
    rw [argItem_debug, String.ofList_toList] at hread
    simpa [hdebug] using hread
  · have hread := readItems_place hp rest
    rw [argItem_display hcolon, String.ofList_toList] at hread
    simpa [hdebug] using hread

def itemsOf : List Segment → List Parameter → List Item
  | [], _ | .hole _ :: _, [] => []
  | .literal text :: segments, params => text.map .char ++ itemsOf segments params
  | .hole _ :: segments, p :: params =>
    .arg (argumentName p.name) (p.rendering = .debugged) :: itemsOf segments params

def argumentsOf (params : List Parameter) : List (String × String) :=
  params.map fun p => (argumentName p.name, p.name)

/-- A template that is read without a fault takes as many arguments as it has holes. -/
theorem args_fill {s : List Char} {n : Nat} {reading : Reading} (h : Reads s n reading)
    (hfault : reading.fault = none) {params : List Parameter}
    (hholes : holeCount reading.segments ≤ params.length) :
    (fill params s).args = argumentsOf (params.take (holeCount reading.segments)) := by
  induction h generalizing params with
  | ended =>
    rw [fill_nil]
    cases params <;> rfl
  | unmatched => cases hfault
  | unclosed hp => cases hfault
  | nested hp => cases hfault
  | @hole n text after reading hp h ih =>
    rw [Reading.cons, holeCount_hole] at hholes ⊢
    cases params with
    | nil => simp at hholes
    | cons p params =>
      rw [fill_hole hp, List.take_succ_cons, ih hfault (Nat.le_of_succ_le_succ hholes)]
      rfl
  | @literal n text after reading hp hne hb h ih =>
    rw [Reading.cons, holeCount_literal] at hholes ⊢
    rw [fill_plain hp]
    exact ih hfault hholes

/-- It makes a format that reads back as its segments. -/
theorem items?_fill {s : List Char} {n : Nat} {reading : Reading} (h : Reads s n reading)
    (hfault : reading.fault = none) {params : List Parameter}
    (hholes : holeCount reading.segments ≤ params.length)
    (hsafe : ∀ p ∈ params, Safe (argumentName p.name).toList) :
    (fill params s).items? = some (itemsOf reading.segments params) := by
  induction h generalizing params with
  | ended =>
    rw [fill_nil]
    cases params <;> rfl
  | unmatched => cases hfault
  | unclosed hp => cases hfault
  | nested hp => cases hfault
  | @hole n text after reading hp h ih =>
    rw [Reading.cons, holeCount_hole] at hholes
    cases params with
    | nil => simp at hholes
    | cons p params =>
      rw [List.forall_mem_cons] at hsafe
      have hitems := ih hfault (Nat.le_of_succ_le_succ hholes) hsafe.2
      rw [fill_hole hp, items?, readItems_placeholder hsafe.1, ← items?, hitems]
      rfl
  | @literal n text after reading hp hne hb h ih =>
    rw [Reading.cons, holeCount_literal] at hholes
    have hitems := ih hfault hholes hsafe
    rw [fill_plain hp, items?, readItems_plain hp, ← items?, hitems]
    rfl

/-- Under distinct names every parameter is found under its own. -/
theorem lookup_argumentsOf {params : List Parameter}
    (hnames : (params.map fun p => argumentName p.name).Nodup) {p : Parameter} (hp : p ∈ params) :
    (argumentsOf params).lookup (argumentName p.name) = some p.name := by
  induction params with
  | nil => cases hp
  | cons q params ih =>
    rw [List.map_cons, List.nodup_cons] at hnames
    rcases List.mem_cons.mp hp with rfl | hp
    · simp [argumentsOf]
    · have hne : argumentName p.name ≠ argumentName q.name := by
        intro heq
        exact hnames.1 (heq ▸ List.mem_map_of_mem hp)
      have hlookup := ih hnames.2 hp
      unfold argumentsOf at hlookup ⊢
      rw [List.map_cons, List.lookup_cons, beq_false_of_ne hne]
      exact hlookup

def fragmentsOf (env : Environment) : List Segment → List Parameter → List Fragment
  | [], _ | .hole _ :: _, [] => []
  | .literal text :: segments, params =>
    (text.map fun c => .literal [c]) ++ fragmentsOf env segments params
  | .hole _ :: segments, p :: params =>
    .value (p.showing env) :: fragmentsOf env segments params

theorem mapM_char (c : FormatCall) (env : Environment) (text : List Char) :
    (text.map Item.char).mapM (c.fragment? env) = some (text.map fun x => .literal [x]) := by
  induction text with
  | nil => rfl
  | cons x text ih =>
    rw [List.map_cons, List.mapM_cons, ih]
    rfl

theorem mapM_fragment? (c : FormatCall) (env : Environment) (segments : List Segment)
    {params : List Parameter} (hlookup : ∀ p ∈ params.take (holeCount segments),
      c.args.lookup (argumentName p.name) = some p.name) :
    (itemsOf segments params).mapM (c.fragment? env) = some (fragmentsOf env segments params) := by
  induction segments generalizing params with
  | nil => rfl
  | cons segment segments ih =>
    cases segment with
    | literal text =>
      rw [holeCount_literal] at hlookup
      rw [itemsOf, fragmentsOf, List.mapM_append, mapM_char, ih hlookup]
      rfl
    | hole name =>
      cases params with
      | nil => rfl
      | cons p params =>
        rw [holeCount_hole, List.take_succ_cons, List.forall_mem_cons] at hlookup
        rw [itemsOf, fragmentsOf, List.mapM_cons, ih hlookup.2]
        simp [fragment?, hlookup.1, Parameter.showing]

/-- Identifiers mean nothing else inside a format. -/
theorem safe_word {cs name rest : List Char} (h : Source.Lexeme.word cs = some (name, rest)) :
    Safe name := by
  have hword {c : Char} (hc : c ∈ name) : (Text.isWordStart c || Text.isWordRest c) = true := by
    rw [Bool.or_eq_true]
    exact Source.Lexeme.mem_word h hc
  constructor
  · intro c hc
    rw [isBrace_eq_false]
    constructor
    · rintro rfl
      exact absurd (hword hc) (by decide)
    · rintro rfl
      exact absurd (hword hc) (by decide)
  · intro hc
    exact absurd (hword hc) (by decide)

/-- Inside a format every parameter goes by a plain identifier. -/
theorem word_argumentName {p : Parameter} (h : p.Named) :
    Source.Lexeme.word (argumentName p.name).toList =
      some ((argumentName p.name).toList, []) := by
  unfold Parameter.Named Source.Lexeme.anyWord at h
  unfold argumentName
  split
  · next rest hname =>
    have hraw : Source.Lexeme.startsWith "r#" p.name.toList = true := by
      rw [hname]
      rfl
    rw [if_pos hraw, hname] at h
    split at h
    · next name rest' hword =>
      split at h
      · cases h
      · simp only [Option.some.injEq, Prod.mk.injEq, List.cons.injEq, true_and] at h
        have hrest : (String.ofList rest).toList = rest := String.toList_ofList
        rw [String.toList_append, hrest]
        refine Source.Lexeme.word_cons (by decide) fun d hd => ?_
        rcases List.mem_append.mp hd with hmark | hd
        · exact List.all_eq_true.mp (by decide) d hmark
        · rcases Source.Lexeme.mem_word hword (h.1 ▸ hd) with hstart | hrest
          · exact Source.Lexeme.isWordRest_of_isWordStart hstart
          · exact hrest
    · cases h
  · next hplain =>
    split at h
    · split at h
      · split at h
        · cases h
        · rw [Option.some.injEq, Prod.mk.injEq] at h
          exact absurd h.1.symm (hplain _)
      · cases h
    · exact h

theorem safe_argumentName {p : Parameter} (h : p.Named) : Safe (argumentName p.name).toList :=
  safe_word (word_argumentName h)

/-- The call that a template and its parameters make formats the segments with the parameters in
the places of the holes. -/
theorem run?_fill {s : List Char} {params : List Parameter} (env : Environment)
    (hfault : (read s).fault = none) (hholes : holeCount (read s).segments ≤ params.length)
    (hnames : (params.map fun p => argumentName p.name).Nodup) (hnamed : ∀ p ∈ params, p.Named) :
    (fill params s).run? env =
      some (Scratch.format Options.stackLimit (fragmentsOf env (read s).segments params)) := by
  have hsafe : ∀ p ∈ params, Safe (argumentName p.name).toList :=
    fun p hp => safe_argumentName (hnamed p hp)
  have hreads : Reads s 0 (read s) := reads_reading (start s)
  have hitems := items?_fill hreads hfault hholes hsafe
  have hargs := args_fill hreads hfault hholes
  have htaken : ((params.take (holeCount (read s).segments)).map
      fun p => argumentName p.name).Nodup := by
    rw [List.map_take]
    exact hnames.sublist (List.take_sublist _ _)
  have hfragments := mapM_fragment? (fill params s) env (read s).segments
    (fun p hp => hargs ▸ lookup_argumentsOf htaken hp)
  simp only [run?, hitems, hfragments, Option.bind_eq_bind, Option.bind_some]

def argumentTrees : String × String → List Source.Tree
  | (name, param) => [.mark ',' false, .ofName name, .mark '=' false, .ofName param]

open Source in
/-- The call in full: the format as a literal, and behind it the arguments. -/
theorem trees_eq (c : FormatCall) :
    c.trees = (NamePath.mk true ["named_format", "__private", "format_with_scratch"]).trees
      ++ Tree.op "::" ++ [.mark '<' false, .literal "128usize", .mark '>' false,
        .parens ((NamePath.mk true ["core", "format_args"]).trees ++ [.mark '!' false,
          .parens (.ofText c.format :: c.args.flatMap argumentTrees)])] :=
  rfl

theorem argumentTrees_inj {args args' : List (String × String)}
    (h : args.flatMap argumentTrees = args'.flatMap argumentTrees) : args = args' := by
  induction args generalizing args' with
  | nil => cases args' with
    | nil => rfl
    | cons arg args' => cases h
  | cons arg args ih => cases args' with
    | nil => cases h
    | cons arg' args' =>
      simp only [List.flatMap_cons, argumentTrees, List.cons_append, List.nil_append,
        List.cons.injEq, Source.Tree.ofName, Source.Tree.word.injEq, and_true, true_and] at h
      obtain ⟨hname, hparam, hrest⟩ := h
      rw [Prod.ext hname hparam, ih hrest]

/-- Calls that are written alike are the same. -/
theorem trees_inj {c c' : FormatCall} : c.trees = c'.trees ↔ c = c' := by
  refine ⟨fun h => ?_, congrArg trees⟩
  rw [trees_eq, trees_eq] at h
  simp only [List.append_cancel_left_eq, List.cons.injEq, Source.Tree.parens,
    Source.Tree.group.injEq, Source.Tree.ofText_inj, and_true, true_and] at h
  obtain ⟨hformat, hargs⟩ := h
  cases c
  cases c'
  cases hformat
  cases argumentTrees_inj hargs
  rfl

end FormatCall

end Stencil
