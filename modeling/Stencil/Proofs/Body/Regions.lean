import Stencil.Proofs.Body.FormatString
import Stencil.Proofs.Body.Soundness

/-! The regions of any text that parameters take, and the call that they make of it. -/
namespace Stencil

namespace Template

structure Region where
  before : List Char
  taken : List Char
  deriving DecidableEq, Repr

/-- A text cut into regions, with the text behind the last of them. -/
structure Cut where
  regions : List Region
  rest : List Char
  deriving DecidableEq, Repr

namespace Cut

def cons (region : Region) (cut : Cut) : Cut := { cut with regions := region :: cut.regions }

def text (cut : Cut) : List Char := cut.regions.flatMap (fun r => r.before ++ r.taken) ++ cut.rest

def kept (cut : Cut) : List Char := cut.regions.flatMap Region.before ++ cut.rest

end Cut

/-- The cut of a text into at most so many regions from left to right. A region begins at the first
opening brace that is left and goes up to the first closing brace behind it, or to the end. -/
inductive Cuts : Nat → List Char → Cut → Prop where
  | spent (s : List Char) : Cuts 0 s ⟨[], s⟩
  | unopened {n : Nat} {s : List Char} (hs : '\x7b' ∉ s) : Cuts n s ⟨[], s⟩
  | unclosed {n : Nat} {before body : List Char} (hbefore : '\x7b' ∉ before)
      (hbody : '\x7d' ∉ body) :
      Cuts (n + 1) (before ++ '\x7b' :: body) ⟨[⟨before, '\x7b' :: body⟩], []⟩
  | closed {n : Nat} {before body rest : List Char} {cut : Cut} (hbefore : '\x7b' ∉ before)
      (hbody : '\x7d' ∉ body) (h : Cuts n rest cut) :
      Cuts (n + 1) (before ++ '\x7b' :: (body ++ '\x7d' :: rest))
        (cut.cons ⟨before, '\x7b' :: (body ++ ['\x7d'])⟩)

theorem exists_cuts (n : Nat) (s : List Char) : ∃ cut, Cuts n s cut := by
  induction n generalizing s with
  | zero => exact ⟨_, .spent s⟩
  | succ n ih =>
    by_cases hopen : '\x7b' ∈ s
    · obtain ⟨before, behind, rfl, hbefore⟩ := List.eq_append_cons_of_mem hopen
      by_cases hclose : '\x7d' ∈ behind
      · obtain ⟨body, rest, rfl, hbody⟩ := List.eq_append_cons_of_mem hclose
        obtain ⟨cut, hcut⟩ := ih rest
        exact ⟨_, .closed hbefore hbody hcut⟩
      · exact ⟨_, .unclosed hbefore hclose⟩
    · exact ⟨_, .unopened hopen⟩

theorem Cuts.text_eq {n : Nat} {s : List Char} {cut : Cut} (h : Cuts n s cut) : cut.text = s := by
  induction h with
  | spent s => rfl
  | unopened hs => rfl
  | unclosed hbefore hbody => simp [Cut.text]
  | closed hbefore hbody h ih =>
    simp only [Cut.text] at ih
    simp [Cut.text, Cut.cons, ← ih]

theorem Cuts.length_le {n : Nat} {s : List Char} {cut : Cut} (h : Cuts n s cut) :
    cut.regions.length ≤ n := by
  induction h with
  | spent s => exact Nat.le_refl 0
  | unopened hs => exact Nat.zero_le _
  | unclosed hbefore hbody => exact Nat.succ_le_succ (Nat.zero_le _)
  | closed hbefore hbody h ih => exact Nat.succ_le_succ ih

end Template

namespace FormatCall

open Template

def Item.char? : Item → Option Char
  | .char c => some c
  | .arg .. => none

def argument (p : Parameter) : Item := .arg (argumentName p.name) (p.rendering = .debugged)

/-- The items of a cut text, with a parameter in the place of each region. -/
def itemsAround (rest : List Char) : List Region → List Parameter → List Item
  | region :: regions, p :: params =>
    region.before.map .char ++ argument p :: itemsAround rest regions params
  | _, _ => rest.map .char

theorem dropWhile_eq_nil {c : Char} {text : List Char} (h : c ∉ text) :
    text.dropWhile (· ≠ c) = [] := by
  have hdrop : (text ++ []).dropWhile (· ≠ c) = [] :=
    List.dropWhile_append_of_pos (decide_ne_of_notMem h)
  rwa [List.append_nil] at hdrop

theorem fill_unopened {s : List Char} (hs : '\x7b' ∉ s) (params : List Parameter) :
    fill params s = ⟨escape s, []⟩ := by
  cases params with
  | nil => rfl
  | cons p params => simp only [fill, dropWhile_eq_nil hs, List.isEmpty_nil, ↓reduceIte]

theorem fill_unclosed {before body : List Char} (hbefore : '\x7b' ∉ before) (hbody : '\x7d' ∉ body)
    (p : Parameter) (params : List Parameter) :
    fill (p :: params) (before ++ '\x7b' :: body) =
      ⟨escape before ++ placeholder p, [(argumentName p.name, p.name)]⟩ := by
  have hmem : '\x7d' ∉ '\x7b' :: body := by simpa using hbody
  simp only [fill, takeWhile_ne hbefore, dropWhile_ne hbefore, dropWhile_eq_nil hmem]
  simp

/-- Kept text and the place of a parameter, whatever stands behind them. -/
theorem readItems_region {p : Parameter} (hsafe : Safe (argumentName p.name).toList)
    (before rest : List Char) :
    readItems .outside (escape before ++ (placeholder p ++ rest)) =
      (readItems .outside rest).map (before.map .char ++ argument p :: ·) := by
  rw [readItems_escape, readItems_placeholder hsafe, Option.map_map]
  rfl

/-- Any text makes a format that reads back as the text around the regions of its cut, with the
parameters in their places, and one argument for each region. -/
theorem fill_cuts {n : Nat} {s : List Char} {cut : Cut} (h : Cuts n s cut)
    {params : List Parameter} (hlength : params.length = n)
    (hsafe : ∀ p ∈ params, Safe (argumentName p.name).toList) :
    (fill params s).items? =
        some (itemsAround cut.rest cut.regions (params.take cut.regions.length)) ∧
      (fill params s).args = argumentsOf (params.take cut.regions.length) := by
  induction h generalizing params with
  | spent s =>
    obtain rfl := List.eq_nil_of_length_eq_zero hlength
    exact ⟨items?_escape s [], rfl⟩
  | unopened hs =>
    rw [fill_unopened hs]
    exact ⟨items?_escape _ [], rfl⟩
  | @unclosed n before body hbefore hbody =>
    obtain ⟨p, params, rfl⟩ := List.exists_cons_of_length_eq_add_one hlength
    have hread := readItems_region (hsafe p List.mem_cons_self) before []
    rw [List.append_nil] at hread
    rw [fill_unclosed hbefore hbody, items?, hread]
    exact ⟨rfl, rfl⟩
  | @closed n before body rest cut hbefore hbody h ih =>
    obtain ⟨p, params, rfl⟩ := List.exists_cons_of_length_eq_add_one hlength
    obtain ⟨hp, hparams⟩ := List.forall_mem_cons.mp hsafe
    obtain ⟨hitems, hargs⟩ := ih (Nat.succ.inj hlength) hparams
    rw [items?] at hitems
    rw [fill_closed hbefore hbody, items?, readItems_region hp, hitems, hargs]
    exact ⟨rfl, rfl⟩

theorem filterMap_char (text : List Char) : (text.map Item.char).filterMap Item.char? = text := by
  rw [List.filterMap_map]
  exact List.filterMap_some

theorem filter_char (text : List Char) :
    (text.map Item.char).filter (·.char?.isNone) = [] := by
  simp [Item.char?]

/-- The characters among the items are the kept text, and the places are those of the
parameters. -/
theorem itemsAround_parts (cut : Cut) {taken : List Parameter}
    (hlength : taken.length = cut.regions.length) :
    (itemsAround cut.rest cut.regions taken).filterMap Item.char? = cut.kept ∧
      (itemsAround cut.rest cut.regions taken).filter (·.char?.isNone) = taken.map argument := by
  obtain ⟨regions, rest⟩ := cut
  induction regions generalizing taken with
  | nil =>
    obtain rfl := List.eq_nil_of_length_eq_zero hlength
    exact ⟨filterMap_char rest, filter_char rest⟩
  | cons region regions ih =>
    obtain ⟨p, taken, rfl⟩ := List.exists_cons_of_length_eq_add_one hlength
    obtain ⟨hchars, hplaces⟩ := ih (Nat.succ.inj hlength)
    simp only [Cut.kept] at hchars hplaces ⊢
    constructor
    · rw [itemsAround, List.filterMap_append, filterMap_char, List.filterMap_cons_none rfl, hchars,
        List.flatMap_cons, List.append_assoc]
    · rw [itemsAround, List.filter_append, filter_char, List.filter_cons_of_pos rfl, hplaces]
      rfl

theorem isSome_mapM {α β : Type} {f : α → Option β} {l : List α} (h : ∀ a ∈ l, (f a).isSome) :
    (l.mapM f).isSome := by
  induction l with
  | nil => rfl
  | cons a l ih =>
    obtain ⟨ha, hl⟩ := List.forall_mem_cons.mp h
    obtain ⟨b, hb⟩ := Option.isSome_iff_exists.mp ha
    obtain ⟨bs, hbs⟩ := Option.isSome_iff_exists.mp (ih hl)
    simp [List.mapM_cons, hb, hbs]

/-- A call compiles if it has an argument for every place of its format. -/
theorem isSome_run? {c : FormatCall} {items : List Item} (hitems : c.items? = some items)
    {taken : List Parameter} (hplaces : items.filter (·.char?.isNone) = taken.map argument)
    (hlookup : ∀ p ∈ taken, c.args.lookup (argumentName p.name) = some p.name)
    (env : Environment) : (c.run? env).isSome := by
  have hfragment : ∀ item ∈ items, (c.fragment? env item).isSome := by
    intro item hmem
    cases item with
    | char x => rfl
    | arg name debug =>
      have hplace : Item.arg name debug ∈ items.filter (·.char?.isNone) :=
        List.mem_filter.mpr ⟨hmem, rfl⟩
      rw [hplaces] at hplace
      obtain ⟨p, hp, heq⟩ := List.mem_map.mp hplace
      cases heq
      simp [fragment?, hlookup p hp]
  obtain ⟨fragments, hfragments⟩ := Option.isSome_iff_exists.mp (isSome_mapM hfragment)
  simp [run?, hitems, hfragments]

end FormatCall

open Source in
/-- For any template whatever, the call of the formatter has a well-formed format. It reads as the
template's text outside the regions that the first parameters take, with the places of these in the
regions, and has just their arguments, each under a plain identifier. The code of the body is this
call, with a literal of that format and each argument bound to its parameter. Unless two of the
identifiers coincide, each place shows its own parameter and the call compiles. -/
theorem Method.formatCall_around_regions (m : Method) (options : Options)
    (hnamed : ∀ p ∈ m.params, p.Named) :
    ∃ (call : FormatCall) (cut : Template.Cut) (taken : List Parameter)
        (items : List FormatCall.Item),
      m.body .formatCall options = .formatCall call ∧
      Template.Cuts m.params.length m.template cut ∧ cut.text = m.template ∧
      taken <+: m.params ∧ taken.length = cut.regions.length ∧
      call.items? = some items ∧
      items = FormatCall.itemsAround cut.rest cut.regions taken ∧
      items.filterMap FormatCall.Item.char? = cut.kept ∧
      items.filter (·.char?.isNone) = taken.map FormatCall.argument ∧
      call.args = taken.map (fun p => (FormatCall.argumentName p.name, p.name)) ∧
      (∀ p ∈ taken, Lexeme.word (FormatCall.argumentName p.name).toList =
        some ((FormatCall.argumentName p.name).toList, [])) ∧
      (m.body .formatCall options).trees =
        (NamePath.mk true ["named_format", "__private", "format_with_scratch"]).trees
          ++ Tree.op "::" ++ [.mark '<' false, .literal "128usize", .mark '>' false,
            .parens ((NamePath.mk true ["core", "format_args"]).trees ++ [.mark '!' false,
              .parens (.ofText call.format :: taken.flatMap fun p => [.mark ',' false,
                .ofName (FormatCall.argumentName p.name), .mark '=' false, .ofName p.name])])] ∧
      Literal.text? (Text.quoteLiteral call.format) = some call.format ∧
      ((taken.map fun p => FormatCall.argumentName p.name).Nodup →
        (∀ p ∈ taken, call.args.lookup (FormatCall.argumentName p.name) = some p.name) ∧
        ∀ env, (call.run? env).isSome) := by
  obtain ⟨cut, hcut⟩ := Template.exists_cuts m.params.length m.template
  have hsafe : ∀ p ∈ m.params, FormatCall.Safe (FormatCall.argumentName p.name).toList :=
    fun p hp => FormatCall.safe_argumentName (hnamed p hp)
  obtain ⟨hitems, hargs⟩ := FormatCall.fill_cuts hcut rfl hsafe
  have hfirst : m.params.take cut.regions.length <+: m.params := List.take_prefix _ _
  have hlength : (m.params.take cut.regions.length).length = cut.regions.length :=
    List.length_take_of_le hcut.length_le
  obtain ⟨hchars, hplaces⟩ := FormatCall.itemsAround_parts cut hlength
  refine ⟨_, cut, _, _, rfl, hcut, hcut.text_eq, hfirst, hlength, hitems, rfl, hchars, hplaces,
    hargs, ?_, ?_, Literal.text?_quoteLiteral _, ?_⟩
  · intro p hp
    exact FormatCall.word_argumentName (hnamed p (hfirst.subset hp))
  · rw [body, Body.trees, FormatCall.trees_eq, hargs, FormatCall.argumentsOf, List.flatMap_map]
    rfl
  · intro hnames
    have hlookup : ∀ p ∈ m.params.take cut.regions.length,
        (FormatCall.fill m.params m.template).args.lookup (FormatCall.argumentName p.name) =
          some p.name := by
      intro p hp
      rw [hargs]
      exact FormatCall.lookup_argumentsOf hnames hp
    exact ⟨hlookup, FormatCall.isSome_run? hitems hplaces hlookup⟩

/-- A brace that closes nothing, a region that holds another opening brace, and one that is not
closed, so that the last of three parameters is not used. -/
theorem Method.formatCall_around_regions_unclosed :
    let m := Method.ofTemplate ['a', '\x7d', '\x7b', 'x', '\x7b', 'y', '\x7d', '-', '\x7b', 'z']
      [⟨"r#type", .other [], .plainText⟩, ⟨"v", .other [], .debugged⟩, ⟨"w", .other [], .displayed⟩]
    (∀ p ∈ m.params, p.Named) ∧
    ∃ call, m.body .formatCall {} = .formatCall call ∧
      call.args = [("__raw_type", "r#type"), ("v", "v")] ∧
      call.items? = some [.char 'a', .char '\x7d', .arg "__raw_type" false, .char '-',
        .arg "v" true] ∧
      ∀ env, (call.run? env).isSome := by
  intro m
  have hnamed : ∀ p ∈ m.params, p.Named := by
    unfold Parameter.Named
    decide +kernel
  have hnames : (m.params.map fun p => FormatCall.argumentName p.name).Nodup := by decide +kernel
  obtain ⟨call, cut, taken, items, hbody, -, -, hfirst, -, -, -, -, -, -, -, -, -, hcompiles⟩ :=
    Method.formatCall_around_regions m {} hnamed
  have hdistinct : (taken.map fun p => FormatCall.argumentName p.name).Nodup :=
    hnames.sublist (hfirst.sublist.map _)
  obtain rfl := Body.formatCall.inj hbody
  exact ⟨hnamed, _, rfl, by decide +kernel, by decide +kernel, (hcompiles hdistinct).2⟩

end Stencil
