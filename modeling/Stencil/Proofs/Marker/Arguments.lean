import Stencil.Marker

/-! How the arguments of the marker are written, and that a list of them is read argument by
argument. -/
namespace Stencil

open Source

/-- The elements are read one by one if each of them can be read. -/
theorem SourceError.mapM_eq_ok_iff {α β : Type} {f : α → Except SourceError β} {xs : List α}
    {ys : List β} : xs.mapM f = .ok ys ↔ xs.map f = ys.map .ok := by
  induction xs generalizing ys with
  | nil => cases ys <;> simp [pure, Except.pure]
  | cons x xs ih =>
    rw [List.mapM_cons]
    constructor
    · intro h
      cases hx : f x with
      | error e =>
        rw [hx] at h
        cases h
      | ok y =>
        cases hxs : xs.mapM f with
        | error e =>
          rw [hx, hxs] at h
          cases h
        | ok zs =>
          rw [hx, hxs] at h
          cases h
          rw [List.map_cons, List.map_cons, hx, ih.mp hxs]
    · intro h
      cases ys with
      | nil => cases h
      | cons y ys =>
        obtain ⟨hx, hxs⟩ := List.cons.inj h
        rw [hx, ih.mpr hxs]
        rfl

namespace Marker

/-- How the value of a flag is written; a flag alone means that it is on. -/
inductive SpellsFlag : List Tree → Bool → Prop where
  | alone : SpellsFlag [] true
  | on (joint : Bool) (pos : Pos) : SpellsFlag [.mark '=' joint, .word "true" pos] true
  | off (joint : Bool) (pos : Pos) : SpellsFlag [.mark '=' joint, .word "false" pos] false

inductive Spells : List Tree → Setting → Prop where
  | optimize {value : List Tree} {on : Bool} (pos : Pos) (hvalue : SpellsFlag value on) :
    Spells (.word "optimize" pos :: value) (.optimize on)
  | strictNames {value : List Tree} {on : Bool} (pos : Pos) (hvalue : SpellsFlag value on) :
    Spells (.word "strict_names" pos :: value) (.strictNames on)
  | bufferSize {text : String} {size : Nat} (pos : Pos) (joint : Bool)
      (hvalue : Literal.integer? text.toList = some size) (hsize : size ≤ Text.maxSize) :
    Spells [.word "buffer_size" pos, .mark '=' joint, .literal text] (.bufferSize size)

/-- What stands behind an argument: nothing, or a comma and more. -/
inductive Follows : List Tree → Prop where
  | nothing : Follows []
  | comma (joint : Bool) (rest : List Tree) : Follows (.mark ',' joint :: rest)

inductive Colons : List Tree → Prop where
  | intro (joint : Bool) (rest : List Tree) : Colons (.mark ':' true :: .mark ':' joint :: rest)

variable {ts tail : List Tree}

theorem not_colons_append (htail : Follows tail) (h : ¬Colons ts) : ¬Colons (ts ++ tail) := by
  intro hcolons
  match ts with
  | [] => cases htail <;> cases hcolons
  | [t] => cases htail <;> cases hcolons
  | t :: u :: ts =>
    cases hcolons
    exact h (.intro _ ts)

theorem moreNames_of_not_colons (h : ¬Colons ts) : moreNames ts = some ([], ts) := by
  unfold moreNames
  split
  · exact absurd (.intro _ _) h
  · exact absurd (.intro _ _) h
  · rfl

theorem moreNames_append (htail : Follows tail) (ts : List Tree) :
    moreNames (ts ++ tail) = (moreNames ts).map fun (names, rest) => (names, rest ++ tail) := by
  fun_induction moreNames ts with
  | case1 joint name pos rest ih =>
    simp only [List.cons_append, moreNames, ih]
    cases moreNames rest <;> rfl
  | case2 joint rest hword =>
    cases rest with
    | nil => cases htail <;> rfl
    | cons t rest =>
      cases t with
      | word name pos => exact absurd rfl (hword name pos rest)
      | _ => rfl
  | case3 ts hpath hcolons =>
    have hnot : ¬Colons ts := fun ⟨joint, rest⟩ => hcolons joint rest rfl
    rw [moreNames_of_not_colons (not_colons_append htail hnot)]
    rfl

theorem eq_of_moreNames {rest : List Tree} (h : moreNames ts = some ([], rest)) : ts = rest := by
  unfold moreNames at h
  split at h
  · obtain ⟨⟨names, between⟩, -, hnames⟩ := Option.bind_eq_some_iff.mp h
    cases hnames
  · cases h
  · cases h
    rfl

/-- The name of an argument behind the colons that it may begin with. -/
def nameFrom (rooted : Bool) : List Tree → Option (ArgumentName × List Tree)
  | .word name pos :: rest => do
    let (names, rest) ← moreNames rest
    some (⟨rooted, name :: names, pos⟩, rest)
  | _ => none

theorem nameFrom_append (htail : Follows tail) (rooted : Bool) (ts : List Tree) :
    nameFrom rooted (ts ++ tail) =
      (nameFrom rooted ts).map fun (a, rest) => (a, rest ++ tail) := by
  cases ts with
  | nil => cases htail <;> rfl
  | cons t ts =>
    cases t with
    | word name pos =>
      simp only [List.cons_append, nameFrom, moreNames_append htail]
      cases moreNames ts <;> rfl
    | _ => rfl

theorem nameFrom_eq_some {rooted : Bool} {a : ArgumentName} {rest : List Tree}
    (h : nameFrom rooted ts = some (a, rest)) :
    ∃ name names between, ts = .word name a.pos :: between ∧
      moreNames between = some (names, rest) ∧ a.rooted = rooted ∧ a.names = name :: names := by
  unfold nameFrom at h
  split at h
  · next name pos between =>
    obtain ⟨⟨names, left⟩, hnames, ha⟩ := Option.bind_eq_some_iff.mp h
    cases ha
    exact ⟨name, names, between, rfl, hnames, rfl, rfl⟩
  · cases h

theorem argumentName_colons (joint : Bool) (rest : List Tree) :
    argumentName (.mark ':' true :: .mark ':' joint :: rest) = nameFrom true rest := rfl

theorem argumentName_of_not_colons (h : ¬Colons ts) : argumentName ts = nameFrom false ts := by
  have hpeek : Peek.op "::" ts = false := by
    rw [Bool.eq_false_iff]
    intro hop
    apply h
    match ts with
    | [] => cases hop
    | [t] => cases t <;> simp [Peek.op, Peek.opChars] at hop
    | t :: u :: ts =>
      cases t with
      | mark c joint =>
        cases u with
        | mark d joint' =>
          simp [Peek.op, Peek.opChars] at hop
          obtain ⟨⟨rfl, rfl⟩, rfl⟩ := hop
          exact .intro _ _
        | _ => simp [Peek.op, Peek.opChars] at hop
      | _ => simp [Peek.op, Peek.opChars] at hop
  unfold argumentName
  rw [hpeek]
  rfl

theorem argumentName_append (htail : Follows tail) (ts : List Tree) :
    argumentName (ts ++ tail) = (argumentName ts).map fun (a, rest) => (a, rest ++ tail) := by
  by_cases h : Colons ts
  · obtain ⟨joint, rest⟩ := h
    exact nameFrom_append htail true rest
  · rw [argumentName_of_not_colons h, argumentName_of_not_colons (not_colons_append htail h),
      nameFrom_append htail]

/-- An argument with a single name begins with it. -/
theorem eq_of_argumentName {a : ArgumentName} {rest : List Tree}
    (h : argumentName ts = some (a, rest)) (hsingle : a.single ≠ "") :
    ts = .word a.single a.pos :: rest := by
  by_cases hcolons : Colons ts
  · obtain ⟨joint, between⟩ := hcolons
    rw [argumentName_colons] at h
    obtain ⟨name, names, -, -, -, hrooted, -⟩ := nameFrom_eq_some h
    exact absurd (by simp [ArgumentName.single, hrooted]) hsingle
  · rw [argumentName_of_not_colons hcolons] at h
    obtain ⟨name, names, between, rfl, hnames, hrooted, hname⟩ := nameFrom_eq_some h
    cases names with
    | nil => simp [ArgumentName.single, hrooted, hname, eq_of_moreNames hnames]
    | cons second names => exact absurd (by simp [ArgumentName.single, hrooted, hname]) hsingle

theorem flag_of_not_assigned (h : ∀ joint rest, ts ≠ .mark '=' joint :: rest) :
    flag ts = some (true, ts) := by
  unfold flag
  split
  · exact absurd rfl (h _ _)
  · exact absurd rfl (h _ _)
  · exact absurd rfl (h _ _)
  · rfl

theorem flag_append (htail : Follows tail) (ts : List Tree) :
    flag (ts ++ tail) = (flag ts).map fun (on, rest) => (on, rest ++ tail) := by
  fun_cases flag ts with
  | case1 joint pos rest => rfl
  | case2 joint pos rest => rfl
  | case3 joint rest htrue hfalse =>
    cases rest with
    | nil => cases htail <;> rfl
    | cons t rest =>
      cases t with
      | word name pos =>
        have htrue : name ≠ "true" := fun h => htrue pos rest (by rw [h])
        have hfalse : name ≠ "false" := fun h => hfalse pos rest (by rw [h])
        simp [flag, htrue, hfalse]
      | _ => rfl
  | case4 ts htrue hfalse h =>
    rw [flag_of_not_assigned]
    · rfl
    intro joint rest heq
    cases ts with
    | nil => cases htail <;> cases heq
    | cons t ts =>
      cases heq
      exact h _ _ rfl

theorem size_append (htail : Follows tail) (ts : List Tree) :
    size (ts ++ tail) = (size ts).map fun (n, rest) => (n, rest ++ tail) := by
  fun_cases size ts with
  | case1 joint text rest n hn hmax => simp [size, hn, hmax]
  | case2 joint text rest n hn hmax => simp [size, hn, hmax]
  | case3 joint text rest hn => simp [size, hn]
  | case4 ts h =>
    unfold size
    split
    · next joint text rest heq =>
      match ts with
      | [] => cases htail <;> cases heq
      | [t] => cases htail <;> cases heq
      | t :: u :: ts =>
        cases heq
        exact absurd rfl (h _ _ _)
    · rfl

theorem orMalformed_eq_ok_iff {α : Type} {found : Option α} {a : α} :
    orMalformed ts found = .ok a ↔ found = some a := by
  cases found <;> simp [orMalformed]

/-- The blame lies with the trees before the comma. -/
theorem orMalformed_append {α : Type} (htail : Follows tail) (ts : List Tree) (found : Option α) :
    orMalformed (ts ++ tail) found = orMalformed ts found := by
  have hnone : tail.takeWhile (!isComma ·) = [] := by cases htail <;> rfl
  have hfirst : (ts ++ tail).takeWhile (!isComma ·) = ts.takeWhile (!isComma ·) := by
    rw [List.takeWhile_append, hnone, List.append_nil]
    split
    · next hall => exact ((List.takeWhile_prefix _).eq_of_length hall).symm
    · rfl
  cases found with
  | some a => rfl
  | none => rw [orMalformed, orMalformed, hfirst]

theorem setting_append (htail : Follows tail) (ts : List Tree) :
    setting (ts ++ tail) = (setting ts).map fun (s, rest) => (s, rest ++ tail) := by
  unfold setting
  simp only [argumentName_append htail, orMalformed_append htail]
  cases argumentName ts with
  | none => rfl
  | some found =>
    obtain ⟨a, rest⟩ := found
    simp only [Option.map_some, flag_append htail, size_append htail]
    split
    · cases flag rest <;> rfl
    split
    · cases flag rest <;> rfl
    split
    · cases size rest <;> rfl
    · rfl

theorem spellsFlag_of_flag {on : Bool} {rest : List Tree} (h : flag ts = some (on, rest)) :
    ∃ value, SpellsFlag value on ∧ ts = value ++ rest := by
  unfold flag at h
  split at h
  · cases h
    exact ⟨_, .on _ _, rfl⟩
  · cases h
    exact ⟨_, .off _ _, rfl⟩
  · cases h
  · cases h
    exact ⟨[], .alone, rfl⟩

theorem spells_of_size {n : Nat} {rest : List Tree} (h : size ts = some (n, rest)) (pos : Pos) :
    ∃ arg, Spells arg (.bufferSize n) ∧ .word "buffer_size" pos :: ts = arg ++ rest := by
  unfold size at h
  split at h
  · next joint text between =>
    split at h
    · next n' hvalue =>
      split at h
      · next hsize =>
        cases h
        exact ⟨_, .bufferSize pos joint hvalue hsize, rfl⟩
      · cases h
    · cases h
  · cases h

/-- What is taken from the front is an argument. -/
theorem spells_of_setting {s : Setting} {rest : List Tree} (h : setting ts = .ok (s, rest)) :
    ∃ arg, Spells arg s ∧ ts = arg ++ rest := by
  unfold setting at h
  split at h
  · cases h
  · next a between hname =>
    have hfront {word : String} (hsingle : a.single = word) (hword : word ≠ "") :
        ts = .word word a.pos :: between := by
      subst hsingle
      exact eq_of_argumentName hname hword
    split at h
    · next hsingle =>
      obtain ⟨⟨on, left⟩, hflag, hs⟩ := Option.map_eq_some_iff.mp (orMalformed_eq_ok_iff.mp h)
      cases hs
      obtain ⟨value, hvalue, rfl⟩ := spellsFlag_of_flag hflag
      exact ⟨_, .optimize a.pos hvalue, hfront hsingle (by decide)⟩
    split at h
    · next hsingle =>
      obtain ⟨⟨on, left⟩, hflag, hs⟩ := Option.map_eq_some_iff.mp (orMalformed_eq_ok_iff.mp h)
      cases hs
      obtain ⟨value, hvalue, rfl⟩ := spellsFlag_of_flag hflag
      exact ⟨_, .strictNames a.pos hvalue, hfront hsingle (by decide)⟩
    split at h
    · next hsingle =>
      obtain ⟨⟨n, left⟩, hsize, hs⟩ := Option.map_eq_some_iff.mp (orMalformed_eq_ok_iff.mp h)
      cases hs
      rw [hfront hsingle (by decide)]
      exact spells_of_size hsize a.pos
    · cases h

theorem flag_of_spellsFlag {on : Bool} (h : SpellsFlag ts on) : flag ts = some (on, []) := by
  cases h <;> rfl

theorem argumentName_word (name : String) (pos : Pos) (h : ¬Colons ts) :
    argumentName (.word name pos :: ts) = some (⟨false, [name], pos⟩, ts) := by
  have hfront : ¬Colons (.word name pos :: ts) := nofun
  rw [argumentName_of_not_colons hfront, nameFrom, moreNames_of_not_colons h]
  rfl

theorem not_colons_of_spellsFlag {on : Bool} (h : SpellsFlag ts on) : ¬Colons ts := by
  intro hcolons
  cases h <;> cases hcolons

theorem setting_of_spells {s : Setting} (h : Spells ts s) : setting ts = .ok (s, []) := by
  cases h with
  | optimize pos hvalue =>
    have hname := argumentName_word "optimize" pos (not_colons_of_spellsFlag hvalue)
    simp only [setting, hname, flag_of_spellsFlag hvalue]
    rfl
  | strictNames pos hvalue =>
    have hname := argumentName_word "strict_names" pos (not_colons_of_spellsFlag hvalue)
    simp only [setting, hname, flag_of_spellsFlag hvalue]
    rfl
  | @bufferSize text n pos joint hvalue hsize =>
    have hcolons : ¬Colons [.mark '=' joint, .literal text] := nofun
    have hname := argumentName_word "buffer_size" pos hcolons
    simp only [setting, hname, size, hvalue, if_pos hsize]
    rfl

def argument (ts : List Tree) : Except SourceError Setting := do
  let (s, rest) ← setting ts
  if rest.isEmpty then return s else orMalformed ts none

theorem argument_eq_ok_iff {s : Setting} : argument ts = .ok s ↔ Spells ts s := by
  unfold argument
  constructor
  · intro h
    cases hsetting : setting ts with
    | error e =>
      rw [hsetting] at h
      cases h
    | ok found =>
      obtain ⟨s', rest⟩ := found
      rw [hsetting] at h
      cases rest with
      | cons t rest => cases h
      | nil =>
        cases h
        obtain ⟨arg, harg, rfl⟩ := spells_of_setting hsetting
        rwa [List.append_nil]
  · intro h
    rw [setting_of_spells h]
    rfl

theorem exists_of_isComma {t : Tree} (h : isComma t = true) : ∃ joint, t = .mark ',' joint := by
  cases t with
  | mark c joint =>
    obtain rfl : c = ',' := of_decide_eq_true h
    exact ⟨joint, rfl⟩
  | _ => cases h

/-- The arguments that commas keep apart. One comma may stand behind the last. -/
def arguments : List Tree → List (List Tree)
  | [] => []
  | t :: rest =>
    if isComma t then [] :: arguments rest
    else
      match arguments rest with
      | [] => [[t]]
      | first :: others => (t :: first) :: others

theorem arguments_comma (joint : Bool) (rest : List Tree) :
    arguments (.mark ',' joint :: rest) = [] :: arguments rest := rfl

theorem arguments_single {t : Tree} (ht : isComma t = false) : arguments [t] = [[t]] := by
  simp [arguments, ht]

theorem arguments_cons {t : Tree} {rest first : List Tree} {others : List (List Tree)}
    (ht : isComma t = false) (h : arguments rest = first :: others) :
    arguments (t :: rest) = (t :: first) :: others := by
  simp [arguments, ht, h]

theorem arguments_step (hne : ts ++ tail ≠ []) (hts : ∀ t ∈ ts, isComma t = false)
    (htail : Follows tail) : arguments (ts ++ tail) = ts :: arguments tail.tail := by
  induction ts with
  | nil =>
    cases htail with
    | nothing => exact absurd rfl hne
    | comma joint rest => exact arguments_comma joint rest
  | cons t ts ih =>
    obtain ⟨ht, hts⟩ := List.forall_mem_cons.mp hts
    by_cases hnil : ts ++ tail = []
    · obtain ⟨rfl, rfl⟩ := List.append_eq_nil_iff.mp hnil
      exact arguments_single ht
    · exact arguments_cons ht (ih hnil hts)

/-- The trees up to the first comma. -/
theorem exists_first (ts : List Tree) :
    ∃ first tail, ts = first ++ tail ∧ (∀ t ∈ first, isComma t = false) ∧ Follows tail := by
  induction ts with
  | nil => exact ⟨[], [], rfl, nofun, .nothing⟩
  | cons t ts ih =>
    cases ht : isComma t with
    | true =>
      obtain ⟨joint, rfl⟩ := exists_of_isComma ht
      exact ⟨[], _, rfl, nofun, .comma joint ts⟩
    | false =>
      obtain ⟨first, tail, rfl, hfirst, htail⟩ := ih
      exact ⟨t :: first, tail, rfl, List.forall_mem_cons.mpr ⟨ht, hfirst⟩, htail⟩

theorem settingsFrom_nil (fuel : Nat) : settingsFrom fuel [] = .ok [] := by
  cases fuel <;> rfl

theorem settingsFrom_step (hne : ts ++ tail ≠ []) (hts : ∀ t ∈ ts, isComma t = false)
    (htail : Follows tail) (fuel : Nat) :
    settingsFrom (fuel + 1) (ts ++ tail) = do
      let s ← argument ts
      let others ← settingsFrom fuel tail.tail
      return s :: others := by
  rw [settingsFrom]
  · simp only [setting_append htail, orMalformed_append htail, argument]
    cases hsetting : setting ts with
    | error e => rfl
    | ok found =>
      obtain ⟨s, rest⟩ := found
      cases rest with
      | nil =>
        cases htail with
        | nothing =>
          rw [List.tail_nil, settingsFrom_nil]
          rfl
        | comma joint rest => rfl
      | cons t rest =>
        -- what the argument leaves over does not begin with a comma, so both sides fail
        obtain ⟨arg, -, rfl⟩ := spells_of_setting hsetting
        have ht : isComma t = false := hts t (by simp)
        cases t with
        | mark c joint =>
          have hc : c ≠ ',' := of_decide_eq_false ht
          simp only [Except.map, bind, Except.bind, List.cons_append]
          split
          · next heq => cases heq
          · next heq =>
            cases heq
            exact absurd rfl hc
          · rfl
        | _ => rfl
  · exact hne

/-- To read a list is to read its arguments one by one. -/
theorem settingsFrom_eq_mapM {fuel : Nat} (h : ts.length ≤ fuel) :
    settingsFrom fuel ts = (arguments ts).mapM argument := by
  -- what stands behind the first comma is shorter, so less fuel is enough for it
  induction fuel generalizing ts with
  | zero =>
    obtain rfl := List.length_eq_zero_iff.mp (Nat.le_zero.mp h)
    rfl
  | succ fuel ih =>
    by_cases hne : ts = []
    · subst hne
      rfl
    obtain ⟨first, tail, rfl, hfirst, htail⟩ := exists_first ts
    have hshort : tail.tail.length ≤ fuel := by
      have hpos := List.length_pos_iff.mpr hne
      simp only [List.length_append, List.length_tail] at h hpos ⊢
      omega
    rw [settingsFrom_step hne hfirst htail, ih hshort, arguments_step hne hfirst htail,
      List.mapM_cons]

theorem settings_eq_mapM (ts : List Tree) : settings ts = (arguments ts).mapM argument :=
  settingsFrom_eq_mapM (Nat.le_refl _)

theorem exists_mapM_argument_iff {args : List (List Tree)} :
    (∃ found, args.mapM argument = .ok found) ↔ ∀ arg ∈ args, ∃ s, Spells arg s := by
  simp only [SourceError.mapM_eq_ok_iff, ← argument_eq_ok_iff]
  constructor
  · rintro ⟨found, hfound⟩ arg harg
    have hmem : argument arg ∈ found.map .ok := hfound ▸ List.mem_map_of_mem harg
    obtain ⟨s, -, hs⟩ := List.mem_map.mp hmem
    exact ⟨s, hs.symm⟩
  · intro h
    induction args with
    | nil => exact ⟨[], rfl⟩
    | cons arg args ih =>
      obtain ⟨⟨s, hs⟩, hargs⟩ := List.forall_mem_cons.mp h
      obtain ⟨found, hfound⟩ := ih hargs
      exact ⟨s :: found, by rw [List.map_cons, List.map_cons, hs, hfound]⟩

/-- A list is refused for the first of its arguments that cannot be used. -/
theorem settings_eq_error {earlier later : List (List Tree)} {arg : List Tree} {e : SourceError}
    (hts : arguments ts = earlier ++ arg :: later) (hearlier : ∀ x ∈ earlier, ∃ s, Spells x s)
    (harg : argument arg = .error e) : settings ts = .error e := by
  obtain ⟨found, hfound⟩ := exists_mapM_argument_iff.mpr hearlier
  rw [settings_eq_mapM, hts, List.mapM_append, List.mapM_cons, hfound, harg]
  rfl

theorem exists_argument_eq_error (h : ∀ s, ¬Spells ts s) : ∃ e, argument ts = .error e := by
  cases hts : argument ts with
  | error e => exact ⟨e, rfl⟩
  | ok s => exact absurd (argument_eq_ok_iff.mp hts) (h s)

/-- The trees of one list and then those of another, with a comma between them where the first ends
without one. -/
def followedBy (a b : List Tree) : List Tree :=
  if a.getLast?.all isComma then a ++ b else a ++ .mark ',' false :: b

theorem exists_arguments_cons (t : Tree) (ts : List Tree) :
    ∃ first others, arguments (t :: ts) = first :: others := by
  rw [arguments]
  split
  · exact ⟨[], _, rfl⟩
  · split
    · exact ⟨_, [], rfl⟩
    · exact ⟨_, _, rfl⟩

theorem followedBy_cons_cons (t u : Tree) (a b : List Tree) :
    followedBy (t :: u :: a) b = t :: followedBy (u :: a) b := by
  unfold followedBy
  rw [List.getLast?_cons_cons]
  split <;> rfl

theorem arguments_followedBy (a b : List Tree) :
    arguments (followedBy a b) = arguments a ++ arguments b := by
  induction a with
  | nil => rfl
  | cons t a ih =>
    cases ht : isComma t with
    | true =>
      obtain ⟨joint, rfl⟩ := exists_of_isComma ht
      cases a with
      | nil => rfl
      | cons u a =>
        rw [followedBy_cons_cons, arguments_comma, arguments_comma, ih, List.cons_append]
    | false =>
      cases a with
      | nil =>
        have hcomma : followedBy [t] b = t :: .mark ',' false :: b := by simp [followedBy, ht]
        rw [hcomma, arguments_cons ht (arguments_comma false b), arguments_single ht,
          List.singleton_append]
      | cons u a =>
        obtain ⟨first, others, hargs⟩ := exists_arguments_cons u a
        rw [hargs, List.cons_append] at ih
        rw [followedBy_cons_cons, arguments_cons ht ih, arguments_cons ht hargs, List.cons_append]

end Marker

end Stencil
