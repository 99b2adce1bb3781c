import Stencil.Source.Lexeme

/-! The words among the trees of a text are identifiers. -/
namespace Stencil.Source

/-- A name can be told from its neighbours when double colons stand between them. -/
def IsName (name : String) : Prop := name.toList ≠ [] ∧ ':' ∉ name.toList

/-- All words of a tree are names, at every depth. -/
inductive Tree.Spelled : Tree → Prop where
  | word {name : String} {pos : Pos} (h : IsName name) : Spelled (.word name pos)
  | lifetime {name : String} : Spelled (.lifetime name)
  | mark {char : Char} {joint : Bool} : Spelled (.mark char joint)
  | literal {text : String} : Spelled (.literal text)
  | group {delim : Delim} {body : List Tree} (h : ∀ t ∈ body, Spelled t) :
    Spelled (.group delim body)

def Spelled (ts : List Tree) : Prop := ∀ t ∈ ts, t.Spelled

theorem spelled_cons {t : Tree} {ts : List Tree} : Spelled (t :: ts) ↔ t.Spelled ∧ Spelled ts :=
  List.forall_mem_cons

theorem Spelled.drop {ts : List Tree} (h : Spelled ts) (count : Nat) : Spelled (ts.drop count) :=
  fun t ht => h t (List.mem_of_mem_drop ht)

theorem Spelled.reverse {ts : List Tree} (h : Spelled ts) : Spelled ts.reverse :=
  fun t ht => h t (List.mem_reverse.mp ht)

theorem Spelled.head_body {delim : Delim} {body ts : List Tree}
    (h : Spelled (.group delim body :: ts)) : Spelled body := by
  cases (spelled_cons.mp h).1 with
  | group hbody => exact hbody

namespace Lexeme

theorem exists_of_word {cs name rest : List Char} (h : word cs = some (name, rest)) :
    ∃ c more, name = c :: more ∧ Text.isWordStart c = true ∧
      ∀ d ∈ more, Text.isWordRest d = true := by
  cases cs with
  | nil => cases h
  | cons c cs =>
    by_cases hc : Text.isWordStart c = true
    · simp only [word, Scan.andThen, one, hc, ↓reduceIte, many, Option.bind_some, Option.map_some,
        Option.some.injEq, Prod.mk.injEq] at h
      exact ⟨c, _, h.1.symm, hc, fun d hd => List.all_eq_true.mp List.all_takeWhile d hd⟩
    · simp [word, Scan.andThen, one, hc] at h

theorem isWordRest_of_isWordStart {c : Char} (h : Text.isWordStart c = true) :
    Text.isWordRest c = true := by
  unfold Text.isWordStart at h
  unfold Text.isWordRest
  split at h
  · next hascii =>
    rw [if_pos hascii]
    simp only [Char.isAlphanum, Bool.or_eq_true] at h ⊢
    rcases h with halpha | hscore
    · exact .inl (.inl halpha)
    · exact .inr hscore
  · next hascii => rw [if_neg hascii, h, Bool.true_or]

theorem word_cons {c : Char} {more : List Char} (hc : Text.isWordStart c = true)
    (hmore : ∀ d ∈ more, Text.isWordRest d = true) : word (c :: more) = some (c :: more, []) := by
  have hall : (more ++ []).takeWhile Text.isWordRest = more ++ [] :=
    List.takeWhile_append_of_pos hmore
  have hnone : (more ++ []).dropWhile Text.isWordRest = [] := List.dropWhile_append_of_pos hmore
  rw [List.append_nil] at hall hnone
  simp [word, Scan.andThen, one, many, hc, hall, hnone]

theorem mem_word {cs name rest : List Char} (h : word cs = some (name, rest)) {c : Char}
    (hc : c ∈ name) : Text.isWordStart c = true ∨ Text.isWordRest c = true := by
  obtain ⟨d, more, rfl, hd, hmore⟩ := exists_of_word h
  rcases List.mem_cons.mp hc with rfl | hc
  · exact .inl hd
  · exact .inr (hmore c hc)

theorem colon_notMem_word {cs name rest : List Char} (h : word cs = some (name, rest)) :
    ':' ∉ name := by
  intro hc
  rcases mem_word h hc with hstart | hrest
  · exact absurd hstart (by decide)
  · exact absurd hrest (by decide)

theorem isName_of_anyWord {cs name rest : List Char} (h : anyWord cs = some (name, rest)) :
    IsName (String.ofList name) := by
  rw [IsName, String.toList_ofList]
  unfold anyWord at h
  split at h
  · cases hword : word (cs.drop 2) with
    | none => simp [hword] at h
    | some found =>
      obtain ⟨plain, behind⟩ := found
      simp only [hword] at h
      split at h
      · cases h
      · cases h
        refine ⟨List.cons_ne_nil _ _, ?_⟩
        simpa using colon_notMem_word hword
  · refine ⟨?_, colon_notMem_word h⟩
    obtain ⟨c, more, rfl, -⟩ := exists_of_word h
    exact List.cons_ne_nil c more

theorem spelled_leafAt {pos : Pos} {cs taken rest : List Char} {t : Tree}
    (h : leafAt pos cs = some (t, taken, rest)) : t.Spelled := by
  unfold leafAt at h
  split at h
  · cases h
    exact .literal
  · split at h
    · cases h
    · split at h
      · split at h
        · obtain ⟨found, -, hfound⟩ := Option.map_eq_some_iff.mp h
          cases hfound
          exact .lifetime
        · cases h
          exact .mark
      · split at h
        · cases h
        · obtain ⟨found, hword, hfound⟩ := Option.map_eq_some_iff.mp h
          cases hfound
          exact .word (isName_of_anyWord hword)

def Spelled : Lexeme → Prop
  | .leaf t => t.Spelled
  | _ => True

theorem spelled_ofDoc (d : Doc) : ∀ x ∈ ofDoc d, x.Spelled := by
  have hdoc : IsName "doc" := ⟨by decide, by decide⟩
  have hshown : (Tree.brackets [.ofName "doc", .mark '=' false, .ofText d.text]).Spelled := by
    refine .group fun t ht => ?_
    simp only [List.mem_cons, List.not_mem_nil, or_false] at ht
    rcases ht with rfl | rfl | rfl
    · exact .word hdoc
    · exact .mark
    · exact .literal
  intro x hx
  unfold ofDoc at hx
  split at hx <;> simp only [List.mem_cons, List.not_mem_nil, or_false] at hx
  · rcases hx with rfl | rfl | rfl
    · exact .mark
    · exact .mark
    · exact hshown
  · rcases hx with rfl | rfl
    · exact .mark
    · exact hshown

theorem spelled_next {pos : Pos} {cs taken rest : List Char} {found : List Lexeme}
    (h : next pos cs = some (found, taken, rest)) : ∀ x ∈ found, x.Spelled := by
  unfold next at h
  split at h
  · cases h
    exact spelled_ofDoc _
  · split at h
    · cases h
    · split at h
      · cases h
        simp [Spelled]
      · cases h
        simp [Spelled]
      · obtain ⟨leaf, hleaf, hfound⟩ := Option.map_eq_some_iff.mp h
        cases hfound
        simpa [Spelled] using spelled_leafAt hleaf

theorem spelled_go {fuel : Nat} {pos : Pos} {cs : List Char} {found : List Lexeme}
    (h : all.go fuel pos cs = some found) : ∀ x ∈ found, x.Spelled := by
  induction fuel generalizing pos cs found with
  | zero =>
    unfold all.go at h
    split at h
    · cases h
      simp
    · cases h
  | succ fuel ih =>
    unfold all.go at h
    obtain ⟨⟨blank, cs'⟩, -, h⟩ := Option.bind_eq_some_iff.mp h
    dsimp only at h
    split at h
    · cases h
      simp
    · obtain ⟨⟨first, taken, rest⟩, hfirst, h⟩ := Option.bind_eq_some_iff.mp h
      obtain ⟨more, hmore, h⟩ := Option.bind_eq_some_iff.mp h
      cases h
      intro x hx
      rcases List.mem_append.mp hx with hx | hx
      · exact spelled_next hfirst x hx
      · exact ih hmore x hx

theorem spelled_all {cs : List Char} {found : List Lexeme} (h : all cs = some found) :
    ∀ x ∈ found, x.Spelled := by
  unfold all at h
  split at h <;> exact spelled_go h

/-- Brackets around well spelled trees make a well spelled tree. -/
theorem spelled_nest {stack : List (Delim × List Tree)} {trees : List Tree} {found : List Lexeme}
    {result : List Tree} (hstack : ∀ group ∈ stack, Source.Spelled group.2)
    (htrees : Source.Spelled trees) (hfound : ∀ x ∈ found, x.Spelled)
    (h : nest stack trees found = some result) : Source.Spelled result := by
  fun_induction nest stack trees found with
  | case1 trees =>
    cases h
    exact htrees.reverse
  | case2 => cases h
  | case3 stack trees t rest ih =>
    obtain ⟨ht, hrest⟩ := List.forall_mem_cons.mp hfound
    exact ih hstack (spelled_cons.mpr ⟨ht, htrees⟩) hrest h
  | case4 stack trees d rest ih =>
    obtain ⟨-, hrest⟩ := List.forall_mem_cons.mp hfound
    exact ih (List.forall_mem_cons.mpr ⟨htrees, hstack⟩) (by simp [Source.Spelled]) hrest h
  | case5 outer stack trees d rest ih =>
    obtain ⟨-, hrest⟩ := List.forall_mem_cons.mp hfound
    obtain ⟨houter, hstack⟩ := List.forall_mem_cons.mp hstack
    exact ih hstack (spelled_cons.mpr ⟨.group htrees.reverse, houter⟩) hrest h
  | case6 => cases h
  | case7 => cases h

end Lexeme

theorem spelled_trees? {text : List Char} {ts : List Tree} (h : trees? text = some ts) :
    Spelled ts := by
  obtain ⟨found, hfound, hnest⟩ := Option.bind_eq_some_iff.mp h
  refine Lexeme.spelled_nest ?_ ?_ (Lexeme.spelled_all hfound) hnest
  · simp
  · simp [Spelled]

end Stencil.Source
