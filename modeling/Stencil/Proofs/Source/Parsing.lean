import Stencil.Proofs.Source.Spelling
import Stencil.Source.Grammar

/-! What parsers give and leave when they read trees whose words are names. -/
namespace Stencil.Source

namespace Parser

variable {α β : Type}

/-- Where the parser succeeds on trees of which `P` holds, `Q` holds of what it gives and of the
trees that it leaves. -/
def Triple (P : List Tree → Prop) (p : Parser α) (Q : α → List Tree → Prop) : Prop :=
  ∀ ts, P ts → ∀ a rest, p ts = some (a, rest) → Q a rest

/-- From well spelled trees the parser leaves well spelled trees, and `Q` holds of what it gives. -/
abbrev Yields (p : Parser α) (Q : α → Prop) : Prop :=
  Triple Spelled p fun a rest => Q a ∧ Spelled rest

abbrev Keeps (p : Parser α) : Prop := Yields p fun _ => True

variable {P : List Tree → Prop} {Q : α → List Tree → Prop}

theorem triple_pure {a : α} (h : ∀ ts, P ts → Q a ts) : Triple P (pure a) Q := by
  intro ts hts b rest hrun
  cases hrun
  exact h ts hts

theorem triple_fail : Triple P (fail : Parser α) Q := by
  intro ts hts a rest hrun
  cases hrun

theorem Triple.bind {p : Parser α} {f : α → Parser β} {R : β → List Tree → Prop}
    (hp : Triple P p Q) (hf : ∀ a, Triple (Q a) (f a) R) : Triple P (p >>= f) R := by
  intro ts hts b rest hrun
  obtain ⟨⟨a, between⟩, ha, hb⟩ := Option.bind_eq_some_iff.mp hrun
  exact hf a between (hp ts hts a between ha) b rest hb

theorem triple_true (p : Parser α) : Triple P p fun _ _ => True := fun _ _ _ _ _ => trivial

theorem Yields.bind {p : Parser α} {f : α → Parser β} {R : α → Prop} {S : β → List Tree → Prop}
    (hp : Yields p R) (hf : ∀ a, R a → Triple Spelled (f a) S) : Triple Spelled (p >>= f) S :=
  Triple.bind hp fun a ts hts => hf a hts.1 ts hts.2

theorem yields_pure {a : α} {R : α → Prop} (h : R a) : Yields (pure a) R :=
  triple_pure fun _ hts => ⟨h, hts⟩

theorem keeps_peek (look : Peek) : Keeps (peek look) := by
  intro ts hts b rest hrun
  cases hrun
  exact ⟨trivial, hts⟩

theorem Yields.map {p : Parser α} {f : α → β} {R : β → Prop} (h : Yields p fun a => R (f a)) :
    Yields (f <$> p) R := by
  intro ts hts b rest hrun
  obtain ⟨⟨a, between⟩, ha, hb⟩ := Option.bind_eq_some_iff.mp hrun
  cases hb
  exact h ts hts a _ ha

theorem Yields.mapSome {p : Parser α} {R : α → Prop} (h : Yields p R) :
    Yields (some <$> p) fun a? => ∀ a ∈ a?, R a := by
  apply Yields.map
  intro ts hts a rest hrun
  obtain ⟨ha, hrest⟩ := h ts hts a rest hrun
  exact ⟨by simpa using ha, hrest⟩

theorem Yields.mono {p : Parser α} {R S : α → Prop} (h : Yields p R) (himp : ∀ a, R a → S a) :
    Yields p S := by
  intro ts hts a rest hrun
  obtain ⟨ha, hrest⟩ := h ts hts a rest hrun
  exact ⟨himp a ha, hrest⟩

theorem Yields.keeps {p : Parser α} {R : α → Prop} (h : Yields p R) : Keeps p :=
  h.mono fun _ _ => trivial

/-- What is given, when it does not matter what is left. -/
theorem Yields.result {p : Parser α} {R : α → Prop} (h : Yields p R) :
    Triple Spelled p fun a _ => R a :=
  fun ts hts a rest hrun => (h ts hts a rest hrun).1

theorem Yields.ite {c : Prop} [Decidable c] {yes no : Parser α} {R : α → Prop}
    (hyes : Yields yes R) (hno : Yields no R) : Yields (if c then yes else no) R := by
  split
  · exact hyes
  · exact hno

/-- Two ways to come to what follows. -/
theorem Yields.iteBind {c : Prop} [Decidable c] {yes no : Parser α} {f : α → Parser β}
    {R : β → Prop} (hyes : Keeps yes) (hno : Keeps no) (hf : ∀ a, Yields (f a) R) :
    Yields (if c then yes >>= f else no >>= f) R :=
  Yields.ite (hyes.bind fun a _ => hf a) (hno.bind fun a _ => hf a)

theorem Yields.peekIte {look : Peek} {yes no : Parser α} {R : α → Prop} (hyes : Yields yes R)
    (hno : Yields no R) : Yields (do if ← peek look then yes else no) R :=
  (keeps_peek look).bind fun _ _ => hyes.ite hno

theorem Yields.ifPeek {look : Peek} {yes no : Parser α} {R : α → Prop} (hyes : Yields yes R)
    (hno : Yields no R) : Yields (ifPeek look yes no) R := by
  intro ts hts a rest hrun
  unfold Parser.ifPeek at hrun
  split at hrun
  · exact hyes ts hts a rest hrun
  · exact hno ts hts a rest hrun

theorem yields_choose_nil {R : α → Prop} : Yields (choose []) R := triple_fail

theorem Yields.choose_cons {look : Peek} {g : Parser α} {others : List (Peek × Parser α)}
    {R : α → Prop} (hg : Yields g R) (hothers : Yields (choose others) R) :
    Yields (choose ((look, g) :: others)) R :=
  hg.ifPeek hothers

theorem exists_of_inside {d : Delim} {p : Parser α} {ts rest : List Tree} {a : α}
    (h : inside d p ts = some (a, rest)) :
    ∃ body, ts = .group d body :: rest ∧ p body = some (a, []) := by
  unfold inside at h
  split at h
  · split at h
    · next hd =>
      split at h
      · next hbody =>
        cases h
        exact ⟨_, by rw [hd], hbody⟩
      · cases h
    · cases h
  · cases h

/-- What is inside of a group is well spelled if the group is. -/
theorem Triple.inside {d : Delim} {p : Parser α} {R : α → Prop}
    (h : Triple Spelled p fun a _ => R a) : Yields (inside d p) R := by
  intro ts hts a rest hrun
  obtain ⟨body, rfl, hbody⟩ := exists_of_inside hrun
  exact ⟨h body hts.head_body a [] hbody, (spelled_cons.mp hts).2⟩

theorem keeps_inside (d : Delim) (p : Parser α) : Keeps (inside d p) := by
  intro ts hts a rest hrun
  obtain ⟨body, rfl, -⟩ := exists_of_inside hrun
  exact ⟨trivial, (spelled_cons.mp hts).2⟩

/-- However a parser leaves the trees, what stands behind those that it has read is well spelled. -/
theorem yields_verbatim {p : Parser α} {R : α → Prop} (h : Triple Spelled p fun a _ => R a) :
    Yields (verbatim p) fun x => R x.1 := by
  intro ts hts x rest hrun
  obtain ⟨⟨a, left⟩, ha, hx⟩ := Option.map_eq_some_iff.mp hrun
  cases hx
  exact ⟨h ts hts a left ha, hts.drop _⟩

theorem yields_go {step : α → Parser (Option α)} {R : α → Prop}
    (hstep : ∀ a, R a → Yields (step a) fun b? => ∀ b ∈ b?, R b) (fuel : Nat) (a : α) (ha : R a) :
    Yields (iterate.go step fuel a) R := by
  induction fuel generalizing a with
  | zero => exact yields_pure ha
  | succ fuel ih =>
    unfold iterate.go
    refine (hstep a ha).bind fun b? hb => ?_
    cases b? with
    | none => exact yields_pure ha
    | some b => exact ih b (hb b rfl)

theorem yields_iterate {step : α → Parser (Option α)} {R : α → Prop}
    (hstep : ∀ a, R a → Yields (step a) fun b? => ∀ b ∈ b?, R b) {a : α} (ha : R a) :
    Yields (iterate step a) R :=
  fun ts hts => yields_go hstep _ a ha ts hts

theorem keeps_iterate {step : α → Parser (Option α)} (hstep : ∀ a, Keeps (step a)) (a : α) :
    Keeps (iterate step a) :=
  yields_iterate (fun b _ => (hstep b).mono fun _ _ _ _ => trivial) trivial

theorem yields_collect {step : Parser (Option α)} {R : α → Prop}
    (hstep : Yields step fun a? => ∀ a ∈ a?, R a) :
    Yields (collect step) fun found => ∀ a ∈ found, R a := by
  unfold collect
  refine Yields.bind (yields_iterate (R := fun found => ∀ a ∈ found, R a) ?_ (by simp)) ?_
  · intro found hfound
    refine hstep.bind fun a? ha => yields_pure fun more hmore => ?_
    obtain ⟨a, rfl, rfl⟩ := Option.map_eq_some_iff.mp hmore
    exact List.forall_mem_cons.mpr ⟨ha a rfl, hfound⟩
  · intro found hfound
    exact yields_pure fun a ha => hfound a (List.mem_reverse.mp ha)

theorem keeps_collect {step : Parser (Option α)} (hstep : Keeps step) : Keeps (collect step) := by
  have htrivial : Yields step fun a? => ∀ a ∈ a?, True := fun ts hts a? rest hrun =>
    ⟨fun _ _ => trivial, (hstep ts hts a? rest hrun).2⟩
  intro ts hts found rest hrun
  exact ⟨trivial, (yields_collect htrivial ts hts found rest hrun).2⟩

theorem yields_anyWord : Yields anyWord fun word => IsName word.1 := by
  intro ts hts word rest hrun
  unfold anyWord at hrun
  split at hrun
  · cases hrun
    obtain ⟨hword, hrest⟩ := spelled_cons.mp hts
    cases hword with
    | word hname => exact ⟨hname, hrest⟩
  · cases hrun

theorem yields_ident : Yields ident fun word => IsName word.1 := by
  intro ts hts word rest hrun
  unfold ident at hrun
  split at hrun
  · split at hrun
    · cases hrun
    · cases hrun
      obtain ⟨hword, hrest⟩ := spelled_cons.mp hts
      cases hword with
      | word hname => exact ⟨hname, hrest⟩
  · cases hrun

end Parser

namespace Grammar

open Stencil.Source.Parser

theorem keeps_op (text : String) : Keeps (op text) := by
  intro ts hts trees rest hrun
  unfold op at hrun
  split at hrun
  · cases hrun
    exact ⟨trivial, hts.drop _⟩
  · cases hrun

theorem keeps_keyword (name : String) : Keeps (keyword name) := by
  intro ts hts trees rest hrun
  unfold keyword at hrun
  split at hrun
  · cases hrun
    exact ⟨trivial, hts.drop 1⟩
  · cases hrun

theorem keeps_one (look : Peek) : Keeps (one look) := by
  intro ts hts trees rest hrun
  unfold one at hrun
  split at hrun
  · cases hrun
    exact ⟨trivial, hts.drop 1⟩
  · cases hrun

theorem keeps_literal : Keeps literal := by
  intro ts hts trees rest hrun
  unfold literal at hrun
  split at hrun
  · split at hrun
    · cases hrun
      exact ⟨trivial, hts.drop 2⟩
    · cases hrun
      exact ⟨trivial, hts.drop 1⟩
    · cases hrun
  · cases hrun

theorem keeps_nothing : Keeps nothing := yields_pure trivial

theorem keeps_when {look : Peek} {g : Grammar} (h : Keeps g) : Keeps (when look g) :=
  h.ifPeek keeps_nothing

theorem keeps_op? (text : String) : Keeps (op? text) := keeps_when (keeps_op text)

theorem keeps_keyword? (name : String) : Keeps (keyword? name) := keeps_when (keeps_keyword name)

theorem keeps_seq_nil : Keeps (seq []) := keeps_nothing

theorem keeps_seq_cons {g : Grammar} {gs : List Grammar} (hg : Keeps g) (hgs : Keeps (seq gs)) :
    Keeps (seq (g :: gs)) :=
  hg.bind fun _ _ => hgs.bind fun _ _ => yields_pure trivial

theorem keeps_seq_two {g h : Grammar} (hg : Keeps g) (hh : Keeps h) : Keeps (seq [g, h]) :=
  keeps_seq_cons hg (keeps_seq_cons hh keeps_seq_nil)

theorem keeps_wrap (d : Delim) (g : Grammar) : Keeps (wrap d g) :=
  (keeps_inside d g).bind fun _ _ => yields_pure trivial

theorem keeps_restriction : Keeps restriction := by
  intro ts hts trees rest hrun
  unfold restriction at hrun
  split at hrun
  · split at hrun
    · cases hrun
      exact ⟨trivial, (spelled_cons.mp hts).2⟩
    · cases hrun
      exact ⟨trivial, hts⟩
  · exact keeps_wrap _ _ _ hts _ _ hrun
  · cases hrun
    exact ⟨trivial, hts⟩

theorem keeps_visibility : Keeps visibility := by
  exact keeps_when (keeps_seq_two (keeps_keyword "pub") keeps_restriction)

variable (n : Nested)

theorem keeps_outerAttributes : Keeps (outerAttributes n) := by
  refine keeps_collect (Yields.bind (keeps_peek _) fun found _ => ?_)
  split
  · refine (keeps_op "#").bind fun mark _ => ?_
    exact (keeps_inside _ _).bind fun _ _ => yields_pure trivial
  · exact yields_pure trivial

theorem keeps_innerTrees : Keeps (innerTrees n) := by
  refine Yields.map (keeps_collect (Yields.bind (keeps_peek _) fun found _ => ?_))
  split
  · refine (keeps_op "#").bind fun mark _ => (keeps_op "!").bind fun sign _ => ?_
    exact (keeps_inside _ _).bind fun _ _ => yields_pure trivial
  · exact yields_pure trivial

end Grammar

/-- What holds of a phrase of well spelled trees holds of what a text is read as. -/
theorem holds_of_read? {α : Type} {p : Nested → Parser α} {R : α → Prop} {text : List Char} {a : α}
    (hp : ∀ depth, Parser.Triple Spelled (p (.level depth)) fun a _ => R a)
    (h : read? p text = some a) : R a := by
  obtain ⟨ts, hts, hphrase⟩ := Option.bind_eq_some_iff.mp h
  unfold phrase? Parser.all at hphrase
  split at hphrase
  · next hrun =>
    cases hphrase
    exact hp _ ts (spelled_trees? hts) _ _ hrun
  · cases hphrase

end Stencil.Source
