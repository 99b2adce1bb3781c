import Stencil.Proofs.Source.Parsing

/-! The names along the types that can be read hold no colon. -/
namespace Stencil.Source

def Colonless (name : String) : Prop := ':' ∉ name.toList

theorem IsName.colonless {name : String} (h : IsName name) : Colonless name := h.2

theorem colonless_empty : Colonless "" := by
  unfold Colonless
  decide

def Ty.names : Ty → List String
  | .path _ segments => segments.map Segment.name
  | .projection names _ => names
  | .traitObject traits _ _ => traits
  | _ => []

def Ty.Named (t : Ty) : Prop := ∀ name ∈ t.names, Colonless name

def Bound.Named (b : Bound) : Prop := ∀ name ∈ b.trait?, Colonless name

def Segment.Named (s : Segment) : Prop := Colonless s.name

/-- The last name of a path, or nothing where there is no path. -/
theorem Segment.named_last {segments : List Segment} (h : ∀ s ∈ segments, s.Named) :
    Colonless ((segments.getLast?.map Segment.name).getD "") := by
  cases hlast : segments.getLast? with
  | none => exact colonless_empty
  | some s => exact h s (List.mem_of_getLast? hlast)

theorem Ty.named_path {rooted : Bool} {segments : List Segment} :
    (Ty.path rooted segments).Named ↔ ∀ s ∈ segments, s.Named := by
  simp [Ty.Named, Ty.names, Segment.Named]

theorem Ty.named_other (trees : List Tree) : (Ty.other trees).Named := by
  simp [Ty.Named, Ty.names]

theorem Bound.named_trait {name : String} (trees : List Tree) (h : Colonless name) :
    (Bound.mk (.trait name) trees).Named := by
  simpa [Bound.Named, Bound.trait?] using h

namespace Grammar

open Stencil.Source.Parser

/-- What the grammars one level down have to give: types and bounds with names. -/
structure NamesBelow (n : Nested) : Prop where
  type : ∀ plus, Yields (n.type plus) Ty.Named
  bound : ∀ place, Yields (n.bound place) Bound.Named

variable {n : Nested}

theorem keeps_typeTrees (h : NamesBelow n) : Keeps n.typeTrees := Yields.map (h.type true).keeps

theorem keeps_boundTrees (h : NamesBelow n) : Keeps n.boundTrees :=
  Yields.map (h.bound .declared).keeps

theorem keeps_constArgument (n : Nested) : Keeps (constArgument n) := by
  apply Yields.choose_cons keeps_literal
  apply Yields.choose_cons (keeps_one _)
  exact Yields.choose_cons (keeps_wrap _ _) yields_choose_nil

theorem yields_angled {α : Type} {item : Parser α} {R : α → Prop} (h : Yields item R) :
    Yields (angled item) fun found => ∀ a ∈ found.1, R a := by
  unfold angled
  refine Yields.bind (yields_iterate (R := fun state => ∀ a ∈ state.1, R a) ?_ (by simp)) ?_
  · intro state hstate
    apply Yields.peekIte
    · exact yields_pure (by simp)
    apply Yields.ite
    · exact triple_fail
    refine h.bind fun a ha => ?_
    have hmore : ∀ b ∈ a :: state.1, R b := List.forall_mem_cons.mpr ⟨ha, hstate⟩
    apply Yields.peekIte
    · exact yields_pure (by simpa using hmore)
    · exact (keeps_op ",").bind fun _ _ => yields_pure (by simpa using hmore)
  · rintro ⟨found, expecting⟩ hfound
    exact yields_pure (by simpa using hfound)

theorem keeps_angled {α : Type} {item : Parser α} (h : Keeps item) : Keeps (angled item) :=
  (yields_angled h).keeps

theorem keeps_summed (stop : Peek) {item : Grammar} (h : Keeps item) :
    Keeps (summed stop item) := by
  unfold summed
  refine (keeps_iterate ?_ _).bind fun _ _ => yields_pure trivial
  rintro ⟨more, trees⟩
  refine (keeps_peek stop).bind fun stopped _ => ?_
  apply Yields.ite
  · exact yields_pure trivial
  refine h.bind fun found _ => ?_
  apply Yields.peekIte
  · exact (keeps_op "+").bind fun _ _ => yields_pure trivial
  · exact yields_pure trivial

theorem keeps_boundsAfterColon (stop : Peek) {item : Grammar} (h : Keeps item) :
    Keeps (boundsAfterColon stop item) := by
  apply Yields.peekIte
  · exact (keeps_op ":").bind fun _ _ => (keeps_summed stop h).bind fun _ _ => yields_pure trivial
  · exact keeps_nothing

theorem keeps_lifetimeParam : Keeps lifetimeParam :=
  keeps_seq_two (keeps_one _) (keeps_boundsAfterColon _ (keeps_one _))

theorem keeps_valued {value : Grammar} (h : Keeps value) : Keeps (valued value) :=
  keeps_when (keeps_seq_two (keeps_op "=") h)

theorem keeps_paramAfter (h : NamesBelow n) (attributes : List Tree) :
    Keeps (paramAfter n attributes) := by
  apply Yields.peekIte
  · exact keeps_lifetimeParam.bind fun _ _ => yields_pure trivial
  apply Yields.peekIte
  · refine (keeps_seq_two (keeps_one _) (keeps_boundsAfterColon _ (keeps_boundTrees h))).bind
      fun head _ => ?_
    exact (keeps_valued (keeps_typeTrees h)).bind fun _ _ => yields_pure trivial
  · refine (keeps_seq_cons (keeps_keyword "const") (keeps_seq_cons (keeps_one _)
      (keeps_seq_two (keeps_op ":") (keeps_typeTrees h)))).bind fun head _ => ?_
    exact (keeps_valued (keeps_constArgument n)).bind fun _ _ => yields_pure trivial

theorem keeps_outerTrees (n : Nested) : Keeps (outerTrees n) := Yields.map (keeps_outerAttributes n)

theorem keeps_genericParam (h : NamesBelow n) : Keeps (genericParam n) :=
  (keeps_outerTrees n).bind fun attributes _ => keeps_paramAfter h attributes

theorem keeps_binder? (h : NamesBelow n) : Keeps (binder? n) := by
  apply keeps_when
  apply keeps_seq_cons (keeps_keyword "for")
  apply keeps_seq_cons (keeps_op "<")
  refine keeps_seq_two ?_ (keeps_op ">")
  exact (keeps_angled (keeps_genericParam h)).bind fun _ _ => yields_pure trivial

theorem keeps_outputTrees (h : NamesBelow n) (plus : Bool) : Keeps (outputTrees n plus) := by
  have houtput : Keeps (output n plus) := by
    apply Yields.peekIte
    · exact (keeps_op "->").bind fun _ _ => (h.type plus).bind fun _ _ => yields_pure trivial
    · exact yields_pure trivial
  refine houtput.bind fun type? _ => ?_
  cases type? with
  | none => exact keeps_nothing
  | some type => exact yields_pure trivial

theorem keeps_parenArguments (h : NamesBelow n) : Keeps (parenArguments n) :=
  keeps_seq_two (keeps_wrap _ _) (keeps_outputTrees h false)

theorem keeps_argument (h : NamesBelow n) : Keeps (argument n) := by
  apply Yields.peekIte
  · exact (keeps_one _).bind fun _ _ => yields_pure trivial
  apply Yields.peekIte
  · exact (keeps_constArgument n).bind fun _ _ => yields_pure trivial
  refine (h.type true).bind fun type _ => ?_
  apply Yields.ite
  · exact yields_pure trivial
  apply Yields.peekIte
  · refine (keeps_op "=").bind fun sign _ => ?_
    have hvalue : Keeps (ifPeek (.or .literal .brace) (constArgument n) n.typeTrees) :=
      (keeps_constArgument n).ifPeek (keeps_typeTrees h)
    exact hvalue.bind fun _ _ => yields_pure trivial
  apply Yields.peekIte
  · refine (keeps_op ":").bind fun colon _ => ?_
    exact (keeps_summed _ (keeps_boundTrees h)).bind fun _ _ => yields_pure trivial
  · exact yields_pure trivial

theorem keeps_angleArguments (h : NamesBelow n) : Keeps (angleArguments n) := by
  refine (keeps_op "<").bind fun start _ => ?_
  refine (keeps_angled (keeps_argument h)).bind fun arguments _ => ?_
  exact (keeps_op ">").bind fun _ _ => yields_pure trivial

theorem keeps_turbofish (h : NamesBelow n) : Keeps (turbofish n) :=
  (keeps_op "::").bind fun _ _ => (keeps_angleArguments h).bind fun _ _ => yields_pure trivial

theorem yields_segment (h : NamesBelow n) (inExpr : Bool) :
    Yields (segment n inExpr) Segment.Named := by
  apply Yields.peekIte
  · exact yields_anyWord.bind fun word hword => yields_pure hword.colonless
  have hword : Yields (ifPeek (.keyword "Self") (Prod.fst <$> Parser.anyWord)
      (Prod.fst <$> Parser.ident)) IsName :=
    (Yields.map yields_anyWord).ifPeek (Yields.map yields_ident)
  refine hword.bind fun name hname => ?_
  refine (keeps_peek _).bind fun angle _ => ?_
  apply Yields.ite
  · exact (keeps_angleArguments h).bind fun _ _ => yields_pure hname.colonless
  apply Yields.peekIte
  · exact (keeps_turbofish h).bind fun _ _ => yields_pure hname.colonless
  · exact yields_pure hname.colonless

theorem yields_moreSegments (h : NamesBelow n) (inExpr : Bool) (go : Peek) :
    Yields (moreSegments n inExpr go) fun segments => ∀ s ∈ segments, s.Named := by
  apply yields_collect
  apply Yields.peekIte
  · refine (keeps_op "::").bind fun _ _ => (yields_segment h inExpr).bind fun s hs => ?_
    exact yields_pure (by simpa using hs)
  · exact yields_pure (by simp)

theorem yields_path (h : NamesBelow n) (inExpr : Bool) :
    Yields (path n inExpr) fun found => ∀ s ∈ found.2, s.Named := by
  refine (keeps_op? "::").bind fun colons _ => ?_
  refine (yields_segment h inExpr).bind fun first hfirst => ?_
  refine (yields_moreSegments h inExpr _).bind fun others hothers => ?_
  exact yields_pure (List.forall_mem_cons.mpr ⟨hfirst, hothers⟩)

theorem yields_qualifiedPath (h : NamesBelow n) (inExpr : Bool) :
    Yields (qualifiedPath n inExpr) Ty.Named := by
  apply Yields.peekIte
  · refine (keeps_op "<").bind fun start _ => (h.type true).bind fun self _ => ?_
    refine (keeps_peek _).bind fun viaTrait _ => ?_
    -- behind the type, with a trait or without one, the same is read
    have hrest (names : List String) (trees : List Tree) (hnames : ∀ name ∈ names, Colonless name) :
        Yields (do
          let finish ← op ">"
          let colons ← op "::"
          let first ← segment n inExpr
          let others ← moreSegments n inExpr (fun _ => true)
          return Ty.projection (names ++ (first :: others).map Segment.name)
            (start ++ self.trees ++ trees ++ finish ++ colons ++ pathTrees false (first :: others)))
          Ty.Named := by
      refine (keeps_op ">").bind fun _ _ => (keeps_op "::").bind fun _ _ => ?_
      refine (yields_segment h inExpr).bind fun first hfirst => ?_
      refine (yields_moreSegments h inExpr _).bind fun others hothers => yields_pure ?_
      intro name hname
      rcases List.mem_append.mp hname with hname | hname
      · exact hnames name hname
      · obtain ⟨s, hs, rfl⟩ := List.mem_map.mp hname
        exact List.forall_mem_cons.mpr ⟨hfirst, hothers⟩ s hs
    apply Yields.ite
    · refine (keeps_keyword "as").bind fun word _ => ?_
      refine (yields_path h false).bind fun (rooted, segments) hsegments => ?_
      apply hrest
      simpa [Segment.Named] using hsegments
    · exact hrest [] [] (by simp)
  · refine (yields_path h inExpr).bind fun (rooted, segments) hsegments => ?_
    exact yields_pure (Ty.named_path.mpr hsegments)

theorem keeps_captures : Keeps captures := by
  refine (keeps_seq_two (keeps_keyword "use") (keeps_op "<")).bind fun start _ => ?_
  refine (keeps_angled ?_).bind fun params _ => ?_
  · apply Yields.peekIte
    · exact (keeps_one _).bind fun _ _ => yields_pure trivial
    · exact ((keeps_keyword "Self").ifPeek (keeps_one _)).bind fun _ _ => yields_pure trivial
  · exact (keeps_op ">").bind fun _ _ => yields_pure trivial

theorem keeps_constMark : Keeps constMark := by
  apply Yields.choose_cons (keeps_wrap _ _)
  apply Yields.choose_cons (keeps_keyword "const")
  exact Yields.choose_cons keeps_nothing yields_choose_nil

theorem yields_traitBound (h : NamesBelow n) (place : BoundPlace) :
    Yields (traitBound n place) Bound.Named := by
  refine (keeps_binder? h).bind fun lifetimes _ => keeps_constMark.bind fun mark _ => ?_
  apply Yields.ite triple_fail
  refine (keeps_op? "?").bind fun relaxed _ => ?_
  apply Yields.iteBind (keeps_binder? h) keeps_nothing
  intro late
  refine (yields_path h false).bind fun (rooted, segments) hsegments => ?_
  refine (keeps_peek _).bind fun called _ => ?_
  have hbound (trees : List Tree) : Bound.Named ⟨if mark.isEmpty = true
      then .trait ((segments.getLast?.map Segment.name).getD "") else .constTrait, trees⟩ := by
    split
    · exact Bound.named_trait trees (Segment.named_last hsegments)
    · simp [Bound.Named, Bound.trait?]
  apply Yields.ite
  · refine (keeps_op? "::").bind fun _ _ => (keeps_parenArguments h).bind fun _ _ => ?_
    exact Yields.ite triple_fail (yields_pure (hbound _))
  · exact Yields.ite triple_fail (yields_pure (hbound _))

theorem yields_bound (h : NamesBelow n) (place : BoundPlace) :
    Yields (bound n place) Bound.Named := by
  apply Yields.peekIte
  · refine (keeps_one _).bind fun _ _ => yields_pure ?_
    simp [Bound.Named, Bound.trait?]
  apply Yields.peekIte
  · refine keeps_captures.bind fun trees _ => Yields.ite (yields_pure ?_) triple_fail
    simp [Bound.Named, Bound.trait?]
  have hfound : Yields (ifPeek .paren (do
      let inner ← inside .paren (traitBound n place)
      return { inner with trees := [.parens inner.trees] }) (traitBound n place)) Bound.Named := by
    refine Yields.ifPeek ?_ (yields_traitBound h place)
    exact (yields_traitBound h place).result.inside.bind fun _ hinner => yields_pure hinner
  refine (yields_verbatim hfound.result).bind fun (found, raw) hfound => yields_pure ?_
  split
  · simp [Bound.Named, Bound.trait?]
  · exact hfound

def Sum.Named (s : Sum) : Prop := ∀ name ∈ s.names, Colonless name

theorem Sum.Named.push {s : Sum} {b : Bound} (hs : s.Named) (hb : b.Named) : (s.push b).Named := by
  intro name hname
  simp only [Sum.names, Sum.push, List.filterMap_append, List.mem_append] at hname
  rcases hname with hname | hname
  · exact hs name hname
  · exact hb name (by simpa using hname)

theorem Sum.Named.plus {s : Sum} (hs : s.Named) (sign : List Tree) : (s.plus sign).Named := hs

theorem Sum.named_first {b : Bound} (hb : b.Named) : (Sum.push {} b).Named :=
  Sum.Named.push (by simp [Sum.Named, Sum.names]) hb

theorem yields_looseBounds (h : NamesBelow n) (place : BoundPlace) {first : Sum}
    (hfirst : first.Named) : Yields (looseBounds n place first) Sum.Named := by
  refine Yields.bind (yields_iterate (R := fun state => state.2.Named) ?_ hfirst)
    fun state hstate => yields_pure hstate
  rintro ⟨more, s⟩ hs
  refine (keeps_peek _).bind fun sign _ => ?_
  apply Yields.ite
  · refine (keeps_op "+").bind fun sign _ => ?_
    apply Yields.peekIte
    · refine (h.bound place).bind fun b hb => yields_pure ?_
      simpa using (hs.plus sign).push hb
    · exact yields_pure (by simpa using hs.plus sign)
  · exact yields_pure (by simp)

theorem yields_strictBounds (h : NamesBelow n) {first : Sum} (hfirst : first.Named) :
    Yields (strictBounds n first) Sum.Named := by
  refine yields_iterate (fun s hs => ?_) hfirst
  apply Yields.peekIte
  · refine (keeps_op "+").bind fun sign _ => (h.bound .object).bind fun b hb => yields_pure ?_
    simpa using (hs.plus sign).push hb
  · exact yields_pure (by simp)

theorem yields_bounds (h : NamesBelow n) (plus : Bool) (place : BoundPlace) :
    Yields (bounds n plus place) Sum.Named := by
  refine (h.bound place).bind fun b hb => ?_
  exact (yields_looseBounds h place (Sum.named_first hb)).ite (yields_pure (Sum.named_first hb))

theorem yields_traitObject (h : NamesBelow n) (start : List Tree) (plus : Bool) :
    Yields (traitObject n start plus) Ty.Named := by
  refine (yields_bounds h plus .object).bind fun found hfound => ?_
  exact Yields.ite triple_fail (yields_pure hfound)

/-- What stands in brackets where a type is expected, as far as its names may become those of the
whole. -/
def ParenType.Named : ParenType → Prop
  | .tuple _ => True
  | .bound b => b.Named
  | .single type | .object type => type.Named

theorem parenBody_named (h : NamesBelow n) :
    Triple Spelled (parenBody n) fun found _ => found.Named := by
  refine (keeps_peek _).bind fun closed _ => ?_
  split
  · exact triple_pure fun _ _ => trivial
  refine (keeps_peek _).bind fun lifetime _ => ?_
  split
  · exact (yields_traitObject h [] true).bind fun _ htype => triple_pure fun _ _ => htype
  refine (keeps_peek _).bind fun relaxed _ => ?_
  split
  · exact (yields_traitBound h .object).bind fun _ hbound => triple_pure fun _ _ => hbound
  refine (h.type true).bind fun first hfirst => ?_
  refine (keeps_peek _).bind fun comma _ => ?_
  split
  · refine (keeps_op ",").bind fun _ _ => ?_
    exact Triple.bind (triple_true _) fun _ => triple_pure fun _ _ => trivial
  · exact triple_pure fun _ _ => hfirst

theorem named_asBound {type : Ty} {b : Bound} (h : type.Named) (hb : asBound type = some b) :
    b.Named := by
  unfold asBound at hb
  split at hb
  · cases hb
    exact Bound.named_trait _ (Segment.named_last (Ty.named_path.mp h))
  · cases hb
    exact Bound.named_trait _ (h _ (by simp [Ty.names]))
  · cases hb

theorem yields_afterBracketed (h : NamesBelow n) {first : Bound} (hfirst : first.Named) :
    Yields (afterBracketed n first) Ty.Named :=
  (yields_strictBounds h (Sum.named_first hfirst)).bind fun _ hfound => yields_pure hfound

theorem yields_parenType (h : NamesBelow n) (plus : Bool) : Yields (parenType n plus) Ty.Named := by
  refine (parenBody_named h).inside.bind fun found hfound => ?_
  cases found with
  | tuple trees => exact yields_pure (Ty.named_other _)
  | bound b =>
    have hfirst : Bound.Named { b with trees := [.parens b.trees] } := hfound
    refine (yields_afterBracketed h hfirst).ifPeek (yields_pure fun name hname => hfound name ?_)
    simpa [Ty.names] using hname
  | object type => exact yields_pure (by simp [Ty.Named, Ty.names])
  | single type =>
    have hparen : Yields (pure (Ty.paren type)) Ty.Named :=
      yields_pure (by simp [Ty.Named, Ty.names])
    dsimp only
    split
    · next first hfirst =>
      exact (yields_afterBracketed h (named_asBound hfound hfirst)).ifPeek hparen
    · exact hparen

theorem keeps_externAbi? : Keeps externAbi? :=
  keeps_when (keeps_seq_two (keeps_keyword "extern") (keeps_when (keeps_one _)))

theorem yields_fnType (h : NamesBelow n) (lifetimes : List Tree) :
    Yields (fnType n lifetimes) Ty.Named := by
  refine Yields.bind (R := fun _ => True) ?_ fun trees _ => yields_pure (Ty.named_other _)
  apply keeps_seq_cons (keeps_keyword? "unsafe")
  apply keeps_seq_cons keeps_externAbi?
  apply keeps_seq_cons (keeps_keyword "fn")
  exact keeps_seq_two (keeps_wrap _ _) (keeps_outputTrees h false)

theorem keeps_pointerType (h : NamesBelow n) : Keeps (pointerType n) := by
  apply keeps_seq_cons (keeps_op "*")
  refine keeps_seq_two ?_ (Yields.map (h.type false).keeps)
  apply Yields.choose_cons (keeps_keyword "const")
  exact Yields.choose_cons (keeps_keyword "mut") yields_choose_nil

theorem yields_referenceType (h : NamesBelow n) : Yields (referenceType n) Ty.Named := by
  refine (keeps_op "&").bind fun _ _ => ?_
  refine Yields.bind (R := fun _ => True) ?_ fun lifetime _ => ?_
  · intro ts hts lifetime rest hrun
    dsimp only at hrun
    split at hrun
    · cases hrun
      exact ⟨trivial, hts.drop 1⟩
    · cases hrun
      exact ⟨trivial, hts⟩
  · refine (keeps_keyword? "mut").bind fun _ _ => (h.type false).bind fun _ _ => yields_pure ?_
    simp [Ty.Named, Ty.names]

theorem keeps_macroCallTrees : Keeps macroCallTrees := keeps_seq_two (keeps_op "!") (keeps_one _)

theorem yields_pathType (h : NamesBelow n) (lifetimes : List Tree) (plus : Bool) :
    Yields (pathType n lifetimes plus) Ty.Named := by
  refine (yields_qualifiedPath h false).bind fun type htype => ?_
  split
  · next rooted segments =>
    have hlast := Segment.named_last (Ty.named_path.mp htype)
    refine (keeps_peek _).bind fun called _ => ?_
    apply Yields.ite
    · exact keeps_macroCallTrees.bind fun _ _ => yields_pure (Ty.named_other _)
    refine (keeps_peek _).bind fun sign _ => ?_
    apply Yields.ite
    · refine (yields_looseBounds h .object (Sum.named_first (Bound.named_trait _ hlast))).bind
        fun found hfound => yields_pure hfound
    apply Yields.ite
    · exact yields_pure htype
    · exact yields_pure (by simpa [Ty.Named, Ty.names] using hlast)
  · exact yields_pure htype

theorem yields_dynType (h : NamesBelow n) (plus : Bool) :
    Yields (dynType n plus) fun type? => ∀ type ∈ type?, type.Named := by
  refine (keeps_keyword "dyn").bind fun word _ => (keeps_op? "*").bind fun star _ => ?_
  refine (yields_traitObject h word plus).bind fun type htype => yields_pure ?_
  split
  · simpa using htype
  · simp

theorem yields_implType (h : NamesBelow n) (plus : Bool) : Yields (implType n plus) Ty.Named := by
  refine (keeps_keyword "impl").bind fun word _ => ?_
  refine (yields_bounds h plus .implied).bind fun found _ => ?_
  exact (yields_pure (Ty.named_other _)).ite triple_fail

theorem yields_other {g : Grammar} (h : Keeps g) :
    Yields (some <$> Ty.other <$> g) fun type? => ∀ type ∈ type?, type.Named :=
  Yields.mapSome (Yields.map (h.mono fun trees _ => Ty.named_other trees))

theorem yields_typeOrNone (h : NamesBelow n) (plus : Bool) :
    Yields (typeOrNone n plus) fun type? => ∀ type ∈ type?, type.Named := by
  refine (keeps_binder? h).bind fun lifetimes _ => (keeps_peek _).bind fun follow _ => ?_
  apply Yields.ite triple_fail
  apply Yields.choose_cons (yields_parenType h plus).mapSome
  apply Yields.choose_cons (yields_fnType h lifetimes).mapSome
  apply Yields.choose_cons
  · refine Yields.bind (R := fun _ => True) ?_ fun _ _ => yields_pure (by simp)
    exact Yields.map ((yields_verbatim (triple_true _)).keeps)
  apply Yields.choose_cons (yields_pathType h lifetimes plus).mapSome
  apply Yields.choose_cons (yields_dynType h plus)
  apply Yields.choose_cons (yields_other (keeps_wrap _ _))
  apply Yields.choose_cons (yields_other (keeps_pointerType h))
  apply Yields.choose_cons (yields_referenceType h).mapSome
  apply Yields.choose_cons (yields_other (keeps_op "!"))
  apply Yields.choose_cons (yields_implType h plus).mapSome
  apply Yields.choose_cons (yields_other (keeps_keyword "_"))
  exact Yields.choose_cons (yields_traitObject h [] true).mapSome yields_choose_nil

theorem yields_type (h : NamesBelow n) (plus : Bool) : Yields (type n plus) Ty.Named := by
  refine (yields_verbatim (yields_typeOrNone h plus).result).bind fun (type?, raw) htype => ?_
  apply yields_pure
  cases type? with
  | none => exact Ty.named_other raw
  | some type => exact htype type rfl

end Grammar

theorem namesBelow_level (depth : Nat) : Grammar.NamesBelow (Nested.level depth) := by
  induction depth with
  | zero => exact ⟨fun _ => Parser.triple_fail, fun _ => Parser.triple_fail⟩
  | succ depth ih => exact ⟨Grammar.yields_type ih, Grammar.yields_bound ih⟩

end Stencil.Source
