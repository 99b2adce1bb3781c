import Stencil.Proofs.Source.TypeNames

/-! The modules of a file and the types of its impl blocks have names. -/
namespace Stencil.Source

/-- An item whose modules and impl blocks have names, at every depth. -/
inductive Item.Named : Item → Prop where
  | impl {block : Impl} (htype : block.selfType.Named) : Named (.impl block)
  | module {name : String} {items : List Item} (hname : IsName name)
      (hitems : ∀ i ∈ items, Named i) :
    Named (.module name items)
  | other : Named .other

namespace Grammar

open Stencil.Source.Parser

variable {n : Nested}

theorem keeps_itemParam (h : NamesBelow n) : Keeps (itemParam n) := by
  refine (keeps_outerTrees n).bind fun attributes _ => ?_
  apply Yields.peekIte
  · exact (keeps_keyword "_").bind fun _ _ => yields_pure trivial
  · exact keeps_paramAfter h attributes

theorem keeps_generics (h : NamesBelow n) : Keeps (generics n) := by
  apply Yields.peekIte
  · refine (keeps_op "<").bind fun _ _ => (keeps_angled (keeps_itemParam h)).bind fun _ _ => ?_
    exact (keeps_op ">").bind fun _ _ => yields_pure trivial
  · exact yields_pure trivial

theorem implHead_named (h : NamesBelow n) (negative : List Tree) :
    Triple Spelled (implHead n negative) fun head _ => ∀ type ∈ head.2, type.Named := by
  refine (h.type true).bind fun first hfirst => ?_
  refine (keeps_peek _).bind fun isTrait _ => ?_
  split
  · refine (keeps_keyword "for").bind fun word _ => (h.type true).bind fun selfType htype => ?_
    split
    · exact triple_pure fun _ _ => by simpa using htype
    · exact triple_pure fun _ _ => by simp
  split
  · exact triple_pure fun _ _ => by simpa using hfirst
  · exact triple_fail

theorem implRest_named (h : NamesBelow n) (outer : List Attribute) :
    Triple Spelled (implRest n outer) fun block? _ => ∀ block ∈ block?, block.selfType.Named := by
  refine (keeps_seq_two (keeps_keyword? "default") (keeps_keyword? "unsafe")).bind fun _ _ => ?_
  refine (keeps_keyword "impl").bind fun _ _ => ?_
  refine ((keeps_generics h).ifPeek (yields_pure trivial)).bind fun generics _ => ?_
  refine (keeps_when (keeps_seq_two (keeps_op? "?") (keeps_keyword "const"))).bind fun _ _ => ?_
  refine (keeps_when (keeps_op "!")).bind fun negative _ => ?_
  refine Triple.bind (implHead_named h negative) fun (traitTrees, selfType?) => ?_
  -- What follows the head does not change the type that stands in it.
  intro ts htype
  refine Triple.bind (P := fun _ => True) (triple_true _) (fun whereClause => ?_) ts trivial
  refine Triple.bind (triple_true _) fun (inner, items) => ?_
  dsimp only
  split
  · exact triple_pure fun _ _ => by simp
  · refine triple_pure fun _ _ block hblock => ?_
    obtain ⟨selfType, hself, rfl⟩ := Option.map_eq_some_iff.mp hblock
    exact htype selfType hself

theorem implBlock_named (h : NamesBelow n) :
    Triple Spelled (implBlock n) fun block _ => block.selfType.Named := by
  refine (keeps_outerAttributes n).bind fun outer _ => ?_
  refine Triple.bind (implRest_named h outer) fun block? => ?_
  cases block? with
  | none => exact triple_fail
  | some block => exact triple_pure fun _ hblock => hblock block rfl

theorem yields_items (h : Yields n.item fun found => found.1.Named) :
    Yields (items n) fun found => ∀ x ∈ found, x.1.Named := by
  exact yields_collect (Yields.ifPeek (yields_pure (by simp)) h.mapSome)

theorem yields_moduleRest (h : Yields n.item fun found => found.1.Named) :
    Triple Spelled (moduleRest n) fun found _ => found.1.Named := by
  unfold moduleRest
  have hhead : Keeps (seq [keyword? "unsafe", keyword "mod"]) := by
    exact keeps_seq_two (keeps_keyword? "unsafe") (keeps_keyword "mod")
  refine hhead.bind fun head _ => ?_
  refine Yields.bind (yields_anyWord.ifPeek yields_ident) fun (name, pos) hname => ?_
  refine (keeps_peek _).bind fun closed _ => ?_
  split
  · exact Triple.bind (triple_true _) fun stop => triple_pure fun _ _ => .other
  · have hbody : Yields (do
        let attributes ← innerTrees n
        let found ← items n
        return (attributes, found)) fun x => ∀ y ∈ x.2, y.1.Named := by
      refine (keeps_innerTrees n).bind fun attributes _ => ?_
      exact (yields_items h).bind fun found hfound => yields_pure hfound
    refine hbody.result.inside.bind fun (attributes, found) hfound => triple_pure fun _ _ => ?_
    refine .module hname ?_
    simpa using hfound

theorem yields_item (hnames : NamesBelow n) (h : Yields n.item fun found => found.1.Named) :
    Yields (item n) fun found => found.1.Named := by
  unfold item
  refine Yields.bind (yields_verbatim (R := fun x => x.1.Named) ?_) ?_
  · refine (keeps_outerAttributes n).bind fun outer _ => ?_
    refine keeps_visibility.bind fun visibility _ => ?_
    refine (keeps_peek _).bind fun isImpl _ => ?_
    split
    · refine Triple.bind (implRest_named hnames outer) fun block? => ?_
      cases block? with
      | none => exact triple_pure fun _ _ => .other
      | some block =>
        dsimp only
        split
        · exact triple_pure fun _ hblock => .impl (hblock block rfl)
        · exact triple_pure fun _ _ => .other
    · refine (keeps_peek _).bind fun isModule _ => ?_
      split
      · refine Triple.bind (yields_moduleRest h) fun (found, trees) => ?_
        exact triple_pure fun _ hfound => hfound
      · exact Triple.bind (triple_true _) fun found? => triple_pure fun _ _ => .other
  · rintro ⟨⟨found, shown?⟩, raw⟩ hfound
    exact yields_pure hfound

end Grammar

theorem yields_level (depth : Nat) :
    Parser.Yields (Nested.level depth).item fun found => found.1.Named := by
  induction depth with
  | zero => exact Parser.triple_fail
  | succ depth ih => exact Grammar.yields_item (namesBelow_level depth) ih

theorem named_of_read? {text : List Char} {block : Impl} (h : Impl.read? text = some block) :
    block.selfType.Named :=
  holds_of_read? (R := fun block => block.selfType.Named)
    (fun depth => Grammar.implBlock_named (namesBelow_level depth)) h

/-- The modules and the impl blocks of a file that can be read have names, at every depth. -/
theorem named_of_readFile? {text : List Char} {items : List Item}
    (h : readFile? text = some items) : ∀ i ∈ items, i.Named := by
  refine holds_of_read? (R := fun items => ∀ i ∈ items, i.Named) (fun depth => ?_) h
  refine (Grammar.keeps_innerTrees _).bind fun _ _ => ?_
  refine (Grammar.yields_items (yields_level depth)).bind fun found hfound => ?_
  exact Parser.triple_pure fun _ _ => by simpa using hfound

end Stencil.Source
