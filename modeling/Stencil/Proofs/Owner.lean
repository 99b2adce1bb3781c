import Stencil.Proofs.Generation
import Stencil.Proofs.Source.Spelling

/-! The space of an owner as a list of names, and what the name of its file keeps of it. -/
namespace Stencil

section Joined

variable {α : Type}

theorem intercalate_append_singleton (separator : List α) {parts : List (List α)} (h : parts ≠ [])
    (last : List α) :
    separator.intercalate (parts ++ [last]) = separator.intercalate parts ++ separator ++ last := by
  induction parts with
  | nil => exact absurd rfl h
  | cons part parts ih =>
    cases parts with
    | nil => simp [List.intercalate_cons_cons]
    | cons next parts =>
      have hrest := ih (List.cons_ne_nil next parts)
      simp only [List.cons_append, List.intercalate_cons_cons] at hrest ⊢
      rw [hrest]
      simp only [List.append_assoc]

/-- A cut at the mark between the parts also cuts the parts. -/
theorem splitOn_intercalate_eq_flatMap [BEq α] [ReflBEq α] (mark : α) {parts : List (List α)}
    (h : parts ≠ []) :
    ([mark].intercalate parts).splitOn mark = parts.flatMap (List.splitOn mark) := by
  induction parts with
  | nil => exact absurd rfl h
  | cons part parts ih =>
    cases parts with
    | nil => simp
    | cons next parts =>
      rw [List.flatMap_cons, ← ih (List.cons_ne_nil next parts), List.intercalate_cons_cons,
        List.append_assoc, List.singleton_append, List.splitOn_append_cons_self]

end Joined

namespace Owner

theorem splitColons_ne_nil (text : List Char) : splitColons text ≠ [] := by
  fun_cases splitColons text <;> simp_all

/-- The parts with the colons put back are the text. -/
theorem intercalate_splitColons (text : List Char) :
    [':', ':'].intercalate (splitColons text) = text := by
  fun_induction splitColons text with
  | case1 => rfl
  | case2 rest ih =>
    rw [List.intercalate_cons_of_ne_nil (splitColons_ne_nil rest), ih]
    rfl
  | case3 c rest hc hparts ih => exact absurd hparts (splitColons_ne_nil rest)
  | case4 c rest hc part parts hparts ih =>
    rw [List.intercalate_cons_cons_left, ← hparts, ih]

theorem splitColons_injective {a b : List Char} (h : splitColons a = splitColons b) : a = b := by
  rw [← intercalate_splitColons a, h, intercalate_splitColons]

theorem splitColons_append_colons {part : List Char} (h : ':' ∉ part) (rest : List Char) :
    splitColons (part ++ ':' :: ':' :: rest) = part :: splitColons rest := by
  induction part with
  | nil => rfl
  | cons c part ih =>
    have hc : c ≠ ':' := fun hc => h (hc ▸ List.mem_cons_self)
    rw [List.cons_append, splitColons, ih fun hpart => h (List.mem_cons_of_mem c hpart)]
    exact fun _ hcolon _ => hc hcolon

theorem splitColons_of_notMem {part : List Char} (h : ':' ∉ part) : splitColons part = [part] := by
  induction part with
  | nil => rfl
  | cons c part ih =>
    have hc : c ≠ ':' := fun hc => h (hc ▸ List.mem_cons_self)
    rw [splitColons, ih fun hpart => h (List.mem_cons_of_mem c hpart)]
    exact fun _ hcolon _ => hc hcolon

theorem splitColons_intercalate {parts : List (List Char)} (hparts : parts ≠ [])
    (h : ∀ part ∈ parts, ':' ∉ part) : splitColons ([':', ':'].intercalate parts) = parts := by
  induction parts with
  | nil => exact absurd rfl hparts
  | cons part parts ih =>
    obtain ⟨hpart, hrest⟩ := List.forall_mem_cons.mp h
    cases parts with
    | nil => simpa using splitColons_of_notMem hpart
    | cons next parts =>
      rw [List.intercalate_cons_cons, List.append_assoc, List.cons_append, List.singleton_append,
        splitColons_append_colons hpart, ih (List.cons_ne_nil next parts) hrest]

/-- Names with double colons between them are the parts of that space. -/
theorem spaceParts_intercalate {names : List String} (h : ∀ name ∈ names, Source.IsName name) :
    spaceParts (String.intercalate "::" names) = names := by
  unfold spaceParts
  rw [String.toList_intercalate]
  cases names with
  | nil => rfl
  | cons name names =>
    have hcolon : ∀ part ∈ (name :: names).map String.toList, ':' ∉ part := by
      simpa using fun n hn => (h n hn).2
    have hfull : ∀ part ∈ (name :: names).map String.toList, (!part.isEmpty) = true := by
      simpa using fun n hn => (h n hn).1
    rw [show "::".toList = [':', ':'] from rfl, splitColons_intercalate (by simp) hcolon,
      List.filter_eq_self.mpr hfull, List.map_map]
    simp

theorem flatten_eq_intercalate (text : List Char) :
    flatten text = ['_'].intercalate (splitColons text) := by
  fun_induction splitColons text with
  | case1 => rfl
  | case2 rest ih =>
    rw [List.intercalate_cons_of_ne_nil (splitColons_ne_nil rest), ← ih]
    rfl
  | case3 c rest hc hparts ih => exact absurd hparts (splitColons_ne_nil rest)
  | case4 c rest hc part parts hparts ih =>
    rw [List.intercalate_cons_cons_left, ← hparts, ← ih, flatten]
    exact hc

/-- The parts of the space and then the name, as they stand between the double colons of the
qualified name. -/
def parts (o : Owner) : List (List Char) :=
  (o.space.map fun space => splitColons space.toList).getD [] ++ [o.name.toList]

/-- The parts of an owner, cut again at each underscore. -/
def words (o : Owner) : List (List Char) := o.parts.flatMap (List.splitOn '_')

theorem parts_ne_nil (o : Owner) : o.parts ≠ [] := by simp [parts]

/-- The parts tell an owner from every other. -/
theorem parts_eq_iff {a b : Owner} : a.parts = b.parts ↔ a.same b = true := by
  rw [same_iff]
  constructor
  · intro h
    obtain ⟨hspace, hname⟩ := List.append_inj' h rfl
    refine ⟨?_, String.toList_inj.mp (List.cons.inj hname).1⟩
    cases ha : a.space with
    | none =>
      cases hb : b.space with
      | none => rfl
      | some s => exact absurd (by simpa [ha, hb] using hspace.symm) (splitColons_ne_nil s.toList)
    | some r =>
      cases hb : b.space with
      | none => exact absurd (by simpa [ha, hb] using hspace) (splitColons_ne_nil r.toList)
      | some s =>
        have hparts : splitColons r.toList = splitColons s.toList := by
          simpa [ha, hb] using hspace
        rw [String.toList_inj.mp (splitColons_injective hparts)]
  · rintro ⟨hspace, hname⟩
    rw [parts, parts, hspace, hname]

/-- In the name of the file underscores stand between the parts. -/
theorem toList_fileName (o : Owner) :
    o.fileName.toList = ['_'].intercalate o.parts ++ "_NamedFormat.g.rs".toList := by
  unfold fileName parts
  cases o.space with
  | none => simp
  | some space =>
    rw [Option.map_some, Option.getD_some,
      intercalate_append_singleton _ (splitColons_ne_nil space.toList), ← flatten_eq_intercalate]
    simp

/-- Two owners share the name of a file exactly if they have the same words. -/
theorem fileName_eq_iff {a b : Owner} : a.fileName = b.fileName ↔ a.words = b.words := by
  rw [← String.toList_inj, toList_fileName, toList_fileName, List.append_left_inj, words, words,
    ← splitOn_intercalate_eq_flatMap '_' a.parts_ne_nil,
    ← splitOn_intercalate_eq_flatMap '_' b.parts_ne_nil]
  have hjoined (text : List Char) : ['_'].intercalate (text.splitOn '_') = text :=
    List.intercalate_splitOn '_'
  constructor
  · intro h
    rw [h]
  · intro h
    rw [← hjoined (['_'].intercalate a.parts), h, hjoined]

/-- Inside of one space the name of the file tells the owners apart. -/
theorem same_of_fileName_of_space {a b : Owner} (hfile : a.fileName = b.fileName)
    (hspace : a.space = b.space) : a.same b = true := by
  unfold fileName at hfile
  rw [hspace, String.append_left_inj, String.append_right_inj] at hfile
  exact same_iff.mpr ⟨hspace, hfile⟩

/-- No name in the space of the owner holds an underscore, nor does its own. -/
def Unscored (o : Owner) : Prop := ∀ part ∈ o.parts, '_' ∉ part

instance (o : Owner) : Decidable o.Unscored := inferInstanceAs (Decidable (∀ part ∈ o.parts, _))

theorem words_of_unscored {o : Owner} (h : o.Unscored) : o.words = o.parts := by
  have hparts : o.parts.map (List.splitOn '_') = o.parts.map fun part => [part] :=
    List.map_congr_left fun part hpart => List.splitOn_eq_singleton (h part hpart)
  rw [words, List.flatMap_def, hparts, ← List.flatMap_def, List.flatMap_singleton']

/-- Without underscores in the names, the name of the file tells the owners apart. -/
theorem same_of_fileName_of_unscored {a b : Owner} (hfile : a.fileName = b.fileName)
    (ha : a.Unscored) (hb : b.Unscored) : a.same b = true := by
  rw [fileName_eq_iff, words_of_unscored ha, words_of_unscored hb] at hfile
  exact parts_eq_iff.mp hfile

end Owner

end Stencil
