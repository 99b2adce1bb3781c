import Stencil.Proofs.Marker.Arguments

/-! The arguments of the marker lie over the options one after the other, each over those before
it. -/
namespace Stencil

open Source

namespace Options

def AgreeAt (key : Key) (o p : Options) : Prop :=
  match key with
  | .optimize => o.optimize = p.optimize
  | .bufferSize => o.bufferSize = p.bufferSize
  | .strictNames => o.strictNames = p.strictNames

theorem AgreeAt.refl (key : Key) (o : Options) : AgreeAt key o o := by
  cases key <;> rfl

theorem AgreeAt.trans {key : Key} {o p q : Options} (hop : AgreeAt key o p)
    (hpq : AgreeAt key p q) : AgreeAt key o q := by
  cases key <;> exact Eq.trans hop hpq

end Options

namespace Setting

def key : Setting → Options.Key
  | .optimize _ => .optimize
  | .bufferSize _ => .bufferSize
  | .strictNames _ => .strictNames

/-- The options have the value that the setting gives. -/
def HoldsIn (o : Options) : Setting → Prop
  | .optimize on => o.optimize = on
  | .bufferSize size => o.bufferSize = some size
  | .strictNames on => o.strictNames = on

def override (o : Options) : Setting → Options
  | .optimize on => { o with optimize := on }
  | .bufferSize size => { o with bufferSize := some size }
  | .strictNames on => { o with strictNames := on }

theorem override_unchecked (o : Options) (s : Setting) :
    (override o s).unchecked = o.unchecked := by
  cases s <;> rfl

theorem holdsIn_override (o : Options) (s : Setting) : s.HoldsIn (override o s) := by
  cases s <;> rfl

theorem agreeAt_override {key : Options.Key} {s : Setting} (h : s.key ≠ key) (o : Options) :
    Options.AgreeAt key (override o s) o := by
  cases s <;> cases key <;> first | rfl | exact absurd rfl h

theorem HoldsIn.of_agreeAt {o p : Options} {s : Setting} (ho : s.HoldsIn o)
    (h : Options.AgreeAt s.key p o) : s.HoldsIn p := by
  cases s <;> exact Eq.trans h ho

theorem foldl_override_unchecked (settings : List Setting) (o : Options) :
    (settings.foldl override o).unchecked = o.unchecked := by
  induction settings generalizing o with
  | nil => rfl
  | cons s settings ih => rw [List.foldl_cons, ih, override_unchecked]

/-- What no setting is for stays as it was. -/
theorem agreeAt_foldl_override {key : Options.Key} {settings : List Setting}
    (h : ∀ s ∈ settings, s.key ≠ key) (o : Options) :
    Options.AgreeAt key (settings.foldl override o) o := by
  induction settings generalizing o with
  | nil => exact .refl key o
  | cons s settings ih =>
    obtain ⟨hs, hrest⟩ := List.forall_mem_cons.mp h
    exact (ih hrest (override o s)).trans (agreeAt_override hs o)

/-- The last setting for an option gives its value. -/
theorem holdsIn_foldl_override {s : Setting} {later : List Setting}
    (h : ∀ x ∈ later, x.key ≠ s.key) (earlier : List Setting) (o : Options) :
    s.HoldsIn ((earlier ++ s :: later).foldl override o) := by
  rw [List.foldl_append, List.foldl_cons]
  exact (holdsIn_override _ s).of_agreeAt (agreeAt_foldl_override h _)

end Setting

namespace Marker

theorem apply_set (m : Marker) (s : Setting) (o : Options) :
    (m.set s).apply o = Setting.override (m.apply o) s := by
  cases s <;> rfl

/-- To put a marker over options is to carry out its settings one after the other. -/
theorem apply_ofSettings (settings : List Setting) (o : Options) :
    (ofSettings settings).apply o = settings.foldl Setting.override o := by
  have hrun (m : Marker) :
      (settings.foldl set m).apply o = settings.foldl Setting.override (m.apply o) := by
    induction settings generalizing m with
    | nil => rfl
    | cons s settings ih => rw [List.foldl_cons, List.foldl_cons, ih, apply_set]
  exact hrun {}

theorem apply_apply (m : Marker) (o : Options) : m.apply (m.apply o) = m.apply o := by
  obtain ⟨optimize, bufferSize, strictNames⟩ := m
  cases optimize <;> cases bufferSize <;> cases strictNames <;> rfl

/-- The argument is for the option of a key. -/
def Names (key : Options.Key) (arg : List Tree) : Prop := ∃ s, Spells arg s ∧ s.key = key

theorem key_ne_of_not_names {key : Options.Key} {args : List (List Tree)} {found : List Setting}
    (hfound : args.map argument = found.map .ok) (h : ∀ arg ∈ args, ¬Names key arg) :
    ∀ s ∈ found, s.key ≠ key := by
  intro s hs hkey
  have hmem : .ok s ∈ args.map argument := hfound ▸ List.mem_map_of_mem hs
  obtain ⟨arg, harg, hread⟩ := List.mem_map.mp hmem
  exact h arg harg ⟨s, argument_eq_ok_iff.mp hread, hkey⟩

/-- The arguments of a list that is accepted give the settings, in their order. -/
theorem map_argument_eq {ts : List Tree} {found : List Setting} (h : settings ts = .ok found) :
    (arguments ts).map argument = found.map .ok := by
  rwa [settings_eq_mapM, SourceError.mapM_eq_ok_iff] at h

theorem holdsIn_of_last {ts : List Tree} {found : List Setting} (h : settings ts = .ok found)
    {earlier later : List (List Tree)} {arg : List Tree} {s : Setting}
    (hts : arguments ts = earlier ++ arg :: later) (harg : Spells arg s)
    (hlater : ∀ x ∈ later, ¬Names s.key x) (o : Options) :
    s.HoldsIn ((ofSettings found).apply o) := by
  have hmap := map_argument_eq h
  rw [hts, List.map_append, List.map_cons, argument_eq_ok_iff.mpr harg] at hmap
  obtain ⟨before, rest, rfl, -, hrest⟩ := List.map_eq_append_iff.mp hmap.symm
  obtain ⟨s', after, rfl, hs, hafter⟩ := List.map_eq_cons_iff.mp hrest
  cases hs
  rw [apply_ofSettings]
  exact Setting.holdsIn_foldl_override (key_ne_of_not_names hafter.symm hlater) before o

/-- The arguments of one list and then those of another are accepted if both lists are, and lie over
options as the second list does over what the first makes of them. To put the arguments over options
once more changes nothing. Each option keeps its value if no argument is for it, and else gets that
of the last argument that is. A list is refused if an argument cannot be used, for the reason that
the first such argument gives, whatever follows it. -/
theorem settings_override (o : Options) :
    (∀ a b forA forB, settings a = .ok forA → settings b = .ok forB →
      settings (followedBy a b) = .ok (forA ++ forB) ∧
      (ofSettings (forA ++ forB)).apply o = (ofSettings forB).apply ((ofSettings forA).apply o)) ∧
    (∀ a found, settings a = .ok found →
      let p := (ofSettings found).apply o
      (ofSettings found).apply p = p ∧ p.unchecked = o.unchecked ∧
      ∀ key,
        ((∀ arg ∈ arguments a, ¬Names key arg) → Options.AgreeAt key p o) ∧
        ∀ earlier arg later s, arguments a = earlier ++ arg :: later → Spells arg s → s.key = key →
          (∀ x ∈ later, ¬Names key x) → s.HoldsIn p) ∧
    (∀ a, (∃ found, settings a = .ok found) ↔ ∀ arg ∈ arguments a, ∃ s, Spells arg s) ∧
    ∀ a earlier arg later, arguments a = earlier ++ arg :: later →
      (∀ x ∈ earlier, ∃ s, Spells x s) → (∀ s, ¬Spells arg s) →
      ∃ e, argument arg = .error e ∧ settings a = .error e := by
  refine ⟨?_, ?_, ?_, ?_⟩
  · intro a b forA forB ha hb
    constructor
    · rw [settings_eq_mapM] at ha hb
      rw [settings_eq_mapM, arguments_followedBy, List.mapM_append, ha, hb]
      rfl
    · simp only [apply_ofSettings, List.foldl_append]
  · intro a found ha p
    have hp : p = found.foldl Setting.override o := apply_ofSettings found o
    refine ⟨apply_apply _ o, ?_, fun key => ⟨fun hnone => ?_, ?_⟩⟩
    · rw [hp, Setting.foldl_override_unchecked]
    · rw [hp]
      exact Setting.agreeAt_foldl_override (key_ne_of_not_names (map_argument_eq ha) hnone) o
    · rintro earlier arg later s hargs harg rfl hlater
      exact holdsIn_of_last ha hargs harg hlater o
  · intro a
    rw [settings_eq_mapM]
    exact exists_mapM_argument_iff
  · intro a earlier arg later hargs hearlier harg
    obtain ⟨e, he⟩ := exists_argument_eq_error harg
    exact ⟨e, he, settings_eq_error hargs hearlier he⟩

/-- A list that ends in a comma, one that sets an option again, and one with two arguments that
cannot be used. -/
theorem settings_override_repeated :
    let a : List Tree := [.word "optimize" ⟨1, 0⟩, .mark ',' false, .word "strict_names" ⟨1, 10⟩,
      .mark '=' false, .word "false" ⟨1, 25⟩, .mark ',' false]
    let b : List Tree := [.word "buffer_size" ⟨1, 0⟩, .mark '=' false, .literal "256",
      .mark ',' false, .word "optimize" ⟨1, 19⟩, .mark '=' false, .word "false" ⟨1, 30⟩]
    let c : List Tree := [.word "optimize" ⟨1, 0⟩, .mark ',' false, .word "fast" ⟨1, 10⟩,
      .mark ',' false, .word "buffer_size" ⟨1, 16⟩]
    (∃ forA forB, settings a = .ok forA ∧ settings b = .ok forB ∧
      settings (followedBy a b) = .ok (forA ++ forB) ∧
      ∀ o : Options, (ofSettings (forA ++ forB)).apply o =
          (ofSettings forB).apply ((ofSettings forA).apply o) ∧
        ((ofSettings (forA ++ forB)).apply o).optimize = false) ∧
    settings c = .error (.unknownArgument "fast" ⟨1, 10⟩) := by
  intro a b c
  have hforA : settings a = .ok [.optimize true, .strictNames false] := rfl
  have hforB : settings b = .ok [.bufferSize 256, .optimize false] := rfl
  constructor
  · refine ⟨_, _, hforA, hforB, ((settings_override {}).1 a b _ _ hforA hforB).1, fun o => ?_⟩
    obtain ⟨hboth, hlayers⟩ := (settings_override o).1 a b _ _ hforA hforB
    obtain ⟨-, -, hkeys⟩ := (settings_override o).2.1 _ _ hboth
    have hlast : arguments (followedBy a b) = (arguments a ++ [b.take 3]) ++ [b.drop 4] := rfl
    exact ⟨hlayers, (hkeys .optimize).2 _ _ _ (.optimize false) hlast (.optimize _ (.off _ _)) rfl
      nofun⟩
  · have hoptimize : Spells [.word "optimize" ⟨1, 0⟩] (.optimize true) := .optimize _ .alone
    have hfast : ∀ s, ¬Spells [.word "fast" ⟨1, 10⟩] s := fun s hs => by
      cases argument_eq_ok_iff.mpr hs
    obtain ⟨e, he, hc⟩ := (settings_override {}).2.2.2 c [_] _ [[.word "buffer_size" ⟨1, 16⟩]] rfl
      (by simpa using ⟨_, hoptimize⟩) hfast
    cases he
    exact hc

end Marker

end Stencil
