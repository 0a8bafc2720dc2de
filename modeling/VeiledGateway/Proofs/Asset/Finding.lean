/-
  Finding files: what the search of the roots gives.

  `findUnder` looks under one root, and `findFile` takes the first root under which something is
  found.  Whatever is found is a file, and it lies under the root as that is written.
-/
import VeiledGateway.Asset.Resolver
import VeiledGateway.Proofs.Outcome

set_option autoImplicit false

namespace VeiledGateway.Assets

variable {assets : Assets}

/-! ## One root -/

/-- A place that is taken if a file is there. -/
theorem eq_of_isFile_taken {base place : Place}
    (h : (do return if ← assets.disk.isFile base then some base else none) = Except.ok (some place)) :
    place = base ∧ assets.disk.isFile base = .ok true := by
  obtain ⟨isFile, hfile, h⟩ := Outcome.bind_eq_ok.mp h
  have h := Outcome.pure_eq_ok.mp h
  cases isFile with
  | false => simp at h
  | true => exact ⟨(Option.some.inj h).symm, hfile⟩

/-- What is found under a root: the names lead to something under the root, and that is the file, or
it is a folder and the file is its index. -/
theorem findUnder_eq_some {withIndex : Bool} {names : List Text} {root place : Place}
    (h : assets.findUnder withIndex names root = .ok (some place)) :
    ∃ base, assets.placeUnder names root = .ok base ∧ root <+: base ∧
      assets.disk.isFile place = .ok true ∧
      (place = base ∨ withIndex = true ∧ assets.disk.isDirectory base = .ok true ∧
        place = base ++ [indexFile]) := by
  unfold findUnder at h
  obtain ⟨base, hbase, h⟩ := Outcome.bind_eq_ok.mp h
  split at h
  · cases Outcome.pure_eq_ok.mp h
  · rename_i hroot
    have hroot : root <+: base := List.isPrefixOf_iff_prefix.mp (by simpa using hroot)
    refine ⟨base, hbase, hroot, ?_⟩
    cases withIndex with
    | false =>
      obtain ⟨rfl, hfile⟩ := eq_of_isFile_taken h
      exact ⟨hfile, .inl rfl⟩
    | true =>
      obtain ⟨isFolder, hfolder, h⟩ := Outcome.bind_eq_ok.mp h
      cases isFolder with
      | false =>
        obtain ⟨rfl, hfile⟩ := eq_of_isFile_taken h
        exact ⟨hfile, .inl rfl⟩
      | true =>
        obtain ⟨rfl, hfile⟩ := eq_of_isFile_taken h
        exact ⟨hfile, .inr ⟨rfl, hfolder, rfl⟩⟩

/-! ## All roots -/

/-- Some place is found under a root, and nothing is found under the roots before it. -/
def FirstFinds (assets : Assets) (withIndex : Bool) (names : List Text) (roots : List Place)
    (root place : Place) : Prop :=
  ∃ before after, roots = before ++ root :: after ∧
    (∀ other ∈ before, assets.findUnder withIndex names other = .ok none) ∧
    assets.findUnder withIndex names root = .ok (some place)

theorem FirstFinds.mem {withIndex : Bool} {names : List Text} {roots : List Place}
    {root place : Place} (h : assets.FirstFinds withIndex names roots root place) :
    root ∈ roots := by
  obtain ⟨before, after, rfl, -, -⟩ := h
  simp

theorem FirstFinds.found {withIndex : Bool} {names : List Text} {roots : List Place}
    {root place : Place} (h : assets.FirstFinds withIndex names roots root place) :
    assets.findUnder withIndex names root = .ok (some place) :=
  h.choose_spec.choose_spec.2.2

theorem firstFinds_cons {withIndex : Bool} {names : List Text} {first root place : Place}
    {rest : List Place} :
    assets.FirstFinds withIndex names (first :: rest) root place ↔
      root = first ∧ assets.findUnder withIndex names first = .ok (some place) ∨
        assets.findUnder withIndex names first = .ok none ∧
          assets.FirstFinds withIndex names rest root place := by
  constructor
  · rintro ⟨before, after, hroots, hbefore, hfound⟩
    cases before with
    | nil =>
      obtain ⟨rfl, rfl⟩ := List.cons.inj hroots
      exact .inl ⟨rfl, hfound⟩
    | cons other others =>
      obtain ⟨rfl, rfl⟩ := List.cons.inj hroots
      exact .inr ⟨hbefore _ (by simp), others, after, rfl,
        fun next hnext => hbefore next (by simp [hnext]), hfound⟩
  · rintro (⟨rfl, hfound⟩ | ⟨hnone, before, after, rfl, hbefore, hfound⟩)
    · exact ⟨[], rest, rfl, by simp, hfound⟩
    · refine ⟨first :: before, after, rfl, ?_, hfound⟩
      intro other hother
      rcases List.mem_cons.mp hother with rfl | hother
      · exact hnone
      · exact hbefore other hother

/-- The file that is found is that of the first root that has one. -/
theorem findFile_eq_some_iff {withIndex : Bool} {names : List Text} {roots : List Place}
    {place : Place} :
    assets.findFile withIndex names roots = .ok (some place) ↔
      ∃ root, assets.FirstFinds withIndex names roots root place := by
  induction roots with
  | nil => simp [findFile, FirstFinds, pure, Except.pure]
  | cons first rest ih =>
    rw [findFile, Outcome.bind_eq_ok]
    constructor
    · rintro ⟨outcome, hfirst, h⟩
      cases outcome with
      | none =>
        obtain ⟨root, hroot⟩ := ih.mp h
        exact ⟨root, firstFinds_cons.mpr (.inr ⟨hfirst, hroot⟩)⟩
      | some found =>
        obtain rfl := Option.some.inj (Outcome.pure_eq_ok.mp h)
        exact ⟨first, firstFinds_cons.mpr (.inl ⟨rfl, hfirst⟩)⟩
    · rintro ⟨root, hroot⟩
      rcases firstFinds_cons.mp hroot with ⟨-, hfirst⟩ | ⟨hfirst, hrest⟩
      · exact ⟨_, hfirst, rfl⟩
      · exact ⟨_, hfirst, ih.mpr ⟨root, hrest⟩⟩

/-- A reference that has a path names a file of that path. -/
theorem canonical_eq_some {reference base path : Text}
    (h : assets.canonical reference base = .ok (some path)) :
    targetPath reference base = .ok path ∧
      ∃ root place, assets.FirstFinds false (Reference.names path) assets.roots root place := by
  unfold canonical at h
  obtain ⟨kind, -, h⟩ := Outcome.bind_eq_ok.mp h
  cases kind with
  | static =>
    obtain ⟨target, htarget, h⟩ := Outcome.bind_eq_ok.mp h
    obtain ⟨found, hfound, h⟩ := Outcome.bind_eq_ok.mp h
    cases found with
    | none => cases Outcome.pure_eq_ok.mp h
    | some place =>
      obtain rfl := Option.some.inj (Outcome.pure_eq_ok.mp h)
      obtain ⟨root, hroot⟩ := findFile_eq_some_iff.mp hfound
      exact ⟨htarget, root, place, hroot⟩
  | external => cases Outcome.pure_eq_ok.mp h
  | fragment => cases Outcome.pure_eq_ok.mp h
  | dynamic => cases Outcome.pure_eq_ok.mp h

end VeiledGateway.Assets
