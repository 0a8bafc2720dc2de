/-
  Serving: whether a path that was handed out leads back to its file.

  `canonical` looks for a file of the very names of the path, and `locate` decodes the path once more
  and takes the index of a folder for the folder.  The two agree on a path without escapes, unless a
  root before that of the file has a folder with an index in the place of the file.
-/
import VeiledGateway.Proofs.Asset.Escape
import VeiledGateway.Proofs.Asset.Finding

set_option autoImplicit false

namespace VeiledGateway

/-! ## Files and folders -/

namespace Disk

variable {disk : Disk} {place : Place}

theorem isDirectory_of_isFile (h : disk.isFile place = .ok true) :
    disk.isDirectory place = .ok false := by
  obtain ⟨content, hcontent, h⟩ := Outcome.bind_eq_ok.mp h
  have hsome : content.isSome = true := Outcome.pure_eq_ok.mp h
  unfold read? at hcontent
  unfold isDirectory
  split at hcontent
  · cases hcontent
  · rename_i hlook
    rw [hlook]
  · obtain rfl := Except.ok.inj hcontent
    cases hsome

/-- Whether a folder is at a place can be told if it can be told whether a file is there. -/
theorem isDirectory_eq_ok {isFile : Bool} (h : disk.isFile place = .ok isFile) :
    ∃ isFolder, disk.isDirectory place = .ok isFolder := by
  obtain ⟨content, hcontent, -⟩ := Outcome.bind_eq_ok.mp h
  unfold read? at hcontent
  unfold isDirectory
  split at hcontent
  · cases hcontent
  · rename_i hlook
    exact ⟨false, by rw [hlook]⟩
  · rename_i hlong _
    split
    · rename_i hlook
      exact absurd hlook hlong
    · exact ⟨true, rfl⟩
    · exact ⟨false, rfl⟩

end Disk

namespace Assets

variable {assets : Assets}

/-! ## One root -/

/-- A root has a folder where the file would be, with an index that is a file or cannot be looked at.
-/
def Shadows (assets : Assets) (names : List Text) (root : Place) : Prop :=
  ∃ folder, assets.placeUnder names root = .ok folder ∧ root <+: folder ∧
    assets.disk.isDirectory folder = .ok true ∧
    assets.disk.isFile (folder ++ [indexFile]) ≠ .ok false

/-- Where the names lead out of the root, nothing is found. -/
theorem findUnder_of_outside {withIndex : Bool} {names : List Text} {root base : Place}
    (hbase : assets.placeUnder names root = .ok base) (hout : ¬ root <+: base) :
    assets.findUnder withIndex names root = .ok none := by
  have hflag : root.isPrefixOf base = false := by
    rw [← Bool.not_eq_true, List.isPrefixOf_iff_prefix]
    exact hout
  simp [findUnder, hbase, bind, Except.bind, hflag, pure, Except.pure]

/-- Where the names lead to no folder, or folders are not looked at, a file must be there itself. -/
theorem findUnder_of_no_folder {withIndex : Bool} {names : List Text} {root base : Place}
    (hbase : assets.placeUnder names root = .ok base) (hin : root <+: base)
    (hfolder : withIndex = true → assets.disk.isDirectory base = .ok false) :
    assets.findUnder withIndex names root =
      (assets.disk.isFile base).map fun isFile => if isFile then some base else none := by
  have hflag : root.isPrefixOf base = true := List.isPrefixOf_iff_prefix.mpr hin
  cases withIndex with
  | false =>
    cases hfile : assets.disk.isFile base <;>
      simp [findUnder, hbase, bind, Except.bind, hflag, pure, Except.pure, hfile, Except.map]
  | true =>
    have hnot := hfolder rfl
    cases hfile : assets.disk.isFile base <;>
      simp [findUnder, hbase, bind, Except.bind, hflag, pure, Except.pure, hnot, hfile, Except.map]

/-- Where the names lead to a folder, its index must be a file. -/
theorem findUnder_of_folder {names : List Text} {root base : Place}
    (hbase : assets.placeUnder names root = .ok base) (hin : root <+: base)
    (hfolder : assets.disk.isDirectory base = .ok true) :
    assets.findUnder true names root =
      (assets.disk.isFile (base ++ [indexFile])).map fun isFile =>
        if isFile then some (base ++ [indexFile]) else none := by
  have hflag : root.isPrefixOf base = true := List.isPrefixOf_iff_prefix.mpr hin
  cases hfile : assets.disk.isFile (base ++ [indexFile]) <;>
    simp [findUnder, hbase, bind, Except.bind, hflag, pure, Except.pure, hfolder, hfile, Except.map]

theorem map_taken_eq_none {base : Place} {outcome : Except Fault Bool} :
    (outcome.map fun isFile => if isFile then some base else none) = .ok none ↔
      outcome = .ok false := by
  rcases outcome with fault | _ | _ <;> simp [Except.map]

/-- A file that is found without indices is found with them. -/
theorem findUnder_index_of_found {names : List Text} {root place : Place}
    (h : assets.findUnder false names root = .ok (some place)) :
    assets.findUnder true names root = .ok (some place) := by
  obtain ⟨base, hbase, hin, hfile, hplace⟩ := findUnder_eq_some h
  obtain rfl : place = base := hplace.resolve_right fun hindex => Bool.noConfusion hindex.1
  rw [findUnder_of_no_folder hbase hin fun _ => Disk.isDirectory_of_isFile hfile, hfile]
  rfl

/-- Where no file is found without indices, none is found with them unless the root shadows it. -/
theorem findUnder_index_of_nothing {names : List Text} {root : Place}
    (h : assets.findUnder false names root = .ok none) :
    assets.findUnder true names root = .ok none ↔ ¬ assets.Shadows names root := by
  obtain ⟨base, hbase, -⟩ := Outcome.bind_eq_ok.mp h
  by_cases hin : root <+: base
  · rw [findUnder_of_no_folder hbase hin (by simp), map_taken_eq_none] at h
    obtain ⟨isFolder, hfolder⟩ := Disk.isDirectory_eq_ok h
    cases isFolder with
    | false =>
      rw [findUnder_of_no_folder hbase hin fun _ => hfolder, map_taken_eq_none]
      refine iff_of_true h ?_
      rintro ⟨folder, hplace, -, hisFolder, -⟩
      obtain rfl := Except.ok.inj (hbase.symm.trans hplace)
      rw [hfolder] at hisFolder
      cases hisFolder
    | true =>
      rw [findUnder_of_folder hbase hin hfolder, map_taken_eq_none]
      constructor
      · rintro hindex ⟨folder, hplace, -, -, hisFile⟩
        obtain rfl := Except.ok.inj (hbase.symm.trans hplace)
        exact hisFile hindex
      · intro hshadows
        apply Classical.byContradiction
        intro hindex
        exact hshadows ⟨base, hbase, hin, hfolder, hindex⟩
  · refine iff_of_true (findUnder_of_outside hbase hin) ?_
    rintro ⟨folder, hplace, hinside, -, -⟩
    obtain rfl := Except.ok.inj (hbase.symm.trans hplace)
    exact hin hinside

/-! ## All roots -/

/-- A file that a root has is found first unless something is found in a root before. -/
theorem exists_firstFinds_append {withIndex : Bool} {names : List Text} {before after : List Place}
    {root place : Place} (hfound : assets.findUnder withIndex names root = .ok (some place)) :
    (∃ other, assets.FirstFinds withIndex names (before ++ root :: after) other place) ↔
      (∀ other ∈ before, assets.findUnder withIndex names other = .ok none) ∨
        ∃ other, assets.FirstFinds withIndex names before other place := by
  constructor
  · rintro ⟨other, first, rest, hroots, hfirst, hother⟩
    rcases List.append_eq_append_iff.mp hroots with ⟨middle, rfl, -⟩ | ⟨middle, rfl, hrest⟩
    · exact .inl fun next hnext => hfirst next (by simp [hnext])
    · cases middle with
      | nil => exact .inl fun next hnext => hfirst next (by simpa using hnext)
      | cons next more =>
        obtain ⟨rfl, -⟩ := List.cons.inj hrest
        exact .inr ⟨other, first, more, rfl, hfirst, hother⟩
  · rintro (hbefore | ⟨other, first, rest, rfl, hfirst, hother⟩)
    · exact ⟨root, before, after, rfl, hbefore, hfound⟩
    · exact ⟨other, first, rest ++ root :: after, by simp, hfirst, hother⟩

/-- The path that is handed out is in normal form. -/
theorem canonical_normal {reference base path : Text}
    (h : assets.canonical reference base = .ok (some path)) :
    ∃ target, path = Reference.normal target := by
  obtain ⟨htarget, -⟩ := canonical_eq_some h
  obtain ⟨target, -, htarget⟩ := Outcome.bind_eq_ok.mp htarget
  exact ⟨_, (Outcome.pure_eq_ok.mp htarget).symm⟩

/-- A path that was handed out names the file that the first root with such a file has.  It is
located as that file if no escape stands in it and no root before shadows the file, or has the same
file as the index of a folder; or else if the other names that are left of its escapes happen to
lead to the same file. -/
theorem located_of_canonical_iff {reference base path : Text}
    (h : assets.canonical reference base = .ok (some path)) :
    ∃ before root after place, assets.roots = before ++ root :: after ∧
      (∀ other ∈ before, assets.findUnder false (Reference.names path) other = .ok none) ∧
      assets.findUnder false (Reference.names path) root = .ok (some place) ∧
      assets.disk.isFile place = .ok true ∧
      (assets.locate path = .ok (some place) ↔
        ¬ Reference.HasEscape path ∧
          ((∀ other ∈ before, ¬ assets.Shadows (Reference.names path) other) ∨
            ∃ other, assets.FirstFinds true (Reference.names path) before other place) ∨
        Reference.HasEscape path ∧
          Reference.names (Reference.unescape path) ≠ Reference.names path ∧
          ∃ other, assets.FirstFinds true (Reference.names (Reference.unescape path)) assets.roots
            other place) := by
  obtain ⟨-, root, place, before, after, hroots, hbefore, hfound⟩ := canonical_eq_some h
  obtain ⟨-, -, -, hfile, -⟩ := findUnder_eq_some hfound
  refine ⟨before, root, after, place, hroots, hbefore, hfound, hfile, ?_⟩
  rw [locate, findFile_eq_some_iff]
  by_cases hescape : Reference.HasEscape path
  · obtain ⟨target, rfl⟩ := canonical_normal h
    simp only [hescape, Reference.names_unescape_ne hescape, not_true_eq_false, false_and, false_or,
      ne_eq, not_false_eq_true, true_and]
  · have hshadows : (∀ other ∈ before, assets.findUnder true (Reference.names path) other = .ok none)
        ↔ ∀ other ∈ before, ¬ assets.Shadows (Reference.names path) other :=
      forall₂_congr fun other hother => findUnder_index_of_nothing (hbefore other hother)
    rw [Reference.unescape_of_not_hasEscape hescape, hroots,
      exists_firstFinds_append (findUnder_index_of_found hfound), hshadows]
    simp only [hescape, not_false_eq_true, true_and, false_and, or_false]

/-- Two roots: the first has a folder with an index, and the second a file in its place, a file with
an escape in its name, and a file without one. -/
def shadowedSite : Assets where
  disk :=
    { entries := [
        ([("first" : Text), "x.css", indexFile], .file []),
        ([("second" : Text), "x.css"], .file []),
        ([("second" : Text), "y%41.css"], .file []),
        ([("second" : Text), "z.css"], .file [])]
      home := [] }
  roots := [[("first" : Text)], [("second" : Text)]]

/-- A path that was handed out may lead to another file, or to none. -/
theorem shadowed_not_located :
    shadowedSite.canonical "/x.css" "/" = .ok (some "/x.css") ∧
    shadowedSite.findFile false (Reference.names "/x.css") shadowedSite.roots
      = .ok (some [("second" : Text), "x.css"]) ∧
    shadowedSite.locate "/x.css" = .ok (some [("first" : Text), "x.css", indexFile]) ∧
    shadowedSite.canonical "/y%2541.css" "/" = .ok (some "/y%41.css") ∧
    shadowedSite.findFile false (Reference.names "/y%41.css") shadowedSite.roots
      = .ok (some [("second" : Text), "y%41.css"]) ∧
    shadowedSite.locate "/y%41.css" = .ok none :=
  ⟨rfl, rfl, rfl, rfl, rfl, rfl⟩

/-- A path that no root shadows and in which no escape stands leads back to its file. -/
theorem plain_path_located :
    shadowedSite.canonical "/z.css" "/" = .ok (some "/z.css") ∧
    shadowedSite.locate "/z.css" = .ok (some [("second" : Text), "z.css"]) := by
  have hcanonical : shadowedSite.canonical "/z.css" "/" = .ok (some "/z.css") := rfl
  have hfirst : shadowedSite.findUnder false (Reference.names "/z.css") [("first" : Text)]
      = .ok none := rfl
  have hsecond : shadowedSite.findUnder false (Reference.names "/z.css") [("second" : Text)]
      = .ok (some [("second" : Text), "z.css"]) := rfl
  have hunshadowed : ¬ shadowedSite.Shadows (Reference.names "/z.css") [("first" : Text)] :=
    (findUnder_index_of_nothing hfirst).mp rfl
  have hescape : ¬ Reference.HasEscape "/z.css" := by
    rintro ⟨before, _, ht, high, low, rest, rfl, -, -⟩
    have hsign : CodePoint.ofChar '%' ∈ ("/z.css" : Text) := by rw [ht]; simp
    exact absurd hsign (by decide)
  obtain ⟨before, root, after, place, hroots, -, hfound, -, hlocated⟩ :=
    located_of_canonical_iff hcanonical
  refine ⟨hcanonical, ?_⟩
  rcases before with _ | ⟨other, _ | ⟨next, before⟩⟩
  · obtain ⟨rfl, -⟩ := List.cons.inj hroots
    rw [hfirst] at hfound
    cases hfound
  · obtain ⟨rfl, hrest⟩ := List.cons.inj hroots
    obtain ⟨rfl, -⟩ := List.cons.inj hrest
    obtain rfl := Option.some.inj (Except.ok.inj (hsecond.symm.trans hfound))
    refine hlocated.mpr (.inl ⟨hescape, .inl fun other hother => ?_⟩)
    obtain rfl := List.mem_singleton.mp hother
    exact hunshadowed
  · have hlength := congrArg List.length hroots
    simp [shadowedSite] at hlength

end Assets

end VeiledGateway
