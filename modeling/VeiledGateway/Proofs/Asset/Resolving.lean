/-
  Resolving: which references and which paths come to an answer.

  A reference is read as an address once blanks at its ends, and tabs and ends of lines anywhere, are
  gone; only then a host may show up in it that is none.  A path may be one that no file can have, or
  lead round in a circle, or to a name that is too long for a file.  Nothing else stops a search of
  the roots, and on a disk without links nothing but the names themselves does.
-/
import VeiledGateway.Proofs.Asset.Serving
import VeiledGateway.Proofs.Text.Prefix

set_option autoImplicit false

namespace VeiledGateway

/-! ## Addresses -/

namespace Reference

/-- The host that a reference names once what is no part of an address is gone. -/
def hostOf (reference : Text) : Text :=
  let t := (reference.dropWhile fun (c : CodePoint) => c.val ≤ 0x20).filter (!isDropped ·)
  (cutHost (cutScheme t).2).1

theorem split_comes_iff {reference : Text} :
    (∃ parts, split reference = .ok parts) ↔ Host.check (hostOf reference) = .ok () := by
  unfold split
  dsimp only
  constructor
  · rintro ⟨parts, h⟩
    obtain ⟨_, hcheck, -⟩ := Outcome.bind_eq_ok.mp h
    exact hcheck
  · intro hcheck
    exact ⟨_, Outcome.bind_eq_ok.mpr ⟨(), hcheck, rfl⟩⟩

/-- The kind of a reference can be told: by its look, or because no bad host shows up in it. -/
def Reads (reference : Text) : Prop :=
  Text.startsWith (Text.trim reference) "//" = true ∨ hasScheme (Text.trim reference) = true ∨
    Text.startsWith (Text.trim reference) "#" = true ∨
    Host.check (hostOf (Text.trim reference)) = .ok ()

theorem kindOf_comes_iff {reference : Text} :
    (∃ kind, kindOf reference = .ok kind) ↔ Reads reference := by
  unfold kindOf Reads
  generalize Text.trim reference = ref
  dsimp only
  by_cases hforeign : (Text.startsWith ref "//" || hasScheme ref) = true
  · rw [if_pos hforeign]
    refine iff_of_true ⟨_, rfl⟩ ?_
    rcases (Bool.or_eq_true _ _).mp hforeign with hslashes | hscheme
    · exact .inl hslashes
    · exact .inr (.inl hscheme)
  · rw [if_neg hforeign]
    obtain ⟨hslashes, hscheme⟩ : ¬ Text.startsWith ref "//" = true ∧ ¬ hasScheme ref = true := by
      simpa only [Bool.or_eq_true, not_or] using hforeign
    by_cases hmark : Text.startsWith ref "#" = true
    · rw [if_pos hmark]
      exact iff_of_true ⟨_, rfl⟩ (.inr (.inr (.inl hmark)))
    · rw [if_neg hmark, or_iff_right hslashes, or_iff_right hscheme, or_iff_right hmark,
        ← split_comes_iff]
      constructor
      · rintro ⟨kind, h⟩
        obtain ⟨path, hpath, -⟩ := Outcome.bind_eq_ok.mp h
        obtain ⟨parts, hparts, -⟩ := Outcome.bind_eq_ok.mp hpath
        exact ⟨parts, hparts⟩
      · rintro ⟨parts, hparts⟩
        exact ⟨_, Outcome.bind_eq_ok.mpr ⟨_, Outcome.bind_eq_ok.mpr ⟨parts, hparts, rfl⟩, rfl⟩⟩

/-- Where there is nothing to take away, a host stands only behind slashes or a scheme. -/
theorem reads_of_printing {reference : Text} (h : ∀ c ∈ Text.trim reference, 0x20 < c.val) :
    Reads reference := by
  unfold Reads
  generalize Text.trim reference = ref at h
  by_cases hslashes : Text.startsWith ref "//" = true
  · exact .inl hslashes
  by_cases hscheme : hasScheme ref = true
  · exact .inr (.inl hscheme)
  refine .inr (.inr (.inr ?_))
  have hkept : ref.filter (!isDropped ·) = ref := by
    refine List.filter_eq_self.mpr fun c hc => ?_
    have hc := h c hc
    simp only [isDropped, Bool.not_eq_true', Bool.or_eq_false_iff, beq_eq_false_iff_ne]
    refine ⟨⟨?_, ?_⟩, ?_⟩ <;> rintro rfl <;> exact absurd hc (by decide)
  have hhead : ref.dropWhile (fun (c : CodePoint) => c.val ≤ 0x20) = ref := by
    cases ref with
    | nil => rfl
    | cons c rest =>
      have hc := h c List.mem_cons_self
      rw [List.dropWhile_cons_of_neg (by simp only [decide_eq_true_eq]; omega)]
  have hwhole : (cutScheme ref).2 = ref := by
    unfold cutScheme
    unfold hasScheme at hscheme
    split
    · split
      · rename_i hcut hflag
        rw [hcut] at hscheme
        exact absurd hflag hscheme
      · rfl
    · rfl
  have hnone : Text.dropPrefix? ref "//" = none := by
    rw [Text.startsWith] at hslashes
    exact Option.not_isSome_iff_eq_none.mp hslashes
  have hhost : hostOf ref = [] := by
    simp only [hostOf, hhead, hkept, hwhole, cutHost, hnone]
  rw [hhost]
  rfl

end Reference

/-! ## Places -/

namespace Disk

variable {disk : Disk}

/-- Names that a file can have, as far as their code points go. -/
def Nameable (names : List Text) : Prop :=
  ∀ name ∈ names, ∀ c ∈ name, c.val ≠ 0 ∧ isUnnamable c = false

theorem nameFault?_eq_none_iff {start : Place} {names : List Text} :
    nameFault? start names = none ↔ Nameable names := by
  unfold nameFault?
  constructor
  · intro h
    split at h
    · rename_i hnone
      intro name hname c hc
      have hgood := List.find?_eq_none.mp hnone name hname
      simp only [List.any_eq_true, not_exists, not_and, Bool.not_eq_true, Bool.or_eq_false_iff,
        beq_eq_false_iff_ne] at hgood
      exact hgood c hc
    · split at h <;> cases h
  · intro h
    have hnone : names.find? (·.any fun c => c.val == 0 || isUnnamable c) = none := by
      refine List.find?_eq_none.mpr fun name hname => ?_
      simp only [List.any_eq_true, not_exists, not_and, Bool.not_eq_true, Bool.or_eq_false_iff,
        beq_eq_false_iff_ne]
      exact h name hname
    rw [hnone]

/-- Where names lead from the root of a disk, also if the way ends in a circle. -/
def destination (disk : Disk) (names : List Text) : Place :=
  tidy (walk disk (names.length + disk.linkNames + 1) [] names []).1

theorem resolve_eq_ok_iff {names : List Text} {place : Place} :
    disk.resolve [] names = .ok place ↔
      Nameable names ∧ disk.look (disk.destination names) ≠ .endless ∧
        place = disk.destination names := by
  unfold resolve
  rw [← @nameFault?_eq_none_iff []]
  split
  · rename_i hfault
    simp [hfault]
  · rename_i hnone
    simp only [hnone, true_and]
    rw [← destination]
    split
    · rename_i hendless
      simp [hendless]
    · rename_i hends
      constructor
      · intro h
        exact ⟨hends, (Except.ok.inj h).symm⟩
      · rintro ⟨-, rfl⟩
        rfl

theorem isDirectory_comes {place : Place} (h : disk.look place ≠ .tooLong) :
    ∃ isFolder, disk.isDirectory place = .ok isFolder := by
  unfold isDirectory
  split
  · contradiction
  · exact ⟨true, rfl⟩
  · exact ⟨false, rfl⟩

theorem isDirectory_eq_true_iff {place : Place} :
    disk.isDirectory place = .ok true ↔ disk.look place = .found .directory := by
  unfold isDirectory
  split
  · rename_i hlong
    simp [hlong]
  · rename_i hfolder
    simp [hfolder]
  · rename_i hother
    simpa using hother

theorem isFile_comes_iff {place : Place} :
    (∃ isFile, disk.isFile place = .ok isFile) ↔ disk.look place ≠ .tooLong := by
  unfold isFile read?
  split
  · rename_i hlong
    exact iff_of_false (by rintro ⟨isFile, h⟩; cases h) (by simp [hlong])
  · rename_i hfile
    exact iff_of_true ⟨true, rfl⟩ (by simp [hfile])
  · rename_i hlong _
    exact iff_of_true ⟨false, rfl⟩ hlong

end Disk

/-! ## Searches -/

namespace Assets

variable {assets : Assets} {withIndex : Bool} {names : List Text} {root : Place}

/-- Where the names of a path lead under a root. -/
def destination (assets : Assets) (names : List Text) (root : Place) : Place :=
  if names.isEmpty then root else assets.disk.destination (root ++ names)

/-- It can be told whether a file of a path is under a root. -/
structure Tells (assets : Assets) (withIndex : Bool) (names : List Text) (root : Place) : Prop where
  nameable (h : names ≠ []) : Disk.Nameable (root ++ names)
  ends (h : names ≠ []) : assets.disk.look (assets.destination names root) ≠ .endless
  short (h : root <+: assets.destination names root) :
    assets.disk.look (assets.destination names root) ≠ .tooLong
  shortIndex (h : root <+: assets.destination names root) (hindex : withIndex = true)
    (hfolder : assets.disk.look (assets.destination names root) = .found .directory) :
    assets.disk.look (assets.destination names root ++ [indexFile]) ≠ .tooLong

theorem placeUnder_eq_ok_iff {place : Place} :
    assets.placeUnder names root = .ok place ↔
      (names ≠ [] → Disk.Nameable (root ++ names) ∧
        assets.disk.look (assets.destination names root) ≠ .endless) ∧
      place = assets.destination names root := by
  unfold placeUnder destination
  cases names with
  | nil => simp [eq_comm]
  | cons name rest =>
    simp only [List.isEmpty_cons, Bool.false_eq_true, if_false, ne_eq, reduceCtorEq,
      not_false_eq_true, forall_const]
    rw [Disk.resolve_eq_ok_iff, and_assoc]

/-- Where the names lead under the root, to a place with a name too long, nothing can be told. -/
theorem short_of_findUnder {found : Option Place} {base : Place}
    (hbase : assets.placeUnder names root = .ok base) (hin : root <+: base)
    (h : assets.findUnder withIndex names root = .ok found) : assets.disk.look base ≠ .tooLong := by
  intro hlong
  cases withIndex with
  | false =>
    rw [findUnder_of_no_folder hbase hin (by simp)] at h
    exact Disk.isFile_comes_iff.mp (Outcome.map_comes_iff.mp ⟨found, h⟩) hlong
  | true =>
    have hflag : root.isPrefixOf base = true := List.isPrefixOf_iff_prefix.mpr hin
    have hfolder : assets.disk.isDirectory base = .error (.longName (Disk.written base)) := by
      rw [Disk.isDirectory, hlong]
    simp [findUnder, hbase, bind, Except.bind, hflag, hfolder] at h

theorem findUnder_comes_iff :
    (∃ found, assets.findUnder withIndex names root = .ok found) ↔
      assets.Tells withIndex names root := by
  by_cases hplace : ∃ base, assets.placeUnder names root = .ok base
  · obtain ⟨base, hbase⟩ := hplace
    obtain ⟨hway, rfl⟩ := placeUnder_eq_ok_iff.mp hbase
    constructor
    · rintro ⟨found, h⟩
      refine ⟨fun hne => (hway hne).1, fun hne => (hway hne).2,
        fun hin => short_of_findUnder hbase hin h, fun hin hindex hfolder => ?_⟩
      obtain rfl := hindex
      rw [findUnder_of_folder hbase hin (Disk.isDirectory_eq_true_iff.mpr hfolder)] at h
      exact Disk.isFile_comes_iff.mp (Outcome.map_comes_iff.mp ⟨found, h⟩)
    · intro h
      by_cases hin : root <+: assets.destination names root
      · by_cases hfolder : withIndex = true ∧
            assets.disk.look (assets.destination names root) = .found .directory
        · obtain ⟨rfl, hfolder⟩ := hfolder
          rw [findUnder_of_folder hbase hin (Disk.isDirectory_eq_true_iff.mpr hfolder),
            Outcome.map_comes_iff, Disk.isFile_comes_iff]
          exact h.shortIndex hin rfl hfolder
        · obtain ⟨isFolder, hisFolder⟩ := Disk.isDirectory_comes (h.short hin)
          have hnot (hindex : withIndex = true) :
              assets.disk.isDirectory (assets.destination names root) = .ok false := by
            cases isFolder with
            | false => exact hisFolder
            | true => exact absurd ⟨hindex, Disk.isDirectory_eq_true_iff.mp hisFolder⟩ hfolder
          rw [findUnder_of_no_folder hbase hin hnot, Outcome.map_comes_iff, Disk.isFile_comes_iff]
          exact h.short hin
      · exact ⟨none, findUnder_of_outside hbase hin⟩
  · refine iff_of_false ?_ ?_
    · rintro ⟨found, h⟩
      obtain ⟨base, hbase, -⟩ := Outcome.bind_eq_ok.mp h
      exact hplace ⟨base, hbase⟩
    · intro h
      exact hplace ⟨_, placeUnder_eq_ok_iff.mpr ⟨fun hne => ⟨h.nameable hne, h.ends hne⟩, rfl⟩⟩

/-- It can be told whether a file of a path is under a root, for each root up to the first that has
such a file. -/
def Searchable (assets : Assets) (withIndex : Bool) (names : List Text) : Prop :=
  ∀ before root after, assets.roots = before ++ root :: after →
    (∀ other ∈ before, assets.findUnder withIndex names other = .ok none) →
    assets.Tells withIndex names root

theorem findFile_comes_iff {roots : List Place} :
    (∃ found, assets.findFile withIndex names roots = .ok found) ↔
      ∀ before root after, roots = before ++ root :: after →
        (∀ other ∈ before, assets.findUnder withIndex names other = .ok none) →
        assets.Tells withIndex names root := by
  induction roots with
  | nil =>
    refine iff_of_true ⟨none, rfl⟩ fun before root after hroots => ?_
    simp at hroots
  | cons first rest ih =>
    have hstep : (∃ found, assets.findFile withIndex names (first :: rest) = .ok found) ↔
        assets.Tells withIndex names first ∧ (assets.findUnder withIndex names first = .ok none →
          ∃ found, assets.findFile withIndex names rest = .ok found) := by
      rw [← findUnder_comes_iff, findFile]
      constructor
      · rintro ⟨found, h⟩
        obtain ⟨here, hhere, h⟩ := Outcome.bind_eq_ok.mp h
        refine ⟨⟨here, hhere⟩, fun hnone => ⟨found, ?_⟩⟩
        obtain rfl := Except.ok.inj (hhere.symm.trans hnone)
        exact h
      · rintro ⟨⟨here, hhere⟩, hrest⟩
        cases here with
        | some place => exact ⟨some place, Outcome.bind_eq_ok.mpr ⟨_, hhere, rfl⟩⟩
        | none =>
          obtain ⟨found, h⟩ := hrest hhere
          exact ⟨found, Outcome.bind_eq_ok.mpr ⟨_, hhere, h⟩⟩
    rw [hstep, ih]
    constructor
    · rintro ⟨hfirst, hrest⟩ before root after hroots hbefore
      cases before with
      | nil =>
        obtain ⟨rfl, -⟩ := List.cons.inj hroots
        exact hfirst
      | cons other others =>
        obtain ⟨rfl, hothers⟩ := List.cons.inj hroots
        obtain ⟨hother, hbefore⟩ := List.forall_mem_cons.mp hbefore
        exact hrest hother others root after hothers hbefore
    · intro h
      refine ⟨h [] first rest rfl (by simp), fun hnone before root after hroots hbefore => ?_⟩
      exact h (first :: before) root after (by rw [hroots, List.cons_append])
        (List.forall_mem_cons.mpr ⟨hnone, hbefore⟩)

/-! ## References and paths -/

/-- A reference from a document comes to an answer: it reads as an address, and if it names a path
with an extension, the roots can be searched for that. -/
def Answers (assets : Assets) (reference base : Text) : Prop :=
  Reference.Reads reference ∧ ∀ path, Reference.kindOf reference = .ok .static →
    targetPath reference base = .ok path → assets.Searchable false (Reference.names path)

theorem exists_targetPath {reference base : Text}
    (h : Reference.kindOf reference = .ok .static) : ∃ path, targetPath reference base = .ok path := by
  unfold Reference.kindOf at h
  dsimp only at h
  split at h
  · cases Outcome.pure_eq_ok.mp h
  · split at h
    · cases Outcome.pure_eq_ok.mp h
    · obtain ⟨path, hpath, -⟩ := Outcome.bind_eq_ok.mp h
      exact ⟨_, Outcome.bind_eq_ok.mpr ⟨path, hpath, rfl⟩⟩

theorem canonical_of_static {reference base path : Text}
    (hkind : Reference.kindOf reference = .ok .static) (hpath : targetPath reference base = .ok path) :
    assets.canonical reference base =
      (assets.findFile false (Reference.names path) assets.roots).map (Option.map fun _ => path) := by
  rw [canonical, hkind]
  simp only [bind, Except.bind, hpath]
  cases assets.findFile false (Reference.names path) assets.roots with
  | error fault => rfl
  | ok found => cases found <;> rfl

theorem canonical_of_other {reference base : Text} {kind : ReferenceKind}
    (hkind : Reference.kindOf reference = .ok kind) (hother : kind ≠ .static) :
    assets.canonical reference base = .ok none := by
  rw [canonical, hkind]
  cases kind with
  | static => contradiction
  | _ => rfl

theorem canonical_comes_iff {reference base : Text} :
    (∃ path?, assets.canonical reference base = .ok path?) ↔ assets.Answers reference base := by
  unfold Answers
  rw [← Reference.kindOf_comes_iff]
  by_cases hreads : ∃ kind, Reference.kindOf reference = .ok kind
  · obtain ⟨kind, hkind⟩ := hreads
    rw [and_iff_right ⟨kind, hkind⟩]
    by_cases hstatic : kind = .static
    · subst hstatic
      obtain ⟨path, hpath⟩ := @exists_targetPath reference base hkind
      rw [canonical_of_static hkind hpath, Outcome.map_comes_iff, findFile_comes_iff]
      constructor
      · rintro h other - hother
        obtain rfl := Except.ok.inj (hpath.symm.trans hother)
        exact h
      · exact fun h => h path hkind hpath
    · refine iff_of_true ⟨none, canonical_of_other hkind hstatic⟩ fun path h => ?_
      exact absurd (Except.ok.inj (hkind.symm.trans h)) hstatic
  · refine iff_of_false ?_ fun h => hreads h.1
    rintro ⟨path?, h⟩
    obtain ⟨kind, hkind, -⟩ := Outcome.bind_eq_ok.mp h
    exact hreads ⟨kind, hkind⟩

/-- What stands for a reference is the path of its file, or the reference itself where no file is
found; it is there whenever that can be told. -/
theorem resolve_eq_map (reference base : Text) :
    assets.resolve reference base =
      (assets.canonical reference base).map fun path? => path?.getD reference := by
  unfold resolve
  cases assets.canonical reference base <;> rfl

theorem locate_comes_iff {path : Text} :
    (∃ place?, assets.locate path = .ok place?) ↔
      assets.Searchable true (Reference.names (Reference.unescape path)) :=
  findFile_comes_iff

end Assets

/-! ## Disks without links -/

namespace Disk

variable {disk : Disk}

/-- No link is on a disk. -/
def Linkless (disk : Disk) : Prop :=
  ∀ place target, disk.entry? place ≠ some (.link target)

theorem linkless_of_entries (h : ∀ entry ∈ disk.entries, ∀ target, entry.2 ≠ .link target) :
    disk.Linkless := by
  intro place target hentry
  unfold entry? at hentry
  split at hentry
  · rename_i entry hlookup
    obtain rfl := Option.some.inj hentry
    obtain ⟨before, after, hentries, -⟩ := List.lookup_eq_some_iff.mp hlookup
    exact h (place, .link target) (by rw [hentries]; simp) target rfl
  · dsimp only at hentry
    split at hentry <;> cases hentry

/-- A name that a file can have. -/
def Fits (name : Text) : Prop :=
  (∀ c ∈ name, c.val ≠ 0 ∧ isUnnamable c = false) ∧ (nameBytes name).length ≤ nameLimit

instance (name : Text) : Decidable (Fits name) :=
  inferInstanceAs (Decidable (_ ∧ _))

/-- Without links no name comes up on a walk that was not there before. -/
theorem mem_of_walk (h : disk.Linkless) {name : Text} (fuel : Nat) (place : Place)
    (names : List Text) (seen : Seen) (hname : name ∈ (walk disk fuel place names seen).1) :
    name ∈ place ++ names := by
  induction names generalizing fuel place with
  | nil => cases fuel <;> simpa [walk] using hname
  | cons first rest ih =>
    cases fuel with
    | zero => exact hname
    | succ fuel =>
      rw [walk] at hname
      split at hname
      · rcases List.mem_append.mp (ih fuel _ hname) with hplace | hrest
        · exact List.mem_append_left _ (List.dropLast_subset _ hplace)
        · exact List.mem_append_right _ (List.mem_cons_of_mem _ hrest)
      · dsimp only at hname
        split at hname
        · rename_i target hlink
          exact absurd hlink (h _ target)
        · simpa using ih fuel _ hname

theorem mem_of_tidy {name : Text} {place : Place} (h : name ∈ tidy place) : name ∈ place := by
  have hfold : ∀ above : Place, name ∈ place.foldl (fun above name =>
      if Text.eqString name ".." then above.drop 1 else name :: above) above →
      name ∈ above ∨ name ∈ place := by
    clear h
    induction place with
    | nil => exact fun above h => .inl h
    | cons first rest ih =>
      intro above h
      rw [List.foldl_cons] at h
      rcases ih _ h with h | h
      · split at h
        · exact .inl (List.mem_of_mem_drop h)
        · rcases List.mem_cons.mp h with rfl | h
          · exact .inr List.mem_cons_self
          · exact .inl h
      · exact .inr (List.mem_cons_of_mem _ h)
  rcases hfold [] (List.mem_reverse.mp h) with h | h
  · cases h
  · exact h

/-- Without links a look goes no further than there are names, each of which must fit. -/
theorem lookFrom_comes (h : disk.Linkless) {fuel links : Nat} {place : Place} {names : List Text}
    (hfuel : names.length < fuel) (hnames : ∀ name ∈ names, Fits name) :
    disk.lookFrom fuel links place names ≠ .endless ∧
      disk.lookFrom fuel links place names ≠ .tooLong := by
  induction names generalizing fuel place with
  | nil =>
    obtain ⟨fuel, rfl⟩ := Nat.exists_eq_succ_of_ne_zero (Nat.ne_of_gt hfuel)
    rw [lookFrom]
    · split <;> simp
    · exact Nat.succ_ne_zero fuel
  | cons first rest ih =>
    obtain ⟨fuel, rfl⟩ := Nat.exists_eq_succ_of_ne_zero (Nat.ne_of_gt (Nat.zero_lt_of_lt hfuel))
    obtain ⟨hfirst, hrest⟩ := List.forall_mem_cons.mp hnames
    have hless : rest.length < fuel := Nat.lt_of_succ_lt_succ hfuel
    rw [lookFrom]
    split
    · split
      · exact ih hless hrest
      · rw [if_neg (Nat.not_lt.mpr hfirst.2)]
        dsimp only
        split
        · rename_i target hlink
          exact absurd hlink (h _ target)
        · exact ih hless hrest
    · simp
    · simp

theorem look_comes (h : disk.Linkless) {place : Place} (hplace : ∀ name ∈ place, Fits name) :
    disk.look place ≠ .endless ∧ disk.look place ≠ .tooLong :=
  lookFrom_comes h (by omega) hplace

end Disk

namespace Assets

variable {assets : Assets} {withIndex : Bool} {names : List Text}

/-- On a disk without links every path can be looked for whose names can be those of files. -/
theorem searchable_of_linkless (h : assets.disk.Linkless)
    (hroots : ∀ root ∈ assets.roots, ∀ name ∈ root, Disk.Fits name)
    (hnames : ∀ name ∈ names, Disk.Fits name) : assets.Searchable withIndex names := by
  intro before root after hsplit _
  have hroot : ∀ name ∈ root, Disk.Fits name := hroots root (by rw [hsplit]; simp)
  have hall : ∀ name ∈ root ++ names, Disk.Fits name := fun name hname =>
    (List.mem_append.mp hname).elim (hroot name) (hnames name)
  have hend : ∀ name ∈ assets.destination names root, Disk.Fits name := by
    intro name hname
    unfold destination at hname
    split at hname
    · exact hroot name hname
    · exact hall name (Disk.mem_of_walk h _ [] _ _ (Disk.mem_of_tidy hname))
  have hindex : ∀ name ∈ assets.destination names root ++ [indexFile], Disk.Fits name := by
    intro name hname
    rcases List.mem_append.mp hname with hname | hname
    · exact hend name hname
    · rw [List.mem_singleton.mp hname]
      exact ⟨by decide, by decide⟩
  exact ⟨fun _ name hname => (hall name hname).1, fun _ => (Disk.look_comes h hend).1,
    fun _ => (Disk.look_comes h hend).2, fun _ _ _ => (Disk.look_comes h hindex).2⟩

end Assets

end VeiledGateway
