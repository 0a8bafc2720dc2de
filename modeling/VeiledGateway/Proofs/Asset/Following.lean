/-
  Following links: where the names of a path lead.

  `advance` takes one name of a path: it goes up, down, or through a link.  `Follows` goes on like
  that until no name is left, and takes what is not there for a directory.  `Leads` is the way of
  one who opens the path: every place that is gone through must be a directory.

  The two properties.  `walk` finds the end of every way that has one, within the steps that
  `resolve` grants it (`walk_of_follows`); and what `look` finds lies at the end of a way
  (`leads_of_look`).  Ways are unique, so each path has one real place at most.
-/
import VeiledGateway.Asset.Disk

set_option autoImplicit false

namespace VeiledGateway.Disk

variable {disk : Disk}

/-! ## One name -/

/-- A link is at a place. -/
def IsLinkAt (disk : Disk) (place : Place) : Prop :=
  ∃ target, disk.entry? place = some (.link target)

/-- From where the target of a link is followed that is met at a place. -/
def linkStart (place : Place) (target : Text) : Place :=
  if isAbsolute target then [] else place

/-- One name of a path is taken: the place after it, and the names that are left. -/
def advance (disk : Disk) (place : Place) (name : Text) (rest : List Text) : Place × List Text :=
  if Text.eqString name ".." then (place.dropLast, rest)
  else
    match disk.entry? (place ++ [name]) with
    | some (.link target) => (linkStart place target, pathNames target ++ rest)
    | _ => (place ++ [name], rest)

theorem advance_up {place : Place} {name : Text} {rest : List Text}
    (h : Text.eqString name ".." = true) : disk.advance place name rest = (place.dropLast, rest) := by
  simp [advance, h]

theorem advance_link {place : Place} {name : Text} {rest : List Text} {target : Text}
    (h : Text.eqString name ".." = false)
    (hlink : disk.entry? (place ++ [name]) = some (.link target)) :
    disk.advance place name rest = (linkStart place target, pathNames target ++ rest) := by
  simp [advance, h, hlink]

theorem advance_into {place : Place} {name : Text} {rest : List Text}
    (h : Text.eqString name ".." = false) (hlink : ¬ disk.IsLinkAt (place ++ [name])) :
    disk.advance place name rest = (place ++ [name], rest) := by
  simp only [advance, h]
  split
  · contradiction
  · split
    · rename_i target heq
      exact absurd ⟨target, heq⟩ hlink
    · rfl

/-- What is left after a name does not depend on what follows the names. -/
theorem advance_append (place : Place) (name : Text) (rest more : List Text) :
    disk.advance place name (rest ++ more) =
      ((disk.advance place name rest).1, (disk.advance place name rest).2 ++ more) := by
  by_cases hup : Text.eqString name ".." = true
  · simp only [advance_up hup]
  · have hup : Text.eqString name ".." = false := by simpa using hup
    by_cases hlink : disk.IsLinkAt (place ++ [name])
    · obtain ⟨target, htarget⟩ := hlink
      simp only [advance_link hup htarget, List.append_assoc]
    · simp only [advance_into hup hlink]

/-! ## All names -/

/-- Names lead from a place to another in so many steps, when links are followed and what is not
there counts as a directory. -/
inductive Follows (disk : Disk) : Nat → Place → List Text → Place → Prop where
  | done (place : Place) : Follows disk 0 place [] place
  | step {n : Nat} {place found : Place} {name : Text} {rest : List Text}
      (h : Follows disk n (disk.advance place name rest).1 (disk.advance place name rest).2 found) :
      Follows disk (n + 1) place (name :: rest) found

/-- Names lead from a place to another, all that is gone through being directories. -/
inductive Leads (disk : Disk) : Place → List Text → Place → Prop where
  | here (place : Place) : Leads disk place [] place
  | step {place found : Place} {name : Text} {rest : List Text}
      (hfolder : disk.entry? place = some .directory)
      (h : Leads disk (disk.advance place name rest).1 (disk.advance place name rest).2 found) :
      Leads disk place (name :: rest) found

/-- A way that can be gone is one that can be followed. -/
theorem Leads.follows {place found : Place} {names : List Text}
    (h : disk.Leads place names found) : ∃ n, disk.Follows n place names found := by
  induction h with
  | here place => exact ⟨0, .done place⟩
  | step _ _ ih =>
    obtain ⟨n, hn⟩ := ih
    exact ⟨n + 1, .step hn⟩

/-- Names lead to one place only, always in the same number of steps. -/
theorem Follows.unique {n m : Nat} {place found other : Place} {names : List Text}
    (h₁ : disk.Follows n place names found) (h₂ : disk.Follows m place names other) :
    n = m ∧ found = other := by
  induction h₁ generalizing m with
  | done place => cases h₂; exact ⟨rfl, rfl⟩
  | step _ ih =>
    cases h₂ with
    | step h₂ =>
      obtain ⟨hn, hfound⟩ := ih h₂
      exact ⟨by rw [hn], hfound⟩

theorem Leads.unique {place found other : Place} {names : List Text}
    (h₁ : disk.Leads place names found) (h₂ : disk.Leads place names other) : found = other := by
  obtain ⟨n, hn⟩ := h₁.follows
  obtain ⟨m, hm⟩ := h₂.follows
  exact (hn.unique hm).2

/-- A way along two lists of names passes the end of the way along the first. -/
theorem Follows.split {n : Nat} {place found : Place} {more : List Text} :
    ∀ {names : List Text}, disk.Follows n place (names ++ more) found →
      ∃ k l mid, n = k + l ∧ disk.Follows k place names mid ∧ disk.Follows l mid more found := by
  induction n generalizing place with
  | zero =>
    intro names h
    cases names with
    | nil => exact ⟨0, 0, place, rfl, .done place, h⟩
    | cons name rest => cases h
  | succ n ih =>
    intro names h
    cases names with
    | nil => exact ⟨0, n + 1, place, by omega, .done place, h⟩
    | cons name rest =>
      rw [List.cons_append] at h
      cases h with
      | step h =>
        rw [advance_append] at h
        obtain ⟨k, l, mid, hn, hfirst, hrest⟩ := ih h
        exact ⟨k + 1, l, mid, by omega, .step hfirst, hrest⟩

theorem Leads.split {place found : Place} {names more : List Text}
    (h : disk.Leads place (names ++ more) found) :
    ∃ mid, disk.Leads place names mid ∧ disk.Leads mid more found := by
  generalize hall : names ++ more = all at h
  induction h generalizing names with
  | here place =>
    obtain ⟨rfl, rfl⟩ := List.append_eq_nil_iff.mp hall
    exact ⟨place, .here place, .here place⟩
  | @step place found name rest hfolder h ih =>
    cases names with
    | nil =>
      simp only [List.nil_append] at hall
      subst hall
      exact ⟨place, .here place, .step hfolder h⟩
    | cons first others =>
      simp only [List.cons_append, List.cons.injEq] at hall
      obtain ⟨rfl, rfl⟩ := hall
      rw [advance_append] at ih
      obtain ⟨mid, hfirst, hrest⟩ := ih rfl
      exact ⟨mid, .step hfolder hfirst, hrest⟩

/-! ## Settled places -/

/-- No link is on the way to a place, and none of its names goes up: the place is its own end. -/
structure Settled (disk : Disk) (place : Place) : Prop where
  noLink : ∀ above, above <+: place → above ≠ [] → ¬ disk.IsLinkAt above
  noUp : ∀ name ∈ place, Text.eqString name ".." = false

theorem settled_nil : disk.Settled [] where
  noLink above h hne := absurd (List.prefix_nil.mp h) hne
  noUp name h := by simp at h

theorem Settled.of_prefix {place above : Place} (h : disk.Settled place) (hle : above <+: place) :
    disk.Settled above where
  noLink further hfurther := h.noLink further (hfurther.trans hle)
  noUp name hname := h.noUp name (hle.subset hname)

theorem Settled.into {place : Place} {name : Text} (h : disk.Settled place)
    (hup : Text.eqString name ".." = false) (hlink : ¬ disk.IsLinkAt (place ++ [name])) :
    disk.Settled (place ++ [name]) where
  noLink above habove hne := by
    rcases List.prefix_concat_iff.mp habove with rfl | habove
    · exact hlink
    · exact h.noLink above habove hne
  noUp other hother := by
    rcases List.mem_append.mp hother with hother | hother
    · exact h.noUp other hother
    · rw [List.mem_singleton.mp hother]; exact hup

theorem Settled.advance {place : Place} {name : Text} {rest : List Text} (h : disk.Settled place) :
    disk.Settled (disk.advance place name rest).1 := by
  by_cases hup : Text.eqString name ".." = true
  · rw [advance_up hup]
    exact h.of_prefix (List.dropLast_prefix place)
  · have hup : Text.eqString name ".." = false := by simpa using hup
    by_cases hlink : disk.IsLinkAt (place ++ [name])
    · obtain ⟨target, htarget⟩ := hlink
      rw [advance_link hup htarget]
      simp only [linkStart]
      split
      · exact settled_nil
      · exact h
    · rw [advance_into hup hlink]
      exact h.into hup hlink

/-- A way from a settled place ends at one. -/
theorem Follows.settled {n : Nat} {place found : Place} {names : List Text}
    (h : disk.Follows n place names found) (hplace : disk.Settled place) :
    disk.Settled found := by
  induction h with
  | done place => exact hplace
  | step _ ih => exact ih hplace.advance

/-- The names below a place lead to what they name, if that is settled. -/
theorem Settled.follows {names : List Text} :
    ∀ {place : Place}, disk.Settled (place ++ names) →
      ∃ n, disk.Follows n place names (place ++ names) := by
  induction names with
  | nil =>
    intro place _
    exact ⟨0, by simpa using Follows.done place⟩
  | cons name rest ih =>
    intro place h
    have hnext : place ++ name :: rest = (place ++ [name]) ++ rest := by simp
    have hlink : ¬ disk.IsLinkAt (place ++ [name]) :=
      h.noLink _ (by rw [hnext]; exact List.prefix_append _ _) (by simp)
    have hup : Text.eqString name ".." = false := h.noUp name (by simp)
    rw [hnext] at h ⊢
    obtain ⟨n, hn⟩ := ih h
    exact ⟨n + 1, .step (by rw [advance_into hup hlink]; exact hn)⟩

/-- Where a settled place leads, that is the place itself. -/
theorem Settled.eq_of_leads {place found : Place} (h : disk.Settled place)
    (hleads : disk.Leads [] place found) : found = place := by
  obtain ⟨n, hn⟩ := hleads.follows
  have hnil : disk.Settled ([] ++ place) := h
  obtain ⟨m, hm⟩ := hnil.follows
  exact (hn.unique hm).2

/-- A name that goes into a folder leads to what it names there. -/
theorem Leads.eq_of_into {place found : Place} {name : Text}
    (hup : Text.eqString name ".." = false) (hlink : ¬ disk.IsLinkAt (place ++ [name]))
    (h : disk.Leads place [name] found) : found = place ++ [name] := by
  cases h with
  | step _ h =>
    rw [advance_into hup hlink] at h
    exact h.unique (.here _)

/-- Tidying leaves a place alone of which no name goes up. -/
theorem Settled.tidy_eq {place : Place} (h : disk.Settled place) : tidy place = place := by
  have hfold : ∀ (names above : List Text),
      (∀ name ∈ names, Text.eqString name ".." = false) →
      names.foldl (fun above name =>
        if Text.eqString name ".." then above.drop 1 else name :: above) above
        = names.reverse ++ above := by
    intro names
    induction names with
    | nil => intro above _; rfl
    | cons name rest ih =>
      intro above hall
      rw [List.foldl_cons, hall name (by simp), if_neg (by simp),
        ih _ (fun other hother => hall other (by simp [hother]))]
      simp
  rw [tidy, hfold place [] h.noUp]
  simp

/-! ## Walking

`walk` notes the links that it has met, so that each is followed once; a link that is met while it
is being followed itself ends the walk.  A way that has an end never does that: to go through a
link again before its end is found would take as many steps again, and so on. -/

/-- How many names there are in the links that have not been met, one more counted for each. -/
def weightOf (entries : List (Place × Entry)) (seen : Seen) : Nat :=
  match entries with
  | [] => 0
  | (place, .link target) :: rest =>
    (if (seen.lookup place).isNone then (pathNames target).length + 1 else 0) + weightOf rest seen
  | _ :: rest => weightOf rest seen

def weight (disk : Disk) (seen : Seen) : Nat :=
  weightOf disk.entries seen

/-- A number, with the names in an entry added if it is a link. -/
def addNames (n : Nat) (e : Place × Entry) : Nat :=
  match e.2 with
  | .link target => n + (pathNames target).length + 1
  | _ => n

theorem foldl_addNames (entries : List (Place × Entry)) (n : Nat) :
    entries.foldl addNames n = n + weightOf entries [] := by
  induction entries generalizing n with
  | nil => rfl
  | cons e rest ih =>
    obtain ⟨place, entry⟩ := e
    rw [List.foldl_cons, ih]
    cases entry with
    | file _ => rfl
    | directory => rfl
    | link target =>
      simp only [addNames, weightOf, List.lookup_nil, Option.isNone_none, if_true]
      omega

theorem linkNames_eq_weight (disk : Disk) : disk.linkNames = disk.weight [] :=
  (foldl_addNames disk.entries 0).trans (Nat.zero_add _)

/-- The more links have been met, the less weight is left. -/
theorem weightOf_le {seen later : Seen}
    (h : ∀ place, (seen.lookup place).isSome → (later.lookup place).isSome)
    (entries : List (Place × Entry)) : weightOf entries later ≤ weightOf entries seen := by
  induction entries with
  | nil => exact Nat.le_refl _
  | cons e rest ih =>
    obtain ⟨place, entry⟩ := e
    cases entry with
    | file _ => exact ih
    | directory => exact ih
    | link target =>
      simp only [weightOf]
      have hplace := h place
      cases hseen : seen.lookup place with
      | some _ =>
        obtain ⟨_, hlater⟩ := Option.isSome_iff_exists.mp (hplace (by simp [hseen]))
        simp only [hlater, Option.isNone_some]
        simpa using ih
      | none =>
        simp only [Option.isNone_none, if_true]
        split <;> omega

/-- A link that is met for the first time takes its names off the weight. -/
theorem weightOf_meet {seen : Seen} {place : Place} {target : Text} (found : Option Place)
    (hnew : seen.lookup place = none) {entries : List (Place × Entry)}
    (hlink : entries.lookup place = some (.link target)) :
    weightOf entries ((place, found) :: seen) + (pathNames target).length + 1
      ≤ weightOf entries seen := by
  have hmore : ∀ other, (seen.lookup other).isSome →
      (List.lookup other ((place, found) :: seen)).isSome := by
    intro other hother
    rw [List.lookup_cons]
    split
    · rfl
    · exact hother
  induction entries with
  | nil => simp at hlink
  | cons e rest ih =>
    obtain ⟨first, entry⟩ := e
    rw [List.lookup_cons] at hlink
    cases hfirst : place == first with
    | true =>
      rw [hfirst] at hlink
      obtain rfl := Option.some.inj hlink
      obtain rfl := eq_of_beq hfirst
      have hrest := weightOf_le hmore rest
      simp only [weightOf, hnew, List.lookup_cons_self, Option.isNone_some, Option.isNone_none,
        if_true]
      simp only [Bool.false_eq_true, if_false]
      omega
    | false =>
      rw [hfirst] at hlink
      have hrest := ih hlink
      cases entry with
      | file _ => exact hrest
      | directory => exact hrest
      | link other =>
        have hne : (first == place) = false := by
          rw [beq_eq_false_iff_ne] at hfirst ⊢
          exact hfirst.symm
        simp only [weightOf, List.lookup_cons, hne]
        omega

/-- What a walk has noted is right when `n` steps are left: a link that is done with led where it is
noted to lead, and one that is being followed takes no fewer steps than are left. -/
structure Noted (disk : Disk) (seen : Seen) (n : Nat) : Prop where
  closed : ∀ link found, seen.lookup link = some (some found) →
    ∃ target k, disk.entry? link = some (.link target) ∧
      disk.Follows k (linkStart link.dropLast target) (pathNames target) found
  opened : ∀ link target k found, seen.lookup link = some none →
    disk.entry? link = some (.link target) →
    disk.Follows k (linkStart link.dropLast target) (pathNames target) found → n ≤ k

/-- What a walk adds to its notes: no link is met that is left undone. -/
structure Grown (disk : Disk) (seen later : Seen) : Prop where
  closed : ∀ link found, later.lookup link = some (some found) →
    ∃ target k, disk.entry? link = some (.link target) ∧
      disk.Follows k (linkStart link.dropLast target) (pathNames target) found
  opened : ∀ link, later.lookup link = some none → seen.lookup link = some none
  kept : ∀ link, (seen.lookup link).isSome → (later.lookup link).isSome

theorem Noted.mono {seen : Seen} {n m : Nat} (h : disk.Noted seen n) (hle : m ≤ n) :
    disk.Noted seen m where
  closed := h.closed
  opened link target k found hseen hlink hfollows :=
    Nat.le_trans hle (h.opened link target k found hseen hlink hfollows)

theorem Noted.grown {seen : Seen} {n : Nat} (h : disk.Noted seen n) : disk.Grown seen seen :=
  ⟨h.closed, fun _ h => h, fun _ h => h⟩

/-- Notes on which a link is set down that is about to be followed. -/
theorem Noted.begin {seen : Seen} {n k : Nat} {place found : Place} {name target : Text}
    (h : disk.Noted seen n) (hk : k ≤ n)
    (hlink : disk.entry? (place ++ [name]) = some (.link target))
    (hfollows : disk.Follows k (linkStart place target) (pathNames target) found) :
    disk.Noted ((place ++ [name], none) :: seen) k where
  closed link other hseen := by
    rw [List.lookup_cons] at hseen
    split at hseen
    · simp at hseen
    · exact h.closed link other hseen
  opened link target' k' found' hseen hlink' hfollows' := by
    rw [List.lookup_cons] at hseen
    split at hseen
    · rename_i heq
      obtain rfl := eq_of_beq heq
      rw [hlink] at hlink'
      obtain rfl := Entry.link.inj (Option.some.inj hlink')
      rw [List.dropLast_concat] at hfollows'
      exact Nat.le_of_eq (hfollows.unique hfollows').1
    · exact Nat.le_trans hk (h.opened link target' k' found' hseen hlink' hfollows')

/-- Notes on which a link is done with. -/
theorem Noted.finish {seen later : Seen} {n l k : Nat} {place found : Place} {name target : Text}
    (h : disk.Noted seen n) (hl : l ≤ n)
    (hlater : disk.Grown ((place ++ [name], none) :: seen) later)
    (hlink : disk.entry? (place ++ [name]) = some (.link target))
    (hfollows : disk.Follows k (linkStart place target) (pathNames target) found) :
    disk.Noted ((place ++ [name], some found) :: later) l where
  closed link other hseen := by
    rw [List.lookup_cons] at hseen
    split at hseen
    · rename_i heq
      obtain rfl := eq_of_beq heq
      obtain rfl := Option.some.inj (Option.some.inj hseen)
      exact ⟨target, k, hlink, by rw [List.dropLast_concat]; exact hfollows⟩
    · exact hlater.closed link other hseen
  opened link target' k' found' hseen hlink' hfollows' := by
    rw [List.lookup_cons] at hseen
    split at hseen
    · simp at hseen
    · rename_i hne
      have hopen := hlater.opened link hseen
      rw [List.lookup_cons, hne] at hopen
      exact Nat.le_trans hl (h.opened link target' k' found' hopen hlink' hfollows')

/-- What comes of following a link and then the names after it. -/
theorem Grown.of_link {seen later last : Seen} {place : Place} {found : Place}
    (hlater : disk.Grown ((place, none) :: seen) later)
    (hlast : disk.Grown ((place, some found) :: later) last) : disk.Grown seen last where
  closed := hlast.closed
  opened link hseen := by
    have hopen := hlast.opened link hseen
    rw [List.lookup_cons] at hopen
    split at hopen
    · simp at hopen
    · rename_i hne
      have hopen := hlater.opened link hopen
      rwa [List.lookup_cons, hne] at hopen
  kept link hseen := by
    apply hlast.kept
    rw [List.lookup_cons]
    split
    · rfl
    · rename_i hne
      apply hlater.kept
      rw [List.lookup_cons, hne]
      exact hseen

theorem lookup_of_entry?_link {place : Place} {target : Text}
    (h : disk.entry? place = some (.link target)) :
    disk.entries.lookup place = some (.link target) := by
  unfold entry? at h
  split at h
  · rename_i entry hentry
    rw [hentry, h]
  · simp only at h
    split at h <;> simp at h

theorem walk_up {fuel : Nat} {place : Place} {name : Text} {rest : List Text} {seen : Seen}
    (h : Text.eqString name ".." = true) :
    disk.walk (fuel + 1) place (name :: rest) seen = disk.walk fuel place.dropLast rest seen := by
  simp [walk, h]

theorem walk_into {fuel : Nat} {place : Place} {name : Text} {rest : List Text} {seen : Seen}
    (h : Text.eqString name ".." = false) (hlink : ¬ disk.IsLinkAt (place ++ [name])) :
    disk.walk (fuel + 1) place (name :: rest) seen = disk.walk fuel (place ++ [name]) rest seen := by
  simp only [walk, h, Bool.false_eq_true, if_false]
  split
  · rename_i target heq
    exact absurd ⟨target, heq⟩ hlink
  · rfl

theorem walk_known {fuel : Nat} {place found : Place} {name target : Text} {rest : List Text}
    {seen : Seen} (h : Text.eqString name ".." = false)
    (hlink : disk.entry? (place ++ [name]) = some (.link target))
    (hseen : seen.lookup (place ++ [name]) = some (some found)) :
    disk.walk (fuel + 1) place (name :: rest) seen = disk.walk fuel found rest seen := by
  simp [walk, h, hlink, hseen]

theorem walk_link {fuel : Nat} {place found : Place} {name target : Text} {rest : List Text}
    {seen inner : Seen} (h : Text.eqString name ".." = false)
    (hlink : disk.entry? (place ++ [name]) = some (.link target))
    (hseen : seen.lookup (place ++ [name]) = none)
    (hinner : disk.walk fuel (linkStart place target) (pathNames target)
      ((place ++ [name], none) :: seen) = (found, true, inner)) :
    disk.walk (fuel + 1) place (name :: rest) seen =
      disk.walk fuel found rest ((place ++ [name], some found) :: inner) := by
  simp only [linkStart] at hinner
  simp [walk, h, hlink, hseen, hinner]

/-- A walk with enough fuel finds the end of every way that has one. -/
theorem walk_of_follows {fuel : Nat} :
    ∀ {n : Nat} {place found : Place} {names : List Text} {seen : Seen},
      disk.Follows n place names found → disk.Noted seen n →
      names.length + disk.weight seen < fuel →
      ∃ later, disk.walk fuel place names seen = (found, true, later) ∧ disk.Grown seen later := by
  induction fuel with
  | zero => intro n place found names seen _ _ hfuel; omega
  | succ fuel ih =>
    intro n place found names seen hfollows hnoted hfuel
    cases hfollows with
    | done => exact ⟨seen, by simp [walk], hnoted.grown⟩
    | @step m _ _ name rest hnext =>
      rw [List.length_cons] at hfuel
      cases hup : Text.eqString name ".." with
      | true =>
        simp only [advance_up hup] at hnext
        rw [walk_up hup]
        exact ih hnext (hnoted.mono (by omega)) (by omega)
      | false =>
        by_cases hlink : disk.IsLinkAt (place ++ [name])
        · obtain ⟨target, hlink⟩ := hlink
          simp only [advance_link hup hlink] at hnext
          obtain ⟨k, l, mid, hm, hfirst, hrest⟩ := hnext.split
          cases hseen : seen.lookup (place ++ [name]) with
          | some noted =>
            cases noted with
            | some known =>
              -- The link has been followed before, so its end is known.
              obtain ⟨target', k', hlink', hknown⟩ := hnoted.closed _ _ hseen
              rw [hlink] at hlink'
              obtain rfl := Entry.link.inj (Option.some.inj hlink')
              rw [List.dropLast_concat] at hknown
              obtain rfl := (hfirst.unique hknown).2
              rw [walk_known hup hlink hseen]
              exact ih hrest (hnoted.mono (by omega)) (by omega)
            | none =>
              -- The link is being followed: too few steps are left to do that.
              have hle := hnoted.opened _ target k mid hseen hlink
                (by rw [List.dropLast_concat]; exact hfirst)
              omega
          | none =>
            have hweight := weightOf_meet none hseen (lookup_of_entry?_link hlink)
            obtain ⟨inner, hinner, hgrownInner⟩ := ih hfirst
              (hnoted.begin (by omega) hlink hfirst) (by simp only [weight] at hfuel ⊢; omega)
            have hless : disk.weight ((place ++ [name], some mid) :: inner) ≤ disk.weight seen := by
              refine weightOf_le ?_ disk.entries
              intro link hold
              rw [List.lookup_cons]
              split
              · rfl
              · rename_i hne
                apply hgrownInner.kept
                rw [List.lookup_cons, hne]
                exact hold
            obtain ⟨later, hwalk, hgrown⟩ := ih hrest
              (hnoted.finish (by omega) hgrownInner hlink hfirst) (by omega)
            exact ⟨later, by rw [walk_link hup hlink hseen hinner, hwalk],
              hgrownInner.of_link hgrown⟩
        · simp only [advance_into hup hlink] at hnext
          rw [walk_into hup hlink]
          exact ih hnext (hnoted.mono (by omega)) (by omega)

/-- Names that have an end are resolved to that end. -/
theorem resolve_of_follows {n : Nat} {names : List Text} {place found : Place}
    (hfollows : disk.Follows n [] names found) (h : disk.resolve [] names = .ok place) :
    place = found := by
  have hempty : disk.Noted [] n := ⟨by simp, by simp⟩
  have hfuel : names.length + disk.weight [] < names.length + disk.linkNames + 1 := by
    rw [linkNames_eq_weight]; omega
  obtain ⟨later, hwalk, -⟩ := walk_of_follows hfollows hempty hfuel
  unfold resolve at h
  split at h
  · simp at h
  · rw [hwalk] at h
    simp only at h
    split at h
    · simp at h
    · rw [← Except.ok.inj h]
      exact (hfollows.settled settled_nil).tidy_eq

/-! ## Looking -/

/-- What is found behind names lies at the end of the way along them. -/
theorem leads_of_lookFrom {fuel : Nat} :
    ∀ {links : Nat} {place : Place} {names : List Text} {entry : Entry},
      disk.lookFrom fuel links place names = .found entry →
      ∃ found, disk.Leads place names found ∧ disk.entry? found = some entry := by
  induction fuel with
  | zero => intro links place names entry h; simp [lookFrom] at h
  | succ fuel ih =>
    intro links place names entry h
    cases names with
    | nil =>
      simp only [lookFrom] at h
      split at h
      · rename_i there hthere
        obtain rfl := Sight.found.inj h
        exact ⟨place, .here place, hthere⟩
      · simp at h
    | cons name rest =>
      simp only [lookFrom] at h
      split at h
      · rename_i hfolder
        -- Each way on is one step of `advance`.
        suffices hnext : ∃ links', disk.lookFrom fuel links' (disk.advance place name rest).1
            (disk.advance place name rest).2 = .found entry by
          obtain ⟨links', hnext⟩ := hnext
          obtain ⟨found, hleads, hfound⟩ := ih hnext
          exact ⟨found, .step hfolder hleads, hfound⟩
        split at h
        · rename_i hup
          rw [advance_up hup]
          exact ⟨links, h⟩
        · rename_i hup
          have hup : Text.eqString name ".." = false := by simpa using hup
          split at h
          · simp at h
          · split at h
            · rename_i target hlink
              rw [advance_link hup hlink]
              split at h
              · simp at h
              · rename_i left
                exact ⟨left, h⟩
            · rename_i hlink
              rw [advance_into hup (fun ⟨target, heq⟩ => hlink target heq)]
              exact ⟨links, h⟩
      · simp at h
      · simp at h

/-- The bytes that are read at a place are those of the file that it leads to. -/
theorem leads_of_read? {place : Place} {bytes : List UInt8}
    (h : disk.read? place = .ok (some bytes)) :
    ∃ found, disk.Leads [] place found ∧ disk.entry? found = some (.file bytes) := by
  unfold read? at h
  split at h
  · simp at h
  · rename_i bytes' hlook
    obtain rfl := Option.some.inj (Except.ok.inj h)
    exact leads_of_lookFrom hlook
  · simp at h

theorem leads_of_isFile {place : Place} (h : disk.isFile place = .ok true) :
    ∃ found bytes, disk.Leads [] place found ∧ disk.entry? found = some (.file bytes) := by
  unfold isFile at h
  cases hread : disk.read? place with
  | error fault => rw [hread] at h; cases h
  | ok content =>
    rw [hread] at h
    cases content with
    | none => cases h
    | some bytes =>
      obtain ⟨found, hfound⟩ := leads_of_read? hread
      exact ⟨found, bytes, hfound⟩

end VeiledGateway.Disk
