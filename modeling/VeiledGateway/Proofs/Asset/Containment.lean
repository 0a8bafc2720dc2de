/-
  Containment: where the files lie that paths and references of a site lead to.

  A file is contained if its real place, all links followed, lies in the real place of some root.
  What `findUnder` finds lies under the root as it is written, so it is contained unless a link on
  the way to it has been left unfollowed.  There are two ways for that to happen: the index of a
  folder is put after the folder without being looked at, and a link that leads back to itself ends
  the walk early.
-/
import VeiledGateway.Proofs.Asset.Finding
import VeiledGateway.Proofs.Asset.Following

set_option autoImplicit false

namespace VeiledGateway

/-- Names go round in a circle of links, so that they never come to an end. -/
def Disk.Circles (disk : Disk) (names : List Text) : Prop :=
  ¬ ∃ n found, disk.Follows n [] names found

namespace Assets

variable {assets : Assets}

/-- The real place of what is at a place lies in the real place of a root. -/
def Contains (assets : Assets) (place : Place) : Prop :=
  ∃ root ∈ assets.roots, ∃ realRoot real, assets.disk.Leads [] root realRoot ∧
    assets.disk.Leads [] place real ∧ realRoot <+: real

/-- A place leads somewhere, but out of all roots. -/
def LeadsOut (assets : Assets) (place : Place) : Prop :=
  ∃ real, assets.disk.Leads [] place real ∧
    ∀ root ∈ assets.roots, ∀ realRoot, assets.disk.Leads [] root realRoot → ¬ realRoot <+: real

/-- A place is that of the index of a folder, and a link is there. -/
def IsLinkedIndex (assets : Assets) (place : Place) : Prop :=
  ∃ folder real, place = folder ++ [indexFile] ∧ assets.disk.Leads [] folder real ∧
    assets.disk.IsLinkAt (real ++ [indexFile])

/-- What leads out is not contained: a place has one real place only. -/
theorem LeadsOut.not_contains {place : Place} (h : assets.LeadsOut place) :
    ¬ assets.Contains place := by
  obtain ⟨real, hreal, hout⟩ := h
  rintro ⟨root, hroot, realRoot, other, hrealRoot, hother, hle⟩
  obtain rfl := hreal.unique hother
  exact hout root hroot realRoot hrealRoot hle

/-- What leads somewhere leads out unless it is contained. -/
theorem leadsOut_of_not_contains {place real : Place} (hreal : assets.disk.Leads [] place real)
    (h : ¬ assets.Contains place) : assets.LeadsOut place :=
  ⟨real, hreal, fun root hroot realRoot hrealRoot hle =>
    h ⟨root, hroot, realRoot, real, hrealRoot, hreal, hle⟩⟩

/-- Where a place leads that is a root, or a settled place under one: into the root. -/
theorem real_root_le {root place real : Place} (hle : root <+: place)
    (hplace : place = root ∨ assets.disk.Settled place)
    (hreal : assets.disk.Leads [] place real) :
    ∃ realRoot, assets.disk.Leads [] root realRoot ∧ realRoot <+: real := by
  rcases hplace with rfl | hsettled
  · exact ⟨real, hreal, List.prefix_rfl⟩
  · obtain ⟨rest, rfl⟩ := hle
    obtain ⟨realRoot, hrealRoot, -⟩ := hreal.split
    refine ⟨realRoot, hrealRoot, ?_⟩
    rw [(hsettled.of_prefix (List.prefix_append root rest)).eq_of_leads hrealRoot,
      hsettled.eq_of_leads hreal]
    exact List.prefix_append root rest

/-! ## What is found under a root -/

/-- Names that come to an end lead to a settled place, unless there are none. -/
theorem placeUnder_settled {names : List Text} {root base : Place}
    (h : assets.placeUnder names root = .ok base) (hends : ¬ assets.disk.Circles (root ++ names)) :
    base = root ∨ assets.disk.Settled base := by
  unfold placeUnder at h
  split at h
  · exact .inl (Except.ok.inj h).symm
  · obtain ⟨n, found, hfollows⟩ := Classical.not_not.mp hends
    obtain rfl := Disk.resolve_of_follows hfollows h
    exact .inr (hfollows.settled Disk.settled_nil)

/-- What is found lies in a root unless it leads out, and then its index is a link or the names go
round in a circle. -/
theorem findUnder_contains_iff {withIndex : Bool} {names : List Text} {root place : Place}
    (hroot : root ∈ assets.roots) (h : assets.findUnder withIndex names root = .ok (some place)) :
    assets.Contains place ↔
      ¬ (assets.LeadsOut place ∧
        (withIndex = true ∧ assets.IsLinkedIndex place ∨ assets.disk.Circles (root ++ names))) := by
  constructor
  · exact fun hcontains hstray => hstray.1.not_contains hcontains
  · intro hstray
    obtain ⟨base, hbase, hle, hfile, hplace⟩ := findUnder_eq_some h
    obtain ⟨real, bytes, hreal, -⟩ := Disk.leads_of_isFile hfile
    apply Classical.byContradiction
    intro hout
    have hleadsOut : assets.LeadsOut place := leadsOut_of_not_contains hreal hout
    have hends : ¬ assets.disk.Circles (root ++ names) := fun hc => hstray ⟨hleadsOut, .inr hc⟩
    have hsettled : base = root ∨ assets.disk.Settled base := placeUnder_settled hbase hends
    rcases hplace with rfl | ⟨hindex, -, rfl⟩
    · obtain ⟨realRoot, hrealRoot, hin⟩ := real_root_le hle hsettled hreal
      exact hout ⟨root, hroot, realRoot, real, hrealRoot, hreal, hin⟩
    · -- The index is no link, so its real place is in that of the folder.
      obtain ⟨folder, hfolder, hlast⟩ := hreal.split
      have hlink : ¬ assets.disk.IsLinkAt (folder ++ [indexFile]) := fun hlink =>
        hstray ⟨hleadsOut, .inl ⟨hindex, base, folder, rfl, hfolder, hlink⟩⟩
      obtain rfl := hlast.eq_of_into (by decide) hlink
      obtain ⟨realRoot, hrealRoot, hin⟩ := real_root_le hle hsettled hfolder
      exact hout ⟨root, hroot, realRoot, _, hrealRoot, hreal, hin.trans (List.prefix_append _ _)⟩

/-! ## What paths and references lead to -/

/-- A site with a page, an index that is a link out of the site, and a link that leads back to
itself, of which another link out of the site is left. -/
def strayingSite : Assets where
  disk :=
    { entries := [
        ([("site" : Text)], .directory),
        ([("site" : Text), indexFile], .link "../secret.html"),
        ([("site" : Text), "page.html"], .file []),
        ([("site" : Text), "round.txt"], .link "round.txt/../out.txt"),
        ([("site" : Text), "out.txt"], .link "../secret.html"),
        ([("secret.html" : Text)], .file [])]
      home := [] }
  roots := [[("site" : Text)]]

/-- What leads to the secret is outside of the site. -/
theorem strayingSite_leadsOut {place : Place}
    (h : strayingSite.disk.Leads [] place [("secret.html" : Text)]) :
    strayingSite.LeadsOut place := by
  refine ⟨[("secret.html" : Text)], h, ?_⟩
  intro root hroot realRoot hrealRoot
  obtain rfl : root = [("site" : Text)] := by simpa [strayingSite] using hroot
  have hsite : strayingSite.disk.Leads [] [("site" : Text)] [("site" : Text)] :=
    .step rfl (.here _)
  rw [hrealRoot.unique hsite]
  decide

end Assets

end VeiledGateway
