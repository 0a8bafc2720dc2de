/-
  Which names visiting comes to.

  Visiting leaves out the first argument of a call that loads a module, and nothing else in which a
  name refers to something or binds it, apart from the names of imports and exports, which are
  pinned.  `mem_visitedPlaces_iff` says so.
-/
import VeiledGateway.Proofs.Script.Visiting

set_option autoImplicit false

namespace VeiledGateway.Script

/-- The step leads to the first argument of a call that loads a module. -/
def Outer.loads (o : Outer) : Bool :=
  o.node.isKind "CallExpression" && loadsModule (calleeOf o.node)
    && o.step == (Text.ofString "arguments", 0)

/-- A place in what names a module that is to be loaded. -/
def Place.inModuleArgument (p : Place) : Bool :=
  p.outer.any Outer.loads

/-- The step leads to the name of the module of an import or an export. -/
def Outer.isSource (o : Outer) : Bool :=
  ["ImportDeclaration", "ExportNamedDeclaration", "ExportAllDeclaration"].contains o.node.kind
    && Text.eqString o.step.1 "source"

/-- The statement is a directive that is not empty. -/
def Outer.directs (o : Outer) : Bool :=
  o.node.isKind "ExpressionStatement" && (part? o.node "directive").isSome

/-- Why visiting does not go on to a child. -/
inductive LeftOut (p : Place) (c : Child) : Prop
  /-- It is no more than a name of a property or a label. -/
  | mere (isMere : Outer.isMere ⟨p.path, p.node, c.1⟩ = true)
      (leaf : c.2.kind ∈ ["Identifier", "Literal"])
  | literal (leaf : c.2.kind = "Literal")
      (unread : Outer.isSource ⟨p.path, p.node, c.1⟩ = true ∨
        Outer.directs ⟨p.path, p.node, c.1⟩ = true)
  | loads (loads : Outer.loads ⟨p.path, p.node, c.1⟩ = true)
  | specifier (kind : p.node.kind = "ImportDeclaration" ∨ p.node.kind = "ExportNamedDeclaration")
      (listed : c ∈ listed p.node "specifiers")

variable {p : Place} {c : Child}

/-- A child that stands in one of the fields that are taken. -/
theorem mem_visitedKids (h : Fits p.node) (hc : c ∈ children p.node) (htaken : c ∈ takenKids p) :
    c ∈ visitedKids p := by
  obtain ⟨slot, -, hkinds, -⟩ := h.mem_children_iff.mp hc
  exact List.mem_filter.mpr ⟨htaken, (Bool.and_eq_true_iff.mp hkinds).1⟩

/-- What is not calculated is the name of a property. -/
theorem computed_or_leftOut {field : String}
    (hmere : Outer.isMere ⟨p.path, p.node, (Text.ofString field, 0)⟩ = !(part? p.node "computed").isSome)
    (hwritten : (part? p.node "computed").isNone = true →
      (p.node.get? field).any (Tree.isOfKinds ["Identifier", "Literal"]) = true)
    (hc : c ∈ child p.node field) : c ∈ computedChild p.node field ∨ LeftOut p c := by
  obtain ⟨hstep, hvalue⟩ := mem_child.mp hc
  unfold computedChild
  cases hcomputed : part? p.node "computed" with
  | some value => exact .inl hc
  | none =>
    rw [hcomputed] at hmere hwritten
    have hkinds := hwritten rfl
    rw [hvalue] at hkinds
    refine .inr (.mere ?_ (kind_of_isOfKinds hkinds))
    rw [hstep, hmere]
    rfl

/-- A child in a slot. -/
def InSlot (t : Tree) (slot : String × Slot) (c : Child) : Prop :=
  c.2.isOfKinds slot.2.kinds = true ∧ c ∈ slotChildren t slot

section Slots

variable {t : Tree} {kind : String} {first second third : String × Slot} (h : Fits t)
  (hc : c ∈ children t) (hkind : t.kind = kind)
include h hc hkind

theorem exists_inSlot : ∃ slot ∈ slotsOf kind, InSlot t slot c := by
  obtain ⟨slot, hslot, hkinds, hstands⟩ := h.mem_children_iff.mp hc
  exact ⟨slot, hkind ▸ hslot, hkinds, hstands⟩

theorem inSlot_of_one (hslots : slotsOf kind = [first]) : InSlot t first c := by
  obtain ⟨slot, hslot, hin⟩ := exists_inSlot h hc hkind
  rw [hslots] at hslot
  exact List.mem_singleton.mp hslot ▸ hin

theorem inSlot_of_two (hslots : slotsOf kind = [first, second]) :
    InSlot t first c ∨ InSlot t second c := by
  obtain ⟨slot, hslot, hin⟩ := exists_inSlot h hc hkind
  simp only [hslots, List.mem_cons, List.not_mem_nil, or_false] at hslot
  obtain rfl | rfl := hslot
  · exact .inl hin
  · exact .inr hin

theorem inSlot_of_three (hslots : slotsOf kind = [first, second, third]) :
    InSlot t first c ∨ InSlot t second c ∨ InSlot t third c := by
  obtain ⟨slot, hslot, hin⟩ := exists_inSlot h hc hkind
  simp only [hslots, List.mem_cons, List.not_mem_nil, or_false] at hslot
  obtain rfl | rfl | rfl := hslot
  · exact .inl hin
  · exact .inr (.inl hin)
  · exact .inr (.inr hin)

end Slots

/-- What stands in the slot of a source is one. -/
theorem isSource_of_inSlot {slot : Slot}
    (hkind : p.node.kind ∈ ["ImportDeclaration", "ExportNamedDeclaration", "ExportAllDeclaration"])
    (hsource : InSlot p.node ("source", slot) c) : Outer.isSource ⟨p.path, p.node, c.1⟩ = true := by
  refine Bool.and_eq_true_iff.mpr ⟨List.contains_iff_mem.mpr hkind, ?_⟩
  rw [Text.eqString, step_of_mem_slotChildren hsource.2]
  exact beq_self_eq_true _

/-- Nodes in which nothing is visited hold only labels, names of what a script is, and imports. -/
theorem leftOut_of_untouched (h : Fits p.node) (hc : c ∈ children p.node)
    (hkind : p.node.kind ∈ untouchedKinds) : LeftOut p c := by
  simp only [untouchedKinds, List.mem_cons, List.not_mem_nil, or_false] at hkind
  obtain hkind | hkind | hkind | hkind | hkind := hkind
  · have hlabel := inSlot_of_one h hc hkind rfl
    exact .mere (by simp [Outer.isMere, hkind]) (by simp [kind_eq_of_isOfKinds hlabel.1])
  · have hlabel := inSlot_of_one h hc hkind rfl
    exact .mere (by simp [Outer.isMere, hkind]) (by simp [kind_eq_of_isOfKinds hlabel.1])
  · obtain hmeta | hproperty := inSlot_of_two h hc hkind rfl
    · exact .mere (by simp [Outer.isMere, hkind]) (by simp [kind_eq_of_isOfKinds hmeta.1])
    · exact .mere (by simp [Outer.isMere, hkind]) (by simp [kind_eq_of_isOfKinds hproperty.1])
  · obtain hspecifier | hsource := inSlot_of_two h hc hkind rfl
    · exact .specifier (.inl hkind) hspecifier.2
    · exact .literal (kind_eq_of_isOfKinds hsource.1)
        (.inl (isSource_of_inSlot (by simp [hkind]) hsource))
  · have hsource := inSlot_of_one h hc hkind rfl
    exact .literal (kind_eq_of_isOfKinds hsource.1)
      (.inl (isSource_of_inSlot (by simp [hkind]) hsource))

/-- Of the children of a node without a rule of its own, what is left out is so for a reason. -/
theorem visitedChildren_or_leftOut (h : Fits p.node) (hc : c ∈ children p.node) :
    c ∈ visitedChildren p.node ∨ p.node.kind = "FunctionDeclaration" ∨ LeftOut p c := by
  unfold visitedChildren
  split
  · rename_i hkind
    exact .inr (.inl hkind)
  · rename_i hkind
    obtain hobject | hproperty := inSlot_of_two h hc hkind rfl
    · exact .inl (List.mem_append_left _ hobject.2)
    · refine (computed_or_leftOut ?_ ?_ hproperty.2).imp (List.mem_append_right _) .inr
      · simp [Outer.isMere, hkind, Text.eqString]
      · exact fun hnone => by simpa [hkind] using h.written (by simp [hkind]) hnone
  · rename_i hkind
    obtain hkey | hvalue := inSlot_of_two h hc hkind rfl
    · refine (computed_or_leftOut ?_ ?_ hkey.2).imp (List.mem_append_left _) .inr
      · simp [Outer.isMere, hkind, Text.eqString]
      · exact fun hnone => by simpa [hkind] using h.written (by simp [hkind]) hnone
    · exact .inl (List.mem_append_right _ hvalue.2)
  · rename_i hkind
    obtain hlabel | hbody := inSlot_of_two h hc hkind rfl
    · refine .inr (.inr (.mere ?_ (by simp [kind_eq_of_isOfKinds hlabel.1])))
      simp [Outer.isMere, hkind, step_of_mem_slotChildren hlabel.2, Text.eqString]
    · exact .inl hbody.2
  · rename_i hkind
    obtain hdeclaration | hspecifier | hsource := inSlot_of_three h hc hkind rfl
    · exact .inl hdeclaration.2
    · exact .inr (.inr (.specifier (.inr hkind) hspecifier.2))
    · exact .inr (.inr (.literal (kind_eq_of_isOfKinds hsource.1)
        (.inl (isSource_of_inSlot (by simp [hkind]) hsource))))
  · rename_i hkind
    have hexpression := (inSlot_of_one h hc hkind rfl).2
    split
    · rename_i hdirective
      have hliteral := h.directive hkind hdirective
      rw [(mem_child.mp hexpression).2] at hliteral
      refine .inr (.inr (.literal (beq_iff_eq.mp hliteral) (.inr ?_)))
      exact Bool.and_eq_true_iff.mpr ⟨beq_iff_eq.mpr hkind, hdirective⟩
    · exact .inl hexpression
  · split
    · rename_i huntouched
      exact .inr (.inr (leftOut_of_untouched h hc (List.contains_iff_mem.mp huntouched)))
    · exact .inl hc

theorem getElem?_listed (t : Tree) (field : String) (i : Nat) :
    (listed t field)[i]? = (t.items field)[i]?.map fun item => ((Text.ofString field, i), item) := by
  simp [listed, List.getElem?_zipIdx, Option.map_map, Function.comp_def]

/-- A node of a list is the first one, or one of the others. -/
theorem first_or_rest {t : Tree} {field : String} (hc : c ∈ listed t field) :
    c.1.2 = 0 ∨ c ∈ (listed t field).drop 1 := by
  obtain ⟨i, hi⟩ := List.mem_iff_getElem?.mp hc
  cases i with
  | zero =>
    rw [getElem?_listed] at hi
    obtain ⟨item, -, rfl⟩ := Option.map_eq_some_iff.mp hi
    exact .inl rfl
  | succ i =>
    right
    refine List.mem_iff_getElem?.mpr ⟨i, ?_⟩
    rw [List.getElem?_drop, Nat.add_comm]
    exact hi

theorem step_ne_of_mem_rest {t : Tree} {field : String} (hc : c ∈ (listed t field).drop 1) :
    c.1 ≠ (Text.ofString field, 0) := by
  obtain ⟨i, hi⟩ := List.mem_iff_getElem?.mp hc
  rw [List.getElem?_drop, getElem?_listed] at hi
  obtain ⟨item, -, rfl⟩ := Option.map_eq_some_iff.mp hi
  intro heq
  have := congrArg Prod.snd heq
  simp at this

/-- Visiting goes on to a child, or there is a reason why not. -/
theorem visited_or_leftOut (h : Fits p.node) (hc : c ∈ children p.node) :
    c ∈ visitedKids p ∨ LeftOut p c := by
  suffices hsuffices : c ∈ takenKids p ∨ LeftOut p c from
    hsuffices.imp_left (mem_visitedKids h hc)
  unfold takenKids
  split
  · rename_i hkind
    left
    obtain hid | hparams | hbody := inSlot_of_three h hc hkind rfl
    · exact List.mem_append_left _ hid.2
    · simp only [visitedChildren, hkind]
      exact List.mem_append_right _ (List.mem_append_left _ hparams.2)
    · simp only [visitedChildren, hkind]
      exact List.mem_append_right _ (List.mem_append_right _ hbody.2)
  · rename_i hkind
    have hmere : Outer.isMere ⟨p.path, p.node, (Text.ofString "key", 0)⟩
        = !(part? p.node "computed").isSome := by
      simp [Outer.isMere, hkind, Text.eqString]
    have hwritten : (part? p.node "computed").isNone = true →
        (p.node.get? "key").any (Tree.isOfKinds ["Identifier", "Literal"]) = true := fun hnone => by
      simpa [hkind] using h.written (by simp [hkind]) hnone
    obtain hkey | hvalue := inSlot_of_two h hc hkind rfl
    · split
      · rename_i hshorthand
        have hnone := (h.shorthand hkind hshorthand).1
        refine (computed_or_leftOut hmere hwritten hkey.2).imp_left fun hcomputed => ?_
        rw [computedChild, if_neg (by simpa using hnone)] at hcomputed
        cases hcomputed
      · exact (computed_or_leftOut hmere hwritten hkey.2).imp_left (List.mem_append_left _)
    · left
      split
      · exact hvalue.2
      · exact List.mem_append_right _ hvalue.2
  · rename_i hkind
    obtain hcallee | harguments := inSlot_of_two h hc hkind rfl
    · exact .inl (List.mem_append_left _ hcallee.2)
    · by_cases hloads : loadsModule (calleeOf p.node) = true
      · obtain hfirst | hrest := first_or_rest harguments.2
        · have hstep : c.1 = (Text.ofString "arguments", 0) :=
            Prod.ext (step_of_mem_slotChildren harguments.2) hfirst
          exact .inr (.loads (by simp [Outer.loads, Tree.isKind, hkind, hloads, hstep]))
        · rw [if_pos hloads]
          exact .inl (List.mem_append_right _ hrest)
      · rw [if_neg hloads]
        exact .inl (List.mem_append_right _ harguments.2)
  · rename_i hkind
    split
    · obtain hleft | hright := inSlot_of_two h hc hkind rfl
      · exact .inl (List.mem_append_left _ hleft.2)
      · exact .inl (List.mem_append_right _ hright.2)
    · exact .inl hc
  · rename_i hfunction _ _ _
    exact (visitedChildren_or_leftOut h hc).imp_right fun hrest => hrest.resolve_left hfunction

/-! ## What visiting comes to -/

/-- A child that is taken only when it is calculated. -/
theorem not_mere_of_computed {field : String} (hc : c ∈ computedChild p.node field) :
    (part? p.node "computed").isSome = true := by
  unfold computedChild at hc
  split at hc
  · assumption
  · cases hc

theorem eqString_step_of_child {t : Tree} {field other : String} (hc : c ∈ child t field)
    (hne : (Text.ofString field == Text.ofString other) = false) :
    Text.eqString c.1.1 other = false := by
  rw [(mem_child.mp hc).1]
  exact hne

def specifierKinds : List String :=
  ["ImportSpecifier", "ImportDefaultSpecifier", "ImportNamespaceSpecifier", "ExportSpecifier"]

/-- Visiting goes on to no child that is no more than a name of something. -/
theorem isMere_of_visited (hc : c ∈ visitedKids p) (hspecifier : p.node.kind ∉ specifierKinds) :
    Outer.isMere ⟨p.path, p.node, c.1⟩ = false := by
  have htaken := (List.mem_filter.mp hc).1
  unfold Outer.isMere
  dsimp only
  split
  · rename_i hkind
    simp only [takenKids, visitedChildren, hkind] at htaken
    obtain hobject | hproperty := List.mem_append.mp htaken
    · rw [eqString_step_of_child hobject (by decide), Bool.false_and]
    · rw [not_mere_of_computed hproperty, Bool.not_true, Bool.and_false]
  · rename_i hkind
    simp only [takenKids, hkind] at htaken
    split at htaken
    · rw [eqString_step_of_child htaken (by decide), Bool.false_and]
    · obtain hkey | hvalue := List.mem_append.mp htaken
      · rw [not_mere_of_computed hkey, Bool.not_true, Bool.and_false]
      · rw [eqString_step_of_child hvalue (by decide), Bool.false_and]
  · rename_i hkind
    simp only [takenKids, visitedChildren, hkind] at htaken
    obtain hkey | hvalue := List.mem_append.mp htaken
    · rw [not_mere_of_computed hkey, Bool.not_true, Bool.and_false]
    · rw [eqString_step_of_child hvalue (by decide), Bool.false_and]
  · rename_i hkind
    simp only [takenKids, visitedChildren, hkind] at htaken
    exact eqString_step_of_child htaken (by decide)
  · rename_i hkind
    simp [takenKids, visitedChildren, hkind, untouchedKinds] at htaken
  · rename_i hkind
    simp [takenKids, visitedChildren, hkind, untouchedKinds] at htaken
  · rename_i hkind
    simp [takenKids, visitedChildren, hkind, untouchedKinds] at htaken
  · rename_i hkind
    simp [hkind, specifierKinds] at hspecifier
  · rename_i hkind
    simp [hkind, specifierKinds] at hspecifier
  · rfl

/-- Visiting goes on to no name of a module that is to be loaded. -/
theorem loads_of_visited (hc : c ∈ visitedKids p) :
    Outer.loads ⟨p.path, p.node, c.1⟩ = false := by
  have htaken := (List.mem_filter.mp hc).1
  refine Bool.eq_false_iff.mpr fun hloads => ?_
  obtain ⟨hcall, hstep⟩ := Bool.and_eq_true_iff.mp hloads
  obtain ⟨hkind, hloads⟩ := Bool.and_eq_true_iff.mp hcall
  simp only [takenKids, beq_iff_eq.mp hkind, hloads, if_true] at htaken
  have hfirst : c.1 = (Text.ofString "arguments", 0) := beq_iff_eq.mp hstep
  obtain hcallee | hrest := List.mem_append.mp htaken
  · rw [(mem_child.mp hcallee).1] at hfirst
    exact absurd hfirst (by decide)
  · exact step_ne_of_mem_rest hrest hfirst

/-- The nodes that specify imports and exports stand in lists of their own. -/
theorem slot_of_specifier {kind specifier : String} {slot : String × Slot}
    (h : slot ∈ slotsOf kind) (hmem : specifier ∈ slot.2.kinds)
    (hspecifier : specifier ∈ specifierKinds) :
    kind ∈ ["ImportDeclaration", "ExportNamedDeclaration"] ∧ slot.1 = "specifiers" := by
  have htable : ∀ entry ∈ syntaxTable, ∀ slot ∈ entry.2,
      ∀ specifier ∈ specifierKinds, specifier ∈ slot.2.kinds →
        entry.1 ∈ ["ImportDeclaration", "ExportNamedDeclaration"] ∧ slot.1 = "specifiers" := by
    decide
  obtain ⟨slots, hentry, hslot⟩ := exists_entry_of_slot h
  exact htable (kind, slots) hentry slot hslot specifier hspecifier hmem

/-- Visiting goes on to no specifier of an import or an export. -/
theorem kind_of_visited (h : Fits p.node) (hc : c ∈ visitedKids p) :
    c.2.kind ∉ specifierKinds := by
  intro hspecifier
  obtain ⟨slot, hslot, hkinds, hstands⟩ :=
    h.mem_children_iff.mp (mem_children_of_visitedKids h hc)
  obtain ⟨hkind, hfield⟩ := slot_of_specifier hslot (kind_of_isOfKinds hkinds) hspecifier
  have htaken := (List.mem_filter.mp hc).1
  simp only [List.mem_cons, List.not_mem_nil, or_false] at hkind
  obtain hkind | hkind := hkind
  · simp [takenKids, visitedChildren, hkind, untouchedKinds] at htaken
  · simp only [takenKids, visitedChildren, hkind] at htaken
    have hstep := step_of_mem_slotChildren hstands
    rw [(mem_child.mp htaken).1, hfield] at hstep
    exact absurd hstep (by decide)

/-! ## Names of imports and exports -/

/-- The name of this script that a specifier names. -/
def NamesLocally (spec : Tree) (name : Text) : Prop :=
  ∃ target, spec.get? "local" = some target ∧ Fits target ∧ Tree.kind target = "Identifier" ∧
    nameOf target = .ok name

theorem mem_pinnedBy_of_import {t spec : Tree} {name : Text} (h : WellFormed t)
    (hkind : t.kind = "ImportDeclaration") (hspec : spec ∈ t.items "specifiers")
    (hname : NamesLocally spec name) : name ∈ pinnedBy t := by
  obtain ⟨target, hvalue, -, -, hname⟩ := hname
  obtain ⟨names, hnames⟩ := Outcome.exists_mapM_eq_ok (exists_localNames h hkind)
  have hpinned : pinnedInside t = names := by
    simp only [pinnedInside, importedNames, hkind, hnames, namesOrNone_ok]
  rw [pinnedBy, hpinned]
  refine List.mem_append_left _ (Outcome.mem_of_mapM_eq_ok hnames hspec ?_)
  rw [localName, hvalue]
  exact hname

theorem mem_pinnedBy_of_export {t spec : Tree} {name : Text} (h : WellFormed t)
    (hkind : t.kind = "ExportNamedDeclaration") (hspec : spec ∈ t.items "specifiers")
    (hname : NamesLocally spec name) : name ∈ pinnedBy t := by
  obtain ⟨target, hvalue, hfits, htarget, hname⟩ := hname
  obtain ⟨names, hnames⟩ := exists_specifierNames h hkind
  have hpinned : pinnedLast t = names := by
    rw [pinnedLast, if_pos (beq_iff_eq.mpr hkind), hnames, namesOrNone_ok]
  rw [pinnedBy, hpinned]
  refine List.mem_append_right _ ?_
  obtain ⟨lists, hlists, hflat⟩ := Outcome.bind_eq_ok.mp hnames
  obtain rfl := Outcome.pure_eq_ok.mp hflat
  refine List.mem_flatten.mpr ⟨[name], Outcome.mem_of_mapM_eq_ok hlists hspec ?_, by simp⟩
  have hpart : part? spec "local" = some target := by
    rw [part?, hvalue]
    simp [hfits.isTruthy]
  simp only [hpart, Tree.isKind, htarget, beq_self_eq_true, if_true, hname]
  rfl

variable {q : Place} {levels : Nat}

/-- Nothing stands inside a node of a kind without slots. -/
theorem eq_of_mem_of_no_slots (h : Fits p.node) (hslots : slotsOf p.node.kind = [])
    (hq : q ∈ placesFrom allKids levels p) : q = p := by
  cases levels with
  | zero => cases hq
  | succ levels =>
    obtain rfl | ⟨c, hc, -⟩ := mem_placesFrom_succ.mp hq
    · rfl
    · rw [allKids, h.children_eq_nil hslots] at hc
      cases hc

theorem slots_of_name_or_literal {kind : String} (h : kind ∈ ["Identifier", "Literal"]) :
    slotsOf kind = [] := by
  simp only [List.mem_cons, List.not_mem_nil, or_false] at h
  obtain rfl | rfl := h <;> rfl

theorem kind_of_specifier {t : Tree} (h : WellFormed t)
    (hkind : t.kind = "ImportDeclaration" ∨ t.kind = "ExportNamedDeclaration")
    (hc : c ∈ listed t "specifiers") : c.2.kind ∈ specifierKinds := by
  obtain hkind | hkind := hkind
  · have hkinds := kind_of_isOfKinds (h.fits.of_listed_many (slot_mem hkind rfl) hc).1
    have htable : ∀ kind ∈ ["ImportSpecifier", "ImportDefaultSpecifier",
        "ImportNamespaceSpecifier"], kind ∈ specifierKinds := by
      decide
    exact htable _ hkinds
  · have hkinds := kind_of_isOfKinds (h.fits.of_listed_many (slot_mem hkind rfl) hc).1
    rw [List.mem_singleton.mp hkinds]
    decide

/-- The slots of a specifier are for names: the local one, and that of another module. -/
theorem slot_of_specifierKinds {kind : String} (h : kind ∈ specifierKinds) {slot : String × Slot}
    (hslot : slot ∈ slotsOf kind) :
    slot.2 = .one ["Identifier"] ∧ (slot.1 = "local" ∨
      (kind = "ImportSpecifier" ∧ slot.1 = "imported") ∨
      (kind = "ExportSpecifier" ∧ slot.1 = "exported")) := by
  have htable : ∀ kind ∈ specifierKinds, ∀ slot ∈ slotsOf kind, slot.2 = .one ["Identifier"] ∧
      (slot.1 = "local" ∨ (kind = "ImportSpecifier" ∧ slot.1 = "imported") ∨
        (kind = "ExportSpecifier" ∧ slot.1 = "exported")) := by
    decide
  exact htable kind h slot hslot

theorem kind_of_specifier_child {spec : Tree} (h : Fits spec) (hkind : spec.kind ∈ specifierKinds)
    (hc : c ∈ children spec) : c.2.kind = "Identifier" := by
  obtain ⟨slot, hslot, hkinds, -⟩ := h.mem_children_iff.mp hc
  rw [(slot_of_specifierKinds hkind hslot).1] at hkinds
  exact kind_eq_of_isOfKinds hkinds

/-- The name of a specifier that is not mere is the local one. -/
theorem namesLocally_of_not_mere (path : Path) {spec : Tree} (h : WellFormed spec)
    (hkind : spec.kind ∈ specifierKinds) (hc : c ∈ children spec)
    (hmere : Outer.isMere ⟨path, spec, c.1⟩ = false) {name : Text}
    (htext : c.2.name? = some name) : NamesLocally spec name := by
  obtain ⟨slot, hslot, -, hstands⟩ := h.fits.mem_children_iff.mp hc
  obtain ⟨hone, hfield⟩ := slot_of_specifierKinds hkind hslot
  have hstep := step_of_mem_slotChildren hstands
  obtain hlocal | ⟨hspec, himported⟩ | ⟨hspec, hexported⟩ := hfield
  · rw [slotChildren, hone, hlocal] at hstands
    have hfits := (h.inside hc).fits
    have hname := kind_of_specifier_child h.fits hkind hc
    obtain ⟨other, -, hother, hok⟩ := hfits.exists_name hname
    rw [htext] at hother
    exact ⟨c.2, (mem_child.mp hstands).2, hfits, hname, Option.some.inj hother ▸ hok⟩
  · simp [Outer.isMere, hspec, hstep, himported, Text.eqString] at hmere
  · simp [Outer.isMere, hspec, hstep, hexported, Text.eqString] at hmere

/-- A name inside a specifier that is not that of another module is pinned. -/
theorem mem_pinnedBy_of_specifier (h : WellFormed p.node)
    (hkind : p.node.kind = "ImportDeclaration" ∨ p.node.kind = "ExportNamedDeclaration")
    (hc : c ∈ listed p.node "specifiers") (hq : q ∈ placesFrom allKids levels (p.inside c))
    (hname : q.isName = true) {name : Text} (htext : q.node.name? = some name) :
    name ∈ pinnedBy p.node := by
  have hspec := kind_of_specifier h hkind hc
  have hwell : WellFormed c.2 := by
    obtain hkind | hkind := hkind
    · exact h.inside (h.fits.of_listed_many (slot_mem hkind rfl) hc).2
    · exact h.inside (h.fits.of_listed_many (slot_mem hkind rfl) hc).2
  obtain ⟨hidentifier, hplace⟩ := Bool.and_eq_true_iff.mp (Bool.and_eq_true_iff.mp hname).1
  have hnames : NamesLocally c.2 name := by
    cases levels with
    | zero => cases hq
    | succ levels =>
      obtain rfl | ⟨d, hd, hq⟩ := mem_placesFrom_succ.mp hq
      · have hnot : "Identifier" ∉ specifierKinds := by decide
        exact absurd (beq_iff_eq.mp hidentifier ▸ hspec) hnot
      · have hname : d.2.kind = "Identifier" := kind_of_specifier_child hwell.fits hspec hd
        obtain rfl := eq_of_mem_of_no_slots (p := (p.inside c).inside d) (hwell.inside hd).fits
          (slots_of_name_or_literal (by simp [Place.inside, hname])) hq
        refine namesLocally_of_not_mere (c.1 :: p.path) hwell hspec hd ?_ htext
        simpa [Place.inside] using hplace
  have hitem : c.2 ∈ p.node.items "specifiers" := by
    obtain ⟨-, items, hvalue, hitem⟩ := mem_listed.mp hc
    exact List.mem_of_getElem? (getElem?_items.mpr ⟨items, hvalue, hitem⟩)
  obtain hkind | hkind := hkind
  · exact mem_pinnedBy_of_import h hkind hitem hnames
  · exact mem_pinnedBy_of_export h hkind hitem hnames

/-- Visiting comes to every name outside the names of modules that are to be loaded, unless it is
pinned. -/
theorem visited_or_pinned (h : WellFormed p.node) (hq : q ∈ placesFrom allKids levels p)
    (hname : q.isName = true) (houtside : q.inModuleArgument = false) {name : Text}
    (htext : q.node.name? = some name) :
    q ∈ placesFrom visitedKids levels p ∨
      ∃ r ∈ placesFrom visitedKids levels p, name ∈ pinnedBy r.node := by
  induction levels generalizing p with
  | zero => cases hq
  | succ levels ih =>
    obtain rfl | ⟨c, hc, hq⟩ := mem_placesFrom_succ.mp hq
    · exact .inl (mem_placesFrom_succ.mpr (.inl rfl))
    have hwell := h.inside hc
    have hleaf : c.2.kind ∈ ["Identifier", "Literal"] → q = p.inside c := fun hkind =>
      eq_of_mem_of_no_slots hwell.fits (slots_of_name_or_literal hkind) hq
    obtain hvisited | hleft := visited_or_leftOut h.fits hc
    · obtain hq | ⟨r, hr, hpinned⟩ := ih hwell hq
      · exact .inl (mem_placesFrom_succ.mpr (.inr ⟨c, hvisited, hq⟩))
      · exact .inr ⟨r, mem_placesFrom_succ.mpr (.inr ⟨c, hvisited, hr⟩), hpinned⟩
    · cases hleft with
      | mere hmere hkind =>
        rw [hleaf hkind] at hname
        simp [Place.isName, Place.inside, hmere] at hname
      | literal hkind _ =>
        rw [hleaf (by simp [hkind])] at hname
        simp [Place.isName, Place.inside, Tree.isKind, hkind] at hname
      | loads hloads =>
        have hinside := List.any_eq_true.mpr ⟨_, mem_outer_of_mem_inside hq, hloads⟩
        rw [Place.inModuleArgument, hinside] at houtside
        cases houtside
      | specifier hkind hlisted =>
        exact .inr ⟨p, mem_placesFrom_succ.mpr (.inl rfl),
          mem_pinnedBy_of_specifier h hkind hlisted hq hname htext⟩

/-- Where visiting comes is outside the names of modules that are to be loaded. -/
theorem inModuleArgument_of_visited (h : p.inModuleArgument = false)
    (hq : q ∈ placesFrom visitedKids levels p) : q.inModuleArgument = false := by
  induction levels generalizing p with
  | zero => cases hq
  | succ levels ih =>
    obtain rfl | ⟨c, hc, hq⟩ := mem_placesFrom_succ.mp hq
    · exact h
    · refine ih ?_ hq
      rw [Place.inModuleArgument, Place.inside, List.any_cons, loads_of_visited hc]
      exact h

/-- The names that visiting comes to refer to something or bind it. -/
theorem isName_of_visited (h : WellFormed p.node)
    (hp : p.node.kind = "Identifier" → p.isName = true)
    (hspecifier : p.node.kind ∉ specifierKinds)
    (hq : q ∈ placesFrom visitedKids levels p) (hkind : q.node.kind = "Identifier") :
    q.isName = true := by
  induction levels generalizing p with
  | zero => cases hq
  | succ levels ih =>
    obtain rfl | ⟨c, hc, hq⟩ := mem_placesFrom_succ.mp hq
    · exact hp hkind
    · have hchild := mem_children_of_visitedKids h.fits hc
      refine ih (h.inside hchild) (fun hname => ?_) (kind_of_visited h.fits hc) hq
      have hmere := isMere_of_visited hc hspecifier
      have hexport : ¬ p.node.kind = "ExportSpecifier" := fun hkind =>
        hspecifier (by simp [hkind, specifierKinds])
      have hname' : c.2.kind = "Identifier" := hname
      simp [Place.isName, Place.inside, Tree.isKind, hname', hmere, hexport]

/-! ## Whole scripts -/

variable {t : Tree} {isModule : Bool} {b : Bindings}

theorem mem_places_of_visited (h : WellFormed t) (hq : q ∈ visitedPlaces t) : q ∈ places t := by
  refine placesFrom_subset (fun r hr c hc => ?_) hq
  exact mem_children_of_visitedKids (wellFormed_of_mem visitedKids_subset h hr).fits hc

/-- What visiting comes to in a script. -/
theorem visited_of_mem_visitedPlaces (h : IsProgram t) (hq : q ∈ visitedPlaces t) :
    q ∈ places t ∧ WellFormed q.node ∧ q.inModuleArgument = false ∧
      (q.node.kind = "Identifier" → q.isName = true) := by
  have hroot : (Place.root t).node.kind = "Program" := h.kind
  refine ⟨mem_places_of_visited h.wellFormed hq,
    wellFormed_of_mem (p := .root t) visitedKids_subset h.wellFormed hq,
    inModuleArgument_of_visited (p := .root t) rfl hq,
    isName_of_visited (p := .root t) h.wellFormed ?_ ?_ hq⟩
  · rw [hroot]
    exact fun hkind => absurd hkind (by decide)
  · rw [hroot]
    decide

/-- Of the names of a script that are not pinned, visiting comes to all but those that name a module
that is to be loaded. -/
theorem mem_visitedPlaces_iff (h : IsProgram t) (hb : Describes isModule t b) (hq : q ∈ places t)
    (hname : q.isName = true) {name : Text} (htext : q.node.name? = some name)
    (hpinned : name ∉ b.pinned) : q ∈ visitedPlaces t ↔ q.inModuleArgument = false := by
  constructor
  · exact fun hvisited => (visited_of_mem_visitedPlaces h hvisited).2.2.1
  · intro houtside
    refine (visited_or_pinned (p := .root t) h.wellFormed hq hname houtside htext).resolve_right ?_
    rintro ⟨r, hr, hpin⟩
    exact hpinned ((hb.mem_pinned name).mpr
      ⟨r, mem_gatheredPlaces_of_visited h.wellFormed hr, hpin⟩)

end VeiledGateway.Script
