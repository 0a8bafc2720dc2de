/-
  Patterns that bind names, and the names that are gathered from them.

  `bindersFrom` lists the places where a pattern binds a name, by the steps that lead from patterns to
  patterns; default values and calculated keys are no such steps.  `patternNames_eq` says that gathering,
  which goes through a pattern in a way of its own, finds the names of these places, in order.
-/
import VeiledGateway.Proofs.Script.Strings

set_option autoImplicit false

namespace VeiledGateway.Script

/-! ## The parts of a pattern -/

/-- The step leads to what a pattern calculates: a default value or a key. -/
def Outer.isAside (o : Outer) : Bool :=
  match o.node.kind with
  | "AssignmentPattern" => Text.eqString o.step.1 "right"
  | "Property" => Text.eqString o.step.1 "key" && (part? o.node "computed").isSome
  | _ => false

/-- The parts of a pattern that are patterns themselves. -/
def patternKids (p : Place) : List Child :=
  (children p.node).filter fun c => Outer.isPattern ⟨p.path, p.node, c.1⟩

/-- The places at which the patterns from a place on bind a name, so many levels deep. -/
def bindersFrom (levels : Nat) (p : Place) : List Place :=
  (placesFrom patternKids levels p).filter (·.node.isKind "Identifier")

/-- The places at which a pattern binds a name. -/
def binders (t : Tree) : List Place :=
  bindersFrom t.depth (.root t)

/-- Patterns and properties lead from a place to all names that are bound there. -/
def BindsWithin (levels : Nat) (p : Place) : Prop :=
  ∀ q ∈ placesFrom patternKids levels p, q.node.kind ∈ "Property" :: patternKinds

/-- A pattern as declarations have it. -/
structure IsBindingPattern (t : Tree) : Prop where
  wellFormed : WellFormed t
  kind : t.kind ∈ patternKinds
  binds : BindsWithin t.depth (.root t)

/-- No name stands in what the patterns from a place on calculate. -/
def NamelessAside (levels : Nat) (p : Place) : Prop :=
  ∀ q ∈ placesFrom allKids levels p, q.outer.any Outer.isAside = true → q.node.kind ≠ "Identifier"

variable {t : Tree} {p q : Place} {c : Child} {levels fuel : Nat}

instance : Decidable (BindsWithin levels p) :=
  inferInstanceAs (Decidable (∀ q ∈ placesFrom patternKids levels p, _))

instance : Decidable (NamelessAside levels p) :=
  inferInstanceAs (Decidable (∀ q ∈ placesFrom allKids levels p, _))

theorem mem_children_of_patternKids (hc : c ∈ patternKids p) : c ∈ children p.node :=
  (List.mem_filter.mp hc).1

theorem BindsWithin.kind (h : BindsWithin (levels + 1) p) :
    p.node.kind ∈ "Property" :: patternKinds :=
  h p (mem_placesFrom_succ.mpr (.inl rfl))

theorem BindsWithin.inside (h : BindsWithin (levels + 1) p) (hc : c ∈ patternKids p) :
    BindsWithin levels (p.inside c) :=
  fun q hq => h q (mem_placesFrom_succ.mpr (.inr ⟨c, hc, hq⟩))

theorem NamelessAside.inside (h : NamelessAside (levels + 1) p) (hc : c ∈ children p.node) :
    NamelessAside levels (p.inside c) :=
  fun q hq => h q (mem_placesFrom_succ.mpr (.inr ⟨c, hc, hq⟩))

/-! ### The children in a field -/

theorem flatMap_of_lookup {β : Type} {fields : Entries Tree} (hsingle : fields.Single) (name : Text)
    (f : Tree → List β) :
    (fields.flatMap fun field => if field.1 = name then f field.2 else [])
      = ((fields.lookup name).map f).getD [] := by
  induction fields with
  | nil => rfl
  | cons field rest ih =>
    obtain ⟨hnew, hrest⟩ := List.nodup_cons.mp hsingle
    rw [List.flatMap_cons, ih hrest, List.lookup_cons]
    by_cases heq : field.1 = name
    · have hnone : rest.lookup name = none := by
        refine List.lookup_eq_none_iff.mpr fun other hother => bne_iff_ne.mpr fun hsame => hnew ?_
        rw [heq, hsame]
        exact List.mem_map_of_mem hother
      rw [if_pos heq, hnone, heq, beq_self_eq_true]
      exact List.append_nil _
    · rw [if_neg heq, List.nil_append, beq_eq_false_iff_ne.mpr (Ne.symm heq)]

/-- The nodes that a field holds are those of its slot. -/
theorem held_eq_nodesOf {field : String} {slot : Slot} {value : Tree}
    (hvalue : t.get? field = some value) (hadmits : slot.admits (some value) = true) :
    held (Text.ofString field) value = nodesOf (slotChildren t (field, slot)) := by
  have hlist : ∀ items, value = .list items →
      held (Text.ofString field) value = nodesOf (listed t field) := by
    rintro items rfl
    simp [held, nodesOf, listed, Tree.items, hvalue, Json.list?, List.filter_map, Function.comp_def]
  have hone : (∀ items, value ≠ .list items) →
      held (Text.ofString field) value = nodesOf (child t field) := by
    intro hnot
    unfold held
    split
    · exact absurd rfl (hnot _)
    · simp only [child, hvalue, nodesOf, List.filter_cons, List.filter_nil]
  unfold slotChildren
  cases slot with
  | one kinds =>
    refine hone fun items hitems => ?_
    rw [hitems] at hadmits
    cases hadmits
  | optional kinds =>
    refine hone fun items hitems => ?_
    rw [hitems] at hadmits
    cases hadmits
  | many kinds =>
    cases value with
    | list items => exact hlist items rfl
    | _ => cases hadmits
  | sparse kinds =>
    cases value with
    | list items => exact hlist items rfl
    | _ => cases hadmits

/-- The children in a field of a node are the nodes in its slot, in order. -/
theorem filter_children_of_slot (h : Fits t) {field : String} {slot : Slot}
    (hslot : (field, slot) ∈ slotsOf t.kind) :
    ((children t).filter fun c => Text.eqString c.1.1 field) = nodesOf (slotChildren t (field, slot)) := by
  obtain ⟨hrange, hloc, -⟩ := slots_not_skipped hslot
  have heach : ∀ f ∈ t.fields,
      ((if Text.eqString f.1 "range" || Text.eqString f.1 "loc" then [] else held f.1 f.2).filter
        fun c => Text.eqString c.1.1 field)
      = if f.1 = Text.ofString field then held (Text.ofString field) f.2 else [] := by
    intro f _
    by_cases hfield : f.1 = Text.ofString field
    · rw [if_pos hfield, hfield, if_neg (by simpa [Text.eqString] using ⟨hrange, hloc⟩)]
      refine List.filter_eq_self.mpr fun c hc => ?_
      rw [(mem_held.mp hc).1]
      exact beq_self_eq_true _
    · rw [if_neg hfield]
      refine List.filter_eq_nil_iff.mpr fun c hc => ?_
      split at hc
      · cases hc
      · rw [(mem_held.mp hc).1, Text.eqString, beq_iff_eq]
        exact hfield
  rw [children_eq, List.filter_flatMap, List.flatMap_congr heach,
    flatMap_of_lookup h.once, ← get?_eq_lookup]
  cases hvalue : t.get? field with
  | none =>
    have hadmits := h.filled _ hslot
    rw [hvalue] at hadmits
    cases slot with
    | one kinds => cases hadmits
    | optional kinds => simp [slotChildren, Slot.isList, child, hvalue, nodesOf]
    | many kinds => cases hadmits
    | sparse kinds => cases hadmits
  | some value =>
    have hadmits := h.filled _ hslot
    rw [hvalue] at hadmits
    exact held_eq_nodesOf hvalue hadmits

/-- The parts of a pattern that stand in one field. -/
theorem patternKids_of_slot (h : Fits p.node) {field : String} {slot : Slot}
    (hslot : (field, slot) ∈ slotsOf p.node.kind)
    (hstep : ∀ c ∈ children p.node,
      Outer.isPattern ⟨p.path, p.node, c.1⟩ = Text.eqString c.1.1 field) :
    patternKids p = nodesOf (slotChildren p.node (field, slot)) := by
  rw [← filter_children_of_slot h hslot]
  exact List.filter_congr hstep

/-- All children of a node that has but one slot stand in the field of that slot. -/
theorem eqString_of_only_slot (h : Fits t) {field : String} {slot : Slot}
    (hslots : slotsOf t.kind = [(field, slot)]) (hc : c ∈ children t) :
    Text.eqString c.1.1 field = true := by
  obtain ⟨other, hother, -, hstands⟩ := h.mem_children_iff.mp hc
  rw [hslots] at hother
  obtain rfl := List.mem_singleton.mp hother
  rw [step_of_mem_slotChildren hstands]
  exact beq_self_eq_true _

/-- The field in which the parts of a pattern of a kind stand, with its slot. -/
def patternSlots : List (String × (String × Slot)) :=
  [("ObjectPattern", ("properties", .many ["Property", "RestElement"])),
    ("ArrayPattern", ("elements", .sparse targetKinds)),
    ("RestElement", ("argument", .one targetKinds)),
    ("Property", ("value", .one targetKinds)),
    ("AssignmentPattern", ("left", .one targetKinds))]

theorem patternKids_eq (h : Fits p.node) (slot : String × Slot)
    (hslot : (p.node.kind, slot) ∈ patternSlots) :
    patternKids p = nodesOf (slotChildren p.node slot) := by
  simp only [patternSlots, List.mem_cons, List.not_mem_nil, or_false, Prod.mk.injEq] at hslot
  obtain ⟨hkind, rfl⟩ | ⟨hkind, rfl⟩ | ⟨hkind, rfl⟩ | ⟨hkind, rfl⟩ | ⟨hkind, rfl⟩ := hslot
  · refine patternKids_of_slot h (slot_mem hkind rfl) fun c hc => ?_
    rw [eqString_of_only_slot h (by rw [hkind]; rfl) hc]
    simp [Outer.isPattern, hkind]
  · refine patternKids_of_slot h (slot_mem hkind rfl) fun c hc => ?_
    rw [eqString_of_only_slot h (by rw [hkind]; rfl) hc]
    simp [Outer.isPattern, hkind]
  · refine patternKids_of_slot h (slot_mem hkind rfl) fun c hc => ?_
    rw [eqString_of_only_slot h (by rw [hkind]; rfl) hc]
    simp [Outer.isPattern, hkind]
  · exact patternKids_of_slot h (slot_mem hkind rfl) fun c _ => by simp [Outer.isPattern, hkind]
  · exact patternKids_of_slot h (slot_mem hkind rfl) fun c _ => by simp [Outer.isPattern, hkind]

/-! ### The names that are bound -/

theorem patternKids_eq_nil (h : Fits p.node) (hkind : p.node.kind = "Identifier") :
    patternKids p = [] := by
  rw [patternKids, h.children_eq_nil (by rw [hkind]; rfl)]
  rfl

/-- A name binds itself. -/
theorem bindersFrom_of_name (h : Fits p.node) (hkind : p.node.kind = "Identifier") :
    bindersFrom (levels + 1) p = [p] := by
  rw [bindersFrom, placesFrom, patternKids_eq_nil h hkind, List.flatMap_nil]
  exact List.filter_cons_of_pos (beq_iff_eq.mpr hkind)

/-- All else binds what its parts bind. -/
theorem bindersFrom_of_other (hkind : p.node.kind ≠ "Identifier") :
    bindersFrom (levels + 1) p = (patternKids p).flatMap fun c => bindersFrom levels (p.inside c) := by
  rw [bindersFrom, placesFrom, List.filter_cons_of_neg (by simpa [Tree.isKind] using hkind),
    List.filter_flatMap]
  rfl

theorem mem_bindersFrom (hq : q ∈ bindersFrom levels p) :
    q ∈ placesFrom patternKids levels p ∧ q.node.kind = "Identifier" := by
  obtain ⟨hplace, hname⟩ := List.mem_filter.mp hq
  exact ⟨hplace, beq_iff_eq.mp hname⟩

theorem wellFormed_of_mem_bindersFrom (h : WellFormed p.node) (hq : q ∈ bindersFrom levels p) :
    WellFormed q.node :=
  wellFormed_of_mem (fun _ _ _ hc => mem_children_of_patternKids hc) h (mem_bindersFrom hq).1

/-- A pattern binds a name at a place once. -/
theorem nodup_binders (h : WellFormed t) : ((binders t).map Place.path).Nodup := by
  refine List.pairwise_map.mpr (List.Pairwise.filter _ (pairwise_path fun r hr => ?_))
  have hwell := wellFormed_of_mem (p := .root t) (fun _ _ _ hc => mem_children_of_patternKids hc) h hr
  exact hwell.fits.pairwise_children.filter _

/-- The names that the patterns from a place on bind, in order. -/
def boundNames (levels : Nat) (p : Place) : List Text :=
  (bindersFrom levels p).filterMap (·.node.name?)

theorem boundNames_of_other (hkind : p.node.kind ≠ "Identifier") :
    boundNames (levels + 1) p = (patternKids p).flatMap fun c => boundNames levels (p.inside c) := by
  rw [boundNames, bindersFrom_of_other hkind, List.filterMap_flatMap]
  rfl

theorem mem_boundNames_self {name : Text} (h : Fits p.node) (hkind : p.node.kind = "Identifier")
    (hname : p.node.name? = some name) : name ∈ boundNames (levels + 1) p := by
  rw [boundNames, bindersFrom_of_name h hkind]
  exact List.mem_filterMap.mpr ⟨p, List.mem_singleton.mpr rfl, hname⟩

/-! ## Gathering the names -/

/-- What is gathered at a part of a pattern; of a property that is what its value binds. -/
def partNames (fuel : Nat) (t : Tree) : Except Fault (List Text) :=
  if t.isKind "Property" then patternNames fuel ((t.get? "value").getD .null) else patternNames fuel t

theorem patternNames_null (fuel : Nat) : patternNames fuel .null = .ok [] := by
  cases fuel <;> rfl

theorem partNames_of_kinds {kinds : List String} (hkinds : t.isOfKinds kinds = true)
    (hnot : "Property" ∉ kinds) : partNames fuel t = patternNames fuel t := by
  refine if_neg fun hproperty => hnot ?_
  exact beq_iff_eq.mp hproperty ▸ kind_of_isOfKinds hkinds

/-- What is gathered at all nodes of a list, of which only the nodes give something. -/
theorem mapM_listed_eq_ok {f : Tree → Except Fault (List Text)} {g : Child → List Text}
    (cs : List Child) (hf : ∀ c ∈ cs, f c.2 = .ok (if c.2.isNode then g c else [])) :
    ∃ lists, (cs.map Prod.snd).mapM f = .ok lists ∧ lists.flatten = (nodesOf cs).flatMap g := by
  induction cs with
  | nil => exact ⟨[], rfl, rfl⟩
  | cons c cs ih =>
    obtain ⟨lists, hlists, hflat⟩ := ih fun d hd => hf d (List.mem_cons_of_mem _ hd)
    refine ⟨(if c.2.isNode then g c else []) :: lists, ?_, ?_⟩
    · rw [List.map_cons, List.mapM_cons, hf c List.mem_cons_self, hlists]
      rfl
    · by_cases hnode : c.2.isNode = true
      · rw [if_pos hnode, nodesOf_cons_of_node hnode, List.flatten_cons, List.flatMap_cons, hflat]
      · rw [if_neg hnode, nodesOf_cons_of_not hnode, List.flatten_cons, hflat, List.nil_append]

theorem map_snd_listed (t : Tree) (field : String) : (listed t field).map Prod.snd = t.items field := by
  rw [listed, List.map_map]
  exact List.zipIdx_map_fst 0 _

section Names

variable (h : WellFormed p.node)
include h

/-- The part of a pattern that has but one. -/
theorem exists_patternKid (field : String)
    (hslot : (p.node.kind, (field, Slot.one targetKinds)) ∈ patternSlots) :
    ∃ node, p.node.get? field = some node ∧ Tree.isOfKinds targetKinds node = true ∧ WellFormed node ∧
      patternKids p = [((Text.ofString field, 0), node)] := by
  have htable : ∀ entry ∈ patternSlots, entry.2 ∈ slotsOf entry.1 := by decide
  obtain ⟨node, hvalue, hkinds, hwell⟩ := h.one field (htable _ hslot)
  refine ⟨node, hvalue, hkinds, hwell, ?_⟩
  have hstands : slotChildren p.node (field, .one targetKinds) = [((Text.ofString field, 0), node)] := by
    simp only [slotChildren, Slot.isList, Bool.false_eq_true, if_false, child, hvalue]
  rw [patternKids_eq h.fits _ hslot, hstands]
  exact nodesOf_cons_of_node hwell.fits.isNode []

variable (hparts : ∀ c ∈ patternKids p, partNames fuel c.2 = .ok (boundNames levels (p.inside c)))
include hparts

theorem patternNames_of_one {field : String}
    (hslot : (p.node.kind, (field, Slot.one targetKinds)) ∈ patternSlots)
    (hkind : p.node.kind ≠ "Identifier") :
    patternNames fuel ((p.node.get? field).getD .null) = .ok (boundNames (levels + 1) p) := by
  obtain ⟨node, hvalue, hkinds, -, hkids⟩ := exists_patternKid h field hslot
  rw [boundNames_of_other hkind, hkids, List.flatMap_singleton, hvalue, Option.getD_some,
    ← partNames_of_kinds hkinds (by decide)]
  exact hparts _ (hkids ▸ List.mem_singleton.mpr rfl)

theorem patternNames_of_object (hkind : p.node.kind = "ObjectPattern") :
    patternNames (fuel + 1) p.node = .ok (boundNames (levels + 1) p) := by
  have hkids : patternKids p = nodesOf (listed p.node "properties") :=
    patternKids_eq h.fits ("properties", .many ["Property", "RestElement"]) (by rw [hkind]; decide)
  rw [patternNames_succ h, boundNames_of_other (by rw [hkind]; decide), hkids]
  simp only [hkind]
  rw [← map_snd_listed]
  refine Outcome.bind_eq_ok.mpr ?_
  refine Exists.imp (fun lists hlists => ⟨hlists.1, Outcome.pure_eq_ok.mpr hlists.2⟩)
    (mapM_listed_eq_ok (g := fun c => boundNames levels (p.inside c)) (listed p.node "properties")
      fun c hc => ?_)
  obtain ⟨-, hchild⟩ := h.fits.of_listed_many (slot_mem hkind rfl) hc
  have hnode := (h.inside hchild).fits.isNode
  have hread := hparts c (hkids ▸ List.mem_filter.mpr ⟨hc, hnode⟩)
  rw [if_pos hnode, ← hread, partNames]
  split
  · rename_i hnull
    rw [hnull] at hnode
    cases hnode
  · rfl

theorem patternNames_of_array (hkind : p.node.kind = "ArrayPattern") :
    patternNames (fuel + 1) p.node = .ok (boundNames (levels + 1) p) := by
  have hkids : patternKids p = nodesOf (listed p.node "elements") :=
    patternKids_eq h.fits ("elements", .sparse targetKinds) (by rw [hkind]; decide)
  rw [patternNames_succ h, boundNames_of_other (by rw [hkind]; decide), hkids]
  simp only [hkind]
  rw [← map_snd_listed]
  refine Outcome.bind_eq_ok.mpr ?_
  obtain ⟨lists, hlists, hflat⟩ := mapM_listed_eq_ok (f := patternNames fuel)
    (g := fun c => boundNames levels (p.inside c)) (listed p.node "elements")
    fun c hc => by
      obtain hnull | ⟨hkinds, hchild⟩ := h.fits.of_listed_sparse (slot_mem hkind rfl) hc
      · rw [hnull]
        exact patternNames_null fuel
      · have hnode := (h.inside hchild).fits.isNode
        have hread := hparts c (hkids ▸ List.mem_filter.mpr ⟨hc, hnode⟩)
        rw [if_pos hnode, ← hread, partNames_of_kinds hkinds (by decide)]
  exact ⟨lists, hlists, Outcome.pure_eq_ok.mpr hflat⟩

end Names

/-- What is gathered at a part of a pattern are the names that are bound from there on. -/
theorem partNames_eq (h : WellFormed p.node) (hbinds : BindsWithin levels p)
    (hfuel : p.node.depth ≤ fuel) (hlevels : p.node.depth ≤ levels) :
    partNames fuel p.node = .ok (boundNames levels p) := by
  induction levels generalizing p fuel with
  | zero => exact absurd (depth_pos p.node) (by omega)
  | succ levels ih =>
    have hinside : ∀ {fuel : Nat}, p.node.depth ≤ fuel + 1 → ∀ c ∈ patternKids p,
        partNames fuel c.2 = .ok (boundNames levels (p.inside c)) := by
      intro fuel hfuel c hc
      have hchild := mem_children_of_patternKids hc
      have hlt := depth_lt_of_mem_children hchild
      exact ih (p := p.inside c) (h.inside hchild) (hbinds.inside hc)
        (Nat.le_of_lt_succ (Nat.lt_of_lt_of_le hlt hfuel))
        (Nat.le_of_lt_succ (Nat.lt_of_lt_of_le hlt hlevels))
    obtain ⟨fuel, rfl⟩ : ∃ fewer, fuel = fewer + 1 :=
      ⟨fuel - 1, by have := depth_pos p.node; omega⟩
    have hkind := hbinds.kind
    simp only [patternKinds, List.mem_cons, List.not_mem_nil, or_false] at hkind
    obtain hkind | hkind | hkind | hkind | hkind | hkind := hkind
    · rw [partNames, if_pos (show p.node.isKind "Property" = true from beq_iff_eq.mpr hkind)]
      exact patternNames_of_one h (hinside (Nat.le_succ_of_le hfuel)) (by rw [hkind]; decide)
        (by rw [hkind]; decide)
    · obtain ⟨name, -, hname, hok⟩ := h.fits.exists_name hkind
      rw [partNames, if_neg (by simp [Tree.isKind, hkind]), patternNames_succ h, boundNames,
        bindersFrom_of_name h.fits hkind]
      simp only [hkind, hok, List.filterMap_cons, hname, List.filterMap_nil]
      rfl
    · rw [partNames, if_neg (by simp [Tree.isKind, hkind])]
      exact patternNames_of_object h (hinside hfuel) hkind
    · rw [partNames, if_neg (by simp [Tree.isKind, hkind])]
      exact patternNames_of_array h (hinside hfuel) hkind
    · rw [partNames, if_neg (by simp [Tree.isKind, hkind]), patternNames_succ h]
      simp only [hkind]
      exact patternNames_of_one h (hinside hfuel) (by rw [hkind]; decide) (by rw [hkind]; decide)
    · rw [partNames, if_neg (by simp [Tree.isKind, hkind]), patternNames_succ h]
      simp only [hkind]
      exact patternNames_of_one h (hinside hfuel) (by rw [hkind]; decide) (by rw [hkind]; decide)

/-- Gathering finds the names of the places at which a pattern binds one, in order. -/
theorem patternNames_eq (h : IsBindingPattern t) :
    patternNames t.depth t = .ok (boundNames t.depth (.root t)) := by
  have hread := partNames_eq (p := .root t) h.wellFormed h.binds (Nat.le_refl _) (Nat.le_refl _)
  rwa [partNames, if_neg] at hread
  have hnot : "Property" ∉ patternKinds := by decide
  exact fun hproperty => hnot (beq_iff_eq.mp hproperty ▸ h.kind)

end VeiledGateway.Script
