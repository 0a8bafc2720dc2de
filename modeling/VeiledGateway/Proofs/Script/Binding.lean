/-
  Names where they are declared.

  `declarationOf` reads off the nodes around a name whether it is declared where it stands, and by
  which of them.  `declared_of_declarationOf` says that this node declares the name: a declaration
  binds the names that stand in its patterns.
-/
import VeiledGateway.Proofs.Script.Scoping

set_option autoImplicit false

namespace VeiledGateway.Script

variable {t : Tree} {c : Child} {name : Text}

/-! ## Steps to children -/

/-- A child that a step into a field leads to stands in the slot of that field. -/
theorem inSlot_of_step (h : Fits t) (hc : c ∈ children t) {kind field : String} (slot : Slot)
    (hkind : t.kind = kind) (hstep : Text.eqString c.1.1 field = true)
    (hslots : ∀ other ∈ slotsOf kind, Text.eqString (Text.ofString other.1) field = true →
      other = (field, slot)) :
    c.2.isOfKinds slot.kinds = true ∧ c ∈ slotChildren t (field, slot) := by
  obtain ⟨other, hother, hkinds, hstands⟩ := h.mem_children_iff.mp hc
  rw [step_of_mem_slotChildren hstands] at hstep
  obtain rfl := hslots other (hkind ▸ hother) hstep
  exact ⟨hkinds, hstands⟩

/-! ## Names in patterns -/

/-- A pattern binds a name, however far it is looked into. -/
def BindsName (name : Text) (t : Tree) : Prop :=
  ∀ fuel, t.depth ≤ fuel → ∃ names, patternNames fuel t = .ok names ∧ name ∈ names

/-- A part of a pattern binds a name; a property does so with its value. -/
def PartBinds (name : Text) (t : Tree) : Prop :=
  if t.isKind "Property" then ∃ value, t.get? "value" = some value ∧ BindsName name value
  else BindsName name t

/-- It is enough to look at the names that are found. -/
theorem bindsName_of_names (h : WellFormed t)
    (hnames : ∀ fuel names, t.depth ≤ fuel + 1 → patternNames (fuel + 1) t = .ok names →
      name ∈ names) : BindsName name t := by
  intro fuel hfuel
  obtain ⟨names, hok⟩ := exists_patternNames fuel (.inr h)
  cases fuel with
  | zero => exact absurd (depth_pos t) (by omega)
  | succ fuel => exact ⟨names, hok, hnames fuel names hfuel hok⟩

theorem BindsName.mem {fuel : Nat} (h : BindsName name t) (hfuel : t.depth ≤ fuel)
    {names : List Text} (hok : patternNames fuel t = .ok names) : name ∈ names := by
  obtain ⟨other, hother, hmem⟩ := h fuel hfuel
  rw [hok] at hother
  exact Except.ok.inj hother ▸ hmem

theorem patternNames_succ (h : WellFormed t) (fuel : Nat) :
    patternNames (fuel + 1) t = match t.kind with
      | "Identifier" => return [← nameOf t]
      | "ObjectPattern" => do
        let names ← (t.items "properties").mapM fun part =>
          if part matches .null then .error (.nothingThere "get")
          else if part.isKind "Property" then patternNames fuel ((part.get? "value").getD .null)
          else patternNames fuel part
        return names.flatten
      | "ArrayPattern" => return (← (t.items "elements").mapM (patternNames fuel)).flatten
      | "AssignmentPattern" => patternNames fuel ((t.get? "left").getD .null)
      | "RestElement" => patternNames fuel ((t.get? "argument").getD .null)
      | _ => .ok [] := by
  rw [patternNames, h.fits.isTruthy]
  rfl

theorem bindsName_identifier (h : WellFormed t) (hkind : t.kind = "Identifier")
    (hname : t.name? = some name) : BindsName name t := by
  refine bindsName_of_names h fun fuel names _ hok => ?_
  obtain ⟨other, -, hother, hnameOf⟩ := h.fits.exists_name hkind
  rw [patternNames_succ h] at hok
  simp only [hkind] at hok
  obtain ⟨read, hread, hpure⟩ := Outcome.bind_eq_ok.mp hok
  obtain rfl := Outcome.pure_eq_ok.mp hpure
  rw [hnameOf] at hread
  rw [hname] at hother
  rw [Option.some.inj hother, Except.ok.inj hread]
  exact List.mem_singleton.mpr rfl

theorem bindsName_of_part {kinds : List String} (hnot : "Property" ∉ kinds)
    (hkinds : c.2.isOfKinds kinds = true) (hpart : PartBinds name c.2) : BindsName name c.2 := by
  unfold PartBinds at hpart
  rwa [if_neg] at hpart
  intro hproperty
  exact hnot (beq_iff_eq.mp hproperty ▸ kind_of_isOfKinds hkinds)

theorem mem_items_of_listed {field : String} (hc : c ∈ listed t field) : c.2 ∈ t.items field := by
  obtain ⟨-, items, hvalue, hitem⟩ := mem_listed.mp hc
  exact List.mem_of_getElem? (getElem?_items.mpr ⟨items, hvalue, hitem⟩)

section Patterns

variable (h : WellFormed t) (hc : c ∈ children t)
include h hc

theorem bindsName_of_property (hkind : t.kind = "ObjectPattern") (hpart : PartBinds name c.2) :
    BindsName name t := by
  have hdepth : c.2.depth < t.depth := depth_lt_of_mem_children hc
  have hwell := h.inside hc
  obtain ⟨slot, hslot, -, hstands⟩ := h.fits.mem_children_iff.mp hc
  rw [hkind] at hslot
  obtain rfl := List.mem_singleton.mp hslot
  refine bindsName_of_names h fun fuel names hfuel hok => ?_
  rw [patternNames_succ h] at hok
  simp only [hkind] at hok
  obtain ⟨lists, hlists, hflat⟩ := Outcome.bind_eq_ok.mp hok
  obtain rfl := Outcome.pure_eq_ok.mp hflat
  have hitem : c.2 ∈ t.items "properties" := mem_items_of_listed hstands
  have hnull := ne_null_of_isNode hwell.fits.isNode
  by_cases hproperty : c.2.isKind "Property" = true
  · rw [PartBinds, if_pos hproperty] at hpart
    obtain ⟨value, hvalue, hbinds⟩ := hpart
    have hless : value.depth < c.2.depth := depth_lt_of_mem_fields (mem_fields_of_get? hvalue)
    obtain ⟨inside, hinside, hmem⟩ := hbinds fuel (by omega)
    refine List.mem_flatten.mpr ⟨inside, Outcome.mem_of_mapM_eq_ok hlists hitem ?_, hmem⟩
    simp only [hproperty, hvalue, Option.getD_some, if_true]
    exact hinside
  · rw [PartBinds, if_neg hproperty] at hpart
    obtain ⟨inside, hinside, hmem⟩ := hpart fuel (by omega)
    refine List.mem_flatten.mpr ⟨inside, Outcome.mem_of_mapM_eq_ok hlists hitem ?_, hmem⟩
    simp only [hproperty]
    exact hinside

theorem bindsName_of_element (hkind : t.kind = "ArrayPattern") (hpart : PartBinds name c.2) :
    BindsName name t := by
  have hdepth : c.2.depth < t.depth := depth_lt_of_mem_children hc
  obtain ⟨slot, hslot, hkinds, hstands⟩ := h.fits.mem_children_iff.mp hc
  rw [hkind] at hslot
  obtain rfl := List.mem_singleton.mp hslot
  have hbinds := bindsName_of_part (by decide) hkinds hpart
  refine bindsName_of_names h fun fuel names hfuel hok => ?_
  rw [patternNames_succ h] at hok
  simp only [hkind] at hok
  obtain ⟨lists, hlists, hflat⟩ := Outcome.bind_eq_ok.mp hok
  obtain rfl := Outcome.pure_eq_ok.mp hflat
  obtain ⟨inside, hinside, hmem⟩ := hbinds fuel (by omega)
  have hitem : c.2 ∈ t.items "elements" := mem_items_of_listed hstands
  exact List.mem_flatten.mpr ⟨inside, Outcome.mem_of_mapM_eq_ok hlists hitem hinside, hmem⟩

/-- A pattern of which only one part binds names binds the names of that part. -/
theorem bindsName_of_field {field : String} {kinds : List String} (hnot : "Property" ∉ kinds)
    (hstands : c ∈ child t field) (hkinds : c.2.isOfKinds kinds = true)
    (hnames : ∀ fuel, patternNames (fuel + 1) t = patternNames fuel ((t.get? field).getD .null))
    (hpart : PartBinds name c.2) : BindsName name t := by
  have hdepth : c.2.depth < t.depth := depth_lt_of_mem_children hc
  refine bindsName_of_names h fun fuel names hfuel hok => ?_
  rw [hnames, (mem_child.mp hstands).2] at hok
  exact (bindsName_of_part hnot hkinds hpart).mem (by omega) hok

/-- What a part of a pattern binds, the pattern binds. -/
theorem partBinds_of_child {path : Path} (hpattern : Outer.isPattern ⟨path, t, c.1⟩ = true)
    (hpart : PartBinds name c.2) : PartBinds name t := by
  unfold Outer.isPattern at hpattern
  dsimp only at hpattern
  split at hpattern
  · rename_i hkind
    rw [PartBinds, if_neg (by simp [Tree.isKind, hkind])]
    exact bindsName_of_property h hc hkind hpart
  · rename_i hkind
    rw [PartBinds, if_neg (by simp [Tree.isKind, hkind])]
    exact bindsName_of_element h hc hkind hpart
  · rename_i hkind
    rw [PartBinds, if_neg (by simp [Tree.isKind, hkind])]
    obtain ⟨slot, hslot, hkinds, hstands⟩ := h.fits.mem_children_iff.mp hc
    rw [hkind] at hslot
    obtain rfl := List.mem_singleton.mp hslot
    refine bindsName_of_field h hc (by decide) hstands hkinds (fun fuel => ?_) hpart
    simp only [patternNames_succ h, hkind]
  · rename_i hkind
    obtain ⟨hkinds, hstands⟩ :=
      inSlot_of_step h.fits hc (.one targetKinds) hkind hpattern (by decide)
    rw [PartBinds, if_pos (by simp [Tree.isKind, hkind])]
    exact ⟨c.2, (mem_child.mp hstands).2, bindsName_of_part (by decide) hkinds hpart⟩
  · rename_i hkind
    rw [PartBinds, if_neg (by simp [Tree.isKind, hkind])]
    obtain ⟨hkinds, hstands⟩ :=
      inSlot_of_step h.fits hc (.one targetKinds) hkind hpattern (by decide)
    refine bindsName_of_field h hc (by decide) hstands hkinds (fun fuel => ?_) hpart
    simp only [patternNames_succ h, hkind]
  · cases hpattern

end Patterns

/-! ## Declarations -/

section Declarations

variable (h : WellFormed t) (hc : c ∈ children t) (hpart : PartBinds name c.2)
include h hc hpart

theorem nameOf_of_part (hkind : c.2.kind = "Identifier") : nameOf c.2 = .ok name := by
  have hwell := h.inside hc
  rw [PartBinds, if_neg (by simp [Tree.isKind, hkind])] at hpart
  obtain ⟨other, -, -, hother⟩ := hwell.fits.exists_name hkind
  obtain ⟨names, hok, hmem⟩ := hpart (c.2.depth + 1) (Nat.le_succ _)
  rw [patternNames_succ hwell] at hok
  simp only [hkind, hother] at hok
  obtain rfl := Outcome.pure_eq_ok.mp hok
  rw [List.mem_singleton.mp hmem]
  exact hother

/-- The name of a function or a class. -/
theorem mem_ownNames (hslot : Text.eqString c.1.1 "id" = true) {kind : String} (hkind : t.kind = kind)
    (hslots : ∀ other ∈ slotsOf kind, Text.eqString (Text.ofString other.1) "id" = true →
      other = ("id", .optional ["Identifier"])) : name ∈ ownNames t := by
  obtain ⟨hkinds, hstands⟩ := inSlot_of_step h.fits hc _ hkind hslot hslots
  have hid : part? t "id" = some c.2 := by
    rw [part?, (mem_child.mp hstands).2]
    exact Option.filter_eq_some_iff.mpr ⟨rfl, (h.inside hc).fits.isTruthy⟩
  rw [ownNames_of_some hid (nameOf_of_part h hc hpart (kind_eq_of_isOfKinds hkinds))]
  exact List.mem_singleton.mpr rfl

/-- The names of a parameter of a function. -/
theorem mem_namesOfAll (hkind : t.kind ∈ functionKinds)
    (hstep : Text.eqString c.1.1 "params" = true) :
    name ∈ namesOrNone (namesOfAll (t.items "params")) := by
  have hslots : ∀ kind ∈ functionKinds, ("params", Slot.many patternKinds) ∈ slotsOf kind ∧
      ∀ other ∈ slotsOf kind, Text.eqString (Text.ofString other.1) "params" = true →
        other = ("params", .many patternKinds) := by
    decide
  obtain ⟨hslot, hother⟩ := hslots _ hkind
  obtain ⟨hkinds, hstands⟩ := inSlot_of_step h.fits hc _ rfl hstep hother
  obtain ⟨names, hnames⟩ := exists_namesOfAll h hslot
  rw [hnames, namesOrNone_ok]
  obtain ⟨lists, hlists, hflat⟩ := Outcome.bind_eq_ok.mp hnames
  obtain rfl := Outcome.pure_eq_ok.mp hflat
  obtain ⟨inside, hinside, hmem⟩ := bindsName_of_part (by decide) hkinds hpart c.2.depth (Nat.le_refl _)
  exact List.mem_flatten.mpr
    ⟨inside, Outcome.mem_of_mapM_eq_ok hlists (mem_items_of_listed hstands) hinside, hmem⟩

omit h hc in
/-- The names in a field that holds a pattern. -/
theorem mem_namesIn {field : String} {kinds : List String} (hnot : "Property" ∉ kinds)
    (hkinds : c.2.isOfKinds kinds = true) (hstands : c ∈ child t field) :
    ∃ names, namesIn t field = .ok names ∧ name ∈ names := by
  rw [namesIn, (mem_child.mp hstands).2]
  exact bindsName_of_part hnot hkinds hpart c.2.depth (Nat.le_refl _)

end Declarations

/-- Declarators stand in declarations of variables. -/
theorem kind_of_declarator (h : Fits t) (hc : c ∈ children t) (hkind : c.2.kind = "VariableDeclarator") :
    t.kind = "VariableDeclaration" ∧ c.2 ∈ t.items "declarations" := by
  have htable : ∀ entry ∈ syntaxTable, ∀ slot ∈ entry.2, "VariableDeclarator" ∈ slot.2.kinds →
      entry.1 = "VariableDeclaration" ∧ slot = ("declarations", .many ["VariableDeclarator"]) := by
    decide
  obtain ⟨slot, hslot, hkinds, hstands⟩ := h.mem_children_iff.mp hc
  obtain ⟨slots, hentry, hmem⟩ := exists_entry_of_slot hslot
  obtain ⟨hdeclaration, rfl⟩ :=
    htable (t.kind, slots) hentry slot hmem (hkind ▸ kind_of_isOfKinds hkinds)
  exact ⟨hdeclaration, mem_items_of_listed hstands⟩

/-- The names of a declarator of a declaration of variables. -/
theorem mem_declaratorNames (h : WellFormed t) (hkind : t.kind = "VariableDeclaration")
    {declarator : Tree} (hitem : declarator ∈ t.items "declarations")
    (hnames : ∃ names, namesIn declarator "id" = .ok names ∧ name ∈ names) :
    name ∈ namesOrNone (declaratorNames t) := by
  obtain ⟨all, hall⟩ := exists_declaratorNames h hkind
  rw [hall, namesOrNone_ok]
  obtain ⟨lists, hlists, hflat⟩ := Outcome.bind_eq_ok.mp hall
  obtain rfl := Outcome.pure_eq_ok.mp hflat
  obtain ⟨names, hok, hmem⟩ := hnames
  exact List.mem_flatten.mpr ⟨names, Outcome.mem_of_mapM_eq_ok hlists hitem hok, hmem⟩

/-- The local name of a specifier of an import. -/
theorem mem_importedNames (h : WellFormed t) (hkind : t.kind = "ImportDeclaration") {spec : Tree}
    (hitem : spec ∈ t.items "specifiers") (hname : localName spec = .ok name) :
    name ∈ importedNames t := by
  obtain ⟨names, hnames⟩ := Outcome.exists_mapM_eq_ok (exists_localNames h hkind)
  rw [importedNames, hnames, namesOrNone_ok]
  exact Outcome.mem_of_mapM_eq_ok hnames hitem hname

variable {q r s : Place} {form : Form}

/-- The node to whose name a step leads declares it. -/
theorem declared_of_id (h : IsProgram t) (hs : s ∈ places t) (hc : c ∈ children s.node)
    (hname : PartBinds name c.2) (hstep : Text.eqString c.1.1 "id" = true)
    (hdeclaration : declarationOf (⟨s.path, s.node, c.1⟩ :: s.outer) = some (r, form))
    (hpattern : Outer.isPattern ⟨s.path, s.node, c.1⟩ = false) :
    r ∈ places t ∧ (form, name) ∈ declaredBy r.node := by
  have hwell := wellFormed_of_mem (p := .root t) (fun _ _ _ hc => hc) h.wellFormed hs
  simp only [declarationOf, hpattern, hstep, Bool.false_eq_true, if_false, if_true] at hdeclaration
  split at hdeclaration
  · rename_i hkind
    cases hdeclaration
    have hmem := mem_ownNames hwell hc hname hstep hkind (by decide)
    exact ⟨hs, by simp [declaredBy, declaredOutside, hkind, hmem]⟩
  · rename_i hkind
    cases hdeclaration
    have hmem := mem_ownNames hwell hc hname hstep hkind (by decide)
    exact ⟨hs, by simp [declaredBy, declaredInside, hkind, hmem]⟩
  · rename_i hkind
    cases hdeclaration
    have hmem := mem_ownNames hwell hc hname hstep hkind (by decide)
    exact ⟨hs, by simp [declaredBy, declaredInside, hkind, hmem]⟩
  · rename_i hkind
    cases hdeclaration
    have hmem := mem_ownNames hwell hc hname hstep hkind (by decide)
    exact ⟨hs, by simp [declaredBy, declaredInside, hkind, hmem]⟩
  · rename_i hkind
    obtain ⟨hkinds, hstands⟩ := inSlot_of_step hwell.fits hc (.one patternKinds) hkind hstep (by decide)
    have hnames := mem_namesIn hname (by decide) hkinds hstands
    obtain rfl | ⟨u, hu, d, hd, rfl⟩ := parent_of_mem hs
    · cases hdeclaration
    · cases hdeclaration
      have hwell := wellFormed_of_mem (p := .root t) (fun _ _ _ hc => hc) h.wellFormed hu
      obtain ⟨hvariables, hitem⟩ := kind_of_declarator hwell.fits hd hkind
      have hmem := mem_declaratorNames hwell hvariables hitem hnames
      exact ⟨hu, by simp [declaredBy, declaredInside, hvariables, hmem]⟩
  · cases hdeclaration

/-- The nodes of an import are specifiers and the name of a module. -/
theorem mem_specifiers_of_child (h : Fits t) (hkind : t.kind = "ImportDeclaration")
    (hc : c ∈ children t) : c.2 ∈ t.items "specifiers" ∨ c.2.kind = "Literal" := by
  obtain ⟨slot, hslot, hkinds, hstands⟩ := h.mem_children_iff.mp hc
  rw [hkind] at hslot
  obtain rfl | hslot := List.mem_cons.mp hslot
  · exact .inl (mem_items_of_listed hstands)
  · obtain rfl := List.mem_singleton.mp hslot
    exact .inr (kind_eq_of_isOfKinds hkinds)

/-- The import to one of whose local names a step leads declares it. -/
theorem declared_of_local (h : IsProgram t) (hs : s ∈ places t) (hc : c ∈ children s.node)
    (hname : PartBinds name c.2) (hstep : Text.eqString c.1.1 "local" = true)
    (hdeclaration : (match s.outer with
      | [] => none
      | o :: outer =>
        if o.node.isKind "ImportDeclaration" then some ((⟨o.path, o.node, outer⟩ : Place), Form.imported)
        else none) = some (r, form)) :
    r ∈ places t ∧ (form, name) ∈ declaredBy r.node := by
  have hwell := wellFormed_of_mem (p := .root t) (fun _ _ _ hc => hc) h.wellFormed hs
  have htable : ∀ entry ∈ syntaxTable, ∀ slot ∈ entry.2,
      Text.eqString (Text.ofString slot.1) "local" = true → slot = ("local", .one ["Identifier"]) := by
    decide
  obtain ⟨hkinds, hstands⟩ := inSlot_of_step hwell.fits hc (.one ["Identifier"]) rfl hstep
    fun slot hslot hlocal => by
      obtain ⟨slots, hentry, hmem⟩ := exists_entry_of_slot hslot
      exact htable (s.node.kind, slots) hentry slot hmem hlocal
  have hlocal : localName s.node = .ok name := by
    rw [localName, (mem_child.mp hstands).2]
    exact nameOf_of_part hwell hc hname (kind_eq_of_isOfKinds hkinds)
  obtain rfl | ⟨u, hu, d, hd, rfl⟩ := parent_of_mem hs
  · cases hdeclaration
  have hwellOuter := wellFormed_of_mem (p := .root t) (fun _ _ _ hc => hc) h.wellFormed hu
  dsimp only [Place.inside] at hdeclaration
  split at hdeclaration
  · rename_i himport
    have hkind := beq_iff_eq.mp himport
    cases hdeclaration
    obtain hitem | hliteral := mem_specifiers_of_child hwellOuter.fits hkind hd
    · have hmem := mem_importedNames hwellOuter hkind hitem hlocal
      exact ⟨hu, by simp [declaredBy, declaredInside, hkind, hmem]⟩
    · have hliteral' : (u.inside d).node.kind = "Literal" := hliteral
      rw [hwell.fits.children_eq_nil (by rw [hliteral']; rfl)] at hc
      cases hc
  · cases hdeclaration

/-- The declaration of which a name is a part declares it. -/
theorem declared_of_declarationOf (h : IsProgram t) (hq : q ∈ places t)
    (hname : PartBinds name q.node) (hdeclaration : declarationOf q.outer = some (r, form)) :
    r ∈ places t ∧ (form, name) ∈ declaredBy r.node := by
  suffices hall : ∀ outer : List Outer, ∀ q ∈ places t, q.outer = outer → PartBinds name q.node →
      declarationOf outer = some (r, form) → r ∈ places t ∧ (form, name) ∈ declaredBy r.node from
    hall q.outer q hq rfl hname hdeclaration
  intro outer
  -- patterns are left one after the other, until the declaration is reached
  induction outer with
  | nil => exact fun _ _ _ _ hnone => by cases hnone
  | cons o outer ih =>
    intro q hq houter hname hdeclaration
    obtain rfl | ⟨s, hs, c, hc, rfl⟩ := parent_of_mem hq
    · cases houter
    obtain ⟨rfl, rfl⟩ := List.cons.inj houter
    have hwell := wellFormed_of_mem (p := .root t) (fun _ _ _ hc => hc) h.wellFormed hs
    cases hpattern : Outer.isPattern ⟨s.path, s.node, c.1⟩ with
    | true =>
      simp only [declarationOf, hpattern, if_true] at hdeclaration
      exact ih s hs rfl (partBinds_of_child hwell hc hpattern hname) hdeclaration
    | false =>
      cases hid : Text.eqString c.1.1 "id" with
      | true => exact declared_of_id h hs hc hname hid hdeclaration hpattern
      | false =>
        simp only [declarationOf, hpattern, hid, Bool.false_eq_true, if_false] at hdeclaration
        split at hdeclaration
        · rename_i hparams
          obtain ⟨hfunction, hstep⟩ := Bool.and_eq_true_iff.mp hparams
          have hkind := List.contains_iff_mem.mp hfunction
          have hmem := mem_namesOfAll hwell hc hname hkind hstep
          cases hdeclaration
          refine ⟨hs, ?_⟩
          simp only [functionKinds, List.mem_cons, List.not_mem_nil, or_false] at hkind
          obtain hkind | hkind | hkind := hkind <;>
            simp [declaredBy, declaredInside, hkind, hmem]
        · split at hdeclaration
          · rename_i hcatch
            obtain ⟨hkind, hstep⟩ := Bool.and_eq_true_iff.mp hcatch
            have hkind := beq_iff_eq.mp hkind
            obtain ⟨hkinds, hstands⟩ :=
              inSlot_of_step hwell.fits hc (.optional patternKinds) hkind hstep (by decide)
            obtain ⟨names, hnames, hmem⟩ := mem_namesIn hname (by decide) hkinds hstands
            cases hdeclaration
            refine ⟨hs, ?_⟩
            simp [declaredBy, declaredInside, hkind, hnames, namesOrNone_ok, hmem]
          · split at hdeclaration
            · rename_i hlocal
              exact declared_of_local h hs hc hname hlocal hdeclaration
            · cases hdeclaration

end VeiledGateway.Script
