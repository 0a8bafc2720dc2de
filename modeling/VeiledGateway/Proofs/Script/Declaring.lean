/-
  What the nodes of a well-formed tree declare.

  `declaredBy` lists the names that a node declares, each with the form of its declaration, and
  `pinnedBy` the names that it ties to the world outside.  In a well-formed tree the names can always
  be read, and what a node adds to the bindings is exactly what is listed.
-/
import VeiledGateway.Proofs.Outcome
import VeiledGateway.Proofs.Script.Places

set_option autoImplicit false

namespace VeiledGateway.Script

/-- How a name is declared. -/
inductive Form where
  | parameter
  /-- The name of a function or a class that is an expression, inside itself. -/
  | ownName
  /-- The name of a function that is declared. -/
  | function
  | variable
  | lexical
  /-- A parameter of a handler. -/
  | caught
  | imported
deriving DecidableEq

/-- The names that a calculation gives, none when it fails. -/
def namesOrNone (names : Except Fault (List Text)) : List Text :=
  names.toOption.getD []

/-- The name of a node that may have one. -/
def ownNames (t : Tree) : List Text :=
  match part? t "id" with
  | some id => (nameOf id).toOption.toList
  | none => []

/-- The local names of an import. -/
def importedNames (t : Tree) : List Text :=
  namesOrNone ((t.items "specifiers").mapM localName)

/-- A declaration of variables that are not bound to their block. -/
def isVar (t : Tree) : Bool :=
  t.textField? "kind" == some (Text.ofString "var")

/-- The name that the declaration of a function gives to it. -/
def declaredOutside (t : Tree) : List (Form × Text) :=
  if t.kind == "FunctionDeclaration" then (ownNames t).map (.function, ·) else []

/-- The names that a node declares otherwise. -/
def declaredInside (t : Tree) : List (Form × Text) :=
  match t.kind with
  | "FunctionDeclaration" => (namesOrNone (namesOfAll (t.items "params"))).map (.parameter, ·)
  | "ArrowFunctionExpression" => (namesOrNone (namesOfAll (t.items "params"))).map (.parameter, ·)
  | "FunctionExpression" =>
    (namesOrNone (namesOfAll (t.items "params"))).map (.parameter, ·)
      ++ (ownNames t).map (.ownName, ·)
  | "VariableDeclaration" =>
    (namesOrNone (declaratorNames t)).map (if isVar t then .variable else .lexical, ·)
  | "ClassDeclaration" => (ownNames t).map (.lexical, ·)
  | "ClassExpression" => (ownNames t).map (.ownName, ·)
  | "CatchClause" => (namesOrNone (namesIn t "param")).map (.caught, ·)
  | "ImportDeclaration" => (importedNames t).map (.imported, ·)
  | _ => []

/-- The names that a node declares. -/
def declaredBy (t : Tree) : List (Form × Text) :=
  declaredOutside t ++ declaredInside t

/-- The names that an import or an exported declaration pins. -/
def pinnedInside (t : Tree) : List Text :=
  match t.kind with
  | "ImportDeclaration" => importedNames t
  | "ExportNamedDeclaration" =>
    match part? t "declaration" with
    | some declaration => namesOrNone (exportedNames declaration)
    | none => []
  | _ => []

/-- The names that the specifiers of an export pin. -/
def pinnedLast (t : Tree) : List Text :=
  if t.kind == "ExportNamedDeclaration" then namesOrNone (specifierNames t) else []

/-- The names that a node pins. -/
def pinnedBy (t : Tree) : List Text :=
  pinnedInside t ++ pinnedLast t

/-! ## Names can be read -/

theorem exists_patternNames (fuel : Nat) {t : Tree} (h : t = .null ∨ WellFormed t) :
    ∃ names, patternNames fuel t = .ok names := by
  induction fuel generalizing t with
  | zero => exact ⟨[], rfl⟩
  | succ fuel ih =>
    obtain rfl | h := h
    · exact ⟨[], rfl⟩
    rw [patternNames, h.fits.isTruthy]
    simp only [Bool.not_true, Bool.false_eq_true, if_false]
    split
    · rename_i hkind
      obtain ⟨name, -, -, hname⟩ := h.fits.exists_name hkind
      exact Outcome.exists_bind_eq_ok ⟨name, hname⟩ fun _ => ⟨_, rfl⟩
    · rename_i hkind
      refine Outcome.exists_bind_eq_ok (Outcome.exists_mapM_eq_ok fun part hpart => ?_)
        fun _ => ⟨_, rfl⟩
      obtain ⟨-, hwell⟩ := h.item (slot_mem hkind rfl) hpart
      have hnull := ne_null_of_isNode hwell.fits.isNode
      by_cases hproperty : part.isKind "Property" = true
      · obtain ⟨value, hvalue, -, hinside⟩ :=
          hwell.one "value" (slot_mem (beq_iff_eq.mp hproperty) rfl)
        simp only [hproperty, hvalue, Option.getD_some, if_true]
        exact ih (.inr hinside)
      · simp only [hproperty]
        exact ih (.inr hwell)
    · rename_i hkind
      refine Outcome.exists_bind_eq_ok (Outcome.exists_mapM_eq_ok fun part hpart => ?_)
        fun _ => ⟨_, rfl⟩
      exact ih ((h.sparseItem (slot_mem hkind rfl) hpart).imp_right And.right)
    · rename_i hkind
      obtain ⟨left, hleft, -, hwell⟩ := h.one "left" (slot_mem hkind rfl)
      rw [hleft]
      exact ih (.inr hwell)
    · rename_i hkind
      obtain ⟨argument, hargument, -, hwell⟩ := h.one "argument" (slot_mem hkind rfl)
      rw [hargument]
      exact ih (.inr hwell)
    · exact ⟨[], rfl⟩

/-- The names of the parameters of a function can be read. -/
theorem exists_namesOfAll {t : Tree} (h : WellFormed t) {field : String} {kinds : List String}
    (hslot : (field, Slot.many kinds) ∈ slotsOf t.kind) :
    ∃ names, namesOfAll (t.items field) = .ok names := by
  refine Outcome.exists_bind_eq_ok (Outcome.exists_mapM_eq_ok fun part hpart => ?_)
    fun _ => ⟨_, rfl⟩
  exact exists_patternNames _ (.inr (h.item hslot hpart).2)

theorem exists_namesIn {t : Tree} {field : String}
    (h : ∀ part, t.get? field = some part → part = .null ∨ WellFormed part) :
    ∃ names, namesIn t field = .ok names := by
  unfold namesIn
  cases hpart : t.get? field with
  | none => exact ⟨[], rfl⟩
  | some part => exact exists_patternNames _ (h part hpart)

theorem exists_declaratorNames {t : Tree} (h : WellFormed t)
    (hkind : t.kind = "VariableDeclaration") : ∃ names, declaratorNames t = .ok names := by
  refine Outcome.exists_bind_eq_ok (Outcome.exists_mapM_eq_ok fun declarator hmem => ?_)
    fun _ => ⟨_, rfl⟩
  obtain ⟨hdeclarator, hwell⟩ := h.item (slot_mem hkind rfl) hmem
  obtain ⟨id, hvalue, -, hinside⟩ :=
    hwell.one "id" (slot_mem (kind_eq_of_isOfKinds hdeclarator) rfl)
  refine exists_namesIn fun part hpart => .inr ?_
  rw [hvalue] at hpart
  exact Option.some.inj hpart ▸ hinside

/-- The name in a field that may hold an identifier can be read. -/
theorem exists_nameOf_part {t id : Tree} (h : WellFormed t) {field : String}
    (hslot : (field, Slot.optional ["Identifier"]) ∈ slotsOf t.kind)
    (hid : part? t field = some id) : ∃ name, nameOf id = .ok name := by
  obtain ⟨hkind, hwell⟩ := h.optional hslot hid
  obtain ⟨name, -, -, hname⟩ := hwell.fits.exists_name (kind_eq_of_isOfKinds hkind)
  exact ⟨name, hname⟩

theorem exists_localName {spec : Tree} (h : WellFormed spec)
    (hslot : ("local", Slot.one ["Identifier"]) ∈ slotsOf spec.kind) :
    ∃ name, localName spec = .ok name := by
  obtain ⟨target, hvalue, hkind, hwell⟩ := h.one "local" hslot
  obtain ⟨name, -, -, hname⟩ := hwell.fits.exists_name (kind_eq_of_isOfKinds hkind)
  exact ⟨name, by rw [localName, hvalue]; exact hname⟩

/-- The local names of an import can be read. -/
theorem exists_localNames {t : Tree} (h : WellFormed t) (hkind : t.kind = "ImportDeclaration") :
    ∀ spec ∈ t.items "specifiers", ∃ name, localName spec = .ok name := by
  intro spec hspec
  obtain ⟨hspecKind, hwell⟩ := h.item (slot_mem hkind rfl) hspec
  have htable : ∀ kind ∈ ["ImportSpecifier", "ImportDefaultSpecifier",
      "ImportNamespaceSpecifier"], ("local", Slot.one ["Identifier"]) ∈ slotsOf kind := by
    decide
  exact exists_localName hwell (htable _ (kind_of_isOfKinds hspecKind))

theorem exists_exportedNames {t : Tree} (h : WellFormed t)
    (hkind : t.kind ∈ ["VariableDeclaration", "FunctionDeclaration", "ClassDeclaration"]) :
    ∃ names, exportedNames t = .ok names := by
  unfold exportedNames
  by_cases hvar : t.isKind "VariableDeclaration" = true
  · rw [if_pos hvar]
    exact exists_declaratorNames h (beq_iff_eq.mp hvar)
  · rw [if_neg hvar]
    have hslot : ("id", Slot.optional ["Identifier"]) ∈ slotsOf t.kind := by
      simp only [List.mem_cons, List.not_mem_nil, or_false] at hkind
      rcases hkind with hkind | hkind | hkind
      · exact absurd (beq_iff_eq.mpr hkind) hvar
      · exact slot_mem hkind rfl
      · exact slot_mem hkind rfl
    cases hid : part? t "id" with
    | none => exact ⟨[], rfl⟩
    | some id => exact Outcome.exists_bind_eq_ok (exists_nameOf_part h hslot hid) fun _ => ⟨_, rfl⟩

theorem exists_specifierNames {t : Tree} (h : WellFormed t)
    (hkind : t.kind = "ExportNamedDeclaration") : ∃ names, specifierNames t = .ok names := by
  refine Outcome.exists_bind_eq_ok (Outcome.exists_mapM_eq_ok fun spec hspec => ?_)
    fun _ => ⟨_, rfl⟩
  obtain ⟨hspecKind, hwell⟩ := h.item (slot_mem hkind rfl) hspec
  obtain ⟨target, hvalue, htarget, hinside⟩ :=
    hwell.one "local" (slot_mem (kind_eq_of_isOfKinds hspecKind) rfl)
  obtain ⟨name, -, -, hname⟩ := hinside.fits.exists_name (kind_eq_of_isOfKinds htarget)
  cases hpart : part? spec "local" with
  | none => exact ⟨[], rfl⟩
  | some other =>
    have hother : spec.get? "local" = some other := (Option.filter_eq_some_iff.mp hpart).1
    rw [hvalue] at hother
    obtain rfl := Option.some.inj hother
    simp only [Tree.isKind, kind_eq_of_isOfKinds htarget, beq_self_eq_true, if_true]
    exact Outcome.exists_bind_eq_ok ⟨name, hname⟩ fun _ => ⟨_, rfl⟩

/-! ## What is added to the bindings -/

/-- The scope in which a name of a form is declared, for a node in a chain, with the chain inside
the node. -/
def homeOf (outside inner : Chain) : Form → Option Frame
  | .function => outside.hoist
  | .variable => inner.hoist
  | _ => inner.head?

/-- The entries for names in the scopes where they are declared. -/
def entriesOf (outside inner : Chain) (names : List (Form × Text)) : List (Nat × Text) :=
  names.filterMap fun d => (homeOf outside inner d.1).map fun frame => (frame.id, d.2)

theorem entriesOf_append (outside inner : Chain) (names others : List (Form × Text)) :
    entriesOf outside inner (names ++ others)
      = entriesOf outside inner names ++ entriesOf outside inner others :=
  List.filterMap_append

theorem entriesOf_map {outside inner : Chain} {form : Form} {frame : Frame}
    (h : homeOf outside inner form = some frame) (names : List Text) :
    entriesOf outside inner (names.map (form, ·)) = names.map (frame.id, ·) := by
  induction names with
  | nil => rfl
  | cons name rest ih => simp_all [entriesOf]

/-- Bindings with more names in them. -/
structure Adds (declared : List (Nat × Text)) (pinned : List Text) (b b' : Bindings) : Prop where
  scopes : b'.scopes = b.scopes
  mem_declared : ∀ d, d ∈ b'.declared ↔ d ∈ b.declared ∨ d ∈ declared
  mem_pinned : ∀ name, name ∈ b'.pinned ↔ name ∈ b.pinned ∨ name ∈ pinned

namespace Adds

variable {declared declared' : List (Nat × Text)} {pinned pinned' : List Text}
  {b b' b'' : Bindings}

theorem refl (b : Bindings) : Adds [] [] b b :=
  ⟨rfl, by simp, by simp⟩

theorem declare (b : Bindings) (frame : Frame) (names : List Text) :
    Adds (names.map (frame.id, ·)) [] b (b.declare frame names) :=
  ⟨rfl, by simp [Bindings.declare, or_comm], by simp [Bindings.declare]⟩

theorem pin (b : Bindings) (names : List Text) : Adds [] names b (b.pin names) :=
  ⟨rfl, by simp [Bindings.pin], by simp [Bindings.pin, or_comm]⟩

theorem trans (h : Adds declared pinned b b') (h' : Adds declared' pinned' b' b'') :
    Adds (declared ++ declared') (pinned ++ pinned') b b'' where
  scopes := h'.scopes.trans h.scopes
  mem_declared d := by rw [h'.mem_declared, h.mem_declared, List.mem_append, or_assoc]
  mem_pinned name := by rw [h'.mem_pinned, h.mem_pinned, List.mem_append, or_assoc]

end Adds

variable {outside inner : Chain} {b : Bindings} {t : Tree}

theorem exists_hoist {chain : Chain} (h : chain ≠ []) : ∃ frame, chain.hoist = some frame := by
  induction chain with
  | nil => exact absurd rfl h
  | cons frame outer ih =>
    cases outer with
    | nil => exact ⟨frame, rfl⟩
    | cons next rest =>
      rw [Chain.hoist]
      split
      · exact ⟨frame, rfl⟩
      · exact ih (List.cons_ne_nil _ _)
      · simp

/-- The names of the specifiers of an import, one after the other. -/
theorem exists_foldlM_specifiers {frame : Frame} {outer : Chain} {specs : List Tree}
    (h : ∀ spec ∈ specs, ∃ name, localName spec = .ok name) (b : Bindings) :
    ∃ names b', specs.mapM localName = .ok names ∧
      specs.foldlM (fun b spec => do
        if (frame :: outer).isEmpty then throw (Fault.nothingThere "names")
        let name ← localName spec
        return (← declareIn (frame :: outer).head? [name] b).pin [name]) b = .ok b' ∧
      Adds (names.map (frame.id, ·)) names b b' := by
  induction specs generalizing b with
  | nil => exact ⟨[], b, rfl, rfl, .refl b⟩
  | cons spec rest ih =>
    obtain ⟨name, hname⟩ := h spec List.mem_cons_self
    obtain ⟨names, b', hnames, hrest, hadds⟩ :=
      ih (fun other hother => h other (List.mem_cons_of_mem _ hother))
        ((b.declare frame [name]).pin [name])
    refine ⟨name :: names, b', ?_, ?_, ?_⟩
    · rw [List.mapM_cons, hname]
      exact Outcome.bind_eq_ok.mpr ⟨name, rfl, Outcome.bind_eq_ok.mpr ⟨names, hnames, rfl⟩⟩
    · rw [List.foldlM_cons, hname]
      exact hrest
    · exact ((Adds.declare b frame [name]).trans (.pin _ [name])).trans hadds

variable {outside inner : Chain} {t : Tree} {frame : Frame} {outer : Chain}

/-- Names of one form, declared in the scope of the node. -/
theorem adds_of_form {form : Form} (h : homeOf outside inner form = some frame)
    (names : List Text) (b : Bindings) :
    Adds (entriesOf outside inner (names.map (form, ·))) [] b (b.declare frame names) := by
  rw [entriesOf_map h]
  exact .declare b frame names

theorem ownNames_of_none (h : part? t "id" = none) : ownNames t = [] := by
  rw [ownNames, h]

theorem ownNames_of_some {id : Tree} {name : Text} (h : part? t "id" = some id)
    (hname : nameOf id = .ok name) : ownNames t = [name] := by
  simp only [ownNames, h, hname]
  rfl

theorem namesOrNone_ok (names : List Text) : namesOrNone (.ok names) = names :=
  rfl

/-- The name of a node that may have one, declared in the scope of the node. -/
theorem exists_declareOwn (h : WellFormed t)
    (hslot : ("id", Slot.optional ["Identifier"]) ∈ slotsOf t.kind) {form : Form}
    (hform : homeOf outside (frame :: outer) form = some frame) (b : Bindings) :
    ∃ b', (match part? t "id" with
        | some id => do declareIn (frame :: outer).head? [← nameOf id] b
        | none => return b) = .ok b' ∧
      Adds (entriesOf outside (frame :: outer) ((ownNames t).map (form, ·))) [] b b' := by
  cases hid : part? t "id" with
  | none =>
    rw [ownNames_of_none hid]
    exact ⟨b, rfl, .refl b⟩
  | some id =>
    obtain ⟨name, hname⟩ := exists_nameOf_part h hslot hid
    rw [ownNames_of_some hid hname]
    exact ⟨b.declare frame [name], by simp only [hname]; rfl, adds_of_form hform [name] b⟩

/-- The names of the parameters of a function, declared in its scope. -/
theorem exists_declareParams (h : WellFormed t)
    (hslot : ("params", Slot.many patternKinds) ∈ slotsOf t.kind) (b : Bindings) :
    ∃ b', (do declareIn (frame :: outer).head? (← namesOfAll (t.items "params")) b) = .ok b' ∧
      Adds (entriesOf outside (frame :: outer)
        ((namesOrNone (namesOfAll (t.items "params"))).map (.parameter, ·))) [] b b' := by
  obtain ⟨names, hnames⟩ := exists_namesOfAll h hslot
  rw [hnames]
  exact ⟨b.declare frame names, rfl, adds_of_form rfl names b⟩

/-- The names of variables, declared in the scope to which they belong. -/
theorem exists_declareVariables (h : WellFormed t) (hkind : t.kind = "VariableDeclaration")
    (b : Bindings) :
    ∃ b', (if (t.items "declarations").isEmpty then Except.ok b
        else do
          declareIn (if isVar t then Chain.hoist (frame :: outer) else (frame :: outer).head?)
            (← declaratorNames t) b) = .ok b' ∧
      Adds (entriesOf outside (frame :: outer)
        ((namesOrNone (declaratorNames t)).map (if isVar t then .variable else .lexical, ·)))
        [] b b' := by
  obtain ⟨names, hnames⟩ := exists_declaratorNames h hkind
  obtain ⟨home, hhome⟩ := exists_hoist (List.cons_ne_nil frame outer)
  have hvariable : homeOf outside (frame :: outer) .variable = some home := hhome
  rw [hnames, namesOrNone_ok]
  split
  · rename_i hempty
    rw [declaratorNames, List.isEmpty_iff.mp hempty] at hnames
    obtain rfl : [] = names := Except.ok.inj hnames
    exact ⟨b, rfl, .refl b⟩
  · by_cases hvar : isVar t = true
    · simp only [hvar, if_true, hhome]
      exact ⟨b.declare home names, rfl, adds_of_form hvariable names b⟩
    · simp only [hvar, Bool.false_eq_true, if_false]
      exact ⟨b.declare frame names, rfl, adds_of_form rfl names b⟩

/-- The names of an import. -/
theorem exists_declareImports (h : WellFormed t) (hkind : t.kind = "ImportDeclaration")
    (b : Bindings) :
    ∃ b', importNames (frame :: outer) t b = .ok b' ∧
      Adds (entriesOf outside (frame :: outer) ((importedNames t).map (.imported, ·)))
        (importedNames t) b b' := by
  obtain ⟨names, b', hnames, hfold, hadds⟩ := exists_foldlM_specifiers (exists_localNames h hkind) b
  rw [importedNames, hnames, namesOrNone_ok, entriesOf_map rfl]
  exact ⟨b', hfold, hadds⟩

/-- The parameter of a handler, which may have none. -/
theorem exists_caughtNames (h : WellFormed t) (hkind : t.kind = "CatchClause") :
    ∃ names, namesIn t "param" = .ok names := by
  refine exists_namesIn fun part hpart => ?_
  have hchild : ((Text.ofString "param", 0), part) ∈ child t "param" := mem_child.mpr ⟨rfl, hpart⟩
  exact (h.fits.of_child_optional (slot_mem hkind rfl) hchild).imp_right fun hc => h.inside hc.2

/-- What a node itself declares and pins first. -/
theorem exists_declarations (outside : Chain) (hinner : inner ≠ []) (h : WellFormed t) (b : Bindings) :
    ∃ b', declarations inner t b = .ok b' ∧
      Adds (entriesOf outside inner (declaredInside t)) (pinnedInside t) b b' := by
  obtain ⟨frame, outer, rfl⟩ := List.exists_cons_of_ne_nil hinner
  unfold declarations
  split
  · rename_i hkind
    simp only [declaredInside, pinnedInside, hkind]
    exact exists_declareParams h (slot_mem hkind rfl) b
  · rename_i hkind
    simp only [declaredInside, pinnedInside, hkind]
    exact exists_declareParams h (slot_mem hkind rfl) b
  · rename_i hkind
    simp only [declaredInside, pinnedInside, hkind, entriesOf_append]
    obtain ⟨b₁, hparams, hadds₁⟩ := exists_declareParams h (slot_mem hkind rfl) b
    have hform : homeOf outside (frame :: outer) .ownName = some frame := rfl
    obtain ⟨b₂, hown, hadds₂⟩ := exists_declareOwn h (slot_mem hkind rfl) hform b₁
    obtain ⟨names, hnames, hdeclared⟩ := Outcome.bind_eq_ok.mp hparams
    refine ⟨b₂, ?_, hadds₁.trans hadds₂⟩
    exact Outcome.bind_eq_ok.mpr ⟨names, hnames, Outcome.bind_eq_ok.mpr ⟨b₁, hdeclared, hown⟩⟩
  · rename_i hkind
    simp only [declaredInside, pinnedInside, hkind]
    obtain ⟨b', hvariables, hadds⟩ := exists_declareVariables h hkind b
    refine ⟨b', ?_, hadds⟩
    simp only [List.isEmpty_cons, Bool.and_false, Bool.false_eq_true, if_false]
    exact hvariables
  · rename_i hkind
    simp only [declaredInside, pinnedInside, hkind]
    exact exists_declareOwn h (slot_mem hkind rfl) rfl b
  · rename_i hkind
    simp only [declaredInside, pinnedInside, hkind]
    exact exists_declareOwn h (slot_mem hkind rfl) rfl b
  · rename_i hkind
    obtain ⟨names, hnames⟩ := exists_caughtNames h hkind
    simp only [declaredInside, pinnedInside, hkind, hnames, namesOrNone_ok]
    exact ⟨b.declare frame names, rfl, adds_of_form rfl names b⟩
  · rename_i hkind
    simp only [declaredInside, pinnedInside, hkind]
    exact exists_declareImports h hkind b
  · rename_i hkind
    simp only [declaredInside, pinnedInside, hkind]
    cases hdeclaration : part? t "declaration" with
    | none => exact ⟨b, rfl, .refl b⟩
    | some declaration =>
      obtain ⟨hdeclared, hwell⟩ := h.optional (slot_mem hkind rfl) hdeclaration
      obtain ⟨names, hnames⟩ := exists_exportedNames hwell (kind_of_isOfKinds hdeclared)
      simp only [hnames, namesOrNone_ok]
      exact ⟨b.pin names, rfl, .pin b names⟩
  · have hinside : declaredInside t = [] := by
      unfold declaredInside
      split <;> first | rfl | contradiction
    have hpinned : pinnedInside t = [] := by
      unfold pinnedInside
      split <;> first | rfl | contradiction
    rw [hinside, hpinned]
    exact ⟨b, rfl, .refl b⟩

/-- The name of a function that is declared. -/
theorem exists_declareName {chain : Chain} (hchain : chain ≠ []) (h : WellFormed t)
    (b : Bindings) :
    ∃ b', declareName chain t b = .ok b' ∧
      Adds (entriesOf chain inner (declaredOutside t)) [] b b' := by
  unfold declareName declaredOutside
  split
  · rename_i hkind
    obtain ⟨home, hhome⟩ := exists_hoist hchain
    cases hid : part? t "id" with
    | none =>
      rw [ownNames_of_none hid]
      exact ⟨b, rfl, .refl b⟩
    | some id =>
      obtain ⟨name, hname⟩ := exists_nameOf_part h (slot_mem (beq_iff_eq.mp hkind) rfl) hid
      rw [ownNames_of_some hid hname]
      have hform : homeOf chain inner .function = some home := hhome
      exact ⟨b.declare home [name], by simp only [hhome, hname]; rfl, adds_of_form hform [name] b⟩
  · exact ⟨b, rfl, .refl b⟩

/-- The names of the specifiers of an export. -/
theorem exists_pinSpecifiers (h : WellFormed t) (b : Bindings) :
    ∃ b', pinSpecifiers t b = .ok b' ∧ Adds [] (pinnedLast t) b b' := by
  unfold pinSpecifiers pinnedLast
  split
  · rename_i hkind
    obtain ⟨names, hnames⟩ := exists_specifierNames h (beq_iff_eq.mp hkind)
    rw [hnames]
    exact ⟨b.pin names, rfl, .pin b names⟩
  · exact ⟨b, rfl, .refl b⟩

end VeiledGateway.Script
