/-
  Why a name is edited.

  Visiting edits names and strings.  A name that it edits belongs to a scope of its script alone:
  in the innermost scope around it in which it is declared, other scripts cannot see it, and no import
  or export ties it to another module.  What only names a property, a label or a name of another module
  is no name in this sense, and neither is anything in a specifier.
-/
import VeiledGateway.Proofs.Script.Agreeing
import VeiledGateway.Proofs.Script.Renaming

set_option autoImplicit false

namespace VeiledGateway.Script

/-! ## Names that other modules know -/

/-- A specifier of an import binds a name. -/
def Imports (t : Tree) (name : Text) : Prop :=
  ∃ q ∈ places t,
    q.node.kind ∈ ["ImportSpecifier", "ImportDefaultSpecifier", "ImportNamespaceSpecifier"] ∧
      NamesLocally q.node name

/-- The forms in which a statement declares names around itself. -/
def outwardForms : List Form :=
  [.function, .variable, .lexical]

/-- A declaration that stands in an export. -/
def Place.isExported (r : Place) : Bool :=
  r.outer.head?.any fun o => o.node.isKind "ExportNamedDeclaration"

/-- A specifier of an export names a name of the script, or an exported declaration declares it,
however deep it stands in a pattern. -/
def Exports (t : Tree) (name : Text) : Prop :=
  (∃ q ∈ places t, q.node.kind = "ExportSpecifier" ∧ NamesLocally q.node name) ∨
    ∃ q ∈ places t, q.node.kind = "Identifier" ∧ q.node.name? = some name ∧
      ∃ r form, declarationOf q.outer = some (r, form) ∧ form ∈ outwardForms ∧ r.isExported = true

variable {t : Tree} {b : Bindings} {isModule : Bool} {p q r : Place} {name : Text}

/-- What a node pins is pinned in the whole script, wherever the node stands. -/
theorem mem_pinned_of_mem (h : IsProgram t) (hb : Describes isModule t b) (hq : q ∈ places t)
    (hloud : q.node.kind ∉ quietKinds) (hname : name ∈ pinnedBy q.node) : name ∈ b.pinned := by
  have hgathered := (gathered_or_quiet (p := .root t) h.wellFormed hq).resolve_right hloud
  exact (hb.mem_pinned name).mpr ⟨q, hgathered, hname⟩

theorem wellFormed_of_place (h : IsProgram t) (hq : q ∈ places t) : WellFormed q.node :=
  wellFormed_of_mem (p := .root t) (fun _ _ _ hc => hc) h.wellFormed hq

/-- A specifier stands in the list of an import or an export. -/
theorem exists_import_or_export (h : IsProgram t) (hq : q ∈ places t)
    (hkind : q.node.kind ∈ specifierKinds) :
    ∃ s ∈ places t, (s.node.kind = "ImportDeclaration" ∨ s.node.kind = "ExportNamedDeclaration") ∧
      q.node ∈ s.node.items "specifiers" := by
  obtain rfl | ⟨s, hs, c, hc, rfl⟩ := parent_of_mem hq
  · have hprogram : (Place.root t).node.kind = "Program" := h.kind
    rw [hprogram] at hkind
    exact absurd hkind (by decide)
  · obtain ⟨slot, hslot, hkinds, hstands⟩ :=
      (wellFormed_of_place h hs).fits.mem_children_iff.mp hc
    obtain ⟨hparent, hfield⟩ := slot_of_specifier hslot (kind_of_isOfKinds hkinds) hkind
    have hlists : ∀ kind ∈ ["ImportDeclaration", "ExportNamedDeclaration"], ∀ slot ∈ slotsOf kind,
        slot.1 = "specifiers" → slot.2.isList = true := by
      decide
    rw [slotChildren, if_pos (hlists _ hparent slot hslot hfield), hfield] at hstands
    refine ⟨s, hs, ?_, mem_items_of_listed hstands⟩
    simpa using hparent

/-- The local name of every specifier is pinned. -/
theorem mem_pinned_of_specifier (h : IsProgram t) (hb : Describes isModule t b) (hq : q ∈ places t)
    (hkind : q.node.kind ∈ specifierKinds) (hname : NamesLocally q.node name) : name ∈ b.pinned := by
  obtain ⟨s, hs, hparent, hitem⟩ := exists_import_or_export h hq hkind
  have hwell := wellFormed_of_place h hs
  obtain himport | hexport := hparent
  · exact mem_pinned_of_mem h hb hs (by rw [himport]; decide)
      (mem_pinnedBy_of_import hwell himport hitem hname)
  · exact mem_pinned_of_mem h hb hs (by rw [hexport]; decide)
      (mem_pinnedBy_of_export hwell hexport hitem hname)

/-- A function or a class is exported by its own name. -/
theorem exportedNames_of_own (hvariable : t.isKind "VariableDeclaration" = false) :
    namesOrNone (exportedNames t) = ownNames t := by
  unfold exportedNames ownNames
  rw [hvariable]
  cases part? t "id" with
  | none => rfl
  | some id =>
    simp only [Bool.false_eq_true, if_false]
    cases nameOf id <;> rfl

/-- What an exported statement declares is what it is exported by. -/
theorem mem_exportedNames {form : Form} (hform : form ∈ outwardForms)
    (hd : (form, name) ∈ declaredBy t) : name ∈ namesOrNone (exportedNames t) := by
  have hkind := kind_of_declared hd
  have hkinds : ∀ form ∈ outwardForms, ∀ kind ∈ form.kinds,
      kind = "FunctionDeclaration" ∨ kind = "ClassDeclaration" ∨ kind = "VariableDeclaration" := by
    decide
  obtain hkind | hkind | hkind := hkinds form hform _ hkind
  · rw [exportedNames_of_own (by simp [Tree.isKind, hkind])]
    simp only [declaredBy, declaredOutside, declaredInside, hkind, beq_self_eq_true, if_true,
      List.mem_append, List.mem_map, Prod.mk.injEq] at hd
    obtain ⟨_, hown, -, rfl⟩ | ⟨_, -, rfl, -⟩ := hd
    · exact hown
    · exact absurd hform (by decide)
  · rw [exportedNames_of_own (by simp [Tree.isKind, hkind])]
    simp only [declaredBy, declaredOutside, declaredInside, hkind, List.mem_append,
      List.mem_map, Prod.mk.injEq] at hd
    obtain hnone | ⟨_, hown, -, rfl⟩ := hd
    · simp at hnone
    · exact hown
  · rw [exportedNames, if_pos (by simp [Tree.isKind, hkind])]
    simp only [declaredBy, declaredOutside, declaredInside, hkind, List.mem_append,
      List.mem_map, Prod.mk.injEq] at hd
    obtain hnone | ⟨_, hdeclared, -, rfl⟩ := hd
    · simp at hnone
    · exact hdeclared

/-- A statement that declares names stands in an export as its declaration. -/
theorem part_of_exported (h : IsProgram t) (hr : r ∈ places t) (hexported : r.isExported = true)
    (hkind : r.node.kind ∉ ["ExportSpecifier", "Literal"]) :
    ∃ s ∈ places t, s.node.kind = "ExportNamedDeclaration" ∧
      part? s.node "declaration" = some r.node := by
  obtain rfl | ⟨s, hs, c, hc, rfl⟩ := parent_of_mem hr
  · cases hexported
  · have hwell := wellFormed_of_place h hs
    have hexport : s.node.kind = "ExportNamedDeclaration" := by
      simpa [Place.isExported, Place.inside, Tree.isKind] using hexported
    refine ⟨s, hs, hexport, ?_⟩
    obtain hdeclaration | hspecifier | hsource := inSlot_of_three hwell.fits hc hexport rfl
    · have hvalue : s.node.get? "declaration" = some c.2 := (mem_child.mp hdeclaration.2).2
      rw [part?, hvalue]
      exact Option.filter_eq_some_iff.mpr ⟨rfl, (hwell.inside hc).fits.isTruthy⟩
    · have hspec : c.2.kind = "ExportSpecifier" := kind_eq_of_isOfKinds hspecifier.1
      exact absurd (by simp [Place.inside, hspec]) hkind
    · have hliteral : c.2.kind = "Literal" := kind_eq_of_isOfKinds hsource.1
      exact absurd (by simp [Place.inside, hliteral]) hkind

/-- What imports and exports tie to other modules is pinned. -/
theorem mem_pinned_of_imports (h : IsProgram t) (hb : Describes isModule t b)
    (himports : Imports t name) : name ∈ b.pinned := by
  obtain ⟨q, hq, hkind, hname⟩ := himports
  have hkinds : ∀ kind ∈ ["ImportSpecifier", "ImportDefaultSpecifier", "ImportNamespaceSpecifier"],
      kind ∈ specifierKinds := by
    decide
  exact mem_pinned_of_specifier h hb hq (hkinds _ hkind) hname

theorem mem_pinned_of_exports (h : IsProgram t) (hb : Describes isModule t b)
    (hexports : Exports t name) : name ∈ b.pinned := by
  obtain ⟨q, hq, hkind, hname⟩ | ⟨q, hq, hkind, htext, r, form, hdeclaration, hform, hexported⟩ :=
    hexports
  · exact mem_pinned_of_specifier h hb hq (by rw [hkind]; decide) hname
  · have hbinds : PartBinds name q.node := by
      rw [PartBinds, if_neg (by simp [Tree.isKind, hkind])]
      exact bindsName_identifier (wellFormed_of_place h hq) hkind htext
    obtain ⟨hr, hd⟩ := declared_of_declarationOf h hq hbinds hdeclaration
    have hkinds : ∀ form ∈ outwardForms, ∀ kind ∈ form.kinds,
        kind ∉ ["ExportSpecifier", "Literal"] := by
      decide
    obtain ⟨s, hs, hexport, hpart⟩ :=
      part_of_exported h hr hexported (hkinds form hform _ (kind_of_declared hd))
    refine mem_pinned_of_mem h hb hs (by rw [hexport]; decide) ?_
    have hpinned : pinnedInside s.node = namesOrNone (exportedNames r.node) := by
      simp only [pinnedInside, hexport, hpart]
    rw [pinnedBy, hpinned]
    exact List.mem_append_left _ (mem_exportedNames hform hd)

/-! ## Scopes that other scripts see -/

/-- Only the outermost scope of a classic script is shared. -/
theorem isShared_frameAt (h : IsProgram t) (hb : Describes isModule t b) (hq : q ∈ places t)
    {frame : Frame} (hscope : isScopeKind q.node.kind = true) (hframe : b.frameAt q.path = some frame) :
    frame.isShared = (q.node.kind == "Program" && !isModule) := by
  obtain ⟨id, hchain⟩ := hb.opened q (gathered_of_scope h hq hscope) hscope
  rw [Bindings.frameAt, hchain, Option.bind_some, openScope] at hframe
  split at hframe
  · rename_i hprogram
    obtain rfl := Option.some.inj hframe
    rw [hprogram, Bool.true_and]
  · rename_i hother
    obtain rfl := Option.some.inj hframe
    rw [Bool.eq_false_iff.mpr hother, Bool.false_and]

/-- The innermost scope around a name in which it is declared is one that other scripts do not see. -/
def Place.IsOwn (isModule : Bool) (t : Tree) (p : Place) (name : Text) : Prop :=
  ∃ near o far, p.outer = near ++ o :: far ∧ (∀ c ∈ near, ¬ c.Records t name) ∧
    o.Records t name ∧ (isModule = true ∨ o.node.kind ≠ "Program")

theorem isOwn_of_resolve (h : IsProgram t) (hb : Describes isModule t b) (hp : p ∈ places t)
    {frame : Frame} (hresolve : b.resolve (b.standing p.outer) name = some frame)
    (hshared : frame.isShared = false) : p.IsOwn isModule t name := by
  rw [resolve_eq h hb hp] at hresolve
  obtain ⟨o, hfind, hframe⟩ := Option.bind_eq_some_iff.mp hresolve
  obtain ⟨hrecords, near, far, houter, hnear⟩ := List.find?_eq_some_iff_append.mp hfind
  have hrecords := of_decide_eq_true hrecords
  refine ⟨near, o, far, houter, fun c hc => by simpa using hnear c hc, hrecords, ?_⟩
  obtain ⟨-, r, hr, d, -, -, hpath⟩ := hrecords
  obtain ⟨q, hq, hsame, hscope⟩ := exists_place_of_recordedIn hr hpath
  have ho : o ∈ p.outer := houter ▸ List.mem_append_right _ List.mem_cons_self
  rw [← hsame] at hframe
  rw [isShared_frameAt h hb hq hscope hframe, node_eq_of_path h hp ho hq hsame] at hshared
  cases isModule with
  | true => exact .inl rfl
  | false =>
    refine .inr fun hprogram => ?_
    rw [hprogram] at hshared
    cases hshared

/-! ## Names that are edited -/

/-- A place that is no key, no label and no name of a property or of a part of the language, and that is
not in a specifier. -/
structure Place.IsOpen (p : Place) : Prop where
  notMere : p.outer.head?.any Outer.isMere = false
  unspecified : ∀ o ∈ p.outer, o.node.kind ∉ specifierKinds

/-- Visiting comes only to such places. -/
theorem isOpen_of_visited {levels : Nat} (h : WellFormed p.node) (hp : p.IsOpen)
    (hkind : p.node.kind ∉ specifierKinds) (hq : q ∈ placesFrom visitedKids levels p) : q.IsOpen := by
  induction levels generalizing p with
  | zero => cases hq
  | succ levels ih =>
    obtain rfl | ⟨c, hc, hq⟩ := mem_placesFrom_succ.mp hq
    · exact hp
    · refine ih (h.inside (mem_children_of_visitedKids h.fits hc)) ⟨?_, ?_⟩
        (kind_of_visited h.fits hc) hq
      · exact isMere_of_visited hc hkind
      · exact List.forall_mem_cons.mpr ⟨hkind, hp.unspecified⟩

/-- There is every reason to rename a name at a place: it refers to what a scope of the script alone
declares, or binds it, and nobody else knows it. -/
structure Justified (isModule : Bool) (settings : Settings) (t : Tree) (p : Place) (name : Text) :
    Prop where
  isName : p.isName = true
  isOpen : p.IsOpen
  named : p.node.name? = some name
  own : p.IsOwn isModule t name
  unreserved : name ∉ settings.reservedIdentifiers
  unimported : ¬ Imports t name
  unexported : ¬ Exports t name

variable {settings : Settings} {source : Text} {c d : Context} {marks : List Mark} {range : Range}
  {text : Text}

theorem isOpen_of_mem (h : IsProgram t) (hq : q ∈ visitedPlaces t) : q.IsOpen := by
  have hroot : (Place.root t).node.kind = "Program" := h.kind
  refine isOpen_of_visited (p := .root t) h.wellFormed ⟨rfl, fun o ho => ?_⟩ ?_ hq
  · exact absurd ho List.not_mem_nil
  · rw [hroot]
    decide

/-- A name that visiting comes to and takes for one of the script alone is one. -/
theorem justified_of_local (h : IsProgram t) (hb : Describes isModule t b) (hq : q ∈ visitedPlaces t)
    (hkind : q.node.kind = "Identifier") (htext : q.node.name? = some name)
    (hlocal : (viewOf settings source b).isLocal (b.standing q.outer) name = true) :
    Justified isModule settings t q name := by
  obtain ⟨hplace, -, -, hname⟩ := visited_of_mem_visitedPlaces h hq
  obtain ⟨hkept, hresolve⟩ := Bool.and_eq_true_iff.mp hlocal
  obtain ⟨hunpinned, hunreserved⟩ : name ∉ b.pinned ∧ name ∉ settings.reservedIdentifiers := by
    have hkeep := (Bool.and_eq_true_iff.mp hkept).2
    simpa [viewOf] using hkeep
  refine {
    isName := hname hkind
    isOpen := isOpen_of_mem h hq
    named := htext
    own := ?_
    unreserved := hunreserved
    unimported := fun himports => hunpinned (mem_pinned_of_imports h hb himports)
    unexported := fun hexports => hunpinned (mem_pinned_of_exports h hb hexports) }
  cases hframe : b.resolve (b.standing q.outer) name with
  | none => simp [viewOf, hframe] at hresolve
  | some frame =>
    refine isOwn_of_resolve h hb hplace hframe ?_
    simpa [viewOf, hframe] using hresolve

/-- Where an edit of a script comes from: a literal that is no key, or a name that is to be renamed and
has a token. -/
def EditAt (isModule : Bool) (settings : Settings) (t : Tree) (d : Context) (text : Text) (p : Place) :
    Prop :=
  p.node.kind = "Literal" ∧ p.IsOpen ∨ ∃ name tok, Justified isModule settings t p name ∧
    d.identifiers.value? name = some tok ∧ text = p.written name tok

theorem exists_editAt (h : IsProgram t) (hb : Describes isModule t b)
    (hmarks : d.Answers (visit (viewOf settings source b) t.depth [] [] t) marks)
    (hedit : .edit range text ∈ marks) :
    ∃ p ∈ places t, rangeOf p.node = .ok range ∧ EditAt isModule settings t d text p := by
  rw [visit_program h hb] at hmarks
  obtain ⟨q, hq, here, hhere, hmark⟩ := ((Context.mem_of_answers_flatten hmarks).2 _).mp hedit
  obtain ⟨hplace, hwell, -, -⟩ := visited_of_mem_visitedPlaces h hq
  have hrange : ∀ other, rangeOf q.node = .ok other → other = range := fun other hother =>
    (hhere.post (ensures_actAt hwell.fits hother).yields range text hmark).symm
  by_cases hname : q.node.kind = "Identifier"
  · obtain ⟨other, hother⟩ := hwell.fits.exists_range (.inl hname)
    obtain rfl := hrange other hother
    obtain ⟨name, -, htext, -⟩ := hwell.fits.exists_name hname
    have hact := of_answers_actAt hwell.fits hname htext hother hhere
    split at hact
    · rename_i hlocal
      obtain ⟨tok, htok, rfl⟩ := hact
      refine ⟨q, hplace, hother, .inr ⟨name, tok, justified_of_local h hb hq hname htext hlocal, htok, ?_⟩⟩
      have hnew : editIfNew (viewOf settings source b).source other (q.written name tok) = some text := by
        simpa using hmark
      unfold editIfNew at hnew
      split at hnew
      · cases hnew
      · exact (Option.some.inj hnew).symm
    · rw [hact] at hmark
      cases hmark
  by_cases hliteral : q.node.kind = "Literal"
  · obtain ⟨other, hother⟩ := hwell.fits.exists_range (.inr hliteral)
    obtain rfl := hrange other hother
    exact ⟨q, hplace, hother, .inl ⟨hliteral, isOpen_of_mem h hq⟩⟩
  · rw [actAt_of_other hname hliteral] at hhere
    obtain rfl := Context.answers_pure.mp hhere
    cases hmark

/-- The edits of a script are made for a reason. -/
structure SoundEdits (isModule : Bool) (settings : Settings) (t : Tree) (d : Context) (edits : Edits) :
    Prop where
  origin : ∀ range text, (range, text) ∈ edits →
    ∃ p ∈ places t, rangeOf p.node = .ok range ∧ EditAt isModule settings t d text p
  /-- An identifier that is not to be renamed stays, and a literal that is a key, unless something else
  has its range. -/
  kept : ∀ q ∈ places t,
    (q.node.kind = "Identifier" ∧ ∀ name, ¬ Justified isModule settings t q name) ∨
      (q.node.kind = "Literal" ∧ ¬ q.IsOpen) →
    ∀ range, rangeOf q.node = .ok range →
      (∀ p ∈ places t, p.isName = true ∨ p.node.kind = "Literal" → rangeOf p.node = .ok range →
        p = q) → edits.lookup range = none

theorem soundEdits_of_answers (h : IsProgram t) (hb : Describes isModule t b)
    (hmarks : d.Answers (visit (viewOf settings source b) t.depth [] [] t) marks) :
    SoundEdits isModule settings t d (editsIn marks) where
  origin := by
    intro range text hedit
    exact exists_editAt h hb hmarks (mem_edits_iff.mp (Edits.mem_of_mem_ofList hedit))
  kept := by
    intro q hq hnot range _ halone
    refine Edits.lookup_ofList_of_not_mem fun edit hedit => ?_
    rintro rfl
    obtain ⟨p, hp, hrange, hcause⟩ := exists_editAt h hb hmarks (mem_edits_iff.mp hedit)
    obtain ⟨hliteral, hopen⟩ | ⟨name, tok, hjustified, -⟩ := hcause
    · obtain rfl := halone p hp (.inr hliteral) hrange
      obtain ⟨hkind, -⟩ | ⟨-, hclosed⟩ := hnot
      · rw [hkind] at hliteral
        exact absurd hliteral (by decide)
      · exact hclosed hopen
    · obtain rfl := halone p hp (.inl hjustified.isName) hrange
      obtain ⟨-, hnone⟩ | ⟨hliteral, -⟩ := hnot
      · exact hnone name hjustified
      · rw [kind_of_isName hjustified.isName] at hliteral
        exact absurd hliteral (by decide)

/-- Every edit of a script is one of a literal that is no key, or renames a name that refers to or binds
what a scope of the script alone declares, and which is neither reserved nor imported nor exported.  All
other identifiers stay. -/
theorem edits_justified (h : IsProgram t) (settings : Settings) (source : Text) (isModule : Bool)
    (c : Context) :
    ∃ b, bindingsOf isModule t = .ok b ∧
      (∀ marks d notes, c.run (visit (viewOf settings source b) t.depth [] [] t) =
        (.ok marks, d, notes) → SoundEdits isModule settings t d (editsIn marks)) ∧
      ∀ r d notes, c.run (rewriteTree settings source isModule t) = (.ok r, d, notes) →
        ∃ edits, edits.apply source = .ok r.output ∧ SoundEdits isModule settings t d edits := by
  obtain ⟨b, hbindings, hb⟩ := exists_bindingsOf h isModule
  refine ⟨b, hbindings, fun marks d notes hrun => ?_, fun r d notes hrun => ?_⟩
  · exact soundEdits_of_answers h hb (Context.answers_of_run hrun)
  · obtain ⟨marks, hmarks, houtput⟩ := answers_rewriteTree hbindings (Context.answers_of_run hrun)
    exact ⟨editsIn marks, houtput, soundEdits_of_answers h hb hmarks⟩

/-- A statement that is a name. -/
def nameStatement (name : Text) (start stop : Nat) : Tree :=
  Tree.mk "ExpressionStatement" start stop [("expression", some (nameAt name start (start + name.length)))]

/-- The tree of `export var{a:x}=1;{let y;x}`. -/
def exporting : Tree :=
  Tree.mk "Program" 0 27 [("body", some (.list [
    Tree.mk "ExportNamedDeclaration" 0 18 [
      ("declaration", some (Tree.mk "VariableDeclaration" 7 18 [
        ("declarations", some (.list [
          Tree.mk "VariableDeclarator" 10 17 [
            ("id", some (Tree.mk "ObjectPattern" 10 15 [
              ("properties", some (.list [
                Tree.mk "Property" 11 14 [
                  ("key", some (nameAt "a" 11 12)), ("value", some (nameAt "x" 13 14))]]))])),
            ("init", some (Tree.mk "Literal" 16 17 [("value", some (.int 1))]))]])),
        ("kind", some (.text "var"))])),
      ("specifiers", some (.list []))],
    Tree.mk "BlockStatement" 18 27 [("body", some (.list [
      declarationAt "let" "y" 19 23 25, nameStatement "x" 25 26]))]]))]

/-- A session in which some names have tokens. -/
def tokensBefore : Context :=
  .ofMappings "" { Mappings.empty with identifiers := [("a", "p"), ("x", "q"), ("y", "r")] }
    (Twister.ofSeed 0)

/-- Of the names of that module only the one is renamed that is neither a key nor exported. -/
theorem exporting_edits_justified :
    IsProgram exporting ∧
    ∃ r d notes edits, tokensBefore.run
        (rewriteTree .default "export var{a:x}=1;{let y;x}" true exporting) = (.ok r, d, notes) ∧
      r.output = "export var{a:x}=1;{let r;x}" ∧
      edits.apply "export var{a:x}=1;{let y;x}" = .ok r.output ∧
      SoundEdits true .default exporting d edits := by
  have hprogram : IsProgram exporting :=
    ⟨wellFormed_of_fitsWithin (show fitsWithin 9 exporting = true by decide +kernel), by decide +kernel⟩
  obtain ⟨b, -, -, hsound⟩ := edits_justified hprogram .default "export var{a:x}=1;{let y;x}" true
    tokensBefore
  have houtput : (tokensBefore.run
      (rewriteTree .default "export var{a:x}=1;{let y;x}" true exporting)).1.toOption.map Result.output
        = some ("export var{a:x}=1;{let r;x}" : Text) := by
    decide +kernel
  obtain ⟨r, hr, houtput⟩ := Option.map_eq_some_iff.mp houtput
  have hrun : tokensBefore.run (rewriteTree .default "export var{a:x}=1;{let y;x}" true exporting)
      = (.ok r, _, _) := Prod.ext (Outcome.eq_ok_of_toOption hr) rfl
  obtain ⟨edits, happly, hedits⟩ := hsound r _ _ hrun
  exact ⟨hprogram, r, _, _, edits, hrun, houtput, happly, hedits⟩

end VeiledGateway.Script
