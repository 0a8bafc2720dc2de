/-
  Which names of a script are renamed.

  Every name that belongs to a script alone is renamed wherever it stands, with one exception: in what
  names a module that is to be loaded, nothing is.  So a script stays in one piece as long as it does
  not calculate the names of its modules from names of its own.
-/
import VeiledGateway.Proofs.Script.Marking

set_option autoImplicit false

namespace VeiledGateway.Script

/-- The view in which a script is rewritten. -/
def viewOf (settings : Settings) (source : Text) (b : Bindings) : View :=
  { source, settings, bindings := b, keep := b.pinned ++ settings.reservedIdentifiers }

/-- A name that a scope of the script alone declares, and that nothing keeps as it is. -/
def View.Owns (v : View) (chain : Chain) (name : Text) : Prop :=
  (v.bindings.resolve chain name).any (!·.isShared) = true ∧ name ∉ v.keep

instance (v : View) (chain : Chain) (name : Text) : Decidable (v.Owns chain name) :=
  inferInstanceAs (Decidable (_ ∧ _))

theorem View.Owns.isLocal {v : View} {chain : Chain} {name : Text} (h : v.Owns chain name) (hne : name ≠ []) :
    v.isLocal chain name = true := by
  obtain ⟨hdeclared, hkeep⟩ := h
  have hempty : name.isEmpty = false := List.isEmpty_eq_false_iff.mpr hne
  have hkept : v.keep.contains name = false := by simpa using hkeep
  unfold View.isLocal
  rw [hempty, hkept]
  cases hresolve : v.bindings.resolve chain name with
  | none => simp [hresolve] at hdeclared
  | some frame =>
    rw [hresolve] at hdeclared
    exact hdeclared

/-- A name at a place refers to or binds what a scope of the script alone declares, and nothing keeps
it as it is. -/
structure Renamable (settings : Settings) (b : Bindings) (p : Place) (name : Text) : Prop where
  isName : p.isName = true
  named : p.node.name? = some name
  declared : (b.resolve (b.standing p.outer) name).any (!·.isShared) = true
  unpinned : name ∉ b.pinned
  unreserved : name ∉ settings.reservedIdentifiers

variable {settings : Settings} {source : Text} {t : Tree} {b : Bindings} {p : Place} {name : Text}

instance : Decidable (Renamable settings b p name) :=
  decidable_of_iff
    (p.isName = true ∧ p.node.name? = some name ∧
      (b.resolve (b.standing p.outer) name).any (!·.isShared) = true ∧ name ∉ b.pinned ∧
      name ∉ settings.reservedIdentifiers)
    ⟨fun ⟨i, n, d, u, r⟩ => ⟨i, n, d, u, r⟩, fun ⟨i, n, d, u, r⟩ => ⟨i, n, d, u, r⟩⟩

theorem kind_of_isName (h : p.isName = true) : p.node.kind = "Identifier" :=
  beq_iff_eq.mp (Bool.and_eq_true_iff.mp (Bool.and_eq_true_iff.mp h).1).1

theorem Renamable.isLocal (h : Renamable settings b p name) (hfits : Fits p.node) :
    (viewOf settings source b).isLocal (b.standing p.outer) name = true := by
  obtain ⟨other, hne, hother, -⟩ := hfits.exists_name (kind_of_isName h.isName)
  obtain rfl := Option.some.inj (h.named.symm.trans hother)
  have hkept : name ∉ b.pinned ++ settings.reservedIdentifiers :=
    fun hmem => (List.mem_append.mp hmem).elim h.unpinned h.unreserved
  exact View.Owns.isLocal (v := viewOf settings source b) ⟨h.declared, hkept⟩ hne

/-- How the names of a script fare in the edits that are made to it. -/
structure Renamed (settings : Settings) (source : Text) (t : Tree) (b : Bindings) (d : Context)
    (edits : Edits) : Prop where
  /-- Names of the script alone become their tokens, wherever they stand. -/
  renamed : ∀ p ∈ places t, p.inModuleArgument = false → ∀ name range,
    Renamable settings b p name → rangeOf p.node = .ok range →
      ∃ tok, d.identifiers.value? name = some tok ∧
        edits.lookup range = editIfNew source range (p.written name tok)
  /-- All names stay in what names a module that is to be loaded. -/
  kept : ∀ p ∈ places t, p.inModuleArgument = true → ∀ name range,
    Renamable settings b p name → rangeOf p.node = .ok range → edits.lookup range = none

/-! ## Rewriting a script -/

variable {isModule : Bool} {marks : List Mark} {c d : Context}

theorem renamed_of_answers (h : IsProgram t) (hspaced : Spaced t) (hb : Describes isModule t b)
    (hmarks : d.Answers (visit (viewOf settings source b) t.depth [] [] t) marks) :
    Renamed settings source t b d (editsIn marks) where
  renamed := by
    intro p hp houtside name range hname hrange
    have hfits := (wellFormed_of_mem (p := .root t) (fun _ _ _ hc => hc) h.wellFormed hp).fits
    have hvisited := (mem_visitedPlaces_iff h hb hp hname.isName hname.named hname.unpinned).mpr
      houtside
    exact lookup_of_local h hspaced hb hmarks hvisited (kind_of_isName hname.isName) hname.named
      hrange (hname.isLocal hfits)
  kept := by
    intro p hp hinside name range hname hrange
    refine lookup_of_not_local h hspaced hb hmarks hp hname.isName hname.named hrange fun hvisited => ?_
    rw [(mem_visitedPlaces_iff h hb hp hname.isName hname.named hname.unpinned).mp hvisited]
      at hinside
    cases hinside

/-- Only texts of names and literals are replaced to which visiting comes. -/
def OnlyVisited (t : Tree) (marks : List Mark) : Prop :=
  ∀ range text, .edit range text ∈ marks → ∃ q ∈ visitedPlaces t, q.textRange? = some range

theorem OnlyVisited.onlyText (h : IsProgram t) (hmarks : OnlyVisited t marks) : OnlyText t marks := by
  intro range text hmark
  obtain ⟨q, hq, hrange⟩ := hmarks range text hmark
  exact List.mem_filterMap.mpr ⟨q, mem_places_of_visited h.wellFormed hq, hrange⟩

/-- Visiting a script comes to an end. -/
theorem ensures_visit {v : View} (h : IsProgram t) (hb : Describes isModule t v.bindings) :
    (visit v t.depth [] [] t).Ensures (OnlyVisited t) := by
  have heach : ∀ q ∈ visitedPlaces t, (actAt v q).Ensures (OnlyVisited t) := fun q hq =>
    (ensures_actAt_visited h hq).mono fun marks hmarks range text hmark =>
      ⟨q, hq, hmarks range text hmark⟩
  rw [visit_program h hb]
  refine (Rewriting.ensures_mapM heach).map fun lists hlists range text hmark => ?_
  obtain ⟨marks, hmarks, hmark⟩ := List.mem_flatten.mp hmark
  exact hlists marks hmarks range text hmark

/-- The rewriting of a script whose edits can be made does not fail by itself. -/
theorem ensures_rewriteTree_of_apply (h : IsProgram t)
    (happly : ∀ marks, OnlyVisited t marks → ∃ output, (editsIn marks).apply source = .ok output) :
    (rewriteTree settings source isModule t).Ensures fun _ => True := by
  obtain ⟨b, hbindings, hb⟩ := exists_bindingsOf h isModule
  unfold rewriteTree
  refine (Rewriting.ensures_ofExcept (· = b) hbindings rfl).bind ?_
  rintro _ rfl
  refine (ensures_visit (v := viewOf settings source _) h hb).bind fun marks hmarks => ?_
  obtain ⟨output, houtput⟩ := happly marks hmarks
  refine (Rewriting.ensures_noting _).bind fun _ _ => ?_
  exact (Rewriting.ensures_ofExcept (fun _ => True) houtput trivial).bind fun _ _ =>
    Rewriting.ensures_pure trivial

/-- The same where names and literals lie apart. -/
theorem ensures_rewriteTree (h : IsProgram t) (hspaced : Spaced t) :
    (rewriteTree settings source isModule t).Ensures fun _ => True :=
  ensures_rewriteTree_of_apply h fun _ hmarks => exists_apply_editsIn hspaced (hmarks.onlyText h) source

/-- The edits with which a script was rewritten. -/
theorem answers_rewriteTree {r : Result} (hbindings : bindingsOf isModule t = .ok b)
    (h : d.Answers (rewriteTree settings source isModule t) r) :
    ∃ marks, d.Answers (visit (viewOf settings source b) t.depth [] [] t) marks ∧
      (editsIn marks).apply source = .ok r.output := by
  obtain ⟨other, hother, h⟩ := Context.answers_bind.mp h
  obtain rfl := Except.ok.inj ((Context.answers_ofExcept.mp hother).symm.trans hbindings)
  obtain ⟨marks, hmarks, h⟩ := Context.answers_bind.mp h
  obtain ⟨_, -, h⟩ := Context.answers_bind.mp h
  obtain ⟨output, houtput, h⟩ := Context.answers_bind.mp h
  obtain rfl := Context.answers_pure.mp h
  exact ⟨marks, hmarks, Context.answers_ofExcept.mp houtput⟩

/-- The tree of `function f(p){require(p)}`. -/
def requiring : Tree :=
  Tree.mk "Program" 0 25 [("body", some (.list [
    Tree.mk "FunctionDeclaration" 0 25 [
      ("id", some (nameAt "f" 9 10)),
      ("params", some (.list [nameAt "p" 11 12])),
      ("body", some (Tree.mk "BlockStatement" 13 25 [("body", some (.list [
        Tree.mk "ExpressionStatement" 14 24 [("expression", some (
          Tree.mk "CallExpression" 14 24 [
            ("callee", some (nameAt "require" 14 21)),
            ("arguments", some (.list [nameAt "p" 22 23]))]))]]))]))]]))]

/-- A session in which the name `p` has the token `q`. -/
def namedBefore : Context :=
  .ofMappings "" { Mappings.empty with identifiers := [("p", "q")] } (Twister.ofSeed 0)

end VeiledGateway.Script
