/-
  Edits that keep out of each other's way.

  The names and literals of a script are the leaves of its tree, and no two of them share a part of the
  source, but for names that are written once and stand in the tree twice.  Visiting comes to one of such
  twins only, so that no two edits are of one range: `edits_untangled`.
-/
import VeiledGateway.Proofs.Edits.Splicing
import VeiledGateway.Proofs.Script.Strings

set_option autoImplicit false

namespace VeiledGateway.Script

/-! ## Leaves and their twins -/

/-- The range of a name or a literal. -/
def Place.leafRange? (p : Place) : Option Range :=
  if p.node.isKind "Identifier" || p.node.isKind "Literal" then (rangeOf p.node).toOption else none

/-- The node may hold a name twice that is written once: a property whose key is its value too, or what is
imported or exported. -/
def Outer.doubles (o : Outer) : Bool :=
  (o.node.isKind "Property" && (part? o.node "shorthand").isSome)
    || o.node.isKind "ImportSpecifier" || o.node.isKind "ExportSpecifier"

/-- The way to the node that may hold the name at a place twice. -/
def Place.doubled? (p : Place) : Option Path :=
  if p.outer.head?.any Outer.doubles then p.outer.head?.map Outer.path
  else if p.isShorthandName then p.outer.tail.head?.map Outer.path
  else none

/-- A place that only names something, beside another one where the same may be written. -/
def Place.echoes (p q : Place) : Bool :=
  p.outer.head?.any Outer.isMere && p.doubled?.isSome && p.doubled? == q.doubled?

/-- Two places of one name: a key and its value, or the two names of what is imported or exported. -/
def Place.isTwin (p q : Place) : Bool :=
  p.echoes q || q.echoes p

theorem isTwin_symm (p q : Place) : p.isTwin q = q.isTwin p :=
  Bool.or_comm _ _

/-- Two places do not share a part of the source. -/
def Place.Asunder (p q : Place) : Prop :=
  ∀ range ∈ p.leafRange?, ∀ other ∈ q.leafRange?, range ≠ other ∧ range.Apart other

instance (p q : Place) : Decidable (p.Asunder q) :=
  inferInstanceAs (Decidable (∀ range ∈ p.leafRange?, ∀ other ∈ q.leafRange?,
    range ≠ other ∧ range.Apart other))

/-- The leaves of a tree lie apart in its source, but for twins. -/
structure LeavesApart (t : Tree) : Prop where
  ordered : ∀ p ∈ places t, ∀ range ∈ p.leafRange?, range.IsOrdered
  apart : (places t).Pairwise fun p q => p.isTwin q = true ∨ p.Asunder q

instance (t : Tree) : Decidable (LeavesApart t) :=
  decidable_of_iff
    ((∀ p ∈ places t, ∀ range ∈ p.leafRange?, range.IsOrdered) ∧
      (places t).Pairwise fun p q => p.isTwin q = true ∨ p.Asunder q)
    ⟨fun ⟨ordered, apart⟩ => ⟨ordered, apart⟩, fun ⟨ordered, apart⟩ => ⟨ordered, apart⟩⟩

variable {t : Tree} {p q : Place} {range other : Range}

theorem Place.Asunder.symm (h : p.Asunder q) : q.Asunder p := fun r hr s hs =>
  ⟨(h s hs r hr).1.symm, (h s hs r hr).2.symm⟩

theorem LeavesApart.twin_or_asunder (h : LeavesApart t) (hp : p ∈ places t) (hq : q ∈ places t)
    (hne : p ≠ q) : p.isTwin q = true ∨ p.Asunder q := by
  have : Std.Symm fun p q : Place => p.isTwin q = true ∨ p.Asunder q :=
    ⟨fun p q => Or.imp (fun htwin => isTwin_symm p q ▸ htwin) Place.Asunder.symm⟩
  exact h.apart.forall hp hq hne

/-- The texts that visiting may replace are leaves. -/
theorem leafRange?_of_textRange? (h : p.textRange? = some range) : p.leafRange? = some range := by
  unfold Place.textRange? at h
  unfold Place.leafRange?
  split at h
  · rename_i htext
    rw [if_pos, h]
    refine Bool.or_eq_true_iff.mpr ((Bool.or_eq_true_iff.mp htext).imp_left fun hname => ?_)
    exact beq_iff_eq.mpr (kind_of_isName hname)
  · cases h

/-! ## One edit for each leaf -/

/-- The range that is edited. -/
def Mark.range? : Mark → Option Range
  | .edit range _ => some range
  | .renamed _ => none

variable {v : View} {d : Context} {marks : List Mark}

theorem filterMap_range?_edit (new : Option Text) (range : Range) :
    ((new.map (Mark.edit range)).toList.filterMap Mark.range?) = [] ∨
      ((new.map (Mark.edit range)).toList.filterMap Mark.range?) = [range] := by
  cases new with
  | none => exact .inl rfl
  | some text => exact .inr rfl

theorem lookup?_of_not_string (v : View) (h : stringValue? p.node = none) : p.lookup? v = none := by
  unfold Place.lookup? lookupArgument?
  rw [h]
  split
  · rfl
  · exact ite_self none

/-- At each place that visiting comes to, one edit is made at most, and that is of the place itself. -/
theorem ranges_of_answers_actAt (h : IsProgram t) (hq : q ∈ visitedPlaces t)
    (hmarks : d.Answers (actAt v q) marks) :
    marks.filterMap Mark.range? = [] ∨
      ∃ range, q.leafRange? = some range ∧ marks.filterMap Mark.range? = [range] := by
  have hfits : Fits q.node := (visited_of_mem_visitedPlaces h hq).2.1.fits
  by_cases hleaf : q.node.kind = "Identifier" ∨ q.node.kind = "Literal"
  · obtain ⟨range, hrange⟩ := hfits.exists_range hleaf
    have hleafRange : q.leafRange? = some range := by
      rw [Place.leafRange?, if_pos, hrange]
      · rfl
      · exact Bool.or_eq_true_iff.mpr (hleaf.imp beq_iff_eq.mpr beq_iff_eq.mpr)
    have hedit (new : Option Text) := filterMap_range?_edit new range
    suffices hranges : marks.filterMap Mark.range? = [] ∨ marks.filterMap Mark.range? = [range] from
      hranges.imp_right fun hone => ⟨range, hleafRange, hone⟩
    obtain hname | hliteral := hleaf
    · obtain ⟨name, -, hname?, -⟩ := hfits.exists_name hname
      have hact := of_answers_actAt hfits hname hname? hrange hmarks
      split at hact
      · obtain ⟨tok, -, rfl⟩ := hact
        exact hedit _
      · exact .inl (by rw [hact]; rfl)
    · cases hvalue : stringValue? q.node with
      | none =>
        rw [actAt_literal hliteral, lookup?_of_not_string v hvalue, Option.getD_none, visitString, hvalue]
          at hmarks
        obtain rfl := Context.answers_pure.mp hmarks
        exact .inl rfl
      | some value =>
        rw [actAt_string v hvalue] at hmarks
        obtain ⟨-, rfl⟩ | ⟨written, text, -, -, rfl⟩ := of_answers_rewrite hrange hmarks
        · exact .inl rfl
        · exact hedit _
  · rw [not_or] at hleaf
    rw [actAt_of_other hleaf.1 hleaf.2] at hmarks
    obtain rfl := Context.answers_pure.mp hmarks
    exact .inl rfl

/-- Of two twins, visiting comes to one at most. -/
theorem asunder_of_visited (h : IsProgram t) (hapart : LeavesApart t) (hp : p ∈ visitedPlaces t)
    (hq : q ∈ visitedPlaces t) (hne : p ≠ q) : p.Asunder q := by
  refine (hapart.twin_or_asunder (mem_places_of_visited h.wellFormed hp)
    (mem_places_of_visited h.wellFormed hq) hne).resolve_left fun htwin => ?_
  have hnotMere : ∀ r ∈ visitedPlaces t, ∀ s, r.echoes s = false := fun r hr s => by
    rw [Place.echoes, (isOpen_of_mem h hr).notMere, Bool.false_and, Bool.false_and]
  rw [Place.isTwin, hnotMere p hp, hnotMere q hq] at htwin
  cases htwin

/-- At places that do not share a part of the source, no range is edited twice. -/
theorem nodup_ranges (h : IsProgram t) {stops : List Place} {lists : List (List Mark)}
    (hlists : List.Forall₂ (fun p here => d.Answers (actAt v p) here) stops lists)
    (hvisited : ∀ p ∈ stops, p ∈ visitedPlaces t) (hstops : stops.Pairwise Place.Asunder) :
    (lists.flatten.filterMap Mark.range?).Nodup ∧
      ∀ range ∈ lists.flatten.filterMap Mark.range?, ∃ p ∈ stops, p.leafRange? = some range := by
  induction hlists with
  | nil => exact ⟨.nil, nofun⟩
  | @cons p here stops lists hhere _ ih =>
    obtain ⟨hp, hvisited⟩ := List.forall_mem_cons.mp hvisited
    obtain ⟨hfirst, hrest⟩ := List.pairwise_cons.mp hstops
    obtain ⟨hnodup, hranges⟩ := ih hvisited hrest
    have hothers : ∀ range ∈ lists.flatten.filterMap Mark.range?,
        ∃ q ∈ p :: stops, q.leafRange? = some range := fun range hrange => by
      obtain ⟨q, hq, hqr⟩ := hranges range hrange
      exact ⟨q, List.mem_cons_of_mem _ hq, hqr⟩
    rw [List.flatten_cons, List.filterMap_append]
    obtain hnone | ⟨range, hrange, hone⟩ := ranges_of_answers_actAt h hp hhere
    · rw [hnone, List.nil_append]
      exact ⟨hnodup, hothers⟩
    · rw [hone, List.singleton_append, List.nodup_cons]
      refine ⟨⟨fun hmem => ?_, hnodup⟩,
        List.forall_mem_cons.mpr ⟨⟨p, List.mem_cons_self, hrange⟩, hothers⟩⟩
      obtain ⟨q, hq, hqr⟩ := hranges range hmem
      exact (hfirst q hq range hrange range hqr).1 rfl

/-! ## The edits of a script -/

/-- The edits of a script keep out of each other's way. -/
structure Untangled (source : Text) (t : Tree) (marks : List Mark) : Prop where
  /-- Each of them is of one leaf, and no other leaf has its range but a twin. -/
  leaf : ∀ range text, .edit range text ∈ marks → ∃ p ∈ places t, p.leafRange? = some range ∧
    ∀ q ∈ places t, q.leafRange? = some range → q = p ∨ q.isTwin p = true
  /-- No range is edited twice. -/
  once : (marks.filterMap Mark.range?).Nodup
  made : ∃ output, (editsIn marks).apply source = .ok output

variable {isModule : Bool} {settings : Settings} {source : Text} {b : Bindings}

theorem leaf_of_edit (h : IsProgram t) (hapart : LeavesApart t) (hmarks : OnlyVisited t marks)
    {text : Text} (hmark : .edit range text ∈ marks) :
    ∃ p ∈ visitedPlaces t, p.leafRange? = some range ∧
      ∀ q ∈ places t, q.leafRange? = some range → q = p ∨ q.isTwin p = true := by
  obtain ⟨p, hp, hrange⟩ := hmarks range text hmark
  have hleaf := leafRange?_of_textRange? hrange
  refine ⟨p, hp, hleaf, fun q hq hqr => or_iff_not_imp_left.mpr fun hne => ?_⟩
  refine (hapart.twin_or_asunder hq (mem_places_of_visited h.wellFormed hp) hne).resolve_right ?_
  exact fun hasunder => (hasunder range hqr range hleaf).1 rfl

/-- The edits of a script whose leaves lie apart can be made. -/
theorem exists_apply_of_leavesApart (h : IsProgram t) (hapart : LeavesApart t) (source : Text)
    (hmarks : OnlyVisited t marks) : ∃ output, (editsIn marks).apply source = .ok output := by
  have hmem : ∀ edit ∈ editsIn marks, ∃ p ∈ visitedPlaces t, p.leafRange? = some edit.1 :=
    fun edit hedit => by
      obtain ⟨p, hp, hrange⟩ :=
        hmarks edit.1 edit.2 (mem_edits_iff.mp (Edits.mem_of_mem_ofList hedit))
      exact ⟨p, hp, leafRange?_of_textRange? hrange⟩
  refine Edits.exists_apply_of_apart source (Edits.nodup_ofList _) (fun edit hedit => ?_) ?_
  · obtain ⟨p, hp, hrange⟩ := hmem edit hedit
    exact hapart.ordered p (mem_places_of_visited h.wellFormed hp) _ hrange
  · intro first hfirst second hsecond hne
    obtain ⟨p, hp, hpr⟩ := hmem first hfirst
    obtain ⟨q, hq, hqr⟩ := hmem second hsecond
    have hplaces : p ≠ q := by
      rintro rfl
      exact hne (Option.some.inj (hpr.symm.trans hqr))
    exact (asunder_of_visited h hapart hp hq hplaces _ hpr _ hqr).2

theorem untangled_of_answers (h : IsProgram t) (hapart : LeavesApart t)
    (hb : Describes isModule t v.bindings) (hmarks : d.Answers (visit v t.depth [] [] t) marks) :
    Untangled source t marks := by
  have honly : OnlyVisited t marks := hmarks.post (ensures_visit h hb).yields
  refine ⟨fun range text hmark => ?_, ?_, exists_apply_of_leavesApart h hapart source honly⟩
  · obtain ⟨p, hp, hleaf⟩ := leaf_of_edit h hapart honly hmark
    exact ⟨p, mem_places_of_visited h.wellFormed hp, hleaf⟩
  · rw [visit_program h hb, map_eq_pure_bind] at hmarks
    obtain ⟨lists, hlists, hflat⟩ := Context.answers_bind.mp hmarks
    obtain rfl := Context.answers_pure.mp hflat
    have hstops : (visitedPlaces t).Pairwise Place.Asunder :=
      (nodup_visitedPlaces h.wellFormed).imp_of_mem fun hp hq hne =>
        asunder_of_visited h hapart hp hq hne
    exact (nodup_ranges h (Context.answers_mapM.mp hlists) (fun _ hp => hp) hstops).1

/-- The edits of a script keep out of each other's way, and none of them is refused. -/
theorem edits_untangled (h : IsProgram t) (hapart : LeavesApart t) (settings : Settings)
    (source : Text) (isModule : Bool) (c : Context) :
    ∃ b, bindingsOf isModule t = .ok b ∧
      (∀ marks d notes, c.run (visit (viewOf settings source b) t.depth [] [] t) = (.ok marks, d, notes) →
        Untangled source t marks) ∧
      ((∃ r d notes, c.run (rewriteTree settings source isModule t) = (.ok r, d, notes)) ∨
        ∃ fault, (c.run (rewriteTree settings source isModule t)).1 = .error fault ∧
          fault.IsOfRequest ∧ ∀ position, fault ≠ .overlap position) := by
  obtain ⟨b, hbindings, hb⟩ := exists_bindingsOf h isModule
  refine ⟨b, hbindings, fun marks d notes hrun => ?_, ?_⟩
  · exact untangled_of_answers (v := viewOf settings source b) h hapart hb (Context.answers_of_run hrun)
  · have hensures : (rewriteTree settings source isModule t).Ensures fun _ => True :=
      ensures_rewriteTree_of_apply h fun _ => exists_apply_of_leavesApart h hapart source
    refine (Context.run_of_ensures hensures c).imp ?_ ?_
    · rintro ⟨r, hok, -⟩
      exact ⟨r, _, _, Prod.ext hok rfl⟩
    · rintro ⟨fault, hfault, hrequest⟩
      refine ⟨fault, hfault, hrequest, ?_⟩
      rintro position rfl
      cases hrequest

/-- The tree of `function f(a){return{a}}`. -/
def returning : Tree :=
  Tree.mk "Program" 0 24 [("body", some (.list [
    Tree.mk "FunctionDeclaration" 0 24 [
      ("id", some (nameAt "f" 9 10)),
      ("params", some (.list [nameAt "a" 11 12])),
      ("body", some (Tree.mk "BlockStatement" 13 24 [("body", some (.list [
        Tree.mk "ReturnStatement" 14 23 [("argument", some (
          Tree.mk "ObjectExpression" 20 23 [("properties", some (.list [
            Tree.mk "Property" 21 22 [
              ("shorthand", some (.bool true)),
              ("key", some (nameAt "a" 21 22)),
              ("value", some (nameAt "a" 21 22))]]))]))]]))]))]]))]

/-- A session in which the name `a` has the token `q`. -/
def calledBefore : Context :=
  .ofMappings "" { Mappings.empty with identifiers := [("a", "q")] } (Twister.ofSeed 0)

/-- A key that is a value too is edited once. -/
theorem returning_untangled :
    (IsProgram returning ∧ LeavesApart returning) ∧
    ((bindingsOf false returning).toOption.bind fun b => (calledBefore.run
        (visit (viewOf .default "function f(a)\x7breturn\x7ba\x7d\x7d" b) returning.depth [] []
          returning)).1.toOption) =
      some [.renamed "a", .edit ⟨11, 12⟩ "q", .renamed "a", .edit ⟨21, 22⟩ "a: q"] ∧
    ∃ b, bindingsOf false returning = .ok b ∧
      (∀ marks d notes, calledBefore.run (visit (viewOf .default "function f(a)\x7breturn\x7ba\x7d\x7d" b)
          returning.depth [] [] returning) = (.ok marks, d, notes) →
        Untangled "function f(a)\x7breturn\x7ba\x7d\x7d" returning marks) ∧
      ((∃ r d notes, calledBefore.run (rewriteTree .default "function f(a)\x7breturn\x7ba\x7d\x7d" false
          returning) = (.ok r, d, notes)) ∨
        ∃ fault, (calledBefore.run (rewriteTree .default "function f(a)\x7breturn\x7ba\x7d\x7d" false
          returning)).1 = .error fault ∧ fault.IsOfRequest ∧ ∀ position, fault ≠ .overlap position) := by
  have hprogram : IsProgram returning :=
    ⟨wellFormed_of_fitsWithin (show fitsWithin 9 returning = true by decide +kernel), by decide +kernel⟩
  have hapart : LeavesApart returning := by decide +kernel
  exact ⟨⟨hprogram, hapart⟩, by decide +kernel, edits_untangled hprogram hapart _ _ _ _⟩

end VeiledGateway.Script
