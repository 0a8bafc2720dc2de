/-
  What references can do to the rewriting of a document.

  A markup document names its references in attributes, and in the style sheets in it.  If all of them
  come to an answer, then only a script or a name can make the rewriting fail; and if one of them comes
  to none, it fails in every session.
-/
import VeiledGateway.Proofs.Markup.Surveying
import VeiledGateway.Proofs.Markup.Visiting
import VeiledGateway.Proofs.Style.Referring

set_option autoImplicit false

namespace VeiledGateway

namespace Markup

open Rewriting

variable {v : View}

/-! ## Attributes -/

theorem ensures_rewriteReference {reference : Text} (h : v.Finds reference) :
    (rewriteReference v reference).Ensures fun _ => True := by
  obtain ⟨kind, hkind⟩ := Reference.kindOf_comes_iff.mpr h.1
  refine (ensures_ofExcept (fun _ => True) hkind trivial).bind fun _ _ => ?_
  split
  · split
    · exact ensures_pure trivial
    · exact (ensures_elementId _).bind fun _ _ => ensures_pure trivial
  · refine (View.ensures_pathOf? h).bind fun path? _ => ?_
    split
    · exact ensures_link _ _
    · exact ensures_pure trivial
  · exact ensures_pure trivial

theorem doomed_rewriteReference {reference : Text} (h : ¬ v.Finds reference) :
    (rewriteReference v reference).Doomed := by
  unfold rewriteReference
  by_cases hreads : ∃ kind, Reference.kindOf reference = .ok kind
  · obtain ⟨kind, hkind⟩ := hreads
    obtain rfl := View.static_of_not_finds hkind h
    rw [hkind]
    exact (View.doomed_pathOf? (Reference.kindOf_comes_iff.mp ⟨_, hkind⟩) h).bind _
  · exact (doomed_ofExcept hreads).bind _

/-- The reference that an attribute of a tag holds; an empty one is none. -/
def Tag.referenceIn? (tag : Tag) (field : Text) : Option Text :=
  (tag.plain? field).filter (!·.isEmpty)

theorem yields_rewriteLink (field : Text) (tag : Tag) :
    (rewriteLink v field tag).Yields (Tag.Sets field tag) := by
  unfold rewriteLink
  split
  · rename_i hplain
    refine (yields_true _).bind fun new _ => ?_
    exact yields_pure (.inr ⟨Tag.has_of_plain? hplain, _, rfl⟩)
  · exact yields_pure (.inl rfl)

theorem ensures_rewriteLink {field : Text} {tag : Tag}
    (h : ∀ reference, tag.referenceIn? field = some reference → v.Finds reference) :
    (rewriteLink v field tag).Ensures (Tag.Sets field tag) := by
  refine (yields_rewriteLink field tag).ensures ?_
  unfold rewriteLink
  split
  · rename_i c rest hplain
    refine (ensures_rewriteReference (h (c :: rest) ?_)).bind fun new _ => ensures_pure trivial
    rw [Tag.referenceIn?, hplain]
    rfl
  · exact ensures_pure trivial

theorem doomed_rewriteLink {field reference : Text} {tag : Tag}
    (hat : tag.referenceIn? field = some reference) (h : ¬ v.Finds reference) :
    (rewriteLink v field tag).Doomed := by
  obtain ⟨hplain, hsome⟩ := Option.filter_eq_some_iff.mp hat
  unfold rewriteLink
  rw [hplain]
  cases reference with
  | nil => cases hsome
  | cons c rest => exact (doomed_rewriteReference h).bind _

theorem ensures_rewriteClasses (tag : Tag) :
    (rewriteClasses v tag).Ensures (Tag.Sets "class" tag) := by
  unfold rewriteClasses
  split
  · rename_i hwords
    refine Ensures.bind (ensures_mapM fun name _ => ensures_className _ name) fun news _ => ?_
    exact ensures_pure (.inr ⟨Tag.has_of_words? hwords, _, rfl⟩)
  · exact ensures_pure (.inl rfl)

theorem ensures_rewriteIdentity (field : Text) (tag : Tag) :
    (rewriteIdentity field tag).Ensures (Tag.Sets field tag) := by
  unfold rewriteIdentity
  split
  · rename_i hplain
    refine (ensures_elementId _).bind fun new _ => ?_
    exact ensures_pure (.inr ⟨Tag.has_of_plain? hplain, _, rfl⟩)
  · exact ensures_pure (.inl rfl)

theorem Tag.Sets.referenceIn? {field other : Text} {old new : Tag} (h : Tag.Sets field old new)
    (hne : other ≠ field) : new.referenceIn? other = old.referenceIn? other := by
  rw [Tag.referenceIn?, Tag.referenceIn?, Tag.plain?, Tag.plain?, h.get? hne]

/-- The attributes that hold references. -/
def linkFields : List Text := [("src" : Text), "href"]

/-- The classes and the identities of a tag are rewritten first. -/
def rewriteNames (v : View) (tag : Tag) : Rewriting Tag := do
  let new ← rewriteIdentity "id" (← rewriteClasses v tag)
  if tag.isNamed ["label"] then rewriteIdentity "for" new else pure new

theorem rewriteTag_eq (tag : Tag) :
    rewriteTag v tag =
      rewriteNames v tag >>= fun new => rewriteLink v "src" new >>= rewriteLink v "href" := by
  unfold rewriteTag rewriteNames
  split <;> simp only [bind_assoc, pure_bind]

theorem ensures_rewriteNames (tag : Tag) :
    (rewriteNames v tag).Ensures fun new =>
      ∀ field ∈ linkFields, new.referenceIn? field = tag.referenceIn? field := by
  refine (ensures_rewriteClasses tag).bind fun named hnamed => ?_
  refine (ensures_rewriteIdentity _ named).bind fun marked hmarked => ?_
  have hkept : ∀ field ∈ linkFields, marked.referenceIn? field = tag.referenceIn? field := by
    intro field hfield
    have hclass : field ≠ "class" := by rintro rfl; exact absurd hfield (by decide)
    have hid : field ≠ "id" := by rintro rfl; exact absurd hfield (by decide)
    rw [hmarked.referenceIn? hid, hnamed.referenceIn? hclass]
  split
  · refine (ensures_rewriteIdentity _ marked).mono fun labelled hlabelled field hfield => ?_
    have hfor : field ≠ "for" := by rintro rfl; exact absurd hfield (by decide)
    rw [hlabelled.referenceIn? hfor, hkept field hfield]
  · exact ensures_pure hkept

/-- The references that a document names in attributes. -/
def linkSurvey : Survey Text where
  tag := fun tag => linkFields.filterMap tag.referenceIn?
  text := fun _ _ => []

theorem links_textless : linkSurvey.Textless :=
  fun _ _ => rfl

theorem ensures_rewriteTag {tag : Tag} (h : ∀ reference ∈ linkSurvey.tag tag, v.Finds reference) :
    (rewriteTag v tag).Ensures fun _ => True := by
  have hfinds : ∀ field ∈ linkFields, ∀ reference, tag.referenceIn? field = some reference →
      v.Finds reference := fun field hfield reference hat =>
    h reference (List.mem_filterMap.mpr ⟨field, hfield, hat⟩)
  rw [rewriteTag_eq]
  refine (ensures_rewriteNames tag).bind fun new hnew => ?_
  refine (ensures_rewriteLink fun reference hat => ?_).bind fun sourced hsourced => ?_
  · exact hfinds "src" (by decide) reference (by rw [← hat, hnew "src" (by decide)])
  · refine (ensures_rewriteLink fun reference hat => ?_).mono fun _ _ => trivial
    rw [hsourced.referenceIn? (by decide), hnew "href" (by decide)] at hat
    exact hfinds "href" (by decide) reference hat

theorem doomed_rewriteTag {tag : Tag} {reference : Text} (hmem : reference ∈ linkSurvey.tag tag)
    (h : ¬ v.Finds reference) : (rewriteTag v tag).Doomed := by
  obtain ⟨field, hfield, hat⟩ := List.mem_filterMap.mp hmem
  rw [rewriteTag_eq]
  refine (ensures_rewriteNames tag).yields.bind fun new hnew => ?_
  have hat : new.referenceIn? field = some reference := by rw [hnew field hfield, hat]
  rcases List.mem_pair.mp hfield with rfl | rfl
  · exact (doomed_rewriteLink hat h).bind _
  · refine (yields_rewriteLink "src" new).bind fun sourced hsourced => ?_
    exact doomed_rewriteLink (by rw [hsourced.referenceIn? (by decide), hat]) h

/-! ## Documents -/

/-- The references that a document names in its style sheets. -/
def sheetSurvey (v : View) : Survey Text where
  tag := fun _ => []
  text := fun inside content =>
    if inside.any (·.isNamed ["style"]) then Style.references v content else []

/-- The references of a document. -/
def references (v : View) (document : Document) : List Text :=
  (sheetSurvey v).document document ++ linkSurvey.document document

theorem leaves_scriptVisit_sheets : (scriptVisit v).Leaves (sheetSurvey v) where
  tag := fun _ => yields_pure rfl
  text := by
    intro inside kept content
    unfold scriptVisit
    dsimp only
    split
    · rename_i hmode
      obtain ⟨tag, rfl, hmode⟩ := Option.bind_eq_some_iff.mp hmode
      have hstyle := Tag.not_style_of_mode hmode
      refine (yields_true _).bind fun _ _ => yields_pure ?_
      simp [Survey.nodes, Survey.node, sheetSurvey, hstyle]
    · exact yields_pure (List.append_nil _)

theorem clears_styleVisit : (styleVisit v).Clears (sheetSurvey v) v.Finds where
  tag := fun _ _ => ensures_pure trivial
  text := by
    intro inside kept content h
    unfold styleVisit
    dsimp only
    split
    · rename_i hstyle
      have hfinds : ∀ reference ∈ Style.references v content, v.Finds reference :=
        fun reference hmem => h reference (by simpa only [sheetSurvey, hstyle, if_true] using hmem)
      exact (Style.ensures_rewrite hfinds).bind fun _ _ => ensures_pure trivial
    · exact ensures_pure trivial

theorem trips_styleVisit {reference : Text} (h : ¬ v.Finds reference) :
    (styleVisit v).Trips (sheetSurvey v) reference where
  tag := fun _ hmem => absurd hmem List.not_mem_nil
  text := by
    intro inside kept content hmem
    unfold styleVisit
    dsimp only
    unfold sheetSurvey at hmem
    dsimp only at hmem
    split
    · rename_i hstyle
      rw [if_pos hstyle] at hmem
      exact (Style.doomed_rewrite hmem h).bind _
    · rename_i hstyle
      rw [if_neg hstyle] at hmem
      exact absurd hmem List.not_mem_nil

theorem ensures_textVisit (document : Document) :
    (textVisit.document document).Ensures fun _ => True := by
  have hclears : textVisit.Clears linkSurvey fun _ => True :=
    { tag := fun _ _ => ensures_pure trivial
      text := by
        intro inside kept content _
        unfold textVisit
        dsimp only
        split
        · exact ensures_pure trivial
        · exact (ensures_textPieces _).bind fun _ _ => ensures_pure trivial }
  exact hclears.nodes none document fun _ _ => trivial

theorem clears_tagVisit : (tagVisit v).Clears linkSurvey v.Finds where
  tag := fun _ h => ensures_rewriteTag h
  text := fun _ _ _ _ => ensures_pure trivial

theorem trips_tagVisit {reference : Text} (h : ¬ v.Finds reference) :
    (tagVisit v).Trips linkSurvey reference where
  tag := fun _ hmem => doomed_rewriteTag hmem h
  text := fun _ _ _ hmem => absurd hmem List.not_mem_nil

/-- What follows the visit to the scripts. -/
def Document.rewriteRest (v : View) (scripted : Document) : Rewriting Document := do
  let styled ← (styleVisit v).document scripted
  let chunked ← textVisit.document styled
  (tagVisit v).document chunked

theorem ensures_rewriteRest {scripted : Document}
    (h : ∀ reference ∈ references v scripted, v.Finds reference) :
    (Document.rewriteRest v scripted).Ensures fun _ => True := by
  have hstyles := clears_styleVisit.nodes none scripted fun b hb => h b (List.mem_append_left _ hb)
  refine (((leaves_styleVisit links_textless).nodes none scripted).ensures hstyles).bind fun styled hstyled => ?_
  refine (((leaves_textVisit links_textless).nodes none styled).ensures (ensures_textVisit styled)).bind
    fun chunked hchunked => ?_
  refine clears_tagVisit.nodes none chunked fun b hb => h b (List.mem_append_right _ ?_)
  rwa [hchunked, hstyled] at hb

theorem doomed_rewriteRest {scripted : Document} {reference : Text}
    (hmem : reference ∈ references v scripted) (h : ¬ v.Finds reference) :
    (Document.rewriteRest v scripted).Doomed := by
  rcases List.mem_append.mp hmem with hsheet | hlink
  · exact ((trips_styleVisit h).nodes none scripted hsheet).bind _
  · refine ((leaves_styleVisit links_textless).nodes none scripted).bind fun styled hstyled => ?_
    refine ((leaves_textVisit links_textless).nodes none styled).bind fun chunked hchunked => ?_
    refine (trips_tagVisit h).nodes none chunked ?_
    rw [hchunked, hstyled]
    exact hlink

theorem references_of_scriptVisit (document : Document) :
    ((scriptVisit v).document document).Yields fun scripted =>
      references v scripted = references v document :=
  ((leaves_scriptVisit_sheets.nodes none document).and
    ((leaves_scriptVisit links_textless).nodes none document)).mono fun scripted h => by
      rw [references, references, Survey.document, Survey.document, h.1, h.2]
      rfl

theorem rewrite_of_read {source : Text} {document : Document}
    (h : Document.read source = .ok document) :
    rewrite v source = (scriptVisit v).document document >>= fun scripted =>
      Document.write <$> Document.rewriteRest v scripted := by
  rw [rewrite, h]
  simp only [Document.rewrite, Document.rewriteRest, bind_assoc, map_eq_pure_bind]

theorem doomed_rewrite {source : Text} {document : Document} {reference : Text}
    (hread : Document.read source = .ok document) (hmem : reference ∈ references v document)
    (h : ¬ v.Finds reference) : (rewrite v source).Doomed := by
  rw [rewrite_of_read hread]
  refine (references_of_scriptVisit document).bind fun scripted hscripted => ?_
  rw [← hscripted] at hmem
  rw [map_eq_pure_bind]
  exact (doomed_rewriteRest hmem h).bind _

end Markup

/-! ## Outcomes -/

/-- A site with one style sheet. -/
def plainSite : Assets where
  disk := { entries := [([("site" : Text), "a.css"], .file [])], home := [] }
  roots := [[("site" : Text)]]

/-- Documents of that site. -/
def plainView : View :=
  ⟨Settings.default, some plainSite, "/"⟩

/-- A session in which nothing has been rewritten. -/
def freshContext : Context :=
  .ofMappings "k" Mappings.empty (Twister.ofSeed 0)

end VeiledGateway
