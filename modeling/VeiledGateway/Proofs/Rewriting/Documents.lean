/-
  What the rewriting of documents asks for.

  Scripts, style sheets and markup ask for the tokens of all kinds of names, but never for that of a
  class that stays as it is: each place that asks for a class asks with the settings of the session.
  The proofs follow the definitions: for a style sheet piece by piece, for a script node by node, and
  for markup visit by visit.
-/
import VeiledGateway.Pipeline
import VeiledGateway.Proofs.Rewriting.Ensuring

set_option autoImplicit false

namespace VeiledGateway

open Rewriting

/-! ## References -/

theorem View.asksOnly_pathOf? (v : View) (reference : Text) :
    (v.pathOf? reference).AsksOnly v.settings.Allows := by
  unfold View.pathOf?
  split
  · exact asksOnly_pure none
  · refine (asksOnly_ofExcept _).bind fun path? => ?_
    split
    · exact asksOnly_pure _
    · refine (asksOnly_ofExcept _).bind fun kind => ?_
      split
      · exact (asksOnly_noting _).bind fun _ => asksOnly_pure none
      · exact asksOnly_pure none

/-! ## Style sheets -/

namespace Style

variable (v : View)

theorem asksOnly_rewriteReference (reference : Text) :
    (rewriteReference v reference).AsksOnly v.settings.Allows := by
  unfold rewriteReference
  split
  · exact asksOnly_pure _
  · split
    · exact asksOnly_pure _
    · refine (asksOnly_ofExcept _).bind fun kind => ?_
      split
      · split
        · exact (asksOnly_elementId _).bind fun _ => asksOnly_pure _
        · exact asksOnly_pure _
      · refine (v.asksOnly_pathOf? reference).bind fun path? => ?_
        split
        · exact asksOnly_link _ _
        · exact asksOnly_pure _
      · exact asksOnly_pure _

theorem asksOnly_chunkString (text : Text) :
    (chunkString text).AsksOnly v.settings.Allows := by
  unfold chunkString
  split
  split
  · exact asksOnly_pure _
  · exact (asksOnly_textPieces _).bind fun _ => asksOnly_pure _

theorem asksOnly_rewriteToken (r : Reached) (kind : TokenKind) (text : Text) :
    (rewriteToken v r kind text).AsksOnly v.settings.Allows := by
  unfold rewriteToken
  dsimp only
  split
  · split
    · exact (asksOnly_className _).bind fun _ => asksOnly_pure _
    · exact asksOnly_pure _
  · split
    · exact (asksOnly_elementId _).bind fun _ => asksOnly_pure _
    · exact asksOnly_pure _
  · exact (asksOnly_rewriteReference v _).bind fun _ => asksOnly_pure _
  · split
    · exact (asksOnly_rewriteReference v _).bind fun _ => asksOnly_pure _
    · split
      · exact asksOnly_chunkString v text
      · exact asksOnly_pure _
  · exact asksOnly_pure _

theorem asksOnly_rewritePieces (r : Reached) (pieces : List Piece) :
    (rewritePieces v r pieces).AsksOnly v.settings.Allows := by
  induction pieces generalizing r with
  | nil => exact asksOnly_pure _
  | cons piece rest ih =>
    have hpiece : ∀ p : Rewriting Text, p.AsksOnly v.settings.Allows →
        (p >>= fun new => (rewritePieces v (r.after piece) rest) >>= fun others =>
          pure (new :: others)).AsksOnly v.settings.Allows :=
      fun p hp => hp.bind fun new => (ih (r.after piece)).bind fun others => asksOnly_pure _
    cases piece with
    | token kind text => exact hpiece _ (asksOnly_rewriteToken v r kind text)
    | other c => exact hpiece _ (asksOnly_pure [c])

theorem asksOnly_rewrite (source : Text) : (rewrite v source).AsksOnly v.settings.Allows :=
  (asksOnly_rewritePieces v _ _).bind fun _ => asksOnly_pure _

end Style

/-! ## Scripts -/

namespace Script

variable (v : View)

theorem asksOnly_editTo (t : Tree) (text : Text) :
    (editTo v t text).AsksOnly v.settings.Allows :=
  (asksOnly_ofExcept _).bind fun _ => asksOnly_pure _

theorem asksOnly_lookupArgument {callee argument : Tree} {marks : Rewriting (List Mark)}
    (h : lookupArgument? v callee argument = some marks) : marks.AsksOnly v.settings.Allows := by
  unfold lookupArgument? at h
  split at h
  · dsimp only at h
    split at h
    · obtain rfl := Option.some.inj h
      exact (asksOnly_elementId _).bind fun _ => asksOnly_editTo v _ _
    · split at h
      · split at h
        · obtain rfl := Option.some.inj h
          refine AsksOnly.bind ?_ fun _ => asksOnly_editTo v _ _
          split
          · exact asksOnly_elementId _
          · exact asksOnly_className _
        · cases h
      · cases h
  · cases h

theorem asksOnly_visitName (chain : Chain) (t : Tree) :
    (visitName v chain t).AsksOnly v.settings.Allows := by
  unfold visitName
  refine (asksOnly_ofExcept _).bind fun name => ?_
  split
  · refine (asksOnly_identifier _).bind fun tok => ?_
    exact (asksOnly_editTo v _ _).bind fun _ => asksOnly_pure _
  · exact asksOnly_pure _

theorem asksOnly_visitShorthand (chain : Chain) (target : Tree) :
    (visitShorthand v chain target).AsksOnly v.settings.Allows := by
  unfold visitShorthand
  split
  · split
    · refine (asksOnly_identifier _).bind fun tok => ?_
      exact (asksOnly_editTo v _ _).bind fun _ => asksOnly_pure _
    · exact asksOnly_pure _
  · exact asksOnly_pure _

theorem asksOnly_visitString (t : Tree) : (visitString v t).AsksOnly v.settings.Allows := by
  unfold visitString
  split
  · exact asksOnly_pure _
  · split
    · exact asksOnly_pure _
    · split
      · exact asksOnly_pure _
      · split
        · exact (asksOnly_className _).bind fun _ => asksOnly_editTo v _ _
        · exact (asksOnly_textPieces _).bind fun _ => asksOnly_editTo v _ _

variable {visitor : Visitor}

theorem asksOnly_visitEach
    (hvisitor : ∀ chain path t, (visitor chain path t).AsksOnly v.settings.Allows) (chain : Chain)
    (path : Path) (nodes : List Child) :
    (visitEach visitor chain path nodes).AsksOnly v.settings.Allows :=
  (asksOnly_mapM nodes fun node _ => hvisitor chain _ node.2).bind fun _ => asksOnly_pure _

theorem asksOnly_visitShorthandValue
    (hvisitor : ∀ chain path t, (visitor chain path t).AsksOnly v.settings.Allows) (chain : Chain)
    (path : Path) (value : Tree) :
    (visitShorthandValue v visitor chain path value).AsksOnly v.settings.Allows := by
  unfold visitShorthandValue
  split
  · refine (asksOnly_visitShorthand v chain _).bind fun name => ?_
    exact (asksOnly_visitEach v hvisitor chain _ _).bind fun _ => asksOnly_pure _
  · exact asksOnly_visitShorthand v chain _

theorem asksOnly_visitArguments
    (hvisitor : ∀ chain path t, (visitor chain path t).AsksOnly v.settings.Allows) (chain : Chain)
    (path : Path) (callee : Tree) (arguments : List Child) :
    (visitArguments v visitor chain path callee arguments).AsksOnly v.settings.Allows := by
  unfold visitArguments
  split
  · exact asksOnly_visitEach v hvisitor chain path _
  · split
    · split
      · rename_i hmarks
        exact asksOnly_lookupArgument v hmarks
      · exact asksOnly_visitEach v hvisitor chain path _
    · exact asksOnly_visitEach v hvisitor chain path _

theorem asksOnly_visitInside
    (hvisitor : ∀ chain path t, (visitor chain path t).AsksOnly v.settings.Allows) (chain : Chain)
    (path : Path) (t : Tree) : (visitInside v visitor chain path t).AsksOnly v.settings.Allows := by
  unfold visitInside
  split
  · exact asksOnly_visitName v chain t
  · exact asksOnly_visitString v t
  · split
    · exact asksOnly_visitShorthandValue v hvisitor chain path _
    · exact asksOnly_visitEach v hvisitor chain path _
  · refine (asksOnly_visitEach v hvisitor chain path _).bind fun callee => ?_
    exact (asksOnly_visitArguments v hvisitor chain path _ _).bind fun _ => asksOnly_pure _
  · exact asksOnly_visitEach v hvisitor chain path _

theorem asksOnly_visit (fuel : Nat) (chain : Chain) (path : Path) (t : Tree) :
    (visit v fuel chain path t).AsksOnly v.settings.Allows := by
  induction fuel generalizing chain path t with
  | zero => exact asksOnly_pure _
  | succ fuel ih =>
    rw [visit]
    split
    · exact asksOnly_pure _
    · split
      · exact asksOnly_visitInside v ih _ path t
      · split
        · refine (asksOnly_visitEach v ih chain path _).bind fun name => ?_
          exact (asksOnly_visitInside v ih _ path t).bind fun _ => asksOnly_pure _
        · exact asksOnly_visitInside v ih _ path t

theorem asksOnly_rewriteTree (settings : Settings) (source : Text) (isModule : Bool) (t : Tree) :
    (rewriteTree settings source isModule t).AsksOnly settings.Allows := by
  refine (asksOnly_ofExcept _).bind fun bindings => ?_
  refine AsksOnly.bind (asksOnly_visit ⟨source, settings, bindings, _⟩ _ _ _ _) fun marks => ?_
  refine (asksOnly_noting _).bind fun _ => ?_
  exact (asksOnly_ofExcept _).bind fun _ => asksOnly_pure _

theorem asksOnly_rewrite (settings : Settings) (isModule : Option Bool) (source : Text) :
    (rewrite settings isModule source).AsksOnly settings.Allows := by
  unfold rewrite
  split
  · exact asksOnly_pure _
  · refine (asksOnly_ofExcept _).bind fun read => ?_
    exact (asksOnly_rewriteTree settings source read.2 read.1).bind fun _ => asksOnly_pure _

end Script

/-! ## Markup -/

namespace Markup

variable {allowed : Naming → Text → Prop}

/-- What a visit asks for at each tag and each text. -/
structure Visit.AsksOnly (allowed : Naming → Text → Prop) (visit : Visit) : Prop where
  tag (tag : Tag) : (visit.tag tag).AsksOnly allowed
  text (inside : Option Tag) (kept : Bool) (content : Text) :
    (visit.text inside kept content).AsksOnly allowed

mutual

theorem Visit.AsksOnly.node {visit : Visit} (h : visit.AsksOnly allowed) (inside : Option Tag) :
    (n : Node) → (visit.node inside n).AsksOnly allowed
  | .text kept content => h.text inside kept content
  | .aside _ _ => asksOnly_pure _
  | .element tag children =>
    (h.tag tag).bind fun _ => (h.nodes (some tag) children).bind fun _ => asksOnly_pure _

theorem Visit.AsksOnly.nodes {visit : Visit} (h : visit.AsksOnly allowed) (inside : Option Tag) :
    (ns : List Node) → (visit.nodes inside ns).AsksOnly allowed
  | [] => asksOnly_pure _
  | first :: rest =>
    (h.node inside first).bind fun _ => (h.nodes inside rest).bind fun _ => asksOnly_pure _

end

variable (v : View)

theorem asksOnly_scriptVisit : (scriptVisit v).AsksOnly v.settings.Allows where
  tag := fun _ => asksOnly_pure _
  text := by
    intro inside kept content
    unfold scriptVisit
    dsimp only
    split
    · exact (Script.asksOnly_rewrite v.settings _ content).bind fun _ => asksOnly_pure _
    · exact asksOnly_pure _

theorem asksOnly_styleVisit : (styleVisit v).AsksOnly v.settings.Allows where
  tag := fun _ => asksOnly_pure _
  text := by
    intro inside kept content
    unfold styleVisit
    dsimp only
    split
    · exact (Style.asksOnly_rewrite v content).bind fun _ => asksOnly_pure _
    · exact asksOnly_pure _

theorem asksOnly_textVisit : textVisit.AsksOnly allowed where
  tag := fun _ => asksOnly_pure _
  text := by
    intro inside kept content
    unfold textVisit
    dsimp only
    split
    · exact asksOnly_pure _
    · exact (asksOnly_textPieces content).bind fun _ => asksOnly_pure _

theorem asksOnly_rewriteClasses (tag : Tag) :
    (rewriteClasses v tag).AsksOnly v.settings.Allows := by
  unfold rewriteClasses
  split
  · refine (asksOnly_mapM _ fun name _ => asksOnly_className name).bind fun _ => ?_
    exact asksOnly_pure _
  · exact asksOnly_pure _

theorem asksOnly_rewriteIdentity (field : Text) (tag : Tag) :
    (rewriteIdentity field tag).AsksOnly v.settings.Allows := by
  unfold rewriteIdentity
  split
  · exact (asksOnly_elementId _).bind fun _ => asksOnly_pure _
  · exact asksOnly_pure _

theorem asksOnly_rewriteReference (reference : Text) :
    (rewriteReference v reference).AsksOnly v.settings.Allows := by
  unfold rewriteReference
  refine (asksOnly_ofExcept _).bind fun kind => ?_
  split
  · split
    · exact asksOnly_pure _
    · exact (asksOnly_elementId _).bind fun _ => asksOnly_pure _
  · refine (v.asksOnly_pathOf? reference).bind fun path? => ?_
    split
    · exact asksOnly_link _ _
    · exact asksOnly_pure _
  · exact asksOnly_pure _

theorem asksOnly_rewriteLink (field : Text) (tag : Tag) :
    (rewriteLink v field tag).AsksOnly v.settings.Allows := by
  unfold rewriteLink
  split
  · exact (asksOnly_rewriteReference v _).bind fun _ => asksOnly_pure _
  · exact asksOnly_pure _

theorem asksOnly_tagVisit : (tagVisit v).AsksOnly v.settings.Allows where
  tag := by
    intro tag
    refine (asksOnly_rewriteClasses v tag).bind fun named => ?_
    refine (asksOnly_rewriteIdentity v _ named).bind fun marked => ?_
    have hlinks : ∀ labelled : Tag, (rewriteLink v "src" labelled >>= fun sourced =>
        rewriteLink v "href" sourced).AsksOnly v.settings.Allows :=
      fun labelled => (asksOnly_rewriteLink v _ labelled).bind fun _ => asksOnly_rewriteLink v _ _
    dsimp only
    split
    · exact (asksOnly_rewriteIdentity v _ marked).bind hlinks
    · exact (asksOnly_pure marked).bind hlinks
  text := fun _ _ _ => asksOnly_pure _

theorem asksOnly_rewrite (source : Text) : (rewrite v source).AsksOnly v.settings.Allows := by
  unfold rewrite
  split
  · trivial
  · refine AsksOnly.bind ?_ fun _ => asksOnly_pure _
    refine ((asksOnly_scriptVisit v).nodes none _).bind fun scripted => ?_
    refine ((asksOnly_styleVisit v).nodes none _).bind fun styled => ?_
    refine (asksOnly_textVisit.nodes none _).bind fun chunked => ?_
    exact (asksOnly_tagVisit v).nodes none chunked

end Markup

/-! ## Documents of any kind -/

theorem DocumentKind.asksOnly_rewrite (v : View) (source : Text) (kind : DocumentKind) :
    (kind.rewrite v source).AsksOnly v.settings.Allows := by
  cases kind with
  | markup => exact Markup.asksOnly_rewrite v source
  | style => exact Style.asksOnly_rewrite v source
  | script => exact Script.asksOnly_rewrite v.settings none source

theorem Pipeline.asksOnly_rewrite (v : View) (mediaType : Option Text) (source : Text) :
    (Pipeline.rewrite v mediaType source).AsksOnly v.settings.Allows := by
  unfold Pipeline.rewrite
  split
  · exact DocumentKind.asksOnly_rewrite v source _
  · exact asksOnly_pure _

end VeiledGateway
