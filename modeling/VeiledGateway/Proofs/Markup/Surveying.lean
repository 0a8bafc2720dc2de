/-
  Surveying: what a document lists of its tags and of its texts, in order.

  A survey goes over a document as a visit does, and only looks.  What a visit leaves at each tag and
  at each text it leaves in the whole document; and a visit that may fail at what a survey lists
  fails on the whole document.
-/
import VeiledGateway.Markup.Rewrite
import VeiledGateway.Proofs.Rewriting.Ensuring

set_option autoImplicit false

namespace VeiledGateway.Markup

open Rewriting

/-- What is listed of each tag, and of each text directly inside an element. -/
structure Survey (β : Type) where
  tag : Tag → List β
  text : Option Tag → Text → List β

namespace Survey

variable {β : Type}

mutual

def node (survey : Survey β) (inside : Option Tag) : Node → List β
  | .text _ content => survey.text inside content
  | .aside _ _ => []
  | .element tag children => survey.tag tag ++ nodes survey (some tag) children

/-- What nodes inside an element list. -/
def nodes (survey : Survey β) (inside : Option Tag) : List Node → List β
  | [] => []
  | first :: rest => node survey inside first ++ nodes survey inside rest

end

/-- What a document lists. -/
def document (survey : Survey β) (document : Document) : List β :=
  survey.nodes none document

theorem nodes_append (survey : Survey β) (inside : Option Tag) (a b : List Node) :
    survey.nodes inside (a ++ b) = survey.nodes inside a ++ survey.nodes inside b := by
  induction a with
  | nil => rfl
  | cons first rest ih => rw [List.cons_append, nodes, nodes, ih, List.append_assoc]

/-- Nothing is listed of texts. -/
def Textless (survey : Survey β) : Prop :=
  ∀ inside content, survey.text inside content = []

theorem Textless.nodes_text {survey : Survey β} (h : survey.Textless) (inside : Option Tag) (kept : Bool)
    (content : Text) : survey.nodes inside [.text kept content] = [] := by
  rw [nodes, nodes, node, h, List.append_nil]

/-- Where the nodes are does not matter then. -/
theorem Textless.nodes_inside {survey : Survey β} (h : survey.Textless) (inside other : Option Tag)
    (ns : List Node) : survey.nodes inside ns = survey.nodes other ns := by
  induction ns with
  | nil => rfl
  | cons first rest ih =>
    rw [nodes, nodes, ih]
    cases first with
    | text kept content => rw [node, node, h, h]
    | aside kind content => rfl
    | element tag children => rw [node, node]

theorem Textless.nodes_pieceNodes {survey : Survey β} (h : survey.Textless) (inside : Option Tag)
    (pieces : List Text) : survey.nodes inside (pieceNodes pieces) = [] := by
  induction pieces with
  | nil => rfl
  | cons piece rest ih =>
    cases rest with
    | nil => exact h.nodes_text inside false piece
    | cons next others =>
      rw [pieceNodes, nodes, nodes, node, node, h, ih]
      · rfl
      · exact List.cons_ne_nil _ _

end Survey

namespace Visit

variable {β : Type} {survey : Survey β} {visit : Visit}

/-! ## What a visit leaves -/

/-- A visit leaves the tags as they are, and what a survey lists of the texts. -/
structure Leaves (visit : Visit) (survey : Survey β) : Prop where
  tag (tag : Tag) : (visit.tag tag).Yields (· = tag)
  text (inside : Option Tag) (kept : Bool) (content : Text) :
    (visit.text inside kept content).Yields fun new =>
      survey.nodes inside new = survey.text inside content

mutual

theorem Leaves.node (h : visit.Leaves survey) (inside : Option Tag) :
    (n : Node) → (visit.node inside n).Yields fun new =>
      survey.nodes inside new = survey.node inside n
  | .text kept content => h.text inside kept content
  | .aside _ _ => yields_pure rfl
  | .element tag children =>
    (h.tag tag).bind fun _ hnew => (h.nodes (some tag) children).bind fun _ hchildren => by
      subst hnew
      refine yields_pure ?_
      rw [Survey.nodes, Survey.node, hchildren, Survey.nodes, List.append_nil, Survey.node]

theorem Leaves.nodes (h : visit.Leaves survey) (inside : Option Tag) :
    (ns : List Node) → (visit.nodes inside ns).Yields fun new =>
      survey.nodes inside new = survey.nodes inside ns
  | [] => yields_pure rfl
  | first :: rest =>
    (h.node inside first).bind fun _ hfirst => (h.nodes inside rest).bind fun _ hrest => by
      refine yields_pure ?_
      rw [Survey.nodes_append, hfirst, hrest, Survey.nodes]

end

end Visit

/-! ### Visits to texts -/

section Textless

variable {β : Type} {survey : Survey β} {v : View}

theorem leaves_scriptVisit (h : survey.Textless) : (scriptVisit v).Leaves survey where
  tag := fun _ => yields_pure rfl
  text := by
    intro inside kept content
    unfold scriptVisit
    dsimp only
    rw [h]
    split
    · exact (yields_true _).bind fun _ _ => yields_pure (h.nodes_text inside kept _)
    · exact yields_pure (h.nodes_text inside kept _)

theorem leaves_styleVisit (h : survey.Textless) : (styleVisit v).Leaves survey where
  tag := fun _ => yields_pure rfl
  text := by
    intro inside kept content
    unfold styleVisit
    dsimp only
    rw [h]
    split
    · exact (yields_true _).bind fun _ _ => yields_pure (h.nodes_text inside kept _)
    · exact yields_pure (h.nodes_text inside kept _)

theorem leaves_textVisit (h : survey.Textless) : textVisit.Leaves survey where
  tag := fun _ => yields_pure rfl
  text := by
    intro inside kept content
    unfold textVisit
    dsimp only
    rw [h]
    split
    · exact yields_pure (h.nodes_text inside kept _)
    · exact (yields_true _).bind fun pieces _ => yields_pure (h.nodes_pieceNodes inside pieces)

end Textless

namespace Visit

variable {β : Type} {survey : Survey β} {visit : Visit}

/-! ## Where a visit fails -/

/-- A visit does not fail by itself at a tag or a text of which nothing bad is listed. -/
structure Clears (visit : Visit) (survey : Survey β) (good : β → Prop) : Prop where
  tag (tag : Tag) (h : ∀ b ∈ survey.tag tag, good b) : (visit.tag tag).Ensures fun _ => True
  text (inside : Option Tag) (kept : Bool) (content : Text)
    (h : ∀ b ∈ survey.text inside content, good b) :
    (visit.text inside kept content).Ensures fun _ => True

variable {good : β → Prop}

mutual

theorem Clears.node (h : visit.Clears survey good) (inside : Option Tag) :
    (n : Node) → (∀ b ∈ survey.node inside n, good b) →
      (visit.node inside n).Ensures fun _ => True
  | .text kept content, hgood => h.text inside kept content hgood
  | .aside _ _, _ => ensures_pure trivial
  | .element tag children, hgood =>
    (h.tag tag fun b hb => hgood b (List.mem_append_left _ hb)).bind fun _ _ =>
      (h.nodes (some tag) children fun b hb => hgood b (List.mem_append_right _ hb)).bind
        fun _ _ => ensures_pure trivial

theorem Clears.nodes (h : visit.Clears survey good) (inside : Option Tag) :
    (ns : List Node) → (∀ b ∈ survey.nodes inside ns, good b) →
      (visit.nodes inside ns).Ensures fun _ => True
  | [], _ => ensures_pure trivial
  | first :: rest, hgood =>
    (h.node inside first fun b hb => hgood b (List.mem_append_left _ hb)).bind fun _ _ =>
      (h.nodes inside rest fun b hb => hgood b (List.mem_append_right _ hb)).bind
        fun _ _ => ensures_pure trivial

end

/-- A visit always fails at a tag or a text of which something is listed. -/
structure Trips (visit : Visit) (survey : Survey β) (bad : β) : Prop where
  tag (tag : Tag) (h : bad ∈ survey.tag tag) : (visit.tag tag).Doomed
  text (inside : Option Tag) (kept : Bool) (content : Text) (h : bad ∈ survey.text inside content) :
    (visit.text inside kept content).Doomed

variable {bad : β}

mutual

theorem Trips.node (h : visit.Trips survey bad) (inside : Option Tag) :
    (n : Node) → bad ∈ survey.node inside n → (visit.node inside n).Doomed
  | .text kept content, hbad => h.text inside kept content hbad
  | .aside _ _, hbad => absurd hbad List.not_mem_nil
  | .element tag children, hbad =>
    (List.mem_append.mp hbad).elim (fun hbad => (h.tag tag hbad).bind _) fun hbad =>
      (yields_true _).bind fun _ _ => (h.nodes (some tag) children hbad).bind _

theorem Trips.nodes (h : visit.Trips survey bad) (inside : Option Tag) :
    (ns : List Node) → bad ∈ survey.nodes inside ns → (visit.nodes inside ns).Doomed
  | [], hbad => absurd hbad List.not_mem_nil
  | first :: rest, hbad =>
    (List.mem_append.mp hbad).elim (fun hbad => (h.node inside first hbad).bind _) fun hbad =>
      (yields_true _).bind fun _ _ => (h.nodes inside rest hbad).bind _

end

end Visit

end VeiledGateway.Markup
