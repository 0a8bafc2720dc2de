/-
  Elements that show what is written in them.

  In a title and in a text area a browser shows what stands between the tags, comments and all.  The
  parser reads elements there as anywhere else, and the visits look no further up than to the element
  that a text is directly inside.  So what is directly in a title stays, and what is in an element in
  it is rewritten as it would be elsewhere.
-/
import VeiledGateway.Proofs.Markup.Uniting

set_option autoImplicit false

namespace VeiledGateway.Markup

variable {d : Context} {v : View} {inside : Option Tag} {a b : List Node}

/-! ## Contents -/

mutual

/-- A node without its attributes. -/
def Node.bare : Node → Node
  | .element tag children => .element ⟨tag.name, []⟩ (bare children)
  | .text kept content => .text kept content
  | .aside kind content => .aside kind content

/-- Nodes without attributes, at any depth. -/
def bare : List Node → List Node
  | [] => []
  | node :: rest => node.bare :: bare rest

end

mutual

/-- The parts in a node that the visits rewrite. -/
def Node.parts (inside : Option Tag) : Node → List Part
  | .element tag children => parts (some tag) children
  | .text kept content => (part? inside kept content).toList
  | .aside _ _ => []

/-- The parts in nodes that the visits rewrite, at any depth. -/
def parts (inside : Option Tag) : List Node → List Part
  | [] => []
  | node :: rest => node.parts inside ++ parts inside rest

end

theorem bare_append (a b : List Node) : bare (a ++ b) = bare a ++ bare b := by
  induction a with
  | nil => rfl
  | cons node rest ih => exact congrArg (node.bare :: ·) ih

theorem length_bare (nodes : List Node) : (bare nodes).length = nodes.length := by
  induction nodes with
  | nil => rfl
  | cons node rest ih => exact congrArg (· + 1) ih

theorem Childless.bare_eq {nodes : List Node} (h : Childless nodes) : bare nodes = nodes := by
  induction nodes with
  | nil => rfl
  | cons node rest ih =>
    obtain ⟨hnode, hrest⟩ := List.forall_mem_cons.mp h
    rw [bare, ih hrest]
    cases node with
    | element => cases hnode
    | text => rfl
    | aside => rfl

/-- A visit of all four kinds takes no node away. -/
theorem Visited.length_le (h : Visited d (wholeVisit v) inside a b) : a.length ≤ b.length := by
  induction h with
  | nil => exact Nat.le_refl 0
  | text hnew _ ih =>
    have hsome := List.length_pos_iff.mpr (stays_of_wholeVisit hnew).1
    rw [List.length_append, List.length_cons]
    omega
  | aside _ _ _ ih => exact Nat.succ_le_succ ih
  | element _ _ _ _ ih => exact Nat.succ_le_succ ih

theorem name_of_wholeVisit {old new : Tag} (h : d.Answers ((wholeVisit v).tag old) new) :
    new.name = old.name := by
  have hnew : d.Answers (rewriteTag v old) new := h
  exact (veiled_of_rewriteTag hnew).name

/-- But for attributes, nodes stay just if each part in them does that is rewritten. -/
theorem Visited.bare_eq_iff (h : Visited d (wholeVisit v) inside a b) :
    bare b = bare a ↔ ∀ part ∈ parts inside a, part.Stays d v := by
  induction h with
  | nil => exact iff_of_true rfl nofun
  | @text inside kept content new rest rest' hnew hrest ih =>
    obtain ⟨hsome, hchildless, hstays⟩ := stays_of_wholeVisit hnew
    have hsplit : bare (new ++ rest') = bare (.text kept content :: rest) ↔
        new = [.text kept content] ∧ bare rest' = bare rest := by
      rw [bare_append, hchildless.bare_eq]
      change new ++ bare rest' = [.text kept content] ++ bare rest ↔ _
      constructor
      · intro heq
        have hlength := congrArg List.length heq
        have hgrown := hrest.length_le
        have hpos := List.length_pos_iff.mpr hsome
        rw [List.length_append, List.length_append, length_bare, length_bare,
          List.length_singleton] at hlength
        exact List.append_inj heq (by rw [List.length_singleton]; omega)
      · rintro ⟨rfl, heq⟩
        rw [heq]
    rw [hsplit, hstays, ih, parts, Node.parts, List.forall_mem_append]
    simp only [Option.mem_toList]
  | aside kind content _ ih =>
    rw [bare, bare, List.cons_inj_right, ih, parts, Node.parts, List.nil_append]
  | element htag _ _ ihchildren ihrest =>
    rw [bare, bare, Node.bare, Node.bare, name_of_wholeVisit htag, List.cons.injEq,
      Node.element.injEq, and_iff_right rfl, ihchildren, ihrest, parts, Node.parts,
      List.forall_mem_append]

/-! ## Titles and text areas -/

/-- Elements in which a browser shows what is written, tags and comments too. -/
def verbatimElements : List String :=
  ["title", "textarea"]

mutual

/-- The elements in a node, itself included, that show what is written in them. -/
def Node.verbatims : Node → List (Tag × List Node)
  | .element tag children =>
    if tag.isNamed verbatimElements then (tag, children) :: verbatims children else verbatims children
  | .text _ _ => []
  | .aside _ _ => []

/-- The elements in nodes that show what is written in them, at any depth, with what is in each. -/
def verbatims : List Node → List (Tag × List Node)
  | [] => []
  | node :: rest => node.verbatims ++ verbatims rest

end

theorem verbatims_append (a b : List Node) : verbatims (a ++ b) = verbatims a ++ verbatims b := by
  induction a with
  | nil => rfl
  | cons node rest ih => rw [List.cons_append, verbatims, verbatims, ih, List.append_assoc]

theorem Childless.verbatims_eq {nodes : List Node} (h : Childless nodes) : verbatims nodes = [] := by
  induction nodes with
  | nil => rfl
  | cons node rest ih =>
    obtain ⟨hnode, hrest⟩ := List.forall_mem_cons.mp h
    rw [verbatims, ih hrest, List.append_nil]
    cases node with
    | element => cases hnode
    | text => rfl
    | aside => rfl

/-- The elements that show what is written in them are the same before and after, and the visits have
been to each of them. -/
theorem Visited.verbatims (h : Visited d (wholeVisit v) inside a b) :
    List.Forall₂ (fun old new => old.1.isNamed verbatimElements = true ∧ new.1.name = old.1.name ∧
      Visited d (wholeVisit v) (some old.1) old.2 new.2) (verbatims a) (verbatims b) := by
  induction h with
  | nil => exact .nil
  | text hnew _ ih =>
    rwa [verbatims_append, (stays_of_wholeVisit hnew).2.1.verbatims_eq, List.nil_append]
  | aside _ _ _ ih => exact ih
  | @element _ tag tag' _ _ _ _ htag hchildren _ ihchildren ihrest =>
    have hname := name_of_wholeVisit htag
    have hsame : tag'.isNamed verbatimElements = tag.isNamed verbatimElements := by
      rw [Tag.isNamed, Tag.isNamed, hname]
    rw [Markup.verbatims, Markup.verbatims, Node.verbatims, Node.verbatims, hsame]
    refine List.rel_append ?_ ihrest
    split
    · rename_i hverbatim
      exact .cons ⟨hverbatim, hname, hchildren⟩ ihchildren
    · exact ihchildren

/-- What is directly in a title or a text area is no concern of the visits. -/
theorem parts_of_childless {tag : Tag} {nodes : List Node} (htag : tag.isNamed verbatimElements = true)
    (h : Childless nodes) : parts (some tag) nodes = [] := by
  have hliteral : tag.isNamed literalElements = true := Tag.isNamed_of_subset (by decide) htag
  have hname : tag.name = ("title" : Text) ∨ tag.name = ("textarea" : Text) := by
    simpa [verbatimElements, Tag.isNamed, Text.eqString] using htag
  have hother : ∀ name : String, (name : Text) ≠ "title" → (name : Text) ≠ "textarea" →
      ¬ tag.isNamed [name] = true := by
    intro name htitle harea hnamed
    rcases hname with hsame | hsame
    · exact htitle ((Tag.isNamed_singleton_iff.mp hnamed).symm.trans hsame)
    · exact harea ((Tag.isNamed_singleton_iff.mp hnamed).symm.trans hsame)
  have hmode : moduleMode? tag = none := by
    rw [Option.eq_none_iff_forall_not_mem]
    exact fun isModule hmode => hother "script" (by decide) (by decide)
      (Tag.isNamed_singleton_iff.mpr (Tag.name_of_moduleMode? hmode))
  have hstyle := Bool.eq_false_iff.mpr (hother "style" (by decide) (by decide))
  induction nodes with
  | nil => rfl
  | cons node rest ih =>
    obtain ⟨hnode, hrest⟩ := List.forall_mem_cons.mp h
    rw [parts, ih hrest, List.append_nil]
    cases node with
    | element => cases hnode
    | text kept content =>
      simp [Node.parts, part?, isSpared, hmode, hstyle, hliteral]
    | aside => rfl

/-- A context that holds the layout of a text and the token of a class. -/
def verbatimContext : Context :=
  .ofMappings "k" { Mappings.empty with
    classNames := [("a", "t")], textChunks := [("hello world", "56")] } (Twister.ofSeed 0)

/-- What becomes of a document in that context. -/
def verbatimRun (source : Text) : Except Fault Text × Context × List Note :=
  verbatimContext.run (rewrite greetingView source)

/-- A document with a title. -/
def titled : Text := "<title>hello world</title>"

end VeiledGateway.Markup
