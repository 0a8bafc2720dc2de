/-
  The visits to a document taken as one.

  A visit after another one is a visit, so all that rewriting makes of a document is told node by node.
  Each text is the concern of at most one of the visits: it is a program, a style sheet, or a text that
  is cut, or else it is passed over.
-/
import VeiledGateway.Proofs.Markup.Veiling

set_option autoImplicit false

namespace VeiledGateway.Markup

variable {d : Context} {visit first second : Visit} {v : View} {inside : Option Tag}
  {a b c : List Node} {kept : Bool} {content : Text} {new : List Node}

/-! ## One visit after another -/

namespace Visit

/-- One visit, and then another one. -/
def andThen (first second : Visit) : Visit where
  tag := fun tag => do second.tag (← first.tag tag)
  text := fun inside kept content => do second.nodes inside (← first.text inside kept content)

end Visit

theorem answers_of_visited (h : Visited d visit inside a b) : d.Answers (visit.nodes inside a) b := by
  induction h with
  | nil => exact Context.answers_pure.mpr rfl
  | text hnew _ ih =>
    exact Context.answers_bind.mpr ⟨_, hnew, Context.answers_bind.mpr ⟨_, ih, rfl⟩⟩
  | aside kind content _ ih =>
    exact Context.answers_bind.mpr ⟨_, rfl, Context.answers_bind.mpr ⟨_, ih, rfl⟩⟩
  | @element _ _ tag' _ children' _ _ htag _ _ ihchildren ihrest =>
    refine Context.answers_bind.mpr
      ⟨[.element tag' children'], ?_, Context.answers_bind.mpr ⟨_, ihrest, rfl⟩⟩
    exact Context.answers_bind.mpr ⟨_, htag, Context.answers_bind.mpr ⟨_, ihchildren, rfl⟩⟩

/-- What becomes of nodes that stand side by side stands side by side. -/
theorem Visited.append (h : Visited d visit inside (a ++ b) c) :
    ∃ a' b', c = a' ++ b' ∧ Visited d visit inside a a' ∧ Visited d visit inside b b' := by
  induction a generalizing c with
  | nil => exact ⟨[], c, rfl, .nil inside, h⟩
  | cons node rest ih =>
    rw [List.cons_append] at h
    cases h with
    | @text _ _ _ new _ _ hnew hrest =>
      obtain ⟨a', b', rfl, ha, hb⟩ := ih hrest
      exact ⟨new ++ a', b', (List.append_assoc _ _ _).symm, .text hnew ha, hb⟩
    | aside kind content hrest =>
      obtain ⟨a', b', rfl, ha, hb⟩ := ih hrest
      exact ⟨.aside kind content :: a', b', rfl, .aside kind content ha, hb⟩
    | @element _ _ tag' _ children' _ _ htag hchildren hrest =>
      obtain ⟨a', b', rfl, ha, hb⟩ := ih hrest
      exact ⟨.element tag' children' :: a', b', rfl, .element htag hchildren ha, hb⟩

/-- A visit after one that leaves the tags is a visit. -/
theorem Visited.andThen (htags : ∀ old new, d.Answers (first.tag old) new → old = new)
    (h : Visited d first inside a b) (h' : Visited d second inside b c) :
    Visited d (first.andThen second) inside a c := by
  induction h generalizing c with
  | nil =>
    cases h'
    exact .nil _
  | text hnew _ ih =>
    obtain ⟨new', rest', rfl, hnew', hrest'⟩ := h'.append
    exact .text (Context.answers_bind.mpr ⟨_, hnew, answers_of_visited hnew'⟩) (ih hrest')
  | aside kind content _ ih =>
    cases h' with
    | aside _ _ hrest' => exact .aside kind content (ih hrest')
  | element htag _ _ ihchildren ihrest =>
    obtain rfl := htags _ _ htag
    cases h' with
    | element htag' hchildren' hrest' =>
      exact .element (Context.answers_bind.mpr ⟨_, htag, htag'⟩) (ihchildren hchildren') (ihrest hrest')

/-- The four visits as one. -/
def wholeVisit (v : View) : Visit :=
  (((scriptVisit v).andThen (styleVisit v)).andThen textVisit).andThen (tagVisit v)

theorem visited_of_rewrite {document new : Document}
    (h : d.Answers (Document.rewrite v document) new) :
    Visited d (wholeVisit v) none document new := by
  obtain ⟨scripted, hscripted, h⟩ := Context.answers_bind.mp h
  obtain ⟨styled, hstyled, h⟩ := Context.answers_bind.mp h
  obtain ⟨chunked, hchunked, hnew⟩ := Context.answers_bind.mp h
  have htwo := (visited_of_answers _ hscripted).andThen (fun _ _ => Context.answers_pure.mp)
    (visited_of_answers _ hstyled)
  have hthree := htwo.andThen (fun _ _ => Context.answers_pure.mp) (visited_of_answers _ hchunked)
  exact hthree.andThen (fun _ _ => Context.answers_pure.mp) (visited_of_answers _ hnew)

/-! ## What is rewritten -/

/-- A text as the visits take it: a program, a style sheet, or a text that is cut. -/
inductive Part where
  | program (isModule : Bool) (content : Text)
  | sheet (content : Text)
  | passage (content : Text)

/-- A text is passed over by the visit that cuts texts. -/
def isSpared (inside : Option Tag) (kept : Bool) (content : Text) : Bool :=
  kept || inside.any (·.isNamed literalElements) || (Text.trim content).length ≤ 1

/-- What a text directly inside an element is to the visits, if they do not pass it over. -/
def part? (inside : Option Tag) (kept : Bool) (content : Text) : Option Part :=
  match inside.bind moduleMode? with
  | some isModule => some (.program isModule content)
  | none =>
    if inside.any (·.isNamed ["style"]) then some (.sheet content)
    else if isSpared inside kept content then none
    else some (.passage content)

namespace Part

/-- The text that a part is. -/
def source : Part → Text
  | program _ content => content
  | sheet content => content
  | passage content => content

/-- The nodes that a part becomes when the tables answer it. -/
def Becomes (d : Context) (v : View) (kept : Bool) (new : List Node) : Part → Prop
  | .program isModule content =>
    ∃ written, d.Answers (Script.rewrite v.settings (some isModule) content) written ∧
      new = [.text kept written]
  | .sheet content => ∃ written, d.Answers (Style.rewrite v content) written ∧ new = [.text kept written]
  | .passage content => kept = false ∧ content ≠ [] ∧
    ∃ pieces, d.HasPieces content pieces ∧ new = pieceNodes pieces

/-- A part is rewritten to itself: a text that is cut is one piece. -/
def Stays (d : Context) (v : View) : Part → Prop
  | .program isModule content => d.Answers (Script.rewrite v.settings (some isModule) content) content
  | .sheet content => d.Answers (Style.rewrite v content) content
  | .passage content => d.HasPieces content [content]

end Part

def Node.isElement : Node → Bool
  | .element _ _ => true
  | _ => false

/-- No element is among nodes. -/
def Childless (nodes : List Node) : Prop :=
  ∀ node ∈ nodes, node.isElement = false

instance (nodes : List Node) : Decidable (Childless nodes) :=
  inferInstanceAs (Decidable (∀ node ∈ nodes, node.isElement = false))

theorem childless_pieceNodes (pieces : List Text) : Childless (pieceNodes pieces) := by
  induction pieces with
  | nil => exact nofun
  | cons piece others ih =>
    cases others with
    | nil => exact List.forall_mem_singleton.mpr rfl
    | cons next others => exact List.forall_mem_cons.mpr ⟨rfl, List.forall_mem_cons.mpr ⟨rfl, ih⟩⟩

/-- The visit to the attributes does nothing where there is no element. -/
theorem Visited.eq_of_childless (h : Visited d (tagVisit v) inside a b) (ha : Childless a) : b = a := by
  induction h with
  | nil => rfl
  | text hnew _ ih =>
    obtain rfl := Context.answers_pure.mp hnew
    rw [ih (List.forall_mem_cons.mp ha).2, List.singleton_append]
  | aside kind content _ ih => rw [ih (List.forall_mem_cons.mp ha).2]
  | element => cases (List.forall_mem_cons.mp ha).1

/-- What becomes of one text is what its visit makes of it. -/
theorem visited_text (h : Visited d visit inside [.text kept content] new) :
    d.Answers (visit.text inside kept content) new := by
  cases h with
  | text hnew hrest =>
    cases hrest
    rwa [List.append_nil]

theorem answers_scriptVisit (h : d.Answers ((scriptVisit v).text inside kept content) new) :
    (∃ tag isModule written, inside = some tag ∧ moduleMode? tag = some isModule ∧
        d.Answers (Script.rewrite v.settings (some isModule) content) written ∧
        new = [.text kept written]) ∨
      inside.bind moduleMode? = none ∧ new = [.text kept content] := by
  unfold scriptVisit at h
  dsimp only at h
  split at h
  · rename_i isModule hmode
    obtain ⟨written, hwritten, h⟩ := Context.answers_bind.mp h
    obtain ⟨tag, htag, hmode⟩ := Option.bind_eq_some_iff.mp hmode
    exact .inl ⟨tag, isModule, written, htag, hmode, hwritten, (Context.answers_pure.mp h).symm⟩
  · rename_i hmode
    exact .inr ⟨hmode, (Context.answers_pure.mp h).symm⟩

theorem answers_styleVisit (h : d.Answers ((styleVisit v).text inside kept content) new) :
    (inside.any (·.isNamed ["style"]) = true ∧
        ∃ written, d.Answers (Style.rewrite v content) written ∧ new = [.text kept written]) ∨
      inside.any (·.isNamed ["style"]) = false ∧ new = [.text kept content] := by
  unfold styleVisit at h
  dsimp only at h
  split at h
  · rename_i hstyle
    obtain ⟨written, hwritten, h⟩ := Context.answers_bind.mp h
    exact .inl ⟨hstyle, written, hwritten, (Context.answers_pure.mp h).symm⟩
  · rename_i hstyle
    exact .inr ⟨Bool.eq_false_iff.mpr hstyle, (Context.answers_pure.mp h).symm⟩

theorem answers_textVisit (h : d.Answers (textVisit.text inside kept content) new) :
    (isSpared inside kept content = true ∧ new = [.text kept content]) ∨
      isSpared inside kept content = false ∧
        ∃ pieces, d.HasPieces content pieces ∧ new = pieceNodes pieces := by
  unfold textVisit at h
  dsimp only at h
  split at h
  · rename_i hspared
    exact .inl ⟨hspared, (Context.answers_pure.mp h).symm⟩
  · rename_i hspared
    obtain ⟨pieces, ⟨parts, hpieces, rfl⟩, hnew⟩ := Context.answers_bind.mp h
    exact .inr ⟨Bool.eq_false_iff.mpr hspared, parts, hpieces, (Context.answers_pure.mp hnew).symm⟩

/-- The visits that come after the one to the style sheets leave the text of an element with code. -/
theorem eq_of_literal {tag : Tag} {chunked : List Node} (hliteral : tag.isNamed literalElements = true)
    (hchunked : Visited d textVisit (some tag) [.text kept content] chunked)
    (htags : Visited d (tagVisit v) (some tag) chunked new) : new = [.text kept content] := by
  rcases answers_textVisit (visited_text hchunked) with ⟨-, rfl⟩ | ⟨hspared, -⟩
  · exact htags.eq_of_childless (List.forall_mem_singleton.mpr rfl)
  · rw [isSpared, Option.any_some, hliteral, Bool.or_true, Bool.true_or] at hspared
    cases hspared

/-- The four visits make of a text what one of them does, and pass it over if none is there for it. -/
theorem becomes_of_wholeVisit (h : d.Answers ((wholeVisit v).text inside kept content) new) :
    (part? inside kept content = none ∧ new = [.text kept content]) ∨
      ∃ part, part? inside kept content = some part ∧ part.Becomes d v kept new := by
  obtain ⟨chunked, h, htags⟩ := Context.answers_bind.mp h
  obtain ⟨styled, h, hchunked⟩ := Context.answers_bind.mp h
  obtain ⟨scripted, hscripted, hstyled⟩ := Context.answers_bind.mp h
  have htags := visited_of_answers _ htags
  have hchunked := visited_of_answers _ hchunked
  rw [part?]
  rcases answers_scriptVisit hscripted with
    ⟨tag, isModule, written, rfl, hmode, hwritten, rfl⟩ | ⟨hmode, rfl⟩
  · have hscript : tag.isNamed ["script"] = true :=
      Tag.isNamed_singleton_iff.mpr (Tag.name_of_moduleMode? hmode)
    rcases answers_styleVisit (visited_text (visited_of_answers _ hstyled)) with
      ⟨hstyle, -⟩ | ⟨-, rfl⟩
    · cases (Tag.not_style_of_mode hmode).symm.trans hstyle
    · refine .inr ⟨.program isModule content, by rw [Option.bind_some, hmode], written, hwritten, ?_⟩
      exact eq_of_literal (Tag.isNamed_of_subset (by decide) hscript) hchunked htags
  · rw [hmode]
    rcases answers_styleVisit (visited_text (visited_of_answers _ hstyled)) with
      ⟨hstyle, written, hwritten, rfl⟩ | ⟨hstyle, rfl⟩
    · obtain ⟨tag, rfl, hsheet⟩ := (Option.any_eq_true _ _).mp hstyle
      refine .inr ⟨.sheet content, if_pos hstyle, written, hwritten, ?_⟩
      exact eq_of_literal (Tag.isNamed_of_subset (by decide) hsheet) hchunked htags
    · rw [hstyle]
      rcases answers_textVisit (visited_text hchunked) with
        ⟨hspared, rfl⟩ | ⟨hspared, pieces, hpieces, rfl⟩
      · rw [hspared]
        exact .inl ⟨rfl, htags.eq_of_childless (List.forall_mem_singleton.mpr rfl)⟩
      · rw [hspared]
        obtain ⟨⟨hkept, -⟩, hlong⟩ := by simpa only [isSpared, Bool.or_eq_false_iff] using hspared
        refine .inr ⟨_, rfl, hkept, ?_, pieces, hpieces,
          htags.eq_of_childless (childless_pieceNodes pieces)⟩
        rintro rfl
        cases hlong

theorem source_of_part? {part : Part} (h : part? inside kept content = some part) :
    part.source = content := by
  unfold part? at h
  split at h
  · exact Option.some.inj h ▸ rfl
  · split_ifs at h
    · exact Option.some.inj h ▸ rfl
    · exact Option.some.inj h ▸ rfl

theorem pieceNodes_eq_singleton_iff {pieces : List Text} :
    pieceNodes pieces = [.text false content] ↔ pieces = [content] := by
  rcases pieces with _ | ⟨piece, _ | ⟨next, others⟩⟩ <;> simp [pieceNodes]

namespace Part

variable {part : Part}

theorem Becomes.childless (h : part.Becomes d v kept new) : Childless new := by
  cases part with
  | program | sheet =>
    obtain ⟨written, -, rfl⟩ := h
    exact List.forall_mem_singleton.mpr rfl
  | passage =>
    obtain ⟨-, -, pieces, -, rfl⟩ := h
    exact childless_pieceNodes pieces

theorem Becomes.ne_nil (h : part.Becomes d v kept new) : new ≠ [] := by
  cases part with
  | program | sheet =>
    obtain ⟨written, -, rfl⟩ := h
    exact List.cons_ne_nil _ _
  | passage =>
    obtain ⟨-, hne, pieces, hpieces, rfl⟩ := h
    rcases pieces with _ | ⟨piece, _ | ⟨next, others⟩⟩
    · exact fun _ => hne hpieces.flatten.symm
    · exact List.cons_ne_nil _ _
    · exact List.cons_ne_nil _ _

/-- A part becomes the text that it was just if it stays. -/
theorem Becomes.eq_iff (h : part.Becomes d v kept new) :
    new = [.text kept part.source] ↔ part.Stays d v := by
  cases part with
  | program | sheet =>
    obtain ⟨written, hwritten, rfl⟩ := h
    rw [List.singleton_inj, Node.text.injEq, and_iff_right rfl, source]
    exact ⟨fun heq => heq ▸ hwritten, fun hstays => hwritten.unique hstays⟩
  | passage =>
    obtain ⟨rfl, -, pieces, hpieces, rfl⟩ := h
    rw [source, pieceNodes_eq_singleton_iff, Stays]
    exact ⟨fun heq => heq ▸ hpieces, fun hstays => hpieces.unique hstays⟩

end Part

/-- One or more nodes stand for a text, none of them an element, and they are that text just if the
part that it is stays. -/
theorem stays_of_wholeVisit (h : d.Answers ((wholeVisit v).text inside kept content) new) :
    new ≠ [] ∧ Childless new ∧
      (new = [.text kept content] ↔ ∀ part, part? inside kept content = some part → part.Stays d v) := by
  rcases becomes_of_wholeVisit h with ⟨hnone, rfl⟩ | ⟨part, hsome, hpart⟩
  · rw [hnone]
    exact ⟨List.cons_ne_nil _ _, List.forall_mem_singleton.mpr rfl, iff_of_true rfl nofun⟩
  · refine ⟨hpart.ne_nil, hpart.childless, ?_⟩
    rw [← source_of_part? hsome, hpart.eq_iff, source_of_part? hsome, hsome]
    exact ⟨fun hstays _ heq => Option.some.inj heq ▸ hstays, fun hall => hall part rfl⟩

end VeiledGateway.Markup
