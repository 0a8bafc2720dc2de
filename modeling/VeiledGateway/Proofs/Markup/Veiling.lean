/-
  What rewriting leaves of a document.

  A document that was rewritten shows what it showed before: but for empty comments between texts, it
  differs from the document that was read only in the values of some attributes, and in the text of
  scripts and style sheets.  The four visits are taken one by one: two of them change one text for one
  text in elements with code, one cuts texts into pieces, and one changes tags.

  All that stands in a script or a style sheet of a document that was read is one text, if anything
  does: while the document grows, the element stays innermost and empty until its end tag, and its text
  becomes a node only then.
-/
import VeiledGateway.Markup.Tree
import VeiledGateway.Proofs.Markup.Scanning
import VeiledGateway.Proofs.Markup.Visiting

set_option autoImplicit false

namespace VeiledGateway.Markup

/-! ## Scripts and style sheets -/

/-- Nothing, or one text. -/
def OneText (nodes : List Node) : Prop :=
  nodes = [] ∨ ∃ kept content, nodes = [.text kept content]

theorem OneText.reverse {nodes : List Node} (h : OneText nodes) : OneText nodes.reverse := by
  rcases h with rfl | ⟨kept, content, rfl⟩
  · exact .inl rfl
  · exact .inr ⟨kept, content, rfl⟩

/-- A node in which all scripts and style sheets hold one text or nothing. -/
inductive Node.Plain : Node → Prop
  | text (kept : Bool) (content : Text) : Plain (.text kept content)
  | aside (kind : AsideKind) (content : Text) : Plain (.aside kind content)
  | element {tag : Tag} {children : List Node}
      (hraw : isRawElement tag.name = true → OneText children)
      (hchildren : ∀ node ∈ children, node.Plain) : Plain (.element tag children)

theorem Node.Plain.inside {tag : Tag} {children : List Node} (h : (Node.element tag children).Plain) :
    (isRawElement tag.name = true → OneText children) ∧ ∀ node ∈ children, node.Plain := by
  cases h with
  | element hraw hchildren => exact ⟨hraw, hchildren⟩

/-- An element of any name may hold one text or nothing. -/
theorem Node.plain_of_oneText {tag : Tag} {children : List Node} (h : OneText children) :
    (Node.element tag children).Plain := by
  refine .element (fun _ => h) fun node hnode => ?_
  rcases h with rfl | ⟨kept, content, rfl⟩
  · cases hnode
  · rw [List.mem_singleton.mp hnode]
    exact .text kept content

theorem Tag.name_ofParts (name : Text) (attributes : List (Text × Text)) :
    (ofParts name attributes).name = name := by
  unfold ofParts withEncoding
  dsimp only
  split
  · rfl
  · split
    · rfl
    · split
      · split
        · rfl
        · rfl
      · rfl

theorem Tag.not_isRaw_of_isVoid {tag : Tag} (h : tag.isVoid = true) :
    isRawElement tag.name = false := by
  rcases hraw : isRawElement tag.name with _ | _
  · rfl
  · unfold isVoid isNamed at h
    rcases isRawElement_iff.mp hraw with hname | hname
    · rw [hname] at h
      exact absurd h (by decide)
    · rw [hname] at h
      exact absurd h (by decide)

namespace Growth

/-- A document that grows, where no element with raw text is open. -/
structure Free (g : Growth) : Prop where
  nodes : ∀ node ∈ g.nodes, node.Plain
  frames : ∀ frame ∈ g.frames,
    isRawElement frame.tag.name = false ∧ ∀ node ∈ frame.nodes, node.Plain
  ended : ∀ name ∈ g.ended, isRawElement name = false

/-- The growth where an element is open besides, without any nodes. -/
def opened (g : Growth) (tag : Tag) : Growth :=
  { g with frames := ⟨tag, []⟩ :: g.frames }

/-- A document that grows, where `inside` is the element whose raw text is being read: it is the
innermost one, and it has no nodes yet. -/
inductive Sound : Option Text → Growth → Prop
  | free {g : Growth} (h : g.Free) : Sound none g
  | inside {g : Growth} {tag : Tag} (hraw : isRawElement tag.name = true) (h : g.Free) :
      Sound (some tag.name) (g.opened tag)

variable {g : Growth} {node : Node}

theorem free_empty : empty.Free := by
  constructor <;> exact fun _ h => nomatch h

theorem Free.read (h : g.Free) (pending : List Text) : Free { g with pending := pending } :=
  ⟨h.nodes, h.frames, h.ended⟩

theorem Free.add (h : g.Free) (hnode : node.Plain) : (g.add node).Free := by
  obtain ⟨frames, nodes, pending, ended⟩ := g
  cases frames with
  | nil => exact ⟨List.forall_mem_cons.mpr ⟨hnode, h.nodes⟩, h.frames, h.ended⟩
  | cons frame outer =>
    obtain ⟨⟨hraw, hframe⟩, houter⟩ := List.forall_mem_cons.mp h.frames
    have hnodes := List.forall_mem_cons.mpr ⟨hnode, hframe⟩
    exact ⟨h.nodes, List.forall_mem_cons.mpr ⟨⟨hraw, hnodes⟩, houter⟩, h.ended⟩

theorem Free.flush (h : g.Free) : g.flush.Free := by
  unfold Growth.flush
  split
  · exact h
  · exact (h.read []).add (.text _ _)

theorem Free.pop (h : g.Free) : g.pop.Free := by
  obtain ⟨frames, nodes, pending, ended⟩ := g
  cases frames with
  | nil => exact h
  | cons frame outer =>
    obtain ⟨⟨hraw, hframe⟩, houter⟩ := List.forall_mem_cons.mp h.frames
    refine Free.add ⟨h.nodes, houter, h.ended⟩ (.element (fun hname => ?_) fun node hnode => ?_)
    · cases hraw.symm.trans hname
    · exact hframe node (List.mem_reverse.mp hnode)

theorem Free.popMany (h : g.Free) (n : Nat) : (g.popMany n).Free := by
  induction n generalizing g with
  | zero => exact h
  | succ n ih => exact ih h.pop

theorem Free.close (h : g.Free) (name : Text) : (g.close name).Free := by
  unfold Growth.close
  dsimp only
  split
  · exact h.flush.popMany _
  · exact h.flush

/-! ## Elements that end -/

/-- All text that was read becomes one node of the innermost element. -/
theorem flush_opened (g : Growth) (tag : Tag) :
    ∃ children, OneText children ∧
      (g.opened tag).flush = { g with frames := ⟨tag, children⟩ :: g.frames, pending := [] } := by
  obtain ⟨frames, nodes, pending, ended⟩ := g
  cases pending with
  | nil => exact ⟨[], .inl rfl, rfl⟩
  | cons last others => exact ⟨_, .inr ⟨_, _, rfl⟩, rfl⟩

/-- The innermost element ends when it is told by its name. -/
theorem close_opened (g : Growth) (tag : Tag) :
    (g.opened tag).close tag.name = (g.opened tag).flush.pop := by
  obtain ⟨children, -, hflush⟩ := flush_opened g tag
  unfold close
  rw [hflush]
  dsimp only
  rw [depthOf, if_pos rfl]
  rfl

theorem Free.pop_opened (h : g.Free) (tag : Tag) : (g.opened tag).flush.pop.Free := by
  obtain ⟨children, hchildren, hflush⟩ := flush_opened g tag
  rw [hflush]
  exact Free.add (h.read []) (Node.plain_of_oneText hchildren.reverse)

/-! ## Tokens -/

theorem Free.take_start (h : g.Free) (name : Text) (attributes : List (Text × Text)) (closed : Bool) :
    Sound (rawAfter [.start name attributes closed]) (g.take (.start name attributes closed)) := by
  have hname := Tag.name_ofParts name attributes
  have hclose : ((g.enter (Tag.ofParts name attributes)).close name).Free := by
    have hpop := h.flush.pop_opened (Tag.ofParts name attributes)
    rwa [← close_opened, hname] at hpop
  have hafter : rawAfter [.start name attributes false] = if isRawElement name then some name else none :=
    rfl
  unfold Growth.take
  dsimp only
  cases closed with
  | true => exact .free hclose
  | false =>
    rw [if_neg Bool.false_ne_true, hafter]
    split
    · rename_i hraw
      split
      · rename_i hvoid
        have hnot := Tag.not_isRaw_of_isVoid hvoid
        rw [hname, hraw] at hnot
        cases hnot
      · have hinside : Sound (some (Tag.ofParts name attributes).name)
            (g.flush.opened (Tag.ofParts name attributes)) := .inside (by rwa [hname]) h.flush
        rwa [hname] at hinside
    · rename_i hraw
      have hraw := Bool.eq_false_iff.mpr hraw
      split
      · exact .free ⟨hclose.nodes, hclose.frames, List.forall_mem_cons.mpr ⟨hraw, hclose.ended⟩⟩
      · have hframe : isRawElement (Tag.ofParts name attributes).name = false := by rw [hname, hraw]
        have hempty : ∀ node ∈ ([] : List Node), node.Plain := fun _ h => nomatch h
        exact .free ⟨h.flush.nodes, List.forall_mem_cons.mpr ⟨⟨hframe, hempty⟩, h.flush.frames⟩,
          h.flush.ended⟩

theorem Free.take_stop (h : g.Free) (name : Text) : (g.take (.stop name)).Free := by
  unfold take
  dsimp only
  split
  · exact ⟨h.nodes, h.frames, fun other hother => h.ended other (List.mem_of_mem_erase hother)⟩
  · exact h.close name

/-- What one token keeps. -/
theorem Free.take (h : g.Free) (token : Token) : Sound (rawAfter [token]) (g.take token) := by
  cases token with
  | text content => exact .free (h.read _)
  | start name attributes closed => exact h.take_start name attributes closed
  | stop name => exact .free (h.take_stop name)
  | aside kind content => exact .free (h.flush.add (.aside _ _))

theorem Free.take_end (h : g.Free) {tag : Tag} (hraw : isRawElement tag.name = true) :
    ((g.opened tag).take (.stop tag.name)).Free := by
  unfold Growth.take
  dsimp only
  split
  · rename_i hended
    cases hraw.symm.trans (h.ended _ (List.contains_iff_mem.mp hended))
  · rw [close_opened]
    exact h.pop_opened tag

theorem Sound.run {inside last : Option Text} {tokens : List Token} (h : Sound inside g)
    (hruns : Runs inside tokens last) : Sound last (tokens.foldl Growth.take g) := by
  induction hruns generalizing g with
  | nil => exact h
  | token token _ ih =>
    cases h with
    | free h => exact ih (h.take token)
  | raw content _ ih =>
    cases h with
    | @inside g _ hraw h => exact ih (.inside hraw (h.read (content :: g.pending)))
  | stop _ ih =>
    cases h with
    | inside hraw h => exact ih (.free (h.take_end hraw))

theorem Sound.finish {inside : Option Text} (h : Sound inside g) : ∀ node ∈ g.finish, node.Plain := by
  have hall : ∀ {g : Growth}, g.Free → ∀ node ∈ g.nodes.reverse, node.Plain :=
    fun h node hnode => h.nodes node (List.mem_reverse.mp hnode)
  cases h with
  | free h => exact hall (h.flush.popMany _)
  | @inside g tag hraw h =>
    obtain ⟨children, hchildren, hflush⟩ := flush_opened g tag
    have hpop := (h.pop_opened tag).popMany g.frames.length
    unfold Growth.finish
    dsimp only
    rw [hflush] at hpop ⊢
    exact hall hpop

end Growth

/-- In a document that was read, scripts and style sheets hold one text or nothing. -/
theorem plain_of_read {source : Text} {document : Document} (h : Document.read source = .ok document) :
    ∀ node ∈ document, node.Plain := by
  obtain ⟨tokens, htokens, h⟩ := Outcome.bind_eq_ok.mp h
  obtain rfl := Outcome.pure_eq_ok.mp h
  obtain ⟨last, hruns⟩ := runs_of_scan htokens
  exact ((Growth.Sound.free Growth.free_empty).run hruns).finish

variable {d : Context} {visit : Visit} {v : View}

/-- The text of an element is code: a script that is written in the document, or a style sheet. -/
def Tag.IsCode (tag : Tag) : Prop :=
  (moduleMode? tag).isSome = true ∨ tag.isNamed ["style"] = true

theorem Tag.IsCode.isRawElement {tag : Tag} (h : tag.IsCode) : isRawElement tag.name = true := by
  rw [isRawElement_iff]
  rcases h with hscript | hstyle
  · obtain ⟨isModule, hmode⟩ := Option.isSome_iff_exists.mp hscript
    exact .inl (Tag.name_of_moduleMode? hmode)
  · exact .inr (Tag.isNamed_singleton_iff.mp hstyle)

/-! ## Code -/

/-- A visit that changes nothing but texts in elements with code, one for one. -/
structure Visit.Recodes (d : Context) (visit : Visit) : Prop where
  tag {old new : Tag} (h : d.Answers (visit.tag old) new) : old = new
  text {inside : Option Tag} {kept : Bool} {content : Text} {new : List Node}
    (h : d.Answers (visit.text inside kept content) new) :
    ∃ content', new = [.text kept content'] ∧
      ((∀ tag, inside = some tag → ¬ tag.IsCode) → content' = content)

theorem recodes_scriptVisit (d : Context) (v : View) : (scriptVisit v).Recodes d where
  tag := Context.answers_pure.mp
  text := by
    intro inside kept content new h
    unfold scriptVisit at h
    dsimp only at h
    split at h
    · rename_i isModule hmode
      obtain ⟨content', -, h⟩ := Context.answers_bind.mp h
      obtain rfl := Context.answers_pure.mp h
      refine ⟨content', rfl, fun hcode => ?_⟩
      obtain ⟨tag, htag, hmode⟩ := Option.bind_eq_some_iff.mp hmode
      exact absurd (.inl (by rw [hmode]; rfl)) (hcode tag htag)
    · obtain rfl := Context.answers_pure.mp h
      exact ⟨content, rfl, fun _ => rfl⟩

theorem recodes_styleVisit (d : Context) (v : View) : (styleVisit v).Recodes d where
  tag := Context.answers_pure.mp
  text := by
    intro inside kept content new h
    unfold styleVisit at h
    dsimp only at h
    split at h
    · rename_i hstyle
      obtain ⟨content', -, h⟩ := Context.answers_bind.mp h
      obtain rfl := Context.answers_pure.mp h
      refine ⟨content', rfl, fun hcode => ?_⟩
      obtain ⟨tag, htag, hnamed⟩ := (Option.any_eq_true _ _).mp hstyle
      exact absurd (.inr hnamed) (hcode tag htag)
    · obtain rfl := Context.answers_pure.mp h
      exact ⟨content, rfl, fun _ => rfl⟩

/-- Where elements with code hold one text or nothing, such a visit changes nothing else. -/
theorem Visited.recoded {inside : Option Tag} {a b : List Node} (hvisit : visit.Recodes d)
    (h : Visited d visit inside a b) (hplain : ∀ node ∈ a, node.Plain)
    (hinside : ∀ tag, inside = some tag → ¬ tag.IsCode) : Alike Eq Tag.IsCode a b := by
  induction h with
  | nil => exact .nil
  | text hnew _ ih =>
    obtain ⟨content', rfl, hsame⟩ := hvisit.text hnew
    obtain rfl := hsame hinside
    exact .text _ _ (ih (List.forall_mem_cons.mp hplain).2 hinside)
  | aside kind content _ ih =>
    exact .aside kind content (ih (List.forall_mem_cons.mp hplain).2 hinside)
  | @element inside tag tag' children children' rest rest' htag hchildren _ ihchildren ihrest =>
    obtain rfl := hvisit.tag htag
    obtain ⟨hnode, hrest⟩ := List.forall_mem_cons.mp hplain
    have hrest := ihrest hrest hinside
    obtain ⟨hraw, hinner⟩ := hnode.inside
    -- That the text of an element with code is alone is known at the element, not at the text.
    by_cases hcode : tag.IsCode
    · rcases hraw hcode.isRawElement with rfl | ⟨kept, content, rfl⟩
      · rcases hchildren with _ | _
        exact .element rfl .nil hrest
      · rcases hchildren with _ | ⟨hnew, _ | _⟩
        obtain ⟨content', rfl, -⟩ := hvisit.text hnew
        exact .code kept content content' hcode rfl hrest
    · refine .element rfl (ihchildren hinner fun tag htag => ?_) hrest
      exact Option.some.inj htag ▸ hcode

theorem Alike.oneText {tags : Tag → Tag → Prop} {coded : Tag → Prop} {a b : List Node}
    (h : Alike tags coded a b) (ha : OneText a) : OneText b := by
  rcases ha with rfl | ⟨kept, content, rfl⟩
  · rcases h with _ | _
    exact .inl rfl
  · rcases h with _ | ⟨_, _, _ | _⟩
    exact .inr ⟨kept, content, rfl⟩

/-- Nodes that are alike with the same tags hold one text or nothing in the same elements. -/
theorem Alike.plain {coded : Tag → Prop} {a b : List Node} (h : Alike Eq coded a b)
    (hplain : ∀ node ∈ a, node.Plain) : ∀ node ∈ b, node.Plain := by
  induction h with
  | nil => exact hplain
  | text kept content _ ih =>
    exact List.forall_mem_cons.mpr ⟨.text kept content, ih (List.forall_mem_cons.mp hplain).2⟩
  | aside kind content _ ih =>
    exact List.forall_mem_cons.mpr ⟨.aside kind content, ih (List.forall_mem_cons.mp hplain).2⟩
  | element htag hchildren _ ihchildren ihrest =>
    subst htag
    obtain ⟨hnode, hrest⟩ := List.forall_mem_cons.mp hplain
    obtain ⟨hraw, hinner⟩ := hnode.inside
    have hraw' := fun hname => hchildren.oneText (hraw hname)
    exact List.forall_mem_cons.mpr ⟨.element hraw' (ihchildren hinner), ihrest hrest⟩
  | code kept content content' _ htag _ ih =>
    refine List.forall_mem_cons.mpr ⟨Node.plain_of_oneText ?_, ih (List.forall_mem_cons.mp hplain).2⟩
    exact .inr ⟨kept, content', rfl⟩

/-! ## The whole document -/

theorem alike_of_rewrite {document new : Document} (hplain : ∀ node ∈ document, node.Plain)
    (h : d.Answers (Document.rewrite v document) new) :
    Alike (Tag.Veiled v.settings d) Tag.IsCode (tidy document) (tidy new) := by
  obtain ⟨scripted, hscripted, h⟩ := Context.answers_bind.mp h
  obtain ⟨styled, hstyled, h⟩ := Context.answers_bind.mp h
  obtain ⟨chunked, hchunked, hnew⟩ := Context.answers_bind.mp h
  have houtside : ∀ tag, (none : Option Tag) = some tag → ¬ tag.IsCode := fun _ h => nomatch h
  have hscripts := (visited_of_answers _ hscripted).recoded (recodes_scriptVisit d v) hplain houtside
  have hstyles := (visited_of_answers _ hstyled).recoded (recodes_styleVisit d v)
    (hscripts.plain hplain) houtside
  have hcode := (hscripts.trans hstyles).tidy
  have htags := ((visited_of_answers _ hnew).alike Tag.IsCode).tidy
  rw [(visited_of_answers _ hchunked).tidy_eq] at htags
  exact hcode.trans htags

/-- Whatever context a document is rewritten in: if that succeeds, the tree that is written differs
from the tree that was read only in the values of some attributes and in the text of scripts and style
sheets, once empty comments are out of both and texts side by side are one. -/
theorem rewrite_veils {c : Context} {source out : Text} {notes : List Note}
    (h : c.run (rewrite v source) = (.ok out, d, notes)) :
    ∃ document new, Document.read source = .ok document ∧
      c.run (Document.rewrite v document) = (.ok new, d, notes) ∧ out = Document.write new ∧
      Alike (Tag.Veiled v.settings d) Tag.IsCode (tidy document) (tidy new) := by
  unfold rewrite at h
  split at h
  · cases (Prod.mk.inj h).1
  · rename_i document hread
    rw [Context.run_map] at h
    rcases hrun : c.run (Document.rewrite v document) with ⟨fault | new, d', notes'⟩
    · rw [hrun] at h
      cases (Prod.mk.inj h).1
    · rw [hrun] at h
      obtain ⟨hout, hrest⟩ := Prod.mk.inj h
      obtain ⟨rfl, rfl⟩ := Prod.mk.inj hrest
      refine ⟨document, new, hread, hrun, (Except.ok.inj hout).symm, ?_⟩
      exact alike_of_rewrite (plain_of_read hread) (Context.answers_of_run hrun)

/-- A context that holds the token of a class and the layout of a text. -/
def greetingContext : Context :=
  .ofMappings "k" { Mappings.empty with
    classNames := [("card", "k1")], textChunks := [("hi you", "33")] } (Twister.ofSeed 0)

/-- A site without files. -/
def greetingView : View :=
  ⟨Settings.default, none, "/"⟩

/-- A document with two classes, one of them excluded, a text, and a style sheet. -/
def greeting : Text := "<p class='card fa-on'>hi you</p><style>p\x7b\x7d</style>"

/-- What becomes of that document in that context. -/
def greetingRun : Except Fault Text × Context × List Note :=
  greetingContext.run (rewrite greetingView greeting)

/-- That document is rewritten, and differs from what was read in nothing else. -/
theorem greeting_veils :
    ∃ out, greetingRun.1 = .ok out ∧ ∃ document new, Document.read greeting = .ok document ∧
      greetingContext.run (Document.rewrite greetingView document) = (.ok new, greetingRun.2) ∧
      out = Document.write new ∧
      Alike (Tag.Veiled Settings.default greetingRun.2.1) Tag.IsCode (tidy document) (tidy new) := by
  have hsome : greetingRun.1.toOption.isSome = true := by decide +kernel
  have hveils := fun d => @rewrite_veils d greetingView greetingContext greeting
  rw [← greetingRun] at hveils
  generalize greetingRun = run at hsome hveils ⊢
  obtain ⟨out, hout⟩ := Option.isSome_iff_exists.mp hsome
  have hrun := Outcome.eq_pair_of_toOption hout
  exact ⟨out, Outcome.eq_ok_of_toOption hout, hveils run.2.1 hrun⟩

end VeiledGateway.Markup
