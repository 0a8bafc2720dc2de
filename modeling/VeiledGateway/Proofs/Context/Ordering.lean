/-
  Documents in any order.

  For one key and one choice of layouts a document takes one course: which names and texts it asks
  for, and what it becomes, or why it fails.  A run in a session with that key and those layouts
  follows the course, whatever the tables of names already hold, and leaves the tokens of the names
  that it asks for.  So the order of documents shows in none of them, and in the tables only as the
  order of their entries.
-/
import Mathlib.Data.List.Nodup
import VeiledGateway.Proofs.Context.Faithful
import VeiledGateway.Proofs.Outcome
import VeiledGateway.Proofs.Text.Entries

set_option autoImplicit false

namespace VeiledGateway

/-! ## Courses -/

/-- What becomes of a program, and what it asks for on the way. -/
structure Course (α : Type) where
  outcome : Except Fault α
  names : List (Naming × Text)
  texts : List Text

namespace Rewriting

variable {α : Type}

/-- The course that a program takes when a name is answered with its token for a key, and a text is
cut by its layout. -/
def course (key : Text) (layouts : Text → Text) : Rewriting α → Course α
  | .done a => ⟨.ok a, [], []⟩
  | .fail fault => ⟨.error fault, [], []⟩
  | .name naming original next =>
    match token naming.category original key with
    | .ok tok =>
      let rest := course key layouts (next tok)
      { rest with names := (naming, original) :: rest.names }
    | .error fault => ⟨.error (.unencodable fault), [(naming, original)], []⟩
  | .pieces text next =>
    match Layout.split text (layouts text) with
    | .ok parts =>
      let rest := course key layouts (next parts)
      { rest with texts := text :: rest.texts }
    | .error digit => ⟨.error (.badLayout digit), [], [text]⟩
  | .note _ next => course key layouts next

end Rewriting

namespace Context

variable {α : Type} {key : Text} {c d e : Context} {names more : List (Naming × Text)}
  {layouts : Text → Text} {texts : List Text}

/-- The texts for whose pieces a program asks when it is run in a context. -/
def textsAsked : Rewriting α → Context → List Text
  | .done _, _ => []
  | .fail _, _ => []
  | .name naming original next, c =>
    match c.answerName naming original with
    | (.ok tok, c) => textsAsked (next tok) c
    | (.error _, _) => []
  | .pieces text next, c =>
    match c.answerPieces text with
    | (.ok parts, c) => text :: textsAsked (next parts) c
    | (.error _, _) => [text]
  | .note _ next, c => textsAsked next c

/-- Every token in the tables is the token of its name for the key, and every name stands once. -/
structure Keyed (key : Text) (c : Context) : Prop where
  sameKey : c.key = key
  tokens (naming : Naming) (original tok : Text) :
    (original, tok) ∈ (c.table naming).forward → token naming.category original key = .ok tok
  single (naming : Naming) : Entries.Single (c.table naming).forward

/-- Every text of a list has the layout that a choice of layouts gives it. -/
def LaidOut (layouts : Text → Text) (texts : List Text) (c : Context) : Prop :=
  ∀ text ∈ texts, c.textChunks.value? text = some (layouts text)

/-- The tables of one context are those of another and the tokens of some names. -/
def Gains (key : Text) (names : List (Naming × Text)) (c d : Context) : Prop :=
  ∀ naming original tok, (original, tok) ∈ (d.table naming).forward ↔
    (original, tok) ∈ (c.table naming).forward ∨
      (naming, original) ∈ names ∧ token naming.category original key = .ok tok

theorem LaidOut.mono (h : c.LaidOut layouts texts) (hgrown : c.Extends d) :
    d.LaidOut layouts texts :=
  fun text htext => hgrown.layout? (h text htext)

theorem Keyed.of_tables_eq (h : c.Keyed key) (hkey : d.key = c.key)
    (htables : ∀ naming, d.table naming = c.table naming) : d.Keyed key where
  sameKey := hkey.trans h.sameKey
  tokens := fun naming => by rw [htables]; exact h.tokens naming
  single := fun naming => by rw [htables]; exact h.single naming

/-- Names that have their tokens, or have none, add nothing. -/
theorem gains_of_tables_eq (htables : ∀ naming, d.table naming = c.table naming)
    (hnames : ∀ naming original tok, (naming, original) ∈ names →
      token naming.category original key = .ok tok →
      (original, tok) ∈ (c.table naming).forward) : Gains key names c d := by
  intro naming original tok
  rw [htables]
  constructor
  · exact .inl
  · rintro (hold | ⟨hname, htoken⟩)
    · exact hold
    · exact hnames naming original tok hname htoken

theorem gains_nil (htables : ∀ naming, d.table naming = c.table naming) : Gains key [] c d :=
  gains_of_tables_eq htables fun _ _ _ hname => absurd hname List.not_mem_nil

theorem Gains.trans (hcd : Gains key names c d) (hde : Gains key more d e) :
    Gains key (names ++ more) c e := by
  intro naming original tok
  rw [hde, hcd, List.mem_append, or_and_right, or_assoc]

theorem key_layout (c : Context) (text : Text) : (c.layout text).2.key = c.key :=
  (c.extends_layout text).key

theorem table_layout (c : Context) (text : Text) (naming : Naming) :
    (c.layout text).2.table naming = c.table naming := by
  unfold layout
  split
  · rfl
  · cases naming <;> rfl

/-! ## Answers in keyed tables -/

/-- In keyed tables a name is answered with its token, or the fault that it has none, and the tables
gain that token. -/
theorem Keyed.answerName (h : c.Keyed key) (naming : Naming) (original : Text) :
    (c.answerName naming original).1 =
        (token naming.category original key).mapError Fault.unencodable ∧
      Gains key [(naming, original)] c (c.answerName naming original).2 ∧
      (c.answerName naming original).2.Keyed key := by
  rcases c.answerName_cases naming original with
    ⟨tok, hfound, hanswer⟩ | ⟨hnone, ⟨fault, htoken, hanswer⟩ | ⟨tok, htoken, hanswer⟩⟩
  · have hmem := Entries.mem_of_get? hfound
    have htoken := h.tokens naming original tok hmem
    rw [hanswer, htoken]
    refine ⟨rfl, gains_of_tables_eq (fun _ => rfl) ?_, h⟩
    intro other name value hname hvalue
    obtain ⟨rfl, rfl⟩ := Prod.mk.inj (List.mem_singleton.mp hname)
    obtain rfl := Except.ok.inj (htoken.symm.trans hvalue)
    exact hmem
  · rw [h.sameKey] at htoken
    rw [hanswer, htoken]
    refine ⟨rfl, gains_of_tables_eq (table_inserted _) ?_, h.of_tables_eq rfl (table_inserted _)⟩
    intro other name value hname hvalue
    obtain ⟨rfl, rfl⟩ := Prod.mk.inj (List.mem_singleton.mp hname)
    cases htoken.symm.trans hvalue
  · rw [h.sameKey] at htoken
    have hgains : Gains key [(naming, original)] c (c.answerName naming original).2 := by
      intro other name value
      rw [hanswer]
      dsimp only
      rw [mem_forward_setTable_insert _ hnone, List.mem_singleton, Prod.mk.injEq, and_assoc]
      refine or_congr Iff.rfl (and_congr_right fun hother => and_congr_right fun hname => ?_)
      subst hother hname
      rw [htoken, Except.ok.injEq, eq_comm]
    refine ⟨by rw [hanswer, htoken]; rfl, hgains, ?_, ?_, ?_⟩
    · rw [hanswer, key_setTable]
      exact h.sameKey
    · intro other name value hmem
      rcases (hgains other name value).mp hmem with hold | ⟨-, hvalue⟩
      · exact h.tokens other name value hold
      · exact hvalue
    · intro other
      rw [hanswer]
      by_cases hother : other = naming
      · subst hother
        rw [table_setTable_self]
        exact (h.single other).put original tok
      · rw [table_setTable_of_ne hother, table_inserted]
        exact h.single other

theorem Keyed.layout (h : c.Keyed key) (text : Text) : (c.layout text).2.Keyed key :=
  h.of_tables_eq (c.key_layout text) (c.table_layout text)

theorem Keyed.run (h : c.Keyed key) (p : Rewriting α) : (c.run p).2.1.Keyed key :=
  run_induction (fun _ naming original h => (h.answerName naming original).2.2)
    (fun _ text h => h.layout text) p h

/-- A text that has a layout is cut by it, if the layout can be read. -/
theorem answerPieces_of_layout {text layout : Text}
    (h : c.textChunks.value? text = some layout) :
    c.answerPieces text = ((Layout.split text layout).mapError Fault.badLayout, c) := by
  have hfound : c.layout text = (layout, c) := by rw [Context.layout, h]
  rw [answerPieces, hfound]
  dsimp only
  cases Layout.split text layout <;> rfl

/-! ## Runs along a course -/

/-- A run in keyed tables that hold the layouts follows the course. -/
theorem Keyed.run_course {p : Rewriting α} (h : c.Keyed key)
    (hlaid : c.LaidOut layouts (p.course key layouts).texts) :
    (c.run p).1 = (p.course key layouts).outcome ∧
      Gains key (p.course key layouts).names c (c.run p).2.1 := by
  induction p generalizing c with
  | done a => exact ⟨rfl, gains_nil fun _ => rfl⟩
  | fail fault => exact ⟨rfl, gains_nil fun _ => rfl⟩
  | name naming original next ih =>
    obtain ⟨hanswer, hgains, hkeyed⟩ := h.answerName naming original
    have hgrown := c.extends_answerName naming original
    rw [Rewriting.course] at hlaid ⊢
    rw [Context.run]
    generalize c.answerName naming original = result at hanswer hgains hkeyed hgrown ⊢
    obtain ⟨answer, d⟩ := result
    obtain rfl : answer = _ := hanswer
    cases htoken : token naming.category original key with
    | error fault => exact ⟨rfl, hgains⟩
    | ok tok =>
      rw [htoken] at hlaid
      obtain ⟨houtcome, hrest⟩ := ih tok hkeyed (hlaid.mono hgrown)
      exact ⟨houtcome, hgains.trans hrest⟩
  | pieces text next ih =>
    rw [Rewriting.course] at hlaid ⊢
    have htext : c.textChunks.value? text = some (layouts text) := by
      refine hlaid text ?_
      split <;> exact List.mem_cons_self
    rw [Context.run, answerPieces_of_layout htext]
    cases hsplit : Layout.split text (layouts text) with
    | error digit => exact ⟨rfl, gains_nil fun _ => rfl⟩
    | ok parts =>
      rw [hsplit] at hlaid
      exact ih parts h fun other hother => hlaid other (List.mem_cons_of_mem _ hother)
  | note n next ih => exact ih h hlaid

/-- When all texts that a run asks for have their layouts, they are those of the course. -/
theorem Keyed.textsAsked_eq {p : Rewriting α} (h : c.Keyed key)
    (hlaid : c.LaidOut layouts (c.textsAsked p)) :
    c.textsAsked p = (p.course key layouts).texts := by
  induction p generalizing c with
  | done a => rfl
  | fail fault => rfl
  | name naming original next ih =>
    obtain ⟨hanswer, -, hkeyed⟩ := h.answerName naming original
    have hgrown := c.extends_answerName naming original
    rw [Rewriting.course]
    rw [textsAsked] at hlaid ⊢
    generalize c.answerName naming original = result at hanswer hkeyed hgrown hlaid ⊢
    obtain ⟨answer, d⟩ := result
    obtain rfl : answer = _ := hanswer
    cases htoken : token naming.category original key with
    | error fault => rfl
    | ok tok =>
      rw [htoken] at hlaid
      exact ih tok hkeyed (hlaid.mono hgrown)
  | pieces text next ih =>
    have htext : c.textChunks.value? text = some (layouts text) := by
      refine hlaid text ?_
      rw [textsAsked]
      split <;> exact List.mem_cons_self
    rw [Rewriting.course]
    rw [textsAsked, answerPieces_of_layout htext] at hlaid ⊢
    cases hsplit : Layout.split text (layouts text) with
    | error digit => rfl
    | ok parts =>
      rw [hsplit] at hlaid
      have hrest := ih parts h fun other hother => hlaid other (List.mem_cons_of_mem _ hother)
      exact congrArg (text :: ·) hrest
  | note n next ih => exact ih h hlaid

variable {settings : Settings}

theorem Keyed.afterAll (h : c.Keyed key) (works : List Work) : (c.afterAll settings works).Keyed key := by
  induction works generalizing c with
  | nil => exact h
  | cons work rest ih =>
    obtain ⟨_, p, -, hwork⟩ := afterWork_eq_run settings c work
    refine ih ?_
    rw [hwork]
    exact h.run p

/-- The tables of names are empty, for a key. -/
def Fresh (key : Text) (c : Context) : Prop :=
  c.key = key ∧ ∀ naming, (c.table naming).forward = []

/-- Two contexts hold the same layout for every text of a list. -/
def SharesLayouts (c d : Context) (texts : List Text) : Prop :=
  ∀ text ∈ texts, ∃ layout,
    c.textChunks.value? text = some layout ∧ d.textChunks.value? text = some layout

/-- The layouts that a context holds. -/
def layoutOf (c : Context) (text : Text) : Text :=
  (c.textChunks.value? text).getD []

theorem SharesLayouts.laidOut (h : c.SharesLayouts d texts) :
    c.LaidOut c.layoutOf texts ∧ d.LaidOut c.layoutOf texts := by
  constructor <;> intro text htext <;> obtain ⟨layout, hlayout, hlayout'⟩ := h text htext
  · rw [layoutOf, hlayout]
    rfl
  · rw [layoutOf, hlayout, hlayout']
    rfl

theorem Fresh.keyed (h : c.Fresh key) : c.Keyed key where
  sameKey := h.1
  tokens := fun naming original tok hmem => by rw [h.2] at hmem; cases hmem
  single := fun naming => by rw [h.2]; exact List.nodup_nil

/-- What tables that were empty have gained decides what they hold. -/
theorem Gains.perm {c' d' : Context} (hc : c.Fresh key) (hc' : c'.Fresh key) (hd : d.Keyed key)
    (hd' : d'.Keyed key) (hgains : Gains key names c d) (hgains' : Gains key more c' d')
    (hsame : ∀ name, name ∈ names ↔ name ∈ more) (naming : Naming) :
    (d.table naming).forward.Perm (d'.table naming).forward := by
  rw [List.perm_ext_iff_of_nodup (List.Nodup.of_map _ (hd.single naming))
    (List.Nodup.of_map _ (hd'.single naming))]
  rintro ⟨original, tok⟩
  rw [hgains, hgains', hc.2, hc'.2, hsame]

end Context

/-! ## Documents -/

/-- A document that is to be rewritten. -/
structure Draft where
  base : Text
  mediaType : Option Text
  source : Text

namespace Draft

/-- The program that rewrites a document. -/
def rewrite (settings : Settings) (assets : Option Assets) (draft : Draft) : Rewriting Text :=
  Pipeline.rewrite ⟨settings, assets, draft.base⟩ draft.mediaType draft.source

/-- What a document becomes in a context, or why it becomes nothing. -/
def outcome (settings : Settings) (assets : Option Assets) (draft : Draft) (c : Context) :
    Except Fault Text :=
  (Pipeline.run ⟨settings, assets, draft.base⟩ draft.mediaType draft.source c).1

/-- The rewriting of a document as a step of a session. -/
def work (assets : Option Assets) (draft : Draft) : Work :=
  .document assets draft.base draft.mediaType draft.source

variable {settings : Settings} {assets : Option Assets} {key : Text} {layouts : Text → Text}
  {c c' : Context} {drafts : List Draft}

theorem outcome_eq_course {draft : Draft} (h : c.Keyed key)
    (hlaid : c.LaidOut layouts ((draft.rewrite settings assets).course key layouts).texts) :
    draft.outcome settings assets c =
      ((draft.rewrite settings assets).course key layouts).outcome.mapError
        (Pipeline.failure draft.mediaType) := by
  rw [← (h.run_course hlaid).1]
  rfl

/-- Documents one after the other leave the tokens of all names that any of them asks for. -/
theorem gains_afterAll (h : c.Keyed key)
    (hlaid : ∀ draft ∈ drafts,
      c.LaidOut layouts ((draft.rewrite settings assets).course key layouts).texts) :
    Context.Gains key
      (drafts.flatMap fun draft => ((draft.rewrite settings assets).course key layouts).names)
      c (c.afterAll settings (drafts.map (work assets))) := by
  induction drafts generalizing c with
  | nil => exact Context.gains_nil fun _ => rfl
  | cons draft rest ih =>
    obtain ⟨hfirst, hrest⟩ := List.forall_mem_cons.mp hlaid
    have hgrown := Context.extends_run (draft.rewrite settings assets) c
    exact (h.run_course hfirst).2.trans
      (ih (h.run _) fun other hother => (hrest other hother).mono hgrown)

/-- In two sessions with one key, empty tables of names and the same layout for every text that is
asked for, every document has the same outcome, whatever was done before it in each of them; and
after the same documents, in any order and any number of times, the tables of names hold the same
entries up to their order. -/
theorem outcome_independent (hc : c.Fresh key) (hc' : c'.Fresh key)
    (hlayouts : ∀ draft ∈ drafts, c.SharesLayouts c' (c.textsAsked (draft.rewrite settings assets))) :
    (∀ draft ∈ drafts, ∀ before before' : List Work,
      draft.outcome settings assets (c.afterAll settings before) =
        draft.outcome settings assets (c'.afterAll settings before')) ∧
    ∀ order order' : List Draft, (∀ draft ∈ order, draft ∈ drafts) →
      (∀ draft, draft ∈ order ↔ draft ∈ order') → ∀ naming,
        ((c.afterAll settings (order.map (work assets))).table naming).forward.Perm
          ((c'.afterAll settings (order'.map (work assets))).table naming).forward := by
  -- Both sessions have the layouts that stand in the first.
  have hlaid : ∀ draft ∈ drafts,
      c.LaidOut c.layoutOf ((draft.rewrite settings assets).course key c.layoutOf).texts ∧
        c'.LaidOut c.layoutOf ((draft.rewrite settings assets).course key c.layoutOf).texts := by
    intro draft hdraft
    have hboth := (hlayouts draft hdraft).laidOut
    rwa [hc.keyed.textsAsked_eq hboth.1] at hboth
  constructor
  · intro draft hdraft before before'
    obtain ⟨hfirst, hsecond⟩ := hlaid draft hdraft
    rw [outcome_eq_course (hc.keyed.afterAll before) (hfirst.mono (c.extends_afterAll before)),
      outcome_eq_course (hc'.keyed.afterAll before') (hsecond.mono (c'.extends_afterAll before'))]
  · intro order order' horder hsame
    refine Context.Gains.perm hc hc' (hc.keyed.afterAll _) (hc'.keyed.afterAll _)
      (gains_afterAll hc.keyed fun draft hdraft => (hlaid draft (horder draft hdraft)).1)
      (gains_afterAll hc'.keyed fun draft hdraft =>
        (hlaid draft (horder draft ((hsame draft).mpr hdraft))).2) ?_
    intro name
    simp only [List.mem_flatMap, hsame]

/-- A style sheet, a page whose script cannot be read, and such a script by itself, in two orders; the
second session holds another layout besides. -/
theorem sheet_outcome_independent :
    let settings := Settings.default
    let sheet : Draft := ⟨"/a.css", some "text/css", ".card\x7bcontent:\"open\"\x7d"⟩
    let page : Draft := ⟨"/", some "text/html", "<p class=note><script>function (</script>"⟩
    let script : Draft := ⟨"/a.js", some "text/javascript", "function ("⟩
    let c := Context.ofMappings "k" { Mappings.empty with textChunks := [("open", "22")] }
      (Twister.ofSeed 0)
    let c' := Context.ofMappings "k"
      { Mappings.empty with textChunks := [("more", "4"), ("open", "22")] } (Twister.ofSeed 1)
    let d := c.afterAll settings ([sheet, page, script].map (work none))
    let d' := c'.afterAll settings ([page, script, page, sheet].map (work none))
    sheet.outcome settings none d = sheet.outcome settings none d' ∧
      page.outcome settings none d = page.outcome settings none d' ∧
      (d.table .className).forward.Perm (d'.table .className).forward := by
  intro settings sheet page script c c' d d'
  have hasked : ∀ draft ∈ [sheet, page, script],
      ∀ text ∈ c.textsAsked (draft.rewrite settings none), text = ("open" : Text) := by
    decide +kernel
  have hfresh : c.Fresh "k" ∧ c'.Fresh "k" := by
    constructor <;> exact ⟨rfl, fun naming => by cases naming <;> rfl⟩
  have hlayouts : ∀ draft ∈ [sheet, page, script],
      c.SharesLayouts c' (c.textsAsked (draft.rewrite settings none)) := by
    intro draft hdraft text htext
    rw [hasked draft hdraft text htext]
    exact ⟨"22", by decide +kernel, by decide +kernel⟩
  obtain ⟨hsame, hperm⟩ := outcome_independent hfresh.1 hfresh.2 hlayouts
  refine ⟨hsame sheet List.mem_cons_self _ _,
    hsame page (List.mem_cons_of_mem _ List.mem_cons_self) _ _, ?_⟩
  refine hperm _ [page, script, page, sheet] (fun _ h => h) ?_ .className
  intro draft
  simp only [List.mem_cons, List.not_mem_nil, or_false]
  tauto

end Draft

end VeiledGateway
