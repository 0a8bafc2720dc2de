/-
  Rewriting the same document again.

  What a run gave can be read off the tables that it left, and off all tables that extend them.  A
  program that is answered from its tables puts nothing into them: so a document that was rewritten
  once is rewritten to the same text at any later time, and nothing changes by it.
-/
import VeiledGateway.Proofs.Context.Answering
import VeiledGateway.Proofs.Context.Faithful
import VeiledGateway.Proofs.Outcome

set_option autoImplicit false

namespace VeiledGateway

namespace Context

variable {α : Type} {c : Context}

/-! ## Programs that are answered from the tables -/

/-- A name that has a token is answered with it, and nothing changes. -/
theorem answerName_of_value? {naming : Naming} {original tok : Text}
    (h : (c.table naming).value? original = some tok) :
    c.answerName naming original = (.ok tok, c) := by
  rw [answerName, h]

/-- A text that has a layout is cut by it, and nothing changes. -/
theorem answerPieces_of_hasPieces {text : Text} {parts : List Text} (h : c.HasPieces text parts) :
    c.answerPieces text = (.ok parts, c) := by
  obtain ⟨layout, hlayout, hsplit⟩ := h
  have hfound : c.layout text = (layout, c) := by rw [Context.layout, hlayout]
  rw [answerPieces, hfound]
  simp only [hsplit]

/-- A program that the tables answer gives the answer when it is run, and nothing changes. -/
theorem run_of_answers {p : Rewriting α} {a : α} (h : c.Answers p a) :
    ∃ notes, c.run p = (.ok a, c, notes) := by
  induction p with
  | done b => exact ⟨[], by rw [run, show b = a from h]⟩
  | fail fault => exact absurd h id
  | name naming original next ih =>
    obtain ⟨tok, htok, hnext⟩ := h
    obtain ⟨notes, hrun⟩ := ih tok hnext
    refine ⟨notes, ?_⟩
    rw [run, answerName_of_value? htok]
    exact hrun
  | pieces text next ih =>
    obtain ⟨parts, hparts, hnext⟩ := h
    obtain ⟨notes, hrun⟩ := ih parts hnext
    refine ⟨notes, ?_⟩
    rw [run, answerPieces_of_hasPieces hparts]
    exact hrun
  | note n next ih =>
    obtain ⟨notes, hrun⟩ := ih h
    exact ⟨n :: notes, by rw [run, hrun]⟩

/-! ## What a context would have answered -/

/-- Each name that a later context has a token for would have been given that token before. -/
structure Foretells (c d : Context) : Prop where
  grown : c.Extends d
  answer {naming : Naming} {original tok : Text}
    (h : (d.table naming).value? original = some tok) : (c.answerName naming original).1 = .ok tok

theorem Foretells.refl (c : Context) : c.Foretells c where
  grown := .refl c
  answer := fun h => by rw [answerName_of_value? h]

theorem Foretells.of_table_eq {d e : Context} (h : c.Foretells d) (hgrown : d.Extends e)
    (htable : ∀ naming, e.table naming = d.table naming) : c.Foretells e where
  grown := h.grown.trans hgrown
  answer := fun hvalue => h.answer (by rwa [← htable])

theorem Foretells.answerName {d : Context} (h : c.Foretells d) (naming : Naming) (original : Text) :
    c.Foretells (d.answerName naming original).2 := by
  have hgrown := d.extends_answerName naming original
  rcases d.answerName_cases naming original with
    ⟨tok, -, hanswer⟩ | ⟨hnone, ⟨fault, -, hanswer⟩ | ⟨tok, htoken, hanswer⟩⟩ <;>
    rw [hanswer] at hgrown ⊢
  · exact h
  · exact h.of_table_eq hgrown fun other => table_inserted _ other
  · refine ⟨h.grown.trans hgrown, fun {other name value} hvalue => ?_⟩
    dsimp only at hvalue
    by_cases hother : other = naming
    · subst hother
      rw [table_setTable_self, TokenTable.insert, TokenTable.value?] at hvalue
      by_cases hname : name = original
      · subst hname
        rw [Entries.get?_put_self] at hvalue
        obtain rfl := Option.some.inj hvalue
        rcases c.answerName_cases other name with
          ⟨old, hold, -⟩ | ⟨-, ⟨fault, hfault, -⟩ | ⟨new, hnew, hanswer⟩⟩
        · exact nomatch hnone.symm.trans (h.grown.value? hold)
        · rw [← h.grown.key, htoken] at hfault
          cases hfault
        · rw [← h.grown.key, htoken] at hnew
          rw [hanswer, Except.ok.inj hnew]
      · rw [Entries.get?_put_of_ne _ _ hname] at hvalue
        exact h.answer hvalue
    · rw [table_setTable_of_ne hother, table_inserted] at hvalue
      exact h.answer hvalue

theorem Foretells.layout {d : Context} (h : c.Foretells d) (text : Text) :
    c.Foretells (d.layout text).2 := by
  have hgrown := d.extends_layout text
  rcases d.layout_cases text with ⟨layout, -, hlayout⟩ | ⟨-, layout, twister, -, hlayout⟩ <;>
    rw [hlayout] at hgrown ⊢
  · exact h
  · exact h.of_table_eq hgrown fun naming => by cases naming <;> rfl

/-- A program that asks for one name is given its token. -/
theorem Foretells.run_name {d : Context} (h : c.Foretells d) {naming : Naming} {original tok : Text}
    (hvalue : (d.table naming).value? original = some tok) :
    (c.run (.name naming original .done)).1 = .ok tok := by
  have hanswer := h.answer hvalue
  unfold run
  rcases hcase : c.answerName naming original with ⟨fault | tok', e⟩ <;> rw [hcase] at hanswer
  · cases hanswer
  · obtain rfl := Except.ok.inj hanswer
    rfl

theorem foretells_run (p : Rewriting α) (c : Context) : c.Foretells (c.run p).2.1 :=
  run_induction (fun _ naming original h => h.answerName naming original)
    (fun _ text h => h.layout text) p (.refl c)

end Context

/-! ## Documents -/

/-- The ways in which a document can be rewritten: as one of three kinds, or as a media type
demands. -/
inductive Transformer where
  | style
  | script (isModule : Option Bool)
  | markup
  | byMediaType (mediaType : Option Text)

namespace Transformer

/-- The program that rewrites a document. -/
def rewrite (v : View) (source : Text) : Transformer → Rewriting Text
  | style => Style.rewrite v source
  | script isModule => Script.rewrite v.settings isModule source
  | markup => Markup.rewrite v source
  | byMediaType mediaType => Pipeline.rewrite v mediaType source

/-- The outcome of rewriting a document in a context, the context after it, and what was noted. -/
def run (v : View) (source : Text) (c : Context) :
    Transformer → Except Fault Text × Context × List Note
  | byMediaType mediaType => Pipeline.run v mediaType source c
  | transformer => c.run (transformer.rewrite v source)

/-- The text that a document becomes in a context, or why it becomes none. -/
def outcome (transformer : Transformer) (v : View) (source : Text) (c : Context) :
    Except Fault Text :=
  (transformer.run v source c).1

/-- The context after a document has been rewritten in it, or after that has failed. -/
def after (transformer : Transformer) (v : View) (source : Text) (c : Context) : Context :=
  (transformer.run v source c).2.1

variable {v : View} {source out : Text} {c : Context} {transformer : Transformer}

theorem after_eq_run (transformer : Transformer) (v : View) (source : Text) (c : Context) :
    transformer.after v source c = (c.run (transformer.rewrite v source)).2.1 := by
  cases transformer <;> rfl

/-- Only the words for a failure depend on how the rewriting was asked for. -/
theorem outcome_eq_ok_iff :
    transformer.outcome v source c = .ok out ↔
      (c.run (transformer.rewrite v source)).1 = .ok out := by
  cases transformer with
  | style => exact Iff.rfl
  | script isModule => exact Iff.rfl
  | markup => exact Iff.rfl
  | byMediaType mediaType =>
    simp only [outcome, run, Pipeline.run, rewrite]
    cases (c.run (Pipeline.rewrite v mediaType source)).1 <;> simp [Except.mapError]

/-- A document that has been rewritten is rewritten to the same text after any further steps, whether
these succeed or fail; no table grows by it, and nothing is drawn. -/
theorem outcome_stable (h : transformer.outcome v source c = .ok out) (works : List Work) :
    let later := (transformer.after v source c).afterAll v.settings works
    transformer.outcome v source later = .ok out ∧ transformer.after v source later = later := by
  intro later
  have hanswers : (transformer.after v source c).Answers (transformer.rewrite v source) out := by
    rw [after_eq_run]
    exact Context.answers_of_run (Prod.ext (outcome_eq_ok_iff.mp h) rfl)
  have hgrown : (transformer.after v source c).Extends later := Context.extends_afterAll _ works
  obtain ⟨notes, hrun⟩ := Context.run_of_answers (hanswers.mono hgrown)
  constructor
  · rw [outcome_eq_ok_iff, hrun]
  · rw [after_eq_run, hrun]

/-- A style sheet with a string is rewritten again after a page, a script that cannot be read, and
another text. -/
theorem sheet_outcome_stable :
    let v : View := ⟨Settings.default, none, "/"⟩
    let sheet : Text := ".card\x7bcontent:\"open\"\x7d"
    let out : Text := ".dtfb25befd91\x7bcontent:\"op\\\nen\"\x7d"
    let c := Context.ofMappings "k" { Mappings.empty with textChunks := [("open", "22")] }
      (Twister.ofSeed 0)
    let later := (style.after v sheet c).afterAll v.settings
      [.markup none "/" "<p class=card>All</p>", .script none "function (", .textPieces "some text"]
    style.outcome v sheet c = .ok out ∧
      style.outcome v sheet later = .ok out ∧ style.after v sheet later = later := by
  intro v sheet out c later
  have hout : style.outcome v sheet c = .ok out := Outcome.eq_ok_of_toOption (by decide +kernel)
  exact ⟨hout, outcome_stable hout _⟩

end Transformer

end VeiledGateway
