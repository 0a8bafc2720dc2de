/-
  What the tables of a session hold.

  In a session that began with empty tables every token is the token of its name for the key of the
  session, no class that stays as it is has a token, and every layout covers its text.  A step of a
  session is a request or the rewriting of a document; each keeps this, whether it succeeds or fails
  midway, and each keeps all entries.
-/
import VeiledGateway.Proofs.Context.Growing
import VeiledGateway.Proofs.Layout.Cutting
import VeiledGateway.Proofs.Rewriting.Documents

set_option autoImplicit false

namespace VeiledGateway

/-! ## Tables -/

namespace Context

variable {settings : Settings} {key : Text} {c : Context}

/-- Every entry of a context is what the key, the settings and the text demand. -/
structure Faithful (settings : Settings) (key : Text) (c : Context) : Prop where
  sameKey : c.key = key
  tokens (naming : Naming) (original tok : Text) :
    (original, tok) ∈ (c.table naming).forward → token naming.category original key = .ok tok
  classes (name tok : Text) :
    (name, tok) ∈ (c.table .className).forward → settings.isExcludedClass name = false
  layouts (text layout : Text) :
    (text, layout) ∈ c.textChunks.forward → Layout.Covers text.length layout

theorem faithful_empty (settings : Settings) (key : Text) (twister : Twister) :
    (ofMappings key Mappings.empty twister).Faithful settings key where
  sameKey := rfl
  tokens := fun naming _ _ h => by cases naming <;> cases h
  classes := fun _ _ h => by cases h
  layouts := fun _ _ h => by cases h

/-- Answering for a name that the settings allow. -/
theorem Faithful.answerName (h : c.Faithful settings key) {naming : Naming} {original : Text}
    (hallowed : settings.Allows naming original) :
    (c.answerName naming original).2.Faithful settings key := by
  rcases c.answerName_cases naming original with
    ⟨tok, -, hanswer⟩ | ⟨hnone, ⟨fault, -, hanswer⟩ | ⟨tok, htoken, hanswer⟩⟩
  · rw [hanswer]
    exact h
  · rw [hanswer]
    exact ⟨h.sameKey, h.tokens, h.classes, h.layouts⟩
  · rw [hanswer]
    refine ⟨by simpa using h.sameKey, ?_, ?_, by simpa using h.layouts⟩
    · intro other name value hmem
      rcases (mem_forward_setTable_insert _ hnone).mp hmem with hold | ⟨rfl, rfl, rfl⟩
      · exact h.tokens other name value hold
      · rw [← h.sameKey]
        exact htoken
    · intro name value hmem
      have hcases : (name, value) ∈ (c.table .className).forward ∨
          .className = naming ∧ name = original ∧ value = tok :=
        (mem_forward_setTable_insert _ hnone).mp hmem
      rcases hcases with hold | ⟨rfl, rfl, rfl⟩
      · exact h.classes name value hold
      · exact hallowed rfl

theorem Faithful.layout (h : c.Faithful settings key) (text : Text) :
    (c.layout text).2.Faithful settings key := by
  rcases c.layout_cases text with ⟨layout, -, hlayout⟩ | ⟨hnone, layout, twister, hdrawn, hlayout⟩
  · rw [hlayout]
    exact h
  · rw [hlayout]
    refine ⟨h.sameKey, h.tokens, h.classes, ?_⟩
    intro other value hmem
    rw [TokenTable.forward_insert hnone, List.mem_append, List.mem_singleton,
      Prod.mk.injEq] at hmem
    rcases hmem with hold | ⟨rfl, rfl⟩
    · exact h.layouts other value hold
    · have hvalue : value = _ := congrArg Prod.fst hdrawn
      rw [hvalue]
      exact Layout.covers_choose _ _ _

/-- A program that asks only for what the settings allow, keeps what the tables hold. -/
theorem Faithful.run {α : Type} {p : Rewriting α} (hasks : p.AsksOnly settings.Allows)
    (h : c.Faithful settings key) : (c.run p).2.1.Faithful settings key := by
  induction p generalizing c with
  | done a => exact h
  | fail fault => exact h
  | name naming original next ih =>
    have hanswer := h.answerName hasks.1
    rw [Context.run]
    rcases hcase : c.answerName naming original with ⟨fault | tok, d⟩
    · rw [hcase] at hanswer
      exact hanswer
    · rw [hcase] at hanswer
      exact ih tok (hasks.2 tok) hanswer
  | pieces text next ih =>
    have hanswer := h.layout text
    rw [← c.answerPieces_context text] at hanswer
    rw [Context.run]
    rcases hcase : c.answerPieces text with ⟨fault | parts, d⟩
    · rw [hcase] at hanswer
      exact hanswer
    · rw [hcase] at hanswer
      exact ih parts (hasks parts) hanswer
  | note n next ih => exact ih hasks h

end Context

/-! ## Steps of a session -/

/-- What a session can be asked to do. -/
inductive Work where
  | identifier (name : Text)
  | className (name : Text)
  | elementId (name : Text)
  | link (path : Text)
  | textPieces (text : Text)
  | style (assets : Option Assets) (base source : Text)
  | script (isModule : Option Bool) (source : Text)
  | markup (assets : Option Assets) (base source : Text)
  | document (assets : Option Assets) (base : Text) (mediaType : Option Text) (source : Text)

namespace Context

variable (settings : Settings)

/-- The context after a step; what a failing step has put into the tables stays there. -/
def afterWork (c : Context) : Work → Context
  | .identifier name => (c.run (Rewriting.identifier name)).2.1
  | .className name => (c.run (Rewriting.className settings name)).2.1
  | .elementId name => (c.run (Rewriting.elementId name)).2.1
  | .link path => (c.run (Rewriting.link settings path)).2.1
  | .textPieces text => (c.run (Rewriting.textPieces text)).2.1
  | .style assets base source => (c.run (Style.rewrite ⟨settings, assets, base⟩ source)).2.1
  | .script isModule source => (c.run (Script.rewrite settings isModule source)).2.1
  | .markup assets base source => (c.run (Markup.rewrite ⟨settings, assets, base⟩ source)).2.1
  | .document assets base mediaType source =>
    (Pipeline.run ⟨settings, assets, base⟩ mediaType source c).2.1

/-- The context after steps, one after the other. -/
def afterAll (c : Context) (works : List Work) : Context :=
  works.foldl (afterWork settings) c

variable {settings} {key : Text} {c : Context}

/-- Every step runs a program that asks only for what the settings allow. -/
theorem afterWork_eq_run (settings : Settings) (c : Context) (work : Work) :
    ∃ (α : Type) (p : Rewriting α), p.AsksOnly settings.Allows ∧
      c.afterWork settings work = (c.run p).2.1 := by
  cases work with
  | identifier name => exact ⟨_, _, Rewriting.asksOnly_identifier name, rfl⟩
  | className name => exact ⟨_, _, Rewriting.asksOnly_className name, rfl⟩
  | elementId name => exact ⟨_, _, Rewriting.asksOnly_elementId name, rfl⟩
  | link path => exact ⟨_, _, Rewriting.asksOnly_link settings path, rfl⟩
  | textPieces text => exact ⟨_, _, Rewriting.asksOnly_textPieces text, rfl⟩
  | style assets base source =>
    exact ⟨_, _, Style.asksOnly_rewrite ⟨settings, assets, base⟩ source, rfl⟩
  | script isModule source =>
    exact ⟨_, _, Script.asksOnly_rewrite settings isModule source, rfl⟩
  | markup assets base source =>
    exact ⟨_, _, Markup.asksOnly_rewrite ⟨settings, assets, base⟩ source, rfl⟩
  | document assets base mediaType source =>
    exact ⟨_, _, Pipeline.asksOnly_rewrite ⟨settings, assets, base⟩ mediaType source, rfl⟩

theorem extends_afterWork (c : Context) (work : Work) : c.Extends (c.afterWork settings work) := by
  obtain ⟨α, p, -, hwork⟩ := afterWork_eq_run settings c work
  rw [hwork]
  exact extends_run p c

theorem Faithful.afterWork (h : c.Faithful settings key) (work : Work) :
    (c.afterWork settings work).Faithful settings key := by
  obtain ⟨α, p, hasks, hwork⟩ := afterWork_eq_run settings c work
  rw [hwork]
  exact h.run hasks

theorem extends_afterAll (c : Context) (works : List Work) :
    c.Extends (c.afterAll settings works) := by
  induction works generalizing c with
  | nil => exact Extends.refl c
  | cons work rest ih => exact (c.extends_afterWork work).trans (ih _)

theorem Faithful.afterAll (h : c.Faithful settings key) (works : List Work) :
    (c.afterAll settings works).Faithful settings key := by
  induction works generalizing c with
  | nil => exact h
  | cons work rest ih => exact ih (h.afterWork work)

/-- In a session that begins with empty tables, after any steps, every token is the token of its name
for the key of the session, no class that stays as it is has one, every layout covers its text, and
all entries stay there, in their order, whatever steps follow. -/
theorem faithful_session (settings : Settings) (key : Text) (twister : Twister)
    (works more : List Work) :
    ((ofMappings key Mappings.empty twister).afterAll settings works).Faithful settings key ∧
    ((ofMappings key Mappings.empty twister).afterAll settings works).Extends
      ((ofMappings key Mappings.empty twister).afterAll settings (works ++ more)) := by
  refine ⟨(faithful_empty settings key twister).afterAll works, ?_⟩
  rw [Context.afterAll, Context.afterAll, List.foldl_append]
  exact extends_afterAll _ more

end Context

end VeiledGateway
