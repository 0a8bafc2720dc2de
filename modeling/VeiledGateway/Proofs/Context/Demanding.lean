/-
  Demanding: programs of which it is known beforehand what they ask for.

  Such a program asks for the same whatever it is answered.  It comes to a result exactly if all that
  it asks for can be had, and that does not change while it is answered: what is put into the tables is
  only what could be had before.
-/
import VeiledGateway.Proofs.Context.Answering
import VeiledGateway.Proofs.Context.Faithful
import VeiledGateway.Proofs.Outcome
import VeiledGateway.Proofs.Token.Making

set_option autoImplicit false

namespace VeiledGateway

/-! ## What can be had in a context -/

/-- What a program may ask for. -/
inductive Demand where
  | name (naming : Naming) (original : Text)
  | pieces (text : Text)
deriving DecidableEq

namespace Context

variable {c : Context} {naming : Naming} {original text : Text}

/-- A name has a token, or can be given one; and a text has no layout that does not cut it. -/
def Grants (c : Context) : Demand → Prop
  | .name naming original =>
    (∃ tok, (c.table naming).value? original = some tok) ∨ original.Plain ∧ c.key.Plain
  | .pieces text =>
    ∀ layout, c.textChunks.value? text = some layout → ∃ parts, Layout.split text layout = .ok parts

theorem grants_name_iff :
    c.Grants (.name naming original) ↔ ∃ tok, (c.answerName naming original).1 = .ok tok := by
  rcases c.answerName_cases naming original with
    ⟨tok, hold, hanswer⟩ | ⟨hnone, ⟨fault, hfault, hanswer⟩ | ⟨tok, htoken, hanswer⟩⟩ <;>
    rw [hanswer, Grants]
  · exact iff_of_true (.inl ⟨tok, hold⟩) ⟨tok, rfl⟩
  · rw [← exists_token_iff naming.category, hfault, hnone]
    exact iff_of_false (by rintro (⟨_, h⟩ | ⟨_, h⟩) <;> cases h) nofun
  · rw [← exists_token_iff naming.category]
    exact iff_of_true (.inr ⟨tok, htoken⟩) ⟨tok, rfl⟩

theorem grants_pieces_iff :
    c.Grants (.pieces text) ↔ ∃ parts, (c.answerPieces text).1 = .ok parts := by
  have houtcome : (∃ parts, (c.answerPieces text).1 = .ok parts) ↔
      ∃ parts, Layout.split text (c.layout text).1 = .ok parts := by
    rw [answerPieces_outcome]
    exact Outcome.mapError_comes_iff
  rw [houtcome, Grants]
  rcases c.layout_cases text with ⟨layout, hold, hlayout⟩ | ⟨hnone, layout, twister, hdrawn, hlayout⟩ <;>
    rw [hlayout]
  · exact ⟨fun h => h layout hold, fun h other hother => Option.some.inj (hold.symm.trans hother) ▸ h⟩
  · obtain rfl : layout = _ := congrArg Prod.fst hdrawn
    exact iff_of_true (fun _ hold => nomatch hnone.symm.trans hold) (Layout.exists_split_choose _ text _)

/-! ## What stays so while a program is answered -/

theorem grants_of_table_eq {d : Context} (hkey : d.key = c.key) (htable : d.table naming = c.table naming) :
    d.Grants (.name naming original) ↔ c.Grants (.name naming original) := by
  rw [Grants, Grants, hkey, htable]

/-- What can be had does not change when a name is answered. -/
theorem grants_answerName (c : Context) (naming : Naming) (original : Text) (demand : Demand) :
    (c.answerName naming original).2.Grants demand ↔ c.Grants demand := by
  rcases c.answerName_cases naming original with
    ⟨tok, -, hanswer⟩ | ⟨-, ⟨fault, -, hanswer⟩ | ⟨tok, htoken, hanswer⟩⟩ <;> rw [hanswer]
  · cases demand with
    | name other name => exact grants_of_table_eq rfl (table_inserted _ other)
    | pieces text => exact Iff.rfl
  · cases demand with
    | name other name =>
      by_cases hother : other = naming
      · subst hother
        rw [Grants, Grants, key_setTable, table_setTable_self]
        by_cases hname : name = original
        · -- This name has a token now, which could be had before.
          subst hname
          exact iff_of_true (.inl ⟨tok, TokenTable.value?_insert_self _ _ _⟩)
            (.inr ((exists_token_iff _).mp ⟨tok, htoken⟩))
        · rw [TokenTable.value?_insert_of_ne hname]
      · exact grants_of_table_eq (key_setTable _ _) ((table_setTable_of_ne hother _).trans (table_inserted _ other))
    | pieces text => rw [Grants, Grants, textChunks_setTable]

/-- Nor does it when a layout is drawn. -/
theorem grants_layout (c : Context) (text : Text) (demand : Demand) :
    (c.layout text).2.Grants demand ↔ c.Grants demand := by
  rcases c.layout_cases text with ⟨layout, -, hlayout⟩ | ⟨hnone, layout, twister, hdrawn, hlayout⟩ <;>
    rw [hlayout]
  cases demand with
  | name naming original => exact grants_of_table_eq rfl (by cases naming <;> rfl)
  | pieces other =>
    rw [Grants, Grants]
    by_cases hother : other = text
    · -- This text has a layout now, which cuts it.
      subst hother
      obtain rfl : layout = _ := congrArg Prod.fst hdrawn
      refine iff_of_true (fun found hfound => ?_) fun _ hold => nomatch hnone.symm.trans hold
      obtain rfl := Option.some.inj ((TokenTable.value?_insert_self _ _ _).symm.trans hfound)
      exact Layout.exists_split_choose _ other _
    · rw [TokenTable.value?_insert_of_ne hother]

end Context

/-! ## Programs that ask for the same whatever they are answered -/

namespace Rewriting

variable {α β : Type}

/-- A program asks for all this, one after the other, whatever it is answered, and comes to a result. -/
def Demands : Rewriting α → List Demand → Prop
  | .done _, demands => demands = []
  | .fail _, _ => False
  | .name naming original next, demands =>
    ∃ others, demands = .name naming original :: others ∧ ∀ tok, Demands (next tok) others
  | .pieces text next, demands =>
    ∃ others, demands = .pieces text :: others ∧ ∀ parts, Demands (next parts) others
  | .note _ next, demands => Demands next demands

theorem demands_pure (a : α) : (pure a : Rewriting α).Demands [] :=
  rfl

theorem Demands.bind {p : Rewriting α} {f : α → Rewriting β} {demands others : List Demand}
    (hp : p.Demands demands) (hf : ∀ a, (f a).Demands others) : (p >>= f).Demands (demands ++ others) := by
  induction p generalizing demands with
  | done a =>
    obtain rfl : demands = [] := hp
    exact hf a
  | fail fault => exact hp
  | name naming original next ih =>
    obtain ⟨rest, rfl, hnext⟩ := hp
    exact ⟨rest ++ others, rfl, fun tok => ih tok (hnext tok)⟩
  | pieces text next ih =>
    obtain ⟨rest, rfl, hnext⟩ := hp
    exact ⟨rest ++ others, rfl, fun parts => ih parts (hnext parts)⟩
  | note n next ih => exact ih hp

/-- A program whose demands are known comes to a result exactly if each of them can be had. -/
theorem Demands.comes_iff {p : Rewriting α} {demands : List Demand} (hp : p.Demands demands) (c : Context) :
    (∃ a, (c.run p).1 = .ok a) ↔ ∀ demand ∈ demands, c.Grants demand := by
  induction p generalizing demands c with
  | done a =>
    obtain rfl : demands = [] := hp
    exact iff_of_true ⟨a, rfl⟩ fun _ hmem => absurd hmem List.not_mem_nil
  | fail fault => exact absurd hp id
  | name naming original next ih =>
    obtain ⟨others, rfl, hnext⟩ := hp
    rw [List.forall_mem_cons, Context.grants_name_iff, Context.run]
    have hstays := c.grants_answerName naming original
    rcases hcase : c.answerName naming original with ⟨fault | tok, d⟩ <;> rw [hcase] at hstays
    · refine iff_of_false ?_ ?_
      · rintro ⟨a, ha⟩
        cases ha
      · rintro ⟨⟨answer, hanswer⟩, -⟩
        cases hanswer
    · rw [and_iff_right ⟨tok, rfl⟩]
      exact (ih tok (hnext tok) d).trans (forall₂_congr fun demand _ => hstays demand)
  | pieces text next ih =>
    obtain ⟨others, rfl, hnext⟩ := hp
    rw [List.forall_mem_cons, Context.grants_pieces_iff, Context.run]
    have hstays := c.grants_layout text
    rw [← Context.answerPieces_context] at hstays
    rcases hcase : c.answerPieces text with ⟨fault | parts, d⟩ <;> rw [hcase] at hstays
    · refine iff_of_false ?_ ?_
      · rintro ⟨a, ha⟩
        cases ha
      · rintro ⟨⟨answer, hanswer⟩, -⟩
        cases hanswer
    · rw [and_iff_right ⟨parts, rfl⟩]
      exact (ih parts (hnext parts) d).trans (forall₂_congr fun demand _ => hstays demand)
  | note n next ih => exact ih hp c

end Rewriting

end VeiledGateway
