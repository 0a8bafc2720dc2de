/-
  Programs answered from what the tables hold.

  `Answers` says what a program gives when every request is answered from the tables as they are.
  A program that succeeded in a session is answered so by the tables that it left, and by all tables
  that extend them: what a run gave can be read off the tables after it, without going through what
  the tables were in between.
-/
import Mathlib.Data.List.Forall2
import VeiledGateway.Proofs.Context.Growing
import VeiledGateway.Proofs.Layout.Cutting
import VeiledGateway.Proofs.Rewriting.Ensuring

set_option autoImplicit false

namespace VeiledGateway

namespace Context

variable {α β : Type} {c d : Context}

/-- The pieces of a text by the layout that the tables hold for it. -/
def HasPieces (c : Context) (text : Text) (parts : List Text) : Prop :=
  ∃ layout, c.textChunks.value? text = some layout ∧ Layout.split text layout = .ok parts

theorem HasPieces.flatten {text : Text} {parts : List Text} (h : c.HasPieces text parts) :
    parts.flatten = text := by
  obtain ⟨layout, -, hsplit⟩ := h
  exact Layout.flatten_split hsplit

/-- What a program gives when the tables answer it. -/
def Answers (c : Context) : Rewriting α → α → Prop
  | .done a, result => a = result
  | .fail _, _ => False
  | .name naming original next, result =>
    ∃ tok, (c.table naming).value? original = some tok ∧ Answers c (next tok) result
  | .pieces text next, result => ∃ parts, c.HasPieces text parts ∧ Answers c (next parts) result
  | .note _ next, result => Answers c next result

/-! ## Programs one after the other -/

theorem answers_pure {a b : α} : c.Answers (pure a : Rewriting α) b ↔ a = b :=
  Iff.rfl

theorem answers_bind {p : Rewriting α} {f : α → Rewriting β} {b : β} :
    c.Answers (p >>= f) b ↔ ∃ a, c.Answers p a ∧ c.Answers (f a) b := by
  induction p with
  | done a =>
    constructor
    · exact fun h => ⟨a, rfl, h⟩
    · rintro ⟨_, rfl, h⟩
      exact h
  | fail fault =>
    constructor
    · exact False.elim
    · rintro ⟨_, h, -⟩
      exact h
  | name naming original next ih =>
    constructor
    · rintro ⟨tok, htok, h⟩
      obtain ⟨a, ha, hb⟩ := (ih tok).mp h
      exact ⟨a, ⟨tok, htok, ha⟩, hb⟩
    · rintro ⟨a, ⟨tok, htok, ha⟩, hb⟩
      exact ⟨tok, htok, (ih tok).mpr ⟨a, ha, hb⟩⟩
  | pieces text next ih =>
    constructor
    · rintro ⟨parts, hparts, h⟩
      obtain ⟨a, ha, hb⟩ := (ih parts).mp h
      exact ⟨a, ⟨parts, hparts, ha⟩, hb⟩
    · rintro ⟨a, ⟨parts, hparts, ha⟩, hb⟩
      exact ⟨parts, hparts, (ih parts).mpr ⟨a, ha, hb⟩⟩
  | note n next ih => exact ih

theorem answers_ofExcept {outcome : Except Fault α} {a : α} :
    c.Answers (.ofExcept outcome) a ↔ outcome = .ok a := by
  cases outcome with
  | error fault =>
    constructor
    · exact False.elim
    · exact nofun
  | ok b => exact ⟨congrArg Except.ok, Except.ok.inj⟩

/-- Programs for the items of a list give the list of what each of them gives. -/
theorem answers_mapM {f : α → Rewriting β} {items : List α} {results : List β} :
    c.Answers (items.mapM f) results ↔ List.Forall₂ (fun item b => c.Answers (f item) b) items results := by
  induction items generalizing results with
  | nil =>
    rw [List.mapM_nil, answers_pure]
    constructor
    · rintro rfl
      exact .nil
    · rintro ⟨⟩
      rfl
  | cons item rest ih =>
    rw [List.mapM_cons, answers_bind]
    constructor
    · rintro ⟨first, hfirst, h⟩
      obtain ⟨others, hothers, h⟩ := answers_bind.mp h
      obtain rfl := answers_pure.mp h
      exact .cons hfirst (ih.mp hothers)
    · rintro (_ | ⟨hfirst, hothers⟩)
      exact ⟨_, hfirst, answers_bind.mpr ⟨_, ih.mpr hothers, rfl⟩⟩

/-- What a program yields holds of what the tables give it. -/
theorem Answers.post {post : α → Prop} {p : Rewriting α} (hp : p.Yields post) {a : α}
    (h : c.Answers p a) : post a := by
  induction p with
  | done b => exact h ▸ hp
  | fail fault => exact absurd h id
  | name naming original next ih =>
    obtain ⟨tok, -, hnext⟩ := h
    exact ih tok (hp tok) hnext
  | pieces text next ih =>
    obtain ⟨parts, -, hnext⟩ := h
    exact ih parts (hp parts) hnext
  | note n next ih => exact ih hp h

theorem HasPieces.unique {text : Text} {parts parts' : List Text} (h : c.HasPieces text parts)
    (h' : c.HasPieces text parts') : parts = parts' := by
  obtain ⟨layout, hlayout, hsplit⟩ := h
  obtain ⟨layout', hlayout', hsplit'⟩ := h'
  obtain rfl := Option.some.inj (hlayout.symm.trans hlayout')
  exact Except.ok.inj (hsplit.symm.trans hsplit')

/-- Tables give one result at most. -/
theorem Answers.unique {p : Rewriting α} {a b : α} (ha : c.Answers p a) (hb : c.Answers p b) :
    a = b := by
  induction p with
  | done r => exact ha.symm.trans hb
  | fail fault => exact absurd ha id
  | name naming original next ih =>
    obtain ⟨tok, htok, hnext⟩ := ha
    obtain ⟨tok', htok', hnext'⟩ := hb
    obtain rfl := Option.some.inj (htok.symm.trans htok')
    exact ih tok hnext hnext'
  | pieces text next ih =>
    obtain ⟨parts, hparts, hnext⟩ := ha
    obtain ⟨parts', hparts', hnext'⟩ := hb
    obtain rfl := hparts.unique hparts'
    exact ih parts hnext hnext'
  | note n next ih => exact ih ha hb

/-- What is in the lists that programs for the items of a list give. -/
theorem mem_of_answers_flatten {f : α → Rewriting (List β)} {items : List α} {results : List β}
    (h : c.Answers (List.flatten <$> items.mapM f) results) :
    (∀ item ∈ items, ∃ bs, c.Answers (f item) bs) ∧
      ∀ b, b ∈ results ↔ ∃ item ∈ items, ∃ bs, c.Answers (f item) bs ∧ b ∈ bs := by
  rw [map_eq_pure_bind] at h
  obtain ⟨lists, hlists, hflat⟩ := answers_bind.mp h
  obtain rfl := answers_pure.mp hflat
  have hall := answers_mapM.mp hlists
  clear h hlists hflat
  induction hall with
  | nil => simp
  | @cons item bs items lists hitem _ ih =>
    refine ⟨List.forall_mem_cons.mpr ⟨⟨bs, hitem⟩, ih.1⟩, fun b => ?_⟩
    rw [List.flatten_cons, List.mem_append, ih.2 b, List.exists_mem_cons_iff]
    refine or_congr_left ⟨fun hb => ⟨bs, hitem, hb⟩, ?_⟩
    rintro ⟨bs', hbs', hb⟩
    exact hitem.unique hbs' ▸ hb

/-! ## Runs -/

theorem HasPieces.mono (h : c.Extends d) {text : Text} {parts : List Text}
    (hparts : c.HasPieces text parts) : d.HasPieces text parts := by
  obtain ⟨layout, hlayout, hsplit⟩ := hparts
  exact ⟨layout, h.layout? hlayout, hsplit⟩

theorem Answers.mono (h : c.Extends d) {p : Rewriting α} {a : α} (hp : c.Answers p a) :
    d.Answers p a := by
  induction p with
  | done b => exact hp
  | fail fault => exact hp
  | name naming original next ih =>
    obtain ⟨tok, htok, hnext⟩ := hp
    exact ⟨tok, h.value? htok, ih tok hnext⟩
  | pieces text next ih =>
    obtain ⟨parts, hparts, hnext⟩ := hp
    exact ⟨parts, hparts.mono h, ih parts hnext⟩
  | note n next ih => exact ih hp

/-- The tables after a name was answered hold the answer. -/
theorem value?_of_answerName {naming : Naming} {original tok : Text}
    (h : c.answerName naming original = (.ok tok, d)) :
    (d.table naming).value? original = some tok := by
  rcases c.answerName_cases naming original with
    ⟨old, hold, hanswer⟩ | ⟨hnone, ⟨fault, -, hanswer⟩ | ⟨new, -, hanswer⟩⟩
  · obtain ⟨hok, rfl⟩ := Prod.mk.inj (hanswer.symm.trans h)
    rw [hold, Except.ok.inj hok]
  · cases (Prod.mk.inj (hanswer.symm.trans h)).1
  · obtain ⟨hok, rfl⟩ := Prod.mk.inj (hanswer.symm.trans h)
    rw [table_setTable_self, ← Except.ok.inj hok]
    exact Entries.get?_put_self _ _ _

/-- The tables after a text was answered hold its layout. -/
theorem hasPieces_of_answerPieces {text : Text} {parts : List Text}
    (h : c.answerPieces text = (.ok parts, d)) : d.HasPieces text parts := by
  have hd : (c.layout text).2 = d := by rw [← answerPieces_context, h]
  have hsplit : Layout.split text (c.layout text).1 = .ok parts := by
    unfold answerPieces at h
    dsimp only at h
    split at h
    · rename_i hok
      rw [hok, Except.ok.inj (Prod.mk.inj h).1]
    · cases (Prod.mk.inj h).1
  refine ⟨(c.layout text).1, ?_, hsplit⟩
  subst hd
  rcases c.layout_cases text with ⟨layout, hold, hlayout⟩ | ⟨-, layout, twister, -, hlayout⟩
  · rw [hlayout]
    exact hold
  · rw [hlayout]
    exact Entries.get?_put_self _ _ _

/-- What a run gave, the tables after it give too. -/
theorem answers_of_run {p : Rewriting α} {a : α} {notes : List Note}
    (h : c.run p = (.ok a, d, notes)) : d.Answers p a := by
  induction p generalizing c d notes with
  | done b => exact Except.ok.inj (Prod.mk.inj h).1
  | fail fault => cases (Prod.mk.inj h).1
  | name naming original next ih =>
    rw [run] at h
    rcases hcase : c.answerName naming original with ⟨fault | tok, e⟩
    · rw [hcase] at h
      cases (Prod.mk.inj h).1
    · rw [hcase] at h
      change run (next tok) e = _ at h
      have hgrown : e.Extends d := by
        have hrun := extends_run (next tok) e
        rw [h] at hrun
        exact hrun
      exact ⟨tok, hgrown.value? (value?_of_answerName hcase), ih tok h⟩
  | pieces text next ih =>
    rw [run] at h
    rcases hcase : c.answerPieces text with ⟨fault | parts, e⟩
    · rw [hcase] at h
      cases (Prod.mk.inj h).1
    · rw [hcase] at h
      change run (next parts) e = _ at h
      have hgrown : e.Extends d := by
        have hrun := extends_run (next parts) e
        rw [h] at hrun
        exact hrun
      exact ⟨parts, (hasPieces_of_answerPieces hcase).mono hgrown, ih parts h⟩
  | note n next ih =>
    rw [run] at h
    obtain ⟨hok, hrest⟩ := Prod.mk.inj h
    exact ih (Prod.ext hok (Prod.ext (Prod.mk.inj hrest).1 rfl))

end Context

end VeiledGateway
