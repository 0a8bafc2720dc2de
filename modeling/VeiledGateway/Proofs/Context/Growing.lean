/-
  How the tables of a session grow.

  A program is answered from the tables, and what it asks for that is not there is put behind what
  is there.  `Extends` says that one context comes after another in this way; it holds of the
  contexts before and after any program, whether the program succeeds or fails.
-/
import VeiledGateway.Context
import VeiledGateway.Proofs.Text.Entries

set_option autoImplicit false

namespace VeiledGateway

namespace TokenTable

/-- An entry of a table without one of its name is new, or was there. -/
theorem forward_insert {table : TokenTable} {original : Text} (h : table.value? original = none)
    (value : Text) : (table.insert original value).forward = table.forward ++ [(original, value)] :=
  Entries.put_of_get?_eq_none h value

theorem value?_insert_self (table : TokenTable) (original value : Text) :
    (table.insert original value).value? original = some value :=
  Entries.get?_put_self _ _ _

theorem value?_insert_of_ne {table : TokenTable} {original other : Text} (h : other ≠ original)
    (value : Text) : (table.insert original value).value? other = table.value? other :=
  Entries.get?_put_of_ne _ _ h

end TokenTable

/-! ## Contexts -/

namespace Context

variable {c d e : Context}

theorem table_setTable_self (naming : Naming) (table : TokenTable) :
    (c.setTable naming table).table naming = table := by
  cases naming <;> rfl

theorem table_setTable_of_ne {naming other : Naming} (h : other ≠ naming) (table : TokenTable) :
    (c.setTable naming table).table other = c.table other := by
  cases naming <;> cases other <;> first | rfl | exact absurd rfl h

@[simp] theorem key_setTable (naming : Naming) (table : TokenTable) :
    (c.setTable naming table).key = c.key := by
  cases naming <;> rfl

@[simp] theorem textChunks_setTable (naming : Naming) (table : TokenTable) :
    (c.setTable naming table).textChunks = c.textChunks := by
  cases naming <;> rfl

@[simp] theorem table_inserted (n : Nat) (naming : Naming) :
    ({ c with inserted := n } : Context).table naming = c.table naming := by
  cases naming <;> rfl

/-- Of the tables with a new entry in one of them, nothing else is new. -/
theorem mem_forward_setTable_insert {naming other : Naming} {original tok name value : Text} (n : Nat)
    (hnone : (c.table naming).value? original = none) :
    (name, value) ∈ ((({ c with inserted := n } : Context).setTable naming
        ((c.table naming).insert original tok)).table other).forward ↔
      (name, value) ∈ (c.table other).forward ∨ other = naming ∧ name = original ∧ value = tok := by
  by_cases hother : other = naming
  · subst hother
    rw [table_setTable_self, TokenTable.forward_insert hnone, List.mem_append, List.mem_singleton,
      Prod.mk.injEq]
    simp
  · rw [table_setTable_of_ne hother, table_inserted]
    simp [hother]

/-- A context holds all that another does, and what is new stands behind it. -/
structure Extends (c d : Context) : Prop where
  key : d.key = c.key
  tokens (naming : Naming) : (c.table naming).forward <+: (d.table naming).forward
  layouts : c.textChunks.forward <+: d.textChunks.forward

theorem Extends.refl (c : Context) : c.Extends c :=
  ⟨rfl, fun _ => List.prefix_refl _, List.prefix_refl _⟩

theorem Extends.trans (hcd : c.Extends d) (hde : d.Extends e) : c.Extends e where
  key := hde.key.trans hcd.key
  tokens := fun naming => (hcd.tokens naming).trans (hde.tokens naming)
  layouts := hcd.layouts.trans hde.layouts

/-- A token that was given is given again. -/
theorem Extends.value? (h : c.Extends d) {naming : Naming} {original tok : Text}
    (htok : (c.table naming).value? original = some tok) :
    (d.table naming).value? original = some tok := by
  obtain ⟨more, hmore⟩ := h.tokens naming
  unfold TokenTable.value?
  rw [← hmore]
  exact Entries.get?_append_of_some htok more

/-- A layout that was drawn is used again. -/
theorem Extends.layout? (h : c.Extends d) {text layout : Text}
    (hlayout : c.textChunks.value? text = some layout) :
    d.textChunks.value? text = some layout := by
  obtain ⟨more, hmore⟩ := h.layouts
  unfold TokenTable.value?
  rw [← hmore]
  exact Entries.get?_append_of_some hlayout more

/-! ## Answers

What the answer to one request does to a context. -/

/-- A name is answered from its table, or with a new token that goes there, or not at all when it
has no token. -/
theorem answerName_cases (c : Context) (naming : Naming) (original : Text) :
    (∃ tok, (c.table naming).value? original = some tok ∧
      c.answerName naming original = (.ok tok, c)) ∨
    (c.table naming).value? original = none ∧
      ((∃ fault, token naming.category original c.key = .error fault ∧
        c.answerName naming original =
          (.error (.unencodable fault), { c with inserted := c.inserted + 1 })) ∨
      ∃ tok, token naming.category original c.key = .ok tok ∧
        c.answerName naming original =
          (.ok tok, ({ c with inserted := c.inserted + 1 }).setTable naming
            ((c.table naming).insert original tok))) := by
  unfold answerName
  cases hvalue : (c.table naming).value? original with
  | some tok => exact .inl ⟨tok, rfl, rfl⟩
  | none =>
    refine .inr ⟨rfl, ?_⟩
    cases htoken : token naming.category original c.key with
    | error fault => exact .inl ⟨fault, rfl, by simp only [htoken]⟩
    | ok tok =>
      exact .inr ⟨tok, rfl, by simp only [htoken]; cases naming <;> rfl⟩

/-- The layout of a text is the one in the table, or a new one that goes there. -/
theorem layout_cases (c : Context) (text : Text) :
    (∃ layout, c.textChunks.value? text = some layout ∧ c.layout text = (layout, c)) ∨
    c.textChunks.value? text = none ∧
      ∃ layout twister, (layout, twister) = Layout.choose Twister.belowThree text.length c.twister ∧
        c.layout text = (layout, { c with
          twister
          inserted := c.inserted + 1
          textChunks := c.textChunks.insert text layout }) := by
  unfold layout
  cases hvalue : c.textChunks.value? text with
  | some layout => exact .inl ⟨layout, rfl, rfl⟩
  | none => exact .inr ⟨rfl, _, _, rfl, rfl⟩

theorem answerPieces_context (c : Context) (text : Text) :
    (c.answerPieces text).2 = (c.layout text).2 := by
  unfold answerPieces
  dsimp only
  split <;> rfl

/-- The pieces of a text are told by its layout, or the layout is refused. -/
theorem answerPieces_outcome (c : Context) (text : Text) :
    (c.answerPieces text).1 = (Layout.split text (c.layout text).1).mapError Fault.badLayout := by
  unfold answerPieces
  dsimp only
  cases Layout.split text (c.layout text).1 <;> rfl

theorem extends_answerName (c : Context) (naming : Naming) (original : Text) :
    c.Extends (c.answerName naming original).2 := by
  rcases c.answerName_cases naming original with
    ⟨tok, -, hanswer⟩ | ⟨hnone, ⟨fault, -, hanswer⟩ | ⟨tok, -, hanswer⟩⟩
  · rw [hanswer]
    exact Extends.refl c
  · rw [hanswer]
    exact ⟨rfl, fun other => by cases other <;> exact List.prefix_refl _, List.prefix_refl _⟩
  · rw [hanswer]
    refine ⟨by simp, fun other => ?_, by simp⟩
    by_cases hother : other = naming
    · subst hother
      rw [table_setTable_self, TokenTable.forward_insert hnone]
      exact List.prefix_append _ _
    · rw [table_setTable_of_ne hother]
      cases other <;> exact List.prefix_refl _

theorem extends_layout (c : Context) (text : Text) : c.Extends (c.layout text).2 := by
  rcases c.layout_cases text with ⟨layout, -, hlayout⟩ | ⟨hnone, layout, twister, -, hlayout⟩
  · rw [hlayout]
    exact Extends.refl c
  · rw [hlayout]
    refine ⟨rfl, fun naming => by cases naming <;> exact List.prefix_refl _, ?_⟩
    rw [TokenTable.forward_insert hnone]
    exact List.prefix_append _ _

/-- What is made of the result of a program takes no part in its run. -/
theorem run_map {α β : Type} (f : α → β) (p : Rewriting α) (c : Context) :
    c.run (do return f (← p)) = ((c.run p).1.map f, (c.run p).2) := by
  induction p generalizing c with
  | done a => rfl
  | fail fault => rfl
  | name naming original next ih =>
    change c.run (.name naming original fun tok => do return f (← next tok)) = _
    rw [run, run]
    split
    · exact ih _ _
    · rfl
  | pieces text next ih =>
    change c.run (.pieces text fun parts => do return f (← next parts)) = _
    rw [run, run]
    split
    · exact ih _ _
    · rfl
  | note n next ih =>
    change c.run (.note n (do return f (← next))) = _
    rw [run, run, ih]

/-- What the answer to every request keeps, a program keeps that makes them. -/
theorem run_induction {I : Context → Prop}
    (hname : ∀ c naming original, I c → I (c.answerName naming original).2)
    (hlayout : ∀ c text, I c → I (c.layout text).2) {α : Type} (p : Rewriting α) {c : Context}
    (h : I c) : I (c.run p).2.1 := by
  induction p generalizing c with
  | done a => exact h
  | fail fault => exact h
  | name naming original next ih =>
    have hanswer := hname c naming original h
    rw [run]
    rcases hcase : c.answerName naming original with ⟨fault | tok, d⟩
    · rw [hcase] at hanswer
      exact hanswer
    · rw [hcase] at hanswer
      exact ih tok hanswer
  | pieces text next ih =>
    have hanswer := hlayout c text h
    rw [← c.answerPieces_context text] at hanswer
    rw [run]
    rcases hcase : c.answerPieces text with ⟨fault | parts, d⟩
    · rw [hcase] at hanswer
      exact hanswer
    · rw [hcase] at hanswer
      exact ih parts hanswer
  | note n next ih => exact ih h

/-- The text for whose pieces a program asks before all else. -/
def firstText? {α : Type} : Rewriting α → Option Text
  | .pieces text _ => some text
  | .note _ next => firstText? next
  | _ => none

/-- It does not matter when the layout is drawn of the text that is asked for first. -/
theorem run_layout_firstText {α : Type} {p : Rewriting α} {text : Text} (h : firstText? p = some text)
    (c : Context) : (c.layout text).2.run p = c.run p := by
  induction p with
  | done a => cases h
  | fail fault => cases h
  | name naming original next => cases h
  | pieces other next =>
    obtain rfl := Option.some.inj h
    -- A layout that was just drawn is found, and no other is drawn for it.
    have hagain : (c.layout other).2.layout other = c.layout other := by
      rcases c.layout_cases other with ⟨layout, hfound, hlayout⟩ | ⟨-, layout, twister, -, hlayout⟩
      · rw [hlayout, hlayout]
      · have hput : ({ c with
            twister, inserted := c.inserted + 1,
            textChunks := c.textChunks.insert other layout } : Context).textChunks.value? other =
              some layout := Entries.get?_put_self _ _ _
        rw [hlayout]
        dsimp only
        rw [Context.layout, hput]
    rw [run, run, answerPieces, answerPieces, hagain]
  | note n next ih => rw [run, run, ih h]

/-- Whatever a program does, the tables only grow. -/
theorem extends_run {α : Type} (p : Rewriting α) (c : Context) : c.Extends (c.run p).2.1 := by
  refine run_induction (I := c.Extends) ?_ ?_ p (Extends.refl c)
  · intro d naming original hd
    exact hd.trans (d.extends_answerName naming original)
  · intro d text hd
    exact hd.trans (d.extends_layout text)

end Context

end VeiledGateway
