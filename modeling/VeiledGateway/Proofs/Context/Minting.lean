/-
  Minting: what the tokens of a session look like.

  Every token that is made is a small letter with digits and small letters behind it.  Whatever is
  rewritten in a session and however often its record is read again, its tables hold no other ones, if
  they held none at first.
-/
import VeiledGateway.Proofs.Context.Linking
import VeiledGateway.Proofs.Context.Ordering

set_option autoImplicit false

namespace VeiledGateway

namespace Context

variable {c : Context} {settings : Settings}

/-- All tokens in the tables are as they are made. -/
def Marked (c : Context) : Prop :=
  ∀ naming original tok, (original, tok) ∈ (c.table naming).forward → Token.Marked tok

theorem Marked.token (h : c.Marked) {naming : Naming} {original tok : Text}
    (hvalue : (c.table naming).value? original = some tok) : Token.Marked tok :=
  h naming original tok (Entries.mem_of_get? hvalue)

theorem Marked.of_table_eq {d : Context} (h : c.Marked) (htable : ∀ naming, d.table naming = c.table naming) :
    d.Marked := by
  intro naming
  rw [htable]
  exact h naming

theorem Marked.answerName (h : c.Marked) (naming : Naming) (original : Text) :
    (c.answerName naming original).2.Marked := by
  rcases c.answerName_cases naming original with
    ⟨tok, -, hanswer⟩ | ⟨hnone, ⟨fault, -, hanswer⟩ | ⟨tok, htoken, hanswer⟩⟩ <;> rw [hanswer]
  · exact h
  · exact h.of_table_eq fun other => table_inserted _ other
  · intro other name value hmem
    rcases (mem_forward_setTable_insert _ hnone).mp hmem with hold | ⟨-, -, rfl⟩
    · exact h other name value hold
    · exact marked_token htoken

theorem Marked.run {α : Type} (h : c.Marked) (p : Rewriting α) : (c.run p).2.1.Marked :=
  run_induction (I := Marked) (fun _ naming original h => h.answerName naming original)
    (fun _ text h => h.of_table_eq (table_layout _ text)) p h

theorem Marked.of_run {α : Type} (h : c.Marked) {p : Rewriting α} {d : Context} {outcome : Except Fault α}
    {notes : List Note} (hrun : c.run p = (outcome, d, notes)) : d.Marked := by
  have hmarked := h.run p
  rwa [hrun] at hmarked

theorem Marked.reload (h : c.Marked) (challenge : Option Challenge) (secrets : Secrets)
    (twister : Twister) : (c.reload challenge secrets twister).Marked := by
  have hsettled {entries : Entries Text} (hentries : ∀ original tok, (original, tok) ∈ entries → Token.Marked tok) :
      ∀ original tok, (original, tok) ∈ Record.settledTable entries → Token.Marked tok := by
    intro original tok hmem
    obtain ⟨written, hwritten, heq⟩ := List.mem_map.mp (Entries.mem_of_mem_ofPairs hmem)
    obtain ⟨-, rfl⟩ := Prod.mk.inj heq
    exact hentries written.1 written.2 hwritten
  unfold Context.reload
  split
  · exact h
  · rename_i raw hwrite
    rw [Record.read_write hwrite secrets]
    intro naming
    cases naming with
    | identifier => exact hsettled (h .identifier)
    | className => exact hsettled (h .className)
    | elementId => exact hsettled (h .elementId)
    | link => exact hsettled (h .link)

/-- Whatever is done in a session, its tokens are as they are made. -/
theorem Marked.afterSteps (h : c.Marked) (steps : List Step) : (c.afterSteps settings steps).Marked :=
  afterSteps_induction (I := Marked) (fun _ _ p h => h.run p) (fun _ challenge secrets twister h =>
    h.reload challenge secrets twister) h steps

end Context

end VeiledGateway
