/-
  Counting: how many entries the tables of a session have gained.

  The count goes up where something is asked for that has no entry, before its token is made.  A name
  that can be given no token is counted and gets no entry.  Which names those are does not change in
  the course of a session, so the count is ahead of the tables by as many as there were requests for
  such a name.
-/
import VeiledGateway.Proofs.Context.Demanding
import VeiledGateway.Proofs.Context.Ordering
import VeiledGateway.Session.Record

set_option autoImplicit false

namespace VeiledGateway

/-- A step of a session as a program that gives nothing. -/
def Work.program (settings : Settings) : Work → Rewriting Unit
  | .identifier name => do let _ ← Rewriting.identifier name
  | .className name => do let _ ← Rewriting.className settings name
  | .elementId name => do let _ ← Rewriting.elementId name
  | .link path => do let _ ← Rewriting.link settings path
  | .textPieces text => do let _ ← Rewriting.textPieces text
  | .style assets base source => do let _ ← Style.rewrite ⟨settings, assets, base⟩ source
  | .script isModule source => do let _ ← Script.rewrite settings isModule source
  | .markup assets base source => do let _ ← Markup.rewrite ⟨settings, assets, base⟩ source
  | .document assets base mediaType source => do
    let _ ← Pipeline.rewrite ⟨settings, assets, base⟩ mediaType source

namespace Context

variable {α : Type} {c : Context} {settings : Settings} {naming : Naming} {original : Text}

theorem afterWork_eq_program (settings : Settings) (c : Context) (work : Work) :
    c.afterWork settings work = (c.run (work.program settings)).2.1 := by
  cases work <;> exact congrArg Prod.fst (congrArg Prod.snd (run_map (fun _ => ()) _ c)).symm

/-! ## What is asked for -/

/-- The names for whose tokens a program asks when it is run in a context. -/
def namesAsked : Rewriting α → Context → List (Naming × Text)
  | .done _, _ => []
  | .fail _, _ => []
  | .name naming original next, c =>
    match c.answerName naming original with
    | (.ok tok, c) => (naming, original) :: namesAsked (next tok) c
    | (.error _, _) => [(naming, original)]
  | .pieces text next, c =>
    match c.answerPieces text with
    | (.ok parts, c) => namesAsked (next parts) c
    | (.error _, _) => []
  | .note _ next, c => namesAsked next c

/-- The names for whose tokens steps ask, one after the other. -/
def namesAskedBy (settings : Settings) : Context → List Work → List (Naming × Text)
  | _, [] => []
  | c, work :: rest =>
    c.namesAsked (work.program settings) ++ namesAskedBy settings (c.afterWork settings work) rest

/-- A name has no entry, and can be given no token: in it or in the key there is half of a surrogate
pair. -/
def lacks (c : Context) (name : Naming × Text) : Bool :=
  !(c.table name.1).contains name.2 && !decide (name.2.Plain ∧ c.key.Plain)

theorem lacks_eq_true_iff : c.lacks (naming, original) = true ↔ ¬ c.Grants (.name naming original) := by
  rw [lacks, Bool.and_eq_true, Bool.not_eq_true', Bool.not_eq_true', TokenTable.contains,
    Bool.eq_false_iff, decide_eq_false_iff_not, Ne, Option.isSome_iff_exists, ← not_or, Grants]

/-- A name is refused exactly if it is lacking. -/
theorem lacks_eq (c : Context) (naming : Naming) (original : Text) :
    c.lacks (naming, original) = (c.answerName naming original).1.toOption.isNone := by
  have hlacks : c.lacks (naming, original) = true ↔
      ¬ ∃ tok, (c.answerName naming original).1 = .ok tok :=
    lacks_eq_true_iff.trans (not_congr grants_name_iff)
  generalize (c.answerName naming original).1 = answer at hlacks ⊢
  cases answer with
  | error fault => exact hlacks.mpr nofun
  | ok tok => exact Bool.eq_false_iff.mpr fun h => hlacks.mp h ⟨tok, rfl⟩

/-- What can be had in one context and in another, is lacking in both or in neither. -/
theorem lacks_congr {d : Context} (h : ∀ demand, d.Grants demand ↔ c.Grants demand) :
    d.lacks = c.lacks := by
  funext ⟨naming, original⟩
  rw [Bool.eq_iff_iff, lacks_eq_true_iff, lacks_eq_true_iff, h]

/-! ## What is counted -/

theorem total_setTable_insert (hnone : (c.table naming).value? original = none) (n : Nat) (tok : Text) :
    (({ c with inserted := n } : Context).setTable naming ((c.table naming).insert original tok)).mappings.total =
      c.mappings.total + 1 := by
  have hlength : ((c.table naming).insert original tok).forward.length =
      (c.table naming).forward.length + 1 := by
    rw [TokenTable.forward_insert hnone, List.length_append, List.length_singleton]
  cases naming <;> simp only [mappings, Mappings.total, setTable] <;>
    simp only [table] at hlength ⊢ <;> omega

/-- A name that is asked for adds to the count what it adds to the tables, and one more if it is
lacking. -/
theorem count_answerName (c : Context) (naming : Naming) (original : Text) :
    (c.answerName naming original).2.inserted + c.mappings.total =
      c.inserted + (c.answerName naming original).2.mappings.total
        + (c.lacks (naming, original)).toNat := by
  rw [lacks_eq]
  rcases c.answerName_cases naming original with
    ⟨tok, -, hanswer⟩ | ⟨hnone, ⟨fault, -, hanswer⟩ | ⟨tok, -, hanswer⟩⟩ <;> rw [hanswer]
  · rfl
  · exact Nat.add_right_comm _ _ _
  · have hinserted : (({ c with inserted := c.inserted + 1 } : Context).setTable naming
        ((c.table naming).insert original tok)).inserted = c.inserted + 1 := by
      cases naming <;> rfl
    rw [hinserted, total_setTable_insert hnone]
    exact Nat.add_right_comm _ _ _

/-- Tables that were there hold no more entries than those that come after. -/
theorem Extends.total_le {d : Context} (h : c.Extends d) : c.mappings.total ≤ d.mappings.total := by
  have hidentifiers := (h.tokens .identifier).length_le
  have hclasses := (h.tokens .className).length_le
  have hidentities := (h.tokens .elementId).length_le
  have hlinks := (h.tokens .link).length_le
  have hlayouts := h.layouts.length_le
  simp only [table] at hidentifiers hclasses hidentities hlinks
  simp only [mappings, Mappings.total]
  omega

/-- A text that is asked for adds to the count what it adds to the tables. -/
theorem count_layout (c : Context) (text : Text) :
    (c.layout text).2.inserted + c.mappings.total = c.inserted + (c.layout text).2.mappings.total := by
  rcases c.layout_cases text with ⟨layout, -, hlayout⟩ | ⟨hnone, layout, twister, -, hlayout⟩ <;>
    rw [hlayout]
  have hlength : (c.textChunks.insert text layout).forward.length =
      c.textChunks.forward.length + 1 := by
    rw [TokenTable.forward_insert hnone, List.length_append, List.length_singleton]
  simp only [mappings, Mappings.total, hlength]
  omega

theorem lacks_answerName (c : Context) (naming : Naming) (original : Text) :
    (c.answerName naming original).2.lacks = c.lacks :=
  lacks_congr (c.grants_answerName naming original)

theorem lacks_layout (c : Context) (text : Text) : (c.layout text).2.lacks = c.lacks :=
  lacks_congr (c.grants_layout text)

theorem lacks_run (p : Rewriting α) (c : Context) : (c.run p).2.1.lacks = c.lacks :=
  run_induction (I := fun d => d.lacks = c.lacks)
    (fun d naming original h => (d.lacks_answerName naming original).trans h)
    (fun d text h => (d.lacks_layout text).trans h) p rfl

/-- After a run the count is ahead of the tables by as many more as names were asked for that are
lacking. -/
theorem count_run (p : Rewriting α) (c : Context) :
    (c.run p).2.1.inserted + c.mappings.total =
      c.inserted + (c.run p).2.1.mappings.total + (c.namesAsked p).countP c.lacks := by
  induction p generalizing c with
  | done a => rfl
  | fail fault => rfl
  | name naming original next ih =>
    have hcount := c.count_answerName naming original
    have hsame := c.lacks_answerName naming original
    rw [lacks_eq] at hcount
    have hlacks := c.lacks_eq naming original
    rw [run, namesAsked]
    rcases hcase : c.answerName naming original with ⟨fault | tok, d⟩ <;>
      rw [hcase] at hcount hsame hlacks
    · rw [List.countP_singleton, hlacks]
      exact hcount
    · have hrest := ih tok d
      rw [hsame] at hrest
      rw [List.countP_cons_of_neg (Bool.eq_false_iff.mp hlacks)]
      dsimp only at hcount hrest ⊢
      rw [Except.toOption, Option.isNone_some, Bool.toNat_false] at hcount
      omega
  | pieces text next ih =>
    have hcount := c.count_layout text
    have hsame := c.lacks_layout text
    rw [← c.answerPieces_context text] at hcount hsame
    rw [run, namesAsked]
    rcases hcase : c.answerPieces text with ⟨fault | parts, d⟩ <;> rw [hcase] at hcount hsame
    · exact hcount
    · have hrest := ih parts d
      rw [hsame] at hrest
      dsimp only at hcount hrest ⊢
      omega
  | note n next ih => exact ih c

/-- The same after steps, one after the other. -/
theorem count_afterAll (works : List Work) (c : Context) :
    (c.afterAll settings works).inserted + c.mappings.total =
      c.inserted + (c.afterAll settings works).mappings.total +
        (c.namesAskedBy settings works).countP c.lacks := by
  induction works generalizing c with
  | nil => rfl
  | cons work rest ih =>
    have hfirst := c.count_run (work.program settings)
    have hsame := lacks_run (work.program settings) c
    have hrest := ih (c.afterWork settings work)
    rw [← afterWork_eq_program] at hfirst hsame
    rw [hsame] at hrest
    rw [namesAskedBy, List.countP_append]
    change (Context.afterAll settings (c.afterWork settings work) rest).inserted + c.mappings.total =
      c.inserted + (Context.afterAll settings (c.afterWork settings work) rest).mappings.total + _
    omega

/-- Whatever steps are taken with the record of a session, and whether they succeed or fail: the tables
lose nothing, and what has been counted as inserted is what they have gained, and one more for each
request for a name that has neither an entry in the record nor a token.  So the count is exact just if
no step asks for such a name. -/
theorem inserted_exact_iff (settings : Settings) (record : Record) (twister : Twister)
    (works : List Work) :
    let before := record.context twister
    let now := before.afterAll settings works
    let gained := now.mappings.total - record.mappings.total
    record.mappings.total ≤ now.mappings.total ∧
      now.inserted = gained + (before.namesAskedBy settings works).countP before.lacks ∧
      (now.inserted = gained ↔ ∀ name ∈ before.namesAskedBy settings works, before.lacks name = false) := by
  intro before now gained
  have hcount : now.inserted + record.mappings.total =
      0 + now.mappings.total + (before.namesAskedBy settings works).countP before.lacks :=
    count_afterAll works before
  have hgrown : record.mappings.total ≤ now.mappings.total :=
    (before.extends_afterAll works).total_le
  have hexact : now.inserted = gained + (before.namesAskedBy settings works).countP before.lacks := by
    omega
  refine ⟨hgrown, hexact, ?_⟩
  rw [hexact, Nat.add_eq_left, List.countP_eq_zero]
  simp only [Bool.not_eq_true]

/-- Half of a surrogate pair has no token. -/
def halfName : Text :=
  [CodePoint.ofNat 0xD800]

/-- A class that is half of a surrogate pair is counted, and no table has gained an entry. -/
theorem half_name_counted :
    let record := Record.ofKey "k"
    let now := (record.context (Twister.ofSeed 0)).afterAll Settings.default [.className halfName]
    now.inserted = 1 ∧ now.mappings.total - record.mappings.total = 0 := by
  decide +kernel

end Context

end VeiledGateway
