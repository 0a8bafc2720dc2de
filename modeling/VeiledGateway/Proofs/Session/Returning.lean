/-
  Returning: which records come back from writing as they were, and what that is good for.

  A record comes back exactly if all its texts are sequences of scalar values.  The order of the
  entries comes back too, and it counts: of two names with one token, the later is the one that the
  token stands for.  So what a context answers does not tell whether its record was written and read
  in between.
-/
import VeiledGateway.Proofs.Session.Settling

set_option autoImplicit false

namespace VeiledGateway

/-! ## Contexts that answer alike -/

namespace Context

/-- Two contexts that give the same answers.  What they draw may differ, which shows only in the
layouts of texts that have none yet. -/
structure AnswersAlike (c d : Context) : Prop where
  names (naming : Naming) (original : Text) :
    (c.answerName naming original).1 = (d.answerName naming original).1
  originals (naming : Naming) (tok : Text) :
    (c.table naming).original? tok = (d.table naming).original? tok
  layouts (text : Text) : c.textChunks.value? text = d.textChunks.value? text
  texts (text : Text) :
    d.textChunks.contains text = true → (c.answerPieces text).1 = (d.answerPieces text).1
  programs {α : Type} (p : Rewriting α) : c.twister = d.twister → c.run p = d.run p

/-- The outcome for a name depends on the key and on the table of the name. -/
theorem answerName_congr {c d : Context} {naming : Naming} (hkey : c.key = d.key)
    (htable : c.table naming = d.table naming) (original : Text) :
    (c.answerName naming original).1 = (d.answerName naming original).1 := by
  simp only [answerName, htable, hkey]
  cases (d.table naming).value? original with
  | some tok => rfl
  | none => cases token naming.category original d.key <;> rfl

/-- The pieces of a text that has a layout depend on the layout. -/
theorem answerPieces_congr {c d : Context} (htexts : c.textChunks = d.textChunks) {text : Text}
    (h : d.textChunks.contains text = true) : (c.answerPieces text).1 = (d.answerPieces text).1 := by
  obtain ⟨layout, hlayout : d.textChunks.value? text = some layout⟩ := Option.isSome_iff_exists.mp h
  have hfound : c.layout text = (layout, c) := by rw [Context.layout, htexts, hlayout]
  have hfound' : d.layout text = (layout, d) := by rw [Context.layout, hlayout]
  rw [answerPieces_outcome, answerPieces_outcome, hfound, hfound']

theorem answersAlike_ofMappings (key : Text) (m : Mappings) (twister twister' : Twister) :
    (ofMappings key m twister).AnswersAlike (ofMappings key m twister') where
  names := fun naming => answerName_congr rfl (by cases naming <;> rfl)
  originals := fun naming _ => by cases naming <;> rfl
  layouts := fun _ => rfl
  texts := fun _ => answerPieces_congr (c := ofMappings key m twister) (d := ofMappings key m twister') rfl
  programs := fun p htwister => by
    have hsame : twister = twister' := htwister
    rw [hsame]

end Context

/-! ## Records that come back -/

namespace Record

variable {record : Record}

/-- All texts of a record are sequences of scalar values. -/
structure IsScalar (record : Record) : Prop where
  key : record.key.IsScalar
  nonce (challenge : Challenge) : record.challenge = some challenge → challenge.nonce.IsScalar
  names : ∀ table ∈ tables record.mappings, ∀ entry ∈ table.2, entry.1.IsScalar
  values : ∀ table ∈ tables record.mappings, ∀ entry ∈ table.2, entry.2.IsScalar

/-- A record comes back exactly if all its texts are sequences of scalar values. -/
theorem comes_back_iff (hsingle : record.Single) :
    (∃ raw, record.write = .ok raw ∧ ∀ secrets, read raw secrets = (.ok record, secrets)) ↔
      record.IsScalar := by
  have hwritten : (∃ raw, record.write = .ok raw ∧ ∀ secrets, read raw secrets = (.ok record, secrets)) ↔
      (∃ raw, record.write = .ok raw) ∧ record.settled = record := by
    constructor
    · rintro ⟨raw, hwrite, hread⟩
      have hsettled := (read_write hwrite Secrets.start).symm.trans (hread Secrets.start)
      exact ⟨⟨raw, hwrite⟩, Except.ok.inj (Prod.mk.inj hsettled).1⟩
    · rintro ⟨⟨raw, hwrite⟩, hsettled⟩
      exact ⟨raw, hwrite, fun secrets => by rw [read_write hwrite, hsettled]⟩
  rw [hwritten, exists_write_iff, forall_mem_values, settled_eq_self_iff hsingle,
    PlainNames]
  simp only [← Text.isScalar_iff_plain]
  constructor
  · rintro ⟨⟨hkey, hnonce, hvalues⟩, hnames⟩
    exact ⟨hkey, hnonce, hnames, hvalues⟩
  · rintro ⟨hkey, hnonce, hnames, hvalues⟩
    exact ⟨⟨hkey, hnonce, hvalues⟩, hnames⟩

end Record

end VeiledGateway
