/-
  Settling: which records are read back as they were written.

  A record that can be stored has an encoding: its key, its nonce, all tokens and layouts and all
  names that have tokens are plain.  Rewriting documents keeps it so.  Only the texts that have
  layouts need not be plain, and they alone decide whether the record comes back as it was.
-/
import VeiledGateway.Proofs.Context.Faithful
import VeiledGateway.Proofs.Session.Codec
import VeiledGateway.Proofs.Token.Making

set_option autoImplicit false

namespace VeiledGateway

/-! ## Tables -/

namespace Record

/-- A name is written as it is exactly if it is plain. -/
theorem writtenName_eq_self_iff {t : Text} : writtenName t = t ↔ t.Plain := by
  constructor
  · intro h
    rw [← h]
    exact Utf8.plain_decodeLossy _
  · exact Utf8.decodeLossy_encode

/-- A table is read as it was written exactly if all its names are plain. -/
theorem settledTable_eq_self_iff {entries : Entries Text} (hsingle : entries.Single) :
    settledTable entries = entries ↔ ∀ entry ∈ entries, entry.1.Plain := by
  constructor
  · intro h entry hentry
    rw [← h] at hentry
    obtain ⟨written, -, rfl⟩ := List.mem_map.mp (Entries.mem_of_mem_ofPairs hentry)
    exact Utf8.plain_decodeLossy _
  · intro h
    have hsame : (entries.map fun entry => (writtenName entry.1, entry.2)) = entries := by
      refine (List.map_congr_left fun entry hentry => ?_).trans (List.map_id entries)
      rw [writtenName_eq_self_iff.mpr (h entry hentry)]
      rfl
    rw [settledTable, hsame, Entries.ofPairs_of_single hsingle]

/-- The values of a table are read as they were written. -/
theorem mem_settledTable {entries : Entries Text} {entry : Text × Text}
    (h : entry ∈ settledTable entries) : ∃ name, (name, entry.2) ∈ entries := by
  obtain ⟨written, hwritten, rfl⟩ := List.mem_map.mp (Entries.mem_of_mem_ofPairs h)
  exact ⟨written.1, hwritten⟩

end Record

/-! ## Records that can be stored -/

namespace Mappings

/-- The table of a naming. -/
def names (m : Mappings) : Naming → Entries Text
  | .identifier => m.identifiers
  | .className => m.classNames
  | .elementId => m.elementIds
  | .link => m.links

/-- No name stands twice, names and tokens are plain, and so are layouts. -/
structure Storable (m : Mappings) : Prop where
  single (naming : Naming) : (m.names naming).Single
  plain (naming : Naming) (name tok : Text) : (name, tok) ∈ m.names naming → name.Plain ∧ tok.Plain
  singleTexts : m.textChunks.Single
  layouts (text layout : Text) : (text, layout) ∈ m.textChunks → layout.Plain

theorem storable_empty : Mappings.empty.Storable where
  single := fun naming => by cases naming <;> exact List.nodup_nil
  plain := fun naming _ _ h => by cases naming <;> cases h
  singleTexts := List.nodup_nil
  layouts := fun _ _ h => by cases h

end Mappings

namespace Record

/-- All that is written of a record is plain, but for the texts that have layouts. -/
structure Storable (record : Record) : Prop where
  key : record.key.Plain
  nonce (challenge : Challenge) : record.challenge = some challenge → challenge.nonce.Plain
  mappings : record.mappings.Storable

variable {record : Record}

/-- The tables of a record are those of its names, and that of its texts. -/
theorem forall_mem_tables {m : Mappings} {p : Entries Text → Prop} :
    (∀ table ∈ tables m, p table.2) ↔ (∀ naming, p (m.names naming)) ∧ p m.textChunks := by
  simp only [tables, List.forall_mem_cons]
  constructor
  · rintro ⟨hidentifiers, hclassNames, helementIds, htexts, hlinks, -⟩
    exact ⟨fun naming => by cases naming <;> assumption, htexts⟩
  · rintro ⟨hnames, htexts⟩
    exact ⟨hnames .identifier, hnames .className, hnames .elementId, htexts, hnames .link,
      List.forall_mem_nil _⟩

/-- What must have an encoding are the key, the nonce, and what the tables hold. -/
theorem forall_mem_values {p : Text → Prop} :
    (∀ value ∈ record.values, p value) ↔
      p record.key ∧ (∀ challenge, record.challenge = some challenge → p challenge.nonce) ∧
        ∀ table ∈ tables record.mappings, ∀ entry ∈ table.2, p entry.2 := by
  simp only [values, List.forall_mem_append, List.forall_mem_singleton, List.forall_mem_flatMap,
    List.forall_mem_map, and_assoc]
  refine and_congr_right fun _ => and_congr_left fun _ => ?_
  cases record.challenge <;> simp

/-- A record is written exactly if all its texts but the names of its tables are plain. -/
theorem exists_write_iff :
    (∃ raw, record.write = .ok raw) ↔ ∀ value ∈ record.values, value.Plain := by
  constructor
  · rintro ⟨raw, hwrite⟩ value hvalue
    obtain ⟨bytes, hbytes, -⟩ := Outcome.bind_eq_ok.mp hwrite
    exact Utf8.exists_encode_iff.mp (Outcome.exists_of_mapM_eq_ok hbytes value hvalue)
  · intro h
    obtain ⟨bytes, hbytes⟩ := Outcome.exists_mapM_eq_ok fun value hvalue =>
      Utf8.exists_encode_iff.mpr (h value hvalue)
    exact ⟨_, Outcome.bind_eq_ok.mpr ⟨bytes, hbytes, rfl⟩⟩

theorem Storable.plain_values (h : record.Storable) : ∀ value ∈ record.values, value.Plain := by
  have htables : ∀ table ∈ tables record.mappings, ∀ entry ∈ table.2, entry.2.Plain :=
    (forall_mem_tables (p := fun entries => ∀ entry ∈ entries, entry.2.Plain)).mpr
      ⟨fun naming entry hentry => (h.mappings.plain naming entry.1 entry.2 hentry).2,
        fun entry hentry => h.mappings.layouts entry.1 entry.2 hentry⟩
  exact forall_mem_values.mpr ⟨h.key, h.nonce, htables⟩

/-- A record that can be stored is written. -/
theorem Storable.exists_write (h : record.Storable) : ∃ raw, record.write = .ok raw :=
  exists_write_iff.mpr h.plain_values

theorem settledMappings_names (m : Mappings) (naming : Naming) :
    (settledMappings m).names naming = settledTable (m.names naming) := by
  cases naming <;> rfl

theorem Storable.settledTable_names (h : record.Storable) (naming : Naming) :
    settledTable (record.mappings.names naming) = record.mappings.names naming :=
  (settledTable_eq_self_iff (h.mappings.single naming)).mpr fun entry hentry =>
    (h.mappings.plain naming entry.1 entry.2 hentry).1

/-- What is read of a record that was stored can be stored again. -/
theorem Storable.settled (h : record.Storable) : record.settled.Storable where
  key := h.key
  nonce := h.nonce
  mappings :=
    { single := fun naming => by
        rw [Record.settled, settledMappings_names]
        exact Entries.single_ofPairs _
      plain := fun naming name tok hmem => by
        rw [Record.settled, settledMappings_names, h.settledTable_names] at hmem
        exact h.mappings.plain naming name tok hmem
      singleTexts := Entries.single_ofPairs _
      layouts := fun text layout hmem => by
        obtain ⟨name, hname⟩ := mem_settledTable hmem
        exact h.mappings.layouts name layout hname }

/-- In no table a name stands twice. -/
def Single (record : Record) : Prop :=
  ∀ table ∈ tables record.mappings, table.2.Single

/-- All names in tables have an encoding. -/
def PlainNames (record : Record) : Prop :=
  ∀ table ∈ tables record.mappings, ∀ entry ∈ table.2, entry.1.Plain

theorem settled_eq_self_iff_tables :
    record.settled = record ↔ ∀ table ∈ tables record.mappings, settledTable table.2 = table.2 := by
  obtain ⟨key, challenge, mappings⟩ := record
  obtain ⟨identifiers, classNames, elementIds, textChunks, links⟩ := mappings
  simp [settled, settledMappings, tables]

theorem settled_eq_self_iff (hsingle : record.Single) :
    record.settled = record ↔ record.PlainNames := by
  rw [settled_eq_self_iff_tables]
  constructor
  · intro h table htable
    exact (settledTable_eq_self_iff (hsingle table htable)).mp (h table htable)
  · intro h table htable
    exact (settledTable_eq_self_iff (hsingle table htable)).mpr (h table htable)

theorem Storable.single (h : record.Storable) : record.Single :=
  forall_mem_tables.mpr ⟨h.mappings.single, h.mappings.singleTexts⟩

/-- A record that can be stored comes back as it was exactly if every text that has a layout is plain. -/
theorem Storable.settled_eq_self_iff (h : record.Storable) :
    record.settled = record ↔ ∀ entry ∈ record.mappings.textChunks, entry.1.Plain := by
  have hnames (naming : Naming) : ∀ entry ∈ record.mappings.names naming, entry.1.Plain :=
    fun entry hentry => (h.mappings.plain naming entry.1 entry.2 hentry).1
  rw [Record.settled_eq_self_iff h.single, PlainNames]
  exact (forall_mem_tables (p := fun entries => ∀ entry ∈ entries, entry.1.Plain)).trans
    (and_iff_right hnames)

end Record

/-! ## Rewriting -/

namespace Context

variable {c : Context}

theorem mappings_names (c : Context) (naming : Naming) :
    c.mappings.names naming = (c.table naming).forward := by
  cases naming <;> rfl

theorem storable_answerName (h : c.mappings.Storable) (naming : Naming) (original : Text) :
    (c.answerName naming original).2.mappings.Storable := by
  rcases c.answerName_cases naming original with
    ⟨tok, -, hanswer⟩ | ⟨hnone, ⟨fault, -, hanswer⟩ | ⟨tok, htoken, hanswer⟩⟩
  · rw [hanswer]
    exact h
  · rw [hanswer]
    exact h
  · rw [hanswer]
    refine ⟨fun other => ?_, fun other name value hmem => ?_, ?_, ?_⟩
    · rw [mappings_names]
      by_cases hother : other = naming
      · subst hother
        rw [table_setTable_self]
        exact Entries.Single.put (c.mappings_names other ▸ h.single other) original tok
      · rw [table_setTable_of_ne hother, table_inserted, ← mappings_names]
        exact h.single other
    · rw [mappings_names] at hmem
      rcases (mem_forward_setTable_insert _ hnone).mp hmem with hold | ⟨rfl, rfl, rfl⟩
      · rw [← mappings_names] at hold
        exact h.plain other name value hold
      · exact plain_of_token htoken
    · rw [mappings, textChunks_setTable]
      exact h.singleTexts
    · rw [mappings, textChunks_setTable]
      exact h.layouts

theorem storable_layout (h : c.mappings.Storable) (text : Text) :
    (c.layout text).2.mappings.Storable := by
  rcases c.layout_cases text with ⟨layout, -, hlayout⟩ | ⟨hnone, layout, twister, hdrawn, hlayout⟩
  · rw [hlayout]
    exact h
  · rw [hlayout]
    refine ⟨fun naming => ?_, fun naming => ?_, h.singleTexts.put text layout, ?_⟩
    · have hsingle := h.single naming
      cases naming <;> exact hsingle
    · have hplain := h.plain naming
      cases naming <;> exact hplain
    · intro other value hmem
      rcases Entries.mem_put hmem with hnew | hold
      · obtain ⟨rfl, rfl⟩ := Prod.mk.inj hnew
        have hvalue : value = _ := congrArg Prod.fst hdrawn
        rw [hvalue]
        exact (Layout.covers_choose _ _ _).plain
      · exact h.layouts other value hold

/-- Whatever a program does, the tables can be stored. -/
theorem storable_run {α : Type} (p : Rewriting α) (h : c.mappings.Storable) :
    (c.run p).2.1.mappings.Storable :=
  run_induction (I := fun c => c.mappings.Storable)
    (fun _ naming original h => storable_answerName h naming original)
    (fun _ text h => storable_layout h text) p h

end Context

namespace Record

variable {record : Record}

/-- A record with what rewriting a document has made of its tables can be stored. -/
theorem Storable.rewritten (h : record.Storable) (view : View) (mediaType : Option Text)
    (source : Text) (twister : Twister) :
    { record with
      mappings := (Pipeline.run view mediaType source (record.context twister)).2.1.mappings }.Storable :=
  ⟨h.key, h.nonce, Context.storable_run _ h.mappings⟩

theorem storable_draw (secrets : Secrets) : (draw secrets).1.Storable where
  key := Text.plain_hex _ _
  nonce := fun _ h => nomatch h
  mappings := Mappings.storable_empty

theorem Storable.issue (h : record.Storable) (difficulty : Int) (secrets : Secrets) :
    (record.issue difficulty secrets).2.1.Storable where
  key := h.key
  nonce := fun challenge hchallenge => by
    rw [← Option.some.inj hchallenge]
    exact Text.plain_hex _ _
  mappings := h.mappings

end Record

end VeiledGateway
