/-
  The codec of records: what is read of a record that was written.

  A name in a table is written with a replacement for what has no encoding, so two names may become
  one, and then the later value counts.  Nothing else of a record is changed.
-/
import VeiledGateway.Proofs.Json.RoundTrip
import VeiledGateway.Proofs.Outcome
import VeiledGateway.Proofs.Text.Entries
import VeiledGateway.Session.Codec

set_option autoImplicit false

namespace VeiledGateway.Record

/-- The entries of a table as they are read after they have been written. -/
def settledTable (entries : Entries Text) : Entries Text :=
  Entries.ofPairs (entries.map fun entry => (writtenName entry.1, entry.2))

def settledMappings (m : Mappings) : Mappings :=
  ⟨settledTable m.identifiers, settledTable m.classNames, settledTable m.elementIds,
    settledTable m.textChunks, settledTable m.links⟩

/-- The record as it is read after it has been written. -/
def settled (record : Record) : Record :=
  { record with mappings := settledMappings record.mappings }

/-! ## Tables -/

theorem entriesJson_isExact (entries : Entries Text) : (entriesJson entries).isExact = true := by
  have hfields : ∀ entries : Entries Text, Json.areExactFields
      (entries.map fun entry => (writtenName entry.1, Json.text entry.2)) = true := by
    intro entries
    induction entries with
    | nil => rfl
    | cons entry rest ih => exact ih
  exact hfields entries

theorem mergedFields_texts (pairs : List (Text × Text)) :
    Json.mergedFields (pairs.map fun pair => (pair.1, Json.text pair.2)) =
      pairs.map fun pair => (pair.1, Json.text pair.2) := by
  induction pairs with
  | nil => rfl
  | cons pair rest ih =>
    rw [List.map_cons, Json.mergedFields, ih]
    rfl

/-- What is read of a table is its settled entries. -/
theorem merged_entriesJson (entries : Entries Text) :
    (entriesJson entries).merged =
      .object ((settledTable entries).map fun entry => (entry.1, Json.text entry.2)) := by
  have hpairs : (entries.map fun entry => (writtenName entry.1, Json.text entry.2)) =
      (entries.map fun entry => (writtenName entry.1, entry.2)).map
        fun pair => (pair.1, Json.text pair.2) := by
    rw [List.map_map]
    rfl
  rw [entriesJson, Json.merged, hpairs, mergedFields_texts, Entries.ofPairs_map]
  rfl

theorem tableOf_texts (entries : Entries Text) :
    tableOf (.object (entries.map fun entry => (entry.1, Json.text entry.2))) = .ok entries := by
  rw [tableOf]
  induction entries with
  | nil => rfl
  | cons entry rest ih =>
    rw [List.map_cons, List.foldr_cons, ih]
    rfl

/-! ## Records -/

theorem toJson_isExact (record : Record) : record.toJson.isExact = true := by
  have hmappings : Json.areExactFields ((tables record.mappings).map fun table =>
      (Text.ofString table.1, entriesJson table.2)) = true := by
    simp [Json.areExactFields, tables, entriesJson_isExact]
  have hchallenge : ((record.challenge.map challengeJson).getD .null).isExact = true := by
    cases record.challenge <;> rfl
  simp [toJson, Json.isExact, Json.areExactFields, hmappings, hchallenge]

theorem challengeOf_merged (challenge : Option Challenge) :
    challengeOf ((challenge.map challengeJson).getD .null).merged = .ok challenge := by
  cases challenge <;> rfl

/-- A table as it is read, in the form in which it is written. -/
def tableTexts (entries : Entries Text) : Json :=
  .object ((settledTable entries).map fun entry => (entry.1, Json.text entry.2))

/-- All tables as they are read, in the form in which they are written. -/
def mappingsTexts (m : Mappings) : Entries Json :=
  [("identifiers", tableTexts m.identifiers), ("classnames", tableTexts m.classNames),
    ("ids", tableTexts m.elementIds), ("textchunks", tableTexts m.textChunks),
    ("links", tableTexts m.links)]

theorem merged_mappings (m : Mappings) :
    (Json.object ((tables m).map fun table =>
      (Text.ofString table.1, entriesJson table.2))).merged = .object (mappingsTexts m) := by
  simp only [tables, List.map, Json.merged, Json.mergedFields, merged_entriesJson]
  rfl

/-- A field that is there is read, and what is wrong with it is told under its name. -/
theorem field_of_ok {α : Type} {fields : Entries Json} {name : Text} {j : Json} {default value : α}
    {read : Json → Checked α} (hget : Entries.get? fields name = some j) (hread : read j = .ok value) :
    field fields name default read = .ok value := by
  rw [field, hget]
  simp only [hread]
  rfl

theorem mappingsOf_texts (m : Mappings) :
    mappingsOf (.object (mappingsTexts m)) = .ok (settledMappings m) := by
  have hidentifiers : field (mappingsTexts m) "identifiers" [] tableOf
      = .ok (settledTable m.identifiers) := field_of_ok rfl (tableOf_texts _)
  have hclassNames : field (mappingsTexts m) "classnames" [] tableOf
      = .ok (settledTable m.classNames) := field_of_ok rfl (tableOf_texts _)
  have hids : field (mappingsTexts m) "ids" [] tableOf
      = .ok (settledTable m.elementIds) := field_of_ok rfl (tableOf_texts _)
  have htextChunks : field (mappingsTexts m) "textchunks" [] tableOf
      = .ok (settledTable m.textChunks) := field_of_ok rfl (tableOf_texts _)
  have hlinks : field (mappingsTexts m) "links" [] tableOf
      = .ok (settledTable m.links) := field_of_ok rfl (tableOf_texts _)
  simp only [mappingsOf, hidentifiers, hclassNames, hids, htextChunks, hlinks]
  rfl

/-- The parts of a record as they are read, in the form in which they are written. -/
def recordTexts (record : Record) : Entries Json :=
  [("sessionKey", .text record.key),
    ("challenge", ((record.challenge.map challengeJson).getD .null).merged),
    ("mappings", .object (mappingsTexts record.mappings))]

theorem merged_toJson (record : Record) : record.toJson.merged = .object (recordTexts record) := by
  rw [toJson, Json.merged, Json.mergedFields, Json.mergedFields, Json.mergedFields,
    merged_mappings]
  rfl

/-- What is read of a record that was written is the record with its names settled. -/
theorem ofJson_merged (record : Record) (secrets : Secrets) :
    ofJson record.toJson.merged secrets = (.ok record.settled, secrets) := by
  have hkey : keyOf (recordTexts record) secrets = (.ok record.key, secrets) := rfl
  have hchallenge : field (recordTexts record) "challenge" none challengeOf
      = .ok record.challenge := field_of_ok rfl (challengeOf_merged record.challenge)
  have hmappings : field (recordTexts record) "mappings" Mappings.empty mappingsOf
      = .ok (settledMappings record.mappings) := field_of_ok rfl (mappingsOf_texts _)
  simp only [merged_toJson, ofJson, hkey, hchallenge, hmappings]
  rfl

theorem write_eq_ok {record : Record} {raw : Text} (h : record.write = .ok raw) :
    raw = record.toJson.render false .compact 0 := by
  obtain ⟨_, -, h⟩ := Outcome.bind_eq_ok.mp h
  exact (Outcome.pure_eq_ok.mp h).symm

/-- A record that was written is read back with its names settled, and no secret is drawn. -/
theorem read_write {record : Record} {raw : Text} (h : record.write = .ok raw)
    (secrets : Secrets) : read raw secrets = (.ok record.settled, secrets) := by
  rw [write_eq_ok h, read, Json.readWith?_render true (toJson_isExact record)]
  exact ofJson_merged record secrets

end VeiledGateway.Record
