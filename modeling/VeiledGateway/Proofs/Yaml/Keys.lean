/-
  Keys: no text stands twice among the keys of the table that a document is.

  The table at the root of a document is put together entry by entry, and an entry with the key of an
  earlier one replaces its value.  A scalar is no table, whatever its tag: so a document that is a
  table was put together like this.
-/
import Mathlib.Data.List.Nodup
import VeiledGateway.Proofs.Outcome
import VeiledGateway.Yaml.Document

set_option autoImplicit false

namespace VeiledGateway

namespace Datum

/-- The text that a key is. -/
def textKey? : Datum → Option Text
  | .text t => some t
  | _ => none

/-- The texts among the keys of a table. -/
def textKeys (entries : List (Datum × Datum)) : List Text :=
  entries.filterMap fun entry => entry.1.textKey?

/-- No text is the key of two entries. -/
def SingleKeys (entries : List (Datum × Datum)) : Prop :=
  (textKeys entries).Nodup

variable {entries : List (Datum × Datum)}

theorem textKey?_eq_some {key : Datum} {t : Text} : key.textKey? = some t ↔ key = .text t := by
  cases key <;> simp [textKey?]

theorem mem_textKeys {t : Text} : t ∈ textKeys entries ↔ ∃ value, (.text t, value) ∈ entries := by
  simp only [textKeys, List.mem_filterMap, textKey?_eq_some, Prod.exists]
  constructor
  · rintro ⟨key, value, hmem, rfl⟩
    exact ⟨value, hmem⟩
  · rintro ⟨value, hmem⟩
    exact ⟨.text t, value, hmem, rfl⟩

/-- A table with one entry more has all the texts that it had, or also that of the entry. -/
theorem textKeys_putEntry (entries : List (Datum × Datum)) (key value : Datum) :
    textKeys (putEntry entries key value) = textKeys entries ∨
      ∃ t, key = .text t ∧ t ∉ textKeys entries ∧
        textKeys (putEntry entries key value) = textKeys entries ++ [t] := by
  induction entries with
  | nil =>
    cases hkey : key.textKey? with
    | none => exact .inl (List.filterMap_cons_none hkey)
    | some t =>
      exact .inr ⟨t, textKey?_eq_some.mp hkey, List.not_mem_nil, List.filterMap_cons_some hkey⟩
  | cons entry rest ih =>
    obtain ⟨first, held⟩ := entry
    rw [putEntry]
    by_cases hsame : sameKey first key = true
    · rw [if_pos hsame]
      exact .inl rfl
    rw [if_neg hsame]
    cases hfirst : first.textKey? with
    | none =>
      have hcons : ∀ others, textKeys ((first, held) :: others) = textKeys others :=
        fun others => List.filterMap_cons_none hfirst
      rw [hcons, hcons]
      exact ih
    | some u =>
      have hcons : ∀ others, textKeys ((first, held) :: others) = u :: textKeys others :=
        fun others => List.filterMap_cons_some hfirst
      rw [hcons, hcons]
      rcases ih with hall | ⟨t, rfl, hnew, hmore⟩
      · exact .inl (congrArg (u :: ·) hall)
      · refine .inr ⟨t, rfl, ?_, congrArg (u :: ·) hmore⟩
        rw [textKey?_eq_some] at hfirst
        intro hmem
        rcases List.mem_cons.mp hmem with rfl | hrest
        · subst hfirst
          exact hsame (beq_self_eq_true t)
        · exact hnew hrest

theorem SingleKeys.putEntry (h : SingleKeys entries) (key value : Datum) :
    SingleKeys (putEntry entries key value) := by
  unfold SingleKeys
  rcases textKeys_putEntry entries key value with hall | ⟨t, -, hnew, hmore⟩
  · rw [hall]
    exact h
  · rw [hmore]
    exact h.append (List.nodup_singleton t) (List.disjoint_singleton.mpr hnew)

/-- What a text stands for in a table is one value. -/
theorem SingleKeys.unique (h : SingleKeys entries) {t : Text} {value other : Datum}
    (hvalue : (.text t, value) ∈ entries) (hother : (.text t, other) ∈ entries) : value = other := by
  induction entries with
  | nil => cases hvalue
  | cons entry rest ih =>
    have hmem : ∀ {value : Datum}, (Datum.text t, value) ∈ rest → t ∈ textKeys rest :=
      fun hrest => mem_textKeys.mpr ⟨_, hrest⟩
    have hfirst : ∀ {value : Datum}, SingleKeys ((.text t, value) :: rest) → t ∉ textKeys rest :=
      fun hsingle => (List.nodup_cons.mp hsingle).1
    rcases List.mem_cons.mp hvalue with rfl | hrest
    · rcases List.mem_cons.mp hother with heq | hother
      · exact (Prod.mk.inj heq).2.symm
      · exact absurd (hmem hother) (hfirst h)
    · rcases List.mem_cons.mp hother with rfl | hother
      · exact absurd (hmem hrest) (hfirst h)
      refine ih (List.Nodup.sublist ?_ h) hrest hother
      exact (List.sublist_cons_self entry rest).filterMap _

end Datum

namespace Yaml

theorem momentOf_ne_table {t : Text} {entries : List (Datum × Datum)} :
    momentOf t ≠ .ok (.table entries) := by
  intro h
  unfold momentOf at h
  split at h
  · cases h
  · rename_i m _
    dsimp only at h
    split at h
    · rename_i d hread
      obtain rfl := Except.ok.inj h
      split at hread
      · obtain ⟨date, -, hread⟩ := Outcome.bind_eq_ok.mp hread
        cases hread
      · obtain ⟨zone, -, hread⟩ := Outcome.bind_eq_ok.mp hread
        obtain ⟨moment, -, hread⟩ := Outcome.bind_eq_ok.mp hread
        cases hread
    · cases h

/-- A scalar of any tag is no table. -/
theorem Tag.scalarValue_ne_table {tag : Tag} {t : Text} {d : Datum} (h : tag.scalarValue t = .ok d)
    (entries : List (Datum × Datum)) : d ≠ .table entries := by
  rintro rfl
  cases tag with
  | truth =>
    obtain ⟨b, -, h⟩ := Outcome.bind_eq_ok.mp h
    cases h
  | whole =>
    obtain ⟨i, -, h⟩ := Outcome.bind_eq_ok.mp h
    cases h
  | real =>
    obtain ⟨x, -, h⟩ := Outcome.bind_eq_ok.mp h
    cases h
  | bytes =>
    simp only [Tag.scalarValue, bytesOf] at h
    split at h
    · split at h <;> cases h
    · cases h
  | moment => exact momentOf_ne_table h
  | _ => cases h

namespace Building

/-- No scalar is a table. -/
def Plain (b : Building) : Prop :=
  ∀ n entries, b.cell n ≠ .scalar (.table entries)

variable {b b' : Building}

theorem cell_setCell (b : Building) (n m : Nat) (cell : Cell) :
    (b.setCell n cell).cell m = cell ∨ (b.setCell n cell).cell m = b.cell m := by
  unfold Building.cell setCell
  rw [Array.getElem?_modify]
  split
  · cases b.cells[m]? with
    | none => exact .inr rfl
    | some old => exact .inl rfl
  · exact .inr rfl

theorem Plain.setCell (h : b.Plain) (n : Nat) {cell : Cell}
    (hcell : ∀ entries, cell ≠ .scalar (.table entries)) : (b.setCell n cell).Plain := by
  intro m entries
  rcases cell_setCell b n m cell with hnew | hold
  · rw [hnew]
    exact hcell entries
  · rw [hold]
    exact h m entries

theorem Plain.of_cells (h : b.Plain) (hcells : b'.cells = b.cells) : b'.Plain := by
  intro m entries
  rw [Building.cell, hcells]
  exact h m entries

theorem Plain.visit (h : b.Plain) {n : Nat} (hvisit : b.visit n = .ok b') : b'.Plain := by
  unfold Building.visit at hvisit
  dsimp only at hvisit
  split at hvisit
  · split at hvisit
    · rename_i cell hempty
      obtain rfl := Except.ok.inj hvisit
      refine Plain.of_cells (h.setCell n fun entries => ?_) rfl
      unfold emptyCell at hempty
      split at hempty <;> cases hempty <;> nofun
    · split at hvisit
      · cases hvisit
      · obtain ⟨t, -, hvisit⟩ := Outcome.bind_eq_ok.mp hvisit
        obtain ⟨d, hvalue, hvisit⟩ := Outcome.bind_eq_ok.mp hvisit
        obtain rfl := Outcome.pure_eq_ok.mp hvisit
        exact h.setCell n fun entries hd => Tag.scalarValue_ne_table hvalue entries (Cell.scalar.inj hd)
  · obtain rfl := Except.ok.inj hvisit
    exact h

/-- Merging changes what the entries of tables are, and gives no values. -/
structure MergesOnly (fuel : Nat) : Prop where
  table (b b' : Building) (n : Nat) : merge fuel b n = .ok b' → b'.cells = b.cells
  entries (b b' : Building) (n : Nat) (before own taken : List (Nat × Nat)) :
    merge.mergeEntries fuel b n before own = .ok (b', taken) → b'.cells = b.cells
  source (b b' : Building) (v : Nat) (taken : List (Nat × Nat)) :
    merge.mergeSource fuel b v = .ok (b', taken) → b'.cells = b.cells
  items (b b' : Building) (ns : List Nat) (groups : List (List (Nat × Nat))) :
    merge.mergeItems fuel b ns = .ok (b', groups) → b'.cells = b.cells

theorem mergesOnly (fuel : Nat) : MergesOnly fuel := by
  induction fuel with
  | zero =>
    constructor
    · intro b b' n h
      rw [← Except.ok.inj h]
    · intro b b' n before own taken h
      rw [← (Prod.mk.inj (Except.ok.inj h)).1]
    · intro b b' v taken h
      rw [← (Prod.mk.inj (Except.ok.inj h)).1]
    · intro b b' ns groups h
      rw [← (Prod.mk.inj (Except.ok.inj h)).1]
  | succ fuel ih =>
    constructor
    · intro b b' n h
      rw [merge] at h
      split at h
      · obtain ⟨⟨mid, taken⟩, hentries, h⟩ := Outcome.bind_eq_ok.mp h
        rw [← ih.entries b mid n [] _ taken hentries]
        dsimp only at h
        split at h
        · rw [← Except.ok.inj h]
          split <;> rfl
        · rw [← Except.ok.inj h]
      · rw [← Except.ok.inj h]
    · intro b b' n before own taken h
      cases own with
      | nil => rw [← (Prod.mk.inj (Except.ok.inj h)).1]
      | cons entry rest =>
        obtain ⟨k, v⟩ := entry
        rw [merge.mergeEntries] at h
        split at h
        · obtain ⟨⟨mid, first⟩, hsource, h⟩ := Outcome.bind_eq_ok.mp h
          obtain ⟨⟨last, more⟩, hrest, h⟩ := Outcome.bind_eq_ok.mp h
          rw [← (Prod.mk.inj (Except.ok.inj h)).1, ih.entries mid last n before rest more hrest]
          exact ih.source (b.setEntries n (before ++ rest)) mid v first hsource
        · exact ih.entries
            { b with nodes := b.nodes.modify k fun node => { node with tag := .text } } b' n _ rest
            taken h
        · exact ih.entries b b' n _ rest taken h
    · intro b b' v taken h
      rw [merge.mergeSource] at h
      split at h
      · obtain ⟨mid, htable, h⟩ := Outcome.bind_eq_ok.mp h
        rw [← (Prod.mk.inj (Except.ok.inj h)).1]
        exact ih.table b mid v htable
      · obtain ⟨⟨mid, groups⟩, hitems, h⟩ := Outcome.bind_eq_ok.mp h
        rw [← (Prod.mk.inj (Except.ok.inj h)).1]
        exact ih.items b mid _ groups hitems
      · cases h
    · intro b b' ns groups h
      cases ns with
      | nil => rw [← (Prod.mk.inj (Except.ok.inj h)).1]
      | cons item rest =>
        rw [merge.mergeItems] at h
        split at h
        · obtain ⟨mid, htable, h⟩ := Outcome.bind_eq_ok.mp h
          obtain ⟨⟨last, more⟩, hrest, h⟩ := Outcome.bind_eq_ok.mp h
          rw [← (Prod.mk.inj (Except.ok.inj h)).1, ih.items mid last rest more hrest]
          exact ih.table b mid item htable
        · cases h

theorem Plain.visitEntries (h : b.Plain) {entries : List (Nat × Nat)}
    (hvisit : b.visitEntries entries = .ok b') : b'.Plain := by
  induction entries generalizing b with
  | nil => exact Except.ok.inj hvisit ▸ h
  | cons entry rest ih =>
    obtain ⟨k, v⟩ := entry
    rw [Building.visitEntries] at hvisit
    obtain ⟨first, hkey, hvisit⟩ := Outcome.bind_eq_ok.mp hvisit
    dsimp only at hvisit
    split at hvisit
    · cases hvisit
    · obtain ⟨second, hvalue, hvisit⟩ := Outcome.bind_eq_ok.mp hvisit
      exact ih ((h.visit hkey).visit hvalue) hvisit

theorem Plain.visitPairs (h : b.Plain) {items : List Nat} {entries : List (Nat × Nat)}
    (hvisit : b.visitPairs items = .ok (b', entries)) : b'.Plain := by
  induction items generalizing b entries with
  | nil => exact (Prod.mk.inj (Except.ok.inj hvisit)).1 ▸ h
  | cons item rest ih =>
    rw [Building.visitPairs] at hvisit
    split at hvisit
    · obtain ⟨first, hkey, hvisit⟩ := Outcome.bind_eq_ok.mp hvisit
      obtain ⟨second, hvalue, hvisit⟩ := Outcome.bind_eq_ok.mp hvisit
      obtain ⟨⟨last, more⟩, hrest, hvisit⟩ := Outcome.bind_eq_ok.mp hvisit
      obtain ⟨rfl, -⟩ := Prod.mk.inj (Except.ok.inj hvisit)
      exact ih ((h.visit hkey).visit hvalue) hrest
    · cases hvisit

theorem Plain.visitAll (h : b.Plain) {items : List Nat}
    (hvisit : items.foldlM Building.visit b = .ok b') : b'.Plain := by
  induction items generalizing b with
  | nil => exact Except.ok.inj hvisit ▸ h
  | cons item rest ih =>
    rw [List.foldlM_cons] at hvisit
    obtain ⟨mid, hfirst, hvisit⟩ := Outcome.bind_eq_ok.mp hvisit
    exact ih (h.visit hfirst) hvisit

theorem Plain.fill (h : b.Plain) {n : Nat} (hfill : b.fill n = .ok b') : b'.Plain := by
  unfold Building.fill at hfill
  dsimp only at hfill
  split at hfill
  · obtain ⟨mid, hall, hfill⟩ := Outcome.bind_eq_ok.mp hfill
    rw [← Except.ok.inj hfill]
    exact (h.visitAll hall).setCell n nofun
  · obtain ⟨⟨mid, entries⟩, hall, hfill⟩ := Outcome.bind_eq_ok.mp hfill
    rw [← Except.ok.inj hfill]
    exact (h.visitPairs hall).setCell n nofun
  · obtain ⟨merged, hmerge, hfill⟩ := Outcome.bind_eq_ok.mp hfill
    have hmerged : merged.Plain := h.of_cells ((mergesOnly _).table b merged n hmerge)
    split at hfill
    · obtain ⟨mid, hall, hfill⟩ := Outcome.bind_eq_ok.mp hfill
      rw [← Except.ok.inj hfill]
      exact (hmerged.visitEntries hall).setCell n nofun
    · obtain ⟨mid, hall, hfill⟩ := Outcome.bind_eq_ok.mp hfill
      rw [← Except.ok.inj hfill]
      exact (hmerged.visitEntries hall).setCell n nofun
    · cases hfill
  · cases hfill

theorem Plain.run {fuel : Nat} (h : b.Plain) (hrun : run fuel b = .ok b') : b'.Plain := by
  induction fuel generalizing b with
  | zero => exact Except.ok.inj hrun ▸ h
  | succ fuel ih =>
    rw [Building.run] at hrun
    split at hrun
    · exact Except.ok.inj hrun ▸ h
    · rename_i rest hwaiting
      obtain ⟨mid, hfill, hrun⟩ := Outcome.bind_eq_ok.mp hrun
      have hrest : Plain { b with waiting := rest } := h.of_cells rfl
      exact ih (hrest.fill hfill) hrun

/-- The entries of a table are put there one after the other. -/
theorem singleKeys_foldl_putEntry (part : Nat → Datum) (pairs : List (Nat × Nat))
    {entries : List (Datum × Datum)} (h : Datum.SingleKeys entries) :
    Datum.SingleKeys
      (pairs.foldl (fun out e => Datum.putEntry out (part e.1) (part e.2)) entries) := by
  induction pairs generalizing entries with
  | nil => exact h
  | cons pair rest ih => exact ih (h.putEntry _ _)

theorem Plain.singleKeys (h : b.Plain) {fuel n : Nat} {path : List Nat}
    {entries : List (Datum × Datum)} (hdatum : b.datum fuel path n = .table entries) :
    Datum.SingleKeys entries := by
  cases fuel with
  | zero => cases hdatum
  | succ fuel =>
    rw [Building.datum] at hdatum
    dsimp only at hdatum
    split at hdatum
    · cases hdatum
    · rename_i d hcell
      exact absurd (hcell.trans (congrArg Cell.scalar hdatum)) (h n entries)
    · split at hdatum <;> cases hdatum
    · split at hdatum
      · cases hdatum
      · rw [← Datum.table.inj hdatum]
        exact singleKeys_foldl_putEntry _ _ List.nodup_nil
    · split at hdatum <;> cases hdatum
    · split at hdatum <;> cases hdatum

end Building

/-- Before any node has a value, no scalar is a table. -/
theorem plain_start (nodes : Array Node) :
    Building.Plain ⟨nodes, nodes.map fun _ => .unset, []⟩ := by
  intro n entries
  rw [Building.cell, Array.getElem?_map]
  cases nodes[n]? <;> nofun

/-- No text is the key of two entries of a document. -/
theorem singleKeys_of_read {t : Text} {entries : List (Datum × Datum)}
    (h : read t = .ok (.table entries)) : Datum.SingleKeys entries := by
  obtain ⟨graph?, -, h⟩ := Outcome.bind_eq_ok.mp h
  cases graph? with
  | none => cases h
  | some g =>
    obtain ⟨start, hstart, h⟩ := Outcome.bind_eq_ok.mp h
    obtain ⟨b, hrun, h⟩ := Outcome.bind_eq_ok.mp h
    exact (((plain_start g.nodes).visit hstart).run hrun).singleKeys (Except.ok.inj h)

end Yaml

end VeiledGateway
