/-
  Upholding: sessions in which all that is kept was written for records that can be stored.

  Work on a record upholds this if it makes of such a record another one, and then the new record is
  stored whenever the store can be reached.
-/
import VeiledGateway.Proofs.Session.Challenges
import VeiledGateway.Proofs.Session.Settling
import VeiledGateway.Proofs.Session.Sparing

set_option autoImplicit false

namespace VeiledGateway.Sessions

/-- All that is kept was written for records that can be stored, and no name stands twice. -/
structure Sound (s : Sessions) : Prop where
  single : s.Single
  written (name raw : Text) (expires : Option Rat) : s.kept? name = some (raw, expires) →
    ∃ record : Record, record.Storable ∧ record.write = .ok raw

/-- Sessions come to be sound, and under all names but one nothing is lost but what has run out. -/
structure Upholds (s s' : Sessions) (name : Text) : Prop where
  now : s'.now = s.now
  sound : s'.Sound
  others (other : Text) : other ≠ name → s.FadesAt s' other

/-- A request of this kind is answered by the store. -/
def Reaches (s : Sessions) (kind : Text) : Prop :=
  match s.store with
  | .memory _ => True
  | .remote _ service => kind ∉ service.refusing

/-- The time from which a text is forgotten that is stored now, if there is one. -/
def expiry (s : Sessions) : Option Rat :=
  match s.store with
  | .memory store => some (s.now + store.lifetime)
  | .remote _ _ => none

variable {s s' mid : Sessions} {name : Text} {record : Record}

theorem Empty.sound (h : s.Empty) : s.Sound where
  single := h.single
  written := fun name raw expires hkept => by
    rw [h.kept? name] at hkept
    cases hkept

/-! ## Soundness -/

theorem FadesAt.written (h : s.FadesAt s' name) (hsound : s.Sound) {raw : Text}
    {expires : Option Rat} (hkept : s'.kept? name = some (raw, expires)) :
    ∃ record : Record, record.Storable ∧ record.write = .ok raw := by
  rcases h with hsame | ⟨hgone, -⟩
  · exact hsound.written name raw expires (hsame ▸ hkept)
  · rw [hgone] at hkept
    cases hkept

theorem Fades.sound (h : s.Fades s') (hsound : s.Sound) : s'.Sound where
  single := h.single hsound.single
  written := fun name _ _ hkept => (h.kept name).written hsound hkept

theorem Fades.upholds (h : s.Fades s') (hsound : s.Sound) (name : Text) : s.Upholds s' name where
  now := h.now
  sound := h.sound hsound
  others := fun other _ => h.kept other

theorem Stores.sound (h : s.Stores name record s') (hstorable : record.Storable) (hsound : s.Sound) :
    s'.Sound where
  single := h.single hsound.single
  written := fun other raw expires hkept => by
    by_cases hother : other = name
    · subst hother
      obtain ⟨written, _, hwrite, hstored⟩ := h.written
      rw [hstored] at hkept
      obtain ⟨rfl, -⟩ := Prod.mk.inj (Option.some.inj hkept)
      exact ⟨record, hstorable, hwrite⟩
    · exact (h.others other hother).written hsound hkept

theorem Loses.upholds (h : s.Loses name s') (hsound : s.Sound) : s.Upholds s' name where
  now := h.now
  sound :=
    { single := h.single hsound.single
      written := fun other raw expires hkept => by
        by_cases hother : other = name
        · subst hother
          rcases h.own with hsame | hgone
          · exact hsound.written other raw expires (hsame ▸ hkept)
          · rw [hgone] at hkept
            cases hkept
        · exact hsound.written other raw expires (h.others other hother ▸ hkept) }
  others := fun other hother => .inl (h.others other hother)

/-! ## Records that are found -/

/-- What is read in sound sessions can be stored. -/
theorem storable_of_load (hsound : s.Sound) (h : load name s = (.ok (some record), s')) :
    record.Storable := by
  obtain ⟨raw, expires, secrets, hkept, hread⟩ := load_eq_some h
  obtain ⟨written, hstorable, hwrite⟩ := hsound.written name raw expires hkept
  rw [Record.read_write hwrite] at hread
  rw [← Except.ok.inj hread]
  exact hstorable.settled

/-- The record that work begins with can be stored. -/
theorem Opens.storable (h : s.Opens name record s') (hsound : s.Sound) : record.Storable := by
  obtain ⟨entered, henter, hload⟩ := h
  have hentered : entered.Sound := by
    have hfades := fades_enter name s
    rw [henter] at hfades
    exact hfades.sound hsound
  unfold loadOrDraw at hload
  split at hload
  · cases (Prod.mk.inj hload).1
  · rename_i hfound
    rw [← Except.ok.inj (Prod.mk.inj hload).1]
    exact storable_of_load hentered hfound
  · rw [← Except.ok.inj (Prod.mk.inj hload).1]
    exact Record.storable_draw _

theorem Opens.fades (h : s.Opens name record s') : s.Fades s' := by
  obtain ⟨entered, henter, hload⟩ := h
  have hentered := fades_enter name s
  have hloaded := fades_loadOrDraw name entered
  rw [henter] at hentered
  rw [hload] at hloaded
  exact hentered.trans hloaded

/-! ## Records that are stored -/

/-- A record that has a written form is stored where the store can be reached. -/
theorem save_of_write {raw : Text} (hwrite : record.write = .ok raw) (hreaches : s.Reaches "set") :
    (save name record s).1 = .ok () ∧
      (save name record s).2.kept? name = some (raw, s.expiry) := by
  cases hstore : s.store with
  | memory store =>
    simp only [save, hwrite, hstore]
    refine ⟨trivial, ?_⟩
    rw [kept?_memory rfl, entries_save, Entries.get?_put_self, expiry, hstore]
    rfl
  | remote store service =>
    rw [Reaches, hstore] at hreaches
    have hanswers : service.refusing.contains (Call.set (store.key name) store.lifetime).name = false := by
      rw [← Bool.not_eq_true, List.contains_iff_mem]
      exact hreaches
    simp only [save, hwrite, hstore, RemoteStore.save, Service.client, Service.answer, hanswers]
    refine ⟨rfl, ?_⟩
    rw [kept?_remote rfl, expiry, hstore]
    exact congrArg (Option.map _) (Entries.get?_put_self _ _ _)

theorem save_of_reaches (hstorable : record.Storable)
    (hreaches : s.Reaches "set") :
    ∃ raw, record.write = .ok raw ∧ (save name record s).1 = .ok () ∧
      (save name record s).2.kept? name = some (raw, s.expiry) := by
  obtain ⟨raw, hwrite⟩ := hstorable.exists_write
  exact ⟨raw, hwrite, save_of_write hwrite hreaches⟩

/-- Work that has come to a record is done when that is stored. -/
theorem withRecord_of_done {ε α : Type} {ofFault : SessionFault → ε} {a : α} {after : Record}
    {work : Record → Keeping ε (α × Record)} {loaded last : Sessions}
    (h : s.Opens name record loaded) (hwork : work record loaded = (.ok (a, after), last))
    (hsave : (save name after last).1 = .ok ()) :
    withRecord name ofFault work s = (.ok a, leave name (save name after last).2) := by
  obtain ⟨entered, henter, hload⟩ := h
  rcases hsaved : save name after last with ⟨outcome, saved⟩
  obtain rfl : outcome = .ok () := by rw [hsaved] at hsave; exact hsave
  simp only [withRecord, locked, henter, hload, hwork, hsaved]

/-- Work upholds the sessions if it makes a record that can be stored of every one that can be. -/
theorem upholds_withRecord {ε α : Type} (ofFault : SessionFault → ε)
    {work : Record → Keeping ε (α × Record)}
    (hfades : ∀ (record : Record) (s : Sessions), s.Fades (work record s).2)
    (hwork : ∀ (record : Record) (s : Sessions) (a : α) (after : Record), record.Storable →
      (work record s).1 = .ok (a, after) → after.Storable)
    (name : Text) (hsound : s.Sound) : s.Upholds (withRecord name ofFault work s).2 name := by
  have hentered := fades_enter name s
  unfold withRecord locked
  rcases henter : enter name s with ⟨fault | _, entered⟩
  · rw [henter] at hentered
    exact hentered.upholds hsound name
  rw [henter] at hentered
  dsimp only
  have hloaded := fades_loadOrDraw name entered
  rcases hload : loadOrDraw name entered with ⟨fault | record, loaded⟩
  · rw [hload] at hloaded
    exact ((hentered.trans hloaded).trans (fades_leave name loaded)).upholds hsound name
  have hrecord : record.Storable := Opens.storable ⟨entered, henter, hload⟩ hsound
  have hopened : s.Fades loaded := Opens.fades ⟨entered, henter, hload⟩
  dsimp only
  have hworked := hfades record loaded
  have hafter := hwork record loaded
  rcases hrun : work record loaded with ⟨fault | ⟨a, after⟩, last⟩
  · rw [hrun] at hworked
    exact ((hopened.trans hworked).trans (fades_leave name last)).upholds hsound name
  rw [hrun] at hworked hafter
  have hlast : s.Fades last := hopened.trans hworked
  dsimp only
  rcases hsave : save name after last with ⟨fault | _, saved⟩
  · exact ((hlast.trans (fades_save hsave)).trans (fades_leave name saved)).upholds hsound name
  have hstores : last.Stores name after (leave name saved) :=
    (stores_save (hlast.single hsound.single) hsave).leave
  refine ⟨hstores.now.trans hlast.now, ?_, fun other hother => ?_⟩
  · exact hstores.sound (hafter a after hrecord rfl) (hlast.sound hsound)
  · exact (hlast.kept other).trans hlast.now (hstores.others other hother)

/-! ## Loading again -/

/-- What is kept and has not run out is read back, settled. -/
theorem load_of_kept {raw : Text} {expires : Option Rat} (hkept : s.kept? name = some (raw, expires))
    (hlives : ∀ time, expires = some time → s.now < time) (hreaches : s.Reaches "get")
    (hwrite : record.write = .ok raw) : (load name s).1 = .ok (some record.settled) := by
  have hraw : (loadRaw name s).1 = .ok (some raw) := by
    cases hstore : s.store with
    | memory store =>
      rw [kept?_memory hstore] at hkept
      obtain ⟨stored, hstored, heq⟩ := Option.map_eq_some_iff.mp hkept
      obtain ⟨rfl, rfl⟩ := Prod.mk.inj heq
      have hlive : ¬ stored.expires ≤ s.now := Rat.not_le.mpr (hlives _ rfl)
      simp only [loadRaw, hstore, MemoryStore.load, hstored, if_neg hlive]
    | remote store service =>
      rw [kept?_remote hstore] at hkept
      obtain ⟨_, hstored, heq⟩ := Option.map_eq_some_iff.mp hkept
      obtain ⟨rfl, -⟩ := Prod.mk.inj heq
      rw [Reaches, hstore] at hreaches
      have hanswers : service.refusing.contains (Call.get (store.key name)).name = false := by
        rw [← Bool.not_eq_true, List.contains_iff_mem]
        exact hreaches
      simp only [loadRaw, hstore, RemoteStore.load, Service.client, Service.answer, hanswers, hstored]
      rfl
  unfold load
  rcases hfound : loadRaw name s with ⟨outcome, mid⟩
  obtain rfl : outcome = .ok (some raw) := by rw [hfound] at hraw; exact hraw
  simp only [decode, Record.read_write hwrite]
  rfl

end VeiledGateway.Sessions
