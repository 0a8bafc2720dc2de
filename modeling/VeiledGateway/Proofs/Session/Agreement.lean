/-
  Work that cannot tell sessions apart.

  Work on a name agrees if in all sessions that look the same under the name it has the same outcome
  and leaves sessions that look the same there again.  All operations agree on their name, and so
  does work on the record under it.
-/
import VeiledGateway.Proofs.Session.Sight

set_option autoImplicit false

namespace VeiledGateway.Sessions

variable {ε α : Type} {s s' t t' u : Sessions} {name : Text}

/-- In sessions that look the same under a name, work comes to the same. -/
def Agrees (name : Text) (work : Keeping ε α) : Prop :=
  ∀ s t : Sessions, Same name s t → (work s).1 = (work t).1 ∧ Same name (work s).2 (work t).2

theorem Same.refl (name : Text) (s : Sessions) : Same name s s :=
  ⟨Alike.refl name s, rfl⟩

theorem Same.symm (h : Same name s t) : Same name t s :=
  ⟨h.toAlike.symm, h.secrets.symm⟩

theorem Same.trans (h : Same name s t) (h' : Same name t u) : Same name s u :=
  ⟨h.toAlike.trans h'.toAlike, h.secrets.trans h'.secrets⟩

/-- What changes nothing that is seen of two sessions leaves them the same. -/
theorem Same.both (h : Same name s t) (hs : Same name s' s) (ht : Same name t' t) :
    Same name s' t' :=
  (hs.trans h).trans ht.symm

/-! ## Loading -/

theorem same_loadRaw (name : Text) (s : Sessions) : Same name (loadRaw name s).2 s :=
  ⟨(fades_loadRaw name s).alike (manner_loadRaw name s) name, secrets_loadRaw name s⟩

theorem agrees_loadRaw (name : Text) : Agrees name (loadRaw name) := by
  intro s t h
  refine ⟨?_, h.both (same_loadRaw name s) (same_loadRaw name t)⟩
  by_cases hreaches : s.Reaches "get"
  · rw [loadRaw_of_reaches hreaches, loadRaw_of_reaches ((h.reaches_iff "get").mp hreaches), h.live]
  · rw [loadRaw_of_not_reaches hreaches,
      loadRaw_of_not_reaches fun ht => hreaches ((h.reaches_iff "get").mpr ht)]

theorem agrees_decode (name raw : Text) : Agrees name fun s => s.decode raw := by
  intro s t h
  have hread := h.secrets
  obtain ⟨hstore, hnow⟩ := decode_store s raw
  obtain ⟨hstore', hnow'⟩ := decode_store t raw
  have hs := (fades_of_eq hnow hstore).alike (manner_of_store_eq hstore) name
  have ht := (fades_of_eq hnow' hstore').alike (manner_of_store_eq hstore') name
  have halike : Alike name (s.decode raw).2 (t.decode raw).2 := (hs.trans h.toAlike).trans ht.symm
  dsimp only
  refine ⟨?_, halike, ?_⟩
  · unfold decode
    rw [hread]
    rcases Record.read raw t.secrets with ⟨issues | record, secrets⟩ <;> rfl
  · unfold decode
    rw [hread]
    rcases Record.read raw t.secrets with ⟨issues | record, secrets⟩ <;> rfl

theorem agrees_load (name : Text) : Agrees name (load name) := by
  intro s t h
  obtain ⟨houtcome, hsame⟩ := agrees_loadRaw name s t h
  unfold load
  rcases hs : loadRaw name s with ⟨outcome, mid⟩
  rcases ht : loadRaw name t with ⟨outcome', mid'⟩
  rw [hs, ht] at houtcome hsame
  obtain rfl : outcome = outcome' := houtcome
  rcases outcome with fault | _ | raw
  · exact ⟨rfl, hsame⟩
  · exact ⟨rfl, hsame⟩
  · obtain ⟨hdecoded, hafter⟩ := agrees_decode name raw mid mid' hsame
    exact ⟨congrArg (Except.map some) hdecoded, hafter⟩

theorem agrees_loadOrDraw (name : Text) : Agrees name (loadOrDraw name) := by
  intro s t h
  obtain ⟨houtcome, hsame⟩ := agrees_load name s t h
  unfold loadOrDraw
  rcases hs : load name s with ⟨outcome, mid⟩
  rcases ht : load name t with ⟨outcome', mid'⟩
  rw [hs, ht] at houtcome hsame
  obtain rfl : outcome = outcome' := houtcome
  rcases outcome with fault | _ | record
  · exact ⟨rfl, hsame⟩
  · have hsecrets : mid.secrets = mid'.secrets := hsame.secrets
    dsimp only
    rw [hsecrets]
    exact ⟨rfl, ⟨hsame.now, hsame.manner, hsame.live⟩, rfl⟩
  · exact ⟨rfl, hsame⟩

/-! ## Storing and deleting -/

theorem agrees_save (name : Text) (record : Record) : Agrees name (save name record) := by
  intro s t h
  have hmanner : (save name record s).2.manner = (save name record t).2.manner := by
    rw [manner_save, manner_save, h.manner]
  have hnow : (save name record s).2.now = (save name record t).2.now := by
    rw [now_save, now_save, h.now]
  have hsecrets : (save name record s).2.secrets = (save name record t).2.secrets := by
    rw [secrets_save, secrets_save, h.secrets]
  rcases hwrite : record.write with fault | raw
  · simp only [save, hwrite]
    exact ⟨trivial, h⟩
  by_cases hreaches : s.Reaches "set"
  · have hreaches' := (h.reaches_iff "set").mp hreaches
    refine ⟨?_, ⟨hnow, hmanner, ?_⟩, hsecrets⟩
    · rw [(save_of_write hwrite hreaches).1, (save_of_write hwrite hreaches').1]
    · rw [live?_save hwrite hreaches, live?_save hwrite hreaches', h.expiry, h.now]
  · rw [save_of_not_reaches hwrite hreaches,
      save_of_not_reaches hwrite fun ht => hreaches ((h.reaches_iff "set").mpr ht)]
    exact ⟨rfl, h⟩

theorem agrees_delete (name : Text) : Agrees name (delete name) := by
  intro s t h
  have hmanner : (delete name s).2.manner = (delete name t).2.manner := by
    rw [manner_delete, manner_delete, h.manner]
  have hnow : (delete name s).2.now = (delete name t).2.now := by
    rw [(loses_delete name s).now, (loses_delete name t).now, h.now]
  have hsecrets : (delete name s).2.secrets = (delete name t).2.secrets := by
    rw [secrets_delete, secrets_delete, h.secrets]
  by_cases hreaches : s.Reaches "delete"
  · obtain ⟨hdone, hgone⟩ := delete_of_reaches hreaches name
    obtain ⟨hdone', hgone'⟩ := delete_of_reaches ((h.reaches_iff "delete").mp hreaches) name
    refine ⟨?_, ⟨hnow, hmanner, ?_⟩, hsecrets⟩
    · rw [hdone, hdone']
    · rw [live?_of_none hgone, live?_of_none hgone']
  · rw [delete_of_not_reaches hreaches,
      delete_of_not_reaches fun ht => hreaches ((h.reaches_iff "delete").mpr ht)]
    exact ⟨rfl, h⟩

/-! ## Working under a lock -/

theorem agrees_enter (name other : Text) : Agrees name (enter other) := by
  intro s t h
  have hs : Same name (enter other s).2 s :=
    ⟨(fades_enter other s).alike (manner_enter other s) name, secrets_enter other s⟩
  have ht : Same name (enter other t).2 t :=
    ⟨(fades_enter other t).alike (manner_enter other t) name, secrets_enter other t⟩
  refine ⟨?_, h.both hs ht⟩
  rw [enter_eq_entry, enter_eq_entry, h.manner]

theorem Same.leave (h : Same name s t) (other : Text) : Same name (leave other s) (leave other t) := by
  have hs : Same name (Sessions.leave other s) s :=
    ⟨(fades_leave other s).alike (manner_leave other s) name, secrets_leave other s⟩
  have ht : Same name (Sessions.leave other t) t :=
    ⟨(fades_leave other t).alike (manner_leave other t) name, secrets_leave other t⟩
  exact h.both hs ht

/-- Work on the record under a name agrees on that name. -/
theorem agrees_withRecord {ofFault : SessionFault → ε} {work : Record → Keeping ε (α × Record)}
    (hwork : ∀ record, Agrees name (work record)) : Agrees name (withRecord name ofFault work) := by
  intro s t h
  unfold withRecord locked
  obtain ⟨hentry, hentered⟩ := agrees_enter name name s t h
  rcases hs : enter name s with ⟨outcome, entered⟩
  rcases ht : enter name t with ⟨outcome', entered'⟩
  rw [hs, ht] at hentry hentered
  obtain rfl : outcome = outcome' := hentry
  rcases outcome with fault | _
  · exact ⟨rfl, hentered⟩
  dsimp only
  obtain ⟨hfound, hloaded⟩ := agrees_loadOrDraw name entered entered' hentered
  rcases hs : loadOrDraw name entered with ⟨outcome, loaded⟩
  rcases ht : loadOrDraw name entered' with ⟨outcome', loaded'⟩
  rw [hs, ht] at hfound hloaded
  obtain rfl : outcome = outcome' := hfound
  rcases outcome with fault | record
  · exact ⟨rfl, hloaded.leave name⟩
  dsimp only
  obtain ⟨hdone, hworked⟩ := hwork record loaded loaded' hloaded
  rcases hs : work record loaded with ⟨outcome, last⟩
  rcases ht : work record loaded' with ⟨outcome', last'⟩
  rw [hs, ht] at hdone hworked
  obtain rfl : outcome = outcome' := hdone
  rcases outcome with fault | ⟨a, after⟩
  · exact ⟨rfl, hworked.leave name⟩
  dsimp only
  obtain ⟨hstored, hsaved⟩ := agrees_save name after last last' hworked
  rcases hs : save name after last with ⟨outcome, saved⟩
  rcases ht : save name after last' with ⟨outcome', saved'⟩
  rw [hs, ht] at hstored hsaved
  obtain rfl : outcome = outcome' := hstored
  rcases outcome with fault | _ <;> exact ⟨rfl, hsaved.leave name⟩

end VeiledGateway.Sessions
