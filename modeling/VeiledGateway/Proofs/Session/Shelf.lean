/-
  Shelves: what a store of records is to those who save, load and delete there.

  Every shelf that lets go of a record when its time has run out, and not before, gives back what was
  saved last under a name and not deleted since.  What it does meanwhile to be rid of what has run
  out is not seen.  What is given back is the record as it is read after it has been written.
-/
import Mathlib.Algebra.Order.Ring.Unbundled.Rat
import VeiledGateway.Proofs.Session.Codec
import VeiledGateway.Session.Store

set_option autoImplicit false

namespace VeiledGateway

/-- What a store of records can be asked for in its states, and how time goes on for it. -/
structure Shelf (σ : Type) where
  load : Text → σ → Except SessionFault (Option Record) × σ
  save : Text → Record → σ → Except SessionFault Unit × σ
  delete : Text → σ → Except SessionFault Unit × σ
  wait : Rat → σ → σ

namespace Shelf

variable {σ : Type}

/-- What happens to a shelf. -/
inductive Act where
  | save (name : Text) (record : Record)
  | load (name : Text)
  | delete (name : Text)
  | wait (seconds : Rat)

/-- Where time goes on at all, it goes on. -/
def Act.Forward : Act → Prop
  | .wait seconds => 0 ≤ seconds
  | _ => True

def after (shelf : Shelf σ) (s : σ) : Act → σ
  | .save name record => (shelf.save name record s).2
  | .load name => (shelf.load name s).2
  | .delete name => (shelf.delete name s).2
  | .wait seconds => shelf.wait seconds s

/-- The shelf after all of some acts. -/
def run (shelf : Shelf σ) (s : σ) (acts : List Act) : σ :=
  acts.foldl shelf.after s

/-- What keeps the records cannot be reached. -/
def Refused {α : Type} (outcome : Except SessionFault α) : Prop :=
  ∃ reason, outcome = .error (.store (.unavailable reason))

def Refuses (shelf : Shelf σ) (s : σ) : Act → Prop
  | .save name record => Refused (shelf.save name record s).1
  | .load name => Refused (shelf.load name s).1
  | .delete name => Refused (shelf.delete name s).1
  | .wait _ => False

/-- None of some acts is refused. -/
def Answers (shelf : Shelf σ) : σ → List Act → Prop
  | _, [] => True
  | s, act :: rest => ¬ shelf.Refuses s act ∧ shelf.Answers (shelf.after s act) rest

/-! ## What should be found -/

/-- The time, and what was saved last under a name and has not been deleted since, with the time from
which it is forgotten. -/
structure Memory where
  now : Rat
  last : Option (Record × Rat)

namespace Memory

/-- What is not forgotten yet. -/
def live (memory : Memory) : Option (Record × Rat) :=
  memory.last.filter fun saved => memory.now < saved.2

/-- What is to be remembered of a name after an act; a record that cannot be written is not saved. -/
def after (lifetime : Rat) (name : Text) (memory : Memory) : Act → Memory
  | .save other record =>
    if other = name then
      match record.write with
      | .ok _ => { memory with last := some (record, memory.now + lifetime) }
      | .error _ => memory
    else memory
  | .load _ => memory
  | .delete other => if other = name then { memory with last := none } else memory
  | .wait seconds => { memory with now := memory.now + seconds }

end Memory

/-- The record that should be found under a name after some acts, if one should. -/
def remembered (lifetime : Rat) (name : Text) (start : Rat) (acts : List Act) : Option Record :=
  (acts.foldl (Memory.after lifetime name) ⟨start, none⟩).live.map Prod.fst

/-! ## Shelves that let go in time -/

/-- Of an act that is not refused: what is shown under each name, and until when, changes as it should.
The states that are `valid` are those in which the shelf can be. -/
structure LetsGo (shelf : Shelf σ) (lifetime : Rat) (valid : σ → Prop) (now : σ → Rat)
    (shown : σ → Text → Option (Text × Rat)) : Prop where
  load (name : Text) (s : σ) : valid s → ¬ Refused (shelf.load name s).1 →
    valid (shelf.load name s).2 ∧ now (shelf.load name s).2 = now s ∧
      shown (shelf.load name s).2 = shown s
  missing (name : Text) (s : σ) : valid s → ¬ Refused (shelf.load name s).1 → shown s name = none →
    (shelf.load name s).1 = .ok none
  found (name : Text) (s : σ) (record : Record) (raw : Text) (time : Rat) : valid s →
    ¬ Refused (shelf.load name s).1 → shown s name = some (raw, time) → record.write = .ok raw →
    (shelf.load name s).1 = .ok (some record.settled)
  save (name : Text) (record : Record) (raw : Text) (s : σ) : valid s → record.write = .ok raw →
    ¬ Refused (shelf.save name record s).1 →
    valid (shelf.save name record s).2 ∧ now (shelf.save name record s).2 = now s ∧
      shown (shelf.save name record s).2 =
        Function.update (shown s) name (some (raw, now s + lifetime))
  unwritable (name : Text) (record : Record) (fault : Utf8.EncodeFault) (s : σ) :
    record.write = .error fault → (shelf.save name record s).2 = s
  delete (name : Text) (s : σ) : valid s → ¬ Refused (shelf.delete name s).1 →
    valid (shelf.delete name s).2 ∧ now (shelf.delete name s).2 = now s ∧
      shown (shelf.delete name s).2 = Function.update (shown s) name none
  wait (seconds : Rat) (s : σ) : valid s → 0 ≤ seconds →
    valid (shelf.wait seconds s) ∧ now (shelf.wait seconds s) = now s + seconds ∧
      shown (shelf.wait seconds s) =
        fun name => (shown s name).filter fun kept => now s + seconds < kept.2

section LetsGo

variable {shelf : Shelf σ} {lifetime : Rat} {valid : σ → Prop} {now : σ → Rat}
  {shown : σ → Text → Option (Text × Rat)} {name : Text} {s : σ} {memory : Memory}

theorem LetsGo.valid_after (hshelf : shelf.LetsGo lifetime valid now shown) (hvalid : valid s) {act : Act}
    (hforward : act.Forward) (hanswers : ¬ shelf.Refuses s act) : valid (shelf.after s act) := by
  cases act with
  | save name record =>
    cases hwrite : record.write with
    | error fault =>
      rw [after, hshelf.unwritable name record fault s hwrite]
      exact hvalid
    | ok raw => exact (hshelf.save name record raw s hvalid hwrite hanswers).1
  | load name => exact (hshelf.load name s hvalid hanswers).1
  | delete name => exact (hshelf.delete name s hvalid hanswers).1
  | wait seconds => exact (hshelf.wait seconds s hvalid hforward).1

/-- A shelf that never refuses anything answers all that it is asked. -/
theorem LetsGo.answers (hshelf : shelf.LetsGo lifetime valid now shown)
    (hnever : ∀ s act, valid s → ¬ shelf.Refuses s act) (hvalid : valid s) {acts : List Act}
    (hforward : ∀ act ∈ acts, act.Forward) : shelf.Answers s acts := by
  induction acts generalizing s with
  | nil => trivial
  | cons act rest ih =>
    obtain ⟨hfirst, hrest⟩ := List.forall_mem_cons.mp hforward
    exact ⟨hnever s act hvalid, ih (hshelf.valid_after hvalid hfirst (hnever s act hvalid)) hrest⟩

theorem LetsGo.valid_run (hshelf : shelf.LetsGo lifetime valid now shown) (hvalid : valid s)
    {acts : List Act} (hforward : ∀ act ∈ acts, act.Forward) (hanswers : shelf.Answers s acts) :
    valid (shelf.run s acts) := by
  induction acts generalizing s with
  | nil => exact hvalid
  | cons act rest ih =>
    obtain ⟨hfirst, hrest⟩ := List.forall_mem_cons.mp hforward
    exact ih (hshelf.valid_after hvalid hfirst hanswers.1) hrest hanswers.2

/-- What is shown under a name is what is remembered, written. -/
def Matches (memory : Memory) (shown : Option (Text × Rat)) : Prop :=
  match memory.live with
  | none => shown = none
  | some (record, time) => ∃ raw, record.write = .ok raw ∧ shown = some (raw, time)

/-- A shelf is in a state where a name shows what is remembered of it. -/
structure Follows (valid : σ → Prop) (now : σ → Rat) (shown : σ → Text → Option (Text × Rat))
    (name : Text) (s : σ) (memory : Memory) : Prop where
  valid : valid s
  now : now s = memory.now
  shown : Matches memory (shown s name)

/-- As time goes on, what is remembered is forgotten in time. -/
theorem Matches.wait {kept : Option (Text × Rat)} (h : Matches memory kept) {seconds : Rat}
    (hforward : 0 ≤ seconds) :
    Matches { memory with now := memory.now + seconds }
      (kept.filter fun kept => memory.now + seconds < kept.2) := by
  obtain ⟨now, last⟩ := memory
  have hlive : ({ now := now + seconds, last } : Memory).live =
      (Memory.live ⟨now, last⟩).filter fun saved => now + seconds < saved.2 := by
    rw [Memory.live, Memory.live, Option.filter_filter]
    refine congrArg (fun keep => Option.filter keep last) (funext fun saved => ?_)
    simp only [Bool.eq_and_self, decide_eq_true_eq]
    exact fun hlater => lt_of_le_of_lt (le_add_of_nonneg_right hforward) hlater
  unfold Matches at h ⊢
  rw [hlive]
  cases hbefore : Memory.live ⟨now, last⟩ with
  | none =>
    rw [hbefore] at h
    rw [h]
    rfl
  | some saved =>
    obtain ⟨record, time⟩ := saved
    rw [hbefore] at h
    obtain ⟨raw, hwrite, rfl⟩ := h
    by_cases hlater : now + seconds < time
    · simp only [Option.filter_some, decide_eq_true hlater, if_true]
      exact ⟨raw, hwrite, rfl⟩
    · simp only [Option.filter_some, decide_eq_false hlater, Bool.false_eq_true, if_false]

/-- A shelf goes on showing what is remembered. -/
theorem Follows.after (h : Follows valid now shown name s memory)
    (hshelf : shelf.LetsGo lifetime valid now shown) (hlifetime : 0 < lifetime) {act : Act}
    (hforward : act.Forward) (hanswers : ¬ shelf.Refuses s act) :
    Follows valid now shown name (shelf.after s act) (memory.after lifetime name act) := by
  obtain ⟨hvalid, hnow, hshown⟩ := h
  cases act with
  | save other record =>
    cases hwrite : record.write with
    | error fault =>
      have hmemory : memory.after lifetime name (.save other record) = memory := by
        simp only [Memory.after, hwrite, ite_self]
      rw [hmemory, Shelf.after, hshelf.unwritable other record fault s hwrite]
      exact ⟨hvalid, hnow, hshown⟩
    | ok raw =>
      obtain ⟨hvalid', hnow', hshown'⟩ := hshelf.save other record raw s hvalid hwrite hanswers
      by_cases hother : other = name
      · subst hother
        have hmemory : memory.after lifetime other (.save other record) =
            { memory with last := some (record, memory.now + lifetime) } := by
          simp only [Memory.after, hwrite, if_true]
        rw [hmemory]
        refine ⟨hvalid', hnow'.trans hnow, ?_⟩
        have hlive : memory.now < memory.now + lifetime := lt_add_of_pos_right _ hlifetime
        simp only [Matches, Memory.live, Option.filter_some, decide_eq_true hlive, if_true]
        exact ⟨raw, hwrite, by rw [Shelf.after, hshown', Function.update_self, hnow]⟩
      · have hmemory : memory.after lifetime name (.save other record) = memory := if_neg hother
        rw [hmemory]
        refine ⟨hvalid', hnow'.trans hnow, ?_⟩
        rw [Shelf.after, hshown', Function.update_of_ne (Ne.symm hother)]
        exact hshown
  | load other =>
    obtain ⟨hvalid', hnow', hshown'⟩ := hshelf.load other s hvalid hanswers
    exact ⟨hvalid', hnow'.trans hnow, (congrFun hshown' name).symm ▸ hshown⟩
  | delete other =>
    obtain ⟨hvalid', hnow', hshown'⟩ := hshelf.delete other s hvalid hanswers
    by_cases hother : other = name
    · subst hother
      have hmemory : memory.after lifetime other (.delete other) = { memory with last := none } :=
        if_pos rfl
      rw [hmemory]
      refine ⟨hvalid', hnow'.trans hnow, ?_⟩
      rw [Shelf.after, hshown', Function.update_self]
      rfl
    · have hmemory : memory.after lifetime name (.delete other) = memory := if_neg hother
      rw [hmemory]
      refine ⟨hvalid', hnow'.trans hnow, ?_⟩
      rw [Shelf.after, hshown', Function.update_of_ne (Ne.symm hother)]
      exact hshown
  | wait seconds =>
    obtain ⟨hvalid', hnow', hshown'⟩ := hshelf.wait seconds s hvalid hforward
    refine ⟨hvalid', by rw [Shelf.after, hnow', hnow]; rfl, ?_⟩
    rw [Shelf.after, hshown', hnow]
    exact hshown.wait hforward

theorem Follows.run (h : Follows valid now shown name s memory)
    (hshelf : shelf.LetsGo lifetime valid now shown) (hlifetime : 0 < lifetime) {acts : List Act}
    (hforward : ∀ act ∈ acts, act.Forward) (hanswers : shelf.Answers s acts) :
    Follows valid now shown name (shelf.run s acts) (acts.foldl (Memory.after lifetime name) memory) := by
  induction acts generalizing s memory with
  | nil => exact h
  | cons act rest ih =>
    obtain ⟨hfirst, hrest⟩ := List.forall_mem_cons.mp hforward
    exact ih (h.after hshelf hlifetime hfirst hanswers.1) hrest hanswers.2

/-- What is loaded is what should be found, settled, unless the load is refused. -/
theorem LetsGo.recalls (hshelf : shelf.LetsGo lifetime valid now shown) (hlifetime : 0 < lifetime)
    (hvalid : valid s) (hempty : ∀ name, shown s name = none) {acts : List Act}
    (hforward : ∀ act ∈ acts, act.Forward) (hanswers : shelf.Answers s acts) (name : Text)
    (hload : ¬ Refused (shelf.load name (shelf.run s acts)).1) :
    (shelf.load name (shelf.run s acts)).1 =
      .ok ((remembered lifetime name (now s) acts).map Record.settled) := by
  have hstart : Follows valid now shown name s ⟨now s, none⟩ := ⟨hvalid, rfl, hempty name⟩
  obtain ⟨hvalid', -, hshown⟩ := hstart.run hshelf hlifetime hforward hanswers
  rw [remembered]
  unfold Matches at hshown
  rcases hlive : (acts.foldl (Memory.after lifetime name) ⟨now s, none⟩).live with _ | ⟨record, time⟩
  · rw [hlive] at hshown
    exact hshelf.missing name _ hvalid' hload hshown
  · rw [hlive] at hshown
    obtain ⟨raw, hwrite, hraw⟩ := hshown
    exact hshelf.found name _ record raw time hvalid' hload hraw hwrite

end LetsGo

end Shelf

end VeiledGateway
