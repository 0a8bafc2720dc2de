/-
  Leaving: how the parts of answering a request leave a visit behind.

  What a part does to a visit is told by a relation that goes through all its steps.  Letting a
  visitor in is idle: nothing is lost but what has run out, and the visitor keeps its name.  Serving
  the site tends the sessions: it may store a record besides, but with the challenge with which the
  record was found.
-/
import VeiledGateway.Proofs.Gateway.Handling
import VeiledGateway.Proofs.Session.Records

set_option autoImplicit false

namespace VeiledGateway

/-- At most a record was stored, with the challenge with which it was found. -/
def Sessions.Tends (s s' : Sessions) : Prop :=
  s.Fades s' ∨ ∃ name record mid after, s.Finds name record mid ∧
    after.challenge = record.challenge ∧ mid.Stores name after s'

namespace Visit

def Fades (visit final : Visit) : Prop :=
  visit.sessions.Fades final.sessions

def Idles (visit final : Visit) : Prop :=
  visit.sessions.Fades final.sessions ∧ final.session = visit.session

def Tends (visit final : Visit) : Prop :=
  visit.sessions.Single → visit.sessions.Tends final.sessions

variable {visit mid final : Visit}

theorem Fades.refl (visit : Visit) : visit.Fades visit :=
  Sessions.Fades.refl _

theorem Idles.refl (visit : Visit) : visit.Idles visit :=
  ⟨Sessions.Fades.refl _, rfl⟩

theorem Fades.tends (h : visit.Fades final) : visit.Tends final :=
  fun _ => .inl h

theorem Tends.refl (visit : Visit) : visit.Tends visit :=
  (Fades.refl visit).tends

theorem Fades.then_tends (h : visit.Fades mid) (h' : mid.Tends final) : visit.Tends final := by
  intro hsingle
  rcases h' (h.single hsingle) with hfades | ⟨name, record, found, after, hfinds, hsame, hstores⟩
  · exact .inl (Sessions.Fades.trans h hfades)
  · exact .inr ⟨name, record, found, after, Sessions.Fades.finds h hfinds, hsame, hstores⟩

end Visit

namespace Handling

variable {α β : Type}

/-- Whatever comes of a part, the visit is left behind in this relation. -/
def Leaves (R : Visit → Visit → Prop) (act : Handling α) : Prop :=
  ∀ visit, R visit (act.run.run visit).2

section Leaves

variable {R R' : Visit → Visit → Prop} {act : Handling α} {next : α → Handling β}

/-- Two parts one after the other, of which the second may do more. -/
theorem Leaves.bind (hact : Leaves R act) (hnext : ∀ a, Leaves R' (next a))
    (hweak : ∀ {visit final}, R visit final → R' visit final)
    (htrans : ∀ {visit mid final}, R visit mid → R' mid final → R' visit final) :
    Leaves R' (act >>= next) := by
  intro visit
  have hfirst := hact visit
  rcases hrun : act.run.run visit with ⟨trouble | a, mid⟩
  · rw [hrun] at hfirst
    rw [run_bind_of_error hrun]
    exact hweak hfirst
  · rw [hrun] at hfirst
    rw [run_bind_of_ok hrun]
    exact htrans hfirst (hnext a mid)

/-- A part that leaves the visit as it is. -/
theorem leaves_of_same (hrefl : ∀ visit, R visit visit)
    (h : ∀ visit, (act.run.run visit).2 = visit) : Leaves R act := by
  intro visit
  rw [h visit]
  exact hrefl visit

/-- What comes before and leaves the visit as it is does not count. -/
theorem Leaves.bind_same (hrefl : ∀ visit, R visit visit)
    (hact : ∀ visit, (act.run.run visit).2 = visit) (hnext : ∀ a, Leaves R (next a)) :
    Leaves R (act >>= next) := by
  have heq : Leaves Eq act := fun visit => (hact visit).symm
  refine heq.bind hnext ?_ ?_
  · rintro visit _ rfl
    exact hrefl visit
  · rintro visit _ final rfl h
    exact h

theorem Leaves.orTrouble_bind {ε : Type} {ofFault : ε → Trouble} {outcome : Except ε α}
    (hrefl : ∀ visit, R visit visit) (hnext : ∀ a, Leaves R (next a)) :
    Leaves R (orTrouble ofFault outcome >>= next) :=
  Leaves.bind_same hrefl (fun visit => by rw [run_orTrouble]) hnext

/-- What comes afterwards and leaves the visit as it is does not count. -/
theorem visit_bind_of_same (hnext : ∀ a visit, ((next a).run.run visit).2 = visit) (visit : Visit) :
    ((act >>= next).run.run visit).2 = (act.run.run visit).2 := by
  rcases hrun : act.run.run visit with ⟨trouble | a, mid⟩
  · rw [run_bind_of_error hrun]
  · rw [run_bind_of_ok hrun, hnext]

theorem Leaves.then_same (hact : Leaves R act)
    (hnext : ∀ a visit, ((next a).run.run visit).2 = visit) : Leaves R (act >>= next) := by
  intro visit
  rw [visit_bind_of_same hnext]
  exact hact visit

/-- Asking for the record of the session leaves the visit as the load does. -/
theorem leaves_record? (hrefl : ∀ visit, R visit visit)
    (hload : ∀ visit name, visit.session = some name →
      R visit { visit with sessions := (Sessions.load name visit.sessions).2 }) :
    Leaves R record? := by
  intro visit
  unfold record?
  rw [run_bind_of_ok (rfl : (get : Handling Visit).run.run visit = (.ok visit, visit))]
  cases hsession : visit.session with
  | none => exact hrefl visit
  | some name =>
    have hleft := hload visit name hsession
    rwa [run_keep]

end Leaves

/-! ## Idle parts -/

/-- Asking for the record of the session is idle. -/
theorem idles_record? : Leaves Visit.Idles record? :=
  leaves_record? Visit.Idles.refl fun visit name _ => ⟨Sessions.fades_load name visit.sessions, rfl⟩

/-- A visitor without a name is given one, and then holds it; nothing is lost but a secret. -/
theorem sessionName_run (hasSecret : Bool) (visit : Visit) :
    visit.Fades ((sessionName hasSecret).run.run visit).2 ∧
      ∀ name, ((sessionName hasSecret).run.run visit).1 = .ok name →
        ((sessionName hasSecret).run.run visit).2.session = some name := by
  unfold sessionName
  rw [run_bind_of_ok (rfl : (get : Handling Visit).run.run visit = (.ok visit, visit))]
  cases hsession : visit.session with
  | some held =>
    refine ⟨Visit.Fades.refl visit, fun name h => ?_⟩
    obtain rfl := Except.ok.inj h
    exact hsession
  | none =>
    cases hasSecret with
    | false => exact ⟨Sessions.fades_of_eq rfl rfl, fun name h => nomatch h⟩
    | true =>
      refine ⟨Sessions.fades_of_eq rfl rfl, fun name h => ?_⟩
      obtain rfl := Except.ok.inj h
      rfl

theorem fades_sessionName (hasSecret : Bool) : Leaves Visit.Fades (sessionName hasSecret) :=
  fun visit => (sessionName_run hasSecret visit).1

/-! ## Parts that tend the sessions -/

theorem run_tryCatch_of_ok {act : Handling α} {handler : Trouble → Handling α} {a : α}
    {visit final : Visit} (h : act.run.run visit = (.ok a, final)) :
    (tryCatch act handler).run.run visit = (.ok a, final) := by
  have hact : act visit = (.ok a, final) := h
  simp only [tryCatch, tryCatchThe, MonadExceptOf.tryCatch, ExceptT.tryCatch, ExceptT.mk, bind,
    ExceptT.run, StateT.run, StateT.bind]
  rw [hact]
  rfl

theorem run_tryCatch_of_error {act : Handling α} {handler : Trouble → Handling α}
    {trouble : Trouble} {visit mid : Visit} (h : act.run.run visit = (.error trouble, mid)) :
    (tryCatch act handler).run.run visit = (handler trouble).run.run mid := by
  have hact : act visit = (.error trouble, mid) := h
  simp only [tryCatch, tryCatchThe, MonadExceptOf.tryCatch, ExceptT.tryCatch, ExceptT.mk, bind,
    ExceptT.run, StateT.run, StateT.bind]
  rw [hact]

/-- What handles a trouble and leaves the visit as it is does not count. -/
theorem visit_tryCatch_of_same {act : Handling α} {handler : Trouble → Handling α}
    (hhandler : ∀ trouble visit, ((handler trouble).run.run visit).2 = visit) (visit : Visit) :
    ((tryCatch act handler).run.run visit).2 = (act.run.run visit).2 := by
  rcases hrun : act.run.run visit with ⟨trouble | a, mid⟩
  · rw [run_tryCatch_of_error hrun, hhandler]
  · rw [run_tryCatch_of_ok hrun]

/-- Work on the record of a session fails, and then nothing is lost but what has run out, or a
record was found, something has come of it, and that is stored. -/
theorem run_withRecord_cases {name : Text} {work : Record → Keeping Trouble (α × Record)}
    {visit : Visit} (hsingle : visit.sessions.Single)
    (hwork : ∀ (record : Record) (s : Sessions), s.Fades (work record s).2) :
    (∃ trouble last, (withRecord name work).run.run visit =
        (.error trouble, { visit with sessions := last }) ∧ visit.sessions.Fades last) ∨
      ∃ a record found after worked last, (withRecord name work).run.run visit =
        (.ok a, { visit with sessions := last }) ∧ visit.sessions.Finds name record found ∧
        work record found = (.ok (a, after), worked) ∧ worked.Stores name after last := by
  rcases hrun : Sessions.withRecord name .session work visit.sessions with ⟨outcome, last⟩
  rw [withRecord, run_keep, hrun]
  rcases Sessions.withRecord_cases hsingle hwork hrun with
    ⟨trouble, rfl, hfades⟩ | ⟨a, record, found, after, worked, rfl, hfinds, hworked, hstores⟩
  · exact .inl ⟨trouble, last, rfl, hfades⟩
  · exact .inr ⟨a, record, found, after, worked, last, rfl, hfinds, hworked, hstores⟩

end Handling

namespace Gateway

open Handling

variable {gateway : Gateway}

section Leaves

variable {R R' : Visit → Visit → Prop}

/-- Letting a visitor in leaves the visit as asking for the record does. -/
theorem leaves_admits (hrefl : ∀ visit, R visit visit) (hrecord : Leaves R record?)
    (gateway : Gateway) (request : Request) : Leaves R (gateway.admits request) := by
  unfold admits
  cases Admission.isOpen request.path with
  | true => exact leaves_of_same hrefl fun _ => rfl
  | false =>
    refine Leaves.orTrouble_bind hrefl fun allowed => ?_
    cases allowed with
    | true => exact leaves_of_same hrefl fun _ => rfl
    | false => exact hrecord.then_same fun _ _ => rfl

/-- A document leaves the visit as the rewriting does for the session whose name was found. -/
theorem leaves_document (hname : Leaves R (sessionName gateway.hasSecret))
    (hweak : ∀ {visit final}, R visit final → R' visit final)
    (base mediaType source : Text)
    (hwork : ∀ visit name named, (sessionName gateway.hasSecret).run.run visit = (.ok name, named) →
      R visit named → R' visit ((withRecord name (rewriteFor
        ⟨gateway.settings, some gateway.assets, base⟩ mediaType source named.twister)).run.run named).2) :
    Leaves R' (gateway.document base mediaType source) := by
  intro visit
  have hnamed := hname visit
  rw [document]
  rcases hrun : (sessionName gateway.hasSecret).run.run visit with ⟨trouble | name, named⟩
  · rw [hrun] at hnamed
    rw [run_bind_of_error hrun]
    exact hweak hnamed
  · rw [hrun] at hnamed
    rw [run_bind_of_ok hrun]
    dsimp only
    rw [run_bind_of_ok (rfl : (get : Handling Visit).run.run named = (.ok named, named)),
      visit_tryCatch_of_same, visit_bind_of_same fun _ _ => rfl]
    · exact hwork visit name named hrun hnamed
    · intro trouble visit
      split <;> rfl

/-- A path of the site leaves the visit as the document does that lies there. -/
theorem leaves_serve (hrefl : ∀ visit, R visit visit)
    (hdocument : ∀ base mediaType source, Leaves R (gateway.document base mediaType source))
    (path : Text) : Leaves R (gateway.serve path) := by
  unfold serve
  refine Leaves.orTrouble_bind hrefl fun place => ?_
  cases place with
  | none => exact leaves_of_same hrefl fun _ => rfl
  | some place =>
    refine Leaves.orTrouble_bind hrefl fun bytes => ?_
    dsimp only
    split
    · exact hdocument _ _ _
    · exact leaves_of_same hrefl fun _ => rfl

/-- So does a path that was given out for a link, after the record has been asked for. -/
theorem leaves_serveLink (hrefl : ∀ visit, R' visit visit) (hrecord : Leaves R record?)
    (hserve : ∀ path, Leaves R' (gateway.serve path))
    (hweak : ∀ {visit final}, R visit final → R' visit final)
    (htrans : ∀ {visit mid final}, R visit mid → R' mid final → R' visit final) (path : Text) :
    Leaves R' (gateway.serveLink path) := by
  unfold serveLink
  refine hrecord.bind (fun record => ?_) hweak htrans
  cases record with
  | none => exact leaves_of_same hrefl fun _ => rfl
  | some record =>
    refine Leaves.bind_same hrefl (fun _ => rfl) fun found => ?_
    split
    · exact hserve _
    · exact leaves_of_same hrefl fun _ => rfl

end Leaves

/-- Letting a visitor in is idle. -/
theorem idles_admits (gateway : Gateway) (request : Request) :
    Leaves Visit.Idles (gateway.admits request) :=
  leaves_admits Visit.Idles.refl idles_record? gateway request

/-- Rewriting a document changes no session, and it leaves the challenge of the record as it was. -/
theorem rewriteFor_cases (view : View) (mediaType source : Text) (twister : Twister)
    (record : Record) (s : Sessions) :
    (∃ trouble, rewriteFor view mediaType source twister record s = (.error trouble, s)) ∨
      ∃ t mappings, rewriteFor view mediaType source twister record s =
        (.ok (t, { record with mappings := mappings }), s) := by
  unfold rewriteFor
  split
  · exact .inr ⟨_, _, rfl⟩
  · exact .inl ⟨_, rfl⟩

theorem fades_rewriteFor (view : View) (mediaType source : Text) (twister : Twister)
    (record : Record) (s : Sessions) :
    s.Fades (rewriteFor view mediaType source twister record s).2 := by
  rcases rewriteFor_cases view mediaType source twister record s with
    ⟨trouble, hrun⟩ | ⟨t, mappings, hrun⟩
  · rw [hrun]
    exact Sessions.Fades.refl s
  · rw [hrun]
    exact Sessions.Fades.refl s

/-- Rewriting for the record of a session tends the sessions. -/
theorem tends_withRecord_rewriteFor (name : Text) (view : View) (mediaType source : Text)
    (twister : Twister) :
    Leaves Visit.Tends (withRecord name (rewriteFor view mediaType source twister)) := by
  intro visit hsingle
  rcases run_withRecord_cases hsingle (fades_rewriteFor view mediaType source twister) with
    ⟨trouble, last, hrun, hlast⟩ |
      ⟨t, record, found, after, worked, last, hrun, hfinds, hworked, hstores⟩
  · rw [hrun]
    exact .inl hlast
  · rw [hrun]
    rcases rewriteFor_cases view mediaType source twister record found with
      ⟨trouble, hfailed⟩ | ⟨t, mappings, hdone⟩
    · rw [hfailed] at hworked
      cases (Prod.mk.inj hworked).1
    · rw [hdone] at hworked
      obtain ⟨hafter, rfl⟩ := Prod.mk.inj hworked
      obtain rfl := (Prod.mk.inj (Except.ok.inj hafter)).2
      exact .inr ⟨name, record, found, { record with mappings := mappings }, hfinds, rfl, hstores⟩

theorem tends_document (base mediaType source : Text) :
    Leaves Visit.Tends (gateway.document base mediaType source) :=
  leaves_document (fades_sessionName _) Visit.Fades.tends base mediaType source
    fun _ name named _ hfades =>
      Visit.Fades.then_tends hfades (tends_withRecord_rewriteFor name _ mediaType source _ named)

theorem tends_serve (path : Text) : Leaves Visit.Tends (gateway.serve path) :=
  leaves_serve Visit.Tends.refl tends_document path

theorem tends_serveLink (path : Text) : Leaves Visit.Tends (gateway.serveLink path) :=
  leaves_serveLink Visit.Tends.refl idles_record? tends_serve (fun h => Visit.Fades.tends h.1)
    (fun h => Visit.Fades.then_tends h.1) path

end Gateway

end VeiledGateway
