/-
  Requests that cannot tell sessions apart.

  A part of answering a request agrees on a name if of visits that are for that session and look the
  same there it makes the same.  All parts agree on every name, and so does a whole request.
-/
import VeiledGateway.Proofs.Gateway.Apart
import VeiledGateway.Proofs.Session.Agreement

set_option autoImplicit false

namespace VeiledGateway

/-! ## Visits -/

namespace Visit

/-- Two visits look the same, as far as the session of a name goes. -/
structure Same (name : Text) (visit other : Visit) : Prop where
  session : visit.session = other.session
  twister : visit.twister = other.twister
  sessions : Sessions.Same name visit.sessions other.sessions

/-- A visit that was for the session of a name is still for it. -/
def Remains (name : Text) (visit final : Visit) : Prop :=
  visit.IsFor name → final.IsFor name

variable {name : Text} {visit other : Visit}

/-- A visit is for one session. -/
theorem IsFor.unique {name' : Text} (h : visit.IsFor name) (h' : visit.IsFor name') : name = name' := by
  rw [IsFor] at h h'
  cases hsession : visit.session with
  | some shown =>
    rw [hsession] at h h'
    exact h.symm.trans h'
  | none =>
    rw [hsession] at h h'
    exact h.symm.trans h'

theorem Same.isFor (h : Same name visit other) (hfor : visit.IsFor name) : other.IsFor name := by
  rw [IsFor] at hfor ⊢
  rw [← h.session, ← h.sessions.secrets]
  exact hfor

end Visit

/-! ## Parts of requests -/

namespace Handling

variable {α β : Type} {name : Text}

/-- What came of a part is the same, and so is the visit that it left. -/
def Meets (name : Text) (p q : Except Trouble α × Visit) : Prop :=
  p.1 = q.1 ∧ Visit.Same name p.2 q.2

/-- Of visits that are for a session and look the same there, a part makes the same. -/
def Agrees (name : Text) (act : Handling α) : Prop :=
  ∀ visit other : Visit, visit.IsFor name → Visit.Same name visit other →
    Meets name (act.run.run visit) (act.run.run other)

variable {act : Handling α} {next : α → Handling β}

/-- Where parts have met, what goes on from there meets. -/
theorem Meets.bind {visit other : Visit} (h : Meets name (act.run.run visit) (act.run.run other))
    (hnext : ∀ a mid mid', act.run.run visit = (.ok a, mid) → Visit.Same name mid mid' →
      Meets name ((next a).run.run mid) ((next a).run.run mid')) :
    Meets name ((act >>= next).run.run visit) ((act >>= next).run.run other) := by
  obtain ⟨houtcome, hmid⟩ := h
  rcases hrun : act.run.run visit with ⟨outcome, mid⟩
  rcases hrun' : act.run.run other with ⟨outcome', mid'⟩
  rw [hrun, hrun'] at houtcome hmid
  obtain rfl : outcome = outcome' := houtcome
  rcases outcome with trouble | a
  · rw [run_bind_of_error hrun, run_bind_of_error hrun']
    exact ⟨rfl, hmid⟩
  · rw [run_bind_of_ok hrun, run_bind_of_ok hrun']
    exact hnext a mid mid' hrun hmid

theorem Agrees.bind (hact : Agrees name act) (hremains : Leaves (Visit.Remains name) act)
    (hnext : ∀ a, Agrees name (next a)) : Agrees name (act >>= next) := by
  intro visit other hfor hsame
  refine (hact visit other hfor hsame).bind fun a mid mid' hrun hmid => ?_
  have hmidFor := hremains visit hfor
  rw [hrun] at hmidFor
  exact hnext a mid mid' hmidFor hmid

/-- A part that gives the same whatever the visit is, and leaves it as it is. -/
theorem agrees_of_still {outcome : Except Trouble α}
    (h : ∀ visit, act.run.run visit = (outcome, visit)) : Agrees name act := by
  intro visit other _ hsame
  rw [h, h]
  exact ⟨rfl, hsame⟩

/-- What goes on from the visit itself agrees if it has to do with nothing of it that is not the same. -/
theorem agrees_get_bind {next : Visit → Handling β}
    (hsame : ∀ visit other, Visit.Same name visit other → next visit = next other)
    (hnext : ∀ visit : Visit, visit.IsFor name → Agrees name (next visit)) :
    Agrees name (get >>= next) := by
  intro visit other hfor h
  rw [run_bind_of_ok (rfl : (get : Handling Visit).run.run visit = (.ok visit, visit)),
    run_bind_of_ok (rfl : (get : Handling Visit).run.run other = (.ok other, other)),
    ← hsame visit other h]
  exact hnext visit hfor visit other hfor h

/-- What only makes the outcome of it does not count. -/
theorem Agrees.then_still (hact : Agrees name act)
    (hnext : ∀ a, ∃ outcome, ∀ visit, (next a).run.run visit = (outcome, visit)) :
    Agrees name (act >>= next) := by
  intro visit other hfor hsame
  refine (hact visit other hfor hsame).bind fun a mid mid' _ hmid => ?_
  obtain ⟨outcome, hstill⟩ := hnext a
  rw [hstill, hstill]
  exact ⟨rfl, hmid⟩

theorem agrees_orTrouble_bind {ε : Type} {ofFault : ε → Trouble} {outcome : Except ε α}
    (hnext : ∀ a, Agrees name (next a)) : Agrees name (orTrouble ofFault outcome >>= next) :=
  (agrees_of_still (run_orTrouble ofFault outcome)).bind
    (leaves_of_same (fun _ => id) fun visit => by rw [run_orTrouble]) hnext

theorem agrees_tryCatch {handler : Trouble → Handling α} (hact : Agrees name act)
    (hhandler : ∀ trouble (visit : Visit) (other : Visit), Visit.Same name visit other →
      Meets name ((handler trouble).run.run visit) ((handler trouble).run.run other)) :
    Agrees name (tryCatch act handler) := by
  intro visit other hfor hsame
  obtain ⟨houtcome, hmid⟩ := hact visit other hfor hsame
  rcases hrun : act.run.run visit with ⟨outcome, mid⟩
  rcases hrun' : act.run.run other with ⟨outcome', mid'⟩
  rw [hrun, hrun'] at houtcome hmid
  obtain rfl : outcome = outcome' := houtcome
  rcases outcome with trouble | a
  · rw [run_tryCatch_of_error hrun, run_tryCatch_of_error hrun']
    exact hhandler trouble mid mid' hmid
  · rw [run_tryCatch_of_ok hrun, run_tryCatch_of_ok hrun']
    exact ⟨rfl, hmid⟩

/-- Work on the sessions that agrees on a name. -/
theorem meets_keep {work : Keeping Trouble α} (hwork : Sessions.Agrees name work)
    {visit other : Visit} (hsame : Visit.Same name visit other) :
    Meets name ((keep work).run.run visit) ((keep work).run.run other) := by
  obtain ⟨houtcome, hafter⟩ := hwork visit.sessions other.sessions hsame.sessions
  rw [run_keep, run_keep]
  exact ⟨houtcome, hsame.session, hsame.twister, hafter⟩

theorem agrees_record? (name : Text) : Agrees name record? := by
  refine agrees_get_bind (fun visit other h => by rw [h.session]) fun visit hfor => ?_
  cases hshown : visit.session with
  | none => exact agrees_of_still fun _ => rfl
  | some shown =>
    rw [Visit.IsFor, hshown] at hfor
    obtain rfl : shown = name := hfor
    refine fun _ _ _ hsame => meets_keep (fun s t h => ?_) hsame
    obtain ⟨houtcome, hafter⟩ := Sessions.agrees_load shown s t h
    exact ⟨congrArg (Except.mapError Trouble.session) houtcome, hafter⟩

theorem remains_record? (name : Text) : Leaves (Visit.Remains name) record? := by
  refine leaves_record? (fun _ => id) fun visit shown hshown hfor => ?_
  rw [Visit.IsFor, hshown] at hfor ⊢
  exact hfor

theorem agrees_sessionName (hasSecret : Bool) (name : Text) : Agrees name (sessionName hasSecret) := by
  intro visit other _ hsame
  unfold sessionName
  rw [run_bind_of_ok (rfl : (get : Handling Visit).run.run visit = (.ok visit, visit)),
    run_bind_of_ok (rfl : (get : Handling Visit).run.run other = (.ok other, other)),
    ← hsame.session]
  cases hshown : visit.session with
  | some shown => exact ⟨rfl, hsame⟩
  | none =>
    have hdrawn : visit.sessions.secrets.sessionName = other.sessions.secrets.sessionName :=
      congrArg Secrets.sessionName hsame.sessions.secrets
    have hafter : Sessions.Same name
        { visit.sessions with secrets := visit.sessions.secrets.sessionName.2 }
        { other.sessions with secrets := other.sessions.secrets.sessionName.2 } :=
      ⟨⟨hsame.sessions.now, hsame.sessions.manner, hsame.sessions.live⟩, congrArg Prod.snd hdrawn⟩
    have hgiven : visit.sessions.secrets.sessionName.1 = other.sessions.secrets.sessionName.1 :=
      congrArg Prod.fst hdrawn
    cases hasSecret with
    | false => exact ⟨rfl, hsame.session, hsame.twister, hafter⟩
    | true => exact ⟨congrArg Except.ok hgiven, congrArg some hgiven, hsame.twister, hafter⟩

/-- A visit that is for a session gets the name of that session. -/
theorem agrees_sessionName_bind {hasSecret : Bool} {next : Text → Handling β}
    (hnext : Agrees name (next name)) : Agrees name (sessionName hasSecret >>= next) := by
  intro visit other hfor hsame
  refine (agrees_sessionName hasSecret name visit other hfor hsame).bind
    fun given named named' hrun hnamed => ?_
  obtain rfl : given = name := (isFor_of_sessionName hrun).unique hfor
  exact hnext named named' (Visit.isFor_of_session (stays_sessionName hrun).2) hnamed

/-- Work on the record of a session agrees on its name. -/
theorem agrees_withRecord {work : Record → Keeping Trouble (α × Record)}
    (hwork : ∀ record, Sessions.Agrees name (work record)) : Agrees name (withRecord name work) :=
  fun _ _ _ hsame => meets_keep (Sessions.agrees_withRecord hwork) hsame

end Handling

/-! ## Endpoints -/

namespace Gateway

open Handling

variable {gateway : Gateway} {request : Request} {name : Text}

theorem agrees_rewriteFor (name : Text) (view : View) (mediaType source : Text) (twister : Twister)
    (record : Record) : Sessions.Agrees name (rewriteFor view mediaType source twister record) := by
  intro s t h
  unfold rewriteFor
  split
  · exact ⟨rfl, h⟩
  · exact ⟨rfl, h⟩

theorem agrees_issueUnlessPassed (name : Text) (difficulty : Int) (record : Record) :
    Sessions.Agrees name (issueUnlessPassed difficulty record) := by
  intro s t h
  have hissued : record.issue difficulty s.secrets = record.issue difficulty t.secrets :=
    congrArg (record.issue difficulty) h.secrets
  unfold issueUnlessPassed
  split
  · exact ⟨rfl, h⟩
  · rw [hissued]
    exact ⟨rfl, ⟨h.now, h.manner, h.live⟩, rfl⟩

theorem agrees_document (name base mediaType source : Text) :
    Agrees name (gateway.document base mediaType source) := by
  refine agrees_sessionName_bind (agrees_get_bind (fun _ _ h => by rw [h.twister]) fun visit _ => ?_)
  refine agrees_tryCatch ?_ fun trouble visit other hsame => ?_
  · refine (agrees_withRecord (agrees_rewriteFor name _ mediaType source _)).then_still ?_
    exact fun _ => ⟨_, fun _ => rfl⟩
  · split
    · exact ⟨rfl, hsame⟩
    · exact ⟨rfl, hsame⟩

theorem agrees_serve (name path : Text) : Agrees name (gateway.serve path) := by
  unfold serve
  refine agrees_orTrouble_bind fun place => ?_
  cases place with
  | none => exact agrees_of_still fun _ => rfl
  | some place =>
    refine agrees_orTrouble_bind fun bytes => ?_
    dsimp only
    split
    · exact agrees_document name _ _ _
    · exact agrees_of_still fun _ => rfl

theorem agrees_serveLink (name path : Text) : Agrees name (gateway.serveLink path) := by
  unfold serveLink
  refine (agrees_record? name).bind (remains_record? name) fun found => ?_
  cases found with
  | none => exact agrees_of_still fun _ => rfl
  | some record =>
    refine agrees_get_bind (fun _ _ h => by rw [h.twister]) fun visit _ => ?_
    split
    · exact agrees_serve name _
    · exact agrees_of_still fun _ => rfl

theorem agrees_challengePage (name : Text) : Agrees name gateway.challengePage := by
  unfold challengePage
  refine agrees_sessionName_bind ?_
  refine (agrees_withRecord (agrees_issueUnlessPassed name gateway.difficulty)).then_still fun issued => ?_
  cases issued with
  | some challenge => exact ⟨_, fun _ => rfl⟩
  | none => exact ⟨_, fun _ => rfl⟩

theorem agrees_verify (name : Text) : Agrees name (verify request) := by
  refine agrees_get_bind (fun visit other h => by rw [h.session]) fun visit hfor => ?_
  cases hshown : visit.session with
  | none => exact agrees_of_still fun _ => rfl
  | some shown =>
    rw [Visit.IsFor, hshown] at hfor
    obtain rfl : shown = name := hfor
    exact (agrees_withRecord fun record s t h => ⟨rfl, h⟩).then_still fun _ => ⟨_, fun _ => rfl⟩

theorem agrees_logout (name : Text) : Agrees name gateway.logout := by
  have hparting : ∀ visit other : Visit, Visit.Same name visit other →
      Meets name (gateway.parting visit) (gateway.parting other) := by
    intro visit other hsame
    unfold parting
    split
    · exact ⟨rfl, rfl, hsame.twister, hsame.sessions⟩
    · exact ⟨rfl, hsame⟩
  intro visit other hfor hsame
  cases hshown : visit.session with
  | none =>
    rw [logout_of_none hshown, logout_of_none (hsame.session.symm.trans hshown)]
    exact hparting visit other hsame
  | some shown =>
    rw [Visit.IsFor, hshown] at hfor
    obtain rfl : shown = name := hfor
    obtain ⟨hdone, hafter⟩ := Sessions.agrees_delete shown _ _ hsame.sessions
    rw [logout_of_some hshown, logout_of_some (hsame.session.symm.trans hshown)]
    rcases hrun : Sessions.delete shown visit.sessions with ⟨outcome, s⟩
    rcases hrun' : Sessions.delete shown other.sessions with ⟨outcome', s'⟩
    rw [hrun, hrun'] at hdone hafter
    obtain rfl : outcome = outcome' := hdone
    rcases outcome with fault | done
    · exact ⟨rfl, hsame.session, hsame.twister, hafter⟩
    · exact hparting _ _ ⟨hsame.session, hsame.twister, hafter⟩

/-! ## Requests -/

theorem agrees_handle (name : Text) (endpoint : Endpoint) :
    Agrees name (gateway.handle request endpoint) := by
  cases endpoint with
  | challenge => exact agrees_challengePage name
  | verify => exact agrees_verify name
  | logout => exact agrees_logout name
  | health => exact agrees_of_still fun _ => rfl
  | link => exact agrees_serveLink name _
  | bundled =>
    rw [handle, bundled]
    split
    · exact agrees_of_still fun _ => rfl
    · exact agrees_of_still fun _ => rfl
  | site => exact agrees_serve name _

theorem agrees_dispatch (name : Text) : Agrees name (gateway.dispatch request) := by
  cases hendpoint : gateway.endpoint? request with
  | some endpoint =>
    rw [dispatch_of_endpoint hendpoint]
    exact agrees_handle name endpoint
  | none =>
    rcases dispatch_of_no_endpoint hendpoint with hmissing | ⟨status, methods, htold⟩
    · rw [hmissing]
      exact agrees_of_still fun _ => rfl
    · rw [htold]
      exact agrees_of_still fun _ => rfl

theorem agrees_admits (name : Text) : Agrees name (gateway.admits request) := by
  unfold admits
  cases Admission.isOpen request.path with
  | true => exact agrees_of_still fun _ => rfl
  | false =>
    refine agrees_orTrouble_bind fun allowed => ?_
    cases allowed with
    | true => exact agrees_of_still fun _ => rfl
    | false => exact (agrees_record? name).then_still fun _ => ⟨_, fun _ => rfl⟩

theorem agrees_respond (name : Text) : Agrees name (gateway.respond request) := by
  unfold respond
  have hremains := leaves_admits (R := Visit.Remains name) (fun _ => id) (remains_record? name)
  refine (agrees_admits name).bind (hremains gateway request) fun admitted => ?_
  cases admitted with
  | true => exact agrees_dispatch name
  | false => exact agrees_of_still fun _ => rfl

/-- Of visits that are for a session and look the same there, a request is answered the same. -/
theorem answer_agrees (gateway : Gateway) (request : Request) {visit other : Visit}
    (hfor : visit.IsFor name) (hsame : Visit.Same name visit other) :
    (gateway.answer request visit).1 = (gateway.answer request other).1 ∧
      Visit.Same name (gateway.answer request visit).2 (gateway.answer request other).2 := by
  cases htunnel : isTunnelled gateway.tunnelPrefix request.target with
  | true =>
    rw [answer_of_tunnelled htunnel, answer_of_tunnelled htunnel]
    exact ⟨rfl, hsame⟩
  | false =>
    have hrespond : Handling.Agrees name (gateway.respond request) := agrees_respond name
    obtain ⟨houtcome, hafter⟩ := hrespond visit other hfor hsame
    rcases hrun : (gateway.respond request).run.run visit with ⟨outcome, final⟩
    rcases hrun' : (gateway.respond request).run.run other with ⟨outcome', final'⟩
    rw [hrun, hrun'] at houtcome hafter
    obtain rfl : outcome = outcome' := houtcome
    rcases outcome with trouble | response
    · rw [answer_of_trouble htunnel hrun, answer_of_trouble htunnel hrun']
      exact ⟨rfl, hafter⟩
    · rw [answer_of_response htunnel hrun, answer_of_response htunnel hrun']
      exact ⟨rfl, hafter⟩

end Gateway

end VeiledGateway
