/-
  Requests uphold the sessions: whatever is asked, all that is kept was written for records that can
  be stored, and nothing is lost of the sessions that a request is not for, but what has run out.
-/
import VeiledGateway.Proofs.Gateway.Arriving
import VeiledGateway.Proofs.Gateway.Effect
import VeiledGateway.Proofs.Session.Upholding

set_option autoImplicit false

namespace VeiledGateway

/-! ## Visits -/

namespace Visit

/-- A visit is for the session whose name is shown, or, where none is, for that which would be
begun. -/
def IsFor (visit : Visit) (name : Text) : Prop :=
  match visit.session with
  | some shown => shown = name
  | none => visit.sessions.secrets.sessionName.1 = name

/-- Where the sessions are sound, they stay so, and those that the visit is not for are left alone. -/
def Upholds (visit final : Visit) : Prop :=
  visit.sessions.Sound → final.sessions.now = visit.sessions.now ∧ final.sessions.Sound ∧
    ∀ name, ¬ visit.IsFor name → visit.sessions.FadesAt final.sessions name

/-- A visit is upheld, and it is for the same sessions as before. -/
def Stays (visit final : Visit) : Prop :=
  visit.Upholds final ∧ ∀ name, final.IsFor name → visit.IsFor name

variable {visit mid final : Visit}

theorem Upholds.refl (visit : Visit) : visit.Upholds visit :=
  fun hsound => ⟨rfl, hsound, fun _ _ => .inl rfl⟩

theorem Stays.refl (visit : Visit) : visit.Stays visit :=
  ⟨Upholds.refl visit, fun _ => id⟩

theorem Stays.then_upholds (h : visit.Stays mid) (h' : mid.Upholds final) : visit.Upholds final := by
  intro hsound
  obtain ⟨hnow, hmid, hothers⟩ := h.1 hsound
  obtain ⟨hnow', hfinal, hothers'⟩ := h' hmid
  refine ⟨hnow'.trans hnow, hfinal, fun name hname => ?_⟩
  exact (hothers name hname).trans hnow (hothers' name fun hmid => hname (h.2 name hmid))

theorem Stays.trans (h : visit.Stays mid) (h' : mid.Stays final) : visit.Stays final :=
  ⟨h.then_upholds h'.1, fun name hname => h.2 name (h'.2 name hname)⟩

/-- What lets go only of what has run out upholds a visit. -/
theorem upholds_of_fades (h : visit.sessions.Fades final.sessions) : visit.Upholds final :=
  fun hsound => ⟨h.now, h.sound hsound, fun name _ => h.kept name⟩

/-- What upholds the sessions but for the one that is shown upholds a visit. -/
theorem upholds_of_shown {shown : Text} (hshown : visit.session = some shown)
    (h : visit.sessions.Sound → visit.sessions.Upholds final.sessions shown) :
    visit.Upholds final := by
  intro hsound
  obtain ⟨hnow, hfinal, hothers⟩ := h hsound
  refine ⟨hnow, hfinal, fun name hname => hothers name fun heq => hname ?_⟩
  rw [IsFor, hshown]
  exact heq.symm

end Visit

namespace Handling

variable {α : Type}

theorem stays_record? : Leaves Visit.Stays record? := by
  refine leaves_record? Visit.Stays.refl fun visit shown hsession => ?_
  refine ⟨Visit.upholds_of_fades (Sessions.fades_load shown visit.sessions), fun name hname => ?_⟩
  rw [Visit.IsFor, hsession] at hname ⊢
  exact hname

/-- The name that a visit gets for its session is that of the session that it is for. -/
theorem isFor_of_sessionName {hasSecret : Bool} {visit named : Visit} {name : Text}
    (h : (sessionName hasSecret).run.run visit = (.ok name, named)) : visit.IsFor name := by
  unfold sessionName at h
  rw [run_bind_of_ok (rfl : (get : Handling Visit).run.run visit = (.ok visit, visit))] at h
  rw [Visit.IsFor]
  cases hsession : visit.session with
  | some shown =>
    rw [hsession] at h
    exact Except.ok.inj (Prod.mk.inj h).1
  | none =>
    rw [hsession] at h
    cases hasSecret with
    | false => cases (Prod.mk.inj h).1
    | true => exact Except.ok.inj (Prod.mk.inj h).1

theorem stays_sessionName {hasSecret : Bool} {visit named : Visit} {name : Text}
    (h : (sessionName hasSecret).run.run visit = (.ok name, named)) :
    visit.Stays named ∧ named.session = some name := by
  have hname := sessionName_run hasSecret visit
  rw [h] at hname
  obtain ⟨hfades, hsession⟩ := hname
  have hsession : named.session = some name := hsession name rfl
  refine ⟨⟨Visit.upholds_of_fades hfades, fun other hother => ?_⟩, hsession⟩
  rw [Visit.IsFor, hsession] at hother
  exact hother ▸ isFor_of_sessionName h

/-- What goes on with the name of the session upholds a visit if it does so where that is shown. -/
theorem upholds_sessionName_bind {hasSecret : Bool} {next : Text → Handling α}
    (hnext : ∀ (name : Text) (visit : Visit), visit.session = some name →
      visit.Upholds ((next name).run.run visit).2) :
    Leaves Visit.Upholds (sessionName hasSecret >>= next) := by
  intro visit
  rcases hname : (sessionName hasSecret).run.run visit with ⟨trouble | name, named⟩
  · have hfades := fades_sessionName hasSecret visit
    rw [hname] at hfades
    rw [run_bind_of_error hname]
    exact Visit.upholds_of_fades hfades
  · obtain ⟨hstays, hshown⟩ := stays_sessionName hname
    rw [run_bind_of_ok hname]
    exact hstays.then_upholds (hnext name named hshown)

/-- Work on the record of the session whose name is shown upholds a visit. -/
theorem upholds_withRecord {name : Text} {work : Record → Keeping Trouble (α × Record)}
    (hfades : ∀ (record : Record) (s : Sessions), s.Fades (work record s).2)
    (hwork : ∀ (record : Record) (s : Sessions) (a : α) (after : Record), record.Storable →
      (work record s).1 = .ok (a, after) → after.Storable)
    {visit : Visit} (hshown : visit.session = some name) :
    visit.Upholds ((withRecord name work).run.run visit).2 := by
  rw [withRecord, run_keep]
  exact Visit.upholds_of_shown hshown (Sessions.upholds_withRecord .session hfades hwork name)

end Handling

/-! ## Endpoints -/

theorem Record.Storable.submit {record after : Record} {solution : Json} (h : record.Storable)
    (hsubmit : record.submit solution = .ok after) : after.Storable := by
  obtain ⟨challenge, hchallenge, -, -, rfl⟩ := submit_eq_ok hsubmit
  refine ⟨h.key, fun solved hsolved => ?_, h.mappings⟩
  rw [← Option.some.inj hsolved]
  exact h.nonce challenge hchallenge

namespace Gateway

open Handling

variable {gateway : Gateway} {request : Request}

theorem storable_rewriteFor {view : View} {mediaType source t : Text} {twister : Twister}
    {record after : Record} {s : Sessions} (h : record.Storable)
    (hrun : (rewriteFor view mediaType source twister record s).1 = .ok (t, after)) :
    after.Storable := by
  have hstorable := h.rewritten view (some mediaType) source twister
  unfold rewriteFor at hrun
  split at hrun
  · rename_i context notes hdone
    rw [hdone] at hstorable
    rw [← (Prod.mk.inj (Except.ok.inj hrun)).2]
    exact hstorable
  · cases hrun

theorem upholds_document (base mediaType source : Text) :
    Leaves Visit.Upholds (gateway.document base mediaType source) := by
  refine leaves_document (fades_sessionName _) Visit.upholds_of_fades base mediaType source ?_
  intro visit name named hname _
  obtain ⟨hstays, hshown⟩ := stays_sessionName hname
  exact hstays.then_upholds (upholds_withRecord (fades_rewriteFor _ mediaType source _)
    (fun _ _ _ _ => storable_rewriteFor) hshown)

theorem upholds_serve (path : Text) : Leaves Visit.Upholds (gateway.serve path) :=
  leaves_serve Visit.Upholds.refl upholds_document path

theorem upholds_serveLink (path : Text) : Leaves Visit.Upholds (gateway.serveLink path) :=
  leaves_serveLink Visit.Upholds.refl stays_record? upholds_serve And.left Visit.Stays.then_upholds path

theorem storable_issueUnlessPassed {difficulty : Int} {record after : Record} {s : Sessions}
    {issued : Option Challenge} (h : record.Storable)
    (hrun : (issueUnlessPassed difficulty record s).1 = .ok (issued, after)) : after.Storable := by
  unfold issueUnlessPassed at hrun
  split at hrun
  · rw [← (Prod.mk.inj (Except.ok.inj hrun)).2]
    exact h
  · rw [← (Prod.mk.inj (Except.ok.inj hrun)).2]
    exact h.issue difficulty s.secrets

theorem upholds_challengePage : Leaves Visit.Upholds gateway.challengePage := by
  unfold challengePage
  refine upholds_sessionName_bind fun name visit hshown => ?_
  rw [visit_bind_of_same]
  · exact upholds_withRecord (fades_issueUnlessPassed gateway.difficulty)
      (fun _ _ _ _ => storable_issueUnlessPassed) hshown
  · intro issued visit
    cases issued <;> rfl

theorem upholds_verify : Leaves Visit.Upholds (verify request) := by
  intro visit
  rw [verify, run_bind_of_ok (rfl : (get : Handling Visit).run.run visit = (.ok visit, visit))]
  cases hshown : visit.session with
  | none => exact Visit.Upholds.refl visit
  | some name =>
    dsimp only
    rw [visit_bind_of_same fun _ _ => rfl]
    exact upholds_withRecord (fades_submitTo request.solution)
      (fun _ _ _ _ hstorable hrun => hstorable.submit (submitTo_eq_ok (Prod.ext hrun rfl)).1) hshown

theorem upholds_logout : Leaves Visit.Upholds gateway.logout := by
  intro visit
  rcases logout_sessions gateway visit with hsame | ⟨name, hshown, hdeleted⟩
  · refine Visit.upholds_of_fades ?_
    rw [hsame]
    exact Sessions.Fades.refl _
  · refine Visit.upholds_of_shown hshown fun hsound => ?_
    rw [hdeleted]
    exact (Sessions.loses_delete name visit.sessions).upholds hsound

/-! ## Requests -/

theorem stays_admits (gateway : Gateway) (request : Request) :
    Leaves Visit.Stays (gateway.admits request) :=
  leaves_admits Visit.Stays.refl stays_record? gateway request

theorem upholds_handle (endpoint : Endpoint) : Leaves Visit.Upholds (gateway.handle request endpoint) := by
  cases endpoint with
  | challenge => exact upholds_challengePage
  | verify => exact upholds_verify
  | logout => exact upholds_logout
  | health => exact leaves_of_same Visit.Upholds.refl fun _ => rfl
  | link => exact upholds_serveLink _
  | bundled =>
    refine leaves_of_same Visit.Upholds.refl fun visit => ?_
    rw [handle, bundled]
    split <;> rfl
  | site => exact upholds_serve _

theorem upholds_dispatch : Leaves Visit.Upholds (gateway.dispatch request) := by
  cases hendpoint : gateway.endpoint? request with
  | some endpoint =>
    rw [dispatch_of_endpoint hendpoint]
    exact upholds_handle endpoint
  | none =>
    rcases dispatch_of_no_endpoint hendpoint with hmissing | ⟨status, methods, htold⟩
    · rw [hmissing]
      exact leaves_of_same Visit.Upholds.refl fun _ => rfl
    · rw [htold]
      exact leaves_of_same Visit.Upholds.refl fun _ => rfl

theorem upholds_respond : Leaves Visit.Upholds (gateway.respond request) := by
  unfold respond
  refine (stays_admits gateway request).bind (fun admitted => ?_) And.left Visit.Stays.then_upholds
  cases admitted with
  | true => exact upholds_dispatch
  | false => exact leaves_of_same Visit.Upholds.refl fun _ => rfl

/-- Whatever is asked, a visit is upheld. -/
theorem upholds_answer (gateway : Gateway) (request : Request) (visit : Visit) :
    visit.Upholds (gateway.answer request visit).2 := by
  cases htunnel : isTunnelled gateway.tunnelPrefix request.target with
  | true =>
    rw [visit_of_tunnelled htunnel]
    exact Visit.Upholds.refl visit
  | false =>
    rw [visit_of_not_tunnelled htunnel]
    exact upholds_respond visit

end Gateway

end VeiledGateway
