/-
  Requests keep apart: whatever is asked, the store works as it did, and of all sessions but the one
  that a request carries or begins nothing is lost but what has run out.
-/
import VeiledGateway.Proofs.Gateway.Upholding
import VeiledGateway.Proofs.Session.Sight

set_option autoImplicit false

namespace VeiledGateway

/-! ## Sessions -/

namespace Sessions

variable {s s' : Sessions} {name : Text}

/-- The store works as it did, and under all names but one nothing is lost but what has run out. -/
structure Only (s : Sessions) (name : Text) (s' : Sessions) : Prop where
  now : s'.now = s.now
  manner : s'.manner = s.manner
  single : s'.Single
  others (other : Text) : other ≠ name → s.FadesAt s' other

theorem only_of_fades (h : s.Fades s') (hmanner : s'.manner = s.manner) (hsingle : s.Single)
    (name : Text) : s.Only name s' :=
  ⟨h.now, hmanner, h.single hsingle, fun other _ => h.kept other⟩

theorem only_delete (name : Text) (hsingle : s.Single) : s.Only name (delete name s).2 where
  now := (loses_delete name s).now
  manner := manner_delete name s
  single := (loses_delete name s).single hsingle
  others := fun other hother => .inl ((loses_delete name s).others other hother)

/-- Work on the record under a name has to do with that name only. -/
theorem only_withRecord {ε α : Type} {ofFault : SessionFault → ε}
    {work : Record → Keeping ε (α × Record)}
    (hfades : ∀ (record : Record) (s : Sessions), s.Fades (work record s).2)
    (hmanner : ∀ (record : Record) (s : Sessions), (work record s).2.manner = s.manner)
    (name : Text) (hsingle : s.Single) : s.Only name (withRecord name ofFault work s).2 := by
  have hmanners : (withRecord name ofFault work s).2.manner = s.manner :=
    manner_withRecord hmanner name s
  rcases hrun : withRecord name ofFault work s with ⟨outcome, s'⟩
  rw [hrun] at hmanners
  rcases withRecord_cases hsingle hfades hrun with
    ⟨fault, -, hfailed⟩ | ⟨a, record, mid, after, last, -, hfinds, hworked, hstores⟩
  · exact only_of_fades hfailed hmanners hsingle name
  · have hworking := hfades record mid
    rw [hworked] at hworking
    have hlast : s.Fades last := hfinds.fades.trans hworking
    have hall := hlast.stores hstores
    exact ⟨hall.now, hmanners, hall.single hsingle, hall.others⟩

end Sessions

/-! ## Visits -/

namespace Visit

/-- The store works as it did, and nothing is lost but what has run out of the sessions that are not
that of the visit, before or after it; and the visit begins no session but the one that it is for. -/
structure Apart (visit final : Visit) : Prop where
  now : final.sessions.now = visit.sessions.now
  manner : final.sessions.manner = visit.sessions.manner
  single : final.sessions.Single
  others (name : Text) : visit.session ≠ some name → final.session ≠ some name →
    visit.sessions.FadesAt final.sessions name
  begun (name : Text) : final.session = some name → visit.IsFor name

/-- Where no name stands twice, the visit keeps apart. -/
def KeepsApart (visit final : Visit) : Prop :=
  visit.sessions.Single → visit.Apart final

/-- It does, and it is for the same session as before. -/
def Rests (visit final : Visit) : Prop :=
  visit.KeepsApart final ∧ final.session = visit.session ∧
    ∀ name, final.IsFor name → visit.IsFor name

variable {visit mid final : Visit} {name : Text}

theorem isFor_of_session (h : visit.session = some name) : visit.IsFor name := by
  rw [IsFor, h]

theorem apart_of_fades (h : visit.sessions.Fades final.sessions)
    (hmanner : final.sessions.manner = visit.sessions.manner)
    (hbegun : ∀ name, final.session = some name → visit.IsFor name) : visit.KeepsApart final :=
  fun hsingle => ⟨h.now, hmanner, h.single hsingle, fun other _ _ => h.kept other, hbegun⟩

theorem KeepsApart.refl (visit : Visit) : visit.KeepsApart visit :=
  apart_of_fades (Sessions.Fades.refl _) rfl fun _ => isFor_of_session

theorem Rests.refl (visit : Visit) : visit.Rests visit :=
  ⟨KeepsApart.refl visit, rfl, fun _ => id⟩

theorem Rests.then_apart (h : visit.Rests mid) (h' : mid.KeepsApart final) :
    visit.KeepsApart final := by
  intro hsingle
  obtain ⟨hapart, hsession, hfor⟩ := h
  have hfirst := hapart hsingle
  have hsecond := h' hfirst.single
  refine ⟨hsecond.now.trans hfirst.now, hsecond.manner.trans hfirst.manner, hsecond.single, ?_,
    fun name hname => hfor name (hsecond.begun name hname)⟩
  intro name hvisit hfinal
  rw [← hsession] at hvisit
  exact (hfirst.others name (hsession ▸ hvisit) hvisit).trans hfirst.now
    (hsecond.others name hvisit hfinal)

/-- What has to do with the session only that is shown keeps apart. -/
theorem apart_of_shown (hshown : visit.session = some name)
    (h : visit.sessions.Single → visit.sessions.Only name final.sessions)
    (hbegun : ∀ other, final.session = some other → other = name) : visit.KeepsApart final := by
  intro hsingle
  obtain ⟨hnow, hmanner, hfinal, hothers⟩ := h hsingle
  refine ⟨hnow, hmanner, hfinal, fun other hother _ => hothers other fun heq => ?_,
    fun other hother => ?_⟩
  · exact hother (heq ▸ hshown)
  · rw [hbegun other hother]
    exact isFor_of_session hshown

end Visit

/-! ## Parts of requests -/

namespace Handling

variable {α : Type}

theorem rests_record? : Leaves Visit.Rests record? := by
  refine leaves_record? Visit.Rests.refl fun visit shown hshown => ?_
  refine ⟨Visit.apart_of_fades (Sessions.fades_load shown visit.sessions)
    (Sessions.manner_load shown visit.sessions) fun name hname => ?_, rfl, fun name hname => ?_⟩
  · exact (Visit.isFor_of_session hname : visit.IsFor name)
  · rw [Visit.IsFor, hshown] at hname ⊢
    exact hname

theorem manner_sessionName (hasSecret : Bool) (visit : Visit) :
    ((sessionName hasSecret).run.run visit).2.sessions.manner = visit.sessions.manner := by
  unfold sessionName
  rw [run_bind_of_ok (rfl : (get : Handling Visit).run.run visit = (.ok visit, visit))]
  cases visit.session with
  | some held => rfl
  | none => cases hasSecret <;> rfl

/-- A visitor who cannot be given a name has none. -/
theorem session_of_no_name {hasSecret : Bool} {visit final : Visit} {trouble : Trouble}
    (h : (sessionName hasSecret).run.run visit = (.error trouble, final)) : final.session = none := by
  unfold sessionName at h
  rw [run_bind_of_ok (rfl : (get : Handling Visit).run.run visit = (.ok visit, visit))] at h
  cases hsession : visit.session with
  | some held =>
    rw [hsession] at h
    cases (Prod.mk.inj h).1
  | none =>
    rw [hsession] at h
    cases hasSecret with
    | true => cases (Prod.mk.inj h).1
    | false =>
      rw [← (Prod.mk.inj h).2]
      exact hsession

theorem apart_sessionName (hasSecret : Bool) : Leaves Visit.KeepsApart (sessionName hasSecret) := by
  intro visit
  refine Visit.apart_of_fades (fades_sessionName hasSecret visit) (manner_sessionName hasSecret visit) ?_
  intro name hsession
  rcases hrun : (sessionName hasSecret).run.run visit with ⟨trouble | given, named⟩
  · rw [hrun] at hsession
    cases (session_of_no_name hrun).symm.trans hsession
  · rw [hrun] at hsession
    have hgiven := (stays_sessionName hrun).2
    obtain rfl := Option.some.inj (hgiven.symm.trans hsession)
    exact isFor_of_sessionName hrun

/-- What goes on with the name of the session keeps apart if it has to do with that session only. -/
theorem apart_of_named {hasSecret : Bool} {visit named final : Visit} {name : Text}
    (hname : (sessionName hasSecret).run.run visit = (.ok name, named))
    (honly : named.sessions.Single → named.sessions.Only name final.sessions)
    (hsession : final.session = named.session) : visit.KeepsApart final := by
  intro hsingle
  have hfirst := apart_sessionName hasSecret visit hsingle
  rw [hname] at hfirst
  have hgiven := (stays_sessionName hname).2
  obtain ⟨hnow, hmanner, hfinal, hothers⟩ := honly hfirst.single
  refine ⟨hnow.trans hfirst.now, hmanner.trans hfirst.manner, hfinal, ?_, ?_⟩
  · intro other hvisit hother
    rw [hsession] at hother
    refine (hfirst.others other hvisit hother).trans hfirst.now (hothers other fun heq => ?_)
    exact hother (heq ▸ hgiven)
  · intro other hother
    rw [hsession] at hother
    exact hfirst.begun other hother

end Handling

/-! ## Endpoints -/

namespace Gateway

open Handling

variable {gateway : Gateway} {request : Request}

theorem manner_rewriteFor (view : View) (mediaType source : Text) (twister : Twister)
    (record : Record) (s : Sessions) :
    (rewriteFor view mediaType source twister record s).2.manner = s.manner := by
  unfold rewriteFor
  split <;> rfl

theorem manner_issueUnlessPassed (difficulty : Int) (record : Record) (s : Sessions) :
    (issueUnlessPassed difficulty record s).2.manner = s.manner := by
  unfold issueUnlessPassed
  split <;> rfl

theorem apart_document (base mediaType source : Text) :
    Leaves Visit.KeepsApart (gateway.document base mediaType source) := by
  refine leaves_document (apart_sessionName _) id base mediaType source ?_
  intro visit name named hname _
  exact apart_of_named hname (Sessions.only_withRecord (fades_rewriteFor _ mediaType source _)
    (manner_rewriteFor _ mediaType source _) name) rfl

theorem apart_serve (path : Text) : Leaves Visit.KeepsApart (gateway.serve path) :=
  leaves_serve Visit.KeepsApart.refl apart_document path

theorem apart_serveLink (path : Text) : Leaves Visit.KeepsApart (gateway.serveLink path) :=
  leaves_serveLink Visit.KeepsApart.refl rests_record? apart_serve And.left Visit.Rests.then_apart path

theorem apart_challengePage : Leaves Visit.KeepsApart gateway.challengePage := by
  intro visit
  unfold challengePage
  rcases hname : (sessionName gateway.hasSecret).run.run visit with ⟨trouble | name, named⟩
  · have hapart := apart_sessionName gateway.hasSecret visit
    rw [hname] at hapart
    rw [run_bind_of_error hname]
    exact hapart
  · rw [run_bind_of_ok hname, visit_bind_of_same]
    · exact apart_of_named hname (Sessions.only_withRecord
        (fades_issueUnlessPassed gateway.difficulty) (manner_issueUnlessPassed gateway.difficulty) name) rfl
    · intro issued visit
      cases issued <;> rfl

theorem apart_verify : Leaves Visit.KeepsApart (verify request) := by
  intro visit
  rw [verify, run_bind_of_ok (rfl : (get : Handling Visit).run.run visit = (.ok visit, visit))]
  cases hshown : visit.session with
  | none => exact Visit.KeepsApart.refl visit
  | some name =>
    dsimp only
    rw [visit_bind_of_same fun _ _ => rfl]
    refine Visit.apart_of_shown hshown (Sessions.only_withRecord (fades_submitTo request.solution)
      (fun _ _ => rfl) name) fun other hother => ?_
    exact Option.some.inj (hother.symm.trans hshown)

theorem parting_session (gateway : Gateway) (visit : Visit) :
    (gateway.parting visit).2.session = visit.session ∨ (gateway.parting visit).2.session = none := by
  unfold parting
  split
  · exact .inr rfl
  · exact .inl rfl

/-- Whoever leaves has the session as before, or none. -/
theorem logout_session (gateway : Gateway) (visit : Visit) :
    (gateway.logout.run.run visit).2.session = visit.session ∨
      (gateway.logout.run.run visit).2.session = none := by
  cases hsession : visit.session with
  | none => exact .inr ((logout_of_none hsession).symm ▸ (parting_session gateway visit).elim
      (·.trans hsession) id)
  | some name =>
    rw [logout_of_some hsession]
    rcases Sessions.delete name visit.sessions with ⟨fault | done, s⟩
    · exact .inl hsession
    · rw [← hsession]
      exact parting_session gateway { visit with sessions := s }

theorem apart_logout : Leaves Visit.KeepsApart gateway.logout := by
  intro visit
  have hkept : ∀ name, (gateway.logout.run.run visit).2.session = some name →
      visit.session = some name := by
    intro name hname
    rcases logout_session gateway visit with hsame | hnone
    · exact hsame.symm.trans hname
    · cases hnone.symm.trans hname
  rcases logout_sessions gateway visit with hsame | ⟨name, hshown, hdeleted⟩
  · refine Visit.apart_of_fades ?_ (by rw [hsame]) fun name hname => ?_
    · rw [hsame]
      exact Sessions.Fades.refl _
    · exact Visit.isFor_of_session (hkept name hname)
  · refine Visit.apart_of_shown hshown (fun hsingle => ?_) fun other hother => ?_
    · rw [hdeleted]
      exact Sessions.only_delete name hsingle
    · exact Option.some.inj ((hkept other hother).symm.trans hshown)

/-! ## Requests -/

theorem rests_admits (gateway : Gateway) (request : Request) :
    Leaves Visit.Rests (gateway.admits request) :=
  leaves_admits Visit.Rests.refl rests_record? gateway request

theorem apart_handle (endpoint : Endpoint) :
    Leaves Visit.KeepsApart (gateway.handle request endpoint) := by
  cases endpoint with
  | challenge => exact apart_challengePage
  | verify => exact apart_verify
  | logout => exact apart_logout
  | health => exact leaves_of_same Visit.KeepsApart.refl fun _ => rfl
  | link => exact apart_serveLink _
  | bundled =>
    refine leaves_of_same Visit.KeepsApart.refl fun visit => ?_
    rw [handle, bundled]
    split <;> rfl
  | site => exact apart_serve _

theorem apart_dispatch : Leaves Visit.KeepsApart (gateway.dispatch request) := by
  cases hendpoint : gateway.endpoint? request with
  | some endpoint =>
    rw [dispatch_of_endpoint hendpoint]
    exact apart_handle endpoint
  | none =>
    rcases dispatch_of_no_endpoint hendpoint with hmissing | ⟨status, methods, htold⟩
    · rw [hmissing]
      exact leaves_of_same Visit.KeepsApart.refl fun _ => rfl
    · rw [htold]
      exact leaves_of_same Visit.KeepsApart.refl fun _ => rfl

theorem apart_respond : Leaves Visit.KeepsApart (gateway.respond request) := by
  unfold respond
  refine (rests_admits gateway request).bind (fun admitted => ?_) And.left Visit.Rests.then_apart
  cases admitted with
  | true => exact apart_dispatch
  | false => exact leaves_of_same Visit.KeepsApart.refl fun _ => rfl

/-- Whatever is asked, a visit keeps apart. -/
theorem apart_answer (gateway : Gateway) (request : Request) (visit : Visit) :
    visit.KeepsApart (gateway.answer request visit).2 := by
  cases htunnel : isTunnelled gateway.tunnelPrefix request.target with
  | true =>
    rw [visit_of_tunnelled htunnel]
    exact Visit.KeepsApart.refl visit
  | false =>
    rw [visit_of_not_tunnelled htunnel]
    exact apart_respond visit

end Gateway

end VeiledGateway
