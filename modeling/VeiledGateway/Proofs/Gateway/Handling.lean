/-
  Handling: how the parts of answering a request run one after the other.

  A part gives a result or a trouble, and it leaves a visit behind in either case.  Trouble ends all
  parts after it.  At the end stands what has been done at the checkpoint when it gives a response.
-/
import VeiledGateway.Gateway.Server

set_option autoImplicit false

namespace VeiledGateway

namespace Handling

variable {α β : Type} {act : Handling α} {next : α → Handling β} {visit mid final : Visit}

theorem run_bind_of_ok {a : α} (h : act.run.run visit = (.ok a, mid)) :
    (act >>= next).run.run visit = (next a).run.run mid := by
  have hact : act visit = (.ok a, mid) := h
  simp only [bind, ExceptT.bind, ExceptT.mk, ExceptT.run, StateT.run, StateT.bind]
  rw [hact]
  rfl

theorem run_bind_of_error {trouble : Trouble} (h : act.run.run visit = (.error trouble, mid)) :
    (act >>= next).run.run visit = (.error trouble, mid) := by
  have hact : act visit = (.error trouble, mid) := h
  simp only [bind, ExceptT.bind, ExceptT.mk, ExceptT.run, StateT.run, StateT.bind]
  rw [hact]
  rfl

/-- Two parts one after the other: trouble comes of the first, or the second goes on from there. -/
theorem run_bind_cases {outcome : Except Trouble β}
    (h : (act >>= next).run.run visit = (outcome, final)) :
    (∃ trouble, act.run.run visit = (.error trouble, final) ∧ outcome = .error trouble) ∨
      ∃ a mid, act.run.run visit = (.ok a, mid) ∧ (next a).run.run mid = (outcome, final) := by
  rcases hact : act.run.run visit with ⟨trouble | a, mid⟩
  · rw [run_bind_of_error hact] at h
    obtain ⟨rfl, rfl⟩ := Prod.mk.inj h
    exact .inl ⟨trouble, rfl, rfl⟩
  · rw [run_bind_of_ok hact] at h
    exact .inr ⟨a, mid, rfl, h⟩

theorem run_orTrouble {ε : Type} (ofFault : ε → Trouble) (outcome : Except ε α) (visit : Visit) :
    (orTrouble ofFault outcome).run.run visit = (outcome.mapError ofFault, visit) := by
  cases outcome <;> rfl

theorem run_keep (work : Keeping Trouble α) (visit : Visit) :
    (keep work).run.run visit =
      ((work visit.sessions).1, { visit with sessions := (work visit.sessions).2 }) :=
  rfl

end Handling

namespace Gateway

/-! ## Endpoints -/

/-- The endpoint that a request is for, if it is not merely told which methods there are. -/
def endpoint? (gateway : Gateway) (request : Request) : Option Endpoint :=
  match Route.find gateway.rules request.method request.path with
  | .to endpoint => if request.method.eqString "OPTIONS" then none else some endpoint
  | _ => none

theorem dispatch_of_endpoint {gateway : Gateway} {request : Request} {endpoint : Endpoint}
    (h : gateway.endpoint? request = some endpoint) :
    gateway.dispatch request = gateway.handle request endpoint := by
  unfold endpoint? at h
  unfold dispatch
  split at h
  · rename_i hroute
    rw [hroute]
    split at h
    · cases h
    · rename_i hmethod
      obtain rfl := Option.some.inj h
      simp only [hmethod]
      rfl
  · cases h

/-- A request for no endpoint finds nothing, or is told which methods there are. -/
theorem dispatch_of_no_endpoint {gateway : Gateway} {request : Request}
    (h : gateway.endpoint? request = none) :
    gateway.dispatch request = throw .missing ∨
      ∃ status methods, gateway.dispatch request = pure (.allowing status methods) := by
  unfold endpoint? at h
  unfold dispatch
  split at h
  · rename_i hroute
    rw [hroute]
    split at h
    · rename_i hmethod
      exact .inr ⟨200, _, if_pos hmethod⟩
    · cases h
  · rename_i hroute
    split
    · exact .inl rfl
    · exact .inr ⟨405, _, rfl⟩
    · rename_i endpoint hto
      exact absurd hto (hroute endpoint)

/-! ## Letting in -/

theorem respond_of_admitted {gateway : Gateway} {request : Request} {visit mid : Visit}
    (h : (gateway.admits request).run.run visit = (.ok true, mid)) :
    (gateway.respond request).run.run visit = (gateway.dispatch request).run.run mid :=
  Handling.run_bind_of_ok h

theorem respond_of_not_admitted {gateway : Gateway} {request : Request} {visit mid : Visit}
    (h : (gateway.admits request).run.run visit = (.ok false, mid)) :
    (gateway.respond request).run.run visit = (.ok (.redirect Admission.challengePath), mid) :=
  Handling.run_bind_of_ok h

theorem respond_of_trouble {gateway : Gateway} {request : Request} {visit mid : Visit}
    {trouble : Trouble} (h : (gateway.admits request).run.run visit = (.error trouble, mid)) :
    (gateway.respond request).run.run visit = (.error trouble, mid) :=
  Handling.run_bind_of_error h

/-- The paths that are open are open without anything being looked up. -/
theorem admits_of_isOpen (gateway : Gateway) {request : Request}
    (h : Admission.isOpen request.path = true) (visit : Visit) :
    (gateway.admits request).run.run visit = (.ok true, visit) := by
  unfold admits
  rw [if_pos h]
  rfl

/-! ## At the checkpoint -/

section Checkpoint

open Handling

variable {gateway : Gateway} {request : Request} {response : Response} {visit final : Visit}

/-- The response to a visitor for whom a challenge was issued, or who has passed. -/
def challengeResponse : Option Challenge → Response
  | some challenge => { Response.bare 200 with content := .page challenge }
  | none => .redirect startPath

/-- A page with a challenge is given out when the challenge has been stored. -/
theorem challengePage_eq_ok (h : gateway.challengePage.run.run visit = (.ok response, final)) :
    ∃ name mid issued, (sessionName gateway.hasSecret).run.run visit = (.ok name, mid) ∧
      (withRecord name (issueUnlessPassed gateway.difficulty)).run.run mid = (.ok issued, final) ∧
      response = challengeResponse issued := by
  rcases run_bind_cases h with ⟨_, -, htrouble⟩ | ⟨name, mid, hname, h⟩
  · cases htrouble
  · rcases run_bind_cases h with ⟨_, -, htrouble⟩ | ⟨issued, last, hissued, h⟩
    · cases htrouble
    · cases issued with
      | none =>
        obtain ⟨hresponse, rfl⟩ := Prod.mk.inj h
        exact ⟨name, mid, none, hname, hissued, (Except.ok.inj hresponse).symm⟩
      | some challenge =>
        obtain ⟨hresponse, rfl⟩ := Prod.mk.inj h
        exact ⟨name, mid, some challenge, hname, hissued, (Except.ok.inj hresponse).symm⟩

/-- A solution is answered with success when the solved challenge has been stored. -/
theorem verify_eq_ok (h : (verify request).run.run visit = (.ok response, final)) :
    ∃ name, visit.session = some name ∧
      (withRecord name (submitTo request.solution)).run.run visit = (.ok (), final) ∧
      response = .success := by
  rcases run_bind_cases h with ⟨_, -, htrouble⟩ | ⟨found, mid, hfound, h⟩
  · cases htrouble
  · obtain ⟨hvisit, rfl⟩ := Prod.mk.inj hfound
    obtain rfl : visit = found := Except.ok.inj hvisit
    cases hsession : visit.session with
    | none =>
      rw [hsession] at h
      cases (Prod.mk.inj h).1
    | some name =>
      rw [hsession] at h
      rcases run_bind_cases h with ⟨_, -, htrouble⟩ | ⟨⟨⟩, last, hsubmitted, h⟩
      · cases htrouble
      · obtain ⟨hresponse, rfl⟩ := Prod.mk.inj h
        exact ⟨name, rfl, hsubmitted, (Except.ok.inj hresponse).symm⟩

/-- A session is given up with success only. -/
theorem logout_eq_ok (h : gateway.logout.run.run visit = (.ok response, final)) :
    response = .success := by
  rcases run_bind_cases h with ⟨_, -, htrouble⟩ | ⟨found, mid, -, h⟩
  · cases htrouble
  · have hlast : ∀ {visit : Visit}, ((if !gateway.hasSecret then throw .noSecret else do
        modify fun visit => { visit with session := none }
        return .success) : Handling Response).run.run visit = (.ok response, final) →
        response = .success := by
      intro visit h
      cases hsecret : gateway.hasSecret with
      | false =>
        rw [hsecret] at h
        cases (Prod.mk.inj h).1
      | true =>
        rw [hsecret] at h
        exact (Except.ok.inj (Prod.mk.inj h).1).symm
    cases hsession : found.session with
    | none =>
      rw [hsession] at h
      exact hlast h
    | some name =>
      rw [hsession] at h
      rcases run_bind_cases h with ⟨_, -, htrouble⟩ | ⟨_, last, -, h⟩
      · cases htrouble
      · exact hlast h

/-- The only file that belongs to the page is its script. -/
theorem bundled_eq_ok (h : (bundled request).run.run visit = (.ok response, final)) :
    response = .checked "application/javascript" .script := by
  unfold bundled at h
  simp only [] at h
  split at h
  · exact (Except.ok.inj (Prod.mk.inj h).1).symm
  · cases (Prod.mk.inj h).1

end Checkpoint

end Gateway

end VeiledGateway
