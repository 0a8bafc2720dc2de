/-
  Effects: all that a request can do to the sessions of a gateway.

  A request may issue a challenge to a session or have a solution accepted from it, and these are
  deeds.  Without a deed, the sessions are tended at most, or the visitor gives up its own.  All that
  is said of runs rests on `effect_answer`.
-/
import VeiledGateway.Proofs.Gateway.Handling
import VeiledGateway.Proofs.Gateway.Leaving
import VeiledGateway.Proofs.Gateway.Run

set_option autoImplicit false

namespace VeiledGateway

/-! ## Solutions -/

/-- A value that solves a challenge is a text of a proper length, and the digest behind the nonce
begins with the zeros that are demanded. -/
inductive Challenge.SolvedBy (challenge : Challenge) : Json → Prop where
  | text {t : Text} (hsome : t ≠ []) (hshort : t.length ≤ 64)
      (hmeets : ∃ bytes, Utf8.encode (challenge.nonce ++ t) = .ok bytes ∧
        List.replicate challenge.difficulty.toNat (CodePoint.ofChar '0')
          <+: Sha256.hexDigest bytes) :
      challenge.SolvedBy (.text t)

theorem replicate_prefix_of_le_takeWhile {c : CodePoint} {t : Text} {n : Nat}
    (h : n ≤ (t.takeWhile (· = c)).length) : List.replicate n c <+: t := by
  induction n generalizing t with
  | zero => exact List.nil_prefix
  | succ n ih =>
    cases t with
    | nil => simp at h
    | cons d rest =>
      by_cases hd : d = c
      · rw [List.takeWhile_cons_of_pos (by simp [hd]), List.length_cons] at h
        rw [List.replicate_succ, hd]
        exact List.cons_prefix_cons.mpr ⟨rfl, ih (by omega)⟩
      · rw [List.takeWhile_cons_of_neg (by simp [hd])] at h
        simp at h

/-- A solution that is accepted solves a challenge that was not solved, and only that changes. -/
theorem Record.submit_eq_ok {record after : Record} {solution : Json}
    (h : record.submit solution = .ok after) :
    ∃ challenge, record.challenge = some challenge ∧ challenge.solved = false ∧
      challenge.SolvedBy solution ∧
      after = { record with challenge := some { challenge with solved := true } } := by
  unfold submit at h
  split at h
  · cases h
  · rename_i challenge hchallenge
    split at h
    · cases h
    · rename_i hunsolved
      split at h
      · rename_i t
        split at h
        · cases h
        · rename_i hlength
          simp only [Bool.or_eq_true, List.isEmpty_iff, decide_eq_true_eq, not_or,
            Nat.not_lt] at hlength
          split at h
          · cases h
          · cases h
          · rename_i hcheck
            refine ⟨challenge, hchallenge, by simpa using hunsolved,
              .text hlength.1 hlength.2 ?_, (Except.ok.inj h).symm⟩
            unfold Challenge.check at hcheck
            split at hcheck
            · cases hcheck
            · rename_i bytes hbytes
              split at hcheck
              · cases hcheck
              · have hmeets := Except.ok.inj hcheck
                simp only [Challenge.meets, decide_eq_true_eq] at hmeets
                exact ⟨bytes, hbytes, replicate_prefix_of_le_takeWhile hmeets⟩
      · cases h

/-! ## Deeds -/

/-- What a request has got done at the gate. -/
inductive Deed where
  /-- A new challenge was issued to a session. -/
  | issued (name : Text) (challenge : Challenge)
  /-- A solution was accepted from a session. -/
  | accepted (name : Text) (solution : Json)

/-- The session that a deed is about. -/
def Deed.name : Deed → Text
  | issued name _ => name
  | accepted name _ => name

namespace Gateway

open Handling

/-- What the outcome of a request tells of deeds: a challenge was issued if the page with it is given
out, and a solution was accepted if that is a success. -/
def deedOf (request : Request) (endpoint : Option Endpoint) (shown : Option Text) :
    Except Trouble Response × Visit → Option Deed
  | (.ok response, final) =>
    match endpoint with
    | some .challenge =>
      match response.content, final.session with
      | .page challenge, some name => some (.issued name challenge)
      | _, _ => none
    | some .verify =>
      match shown with
      | some name => if response.status = 200 then some (.accepted name request.solution) else none
      | none => none
    | _ => none
  | (.error _, _) => none

/-- The deed of a request, if there is one. -/
def deed? (gateway : Gateway) (request : Request) (visit : Visit) : Option Deed :=
  if isTunnelled gateway.tunnelPrefix request.target then none
  else deedOf request (gateway.endpoint? request) visit.session
    ((gateway.respond request).run.run visit)

/-- What a request that shows a name does to the sessions, by its deed. -/
inductive Effect (gateway : Gateway) (request : Request) (shown : Option Text) (s s' : Sessions) :
    Option Deed → Prop where
  /-- The sessions are tended at most. -/
  | tends (h : s.Tends s') : Effect gateway request shown s s' none
  /-- The visitor gives up its own session. -/
  | givesUp {name : Text} {mid : Sessions} (hshown : shown = some name)
      (hendpoint : gateway.endpoint? request = some .logout) (hfades : s.Fades mid)
      (hloses : mid.Loses name s') : Effect gateway request shown s s' none
  /-- A session that has not passed gets a new challenge. -/
  | issues {name : Text} {record : Record} {challenge : Challenge} {mid : Sessions}
      (hfinds : s.Finds name record mid) (hpassed : record.passed = false)
      (hfresh : challenge.solved = false) (hdifficulty : challenge.difficulty = gateway.difficulty)
      (hstores : mid.Stores name { record with challenge := some challenge } s') :
      Effect gateway request shown s s' (some (.issued name challenge))
  /-- A solution of the challenge of a session is accepted. -/
  | accepts {name : Text} {solution : Json} {record : Record} {challenge : Challenge} {mid : Sessions}
      (hfinds : s.Finds name record mid) (hchallenge : record.challenge = some challenge)
      (hunsolved : challenge.solved = false) (hsolved : challenge.SolvedBy solution)
      (hstores : mid.Stores name
        { record with challenge := some { challenge with solved := true } } s') :
      Effect gateway request shown s s' (some (.accepted name solution))

section Effects

variable {gateway : Gateway} {request : Request} {shown : Option Text} {s mid s' : Sessions}
  {deed : Option Deed}

/-- What was let go of before is let go of all the same. -/
theorem Effect.after_fades (h : s.Fades mid) (heffect : Effect gateway request shown mid s' deed) :
    Effect gateway request shown s s' deed := by
  cases heffect with
  | tends htends =>
    rcases htends with hfades | ⟨name, record, found, after, hfinds, hsame, hstores⟩
    · exact .tends (.inl (h.trans hfades))
    · exact .tends (.inr ⟨name, record, found, after, h.finds hfinds, hsame, hstores⟩)
  | givesUp hshown hendpoint hfades hloses =>
    exact .givesUp hshown hendpoint (h.trans hfades) hloses
  | issues hfinds hpassed hfresh hdifficulty hstores =>
    exact .issues (h.finds hfinds) hpassed hfresh hdifficulty hstores
  | accepts hfinds hchallenge hunsolved hsolved hstores =>
    exact .accepts (h.finds hfinds) hchallenge hunsolved hsolved hstores

/-- Sending a visitor back to the challenge is no deed. -/
theorem deedOf_redirect {endpoint : Option Endpoint} {location : Text} {final : Visit} :
    deedOf request endpoint shown (.ok (.redirect location), final) = none := by
  dsimp only [deedOf]
  split
  · rfl
  · split
    · exact if_neg (by simp [Response.redirect, Response.bare])
    · rfl
  · rfl

/-- Only at two endpoints are there deeds. -/
theorem deedOf_of_ne (endpoint : Endpoint) (hchallenge : endpoint ≠ .challenge)
    (hverify : endpoint ≠ .verify) (outcome : Except Trouble Response × Visit) :
    deedOf request (some endpoint) shown outcome = none := by
  obtain ⟨trouble | response, final⟩ := outcome
  · rfl
  · cases endpoint with
    | challenge => exact absurd rfl hchallenge
    | verify => exact absurd rfl hverify
    | logout => rfl
    | health => rfl
    | link => rfl
    | bundled => rfl
    | site => rfl

/-! ## The checkpoint -/

/-- A record that has passed keeps its challenge, and any other gets a new one. -/
theorem issueUnlessPassed_cases (difficulty : Int) (record : Record) (s : Sessions) :
    issueUnlessPassed difficulty record s = (.ok (none, record), s) ∨
      ∃ challenge secrets, record.passed = false ∧ challenge.solved = false ∧
        challenge.difficulty = difficulty ∧
        issueUnlessPassed difficulty record s =
          (.ok (some challenge, { record with challenge := some challenge }),
            { s with secrets := secrets }) := by
  unfold issueUnlessPassed
  cases hpassed : record.passed with
  | true => exact .inl rfl
  | false => exact .inr ⟨_, _, rfl, rfl, rfl, rfl⟩

theorem fades_issueUnlessPassed (difficulty : Int) (record : Record) (s : Sessions) :
    s.Fades (issueUnlessPassed difficulty record s).2 := by
  rcases issueUnlessPassed_cases difficulty record s with
    hkept | ⟨challenge, secrets, -, -, -, hissued⟩
  · rw [hkept]
    exact Sessions.Fades.refl s
  · rw [hissued]
    exact Sessions.fades_of_eq rfl rfl

theorem effect_challengePage (visit : Visit) (hsingle : visit.sessions.Single) :
    Effect gateway request shown visit.sessions
      (gateway.challengePage.run.run visit).2.sessions
      (deedOf request (some .challenge) shown (gateway.challengePage.run.run visit)) := by
  obtain ⟨hfades, hname⟩ := sessionName_run gateway.hasSecret visit
  unfold challengePage
  rcases hrun : (sessionName gateway.hasSecret).run.run visit with ⟨trouble | name, named⟩
  · rw [hrun] at hfades
    rw [run_bind_of_error hrun]
    exact .tends (.inl hfades)
  rw [hrun] at hfades hname
  have hsession : named.session = some name := hname name rfl
  rw [run_bind_of_ok hrun]
  refine Effect.after_fades hfades ?_
  rcases run_withRecord_cases (hfades.single hsingle)
    (fades_issueUnlessPassed gateway.difficulty) with
    ⟨trouble, last, hfailed, hlast⟩ |
      ⟨issued, record, found, after, worked, last, hdone, hfinds, hworked, hstores⟩
  · rw [run_bind_of_error hfailed]
    exact .tends (.inl hlast)
  rw [run_bind_of_ok hdone]
  rcases issueUnlessPassed_cases gateway.difficulty record found with
    hkept | ⟨challenge, secrets, hpassed, hfresh, hdifficulty, hissued⟩
  · rw [hkept] at hworked
    obtain ⟨hresult, rfl⟩ := Prod.mk.inj hworked
    obtain ⟨rfl, rfl⟩ := Prod.mk.inj (Except.ok.inj hresult)
    exact .tends (.inr ⟨name, record, found, record, hfinds, rfl, hstores⟩)
  · rw [hissued] at hworked
    obtain ⟨hresult, rfl⟩ := Prod.mk.inj hworked
    obtain ⟨rfl, rfl⟩ := Prod.mk.inj (Except.ok.inj hresult)
    have hdeed : deedOf request (some .challenge) shown
        (.ok { Response.bare 200 with content := .page challenge },
          { named with sessions := last }) = some (.issued name challenge) := by
      simp only [deedOf, hsession]
    have hdrawn : found.Fades { found with secrets := secrets } := Sessions.fades_of_eq rfl rfl
    have heffect : Effect gateway request shown named.sessions last
        (some (.issued name challenge)) :=
      .issues hfinds hpassed hfresh hdifficulty (hdrawn.stores hstores)
    rw [← hdeed] at heffect
    exact heffect

theorem fades_submitTo (solution : Json) (record : Record) (s : Sessions) :
    s.Fades (submitTo solution record s).2 :=
  Sessions.Fades.refl s

/-- A record is handed back by a solution that it accepts. -/
theorem submitTo_eq_ok {solution : Json} {record after : Record} {s s' : Sessions}
    (h : submitTo solution record s = (.ok ((), after), s')) :
    record.submit solution = .ok after ∧ s' = s := by
  obtain ⟨hresult, rfl⟩ := Prod.mk.inj h
  cases hsubmit : record.submit solution with
  | error fault =>
    rw [hsubmit] at hresult
    cases hresult
  | ok done =>
    rw [hsubmit] at hresult
    exact ⟨congrArg Except.ok (Prod.mk.inj (Except.ok.inj hresult)).2, rfl⟩

theorem effect_verify (visit : Visit) (hsingle : visit.sessions.Single) :
    Effect gateway request visit.session visit.sessions
      ((verify request).run.run visit).2.sessions
      (deedOf request (some .verify) visit.session ((verify request).run.run visit)) := by
  unfold verify
  rw [run_bind_of_ok (rfl : (get : Handling Visit).run.run visit = (.ok visit, visit))]
  cases hsession : visit.session with
  | none => exact .tends (.inl (Sessions.Fades.refl _))
  | some name =>
    rcases run_withRecord_cases hsingle (fades_submitTo request.solution) with
      ⟨trouble, last, hfailed, hlast⟩ |
        ⟨⟨⟩, record, found, after, worked, last, hdone, hfinds, hworked, hstores⟩
    · rw [run_bind_of_error hfailed]
      exact .tends (.inl hlast)
    rw [run_bind_of_ok hdone]
    obtain ⟨hsubmit, rfl⟩ := submitTo_eq_ok hworked
    obtain ⟨challenge, hchallenge, hunsolved, hsolved, rfl⟩ := Record.submit_eq_ok hsubmit
    exact .accepts hfinds hchallenge hunsolved hsolved hstores

/-- Work on the sessions: what is kept under a name is deleted. -/
def forget (name : Text) : Keeping Trouble Unit := fun s =>
  ((Sessions.delete name s).1.mapError .session, (Sessions.delete name s).2)

/-- What is left to do when nothing is kept any more. -/
def parting (gateway : Gateway) (visit : Visit) : Except Trouble Response × Visit :=
  if gateway.hasSecret then (.ok .success, { visit with session := none })
  else (.error .noSecret, visit)

theorem logout_of_none {visit : Visit} (h : visit.session = none) :
    gateway.logout.run.run visit = gateway.parting visit := by
  unfold logout parting
  rw [run_bind_of_ok (rfl : (get : Handling Visit).run.run visit = (.ok visit, visit)), h]
  cases gateway.hasSecret <;> rfl

theorem logout_of_some {visit : Visit} {name : Text} (h : visit.session = some name) :
    gateway.logout.run.run visit =
      match Sessions.delete name visit.sessions with
      | (.error fault, s) => (.error (.session fault), { visit with sessions := s })
      | (.ok (), s) => gateway.parting { visit with sessions := s } := by
  obtain ⟨s, shown, twister⟩ := visit
  obtain rfl : shown = some name := h
  have hkeep := run_keep (forget name) ⟨s, some name, twister⟩
  change (keep (forget name) >>= _).run.run _ = _
  rcases hdone : Sessions.delete name s with ⟨fault | done, last⟩
  · simp only [forget, hdone] at hkeep
    rw [run_bind_of_error hkeep]
  · simp only [forget, hdone] at hkeep
    rw [run_bind_of_ok hkeep]
    unfold parting
    cases gateway.hasSecret <;> rfl

theorem parting_sessions (gateway : Gateway) (visit : Visit) :
    (gateway.parting visit).2.sessions = visit.sessions := by
  unfold parting
  split <;> rfl

/-- Giving up a session deletes what is kept of it, whatever comes of the rest. -/
theorem logout_sessions (gateway : Gateway) (visit : Visit) :
    (gateway.logout.run.run visit).2.sessions = visit.sessions ∨
      ∃ name, visit.session = some name ∧
        (gateway.logout.run.run visit).2.sessions = (Sessions.delete name visit.sessions).2 := by
  cases hsession : visit.session with
  | none =>
    rw [logout_of_none hsession]
    exact .inl (parting_sessions gateway visit)
  | some name =>
    refine .inr ⟨name, rfl, ?_⟩
    rw [logout_of_some hsession]
    rcases Sessions.delete name visit.sessions with ⟨fault | done, s⟩
    · rfl
    · exact parting_sessions gateway { visit with sessions := s }

/-! ## Requests -/

/-- What an endpoint does to the sessions. -/
theorem effect_handle {endpoint : Endpoint} (hendpoint : gateway.endpoint? request = some endpoint)
    (visit : Visit) (hsingle : visit.sessions.Single) :
    Effect gateway request visit.session visit.sessions
      ((gateway.handle request endpoint).run.run visit).2.sessions
      (deedOf request (some endpoint) visit.session
        ((gateway.handle request endpoint).run.run visit)) := by
  cases endpoint with
  | challenge => exact effect_challengePage visit hsingle
  | verify => exact effect_verify visit hsingle
  | logout =>
    rw [deedOf_of_ne .logout nofun nofun]
    rcases logout_sessions gateway visit with hsame | ⟨name, hshown, hdeleted⟩
    · refine .tends (.inl ?_)
      rw [handle, hsame]
      exact Sessions.Fades.refl _
    · refine .givesUp hshown hendpoint (Sessions.Fades.refl _) ?_
      rw [handle, hdeleted]
      exact Sessions.loses_delete name visit.sessions
  | health =>
    rw [deedOf_of_ne .health nofun nofun]
    exact .tends (.inl (Sessions.Fades.refl _))
  | link =>
    rw [deedOf_of_ne .link nofun nofun]
    exact .tends (tends_serveLink request.path visit hsingle)
  | bundled =>
    rw [deedOf_of_ne .bundled nofun nofun]
    refine .tends (.inl ?_)
    unfold handle bundled
    dsimp only
    split <;> exact Sessions.Fades.refl _
  | site =>
    rw [deedOf_of_ne .site nofun nofun]
    exact .tends (tends_serve request.path visit hsingle)

theorem effect_dispatch (visit : Visit) (hsingle : visit.sessions.Single) :
    Effect gateway request visit.session visit.sessions
      ((gateway.dispatch request).run.run visit).2.sessions
      (deedOf request (gateway.endpoint? request) visit.session
        ((gateway.dispatch request).run.run visit)) := by
  cases hendpoint : gateway.endpoint? request with
  | some endpoint =>
    rw [dispatch_of_endpoint hendpoint]
    exact effect_handle hendpoint visit hsingle
  | none =>
    rcases dispatch_of_no_endpoint hendpoint with hmissing | ⟨status, methods, htold⟩
    · rw [hmissing]
      exact .tends (.inl (Sessions.Fades.refl _))
    · rw [htold]
      exact .tends (.inl (Sessions.Fades.refl _))

theorem effect_respond (gateway : Gateway) (request : Request) (visit : Visit)
    (hsingle : visit.sessions.Single) :
    Effect gateway request visit.session visit.sessions
      ((gateway.respond request).run.run visit).2.sessions
      (deedOf request (gateway.endpoint? request) visit.session
        ((gateway.respond request).run.run visit)) := by
  obtain ⟨hfades, hsession⟩ := idles_admits gateway request visit
  rcases hadmits : (gateway.admits request).run.run visit with ⟨trouble | admitted, mid⟩
  · rw [hadmits] at hfades
    rw [respond_of_trouble hadmits]
    exact .tends (.inl hfades)
  rw [hadmits] at hfades hsession
  cases admitted with
  | false =>
    rw [respond_of_not_admitted hadmits, deedOf_redirect]
    exact .tends (.inl hfades)
  | true =>
    rw [respond_of_admitted hadmits]
    refine Effect.after_fades hfades ?_
    rw [← (hsession : mid.session = visit.session)]
    exact effect_dispatch mid (hfades.single hsingle)

/-- Whatever a request is, what it does to the sessions is told by its deed. -/
theorem effect_answer (gateway : Gateway) (request : Request) (visit : Visit)
    (hsingle : visit.sessions.Single) :
    Effect gateway request visit.session visit.sessions
      (gateway.answer request visit).2.sessions (gateway.deed? request visit) := by
  cases htunnel : isTunnelled gateway.tunnelPrefix request.target with
  | true =>
    rw [visit_of_tunnelled htunnel, deed?, if_pos htunnel]
    exact .tends (.inl (Sessions.Fades.refl _))
  | false =>
    rw [visit_of_not_tunnelled htunnel, deed?, htunnel]
    exact effect_respond gateway request visit hsingle

end Effects

end Gateway

end VeiledGateway
