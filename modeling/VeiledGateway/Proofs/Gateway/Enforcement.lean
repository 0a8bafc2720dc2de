/-
  Enforcement: what a visitor is answered who has not passed the gate.

  A request is guarded if the part of the gateway that looks for files does not run, its answer is
  the same whatever files there are, and it is sent to the challenge unless it is for the gate
  itself.  The gate tells by the path alone what is open, and the routes tell by the path and the
  method where a request goes, so a request with an open path may still be for the site.
-/
import VeiledGateway.Proofs.Gateway.Handling
import VeiledGateway.Proofs.Gateway.Run
import VeiledGateway.Proofs.Text.Prefix

set_option autoImplicit false

namespace VeiledGateway

/-- The endpoints that look for files of the site. -/
def Endpoint.servesSite : Endpoint → Bool
  | .link | .site => true
  | _ => false

/-- A path of the gate itself. -/
def Admission.IsOwn (path : Text) : Prop :=
  path ∈ Admission.openPaths ∨ Text.startsWith path Page.folder = true

namespace Gateway

open Handling

variable {gateway : Gateway} {request : Request} {visit : Visit}

/-- A request is for files of the site. -/
def ReachesSite (gateway : Gateway) (request : Request) : Prop :=
  ∃ endpoint, gateway.endpoint? request = some endpoint ∧ endpoint.servesSite = true

/-- Files of the site are looked for to answer a request. -/
def Serves (gateway : Gateway) (request : Request) (visit : Visit) : Prop :=
  isTunnelled gateway.tunnelPrefix request.target = false ∧
    ((gateway.admits request).run.run visit).1 = .ok true ∧ gateway.ReachesSite request

/-- The visitor is no crawler that is allowed, and its session, if any, has not passed. -/
structure Unpassed (gateway : Gateway) (request : Request) (visit : Visit) : Prop where
  agent : Crawler.isAllowed request.agent gateway.crawlers ≠ .ok true
  record : ∀ record, (record?.run.run visit).1 = .ok (some record) → record.passed = false

/-- The response that sends a visitor to the challenge. -/
def sendBack (request : Request) : Response :=
  (Response.redirect Admission.challengePath).forMethod request.method

/-- The gate stands between a request and the site. -/
structure Guarded (gateway : Gateway) (request : Request) (visit : Visit) : Prop where
  quiet : ¬ gateway.Serves request visit
  blind : ∀ assets, { gateway with assets := assets }.answer request visit
    = gateway.answer request visit
  /-- Whoever is not answered by the tunnel or the gate itself is sent to the challenge, unless the
  gate cannot tell who it is. -/
  sentBack : isTunnelled gateway.tunnelPrefix request.target = true ∨
    Admission.IsOwn request.path ∨ (gateway.answer request visit).1 = sendBack request ∨
    ∃ trouble, ((gateway.admits request).run.run visit).1 = .error trouble ∧
      (gateway.answer request visit).1 = trouble.response.forMethod request.method

/-! ## Letting in -/

/-- The paths of the gate itself are open. -/
theorem isOpen_of_isOwn {path : Text} (h : Admission.IsOwn path) :
    Admission.isOpen path = true := by
  unfold Admission.isOpen
  rcases h with h | h
  · simp [h]
  · have hfolder : Admission.openLead <+: Page.folder := by decide
    have hlead : Text.startsWith path Admission.openLead = true :=
      Text.startsWith_iff.mpr (hfolder.trans (Text.startsWith_iff.mp h))
    simp [hlead]

/-- Who has not passed is not let in where the path is not open. -/
theorem admits_of_unpassed (hopen : Admission.isOpen request.path = false)
    (hunpassed : gateway.Unpassed request visit) :
    ((gateway.admits request).run.run visit).1 ≠ .ok true := by
  intro hadmits
  rcases hrun : (gateway.admits request).run.run visit with ⟨outcome, final⟩
  rw [hrun] at hadmits
  obtain rfl : outcome = .ok true := hadmits
  unfold admits at hrun
  rw [if_neg (by simp [hopen])] at hrun
  rcases run_bind_cases hrun with ⟨trouble, -, htrouble⟩ | ⟨allowed, mid, hallowed, hrun⟩
  · cases htrouble
  · rw [run_orTrouble] at hallowed
    obtain ⟨hagent, rfl⟩ := Prod.mk.inj hallowed
    cases hisAllowed : Crawler.isAllowed request.agent gateway.crawlers with
    | error bad => rw [hisAllowed] at hagent; cases hagent
    | ok flag =>
      cases flag with
      | true => exact hunpassed.agent hisAllowed
      | false =>
        rw [hisAllowed] at hagent
        obtain rfl : false = allowed := Except.ok.inj hagent
        rcases run_bind_cases hrun with ⟨trouble, -, htrouble⟩ | ⟨record, last, hrecord, hrun⟩
        · cases htrouble
        · have hpassed := (Prod.mk.inj hrun).1
          cases record with
          | none => cases hpassed
          | some record =>
            have hnot := hunpassed.record record (by rw [hrecord])
            simp only [hnot] at hpassed
            cases hpassed

/-! ## What the answers depend on -/

/-- The gate itself answers alike whatever files there are. -/
theorem handle_congr_assets {endpoint : Endpoint} (h : endpoint.servesSite = false)
    (assets : Assets) :
    { gateway with assets := assets }.handle request endpoint = gateway.handle request endpoint := by
  cases endpoint with
  | challenge => rfl
  | verify => rfl
  | logout => rfl
  | health => rfl
  | bundled => rfl
  | link => cases h
  | site => cases h

theorem dispatch_congr_assets (h : ¬ gateway.ReachesSite request) (assets : Assets) :
    { gateway with assets := assets }.dispatch request = gateway.dispatch request := by
  unfold dispatch
  rcases hroute : Route.find gateway.rules request.method request.path with endpoint | _ | _
  · by_cases hmethod : request.method.eqString "OPTIONS" = true
    · simp only [hmethod, if_true]
    · have hendpoint : gateway.endpoint? request = some endpoint := by
        rw [endpoint?, hroute]
        exact if_neg hmethod
      have hserves : endpoint.servesSite = false := by
        rw [← Bool.not_eq_true]
        exact fun hserves => h ⟨endpoint, hendpoint, hserves⟩
      simp only [hmethod]
      exact handle_congr_assets hserves assets
  · rfl
  · rfl

/-- An answer for which no files are looked for is the same whatever files there are. -/
theorem answer_congr_assets (h : ¬ gateway.Serves request visit) (assets : Assets) :
    { gateway with assets := assets }.answer request visit = gateway.answer request visit := by
  cases htunnel : isTunnelled gateway.tunnelPrefix request.target with
  | true =>
    rw [answer_of_tunnelled htunnel, answer_of_tunnelled]
    · rfl
    · exact htunnel
  | false =>
    have hrespond : ({ gateway with assets := assets }.respond request).run.run visit
        = (gateway.respond request).run.run visit := by
      rcases hadmits : (gateway.admits request).run.run visit with ⟨trouble | admitted, mid⟩
      · rw [respond_of_trouble hadmits]
        exact respond_of_trouble hadmits
      · cases admitted with
        | false =>
          rw [respond_of_not_admitted hadmits]
          exact respond_of_not_admitted hadmits
        | true =>
          have hreach : ¬ gateway.ReachesSite request :=
            fun hreach => h ⟨htunnel, by rw [hadmits], hreach⟩
          rw [respond_of_admitted hadmits, ← dispatch_congr_assets hreach assets]
          exact respond_of_admitted hadmits
    rcases hrun : (gateway.respond request).run.run visit with ⟨trouble | response, final⟩
    · rw [answer_of_trouble htunnel hrun]
      exact answer_of_trouble htunnel (hrespond.trans hrun)
    · rw [answer_of_response htunnel hrun]
      exact answer_of_response htunnel (hrespond.trans hrun)

/-! ## Where visitors are sent -/

theorem location_forMethod (response : Response) (method : Text) :
    (response.forMethod method).location = response.location := by
  unfold Response.forMethod
  split <;> rfl

/-- Trouble sends nobody elsewhere. -/
theorem location_response (trouble : Trouble) : trouble.response.location = none := by
  unfold Trouble.response
  split <;> rfl

/-- The gate itself sends nobody to the challenge. -/
theorem location_handle {endpoint : Endpoint} {response : Response} {final : Visit}
    (hserves : endpoint.servesSite = false)
    (h : (gateway.handle request endpoint).run.run visit = (.ok response, final)) :
    response.location ≠ some Admission.challengePath := by
  cases endpoint with
  | link => cases hserves
  | site => cases hserves
  | health =>
    rw [← Except.ok.inj (Prod.mk.inj h).1]
    exact nofun
  | bundled =>
    rw [bundled_eq_ok h]
    exact nofun
  | challenge =>
    obtain ⟨name, mid, issued, -, -, rfl⟩ := challengePage_eq_ok h
    cases issued with
    | none => decide
    | some challenge => exact nofun
  | verify =>
    obtain ⟨name, -, -, rfl⟩ := verify_eq_ok h
    exact nofun
  | logout =>
    rw [logout_eq_ok h]
    exact nofun

/-- Who is let in, and not to the site, is not sent to the challenge. -/
theorem location_dispatch {response : Response} {final : Visit}
    (hreach : ¬ gateway.ReachesSite request)
    (h : (gateway.dispatch request).run.run visit = (.ok response, final)) :
    response.location ≠ some Admission.challengePath := by
  cases hendpoint : gateway.endpoint? request with
  | none =>
    rcases dispatch_of_no_endpoint hendpoint with hdispatch | ⟨status, methods, hdispatch⟩
    · rw [hdispatch] at h
      cases (Prod.mk.inj h).1
    · rw [hdispatch] at h
      rw [← Except.ok.inj (Prod.mk.inj h).1]
      exact nofun
  | some endpoint =>
    rw [dispatch_of_endpoint hendpoint] at h
    refine location_handle ?_ h
    rw [← Bool.not_eq_true]
    exact fun hserves => hreach ⟨endpoint, hendpoint, hserves⟩

/-- With an open path, nobody is sent to the challenge. -/
theorem answer_ne_sendBack (htunnel : isTunnelled gateway.tunnelPrefix request.target = false)
    (hopen : Admission.isOpen request.path = true) (hreach : ¬ gateway.ReachesSite request) :
    (gateway.answer request visit).1 ≠ sendBack request := by
  have hadmits := admits_of_isOpen gateway hopen visit
  have hlocation : (gateway.answer request visit).1.location ≠ some Admission.challengePath := by
    rcases hrun : (gateway.dispatch request).run.run visit with ⟨trouble | response, final⟩
    · rw [answer_of_trouble htunnel ((respond_of_admitted hadmits).trans hrun),
        location_forMethod, location_response]
      exact nofun
    · rw [answer_of_response htunnel ((respond_of_admitted hadmits).trans hrun),
        location_forMethod]
      exact location_dispatch hreach hrun
  intro hback
  rw [hback, sendBack, location_forMethod] at hlocation
  exact hlocation rfl

/-! ## The gate -/

/-- A request of a visitor who has not passed is guarded unless its path is open, and it is for the
site or its path is none of the gate itself. -/
theorem guarded_iff (hunpassed : gateway.Unpassed request visit) :
    gateway.Guarded request visit ↔
      isTunnelled gateway.tunnelPrefix request.target = true ∨
      Admission.isOpen request.path = false ∨
      Admission.IsOwn request.path ∧ ¬ gateway.ReachesSite request := by
  cases htunnel : isTunnelled gateway.tunnelPrefix request.target with
  | true =>
    have hquiet : ¬ gateway.Serves request visit := fun hserves => by
      rw [hserves.1] at htunnel
      cases htunnel
    exact iff_of_true ⟨hquiet, answer_congr_assets hquiet, .inl htunnel⟩ (.inl rfl)
  | false =>
    cases hopen : Admission.isOpen request.path with
    | false =>
      have hadmits := admits_of_unpassed hopen hunpassed
      have hquiet : ¬ gateway.Serves request visit := fun hserves => hadmits hserves.2.1
      refine iff_of_true ⟨hquiet, answer_congr_assets hquiet, .inr (.inr ?_)⟩ (.inr (.inl rfl))
      rcases hrun : (gateway.admits request).run.run visit with ⟨trouble | admitted, mid⟩
      · refine .inr ⟨trouble, rfl, ?_⟩
        rw [answer_of_trouble htunnel (respond_of_trouble hrun)]
      · cases admitted with
        | true => exact absurd (by rw [hrun]) hadmits
        | false =>
          refine .inl ?_
          rw [answer_of_response htunnel (respond_of_not_admitted hrun)]
          rfl
    | true =>
      simp only [Bool.false_eq_true, Bool.true_eq_false, false_or]
      have hadmits := congrArg Prod.fst (admits_of_isOpen gateway hopen visit)
      constructor
      · intro hguarded
        have hreach : ¬ gateway.ReachesSite request :=
          fun hreach => hguarded.quiet ⟨htunnel, hadmits, hreach⟩
        rcases hguarded.sentBack with htunnelled | hown | hback | ⟨trouble, htrouble, -⟩
        · rw [htunnel] at htunnelled
          cases htunnelled
        · exact ⟨hown, hreach⟩
        · exact absurd hback (answer_ne_sendBack htunnel hopen hreach)
        · rw [hadmits] at htrouble
          cases htrouble
      · rintro ⟨hown, hreach⟩
        have hquiet : ¬ gateway.Serves request visit := fun hserves => hreach hserves.2.2
        exact ⟨hquiet, answer_congr_assets hquiet, .inr (.inl hown)⟩

/-- After any run, whatever name a visitor shows who has not passed, its request is guarded unless
its path is open, and it is for the site or its path is none of the gate itself. -/
theorem run_guarded_iff {sessions : Sessions} {events : List Event} {shown : Option Text}
    {seed : Int}
    (hunpassed : gateway.Unpassed request (visitOf (gateway.run sessions events) shown seed)) :
    gateway.Guarded request (visitOf (gateway.run sessions events) shown seed) ↔
      isTunnelled gateway.tunnelPrefix request.target = true ∨
      Admission.isOpen request.path = false ∨
      Admission.IsOwn request.path ∧ ¬ gateway.ReachesSite request :=
  guarded_iff hunpassed

/-- A gateway for a site with a file whose path is open, and another file. -/
def openSite : Gateway :=
  { plainGateway with
    assets := {
      disk :=
        { entries := [
            ([("site" : Text), "challenge", "notes.txt"], .file [110]),
            ([("site" : Text), "notes.txt"], .file [111])]
          home := [] }
      roots := [[("site" : Text)]] } }

/-- Who shows no name and no agent has not passed. -/
theorem getRequest_unpassed (path : Text) (sessions : Sessions) (seed : Int) :
    openSite.Unpassed (getRequest path) (visitOf sessions none seed) where
  agent := by
    intro h
    cases h
  record := by
    intro record h
    cases h

/-- A file of the site whose path is open is sent to a visitor who has not passed. -/
theorem open_path_not_guarded :
    openSite.Unpassed (getRequest "/challenge/notes.txt") (visitOf noSessions none 0) ∧
    (openSite.answer (getRequest "/challenge/notes.txt") (visitOf noSessions none 0)).1.content
      = .file [110] ∧
    ¬ openSite.Guarded (getRequest "/challenge/notes.txt") (visitOf noSessions none 0) := by
  have hunpassed := getRequest_unpassed "/challenge/notes.txt" noSessions 0
  refine ⟨hunpassed, rfl, fun hguarded => ?_⟩
  rcases (guarded_iff hunpassed).mp hguarded with h | h | ⟨-, h⟩
  · exact absurd h (by decide)
  · exact absurd h (by decide)
  · exact h ⟨.site, by decide, rfl⟩

/-- A request for the other file is guarded, also after a request for the challenge. -/
theorem other_path_guarded :
    openSite.Guarded (getRequest "/notes.txt")
      (visitOf (openSite.run noSessions [.ask (getRequest "/challenge") none 0]) none 0) :=
  (run_guarded_iff (getRequest_unpassed _ _ _)).mpr (.inr (.inl (by decide)))

end Gateway

end VeiledGateway
