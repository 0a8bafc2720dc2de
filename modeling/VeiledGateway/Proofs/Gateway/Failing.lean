/-
  Failing: requests whose work on the record of a session comes to nothing.

  A document may not be rewritten, at whatever point of it that shows, and a solution may not be
  accepted.  Either way the record that was worked on is given up as it is: what is kept of the
  session is what was kept before, and the response has no part of what was made.
-/
import VeiledGateway.Proofs.Gateway.Arriving
import VeiledGateway.Proofs.Outcome

set_option autoImplicit false

namespace VeiledGateway

/-- What comes to nothing. -/
inductive Mishap where
  /-- A document of this media type and with this source cannot be rewritten. -/
  | document (mediaType source : Text)
  /-- A solution is not accepted. -/
  | solution (fault : GateFault)

namespace Gateway

open Handling

variable {gateway : Gateway} {request : Request} {visit mid named : Visit}
  {name base mediaType source : Text} {record : Record} {loaded : Sessions}

/-- The response that is due where the work of a request comes to nothing: a document is sent as it
is, if that is the policy, and all else is a failure. -/
def responseTo (gateway : Gateway) : Mishap → Response
  | .document mediaType source =>
    if gateway.passesThrough then { Response.bare 200 with mediaType, content := .source source }
    else .failure 500 Trouble.documentMessage
  | .solution fault => (Trouble.gate fault).response

/-- The work of a request under the lock of a session comes to nothing. -/
inductive Fails (gateway : Gateway) (request : Request) (visit : Visit) (name : Text) :
    Mishap → Prop where
  /-- The request comes to a document, and rewriting it for the record of the session fails. -/
  | document {arrived mid named : Visit} {base mediaType source : Text} {record : Record}
      {loaded : Sessions} {fault : Fault}
      (htunnel : isTunnelled gateway.tunnelPrefix request.target = false)
      (hadmits : (gateway.admits request).run.run visit = (.ok true, arrived))
      (hcomes : gateway.ComesTo request arrived base mediaType source mid)
      (hname : (sessionName gateway.hasSecret).run.run mid = (.ok name, named))
      (hopens : named.sessions.Opens name record loaded)
      (hfails : (Pipeline.run ⟨gateway.settings, some gateway.assets, base⟩ (some mediaType) source
        (record.context named.twister)).1 = .error fault) :
      gateway.Fails request visit name (.document mediaType source)
  /-- The request hands in a solution, and the record of the session does not accept it. -/
  | solution {arrived : Visit} {record : Record} {loaded : Sessions} {fault : GateFault}
      (htunnel : isTunnelled gateway.tunnelPrefix request.target = false)
      (hadmits : (gateway.admits request).run.run visit = (.ok true, arrived))
      (hendpoint : gateway.endpoint? request = some .verify)
      (hshown : arrived.session = some name)
      (hopens : arrived.sessions.Opens name record loaded)
      (hfails : record.submit request.solution = .error fault) :
      gateway.Fails request visit name (.solution fault)

/-! ## Work -/

theorem rewriteFor_of_fault {view : View} {fault : Fault} {twister : Twister}
    (h : (Pipeline.run view (some mediaType) source (record.context twister)).1 = .error fault)
    (s : Sessions) :
    rewriteFor view mediaType source twister record s = (.error (.document fault), s) := by
  unfold rewriteFor
  split
  · rename_i hrun
    rw [hrun] at h
    cases h
  · rename_i hrun
    rw [hrun] at h
    rw [Except.error.inj h]

theorem run_withRecord_of_failure {α : Type} {work : Record → Keeping Trouble (α × Record)}
    {trouble : Trouble} (hopens : visit.sessions.Opens name record loaded)
    (hwork : work record loaded = (.error trouble, loaded)) :
    ∃ left, (withRecord name work).run.run visit =
        (.error trouble, { visit with sessions := left }) ∧
      visit.sessions.Untouched left name := by
  obtain ⟨left, hrun, huntouched⟩ : ∃ left,
      Sessions.withRecord name .session work visit.sessions = (.error trouble, left) ∧
        visit.sessions.Untouched left name := Sessions.untouched_withRecord hopens hwork
  refine ⟨left, ?_, huntouched⟩
  rw [withRecord, run_keep, hrun]

/-- A document that cannot be rewritten is sent as it is, or it is a trouble. -/
theorem document_of_fault {fault : Fault}
    (hname : (sessionName gateway.hasSecret).run.run mid = (.ok name, named))
    (hopens : named.sessions.Opens name record loaded)
    (hfails : (Pipeline.run ⟨gateway.settings, some gateway.assets, base⟩ (some mediaType) source
      (record.context named.twister)).1 = .error fault) :
    ∃ left, named.sessions.Untouched left name ∧
      (gateway.document base mediaType source).run.run mid =
        (if gateway.passesThrough then .ok (gateway.responseTo (.document mediaType source))
          else .error (.document fault), { named with sessions := left }) := by
  obtain ⟨left, hrun, huntouched⟩ :=
    run_withRecord_of_failure hopens (rewriteFor_of_fault hfails loaded)
  refine ⟨left, huntouched, ?_⟩
  rw [document, run_bind_of_ok hname]
  dsimp only
  rw [run_bind_of_ok (rfl : (get : Handling Visit).run.run named = (.ok named, named)),
    run_tryCatch_of_error (run_bind_of_error hrun)]
  cases hpolicy : gateway.passesThrough with
  | true =>
    rw [responseTo, hpolicy]
    rfl
  | false => rfl

theorem verify_of_trouble {trouble : Trouble} {final : Visit} (hshown : visit.session = some name)
    (hrun : (withRecord name (submitTo request.solution)).run.run visit = (.error trouble, final)) :
    (verify request).run.run visit = (.error trouble, final) := by
  rw [verify, run_bind_of_ok (rfl : (get : Handling Visit).run.run visit = (.ok visit, visit)), hshown]
  exact run_bind_of_error hrun

/-! ## Requests -/

theorem answer_of_document_fault (gateway : Gateway) {fault : Fault} {final : Visit}
    (htunnel : isTunnelled gateway.tunnelPrefix request.target = false)
    (hrespond : (gateway.respond request).run.run visit =
      (if gateway.passesThrough then .ok (gateway.responseTo (.document mediaType source))
        else .error (.document fault), final)) :
    gateway.answer request visit =
      ((gateway.responseTo (.document mediaType source)).forMethod request.method, final) := by
  cases hpolicy : gateway.passesThrough with
  | true =>
    rw [hpolicy] at hrespond
    exact answer_of_response htunnel hrespond
  | false =>
    rw [hpolicy] at hrespond
    rw [answer_of_trouble htunnel hrespond, responseTo, hpolicy]
    rfl

/-- Nothing that is due after a mishap has any part of a rewritten document. -/
theorem responseTo_ne_rewritten (gateway : Gateway) (mishap : Mishap) (method t : Text) :
    ((gateway.responseTo mishap).forMethod method).content ≠ .rewritten t := by
  unfold Response.forMethod
  split
  · exact nofun
  · cases mishap with
    | document mediaType source =>
      rw [responseTo]
      split <;> exact nofun
    | solution fault =>
      cases fault <;> exact nofun

/-- Where the work of a request comes to nothing, what is kept of the session is the same text with
the same time, unless that had run out; what is kept of all others is the same; the lock is gone; and
the response is the one that is due, and no part of a rewritten document. -/
theorem answer_of_fails {mishap : Mishap} (h : gateway.Fails request visit name mishap) :
    visit.sessions.Untouched (gateway.answer request visit).2.sessions name ∧
      (gateway.answer request visit).1 =
        (gateway.responseTo mishap).forMethod request.method ∧
      ∀ t, (gateway.answer request visit).1.content ≠ .rewritten t := by
  suffices hboth : visit.sessions.Untouched (gateway.answer request visit).2.sessions name ∧
      (gateway.answer request visit).1 = (gateway.responseTo mishap).forMethod request.method by
    refine ⟨hboth.1, hboth.2, fun t => ?_⟩
    rw [hboth.2]
    exact responseTo_ne_rewritten gateway mishap request.method t
  have hadmitted := spares_admits gateway request visit
  cases h with
  | @document arrived mid named base mediaType source record loaded fault htunnel hadmits hcomes
      hname hopens hfails =>
    rw [hadmits] at hadmitted
    have hmid : visit.Spares mid := hadmitted.trans hcomes.spares
    obtain ⟨hshown, -, hnamed⟩ := sessionName_eq_ok hname
    obtain ⟨left, huntouched, hrun⟩ := document_of_fault hname hopens hfails
    rw [← respond_of_comesTo hadmits hcomes] at hrun
    rw [answer_of_document_fault gateway htunnel hrun]
    refine ⟨((hmid.sessions name fun shown h => ?_).trans hnamed).untouched huntouched, rfl⟩
    exact hshown shown (hmid.session.trans h)
  | @solution arrived record loaded fault htunnel hadmits hendpoint hshown hopens hfails =>
    rw [hadmits] at hadmitted
    have hwork : submitTo request.solution record loaded = (.error (.gate fault), loaded) := by
      rw [submitTo, hfails]
      rfl
    obtain ⟨left, hrun, huntouched⟩ := run_withRecord_of_failure hopens hwork
    have hrespond : (gateway.respond request).run.run visit =
        (.error (.gate fault), { arrived with sessions := left }) := by
      rw [respond_of_admitted hadmits, dispatch_of_endpoint hendpoint]
      exact verify_of_trouble hshown hrun
    rw [answer_of_trouble htunnel hrespond]
    refine ⟨(hadmitted.sessions name fun shown h => ?_).untouched huntouched, rfl⟩
    exact Option.some.inj ((hadmitted.session.trans h).symm.trans hshown)

/-- Sessions of which one has passed, and the time of another has run out. -/
def twoSessions : Sessions :=
  { noSessions with
    store := .memory { MemoryStore.start 60 60 0 with
      entries := [
        ("sid-1", ⟨"\x7b\"sessionKey\":\"k\",\"challenge\":\x7b\"nonce\":\"n\",\"solved\":true\x7d\x7d", 60⟩),
        ("sid-2", ⟨"\x7b\x7d", 5⟩)] }
    now := 10 }

/-- A script that ends too early is sent as it is, and the record of the session stays. -/
theorem broken_script_untouched :
    let visit := visitOf twoSessions (some "sid-1") 0
    let gateway := scriptGateway "function ("
    gateway.Fails (getRequest "/a.js") visit "sid-1" (.document "application/javascript" "function (") ∧
    visit.sessions.Untouched (gateway.answer (getRequest "/a.js") visit).2.sessions "sid-1" ∧
      (gateway.answer (getRequest "/a.js") visit).1.content = .source "function (" := by
  intro visit gateway
  have hfails : gateway.Fails (getRequest "/a.js") visit "sid-1"
      (.document "application/javascript" "function (") := by
    have hplace : gateway.assets.locate "/a.js" = .ok (some [("site" : Text), "a.js"]) := rfl
    have hbytes : gateway.assets.disk.read? [("site" : Text), "a.js"] =
        .ok (some (Utf8.encodeLossy "function (")) := rfl
    have htype : Site.mediaType "a.js" = "application/javascript" := by decide +kernel
    have htext : Site.text (Utf8.encodeLossy "function (") = "function (" := by decide +kernel
    have hleads : gateway.LeadsTo "/a.js" "/a.js" "application/javascript" "function (" := by
      have hdocument := LeadsTo.document hplace hbytes (by decide +kernel)
      rwa [show Site.mediaType ([("site" : Text), "a.js"].getLast?.getD []) = _ from htype,
        show Site.text ((some (Utf8.encodeLossy "function (")).getD []) = _ from htext] at hdocument
    -- The visits on the way are named by how they come about; each check is run on what they are.
    obtain ⟨arrived, harrived⟩ : ∃ arrived,
        arrived = ((gateway.admits (getRequest "/a.js")).run.run visit).2 := ⟨_, rfl⟩
    obtain ⟨named, hnamed⟩ : ∃ named,
        named = ((sessionName gateway.hasSecret).run.run arrived).2 := ⟨_, rfl⟩
    have hadmits : (gateway.admits (getRequest "/a.js")).run.run visit = (.ok true, arrived) := by
      rw [harrived]
      exact Outcome.eq_pair_of_toOption (by decide +kernel)
    have hname : (sessionName gateway.hasSecret).run.run arrived = (.ok "sid-1", named) := by
      rw [hnamed, harrived]
      exact Outcome.eq_pair_of_toOption (by decide +kernel)
    obtain ⟨loaded, hopens⟩ : ∃ loaded, named.sessions.Opens "sid-1"
        ⟨"k", some ⟨"n", 4, true⟩, Mappings.empty⟩ loaded := by
      refine ⟨_, Sessions.opens_of_ok ?_ ?_⟩ <;> rw [hnamed, harrived] <;>
        exact Outcome.eq_ok_of_toOption (by decide +kernel)
    obtain ⟨fault, hfails⟩ : ∃ fault, (Pipeline.run ⟨gateway.settings, some gateway.assets, "/a.js"⟩
        (some "application/javascript") "function ("
        (Record.context ⟨"k", some ⟨"n", 4, true⟩, Mappings.empty⟩ named.twister)).1 = .error fault := by
      rw [hnamed, harrived]
      exact Outcome.exists_error_of_toOption (by decide +kernel)
    exact .document (by decide +kernel) hadmits (.site (by decide +kernel) hleads) hname hopens hfails
  obtain ⟨huntouched, hresponse, -⟩ := answer_of_fails hfails
  refine ⟨hfails, huntouched, ?_⟩
  rw [hresponse]
  rfl

end Gateway

end VeiledGateway
