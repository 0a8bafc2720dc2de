/-
  Persisting: what is found again of the record that a document was rewritten for.

  Whatever has been asked before, the record can be written, so it is stored if the store can be
  reached.  It is kept until its time has run out as long as nothing is asked for its session, and
  it is then found as it was, apart from the texts that have layouts: a surrogate half in one of
  them is replaced.
-/
import Mathlib.Algebra.Order.Ring.Unbundled.Rat
import VeiledGateway.Proofs.Gateway.History
import VeiledGateway.Proofs.Gateway.Upholding

set_option autoImplicit false

namespace VeiledGateway.Gateway

open Handling

variable {gateway : Gateway} {request : Request} {visit arrived mid named : Visit}
  {name base mediaType source t raw : Text} {expires : Option Rat} {record saved : Record}
  {s loaded : Sessions}

/-! ## What is kept meanwhile -/

/-- An event has nothing to do with the session of a name: no request is for it, its time is not
made to run out, and the time goes on. -/
def Event.Bypasses (name : Text) (s : Sessions) : Event → Prop
  | .ask _ shown seed => ¬ (visitOf s shown seed).IsFor name
  | .wait seconds => 0 ≤ seconds
  | .lapse other => other ≠ name
  | .outage _ _ => True

/-- None of some events has anything to do with the session of a name. -/
def Undisturbed (gateway : Gateway) (name : Text) : Sessions → List Event → Prop
  | _, [] => True
  | s, event :: rest => event.Bypasses name s ∧ Undisturbed gateway name (gateway.after s event) rest

theorem sound_after (gateway : Gateway) (hsound : s.Sound) (event : Event) :
    (gateway.after s event).Sound := by
  cases event with
  | ask request shown seed => exact (upholds_answer gateway request (visitOf s shown seed) hsound).2.1
  | wait seconds => exact ⟨hsound.single, hsound.written⟩
  | lapse name => exact ((loses_lapse gateway s name).upholds hsound).sound
  | outage refusing lockFree => exact (fades_outage gateway s refusing lockFree).sound hsound

theorem sound_run (gateway : Gateway) (hsound : s.Sound) (events : List Event) :
    (gateway.run s events).Sound := by
  induction events generalizing s with
  | nil => exact hsound
  | cons event rest ih => exact ih (sound_after gateway hsound event)

/-- What has nothing to do with a session lets go of what is kept for it only if that has run out. -/
theorem fadesAt_after (gateway : Gateway) {event : Event} (hsound : s.Sound) (h : event.Bypasses name s) :
    s.now ≤ (gateway.after s event).now ∧ s.FadesAt (gateway.after s event) name := by
  cases event with
  | ask request shown seed =>
    obtain ⟨hnow, -, hothers⟩ := upholds_answer gateway request (visitOf s shown seed) hsound
    exact ⟨le_of_eq hnow.symm, hothers name h⟩
  | wait seconds => exact ⟨le_add_of_nonneg_right h, .inl rfl⟩
  | lapse other =>
    have hloses := loses_lapse gateway s other
    exact ⟨le_of_eq hloses.now.symm, .inl (hloses.others name fun heq => h heq.symm)⟩
  | outage refusing lockFree =>
    have hfades := fades_outage gateway s refusing lockFree
    exact ⟨le_of_eq hfades.now.symm, hfades.kept name⟩

theorem now_le_run {events : List Event} (hsound : s.Sound) (h : gateway.Undisturbed name s events) :
    s.now ≤ (gateway.run s events).now := by
  induction events generalizing s with
  | nil => exact le_refl _
  | cons event rest ih =>
    exact (fadesAt_after gateway hsound h.1).1.trans (ih (sound_after gateway hsound event) h.2)

/-- What is kept for a session is kept as long as nothing has to do with it and its time has not run
out. -/
theorem kept?_run {events : List Event} (hsound : s.Sound) (hkept : s.kept? name = some (raw, expires))
    (h : gateway.Undisturbed name s events)
    (hlives : ∀ time, expires = some time → (gateway.run s events).now < time) :
    (gateway.run s events).kept? name = some (raw, expires) := by
  induction events generalizing s with
  | nil => exact hkept
  | cons event rest ih =>
    have hafter := sound_after gateway hsound event
    obtain ⟨hnow, hfades⟩ := fadesAt_after gateway hsound h.1
    refine ih hafter ?_ h.2 hlives
    rcases hfades with hsame | ⟨-, _, time, hrunOut, hle⟩
    · exact hsame.trans hkept
    -- The time goes on, so what had run out by now would have run out at the end.
    · obtain ⟨-, hexpires⟩ := Prod.mk.inj (Option.some.inj (hkept.symm.trans hrunOut))
      have hlast : (gateway.after s event).now ≤ (gateway.run s (event :: rest)).now :=
        now_le_run hafter h.2
      exact absurd (hle.trans (hnow.trans hlast)) (not_le.mpr (hlives time hexpires))

/-! ## Documents that are rewritten -/

/-- A request comes to a document of a media type, which becomes a text for the session of a name;
the record is then to be saved in the sessions as they are loaded. -/
inductive Rewrites (gateway : Gateway) (request : Request) (visit : Visit) (name : Text) :
    Text → Text → Record → Sessions → Prop where
  | document {arrived mid named : Visit} {base mediaType source t : Text} {record : Record}
      {loaded : Sessions} {context : Context} {notes : List Note}
      (htunnel : isTunnelled gateway.tunnelPrefix request.target = false)
      (hadmits : (gateway.admits request).run.run visit = (.ok true, arrived))
      (hcomes : gateway.ComesTo request arrived base mediaType source mid)
      (hname : (sessionName gateway.hasSecret).run.run mid = (.ok name, named))
      (hopens : named.sessions.Opens name record loaded)
      (hdone : Pipeline.run ⟨gateway.settings, some gateway.assets, base⟩ (some mediaType) source
        (record.context named.twister) = (.ok t, context, notes)) :
      gateway.Rewrites request visit name mediaType t { record with mappings := context.mappings }
        loaded

theorem ComesTo.stays (h : gateway.ComesTo request arrived base mediaType source mid) :
    arrived.Stays mid := by
  cases h with
  | site hendpoint hleads => exact Visit.Stays.refl arrived
  | link hendpoint hrecord horiginal hleads =>
    have hleft := stays_record? arrived
    rwa [hrecord] at hleft

/-- In sound sessions, the record that is to be saved can be stored. -/
theorem Rewrites.storable (h : gateway.Rewrites request visit name mediaType t saved loaded)
    (hsound : visit.sessions.Sound) : saved.Storable := by
  cases h with
  | @document arrived mid named base mediaType source t record loaded context notes htunnel hadmits
      hcomes hname hopens hdone =>
    -- All that happens before the record is loaded upholds the visit, so that is a stored one or new.
    have harrived := stays_admits gateway request visit
    rw [hadmits] at harrived
    have hnamed : named.sessions.Sound :=
      (((harrived.trans hcomes.stays).trans (stays_sessionName hname).1).1 hsound).2.1
    have hrewritten := (hopens.storable hnamed).rewritten
      ⟨gateway.settings, some gateway.assets, base⟩ (some mediaType) source named.twister
    rwa [hdone] at hrewritten

/-- Where the record is saved, the document is sent. -/
theorem Rewrites.answer (h : gateway.Rewrites request visit name mediaType t saved loaded)
    (hsave : (Sessions.save name saved loaded).1 = .ok ()) :
    ∃ final, gateway.answer request visit =
        ((Response.passing mediaType (.rewritten t)).forMethod request.method, final) ∧
      final.sessions = Sessions.leave name (Sessions.save name saved loaded).2 := by
  cases h with
  | @document arrived mid named base mediaType source t record loaded context notes htunnel hadmits
      hcomes hname hopens hdone =>
    have hwork : rewriteFor ⟨gateway.settings, some gateway.assets, base⟩ mediaType source
        named.twister record loaded =
          (.ok (t, { record with mappings := context.mappings }), loaded) := by
      rw [rewriteFor, hdone]
    rcases hsaved : Sessions.save name { record with mappings := context.mappings } loaded with
      ⟨outcome, kept⟩
    obtain rfl : outcome = .ok () := by rw [hsaved] at hsave; exact hsave
    have hrun : (withRecord name (rewriteFor ⟨gateway.settings, some gateway.assets, base⟩ mediaType
        source named.twister)).run.run named =
          (.ok t, { named with sessions := Sessions.leave name kept }) := by
      rw [withRecord, run_keep, Sessions.withRecord_of_done hopens hwork hsave, hsaved]
    have hdocument : (gateway.document base mediaType source).run.run mid =
        (.ok (.passing mediaType (.rewritten t)),
          { named with sessions := Sessions.leave name kept }) := by
      rw [Gateway.document, run_bind_of_ok hname]
      dsimp only
      rw [run_bind_of_ok (rfl : (get : Handling Visit).run.run named = (.ok named, named))]
      exact run_tryCatch_of_ok (run_bind_of_ok hrun)
    rw [← respond_of_comesTo hadmits hcomes] at hdocument
    exact ⟨_, answer_of_response htunnel hdocument, rfl⟩

/-- A record that is saved is found settled, as long as nothing has to do with its session and its
time has not run out. -/
theorem Rewrites.found (h : gateway.Rewrites request visit name mediaType t saved loaded)
    (hsound : visit.sessions.Sound) (hset : loaded.Reaches "set") :
    ∃ final, gateway.answer request visit =
        ((Response.passing mediaType (.rewritten t)).forMethod request.method, final) ∧
      ∀ later, gateway.Undisturbed name final.sessions later →
        (∀ time, loaded.expiry = some time → (gateway.run final.sessions later).now < time) →
        (gateway.run final.sessions later).Reaches "get" →
        (Sessions.load name (gateway.run final.sessions later)).1 = .ok (some saved.settled) := by
  obtain ⟨raw, hwrite, hsave, hkept⟩ := Sessions.save_of_reaches (h.storable hsound) hset
  obtain ⟨final, hanswer, hfinal⟩ := h.answer hsave
  refine ⟨final, hanswer, fun later hlater hlives hget => ?_⟩
  have hleft : final.sessions.Sound := by
    have hupholds := upholds_answer gateway request visit hsound
    rw [hanswer] at hupholds
    exact hupholds.2.1
  have hsaved : final.sessions.kept? name = some (raw, loaded.expiry) := by
    rw [hfinal, Sessions.kept?_leave, hkept]
  have hstill := kept?_run hleft hsaved hlater hlives
  exact Sessions.load_of_kept hstill hlives hget hwrite

/-- From empty sessions on, whatever has been asked, the record of a session for which a document is
rewritten can be written.  Where the store is reached the document is sent, and the next load of the
session before its time has run out finds a record with the same key, the same challenge and the
same tokens; it is the same record exactly if no surrogate half stands in a text that has a layout. -/
theorem rewritten_record_found_iff (hempty : s.Empty) {events : List Event} {shown : Option Text}
    {seed : Int} (h : gateway.Rewrites request (visitOf (gateway.run s events) shown seed) name
      mediaType t saved loaded) :
    (∃ raw, saved.write = .ok raw) ∧
    (loaded.Reaches "set" →
      ∃ final, gateway.answer request (visitOf (gateway.run s events) shown seed) =
          ((Response.passing mediaType (.rewritten t)).forMethod request.method, final) ∧
        ∀ later, gateway.Undisturbed name final.sessions later →
          (∀ time, loaded.expiry = some time → (gateway.run final.sessions later).now < time) →
          (gateway.run final.sessions later).Reaches "get" →
          ∃ found, (Sessions.load name (gateway.run final.sessions later)).1 = .ok (some found) ∧
            found.key = saved.key ∧ found.challenge = saved.challenge ∧
            (∀ naming, found.mappings.names naming = saved.mappings.names naming) ∧
            (found = saved ↔ ∀ entry ∈ saved.mappings.textChunks, entry.1.Plain)) := by
  have hsound := sound_run gateway hempty.sound events
  have hstorable := h.storable hsound
  refine ⟨hstorable.exists_write, fun hset => ?_⟩
  obtain ⟨final, hanswer, hfound⟩ := h.found hsound hset
  refine ⟨final, hanswer, fun later hlater hlives hget => ?_⟩
  refine ⟨saved.settled, hfound later hlater hlives hget, rfl, rfl, fun naming => ?_,
    hstorable.settled_eq_self_iff⟩
  exact (Record.settledMappings_names saved.mappings naming).trans (hstorable.settledTable_names naming)

/-! ## A crawler asks for a script -/

/-- A gateway for a site that has one script, in which all texts are rewritten, and which lets one
crawler in. -/
def crawledGateway (source : Text) : Gateway :=
  { scriptGateway source with
    settings := { Settings.default with minLiteralLength := 1 }
    crawlers := ["bot"] }

/-- The crawler asks for the script. -/
def crawlerRequest : Request :=
  { getRequest "/a.js" with agent := some "bot" }

/-- How the script is seen. -/
def crawledView (source : Text) : View :=
  ⟨(crawledGateway source).settings, some (crawledGateway source).assets, "/a.js"⟩

/-- The outcome of rewriting the script. -/
def crawledRun (source : Text) : Context → Except Fault Text × Context × List Note :=
  Pipeline.run (crawledView source) (some "application/javascript") (Site.text (Utf8.encodeLossy source))

/-- The context in which the script is rewritten for a new session. -/
def newContext : Context :=
  Context.ofMappings (Text.hex 2 32) Mappings.empty (Twister.ofSeed 0)

/-- The same after a text of one code point has been laid out. -/
def laidOutContext (text : Text) : Context :=
  { newContext with
    twister := (Layout.choose Twister.belowThree 1 (Twister.ofSeed 0)).2
    inserted := 1
    textChunks := newContext.textChunks.insert text [Layout.digit 1] }

/-- The crawler shows no name: the script is rewritten for a new session. -/
theorem rewrites_crawled {source t : Text} {context : Context} {notes : List Note}
    (hdone : crawledRun source newContext = (.ok t, context, notes)) :
    ∃ loaded, (crawledGateway source).Rewrites crawlerRequest (visitOf noSessions none 0) "sid-1"
        "application/javascript" t ⟨Text.hex 2 32, none, context.mappings⟩ loaded ∧
      loaded.expiry = some 60 ∧ ∃ store, loaded.store = .memory store := by
  have hleads : (crawledGateway source).LeadsTo "/a.js" "/a.js" "application/javascript"
      (Site.text (Utf8.encodeLossy source)) := by
    have htype : Site.mediaType "a.js" = "application/javascript" := by decide +kernel
    have hplace : (crawledGateway source).assets.locate "/a.js" =
        .ok (some [("site" : Text), "a.js"]) := rfl
    have hbytes : (crawledGateway source).assets.disk.read? [("site" : Text), "a.js"] =
        .ok (some (Utf8.encodeLossy source)) := rfl
    have hdocument := LeadsTo.document hplace hbytes (by decide +kernel)
    rwa [show Site.mediaType ([("site" : Text), "a.js"].getLast?.getD []) = _ from htype] at hdocument
  have hadmits : ((crawledGateway source).admits crawlerRequest).run.run
      (visitOf noSessions none 0) = (.ok true, visitOf noSessions none 0) := rfl
  obtain ⟨named, hnamed⟩ : ∃ named,
      named = ((sessionName true).run.run (visitOf noSessions none 0)).2 := ⟨_, rfl⟩
  have hname : (sessionName true).run.run (visitOf noSessions none 0) = (.ok "sid-1", named) := by
    rw [hnamed]
    exact Outcome.eq_pair_of_toOption (by decide +kernel)
  have htwister : named.twister = Twister.ofSeed 0 := by rw [hnamed]; rfl
  have hopens : named.sessions.Opens "sid-1" (.ofKey (Text.hex 2 32))
      (Sessions.loadOrDraw "sid-1" (Sessions.enter "sid-1" named.sessions).2).2 := by
    refine Sessions.opens_of_ok ?_ ?_ <;> rw [hnamed] <;>
      exact Outcome.eq_ok_of_toOption (by decide +kernel)
  -- Where the path leads does not depend on what lies there.
  have htunnel : isTunnelled (crawledGateway source).tunnelPrefix crawlerRequest.target = false :=
    (by decide +kernel : isTunnelled plainGateway.tunnelPrefix crawlerRequest.target = false)
  have hendpoint : (crawledGateway source).endpoint? crawlerRequest = some .site :=
    (by decide +kernel : plainGateway.endpoint? crawlerRequest = some .site)
  have hrun : crawledRun source ((Record.ofKey (Text.hex 2 32)).context named.twister) =
      (.ok t, context, notes) := by
    rw [htwister]
    exact hdone
  refine ⟨_, .document htunnel hadmits (.site hendpoint hleads) hname hopens hrun, ?_, ?_⟩
  · rw [hnamed]
    decide +kernel
  · rw [hnamed]
    exact ⟨_, rfl⟩

/-- A script that asks first for the pieces of a text of one code point is rewritten as if that text
had been laid out before. -/
theorem crawledRun_newContext {source text : Text}
    (hfirst : Context.firstText? (Pipeline.rewrite (crawledView source) (some "application/javascript")
      (Site.text (Utf8.encodeLossy source))) = some text) (hlength : text.length = 1) :
    crawledRun source newContext = crawledRun source (laidOutContext text) := by
  have hlayout : (newContext.layout text).2 = laidOutContext text := by
    rcases newContext.layout_cases text with ⟨layout, hfound, -⟩ | ⟨-, layout, twister, hdrawn, hlayout⟩
    · cases hfound
    · rw [hlength] at hdrawn
      have hcovers := Layout.covers_choose Twister.belowThree 1 newContext.twister
      rw [← hdrawn] at hcovers
      obtain rfl := hcovers.eq_of_one
      rw [hlayout, laidOutContext, show twister = _ from congrArg Prod.snd hdrawn]
      rfl
  rw [crawledRun, Pipeline.run, Pipeline.run, ← Context.run_layout_firstText hfirst, hlayout]

/-- The record of a new session after a text of one code point has been laid out for it. -/
def oneText (text : Text) : Record :=
  ⟨Text.hex 2 32, none, { Mappings.empty with textChunks := [(text, [Layout.digit 1])] }⟩

theorem rewrites_oneText (source text t : Text) (hlength : text.length = 1)
    (hruns : Context.firstText? (Pipeline.rewrite (crawledView source) (some "application/javascript")
        (Site.text (Utf8.encodeLossy source))) = some text ∧
      (crawledRun source (laidOutContext text)).1.toOption = some t ∧
      (crawledRun source (laidOutContext text)).2.1.mappings = (oneText text).mappings) :
    ∃ loaded, (crawledGateway source).Rewrites crawlerRequest (visitOf noSessions none 0) "sid-1"
        "application/javascript" t (oneText text) loaded ∧
      loaded.expiry = some 60 ∧ ∃ store, loaded.store = .memory store := by
  obtain ⟨hfirst, hdone⟩ := hruns
  have hrun := crawledRun_newContext hfirst hlength
  generalize crawledRun source (laidOutContext text) = result at hdone hrun
  obtain ⟨outcome, context, notes⟩ := result
  obtain ⟨hok, hmappings⟩ := hdone
  obtain rfl : outcome = .ok t := Outcome.eq_ok_of_toOption hok
  obtain ⟨loaded, hrewrites, hloaded⟩ := rewrites_crawled hrun
  rw [hmappings] at hrewrites
  exact ⟨loaded, hrewrites, hloaded⟩

/-- What was kept in memory is kept there still. -/
theorem Rewrites.memory (h : gateway.Rewrites request visit name mediaType t saved loaded)
    (hsound : visit.sessions.Sound) {store : MemoryStore} (hstore : loaded.store = .memory store)
    {response : Response} {final : Visit} (hanswer : gateway.answer request visit = (response, final)) :
    final.sessions.now = visit.sessions.now ∧ ∃ after, final.sessions.store = .memory after := by
  have hset : loaded.Reaches "set" := by rw [Sessions.Reaches, hstore]; trivial
  obtain ⟨raw, hwrite, hsave, -⟩ := Sessions.save_of_reaches (h.storable hsound) hset
  obtain ⟨last, hlast, hsessions⟩ := h.answer hsave
  have hnow := (upholds_answer gateway request visit hsound).1
  rw [hanswer] at hnow
  obtain ⟨-, rfl⟩ := Prod.mk.inj (hlast.symm.trans hanswer)
  refine ⟨hnow, ?_⟩
  rw [hsessions, Sessions.leave, Sessions.save, hwrite, hstore]
  exact ⟨_, rfl⟩

/-- Time goes on, and another visitor asks for something else. -/
def otherVisitor : List Event :=
  [.wait 10, .ask (getRequest "/healthz") (some "sid-2") 0]

/-- Nothing comes of it but that time has gone on. -/
theorem run_otherVisitor (source : Text) (s : Sessions) :
    (crawledGateway source).run s otherVisitor = { s with now := s.now + 10 } := by
  obtain ⟨visit, hvisit⟩ : ∃ visit, visit = visitOf { s with now := s.now + 10 } (some "sid-2") 0 :=
    ⟨_, rfl⟩
  have htunnel : isTunnelled (crawledGateway source).tunnelPrefix (getRequest "/healthz").target = false :=
    (by decide +kernel : isTunnelled plainGateway.tunnelPrefix (getRequest "/healthz").target = false)
  have hendpoint : (crawledGateway source).endpoint? (getRequest "/healthz") = some .health :=
    (by decide +kernel : plainGateway.endpoint? (getRequest "/healthz") = some .health)
  have hrespond : ((crawledGateway source).respond (getRequest "/healthz")).run.run visit =
      (.ok health, visit) := by
    rw [respond_of_admitted (admits_of_isOpen _ (by decide +kernel) visit), dispatch_of_endpoint hendpoint]
    rfl
  have hanswer := answer_of_response htunnel hrespond
  rw [hvisit] at hanswer
  exact congrArg (fun result => result.2.sessions) hanswer

/-- A text without surrogate halves: the record is found again. -/
theorem plain_text_found :
    let gateway := crawledGateway "x=\"!\""
    ∃ loaded final,
      gateway.Rewrites crawlerRequest (visitOf noSessions none 0) "sid-1" "application/javascript"
        "x=(\"!\")" (oneText "!") loaded ∧
      (gateway.answer crawlerRequest (visitOf noSessions none 0)).2 = final ∧
      (Sessions.load "sid-1" (gateway.run final.sessions otherVisitor)).1 =
        .ok (some (oneText "!")) := by
  intro gateway
  obtain ⟨loaded, hrewrites, hexpiry, store, hstore⟩ := rewrites_oneText "x=\"!\"" "!" "x=(\"!\")" rfl
    (by decide +kernel)
  have hempty : noSessions.Empty := rfl
  have hset : loaded.Reaches "set" := by rw [Sessions.Reaches, hstore]; trivial
  have hfirst : gateway.Rewrites crawlerRequest (visitOf (gateway.run noSessions []) none 0) "sid-1"
      "application/javascript" "x=(\"!\")" (oneText "!") loaded := hrewrites
  obtain ⟨final, hanswer, hfound⟩ := (rewritten_record_found_iff hempty hfirst).2 hset
  obtain ⟨hnow, after, hmemory⟩ := hrewrites.memory hempty.sound hstore hanswer
  have hnow : final.sessions.now = 0 := hnow
  have hundisturbed : gateway.Undisturbed "sid-1" final.sessions otherVisitor :=
    ⟨(by decide : (0 : Rat) ≤ 10), (by decide : ¬ ("sid-2" : Text) = "sid-1"), trivial⟩
  have hlives : ∀ time, loaded.expiry = some time →
      (gateway.run final.sessions otherVisitor).now < time := by
    rw [run_otherVisitor, hexpiry, hnow]
    rintro _ ⟨⟩
    exact (by decide +kernel : (0 : Rat) + 10 < 60)
  have hget : (gateway.run final.sessions otherVisitor).Reaches "get" := by
    rw [run_otherVisitor, Sessions.Reaches, hmemory]
    trivial
  obtain ⟨found, hload, -, -, -, hiff⟩ := hfound otherVisitor hundisturbed hlives hget
  rw [hiff.mpr (by decide)] at hload
  exact ⟨loaded, final, hrewrites, congrArg Prod.snd hanswer, hload⟩

/-- A text that is a surrogate half: the next load, at the same time, finds another record. -/
theorem half_text_lost :
    let half : Text := [CodePoint.ofNat 0xD83D]
    let gateway := crawledGateway "x=\"\\uD83D\""
    ∃ loaded final found,
      gateway.Rewrites crawlerRequest (visitOf noSessions none 0) "sid-1" "application/javascript"
        "x=(\"\\ud83d\")" (oneText half) loaded ∧
      gateway.answer crawlerRequest (visitOf noSessions none 0) =
        (Response.passing "application/javascript" (.rewritten "x=(\"\\ud83d\")"), final) ∧
      loaded.expiry = some 60 ∧ final.sessions.now = 0 ∧
      (Sessions.load "sid-1" final.sessions).1 = .ok (some found) ∧
      Entries.get? found.mappings.textChunks half = none := by
  intro half gateway
  obtain ⟨loaded, hrewrites, hexpiry, store, hstore⟩ := rewrites_oneText "x=\"\\uD83D\"" half
    "x=(\"\\ud83d\")" rfl (by decide +kernel)
  have hsound : noSessions.Sound := Sessions.Empty.sound rfl
  have hset : loaded.Reaches "set" := by rw [Sessions.Reaches, hstore]; trivial
  obtain ⟨final, hanswer, hfound⟩ := hrewrites.found hsound hset
  obtain ⟨hnow, after, hmemory⟩ := hrewrites.memory hsound hstore hanswer
  have hnow : final.sessions.now = 0 := hnow
  have hload := hfound [] trivial (by rw [hexpiry]; rintro _ ⟨⟩; rw [run, List.foldl_nil, hnow]; decide)
    (by rw [run, List.foldl_nil, Sessions.Reaches, hmemory]; trivial)
  exact ⟨loaded, final, _, hrewrites, hanswer, hexpiry, hnow, hload, by decide⟩

end VeiledGateway.Gateway
