/-
  Runs: requests that a gateway answers one after the other, while time goes on and the service that
  keeps its sessions, if one does, lets go of what has run out there and may fail.

  A request shows the name of any session, or none.  Visitors can show no names but those that they
  hold, so the traffic at a gateway makes fewer runs than there are here.
-/
import VeiledGateway.Gateway.Traffic
import VeiledGateway.Proofs.Gateway.Handling

set_option autoImplicit false

namespace VeiledGateway

namespace Gateway

/-- What happens to the sessions of a gateway. -/
inductive Event where
  /-- A request that shows the name of a session perhaps, and the seed of its layouts. -/
  | ask (request : Request) (shown : Option Text) (seed : Int)
  /-- The time goes on. -/
  | wait (seconds : Rat)
  /-- The service that keeps the sessions, if one does, lets the time of a name run out. -/
  | lapse (name : Text)
  /-- That service begins to refuse requests of some kinds, and no others. -/
  | outage (refusing : List Text) (lockFree : Bool)

/-- What a request finds that shows a name. -/
def visitOf (sessions : Sessions) (shown : Option Text) (seed : Int) : Visit :=
  { sessions, session := shown, twister := Twister.ofSeed seed }

/-- The sessions after a change of the service that keeps them, if one does. -/
def changeService (sessions : Sessions) (change : RemoteStore → Service → Service) : Sessions :=
  match sessions.store with
  | .memory _ => sessions
  | .remote store service => { sessions with store := .remote store (change store service) }

/-- The sessions after an event. -/
def after (gateway : Gateway) (sessions : Sessions) : Event → Sessions
  | .ask request shown seed => (gateway.answer request (visitOf sessions shown seed)).2.sessions
  | .wait seconds => { sessions with now := sessions.now + seconds }
  | .lapse name => changeService sessions fun store service =>
    { service with entries := Entries.erase service.entries (store.key name) }
  | .outage refusing lockFree => changeService sessions fun _ service =>
    { service with refusing, lockFree }

/-- The sessions after some events. -/
def run (gateway : Gateway) (sessions : Sessions) (events : List Event) : Sessions :=
  events.foldl gateway.after sessions

theorem answer_of_tunnelled {gateway : Gateway} {request : Request}
    (h : isTunnelled gateway.tunnelPrefix request.target = true) (visit : Visit) :
    gateway.answer request visit = (gateway.throughTunnel request, visit) :=
  if_pos h

theorem answer_of_response {gateway : Gateway} {request : Request} {visit final : Visit}
    {response : Response} (htunnel : isTunnelled gateway.tunnelPrefix request.target = false)
    (h : (gateway.respond request).run.run visit = (.ok response, final)) :
    gateway.answer request visit = (response.forMethod request.method, final) := by
  have hrespond : gateway.respond request visit = (.ok response, final) := h
  unfold answer
  rw [htunnel]
  simp only [Bool.false_eq_true, if_false, ExceptT.run, StateT.run]
  rw [hrespond]

theorem answer_of_trouble {gateway : Gateway} {request : Request} {visit final : Visit}
    {trouble : Trouble} (htunnel : isTunnelled gateway.tunnelPrefix request.target = false)
    (h : (gateway.respond request).run.run visit = (.error trouble, final)) :
    gateway.answer request visit = (trouble.response.forMethod request.method, final) := by
  have hrespond : gateway.respond request visit = (.error trouble, final) := h
  unfold answer
  rw [htunnel]
  simp only [Bool.false_eq_true, if_false, ExceptT.run, StateT.run]
  rw [hrespond]

theorem visit_of_tunnelled {gateway : Gateway} {request : Request}
    (h : isTunnelled gateway.tunnelPrefix request.target = true) (visit : Visit) :
    (gateway.answer request visit).2 = visit := by
  rw [answer_of_tunnelled h]

/-- Whatever is replied, the visit is left as responding left it. -/
theorem visit_of_not_tunnelled {gateway : Gateway} {request : Request}
    (h : isTunnelled gateway.tunnelPrefix request.target = false) (visit : Visit) :
    (gateway.answer request visit).2 = ((gateway.respond request).run.run visit).2 := by
  rcases hrun : (gateway.respond request).run.run visit with ⟨trouble | response, final⟩
  · rw [answer_of_trouble h hrun]
  · rw [answer_of_response h hrun]

/-! ## First requests -/

/-- A gateway for a site without files, where challenges demand one zero. -/
def plainGateway : Gateway where
  assets := { disk := { entries := [], home := [] }, roots := [] }
  settings := Settings.default
  links := LinkRoute.ofPrefix Defaults.linkPrefix
  rules := Rule.all Defaults.linkPrefix
  difficulty := 1
  crawlers := []
  passesThrough := false
  hasSecret := true
  namesLast := true
  tunnelPrefix := "/_tunnel/"
  tunnel := none

/-- Sessions of which there are none yet. -/
def noSessions : Sessions where
  store := .memory (MemoryStore.start 60 60 0)
  now := 0
  secrets := Secrets.start

/-- A request for a path, from nobody in particular. -/
def getRequest (path : Text) : Request :=
  { method := "GET", host := Request.localHost, target := path, query := [], agent := none,
    mediaType := none, body := [] }

end Gateway

/-! ## Traffic -/

namespace Traffic

/-- What happens to traffic. -/
inductive Happening where
  | arrives (arrival : Arrival)
  | waits (seconds : Rat)

/-- The traffic after something has happened. -/
def after (gateway : Gateway) (traffic : Traffic) : Happening → Traffic
  | .arrives arrival => (traffic.serve gateway arrival).2
  | .waits seconds => traffic.wait seconds

/-- The event that a happening is: a request that arrives shows what its visitor holds. -/
def eventOf (gateway : Gateway) (traffic : Traffic) : Happening → Gateway.Event
  | .arrives arrival =>
    .ask arrival.request (traffic.nameOf? gateway arrival.visitor) arrival.seed
  | .waits seconds => .wait seconds

/-- The events that happenings are, one after the other. -/
def eventsOf (gateway : Gateway) (traffic : Traffic) : List Happening → List Gateway.Event
  | [] => []
  | happening :: rest =>
    traffic.eventOf gateway happening :: (traffic.after gateway happening).eventsOf gateway rest

theorem after_sessions (gateway : Gateway) (traffic : Traffic) (happening : Happening) :
    (traffic.after gateway happening).sessions =
      gateway.after traffic.sessions (traffic.eventOf gateway happening) := by
  cases happening with
  | arrives arrival => rfl
  | waits seconds => rfl

/-- What visitors do who show only what they hold is a run. -/
theorem foldl_sessions (gateway : Gateway) (traffic : Traffic) (happenings : List Happening) :
    (happenings.foldl (after gateway) traffic).sessions =
      gateway.run traffic.sessions (traffic.eventsOf gateway happenings) := by
  induction happenings generalizing traffic with
  | nil => rfl
  | cons happening rest ih =>
    have hrest := ih (traffic.after gateway happening)
    rw [after_sessions] at hrest
    exact hrest

end Traffic

end VeiledGateway
