/-
  Isolation: what the requests of other sessions are to a session.

  The requests of a session are those that carry its name or begin it.  When all other requests are
  struck from a run, the session gets the replies that it got, as long as what is drawn for it is
  drawn as before.  The two runs are followed side by side: what they keep looks alike under the name
  of the session, whatever the requests of others have stored or swept elsewhere.
-/
import VeiledGateway.Proofs.Context.Linking
import VeiledGateway.Proofs.Gateway.Agreement
import VeiledGateway.Proofs.Gateway.History

set_option autoImplicit false

namespace VeiledGateway

namespace Gateway

open Handling

/-- An event, and the secrets that are drawn from while it happens. -/
structure Drawn where
  event : Event
  secrets : Secrets

/-- Where time goes on at all, it goes on. -/
def Event.Forward : Event → Prop
  | .wait seconds => 0 ≤ seconds
  | _ => True

/-- The sessions after an event that draws from secrets of its own. -/
def afterDrawn (gateway : Gateway) (s : Sessions) (drawn : Drawn) : Sessions :=
  gateway.after { s with secrets := drawn.secrets } drawn.event

/-- The sessions after some events, each of which draws from secrets of its own. -/
def runDrawn (gateway : Gateway) (s : Sessions) (draws : List Drawn) : Sessions :=
  draws.foldl gateway.afterDrawn s

/-- The events of a run, each with the secrets from which it draws there. -/
def drawnOf (gateway : Gateway) (s : Sessions) : List Event → List Drawn
  | [] => []
  | event :: rest => ⟨event, s.secrets⟩ :: gateway.drawnOf (gateway.after s event) rest

/-- A run is one where each event draws from secrets of its own. -/
theorem runDrawn_drawnOf (gateway : Gateway) (s : Sessions) (events : List Event) :
    gateway.runDrawn s (gateway.drawnOf s events) = gateway.run s events := by
  induction events generalizing s with
  | nil => rfl
  | cons event rest ih => exact ih (gateway.after s event)

/-- What an event is to a session. -/
inductive Share where
  /-- A request of the session, what it is replied, and the name that its visitor then holds. -/
  | own (response : Response) (held : Option Text)
  /-- A request of others. -/
  | foreign
  /-- What happens to all sessions. -/
  | common

/-- A request is of a session if it carries its name or begins it. -/
def share (gateway : Gateway) (name : Text) (s : Sessions) (drawn : Drawn) : Share :=
  match drawn.event with
  | .ask request shown seed =>
    let (response, visit) := gateway.answer request
      (visitOf { s with secrets := drawn.secrets } shown seed)
    if shown = some name ∨ visit.session = some name then .own response visit.session else .foreign
  | _ => .common

/-- What the requests of a session are replied in a run. -/
def replies (gateway : Gateway) (name : Text) (s : Sessions) :
    List Drawn → List (Response × Option Text)
  | [] => []
  | drawn :: rest =>
    let others := gateway.replies name (gateway.afterDrawn s drawn) rest
    match gateway.share name s drawn with
    | .own response held => (response, held) :: others
    | _ => others

/-- A run without the requests that are not of a session. -/
def strike (gateway : Gateway) (name : Text) (s : Sessions) : List Drawn → List Drawn
  | [] => []
  | drawn :: rest =>
    let left := gateway.strike name (gateway.afterDrawn s drawn) rest
    match gateway.share name s drawn with
    | .foreign => left
    | _ => drawn :: left

variable {gateway : Gateway} {s t : Sessions} {name : Text} {drawn : Drawn}

/-! ## Time, and the service -/

theorem manner_lapse (gateway : Gateway) (s : Sessions) (other : Text) :
    (gateway.after s (.lapse other)).manner = s.manner := by
  unfold after changeService
  cases hstore : s.store with
  | memory store => rfl
  | remote store service => rw [Sessions.manner, Sessions.manner, hstore]

theorem live?_lapse_self (gateway : Gateway) (s : Sessions) (name : Text) :
    (gateway.after s (.lapse name)).live? name =
      match s.manner with
      | .memory _ => s.live? name
      | .remote _ _ _ => none := by
  cases hstore : s.store with
  | memory store => simp only [after, changeService, Sessions.manner, hstore]
  | remote store service =>
    simp only [after, changeService, Sessions.manner, hstore]
    refine Sessions.live?_of_none ?_
    rw [Sessions.kept?_remote rfl, Entries.get?_erase_self]
    rfl

/-- A time that runs out in the service runs out for all who see it. -/
theorem alike_lapse (gateway : Gateway) (h : Sessions.Alike name s t) (other : Text) :
    Sessions.Alike name (gateway.after s (.lapse other)) (gateway.after t (.lapse other)) := by
  have hlapsed := loses_lapse gateway s other
  have hlapsed' := loses_lapse gateway t other
  refine ⟨hlapsed.now.trans (h.now.trans hlapsed'.now.symm), ?_, ?_⟩
  · rw [manner_lapse, manner_lapse, h.manner]
  by_cases hother : name = other
  · rw [← hother, live?_lapse_self, live?_lapse_self, h.manner, h.live]
  · rw [Sessions.FadesAt.live? (.inl (hlapsed.others name hother)) hlapsed.now,
      Sessions.FadesAt.live? (.inl (hlapsed'.others name hother)) hlapsed'.now, h.live]

theorem manner_outage (gateway : Gateway) (s : Sessions) (refusing : List Text) (lockFree : Bool) :
    (gateway.after s (.outage refusing lockFree)).manner =
      match s.manner with
      | .memory lifetime => .memory lifetime
      | .remote store _ _ => .remote store refusing lockFree := by
  unfold after changeService
  cases hstore : s.store with
  | memory store => rw [Sessions.manner, hstore]
  | remote store service => rw [Sessions.manner, Sessions.manner, hstore]

/-- The service refuses the same of all who see it. -/
theorem alike_outage (gateway : Gateway) (h : Sessions.Alike name s t) (refusing : List Text)
    (lockFree : Bool) :
    Sessions.Alike name (gateway.after s (.outage refusing lockFree))
      (gateway.after t (.outage refusing lockFree)) := by
  have hfades := fades_outage gateway s refusing lockFree
  have hfades' := fades_outage gateway t refusing lockFree
  refine ⟨hfades.now.trans (h.now.trans hfades'.now.symm), ?_, ?_⟩
  · rw [manner_outage, manner_outage, h.manner]
  · rw [(hfades.kept name).live? hfades.now, (hfades'.kept name).live? hfades'.now, h.live]

/-! ## Requests -/

theorem single_afterDrawn (gateway : Gateway) (h : s.Single) (drawn : Drawn) :
    (gateway.afterDrawn s drawn).Single := by
  obtain ⟨event, secrets⟩ := drawn
  have hdrawing : ({ s with secrets } : Sessions).Single := h
  cases event with
  | ask request shown seed =>
    exact (apart_answer gateway request (visitOf { s with secrets } shown seed) hdrawing).single
  | wait seconds => exact h
  | lapse other => exact (loses_lapse gateway { s with secrets } other).single hdrawing
  | outage refusing lockFree =>
    exact (fades_outage gateway { s with secrets } refusing lockFree).single hdrawing

theorem single_runDrawn (gateway : Gateway) (h : s.Single) (draws : List Drawn) :
    (gateway.runDrawn s draws).Single := by
  induction draws generalizing s with
  | nil => exact h
  | cons drawn rest ih => exact ih (single_afterDrawn gateway h drawn)

/-- A request of others loses nothing of what is kept for a session but what has run out. -/
theorem fadesAt_of_foreign (hsingle : s.Single) (h : gateway.share name s drawn = .foreign) :
    s.FadesAt (gateway.afterDrawn s drawn) name ∧
      Sessions.Alike name (gateway.afterDrawn s drawn) s := by
  obtain ⟨event, secrets⟩ := drawn
  cases event with
  | ask request shown seed =>
    have hapart := apart_answer gateway request (visitOf { s with secrets } shown seed) hsingle
    simp only [share] at h
    split at h
    · cases h
    · rename_i hothers
      rw [not_or] at hothers
      have hfades := hapart.others name hothers.1 hothers.2
      exact ⟨hfades, hapart.now, hapart.manner, hfades.live? hapart.now⟩
  | wait seconds => cases h
  | lapse other => cases h
  | outage refusing lockFree => cases h

/-- What is no request of others is the same in sessions that look alike. -/
theorem share_eq (hsingle : s.Single) (hforward : drawn.event.Forward) (halike : Sessions.Alike name s t)
    (h : gateway.share name s drawn ≠ .foreign) :
    gateway.share name t drawn = gateway.share name s drawn ∧
      Sessions.Alike name (gateway.afterDrawn s drawn) (gateway.afterDrawn t drawn) := by
  obtain ⟨event, secrets⟩ := drawn
  have hdrawing : Sessions.Alike name { s with secrets } { t with secrets } :=
    ⟨halike.now, halike.manner, halike.live⟩
  cases event with
  | ask request shown seed =>
    have hsame : Visit.Same name (visitOf { s with secrets } shown seed)
        (visitOf { t with secrets } shown seed) := ⟨rfl, rfl, hdrawing, rfl⟩
    have hfor : (visitOf { s with secrets } shown seed).IsFor name := by
      simp only [share] at h
      split at h
      · rename_i hof
        rcases hof with hshown | hbegun
        · exact Visit.isFor_of_session hshown
        · exact (apart_answer gateway request _ hsingle).begun name hbegun
      · exact absurd rfl h
    obtain ⟨hresponse, hafter⟩ := answer_agrees gateway request hfor hsame
    refine ⟨?_, hafter.sessions.toAlike⟩
    simp only [share, hresponse, hafter.session]
  | wait seconds => exact ⟨rfl, hdrawing.wait hforward⟩
  | lapse other => exact ⟨rfl, alike_lapse gateway hdrawing other⟩
  | outage refusing lockFree => exact ⟨rfl, alike_outage gateway hdrawing refusing lockFree⟩

/-! ## Runs -/

/-- Sessions that look alike get the same replies, though in one of them the requests of others are
struck from the run. -/
theorem replies_strike {draws : List Drawn} (hsingle : s.Single)
    (hforward : ∀ drawn ∈ draws, drawn.event.Forward) (halike : Sessions.Alike name s t) :
    gateway.replies name t (gateway.strike name s draws) = gateway.replies name s draws := by
  induction draws generalizing s t with
  | nil => rfl
  | cons drawn rest ih =>
    have hafter := single_afterDrawn gateway hsingle drawn
    obtain ⟨hfirst, hrest⟩ := List.forall_mem_cons.mp hforward
    by_cases hforeign : gateway.share name s drawn = .foreign
    · obtain ⟨-, hsees⟩ := fadesAt_of_foreign hsingle hforeign
      simp only [replies, strike, hforeign]
      exact ih hafter hrest (hsees.trans halike)
    · obtain ⟨hshare, hlast⟩ := share_eq hsingle hfirst halike hforeign
      have hothers := ih hafter hrest hlast
      cases hs : gateway.share name s drawn with
      | own response held =>
        rw [hs] at hshare
        simp only [replies, strike, hs, hshare, hothers]
      | foreign => exact absurd hs hforeign
      | common =>
        rw [hs] at hshare
        simp only [replies, strike, hs, hshare, hothers]

/-! ## Links -/

/-- A path that was given out for a link leads where an entry of the session's own table leads, or
nowhere: what others keep does not count. -/
inductive Followed (gateway : Gateway) (name path : Text) (visit : Visit) :
    Except Trouble Response × Visit → Prop where
  | own {record : Record} {original tok : Text} {found : Sessions}
      (hload : Sessions.load name visit.sessions = (.ok (some record), found))
      (htok : gateway.links.token? path = some tok)
      (hentry : (original, tok) ∈ record.mappings.links) :
      Followed gateway name path visit
        ((gateway.serve original).run.run { visit with sessions := found })
  | missing {final : Visit} : Followed gateway name path visit (.error .missing, final)
  | failed {fault : SessionFault} {final : Visit}
      (hload : (Sessions.load name visit.sessions).1 = .error fault) :
      Followed gateway name path visit (.error (.session fault), final)

theorem run_record?_of_shown {visit : Visit} (hshown : visit.session = some name) :
    record?.run.run visit =
      ((Sessions.load name visit.sessions).1.mapError .session,
        { visit with sessions := (Sessions.load name visit.sessions).2 }) := by
  obtain ⟨s, shown, twister⟩ := visit
  obtain rfl : shown = some name := hshown
  rfl

theorem followed_serveLink (gateway : Gateway) (path : Text) {visit : Visit}
    (hshown : visit.session = some name) :
    gateway.Followed name path visit ((gateway.serveLink path).run.run visit) := by
  have hrecord := run_record?_of_shown hshown
  unfold serveLink
  rcases hload : Sessions.load name visit.sessions with ⟨fault | _ | record, found⟩ <;>
    rw [hload] at hrecord
  · rw [run_bind_of_error hrecord]
    exact .failed (congrArg Prod.fst hload)
  · rw [run_bind_of_ok hrecord]
    exact .missing
  · rw [run_bind_of_ok hrecord]
    cases hresolve : gateway.links.resolve path (record.context visit.twister) with
    | none =>
      dsimp only
      rw [run_bind_of_ok (rfl : (get : Handling Visit).run.run _ = (.ok _, _)), hresolve]
      exact .missing
    | some original =>
      obtain ⟨tok, htok, horiginal⟩ := Option.bind_eq_some_iff.mp hresolve
      dsimp only
      rw [run_bind_of_ok (rfl : (get : Handling Visit).run.run _ = (.ok _, _)), hresolve]
      exact .own hload htok
        ((TokenTable.indexed_ofForward record.mappings.links).sound original tok horiginal)

/-! ## Isolation -/

/-- The requests of others are nothing to a session: struck from a run, they change no reply to it,
no such request loses what is kept for it before that has run out, and what it is shown under the
path of a link is what its own table leads to. -/
theorem session_isolated (gateway : Gateway) (name : Text) {s : Sessions} {draws : List Drawn}
    (hsingle : s.Single) (hforward : ∀ drawn ∈ draws, drawn.event.Forward) :
    gateway.replies name s (gateway.strike name s draws) = gateway.replies name s draws ∧
      (∀ before drawn rest, draws = before ++ drawn :: rest →
        gateway.share name (gateway.runDrawn s before) drawn = .foreign →
        (gateway.runDrawn s before).FadesAt (gateway.runDrawn s (before ++ [drawn])) name) ∧
      ∀ (path : Text) (visit : Visit), visit.session = some name →
        gateway.Followed name path visit ((gateway.serveLink path).run.run visit) := by
  refine ⟨replies_strike hsingle hforward (.refl name s), fun before drawn rest _ hforeign => ?_,
    fun path visit hshown => followed_serveLink gateway path hshown⟩
  have hlast : gateway.runDrawn s (before ++ [drawn]) =
      gateway.afterDrawn (gateway.runDrawn s before) drawn := List.foldl_append
  rw [hlast]
  exact (fadesAt_of_foreign (single_runDrawn gateway hsingle before) hforeign).1

/-- Two visitors begin sessions, and the first one comes back. -/
def twoVisitors : List Event :=
  [.ask (getRequest "/challenge") none 0, .wait 1, .ask (getRequest "/challenge") none 1,
    .ask (getRequest "/") (some "sid-1") 2]

/-- Without the second of two visitors, the first one gets the same two replies. -/
theorem twoVisitors_isolated :
    (plainGateway.replies "sid-1" noSessions (plainGateway.drawnOf noSessions twoVisitors)).length = 2 ∧
      (plainGateway.strike "sid-1" noSessions (plainGateway.drawnOf noSessions twoVisitors)).length = 3 ∧
      plainGateway.replies "sid-1" noSessions
          (plainGateway.strike "sid-1" noSessions (plainGateway.drawnOf noSessions twoVisitors)) =
        plainGateway.replies "sid-1" noSessions (plainGateway.drawnOf noSessions twoVisitors) := by
  refine ⟨by decide +kernel, by decide +kernel, (session_isolated plainGateway "sid-1" ?_ ?_).1⟩
  · exact List.nodup_nil
  · intro drawn hdrawn
    simp only [drawnOf, twoVisitors, List.mem_cons, List.not_mem_nil, or_false] at hdrawn
    rcases hdrawn with rfl | rfl | rfl | rfl
    · trivial
    · exact (by decide : (0 : Rat) ≤ 1)
    · trivial
    · trivial

end Gateway

end VeiledGateway
