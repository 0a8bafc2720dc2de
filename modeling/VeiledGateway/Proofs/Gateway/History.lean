/-
  Histories: what a gateway has done from its start on, and what that says of its sessions.

  A history is the sessions after some events and the deeds on the way.  That the gate is faithful is
  shown by an invariant (`Sound`): every challenge that is kept stands where the deeds have put it.
  What one event does to the challenges is told by `turn_after`.
-/
import VeiledGateway.Proofs.Gateway.Effect
import VeiledGateway.Proofs.Session.Challenges

set_option autoImplicit false

namespace VeiledGateway

/-- The sessions after some events, and the deeds on the way, the first one first. -/
structure History where
  sessions : Sessions
  deeds : List Deed

namespace Deed

/-- A challenge was issued to a session and no other one since, and from then on these solutions were
accepted from that session, and no others. -/
def Since (name : Text) (challenge : Challenge) (solutions : List Json) (deeds : List Deed) : Prop :=
  ∃ before after, deeds = before ++ issued name challenge :: after ∧
    after.filter (fun deed => deed.name = name) = solutions.map (accepted name)

variable {name : Text} {challenge : Challenge} {solutions : List Json} {deeds : List Deed}

theorem since_issued (name : Text) (challenge : Challenge) (deeds : List Deed) :
    Since name challenge [] (deeds ++ [issued name challenge]) :=
  ⟨deeds, [], rfl, rfl⟩

theorem Since.accepted (h : Since name challenge solutions deeds) (solution : Json) :
    Since name challenge (solutions ++ [solution]) (deeds ++ [accepted name solution]) := by
  obtain ⟨before, after, rfl, hafter⟩ := h
  refine ⟨before, after ++ [.accepted name solution], by simp, ?_⟩
  rw [List.filter_append, hafter, List.map_append]
  simp [Deed.name]

/-- Deeds about other sessions change nothing. -/
theorem Since.other (h : Since name challenge solutions deeds) {deed : Deed}
    (hdeed : deed.name ≠ name) : Since name challenge solutions (deeds ++ [deed]) := by
  obtain ⟨before, after, rfl, hafter⟩ := h
  refine ⟨before, after ++ [deed], by simp, ?_⟩
  rw [List.filter_append, hafter]
  simp [hdeed]

end Deed

namespace Gateway

/-- The session of a name is given up, or its time runs out in the service that keeps it. -/
def Event.Ends (gateway : Gateway) (event : Event) (name : Text) : Prop :=
  (∃ request seed, event = .ask request (some name) seed ∧
    gateway.endpoint? request = some .logout) ∨
  event = .lapse name

variable {gateway : Gateway} {event : Event} {s s' : Sessions} {deed : Option Deed}

/-- The deed that an event brings. -/
def deedAt? (gateway : Gateway) (s : Sessions) : Event → Option Deed
  | .ask request shown seed => gateway.deed? request (visitOf s shown seed)
  | _ => none

/-- A history goes on with an event. -/
def extend (gateway : Gateway) (history : History) (event : Event) : History :=
  ⟨gateway.after history.sessions event,
    history.deeds ++ (gateway.deedAt? history.sessions event).toList⟩

/-- The history of some events from the first sessions on. -/
def history (gateway : Gateway) (s : Sessions) (events : List Event) : History :=
  events.foldl gateway.extend ⟨s, []⟩

/-- The sessions of a history are those of the run. -/
theorem history_sessions (gateway : Gateway) (s : Sessions) (events : List Event) :
    (gateway.history s events).sessions = gateway.run s events := by
  have hfold : ∀ history : History,
      (events.foldl gateway.extend history).sessions = gateway.run history.sessions events := by
    induction events with
    | nil => exact fun _ => rfl
    | cons event rest ih => exact fun history => ih (gateway.extend history event)
  exact hfold ⟨s, []⟩

/-! ## What an event does to the challenges -/

/-- What an event does to the challenges that are kept, by its deed. -/
inductive Turn (gateway : Gateway) (event : Event) (s s' : Sessions) : Option Deed → Prop where
  | rests (h : ∀ name, s.HoldsAt s' name ∨
      event.Ends gateway name ∧ s'.challenge? name = none) : Turn gateway event s s' none
  | issues {name : Text} {challenge : Challenge} (hunpassed : s.Passed name → s.RunOut name)
      (hfresh : challenge.solved = false) (hdifficulty : challenge.difficulty = gateway.difficulty)
      (hafter : s'.challenge? name = some challenge)
      (hothers : ∀ other, other ≠ name → s.HoldsAt s' other) :
      Turn gateway event s s' (some (.issued name challenge))
  | accepts {name : Text} {solution : Json} {challenge : Challenge}
      (hbefore : s.challenge? name = some challenge) (hunsolved : challenge.solved = false)
      (hsolved : challenge.SolvedBy solution)
      (hafter : s'.challenge? name = some { challenge with solved := true })
      (hothers : ∀ other, other ≠ name → s.HoldsAt s' other) :
      Turn gateway event s s' (some (.accepted name solution))

section Asking

variable {request : Request} {shown : Option Text}

theorem Effect.orderly (h : Effect gateway request shown s s' deed) (horderly : s.Orderly) :
    s'.Orderly := by
  cases h with
  | tends htends =>
    rcases htends with hfades | ⟨name, record, mid, after, hfinds, -, hstores⟩
    · exact hfades.orderly horderly
    · exact hstores.orderly (hfinds.fades.orderly horderly)
  | givesUp _ _ hfades hloses => exact hloses.orderly (hfades.orderly horderly)
  | issues hfinds _ _ _ hstores => exact hstores.orderly (hfinds.fades.orderly horderly)
  | accepts hfinds _ _ _ hstores => exact hstores.orderly (hfinds.fades.orderly horderly)

theorem Effect.turn {seed : Int} (h : Effect gateway request shown s s' deed)
    (hwritten : s.Written) : Turn gateway (.ask request shown seed) s s' deed := by
  cases h with
  | tends htends =>
    refine .rests fun other => .inl ?_
    rcases htends with hfades | ⟨name, record, mid, after, hfinds, hsame, hstores⟩
    · exact hfades.holdsAt hwritten other
    · by_cases hother : other = name
      · subst hother
        have hafter : s'.challenge? other = record.challenge := hstores.challenge?.trans hsame
        rcases hfinds.challenge hwritten with hkept | ⟨hnew, hrunOut⟩
        · exact .inl (hafter.trans hkept)
        · exact .inr ⟨hafter.trans hnew, hrunOut⟩
      · exact hfinds.holdsAt_of_stores hstores hwritten hother
  | @givesUp name mid hshown hendpoint hfades hloses =>
    refine .rests fun other => ?_
    have hmid := hfades.written hwritten
    by_cases hother : other = name
    · subst hother
      rcases hloses.challenge? hmid with hsame | hnone
      · exact .inl (hfades.holdsAt_trans hwritten (.inl hsame))
      · exact .inr ⟨.inl ⟨request, seed, by rw [hshown], hendpoint⟩, hnone⟩
    · exact .inl (hfades.holdsAt_trans hwritten (hloses.holdsAt hmid hother))
  | issues hfinds hpassed hfresh hdifficulty hstores =>
    refine .issues ?_ hfresh hdifficulty hstores.challenge? fun other hother =>
      hfinds.holdsAt_of_stores hstores hwritten hother
    intro hwas
    rcases hfinds.challenge hwritten with hkept | ⟨-, hrunOut⟩
    · obtain ⟨challenge, hchallenge, hsolved⟩ := Sessions.passed_iff.mp hwas
      rw [hchallenge] at hkept
      simp [Record.passed, Record.gateState, hkept, hsolved] at hpassed
    · exact hrunOut
  | accepts hfinds hchallenge hunsolved hsolved hstores =>
    refine .accepts ?_ hunsolved hsolved hstores.challenge? fun other hother =>
      hfinds.holdsAt_of_stores hstores hwritten hother
    rcases hfinds.challenge hwritten with hkept | ⟨hnew, -⟩
    · exact hkept.symm.trans hchallenge
    · rw [hchallenge] at hnew
      cases hnew

end Asking

/-- A time that runs out in the service takes away what is under its name. -/
theorem loses_lapse (gateway : Gateway) (s : Sessions) (name : Text) :
    s.Loses name (gateway.after s (.lapse name)) := by
  unfold after changeService
  cases hstore : s.store with
  | memory store => exact ⟨rfl, id, .inl rfl, fun _ _ => rfl⟩
  | remote store service =>
    refine ⟨rfl, fun _ => trivial, .inr ?_, fun other hother => ?_⟩
    · rw [Sessions.kept?_remote rfl]
      exact congrArg (Option.map _) (Entries.get?_erase_self _ _)
    · rw [Sessions.kept?_remote rfl, Sessions.kept?_remote hstore]
      exact congrArg (Option.map _) (Entries.get?_erase_of_ne _ (Sessions.key_ne store hother))

theorem fades_outage (gateway : Gateway) (s : Sessions) (refusing : List Text) (lockFree : Bool) :
    s.Fades (gateway.after s (.outage refusing lockFree)) := by
  unfold after changeService
  cases hstore : s.store with
  | memory store => exact Sessions.Fades.refl s
  | remote store service =>
    refine ⟨rfl, fun _ => trivial, fun name => .inl ?_⟩
    rw [Sessions.kept?_remote rfl, Sessions.kept?_remote hstore]

theorem orderly_after (gateway : Gateway) (horderly : s.Orderly) (event : Event) :
    (gateway.after s event).Orderly := by
  cases event with
  | ask request shown seed =>
    exact (effect_answer gateway request (visitOf s shown seed) horderly.single).orderly horderly
  | wait seconds => exact ⟨horderly.single, horderly.written⟩
  | lapse name => exact (loses_lapse gateway s name).orderly horderly
  | outage refusing lockFree => exact (fades_outage gateway s refusing lockFree).orderly horderly

/-- What an event does to the challenges is told by its deed. -/
theorem turn_after (gateway : Gateway) (horderly : s.Orderly) (event : Event) :
    Turn gateway event s (gateway.after s event) (gateway.deedAt? s event) := by
  cases event with
  | ask request shown seed =>
    exact (effect_answer gateway request (visitOf s shown seed) horderly.single).turn
      horderly.written
  | wait seconds => exact .rests fun name => .inl (.inl rfl)
  | lapse name =>
    have hloses := loses_lapse gateway s name
    refine .rests fun other => ?_
    by_cases hother : other = name
    · subst hother
      rcases hloses.challenge? horderly.written with hsame | hnone
      · exact .inl (.inl hsame)
      · exact .inr ⟨.inr rfl, hnone⟩
    · exact .inl (hloses.holdsAt horderly.written hother)
  | outage refusing lockFree =>
    exact .rests fun name =>
      .inl ((fades_outage gateway s refusing lockFree).holdsAt horderly.written name)

/-! ## Soundness -/

/-- Where the deeds have put the challenge of a session: it was issued last and waits, or a solution
of it was accepted once. -/
inductive Standing (gateway : Gateway) (deeds : List Deed) (name : Text) : Challenge → Prop where
  | waiting {challenge : Challenge} (hfresh : challenge.solved = false)
      (hdifficulty : challenge.difficulty = gateway.difficulty)
      (hsince : Deed.Since name challenge [] deeds) : Standing gateway deeds name challenge
  | solved {challenge : Challenge} {solution : Json}
      (hdifficulty : challenge.difficulty = gateway.difficulty)
      (hsince : Deed.Since name challenge [solution] deeds)
      (hsolved : challenge.SolvedBy solution) :
      Standing gateway deeds name { challenge with solved := true }

/-- A solution was accepted of the challenge issued last, from which none had been accepted. -/
def Earned (gateway : Gateway) (before : List Deed) (name : Text) (solution : Json) : Prop :=
  ∃ challenge, challenge.difficulty = gateway.difficulty ∧
    Deed.Since name challenge [] before ∧ challenge.SolvedBy solution

/-- The sessions are in order, and they and the deeds tell the same. -/
structure Sound (gateway : Gateway) (history : History) : Prop where
  orderly : history.sessions.Orderly
  standing : ∀ name challenge, history.sessions.challenge? name = some challenge →
    Standing gateway history.deeds name challenge
  earned : ∀ before name solution after,
    history.deeds = before ++ .accepted name solution :: after → gateway.Earned before name solution

theorem Standing.other {deeds : List Deed} {name : Text} {challenge : Challenge} {deed : Deed}
    (h : Standing gateway deeds name challenge) (hdeed : deed.name ≠ name) :
    Standing gateway (deeds ++ [deed]) name challenge := by
  cases h with
  | waiting hfresh hdifficulty hsince => exact .waiting hfresh hdifficulty (hsince.other hdeed)
  | solved hdifficulty hsince hsolved => exact .solved hdifficulty (hsince.other hdeed) hsolved

/-- The last deed is looked at alone. -/
theorem earned_append {deeds : List Deed} {deed : Deed}
    (h : ∀ before name solution after,
      deeds = before ++ .accepted name solution :: after → gateway.Earned before name solution)
    (hlast : ∀ name solution, deed = .accepted name solution → gateway.Earned deeds name solution) :
    ∀ before name solution after, deeds ++ [deed] = before ++ .accepted name solution :: after →
      gateway.Earned before name solution := by
  intro before name solution after heq
  rcases List.eq_nil_or_concat after with rfl | ⟨rest, last, rfl⟩
  · obtain ⟨rfl, hdeed⟩ := List.append_inj' heq rfl
    exact hlast name solution (List.cons.inj hdeed).1
  · have hassoc : deeds ++ [deed] = (before ++ .accepted name solution :: rest) ++ [last] := by
      rw [heq]
      simp
    exact h before name solution rest (List.append_inj' hassoc rfl).1

/-- A challenge that is held stands where it stood. -/
theorem Sound.holds {history : History} (h : gateway.Sound history) {name : Text}
    {challenge : Challenge} (hholds : history.sessions.HoldsAt s' name)
    (hchallenge : s'.challenge? name = some challenge) :
    Standing gateway history.deeds name challenge := by
  rcases hholds with hsame | ⟨hnone, -⟩
  · exact h.standing name challenge (hsame.symm.trans hchallenge)
  · rw [hnone] at hchallenge
    cases hchallenge

/-- After a turn, every challenge that is kept stands where the deeds have put it. -/
theorem Sound.standing_of_turn {history : History} (h : gateway.Sound history)
    (hturn : Turn gateway event history.sessions s' deed) {other : Text} {kept : Challenge}
    (hkept : s'.challenge? other = some kept) :
    Standing gateway (history.deeds ++ deed.toList) other kept := by
  cases hturn with
  | rests hrests =>
    rw [Option.toList_none, List.append_nil]
    rcases hrests other with hholds | ⟨-, hnone⟩
    · exact h.holds hholds hkept
    · rw [hnone] at hkept
      cases hkept
  | @issues name challenge _ hfresh hdifficulty hafter hothers =>
    by_cases hother : other = name
    · subst hother
      obtain rfl := Option.some.inj (hafter.symm.trans hkept)
      exact .waiting hfresh hdifficulty (Deed.since_issued other challenge history.deeds)
    · exact (h.holds (hothers other hother) hkept).other (Ne.symm hother)
  | @accepts name solution challenge hbefore hunsolved hsolved hafter hothers =>
    by_cases hother : other = name
    · subst hother
      obtain rfl := Option.some.inj (hafter.symm.trans hkept)
      cases h.standing other challenge hbefore with
      | waiting _ hdifficulty hsince =>
        exact .solved hdifficulty (hsince.accepted solution) hsolved
      | solved => cases hunsolved
    · exact (h.holds (hothers other hother) hkept).other (Ne.symm hother)

/-- What is accepted in a turn is earned, since the challenge that is kept was issued last. -/
theorem Sound.earned_of_turn {history : History} (h : gateway.Sound history)
    (hturn : Turn gateway event history.sessions s' deed) :
    ∀ before name solution after,
      history.deeds ++ deed.toList = before ++ .accepted name solution :: after →
      gateway.Earned before name solution := by
  cases hturn with
  | rests =>
    rw [Option.toList_none, List.append_nil]
    exact h.earned
  | issues => exact earned_append h.earned nofun
  | accepts hbefore hunsolved hsolved =>
    refine earned_append h.earned fun name solution hdeed => ?_
    obtain ⟨rfl, rfl⟩ := Deed.accepted.inj hdeed
    cases h.standing _ _ hbefore with
    | waiting _ hdifficulty hsince => exact ⟨_, hdifficulty, hsince, hsolved⟩
    | solved => cases hunsolved

/-- A history stays sound with every event. -/
theorem Sound.extend {history : History} (h : gateway.Sound history) (event : Event) :
    gateway.Sound (gateway.extend history event) := by
  have hturn := turn_after gateway h.orderly event
  exact ⟨orderly_after gateway h.orderly event, fun _ _ hkept => h.standing_of_turn hturn hkept,
    h.earned_of_turn hturn⟩

theorem history_sound (gateway : Gateway) (hempty : s.Empty) (events : List Event) :
    gateway.Sound (gateway.history s events) := by
  have hfold : ∀ history : History, gateway.Sound history →
      gateway.Sound (events.foldl gateway.extend history) := by
    induction events with
    | nil => exact fun _ h => h
    | cons event rest ih => exact fun history h => ih (gateway.extend history event) (h.extend event)
  refine hfold ⟨s, []⟩ ⟨hempty.orderly, ?_, ?_⟩
  · intro name challenge hchallenge
    rw [Sessions.challenge?_of_none (hempty.kept? name)] at hchallenge
    cases hchallenge
  · intro before name solution after heq
    cases before <;> cases heq

/-! ## The gate -/

/-- The gate keeps to its challenges. -/
structure Faithful (gateway : Gateway) (history : History) : Prop where
  /-- The record that is loaded for a session is the one that is kept. -/
  loaded : ∀ name record later, Sessions.load name history.sessions = (.ok (some record), later) →
    history.sessions.record? name = some record
  /-- A session has passed only by one solution of the challenge that was issued to it last. -/
  passed : ∀ name record, history.sessions.record? name = some record → record.passed = true →
    ∃ challenge solution, record.challenge = some { challenge with solved := true } ∧
      challenge.difficulty = gateway.difficulty ∧ challenge.SolvedBy solution ∧
      Deed.Since name challenge [solution] history.deeds
  /-- Whatever was accepted solved the challenge that had been issued last. -/
  earned : ∀ before name solution after,
    history.deeds = before ++ .accepted name solution :: after → gateway.Earned before name solution
  /-- Between two acceptances from one session, a new challenge was issued to it. -/
  once : ∀ before name first between second after,
    history.deeds =
      before ++ .accepted name first :: (between ++ .accepted name second :: after) →
    ∃ challenge, .issued name challenge ∈ between
  /-- A session that has passed stays so until its time has run out or it is given up. -/
  stays : ∀ event name, history.sessions.Passed name → ¬ history.sessions.RunOut name →
    ¬ event.Ends gateway name → (gateway.after history.sessions event).Passed name

theorem Sound.passed {history : History} (h : gateway.Sound history) {name : Text} {record : Record}
    (hrecord : history.sessions.record? name = some record) (hpassed : record.passed = true) :
    ∃ challenge solution, record.challenge = some { challenge with solved := true } ∧
      challenge.difficulty = gateway.difficulty ∧ challenge.SolvedBy solution ∧
      Deed.Since name challenge [solution] history.deeds := by
  obtain ⟨kept, hkept, hsolved⟩ := Sessions.passed_iff.mp ⟨record, hrecord, hpassed⟩
  have hof : record.challenge = some kept := by
    rwa [Sessions.challenge?, hrecord] at hkept
  cases h.standing name kept hkept with
  | waiting hfresh =>
    rw [hfresh] at hsolved
    cases hsolved
  | @solved challenge solution hdifficulty hsince hmeets =>
    exact ⟨challenge, solution, hof, hdifficulty, hmeets, hsince⟩

theorem Sound.once {history : History} (h : gateway.Sound history) {before between after : List Deed}
    {name : Text} {first second : Json}
    (hdeeds : history.deeds =
      before ++ .accepted name first :: (between ++ .accepted name second :: after)) :
    ∃ challenge, .issued name challenge ∈ between := by
  have hsplit : history.deeds =
      (before ++ .accepted name first :: between) ++ .accepted name second :: after := by
    rw [hdeeds, List.append_assoc, List.cons_append]
  obtain ⟨challenge, -, ⟨earlier, since, heq, hnone⟩, -⟩ := h.earned _ _ _ _ hsplit
  -- The first acceptance is no deed since that issue, so it comes before it.
  rcases List.append_eq_append_iff.mp heq with ⟨rest, -, hrest⟩ | ⟨rest, -, hrest⟩
  · cases rest with
    | nil => cases hrest
    | cons deed rest =>
      obtain ⟨-, rfl⟩ := List.cons.inj hrest
      exact ⟨challenge, by simp⟩
  · cases rest with
    | nil => cases hrest
    | cons deed rest =>
      obtain ⟨-, rfl⟩ := List.cons.inj hrest
      simp [Deed.name] at hnone

theorem Sound.stays {history : History} (h : gateway.Sound history) {name : Text}
    (hpassed : history.sessions.Passed name) (hlasts : ¬ history.sessions.RunOut name)
    (hkeeps : ¬ event.Ends gateway name) :
    (gateway.after history.sessions event).Passed name := by
  obtain ⟨challenge, hchallenge, hsolved⟩ := Sessions.passed_iff.mp hpassed
  have hholds : history.sessions.HoldsAt (gateway.after history.sessions event) name →
      (gateway.after history.sessions event).Passed name := by
    rintro (hsame | ⟨-, hrunOut⟩)
    · exact Sessions.passed_iff.mpr ⟨challenge, hsame.trans hchallenge, hsolved⟩
    · exact absurd hrunOut hlasts
  have hturn := turn_after gateway h.orderly event
  generalize gateway.deedAt? history.sessions event = deed at hturn
  cases hturn with
  | rests hrests =>
    rcases hrests name with hkept | ⟨hends, -⟩
    · exact hholds hkept
    · exact absurd hends hkeeps
  | @issues other _ hunpassed _ _ _ hothers =>
    by_cases hname : name = other
    · subst hname
      exact absurd (hunpassed hpassed) hlasts
    · exact hholds (hothers name hname)
  | @accepts other _ before hbefore hunsolved _ _ hothers =>
    by_cases hname : name = other
    · subst hname
      obtain rfl := Option.some.inj (hbefore.symm.trans hchallenge)
      rw [hunsolved] at hsolved
      cases hsolved
    · exact hholds (hothers name hname)

/-- From empty sessions on, whatever is asked and whatever names are shown, the gate keeps to its
challenges. -/
theorem history_faithful (hempty : s.Empty) (events : List Event) :
    gateway.Faithful (gateway.history s events) := by
  have hsound := history_sound gateway hempty events
  exact ⟨fun _ _ _ hload => Sessions.record?_of_load hsound.orderly.written hload,
    fun _ _ hrecord hpassed => hsound.passed hrecord hpassed, hsound.earned,
    fun _ _ _ _ _ _ hdeeds => hsound.once hdeeds,
    fun _ _ hpassed hlasts hkeeps => hsound.stays hpassed hlasts hkeeps⟩

/-- A visitor asks for a challenge and hands in a solution. -/
def firstPass : List Event :=
  [.ask (getRequest "/challenge") none 0,
    .ask { (getRequest "/verify").withForm [("solution", "11")] with method := "POST" }
      (some "sid-1") 0]

/-- A history after which a session has passed. -/
theorem firstPass_faithful :
    ((plainGateway.history noSessions firstPass).sessions.record? "sid-1").map Record.passed =
      some true ∧
    plainGateway.Faithful (plainGateway.history noSessions firstPass) := by
  have hempty : noSessions.Empty := rfl
  exact ⟨by decide +kernel, history_faithful hempty firstPass⟩

end Gateway

end VeiledGateway
