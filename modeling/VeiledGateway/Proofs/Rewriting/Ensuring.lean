/-
  What rewriting programs ask for, and what they ensure.

  A program asks for the tokens of names and for the pieces of texts, and what it asks for next may
  depend on every answer before.  `AsksOnly allowed` says that whatever the answers are, every name
  whose token it asks for is allowed.  The property is kept when programs follow each other, so that
  it holds of a program as soon as it holds of the requests from which the program is built.

  A program ensures something of its result when it never fails by itself, and when its result has
  the property whatever the answers to its requests are.  Such a program, run in a session, can only
  fail because a request has no answer.  A program that yields something may fail by itself too, and
  one that is doomed does so whatever it is answered.
-/
import VeiledGateway.Context
import VeiledGateway.Rewriting

set_option autoImplicit false

namespace VeiledGateway.Rewriting

variable {α β γ : Type}

/-! ## The laws of programs -/

theorem bind_done (p : Rewriting α) : p.bind .done = p := by
  induction p with
  | done a => rfl
  | fail fault => rfl
  | name naming original next ih => simp only [bind, ih]
  | pieces text next ih => simp only [bind, ih]
  | note n next ih => simp only [bind, ih]

theorem bind_bind (p : Rewriting α) (f : α → Rewriting β) (g : β → Rewriting γ) :
    (p.bind f).bind g = p.bind fun a => (f a).bind g := by
  induction p with
  | done a => rfl
  | fail fault => rfl
  | name naming original next ih => simp only [bind, ih]
  | pieces text next ih => simp only [bind, ih]
  | note n next ih => simp only [bind, ih]

instance : LawfulMonad Rewriting :=
  LawfulMonad.mk' Rewriting bind_done (fun _ _ => rfl) bind_bind

/-! ## Requests -/

/-- Every name whose token a program asks for, whatever it is answered, is allowed. -/
def AsksOnly (allowed : Naming → Text → Prop) : Rewriting α → Prop
  | .done _ => True
  | .fail _ => True
  | .name naming original next => allowed naming original ∧ ∀ tok, AsksOnly allowed (next tok)
  | .pieces _ next => ∀ parts, AsksOnly allowed (next parts)
  | .note _ next => AsksOnly allowed next

variable {allowed : Naming → Text → Prop}

theorem AsksOnly.bind {p : Rewriting α} {f : α → Rewriting β} (hp : p.AsksOnly allowed)
    (hf : ∀ a, (f a).AsksOnly allowed) : (p >>= f).AsksOnly allowed := by
  induction p with
  | done a => exact hf a
  | fail fault => trivial
  | name naming original next ih => exact ⟨hp.1, fun tok => ih tok (hp.2 tok)⟩
  | pieces text next ih => exact fun parts => ih parts (hp parts)
  | note n next ih => exact ih hp

theorem asksOnly_pure (a : α) : (pure a : Rewriting α).AsksOnly allowed :=
  trivial

theorem asksOnly_ofExcept (outcome : Except Fault α) : (ofExcept outcome).AsksOnly allowed := by
  cases outcome <;> trivial

theorem AsksOnly.map {p : Rewriting α} (hp : p.AsksOnly allowed) (f : α → β) :
    (f <$> p).AsksOnly allowed := by
  rw [map_eq_pure_bind]
  exact hp.bind fun a => asksOnly_pure (f a)

theorem asksOnly_mapM {f : α → Rewriting β} (items : List α)
    (hf : ∀ item ∈ items, (f item).AsksOnly allowed) : (items.mapM f).AsksOnly allowed := by
  induction items with
  | nil =>
    rw [List.mapM_nil]
    exact asksOnly_pure []
  | cons item rest ih =>
    rw [List.mapM_cons]
    refine (hf item List.mem_cons_self).bind fun first => ?_
    refine AsksOnly.bind (ih fun other hother => hf other (List.mem_cons_of_mem _ hother)) ?_
    exact fun others => asksOnly_pure (first :: others)

theorem asksOnly_noting (n : Note) : (noting n).AsksOnly allowed :=
  trivial

theorem asksOnly_textPieces (text : Text) : (textPieces text).AsksOnly allowed :=
  fun _ => trivial

end VeiledGateway.Rewriting

namespace VeiledGateway

/-! ## What sessions allow -/

/-- A session with these settings gives a name a token unless it is a class that stays as it is. -/
def Settings.Allows (settings : Settings) (naming : Naming) (original : Text) : Prop :=
  naming = .className → settings.isExcludedClass original = false

namespace Rewriting

variable {settings : Settings}

theorem asksOnly_identifier (original : Text) :
    (identifier original).AsksOnly settings.Allows :=
  ⟨nofun, fun _ => trivial⟩

theorem asksOnly_elementId (original : Text) :
    (elementId original).AsksOnly settings.Allows :=
  ⟨nofun, fun _ => trivial⟩

theorem asksOnly_link (linkSettings : Settings) (path : Text) :
    (link linkSettings path).AsksOnly settings.Allows :=
  ⟨nofun, fun _ => trivial⟩

/-- A class that stays as it is, is not asked for. -/
theorem asksOnly_className (original : Text) :
    (className settings original).AsksOnly settings.Allows := by
  unfold className
  split
  · exact asksOnly_pure original
  · rename_i hexcluded
    exact ⟨fun _ => Bool.eq_false_iff.mpr hexcluded, fun _ => trivial⟩

end Rewriting

/-! ## Programs that come to results -/

/-- A request has no answer. -/
def Fault.IsOfRequest : Fault → Prop
  | .unencodable _ => True
  | .badLayout _ => True
  | _ => False

namespace Rewriting

variable {α β : Type} {post : α → Prop} {after : β → Prop}

/-- Whatever a program is answered, it comes to a result, of which `post` holds. -/
def Ensures (post : α → Prop) : Rewriting α → Prop
  | .done a => post a
  | .fail _ => False
  | .name _ _ next => ∀ tok, Ensures post (next tok)
  | .pieces _ next => ∀ parts, Ensures post (next parts)
  | .note _ next => Ensures post next

theorem Ensures.mono {weaker : α → Prop} {p : Rewriting α} (hp : p.Ensures post)
    (h : ∀ a, post a → weaker a) : p.Ensures weaker := by
  induction p with
  | done a => exact h a hp
  | fail fault => exact hp
  | name naming original next ih => exact fun tok => ih tok (hp tok)
  | pieces text next ih => exact fun parts => ih parts (hp parts)
  | note n next ih => exact ih hp

theorem Ensures.bind {p : Rewriting α} {f : α → Rewriting β} (hp : p.Ensures post)
    (hf : ∀ a, post a → (f a).Ensures after) : (p >>= f).Ensures after := by
  induction p with
  | done a => exact hf a hp
  | fail fault => exact hp
  | name naming original next ih => exact fun tok => ih tok (hp tok)
  | pieces text next ih => exact fun parts => ih parts (hp parts)
  | note n next ih => exact ih hp

theorem ensures_pure {a : α} (h : post a) : (pure a : Rewriting α).Ensures post :=
  h

theorem ensures_ofExcept (post : α → Prop) {outcome : Except Fault α} {a : α} (hok : outcome = .ok a) (h : post a) :
    (ofExcept outcome).Ensures post := by
  rw [hok]
  exact h

theorem ensures_noting (n : Note) : (noting n).Ensures fun _ => True :=
  trivial

theorem Ensures.map {p : Rewriting α} (hp : p.Ensures post) {f : α → β}
    (hf : ∀ a, post a → after (f a)) : (f <$> p).Ensures after := by
  rw [map_eq_pure_bind]
  exact hp.bind fun a ha => ensures_pure (hf a ha)

/-- Programs for the items of a list ensure of each result what the program for one item does. -/
theorem ensures_mapM {f : α → Rewriting β} {items : List α}
    (hf : ∀ item ∈ items, (f item).Ensures after) :
    (items.mapM f).Ensures fun results => ∀ b ∈ results, after b := by
  induction items with
  | nil =>
    rw [List.mapM_nil]
    exact ensures_pure fun b hb => absurd hb List.not_mem_nil
  | cons item rest ih =>
    rw [List.mapM_cons]
    refine (hf item List.mem_cons_self).bind fun first hfirst => ?_
    refine (ih fun other hother => hf other (List.mem_cons_of_mem _ hother)).bind fun others h => ?_
    exact ensures_pure (List.forall_mem_cons.mpr ⟨hfirst, h⟩)

/-! ## Requests -/

theorem ensures_identifier (name : Text) : (identifier name).Ensures fun _ => True :=
  fun _ => trivial

theorem ensures_elementId (name : Text) : (elementId name).Ensures fun _ => True :=
  fun _ => trivial

theorem ensures_className (settings : Settings) (name : Text) :
    (className settings name).Ensures fun _ => True := by
  unfold className
  split
  · exact ensures_pure trivial
  · exact fun _ => trivial

theorem ensures_link (settings : Settings) (path : Text) :
    (link settings path).Ensures fun _ => True :=
  fun _ => trivial

theorem ensures_textPieces (text : Text) : (textPieces text).Ensures fun _ => True :=
  fun _ => trivial

/-! ## Programs that may fail -/

/-- Whatever a program is answered, `post` holds of its result if it comes to one. -/
def Yields (post : α → Prop) : Rewriting α → Prop
  | .done a => post a
  | .fail _ => True
  | .name _ _ next => ∀ tok, Yields post (next tok)
  | .pieces _ next => ∀ parts, Yields post (next parts)
  | .note _ next => Yields post next

/-- Whatever a program is answered, it fails. -/
def Doomed (p : Rewriting α) : Prop :=
  p.Yields fun _ => False

theorem Yields.bind {p : Rewriting α} {f : α → Rewriting β} (hp : p.Yields post)
    (hf : ∀ a, post a → (f a).Yields after) : (p >>= f).Yields after := by
  induction p with
  | done a => exact hf a hp
  | fail fault => trivial
  | name naming original next ih => exact fun tok => ih tok (hp tok)
  | pieces text next ih => exact fun parts => ih parts (hp parts)
  | note n next ih => exact ih hp

theorem Yields.mono {weaker : α → Prop} {p : Rewriting α} (hp : p.Yields post)
    (h : ∀ a, post a → weaker a) : p.Yields weaker := by
  induction p with
  | done a => exact h a hp
  | fail fault => trivial
  | name naming original next ih => exact fun tok => ih tok (hp tok)
  | pieces text next ih => exact fun parts => ih parts (hp parts)
  | note n next ih => exact ih hp

theorem yields_pure {a : α} (h : post a) : (pure a : Rewriting α).Yields post :=
  h

theorem yields_true (p : Rewriting α) : p.Yields fun _ => True := by
  induction p with
  | done a => trivial
  | fail fault => trivial
  | name naming original next ih => exact ih
  | pieces text next ih => exact ih
  | note n next ih => exact ih

theorem Yields.and {also : α → Prop} {p : Rewriting α} (h : p.Yields post) (halso : p.Yields also) :
    p.Yields fun a => post a ∧ also a := by
  induction p with
  | done a => exact ⟨h, halso⟩
  | fail fault => trivial
  | name naming original next ih => exact fun tok => ih tok (h tok) (halso tok)
  | pieces text next ih => exact fun parts => ih parts (h parts) (halso parts)
  | note n next ih => exact ih h halso

theorem Ensures.yields {p : Rewriting α} (hp : p.Ensures post) : p.Yields post := by
  induction p with
  | done a => exact hp
  | fail fault => trivial
  | name naming original next ih => exact fun tok => ih tok (hp tok)
  | pieces text next ih => exact fun parts => ih parts (hp parts)
  | note n next ih => exact ih hp

/-- What a program yields it ensures, if it never fails by itself. -/
theorem Yields.ensures {p : Rewriting α} (hp : p.Yields post) (h : p.Ensures fun _ => True) :
    p.Ensures post := by
  induction p with
  | done a => exact hp
  | fail fault => exact absurd h id
  | name naming original next ih => exact fun tok => ih tok (hp tok) (h tok)
  | pieces text next ih => exact fun parts => ih parts (hp parts) (h parts)
  | note n next ih => exact ih hp h

theorem Doomed.bind {p : Rewriting α} (hp : p.Doomed) (f : α → Rewriting β) : (p >>= f).Doomed :=
  Yields.bind hp fun _ h => absurd h id

/-- One program that is bound to fail makes a list of them fail. -/
theorem doomed_mapM {f : α → Rewriting β} {items : List α} {item : α} (hitem : item ∈ items)
    (h : (f item).Doomed) : (items.mapM f).Doomed := by
  induction items with
  | nil => cases hitem
  | cons first rest ih =>
    rw [List.mapM_cons]
    obtain rfl | hrest := List.mem_cons.mp hitem
    · exact h.bind _
    · exact (yields_true _).bind fun _ _ => (ih hrest).bind _

/-- A program that comes to a result is not bound to fail. -/
theorem not_doomed_of_ensures {p : Rewriting α} (hp : p.Ensures post) : ¬ p.Doomed := by
  induction p with
  | done a => exact id
  | fail fault => exact absurd hp id
  | name naming original next ih => exact fun h => ih [] (hp []) (h [])
  | pieces text next ih => exact fun h => ih [] (hp []) (h [])
  | note n next ih => exact ih hp

theorem doomed_ofExcept {outcome : Except Fault α} (h : ¬ ∃ a, outcome = .ok a) :
    (ofExcept outcome).Doomed := by
  cases outcome with
  | ok a => exact absurd ⟨a, rfl⟩ h
  | error fault => trivial

end Rewriting

namespace Context

theorem isOfRequest_of_answerName {c d : Context} {naming : Naming} {original : Text}
    {fault : Fault} (h : c.answerName naming original = (.error fault, d)) : fault.IsOfRequest := by
  unfold answerName at h
  split at h
  · cases (Prod.mk.inj h).1
  · dsimp only at h
    split at h
    · cases (Prod.mk.inj h).1
      trivial
    · cases (Prod.mk.inj h).1

theorem isOfRequest_of_answerPieces {c d : Context} {text : Text} {fault : Fault}
    (h : c.answerPieces text = (.error fault, d)) : fault.IsOfRequest := by
  unfold answerPieces at h
  dsimp only at h
  split at h
  · cases (Prod.mk.inj h).1
  · cases (Prod.mk.inj h).1
    trivial

/-- A program that ensures something fails in a session only for want of an answer. -/
theorem run_of_ensures {α : Type} {post : α → Prop} {p : Rewriting α} (hp : p.Ensures post)
    (c : Context) :
    (∃ a, (c.run p).1 = .ok a ∧ post a) ∨
      ∃ fault, (c.run p).1 = .error fault ∧ fault.IsOfRequest := by
  induction p generalizing c with
  | done a => exact .inl ⟨a, rfl, hp⟩
  | fail fault => exact absurd hp id
  | name naming original next ih =>
    rw [run]
    rcases hcase : c.answerName naming original with ⟨fault | tok, d⟩
    · exact .inr ⟨fault, rfl, isOfRequest_of_answerName hcase⟩
    · exact ih tok (hp tok) d
  | pieces text next ih =>
    rw [run]
    rcases hcase : c.answerPieces text with ⟨fault | parts, d⟩
    · exact .inr ⟨fault, rfl, isOfRequest_of_answerPieces hcase⟩
    · exact ih parts (hp parts) d
  | note n next ih => exact ih hp c

/-- Whatever session a program is run in, what it yields holds of its result. -/
theorem run_of_yields {α : Type} {post : α → Prop} {p : Rewriting α} (hp : p.Yields post)
    (c : Context) {a : α} (h : (c.run p).1 = .ok a) : post a := by
  induction p generalizing c with
  | done a' =>
    obtain rfl := Except.ok.inj h
    exact hp
  | fail fault => cases h
  | name naming original next ih =>
    rw [run] at h
    rcases hcase : c.answerName naming original with ⟨fault | tok, d⟩ <;> rw [hcase] at h
    · cases h
    · exact ih tok (hp tok) d h
  | pieces text next ih =>
    rw [run] at h
    rcases hcase : c.answerPieces text with ⟨fault | parts, d⟩ <;> rw [hcase] at h
    · cases h
    · exact ih parts (hp parts) d h
  | note n next ih => exact ih hp c h

/-- One program after another, run in a session. -/
theorem run_bind {α β : Type} (p : Rewriting α) (f : α → Rewriting β) (c : Context) :
    c.run (p >>= f) = match c.run p with
      | (.ok a, d, notes) => ((d.run (f a)).1, (d.run (f a)).2.1, notes ++ (d.run (f a)).2.2)
      | (.error fault, d, notes) => (.error fault, d, notes) := by
  induction p generalizing c with
  | done a => rfl
  | fail fault => rfl
  | name naming original next ih =>
    change c.run (.name naming original fun tok => next tok >>= f) = _
    rw [run, run]
    rcases c.answerName naming original with ⟨fault | tok, d⟩
    · rfl
    · exact ih tok d
  | pieces text next ih =>
    change c.run (.pieces text fun parts => next parts >>= f) = _
    rw [run, run]
    rcases c.answerPieces text with ⟨fault | parts, d⟩
    · rfl
    · exact ih parts d
  | note n next ih =>
    change c.run (.note n (next >>= f)) = _
    rw [run, run, ih]
    rcases c.run next with ⟨fault | a, d, notes⟩ <;> rfl

/-- A program whose last part ensures something fails in a session only where its first part does, or
for want of an answer. -/
theorem run_of_yields_bind {α β : Type} {post : α → Prop} {p : Rewriting α} {f : α → Rewriting β}
    (hp : p.Yields post) (hf : ∀ a, post a → (f a).Ensures fun _ => True) (c : Context) :
    (∃ b, (c.run (p >>= f)).1 = .ok b) ∨ ∃ fault, (c.run (p >>= f)).1 = .error fault ∧
      (fault.IsOfRequest ∨ (c.run p).1 = .error fault) := by
  rw [run_bind]
  rcases hrun : c.run p with ⟨fault | a, d, notes⟩
  · exact .inr ⟨fault, rfl, .inr rfl⟩
  · have ha : post a := run_of_yields hp c (by rw [hrun])
    rcases run_of_ensures (hf a ha) d with ⟨b, hb, -⟩ | ⟨fault, hfault, hrequest⟩
    · exact .inl ⟨b, hb⟩
    · exact .inr ⟨fault, hfault, .inl hrequest⟩

end Context

end VeiledGateway
