/-
  Comparing rewriting programs.

  Two programs run the same if no session tells them apart but by what they note.  To tell two programs
  apart it is enough to look at sessions whose tables answer both; and there are such sessions for any
  two programs that never fail by themselves, also if one token is to stand for all names, and all
  texts are to be cut behind their first code point.
-/
import VeiledGateway.Proofs.Context.Repeating

set_option autoImplicit false

namespace VeiledGateway

namespace Rewriting

variable {α β : Type}

/-- In every session two programs have the same outcome and leave the same context. -/
def SameRuns (p q : Rewriting α) : Prop :=
  ∀ c : Context, (c.run p).1 = (c.run q).1 ∧ (c.run p).2.1 = (c.run q).2.1

theorem SameRuns.refl (p : Rewriting α) : p.SameRuns p :=
  fun _ => ⟨rfl, rfl⟩

theorem SameRuns.bind {p q : Rewriting α} {f g : α → Rewriting β} (h : p.SameRuns q)
    (hnext : ∀ a, (f a).SameRuns (g a)) : (p >>= f).SameRuns (q >>= g) := by
  intro c
  have hfirst := h c
  rw [Context.run_bind, Context.run_bind]
  rcases hp : c.run p with ⟨fault | a, d, notes⟩ <;> rcases hq : c.run q with ⟨fault' | b, e, notes'⟩ <;>
    rw [hp, hq] at hfirst
  · exact ⟨congrArg Except.error (Except.error.inj hfirst.1), hfirst.2⟩
  · exact nomatch hfirst.1
  · exact nomatch hfirst.1
  · obtain ⟨hok, hcontext⟩ := hfirst
    obtain rfl := Except.ok.inj hok
    obtain rfl : d = e := hcontext
    exact hnext a d

/-- Tables that answer both programs give them the same answer. -/
theorem SameRuns.answer_eq {p q : Rewriting α} (h : p.SameRuns q) {c : Context} {a b : α}
    (ha : c.Answers p a) (hb : c.Answers q b) : a = b := by
  obtain ⟨notes, hp⟩ := Context.run_of_answers ha
  obtain ⟨notes', hq⟩ := Context.run_of_answers hb
  have hout := (h c).1
  rw [hp, hq] at hout
  exact Except.ok.inj hout

end Rewriting

namespace Context

variable {α : Type} {c : Context}

/-- The layout that cuts a text behind its first code point. -/
def headLayout : Text := "1"

theorem split_headLayout (text : Text) : ∃ parts, Layout.split text headLayout = .ok parts := by
  have hdigits : Layout.IsDigits headLayout := by decide
  exact hdigits.exists_split text

/-- Every table that has an entry for a name has this token for it, and every layout is the one that
cuts behind the first code point. -/
structure Uniform (c : Context) (tok : Text) : Prop where
  token {naming : Naming} {original value : Text}
    (h : (c.table naming).value? original = some value) : value = tok
  layout {text layout : Text} (h : c.textChunks.value? text = some layout) : layout = headLayout

/-- The tables have entries for all of these names and texts. -/
def Covers (c : Context) (names texts : List Text) : Prop :=
  (∀ name ∈ names, ∀ naming, ∃ tok, (c.table naming).value? name = some tok) ∧
    ∀ text ∈ texts, ∃ layout, c.textChunks.value? text = some layout

theorem get?_const {names : List Text} {name value : Text} :
    Entries.get? (names.map fun name => (name, value)) name = if name ∈ names then some value else none := by
  induction names with
  | nil => rfl
  | cons first rest ih =>
    rw [List.map_cons, Entries.get?, ih]
    by_cases h : first = name
    · simp [h]
    · simp [h, Ne.symm h]

/-- There is a context that has one token for all names of a list, and one layout for all texts of
another. -/
theorem exists_uniform (tok : Text) (names texts : List Text) :
    ∃ c : Context, c.Uniform tok ∧ c.Covers names texts := by
  let all : Entries Text := names.map fun name => (name, tok)
  let layouts : Entries Text := texts.map fun text => (text, headLayout)
  refine ⟨.ofMappings [] ⟨all, all, all, layouts, all⟩ (Twister.ofSeed 0), ⟨?_, ?_⟩, ?_, ?_⟩
  · intro naming original value h
    have h : Entries.get? all original = some value := by cases naming <;> exact h
    rw [get?_const] at h
    split at h
    · exact (Option.some.inj h).symm
    · cases h
  · intro text layout h
    have h : Entries.get? layouts text = some layout := h
    rw [get?_const] at h
    split at h
    · exact (Option.some.inj h).symm
    · cases h
  · intro name hname naming
    have h : Entries.get? all name = some tok := by rw [get?_const, if_pos hname]
    cases naming <;> exact ⟨tok, h⟩
  · intro text htext
    exact ⟨headLayout, by
      change Entries.get? layouts text = _
      rw [get?_const, if_pos htext]⟩

theorem Covers.mono {names names' texts texts' : List Text} (h : c.Covers names texts)
    (hnames : names' ⊆ names) (htexts : texts' ⊆ texts) : c.Covers names' texts' :=
  ⟨fun name hname => h.1 name (hnames hname), fun text htext => h.2 text (htexts htext)⟩

/-- A program that never fails by itself is answered by every such context with enough entries. -/
theorem exists_covering {post : α → Prop} {p : Rewriting α} (hp : p.Ensures post) (tok : Text) :
    ∃ names texts, ∀ c : Context, c.Uniform tok → c.Covers names texts → ∃ a, c.Answers p a := by
  induction p with
  | done a => exact ⟨[], [], fun _ _ _ => ⟨a, rfl⟩⟩
  | fail fault => exact absurd hp id
  | name naming original next ih =>
    obtain ⟨names, texts, h⟩ := ih tok (hp tok)
    refine ⟨original :: names, texts, fun c huniform hcovers => ?_⟩
    obtain ⟨tok', htok⟩ := hcovers.1 original List.mem_cons_self naming
    obtain rfl := huniform.token htok
    obtain ⟨a, ha⟩ := h c huniform
      (hcovers.mono (List.subset_cons_of_subset _ (List.Subset.refl _)) (List.Subset.refl _))
    exact ⟨a, tok', htok, ha⟩
  | pieces text next ih =>
    obtain ⟨parts, hparts⟩ := split_headLayout text
    obtain ⟨names, texts, h⟩ := ih parts (hp parts)
    refine ⟨names, text :: texts, fun c huniform hcovers => ?_⟩
    obtain ⟨layout, hlayout⟩ := hcovers.2 text List.mem_cons_self
    obtain rfl := huniform.layout hlayout
    obtain ⟨a, ha⟩ := h c huniform
      (hcovers.mono (List.Subset.refl _) (List.subset_cons_of_subset _ (List.Subset.refl _)))
    exact ⟨a, parts, ⟨_, hlayout, hparts⟩, ha⟩
  | note n next ih => exact ih hp

/-- For two programs that never fail by themselves there is one context that answers both, with one
token for all names. -/
theorem exists_answering {β : Type} {post : α → Prop} {after : β → Prop} {p : Rewriting α}
    {q : Rewriting β} (hp : p.Ensures post) (hq : q.Ensures after) (tok : Text) :
    ∃ c : Context, c.Uniform tok ∧ (∃ a, c.Answers p a) ∧ ∃ b, c.Answers q b := by
  obtain ⟨names, texts, hp⟩ := exists_covering hp tok
  obtain ⟨names', texts', hq⟩ := exists_covering hq tok
  obtain ⟨c, huniform, hcovers⟩ := exists_uniform tok (names ++ names') (texts ++ texts')
  exact ⟨c, huniform,
    hp c huniform (hcovers.mono (List.subset_append_left _ _) (List.subset_append_left _ _)),
    hq c huniform (hcovers.mono (List.subset_append_right _ _) (List.subset_append_right _ _))⟩

end Context

end VeiledGateway
