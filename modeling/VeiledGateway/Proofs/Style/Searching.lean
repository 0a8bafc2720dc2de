/-
  Searching: the searches of the scanner, code point by code point.

  What ends a token is searched for from its beginning on: the end of a comment, a quote, a parenthesis,
  the start of a name.  Each of these searches is a machine, which goes over a text and stops when it has
  found what it looks for, or cannot find it any more.  What a machine found it finds in the same place
  whatever stands behind; and an exchange of texts is safe for a machine if nothing is found after it
  that was not found before.
-/
import Mathlib.Data.List.Forall2
import Mathlib.Data.List.TakeWhile
import VeiledGateway.Proofs.Style.Spelling

set_option autoImplicit false

namespace VeiledGateway.Style

/-! ## Machines -/

/-- What a machine comes to: it goes on, or it stops and has found what it looks for or not. -/
inductive Verdict (σ : Type) where
  | go (s : σ)
  | stop (found : Bool)

/-- What each code point does to the state of a search. -/
abbrev Machine (σ : Type) := σ → CodePoint → Verdict σ

namespace Machine

variable {σ : Type} {m : Machine σ} {s : σ} {v v' : Verdict σ} {a b t rest old new : Text}

/-- What a machine comes to on a text. -/
def walk (m : Machine σ) : Verdict σ → Text → Verdict σ
  | v, [] => v
  | .go s, c :: t => walk m (m s c) t
  | .stop found, _ :: _ => .stop found

def Finds (m : Machine σ) (s : σ) (t : Text) : Prop :=
  m.walk (.go s) t = .stop true

/-- How many code points a machine takes to find what it looks for. -/
def size? (m : Machine σ) : σ → Text → Extent
  | _, [] => none
  | s, c :: t =>
    match m s c with
    | .go s => (size? m s t).map (· + 1)
    | .stop true => some 1
    | .stop false => none

@[simp] theorem walk_nil (v : Verdict σ) : m.walk v [] = v := by
  cases v <;> rfl

@[simp] theorem walk_stop (found : Bool) (t : Text) : m.walk (.stop found) t = .stop found := by
  cases t <;> rfl

theorem walk_cons (s : σ) (c : CodePoint) (t : Text) : m.walk (.go s) (c :: t) = m.walk (m s c) t :=
  rfl

theorem walk_append (v : Verdict σ) (a b : Text) : m.walk v (a ++ b) = m.walk (m.walk v a) b := by
  induction a generalizing v with
  | nil => rw [List.nil_append, walk_nil]
  | cons c a ih =>
    cases v with
    | go s => exact ih _
    | stop found => rw [walk_stop, walk_stop, walk_stop]

theorem size?_of_go {c : CodePoint} {s' : σ} (h : m s c = .go s') (t : Text) :
    m.size? s (c :: t) = (m.size? s' t).map (· + 1) := by
  rw [size?, h]

theorem size?_of_found {c : CodePoint} (h : m s c = .stop true) (t : Text) :
    m.size? s (c :: t) = some 1 := by
  rw [size?, h]

theorem size?_of_lost {c : CodePoint} (h : m s c = .stop false) (t : Text) :
    m.size? s (c :: t) = none := by
  rw [size?, h]

theorem size?_eq_none_iff : m.size? s t = none ↔ ¬ m.Finds s t := by
  induction t generalizing s with
  | nil => exact iff_of_true rfl (fun h => nomatch h)
  | cons c t ih =>
    rw [Finds, walk_cons]
    rcases hc : m s c with s' | _ | _
    · rw [size?_of_go hc, Option.map_eq_none_iff]
      exact ih
    · rw [size?_of_lost hc, walk_stop]
      simp
    · rw [size?_of_found hc, walk_stop]
      simp

theorem size?_pos {n : Nat} (h : m.size? s t = some n) : 0 < n := by
  cases t with
  | nil => cases h
  | cons c t =>
    rcases hc : m s c with s' | _ | _
    · rw [size?_of_go hc] at h
      obtain ⟨k, -, rfl⟩ := Option.map_eq_some_iff.mp h
      exact Nat.succ_pos k
    · rw [size?_of_lost hc] at h
      cases h
    · rw [size?_of_found hc] at h
      obtain rfl := Option.some.inj h
      exact Nat.one_pos

theorem size?_le {n : Nat} (h : m.size? s t = some n) : n ≤ t.length := by
  induction t generalizing s n with
  | nil => cases h
  | cons c t ih =>
    rcases hc : m s c with s' | _ | _
    · rw [size?_of_go hc] at h
      obtain ⟨k, hk, rfl⟩ := Option.map_eq_some_iff.mp h
      exact Nat.succ_le_succ (ih hk)
    · rw [size?_of_lost hc] at h
      cases h
    · rw [size?_of_found hc] at h
      obtain rfl := Option.some.inj h
      exact Nat.succ_le_succ (Nat.zero_le _)

/-- What was found stays in its place, whatever stands behind it. -/
theorem size?_of_behind (h : m.size? s (t ++ rest) = some t.length) (other : Text) :
    m.size? s (t ++ other) = some t.length := by
  induction t generalizing s with
  | nil => exact absurd (size?_pos h) (Nat.lt_irrefl 0)
  | cons c t ih =>
    rw [List.cons_append] at h ⊢
    rcases hc : m s c with s' | _ | _
    · rw [size?_of_go hc] at h ⊢
      obtain ⟨n, hn, hlength⟩ := Option.map_eq_some_iff.mp h
      obtain rfl : n = t.length := Nat.succ_inj.mp hlength
      rw [ih hn]
      rfl
    · rw [size?_of_lost hc] at h
      cases h
    · rw [size?_of_found hc] at h ⊢
      exact h

/-- A machine that finds something at the last code point of a text finds it there. -/
theorem size?_of_walk {c : CodePoint} {s' : σ} (ht : m.walk (.go s) t = .go s')
    (hc : m s' c = .stop true) (rest : Text) : m.size? s (t ++ c :: rest) = some (t.length + 1) := by
  induction t generalizing s with
  | nil =>
    obtain rfl : s = s' := by simpa using ht
    exact size?_of_found hc rest
  | cons d t ih =>
    rw [walk_cons] at ht
    rcases hd : m s d with s'' | found
    · rw [hd] at ht
      rw [List.cons_append, size?_of_go hd, ih ht]
      rfl
    · rw [hd, walk_stop] at ht
      cases ht

/-- What a machine takes up to where it finds something ends there. -/
theorem walk_of_size? (h : m.size? s (t ++ rest) = some t.length) :
    ∃ lead c s', t = lead ++ [c] ∧ m.walk (.go s) lead = .go s' ∧ m s' c = .stop true := by
  induction t generalizing s with
  | nil => exact absurd (size?_pos h) (Nat.lt_irrefl 0)
  | cons c t ih =>
    rw [List.cons_append] at h
    rcases hc : m s c with s' | _ | _
    · rw [size?_of_go hc] at h
      obtain ⟨n, hn, hlength⟩ := Option.map_eq_some_iff.mp h
      obtain rfl : n = t.length := Nat.succ_inj.mp hlength
      obtain ⟨lead, d, s'', rfl, hlead, hd⟩ := ih hn
      exact ⟨c :: lead, d, s'', rfl, by rw [walk_cons, hc, hlead], hd⟩
    · rw [size?_of_lost hc] at h
      cases h
    · rw [size?_of_found hc] at h
      obtain rfl : t = [] := List.length_eq_zero_iff.mp (Nat.succ_inj.mp (Option.some.inj h)).symm
      exact ⟨[], c, s, rfl, rfl, hc⟩

/-! ### Safe exchanges -/

/-- What is found from one verdict is found from another. -/
def Below (m : Machine σ) (v v' : Verdict σ) : Prop :=
  ∀ t, m.walk v' t = .stop true → m.walk v t = .stop true

theorem Below.refl (v : Verdict σ) : m.Below v v :=
  fun _ h => h

theorem below_found (v' : Verdict σ) : m.Below (.stop true) v' :=
  fun t _ => walk_stop true t

theorem below_lost (v : Verdict σ) : m.Below v (.stop false) := by
  intro t h
  rw [walk_stop] at h
  cases h

/-- Wherever a machine comes from, after the new text it finds nothing that it does not find after the
old one. -/
def Safe (m : Machine σ) (old new : Text) : Prop :=
  ∀ s, m.Below (m.walk (.go s) old) (m.walk (.go s) new)

theorem Safe.refl (t : Text) : m.Safe t t :=
  fun _ => .refl _

theorem Safe.walk (h : m.Safe old new) (v : Verdict σ) : m.Below (m.walk v old) (m.walk v new) := by
  cases v with
  | go s => exact h s
  | stop found =>
    rw [walk_stop, walk_stop]
    exact .refl _

theorem Safe.append {old' new' : Text} (h : m.Safe old new) (h' : m.Safe old' new') :
    m.Safe (old ++ old') (new ++ new') := by
  intro s t hfinds
  rw [walk_append] at hfinds ⊢
  rw [← walk_append] at hfinds
  have hold := h s _ hfinds
  rw [walk_append] at hold
  exact h'.walk _ t hold

theorem Safe.flatten {olds news : List Text} (h : List.Forall₂ m.Safe olds news) :
    m.Safe olds.flatten news.flatten := by
  induction h with
  | nil => exact .refl _
  | cons hfirst _ ih => exact hfirst.append ih

/-- What is found after a safe exchange was found before. -/
theorem Safe.finds (h : m.Safe old new) (hfinds : m.Finds s new) : m.Finds s old := by
  have hold := h s [] (by rwa [walk_nil])
  rwa [walk_nil] at hold

/-- Where the first code point stops the machine, what stands behind it does not matter. -/
theorem safe_of_head {c c' : CodePoint} (h : ∀ s, ∃ found, m s c = .stop found ∧ m s c' = .stop found)
    (a b : Text) : m.Safe (c :: a) (c' :: b) := by
  intro s
  obtain ⟨found, hc, hc'⟩ := h s
  rw [walk_cons, walk_cons, hc, hc', walk_stop, walk_stop]
  exact .refl _

end Machine

/-! ## The searches of the scanner -/

/-- Whether the first code point is of a kind. -/
def headMachine (p : CodePoint → Bool) : Machine Unit :=
  fun _ c => .stop (p c)

theorem headMachine_finds_iff {p : CodePoint → Bool} {t : Text} :
    (headMachine p).Finds () t ↔ ∃ c, t.head? = some c ∧ p c = true := by
  cases t with
  | nil => exact iff_of_false (fun h => nomatch h) (fun ⟨_, h, _⟩ => nomatch h)
  | cons c t =>
    rw [Machine.Finds, Machine.walk_cons, headMachine, Machine.walk_stop]
    simp

/-! ### Names -/

inductive NameState where
  | start
  /-- Behind a hyphen. -/
  | hyphened
  /-- Behind a backslash. -/
  | escaped

/-- The part of a name is told by its first code point, or by the one behind a backslash. -/
def partVerdict (accepts : CodePoint → Bool) (c : CodePoint) : Verdict NameState :=
  if accepts c then .stop true
  else if c == '\\' then .go .escaped
  else .stop false

/-- The search for the start of a name. -/
def nameMachine : Machine NameState
  | .start, c => if c == '-' then .go .hyphened else partVerdict isNameStart c
  | .hyphened, c => partVerdict isNameStart c
  | .escaped, c => .stop (c != CodePoint.ofChar '\n')

/-- The search for a further part of a name. -/
def partMachine : Machine NameState
  | .escaped, c => .stop (c != CodePoint.ofChar '\n')
  | _, c => partVerdict isNamePart c

theorem escapeSize_eq_none_iff {t : Text} :
    escapeSize t = none ↔ ¬ ∃ c, t.head? = some c ∧ c ≠ CodePoint.ofChar '\n' := by
  cases t with
  | nil => simp [escapeSize]
  | cons c t =>
    rw [escapeSize]
    by_cases hhex : c.isHexDigit = true
    · rw [if_pos hhex]
      have hline : c ≠ CodePoint.ofChar '\n' := by
        rintro rfl
        exact absurd hhex (by decide)
      refine iff_of_false ?_ (not_not_intro ⟨c, rfl, hline⟩)
      dsimp only
      split
      · split <;> simp
      · simp
    · rw [if_neg hhex]
      by_cases hline : c = CodePoint.ofChar '\n'
      · simp [hline]
      · rw [if_neg (by simpa using hline)]
        exact iff_of_false (by simp) (not_not_intro ⟨c, rfl, hline⟩)

/-- What both machines do behind a backslash. -/
theorem escaped_finds_iff {m : Machine NameState}
    (hm : ∀ c, m .escaped c = .stop (c != CodePoint.ofChar '\n')) {t : Text} :
    m.Finds .escaped t ↔ ∃ c, t.head? = some c ∧ c ≠ CodePoint.ofChar '\n' := by
  cases t with
  | nil => exact iff_of_false (fun h => nomatch h) (fun ⟨_, h, _⟩ => nomatch h)
  | cons c t =>
    rw [Machine.Finds, Machine.walk_cons, hm, Machine.walk_stop]
    simp

theorem namePartSize_eq_none_iff {m : Machine NameState} {s : NameState} {accepts : CodePoint → Bool}
    (hs : ∀ c, m s c = partVerdict accepts c)
    (hm : ∀ c, m .escaped c = .stop (c != CodePoint.ofChar '\n')) {t : Text} :
    namePartSize accepts t = none ↔ ¬ m.Finds s t := by
  cases t with
  | nil => exact iff_of_true rfl (fun h => nomatch h)
  | cons c t =>
    rw [namePartSize, Machine.Finds, Machine.walk_cons, hs, partVerdict]
    split
    · simp
    split
    · rw [Option.map_eq_none_iff, escapeSize_eq_none_iff, ← escaped_finds_iff hm]
      rfl
    · simp

theorem namePartSize_isNamePart_eq_none_iff {t : Text} :
    namePartSize isNamePart t = none ↔ ¬ partMachine.Finds .start t :=
  namePartSize_eq_none_iff (fun _ => rfl) fun _ => rfl

theorem nameSize_eq_none_iff {t : Text} : nameSize t = none ↔ ¬ nameMachine.Finds .start t := by
  have hstart (t : Text) : namePartSize isNameStart t = none ↔ ¬ nameMachine.Finds .hyphened t :=
    namePartSize_eq_none_iff (fun _ => rfl) fun _ => rfl
  rcases t with _ | ⟨c, t⟩
  · exact iff_of_true rfl (fun h => nomatch h)
  have hnone {hyphen : Text} {d : CodePoint} {rest : Text} (hlead : Lead hyphen d) :
      nameSize (hyphen ++ d :: rest) = none ↔ ¬ nameMachine.Finds .hyphened (d :: rest) := by
    rw [nameSize_of_lead hlead, Option.map_eq_none_iff, hstart]
  by_cases hc : c = CodePoint.ofChar '-'
  · subst hc
    rcases t with _ | ⟨d, t⟩
    · exact iff_of_true (by decide) (fun h => nomatch h)
    · have hlead : Lead "-" d := .inr rfl
      exact hnone hlead
  · have hstep : nameMachine .start c = nameMachine .hyphened c := if_neg (by simpa using hc)
    rw [Machine.Finds, Machine.walk_cons, hstep]
    have hlead : Lead [] c := .inl ⟨rfl, hc⟩
    exact hnone hlead

/-! ### Comments -/

inductive CommentState where
  /-- Behind the slash that may begin a comment. -/
  | slashed
  | inside
  | starred

/-- The search for the end of a comment. -/
def commentMachine : Machine CommentState
  | .slashed, c => if c = CodePoint.ofChar '*' then .go .inside else .stop false
  | .inside, c => if c = CodePoint.ofChar '*' then .go .starred else .go .inside
  | .starred, c =>
    if c = CodePoint.ofChar '/' then .stop true
    else if c = CodePoint.ofChar '*' then .go .starred
    else .go .inside

theorem throughSize_cons (sought : Text) (c : CodePoint) (t : Text) :
    throughSize sought (c :: t) = match Text.dropPrefix? (c :: t) sought with
      | some _ => some sought.length
      | none => (throughSize sought t).map (· + 1) := by
  rw [throughSize, Text.cutAt?]
  rcases Text.dropPrefix? (c :: t) sought with _ | after
  · dsimp only
    rw [throughSize, Option.map_map, Option.map_map]
    congr 1
    funext parts
    simp only [Function.comp, List.length_cons]
    omega
  · dsimp only
    rw [Option.map_some, List.length_nil, Nat.zero_add]

theorem throughSize_pair (d e c : CodePoint) (t : Text) :
    throughSize [d, e] (c :: t) = if c = d ∧ t.head? = some e then some 2
      else (throughSize [d, e] t).map (· + 1) := by
  rw [throughSize_cons, Text.dropPrefix?]
  by_cases hc : c = d
  · rcases t with _ | ⟨f, t⟩
    · simp [hc, Text.dropPrefix?]
    · by_cases hf : f = e
      · simp [hc, hf, Text.dropPrefix?]
      · simp [hc, hf, Text.dropPrefix?]
  · simp [hc]

/-- A star may be the first half of the end of a comment. -/
theorem commentMachine_size? (t : Text) :
    commentMachine.size? .inside t = throughSize "*/" t ∧
      commentMachine.size? .starred t =
        if t.head? = some (CodePoint.ofChar '/') then some 1 else throughSize "*/" t := by
  have hend : Text.ofString "*/" = [CodePoint.ofChar '*', CodePoint.ofChar '/'] := rfl
  rw [hend]
  induction t with
  | nil => exact ⟨rfl, rfl⟩
  | cons c t ih =>
    obtain ⟨hinside, hstarred⟩ := ih
    by_cases hc : c = CodePoint.ofChar '*'
    · have hthrough : (commentMachine.size? .starred t).map (· + 1)
          = throughSize [CodePoint.ofChar '*', CodePoint.ofChar '/'] (c :: t) := by
        rw [throughSize_pair, hstarred]
        by_cases hslash : t.head? = some (CodePoint.ofChar '/')
        · rw [if_pos hslash, if_pos ⟨hc, hslash⟩]
          rfl
        · rw [if_neg hslash, if_neg (fun h => hslash h.2)]
      have hno : ¬ (c :: t).head? = some (CodePoint.ofChar '/') := by
        rw [hc]
        exact fun h => absurd (Option.some.inj h) (by decide)
      rw [if_neg hno, ← hthrough]
      refine ⟨Machine.size?_of_go (if_pos hc) t, Machine.size?_of_go ?_ t⟩
      rw [hc]
      rfl
    · have hthrough : (commentMachine.size? .inside t).map (· + 1)
          = throughSize [CodePoint.ofChar '*', CodePoint.ofChar '/'] (c :: t) := by
        rw [throughSize_pair, hinside, if_neg (fun h => hc h.1)]
      refine ⟨by rw [Machine.size?_of_go (if_neg hc), hthrough], ?_⟩
      by_cases hslash : c = CodePoint.ofChar '/'
      · rw [Machine.size?_of_found (if_pos hslash), if_pos (by rw [hslash]; rfl)]
      · have hgo : commentMachine .starred c = .go .inside := by
          rw [commentMachine, if_neg hslash, if_neg hc]
        rw [Machine.size?_of_go hgo, hthrough, if_neg (by simpa using hslash)]

theorem commentSize_eq (t : Text) :
    commentSize (CodePoint.ofChar '/' :: t) = (commentMachine.size? .slashed t).map (· + 1) := by
  have hbegin : Text.ofString "/*" = [CodePoint.ofChar '/', CodePoint.ofChar '*'] := rfl
  rw [commentSize, hbegin, Text.dropPrefix?, if_pos rfl]
  rcases t with _ | ⟨c, t⟩
  · rfl
  by_cases hc : c = CodePoint.ofChar '*'
  · have hopening : Text.dropPrefix? (c :: t) [CodePoint.ofChar '*'] = some t := by
      simp [Text.dropPrefix?, hc]
    rw [hopening, Machine.size?_of_go (if_pos hc), (commentMachine_size? t).1, Option.map_map]
    rfl
  · have hopening : Text.dropPrefix? (c :: t) [CodePoint.ofChar '*'] = none := by
      simp [Text.dropPrefix?, hc]
    rw [hopening, Machine.size?_of_lost (if_neg hc)]
    rfl

/-! ### Strings -/

/-- The search for the quote that closes a string; the state tells whether a backslash stands before.
-/
def stringMachine (quote : CodePoint) : Machine Bool
  | true, _ => .go false
  | false, c =>
    if c = quote then .stop true
    else if c == '\\' then .go true
    else if c == '\n' then .stop false
    else .go false

theorem stringRestSize_eq (quote : CodePoint) (t : Text) :
    stringRestSize quote t = (stringMachine quote).size? false t := by
  fun_induction stringRestSize quote t with
  | case1 => rfl
  | case2 => exact (Machine.size?_of_found (if_pos rfl) []).symm
  | case3 c hc =>
    symm
    rw [Machine.size?_eq_none_iff, Machine.Finds, Machine.walk_cons, stringMachine, if_neg hc]
    split
    · simp
    · split <;> simp
  | case4 => exact (Machine.size?_of_found (if_pos rfl) _).symm
  | case5 c d rest hc hslash ih =>
    have hgo : stringMachine quote false c = .go true := by rw [stringMachine, if_neg hc, if_pos hslash]
    have hbehind : stringMachine quote true d = .go false := rfl
    rw [Machine.size?_of_go hgo, Machine.size?_of_go hbehind, ih, Option.map_map]
    rfl
  | case6 c d rest hc hslash hline =>
    have hlost : stringMachine quote false c = .stop false := by
      rw [stringMachine, if_neg hc, if_neg hslash, if_pos hline]
    rw [Machine.size?_of_lost hlost]
  | case7 c d rest hc hslash hline ih =>
    have hgo : stringMachine quote false c = .go false := by
      rw [stringMachine, if_neg hc, if_neg hslash, if_neg hline]
    rw [Machine.size?_of_go hgo, ih]

/-- A string ends with the quote that it begins with. -/
theorem stringMachine_found {quote c : CodePoint} {escaped : Bool}
    (h : stringMachine quote escaped c = .stop true) : escaped = false ∧ c = quote := by
  cases escaped with
  | true => cases h
  | false =>
    rw [stringMachine] at h
    split at h
    · rename_i hc
      exact ⟨rfl, hc⟩
    split at h
    · cases h
    split at h <;> cases h

/-- Without escapes a string goes on up to a quote or to the end of a line. -/
theorem stringMachine_plain {quote : CodePoint} {t : Text} (hslash : CodePoint.ofChar '\\' ∉ t) :
    (stringMachine quote).walk (.go false) t = .go false ↔ quote ∉ t ∧ CodePoint.ofChar '\n' ∉ t := by
  induction t with
  | nil => exact iff_of_true rfl ⟨List.not_mem_nil, List.not_mem_nil⟩
  | cons c t ih =>
    obtain ⟨hc, ht⟩ := List.ne_and_not_mem_of_not_mem_cons hslash
    have hno : ¬ (c == CodePoint.ofChar '\\') = true := by simpa using hc.symm
    rw [Machine.walk_cons]
    by_cases hquote : c = quote
    · have hfound : stringMachine quote false c = .stop true := if_pos hquote
      rw [hfound, Machine.walk_stop]
      exact iff_of_false nofun fun h => h.1 (hquote ▸ List.mem_cons_self)
    by_cases hline : c = CodePoint.ofChar '\n'
    · have hlost : stringMachine quote false c = .stop false := by
        rw [stringMachine, if_neg hquote, if_neg hno, if_pos (by simpa using hline)]
      rw [hlost, Machine.walk_stop]
      exact iff_of_false nofun fun h => h.2 (hline ▸ List.mem_cons_self)
    · have hgo : stringMachine quote false c = .go false := by
        rw [stringMachine, if_neg hquote, if_neg hno, if_neg (by simpa using hline)]
      rw [hgo, ih ht]
      simp [Ne.symm hquote, Ne.symm hline]

/-! ### Addresses -/

inductive AddressState where
  /-- Behind the `u` that may begin an address. -/
  | behindU
  | behindR
  | behindL
  | inside

/-- The search for the parenthesis that closes an address. -/
def addressMachine : Machine AddressState
  | .behindU, c => if c.asciiLower = CodePoint.ofChar 'r' then .go .behindR else .stop false
  | .behindR, c => if c.asciiLower = CodePoint.ofChar 'l' then .go .behindL else .stop false
  | .behindL, c => if c.asciiLower = CodePoint.ofChar '(' then .go .inside else .stop false
  | .inside, c => if c = CodePoint.ofChar ')' then .stop true else .go .inside

theorem addressMachine_size? (t : Text) : addressMachine.size? .inside t = throughSize ")" t := by
  have hend : Text.ofString ")" = [CodePoint.ofChar ')'] := rfl
  rw [hend]
  induction t with
  | nil => rfl
  | cons c t ih =>
    rw [throughSize_cons]
    by_cases hc : c = CodePoint.ofChar ')'
    · have hopening : Text.dropPrefix? (c :: t) [CodePoint.ofChar ')'] = some t := by
        simp [Text.dropPrefix?, hc]
      rw [Machine.size?_of_found (if_pos hc), hopening]
      rfl
    · have hopening : Text.dropPrefix? (c :: t) [CodePoint.ofChar ')'] = none := by
        simp [Text.dropPrefix?, hc]
      rw [Machine.size?_of_go (if_neg hc), hopening, ih]

/-- The search for the parenthesis behind a quoted address; the state tells whether its quote has been
closed. -/
def closerMachine (quote : CodePoint) : Machine Bool
  | false, c => if c = quote then .go true else .go false
  | true, c =>
    if c.isBlank then .go true
    else .stop (c == CodePoint.ofChar ')')

theorem addressMachine_finds_iff {t : Text} :
    addressMachine.Finds .inside t ↔ CodePoint.ofChar ')' ∈ t := by
  induction t with
  | nil => exact iff_of_false (fun h => nomatch h) List.not_mem_nil
  | cons c t ih =>
    rw [Machine.Finds, Machine.walk_cons, List.mem_cons]
    by_cases hc : c = CodePoint.ofChar ')'
    · have hfound : addressMachine .inside c = .stop true := if_pos hc
      rw [hfound, Machine.walk_stop]
      exact iff_of_true rfl (.inl hc.symm)
    · have hgo : addressMachine .inside c = .go .inside := if_neg hc
      rw [hgo]
      exact ih.trans (or_iff_right (Ne.symm hc)).symm

/-- What is behind the closing quote of an address. -/
theorem closerMachine_closed (quote : CodePoint) (t : Text) :
    (closerMachine quote).size? true t = match t.drop (t.takeWhile CodePoint.isBlank).length with
      | d :: _ => if d == ')' then some ((t.takeWhile CodePoint.isBlank).length + 1) else none
      | [] => none := by
  induction t with
  | nil => rfl
  | cons c t ih =>
    by_cases hblank : c.isBlank = true
    · rw [Machine.size?_of_go (if_pos hblank), ih, List.takeWhile_cons_of_pos hblank, List.length_cons,
        List.drop_succ_cons]
      rcases t.drop (t.takeWhile CodePoint.isBlank).length with _ | ⟨d, others⟩
      · rfl
      · dsimp only
        split <;> rfl
    · have hstop : closerMachine quote true c = .stop (c == CodePoint.ofChar ')') := if_neg hblank
      rw [List.takeWhile_cons_of_neg hblank, List.length_nil, List.drop_zero]
      dsimp only
      rcases hend : c == CodePoint.ofChar ')' with _ | _ <;> rw [hend] at hstop
      · rw [Machine.size?_of_lost hstop]
        rfl
      · rw [Machine.size?_of_found hstop]
        rfl

theorem closerMachine_size? (quote : CodePoint) (t : Text) :
    (closerMachine quote).size? false t = match t.drop (t.takeWhile (· != quote)).length with
      | _ :: after =>
        ((closerMachine quote).size? true after).map (· + ((t.takeWhile (· != quote)).length + 1))
      | [] => none := by
  induction t with
  | nil => rfl
  | cons c t ih =>
    by_cases hc : c = quote
    · have hno : ¬ (c != quote) = true := by simpa using hc
      rw [Machine.size?_of_go (if_pos hc), List.takeWhile_cons_of_neg (p := (· != quote)) hno]
      rfl
    · have hyes : (c != quote) = true := by simpa using hc
      rw [Machine.size?_of_go (if_neg hc), ih, List.takeWhile_cons_of_pos (p := (· != quote)) hyes, List.length_cons,
        List.drop_succ_cons]
      rcases t.drop (t.takeWhile (· != quote)).length with _ | ⟨d, after⟩
      · rfl
      · dsimp only
        rw [Option.map_map]
        rfl

/-- A quote, of either kind. -/
def IsQuote (c : CodePoint) : Prop :=
  c = CodePoint.ofChar '"' ∨ c = CodePoint.ofChar '\''

theorem IsQuote.beq {c : CodePoint} (h : IsQuote c) :
    (c == CodePoint.ofChar '"' || c == CodePoint.ofChar '\'') = true := by
  rcases h with rfl | rfl <;> decide

theorem quotedAddressSize_eq {quote : CodePoint} (hquote : IsQuote quote) (t : Text) :
    quotedAddressSize (quote :: t) = ((closerMachine quote).size? false t).map (· + 1) := by
  rw [quotedAddressSize, if_pos hquote.beq, closerMachine_size?]
  dsimp only
  rcases t.drop (t.takeWhile (· != quote)).length with _ | ⟨d, after⟩
  · rfl
  · dsimp only
    rw [closerMachine_closed]
    rcases after.drop (after.takeWhile CodePoint.isBlank).length with _ | ⟨e, others⟩
    · rfl
    · dsimp only
      split
      · simp only [Option.map_some]
        congr 1
        omega
      · rfl

theorem quotedAddressSize_of_not_quote {c : CodePoint} (h : ¬ IsQuote c) (t : Text) :
    quotedAddressSize (c :: t) = none := by
  have hno : ¬ (c == CodePoint.ofChar '"' || c == CodePoint.ofChar '\'') = true := by
    simpa [IsQuote] using h
  rw [quotedAddressSize, if_neg hno]

/-- A quoted address ends with a parenthesis. -/
theorem closerMachine_found {quote c : CodePoint} {closed : Bool}
    (h : closerMachine quote closed c = .stop true) : c = CodePoint.ofChar ')' := by
  cases closed with
  | false =>
    rw [closerMachine] at h
    split at h <;> cases h
  | true =>
    rw [closerMachine] at h
    split at h
    · cases h
    · exact beq_iff_eq.mp (Verdict.stop.inj h)

/-- Any other address does so too. -/
theorem addressMachine_found {s : AddressState} {c : CodePoint} (h : addressMachine s c = .stop true) :
    c = CodePoint.ofChar ')' := by
  cases s with
  | inside =>
    rw [addressMachine] at h
    split at h
    · assumption
    · cases h
  | _ =>
    rw [addressMachine] at h
    split at h <;> cases h

theorem mem_of_closerMachine {quote : CodePoint} {closed : Bool} {t : Text}
    (h : (closerMachine quote).Finds closed t) : CodePoint.ofChar ')' ∈ t := by
  induction t generalizing closed with
  | nil => cases h
  | cons c t ih =>
    rw [Machine.Finds, Machine.walk_cons] at h
    rcases hc : closerMachine quote closed c with closed' | found
    · rw [hc] at h
      exact List.mem_cons_of_mem _ (ih h)
    · rw [hc, Machine.walk_stop] at h
      obtain rfl := Verdict.stop.inj h
      exact closerMachine_found hc ▸ List.mem_cons_self

theorem mem_of_quotedAddressSize {t : Text} (h : quotedAddressSize t ≠ none) :
    CodePoint.ofChar ')' ∈ t := by
  rcases t with _ | ⟨c, t⟩
  · exact absurd rfl h
  by_cases hquote : IsQuote c
  · rw [quotedAddressSize_eq hquote, ne_eq, Option.map_eq_none_iff, Machine.size?_eq_none_iff, not_not] at h
    exact List.mem_cons_of_mem _ (mem_of_closerMachine h)
  · exact absurd (quotedAddressSize_of_not_quote hquote t) h

/-- The letter that may begin an address, in either case. -/
def IsAddressLetter (c : CodePoint) : Prop :=
  c = CodePoint.ofChar 'u' ∨ c = CodePoint.ofChar 'U'

theorem afterAddressOpening?_cons {c : CodePoint} (hc : IsAddressLetter c) (t : Text) :
    afterAddressOpening? (c :: t) =
      if (t.take 3).map CodePoint.asciiLower = "rl(" then some (t.drop 3) else none := by
  have hlower : c.asciiLower = CodePoint.ofChar 'u' := by
    rcases hc with rfl | rfl <;> decide
  have hword : Text.ofString "url(" = CodePoint.ofChar 'u' :: Text.ofString "rl(" := rfl
  rw [afterAddressOpening?, Text.eqString, hword, List.take_succ_cons, List.map_cons, hlower,
    List.drop_succ_cons]
  by_cases h : (t.take 3).map CodePoint.asciiLower = "rl("
  · rw [h, if_pos rfl, if_pos (by simp)]
  · rw [if_neg h, if_neg (by simpa using h)]

/-- Three letters are read before the inside of an address. -/
theorem addressMachine_behindU (t : Text) :
    addressMachine.Finds .behindU t ↔
      (t.take 3).map CodePoint.asciiLower = "rl(" ∧ CodePoint.ofChar ')' ∈ t.drop 3 := by
  have hword : Text.ofString "rl(" = [CodePoint.ofChar 'r', CodePoint.ofChar 'l', CodePoint.ofChar '('] := rfl
  rw [hword]
  rcases t with _ | ⟨r, t⟩
  · exact iff_of_false (fun h => nomatch h) (fun h => nomatch h.1)
  by_cases hr : r.asciiLower = CodePoint.ofChar 'r'
  · have hgo : addressMachine .behindU r = .go .behindR := if_pos hr
    rw [Machine.Finds, Machine.walk_cons, hgo]
    rcases t with _ | ⟨l, t⟩
    · exact iff_of_false (fun h => nomatch h) (fun h => by simp at h)
    by_cases hl : l.asciiLower = CodePoint.ofChar 'l'
    · have hgo : addressMachine .behindR l = .go .behindL := if_pos hl
      rw [Machine.walk_cons, hgo]
      rcases t with _ | ⟨p, t⟩
      · exact iff_of_false (fun h => nomatch h) (fun h => by simp at h)
      by_cases hp : p.asciiLower = CodePoint.ofChar '('
      · have hgo : addressMachine .behindL p = .go .inside := if_pos hp
        rw [Machine.walk_cons, hgo]
        simp only [List.take_succ_cons, List.take_zero, List.map_cons, hr, hl, hp, List.map_nil, true_and,
          List.drop_succ_cons, List.drop_zero]
        exact addressMachine_finds_iff
      · have hlost : addressMachine .behindL p = .stop false := if_neg hp
        rw [Machine.walk_cons, hlost, Machine.walk_stop]
        simp [hp]
    · have hlost : addressMachine .behindR l = .stop false := if_neg hl
      rw [Machine.walk_cons, hlost, Machine.walk_stop]
      simp [hl]
  · have hlost : addressMachine .behindU r = .stop false := if_neg hr
    rw [Machine.Finds, Machine.walk_cons, hlost, Machine.walk_stop]
    simp [hr]

/-- A parenthesis that closes an address is behind the blanks at its beginning. -/
theorem mem_drop_blanks {t : Text} :
    CodePoint.ofChar ')' ∈ t.drop (t.takeWhile CodePoint.isBlank).length ↔ CodePoint.ofChar ')' ∈ t := by
  have hsplit := List.prefix_iff_eq_append.mp (List.takeWhile_prefix (l := t) CodePoint.isBlank)
  have hblank : CodePoint.ofChar ')' ∉ t.takeWhile CodePoint.isBlank := fun hmem =>
    absurd (List.mem_takeWhile_imp hmem) (by decide)
  conv_rhs => rw [← hsplit]
  rw [List.mem_append, or_iff_right hblank]

theorem throughSize_eq_none_iff {t : Text} :
    throughSize ")" t = none ↔ CodePoint.ofChar ')' ∉ t := by
  rw [← addressMachine_size?, Machine.size?_eq_none_iff, addressMachine_finds_iff]

theorem addressSize_eq_none_iff {c : CodePoint} (hc : IsAddressLetter c) (t : Text) :
    addressSize (c :: t) = none ↔ ¬ addressMachine.Finds .behindU t := by
  rw [addressSize, afterAddressOpening?_cons hc, addressMachine_behindU]
  by_cases h : (t.take 3).map CodePoint.asciiLower = "rl("
  · rw [if_pos h, ← mem_drop_blanks]
    dsimp only
    generalize (t.drop 3).drop ((t.drop 3).takeWhile CodePoint.isBlank).length = inside
    rcases hquoted : quotedAddressSize inside with _ | n
    · dsimp only
      rw [Option.map_eq_none_iff, throughSize_eq_none_iff]
      simp [h]
    · have hmem := mem_of_quotedAddressSize (t := inside) (by rw [hquoted]; exact nofun)
      exact iff_of_false nofun (not_not_intro ⟨h, hmem⟩)
  · rw [if_neg h]
    exact iff_of_true rfl fun hfinds => h hfinds.1

/-- An address that is read before a text: to the parenthesis behind its quotes, or else to the first
one. -/
inductive IsAddress (after : Text) : Text → Prop
  | quoted {c quote : CodePoint} {letters blanks inside : Text} (hc : IsAddressLetter c)
      (hletters : letters.map CodePoint.asciiLower = "rl(") (hblanks : ∀ b ∈ blanks, b.isBlank = true)
      (hquote : IsQuote quote)
      (hinside : (closerMachine quote).size? false (inside ++ after) = some inside.length) :
      IsAddress after (c :: (letters ++ (blanks ++ quote :: inside)))
  | plain {c d : CodePoint} {letters blanks inside : Text} (hc : IsAddressLetter c)
      (hletters : letters.map CodePoint.asciiLower = "rl(") (hblanks : ∀ b ∈ blanks, b.isBlank = true)
      (hd : d.isBlank = false) (hquoted : quotedAddressSize (d :: (inside ++ after)) = none)
      (hinside : addressMachine.size? .inside (d :: (inside ++ after)) = some (inside.length + 1)) :
      IsAddress after (c :: (letters ++ (blanks ++ d :: inside)))

theorem IsQuote.isBlank {c : CodePoint} (h : IsQuote c) : c.isBlank = false := by
  rcases h with rfl | rfl <;> decide

/-- What an address is, once its letters and the blanks behind them are told from the rest. -/
theorem addressSize_of_parts {c d : CodePoint} {letters blanks rest : Text} (hc : IsAddressLetter c)
    (hletters : letters.map CodePoint.asciiLower = "rl(") (hblanks : ∀ b ∈ blanks, b.isBlank = true)
    (hd : d.isBlank = false) :
    addressSize (c :: (letters ++ (blanks ++ d :: rest))) = match quotedAddressSize (d :: rest) with
      | some n => some (n + blanks.length + 4)
      | none => (addressMachine.size? .inside (d :: rest)).map (· + blanks.length + 4) := by
  have hlength : letters.length = 3 := by
    have h := congrArg List.length hletters
    rwa [List.length_map] at h
  have htake : (letters ++ (blanks ++ d :: rest)).take 3 = letters := List.take_left' hlength
  have hdrop : (letters ++ (blanks ++ d :: rest)).drop 3 = blanks ++ d :: rest := List.drop_left' hlength
  have hopening : afterAddressOpening? (c :: (letters ++ (blanks ++ d :: rest)))
      = some (blanks ++ d :: rest) := by
    rw [afterAddressOpening?_cons hc, htake, if_pos hletters, hdrop]
  have htakeWhile : (blanks ++ d :: rest).takeWhile CodePoint.isBlank = blanks := by
    rw [List.takeWhile_append_of_pos hblanks, List.takeWhile_cons_of_neg (by simp [hd]), List.append_nil]
  rw [addressSize, hopening]
  dsimp only
  rw [htakeWhile, List.drop_left]
  rcases quotedAddressSize (d :: rest) with _ | n
  · dsimp only
    rw [addressMachine_size?]
  · rfl

theorem addressSize_of_isAddress {after t : Text} (h : IsAddress after t) :
    addressSize (t ++ after) = some t.length := by
  have hthree {letters : Text} (hletters : letters.map CodePoint.asciiLower = "rl(") :
      letters.length = 3 := by
    have h := congrArg List.length hletters
    rwa [List.length_map] at h
  rcases h with ⟨hc, hletters, hblanks, hquote, hinside⟩ | ⟨hc, hletters, hblanks, hd, hquoted, hinside⟩
  · simp only [List.cons_append, List.append_assoc]
    rw [addressSize_of_parts hc hletters hblanks hquote.isBlank, quotedAddressSize_eq hquote, hinside]
    have hlength := hthree hletters
    simp only [Option.map_some, List.length_cons, List.length_append, Option.some_inj]
    omega
  · simp only [List.cons_append, List.append_assoc]
    rw [addressSize_of_parts hc hletters hblanks hd, hquoted, hinside]
    have hlength := hthree hletters
    simp only [Option.map_some, List.length_cons, List.length_append, Option.some_inj]
    omega

theorem isAddress_of_addressSize {c : CodePoint} {w after : Text} (hc : IsAddressLetter c)
    (h : addressSize (c :: (w ++ after)) = some (w.length + 1)) : IsAddress after (c :: w) := by
  have hopening : ((w ++ after).take 3).map CodePoint.asciiLower = "rl(" := by
    by_contra hno
    rw [addressSize, afterAddressOpening?_cons hc, if_neg hno] at h
    cases h
  -- The letters, the blanks, and what is behind them, not all of which belongs to the address.
  obtain ⟨letters, hletters, blanks, hblanks, inside, hhead, hsplit⟩ :
      ∃ letters : Text, letters.map CodePoint.asciiLower = Text.ofString "rl(" ∧
        ∃ blanks : Text, (∀ b ∈ blanks, b.isBlank = true) ∧
          ∃ inside : Text, (∀ d, inside.head? = some d → d.isBlank = false) ∧
            w ++ after = letters ++ (blanks ++ inside) := by
    refine ⟨_, hopening, ((w ++ after).drop 3).takeWhile CodePoint.isBlank,
      fun b hb => List.mem_takeWhile_imp hb, ((w ++ after).drop 3).dropWhile CodePoint.isBlank,
      fun d hd => ?_, ?_⟩
    · have hnot := List.head?_dropWhile_not CodePoint.isBlank ((w ++ after).drop 3)
      rw [hd] at hnot
      exact hnot
    · rw [List.takeWhile_append_dropWhile, List.take_append_drop]
  have hlength : letters.length = 3 := by
    have h := congrArg List.length hletters
    rwa [List.length_map] at h
  rcases inside with _ | ⟨d, inside⟩
  · have hfinds : addressMachine.Finds .behindU (w ++ after) := by
      by_contra hno
      rw [(addressSize_eq_none_iff hc _).mpr hno] at h
      cases h
    have hmem := ((addressMachine_behindU _).mp hfinds).2
    rw [hsplit, List.append_nil, List.drop_left' hlength] at hmem
    exact absurd (hblanks _ hmem) (by decide)
  -- What the address takes of what is behind the blanks, it takes of `w`.
  have hcut {m : Nat} (hm : m ≤ inside.length) (hsize : m + blanks.length + 4 = w.length) :
      w = letters ++ (blanks ++ d :: inside.take m) ∧ after = inside.drop m := by
    have hwhole : w ++ after = (letters ++ (blanks ++ d :: inside.take m)) ++ inside.drop m := by
      rw [hsplit]
      simp [List.take_append_drop]
    refine List.append_inj hwhole ?_
    simp only [List.length_append, List.length_cons, List.length_take_of_le hm]
    omega
  rw [hsplit, addressSize_of_parts hc hletters hblanks (hhead d rfl)] at h
  split at h
  · rename_i n hquoted
    have hquote : IsQuote d := by
      by_contra hno
      rw [quotedAddressSize_of_not_quote hno] at hquoted
      cases hquoted
    rw [quotedAddressSize_eq hquote] at hquoted
    obtain ⟨m, hm, rfl⟩ := Option.map_eq_some_iff.mp hquoted
    have hle := Machine.size?_le hm
    obtain ⟨rfl, rfl⟩ := hcut hle (by have hsum := Option.some.inj h; omega)
    refine .quoted hc hletters hblanks hquote ?_
    rw [List.take_append_drop, List.length_take_of_le hle, hm]
  · rename_i hquoted
    obtain ⟨n, hn, hsum⟩ := Option.map_eq_some_iff.mp h
    have hpos := Machine.size?_pos hn
    have hle := Machine.size?_le hn
    rw [List.length_cons] at hle
    obtain ⟨m, rfl⟩ := Nat.exists_eq_add_one_of_ne_zero (Nat.ne_zero_of_lt hpos)
    obtain ⟨rfl, rfl⟩ := hcut (Nat.le_of_succ_le_succ hle) (by omega)
    refine .plain hc hletters hblanks (hhead d rfl) ?_ ?_
    · rwa [List.take_append_drop]
    · rw [List.take_append_drop, List.length_take_of_le (Nat.le_of_succ_le_succ hle), hn]

end VeiledGateway.Style
