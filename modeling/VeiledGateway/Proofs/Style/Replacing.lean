/-
  Replacing: what takes the place of a token, and who notices.

  A selector is replaced by its sign and a token, an address and the string of an import by a link, and
  a string in declarations by its pieces.  None of this is noticed by the searches that began before it,
  but for those for a quote: an end of line that goes, or a quote, may keep one open that had failed.
-/
import VeiledGateway.Proofs.Style.Exchanging
import VeiledGateway.Style.Rewrite

set_option autoImplicit false

namespace VeiledGateway.Style

variable {old new rest : Text} {c c' q quote : CodePoint}

/-! ## Heads -/

/-- What tokens begin with that may be replaced: a sign or a quote, which stays, or the letter of an
address, which becomes small. -/
def HeadAlike (c c' : CodePoint) : Prop :=
  c = c' ∧ (c = CodePoint.ofChar '.' ∨ c = CodePoint.ofChar '#' ∨ IsQuote c) ∨
    IsAddressLetter c ∧ c' = CodePoint.ofChar 'u'

/-- What holds of the heads that there are. -/
theorem HeadAlike.induction {p : CodePoint → CodePoint → Prop} (h : HeadAlike c c') (hdot : p '.' '.')
    (hhash : p '#' '#') (hdouble : p '"' '"') (hsingle : p '\'' '\'') (hsmall : p 'u' 'u')
    (hcapital : p 'U' 'u') : p c c' := by
  rcases h with ⟨rfl, rfl | rfl | rfl | rfl⟩ | ⟨rfl | rfl, rfl⟩
  · exact hdot
  · exact hhash
  · exact hdouble
  · exact hsingle
  · exact hsmall
  · exact hcapital

theorem HeadAlike.name (h : HeadAlike c c') (s : NameState) :
    ∃ found, nameMachine s c = .stop found ∧ nameMachine s c' = .stop found := by
  refine h.induction (p := fun c c' => ∃ found, nameMachine s c = .stop found ∧
    nameMachine s c' = .stop found) ?_ ?_ ?_ ?_ ?_ ?_ <;> cases s <;> exact ⟨_, rfl, rfl⟩

theorem HeadAlike.part (h : HeadAlike c c') (s : NameState) :
    ∃ found, partMachine s c = .stop found ∧ partMachine s c' = .stop found := by
  refine h.induction (p := fun c c' => ∃ found, partMachine s c = .stop found ∧
    partMachine s c' = .stop found) ?_ ?_ ?_ ?_ ?_ ?_ <;> cases s <;> exact ⟨_, rfl, rfl⟩

theorem HeadAlike.blank (h : HeadAlike c c') : c.isBlank = false ∧ c'.isBlank = false :=
  h.induction (p := fun c c' => c.isBlank = false ∧ c'.isBlank = false) (by decide) (by decide) (by decide)
    (by decide) (by decide) (by decide)

theorem HeadAlike.digit (h : HeadAlike c c') : c.isHexDigit = false ∧ c'.isHexDigit = false :=
  h.induction (p := fun c c' => c.isHexDigit = false ∧ c'.isHexDigit = false) (by decide) (by decide)
    (by decide) (by decide) (by decide) (by decide)

theorem unnoticed_of_head (h : HeadAlike c c') (hcomment : commentMachine.Safe (c :: old) (c' :: new))
    (haddress : addressMachine.Safe (c :: old) (c' :: new)) : Unnoticed (c :: old) (c' :: new) where
  name := Machine.safe_of_head h.name old new
  part := Machine.safe_of_head h.part old new
  blank := Machine.safe_of_head (fun _ => ⟨false, congrArg Verdict.stop h.blank.1, congrArg Verdict.stop h.blank.2⟩) old new
  digit := Machine.safe_of_head (fun _ => ⟨false, congrArg Verdict.stop h.digit.1, congrArg Verdict.stop h.digit.2⟩) old new
  comment := hcomment
  address := haddress

/-! ## Comments and addresses that were left open -/

/-- Within a comment nothing is lost. -/
theorem commentMachine_within {s : CommentState} (hs : s ≠ .slashed) (t : Text) :
    commentMachine.walk (.go s) t = .stop true ∨
      ∃ s', s' ≠ .slashed ∧ commentMachine.walk (.go s) t = .go s' := by
  induction t generalizing s with
  | nil => exact .inr ⟨s, hs, rfl⟩
  | cons d t ih =>
    rw [Machine.walk_cons]
    have hstep : commentMachine s d = .stop true ∨ ∃ s', s' ≠ .slashed ∧ commentMachine s d = .go s' := by
      cases s with
      | slashed => exact absurd rfl hs
      | inside =>
        rw [commentMachine]
        split
        · exact .inr ⟨.starred, by simp, rfl⟩
        · exact .inr ⟨.inside, by simp, rfl⟩
      | starred =>
        rw [commentMachine]
        split
        · exact .inl rfl
        split
        · exact .inr ⟨.starred, by simp, rfl⟩
        · exact .inr ⟨.inside, by simp, rfl⟩
    rcases hstep with hfound | ⟨s', hs', hgo⟩
    · rw [hfound, Machine.walk_stop]
      exact .inl rfl
    · rw [hgo]
      exact ih hs'

/-- What ends a comment ends it behind a star too. -/
theorem below_inside {s : CommentState} (hs : s ≠ .slashed) :
    commentMachine.Below (.go s) (.go .inside) := by
  cases s with
  | slashed => exact absurd rfl hs
  | inside => exact .refl _
  | starred =>
    intro t hfinds
    rcases t with _ | ⟨d, t⟩
    · cases hfinds
    rw [Machine.walk_cons] at hfinds ⊢
    by_cases hslash : d = CodePoint.ofChar '/'
    · have hfound : commentMachine .starred d = .stop true := if_pos hslash
      rw [hfound, Machine.walk_stop]
    · have hsame : commentMachine .starred d = commentMachine .inside d := if_neg hslash
      rwa [hsame]

theorem commentMachine_plain {t : Text} (hstar : CodePoint.ofChar '*' ∉ t) :
    commentMachine.walk (.go .inside) t = .go .inside := by
  induction t with
  | nil => rfl
  | cons d t ih =>
    obtain ⟨hd, ht⟩ := List.ne_and_not_mem_of_not_mem_cons hstar
    have hgo : commentMachine .inside d = .go .inside := if_neg (Ne.symm hd)
    rw [Machine.walk_cons, hgo, ih ht]

/-- What has no star in it and begins no comment does not end one. -/
theorem safe_commentMachine (h : HeadAlike c c') (hstar : CodePoint.ofChar '*' ∉ c' :: new) :
    commentMachine.Safe (c :: old) (c' :: new) := by
  have hheads : c' ≠ CodePoint.ofChar '*' ∧ c' ≠ CodePoint.ofChar '/' :=
    h.induction (p := fun _ c' => c' ≠ CodePoint.ofChar '*' ∧ c' ≠ CodePoint.ofChar '/')
      (by decide) (by decide) (by decide) (by decide) (by decide) (by decide)
  intro s
  by_cases hs : s = .slashed
  · subst hs
    have hlost : commentMachine .slashed c' = .stop false := if_neg hheads.1
    rw [Machine.walk_cons (m := commentMachine) .slashed c', hlost, Machine.walk_stop]
    exact Machine.below_lost _
  · have hnew : commentMachine.walk (.go s) (c' :: new) = .go .inside := by
      have hgo : commentMachine s c' = .go .inside := by
        cases s with
        | slashed => exact absurd rfl hs
        | inside => exact if_neg hheads.1
        | starred => rw [commentMachine, if_neg hheads.2, if_neg hheads.1]
      rw [Machine.walk_cons, hgo, commentMachine_plain (List.not_mem_of_not_mem_cons hstar)]
    rw [hnew]
    rcases commentMachine_within hs (c :: old) with hfound | ⟨s', hs', hgo⟩
    · rw [hfound]
      exact Machine.below_found _
    · rw [hgo]
      exact below_inside hs'

theorem addressMachine_inside {t : Text} :
    addressMachine.walk (.go .inside) t =
      if CodePoint.ofChar ')' ∈ t then .stop true else .go .inside := by
  induction t with
  | nil => rfl
  | cons d t ih =>
    rw [Machine.walk_cons]
    by_cases hd : d = CodePoint.ofChar ')'
    · have hfound : addressMachine .inside d = .stop true := if_pos hd
      rw [hfound, Machine.walk_stop, if_pos (hd ▸ List.mem_cons_self)]
    · have hgo : addressMachine .inside d = .go .inside := if_neg hd
      rw [hgo, ih]
      simp [Ne.symm hd]

/-- What has no parenthesis in it that was not there does not end an address. -/
theorem safe_addressMachine (h : HeadAlike c c')
    (hend : CodePoint.ofChar ')' ∈ c' :: new → CodePoint.ofChar ')' ∈ c :: old) :
    addressMachine.Safe (c :: old) (c' :: new) := by
  intro s
  by_cases hs : s = .inside
  · subst hs
    rw [addressMachine_inside, addressMachine_inside]
    by_cases hmem : CodePoint.ofChar ')' ∈ c :: old
    · rw [if_pos hmem]
      exact Machine.below_found _
    · rw [if_neg hmem, if_neg fun hnew => hmem (hend hnew)]
      exact .refl _
  · have hlost : addressMachine s c' = .stop false :=
      h.induction (p := fun _ c' => addressMachine s c' = .stop false)
        (by cases s <;> first | rfl | exact absurd rfl hs) (by cases s <;> first | rfl | exact absurd rfl hs)
        (by cases s <;> first | rfl | exact absurd rfl hs) (by cases s <;> first | rfl | exact absurd rfl hs)
        (by cases s <;> first | rfl | exact absurd rfl hs) (by cases s <;> first | rfl | exact absurd rfl hs)
    rw [Machine.walk_cons (m := addressMachine) s c', hlost, Machine.walk_stop]
    exact Machine.below_lost _

/-- A text that is replaced by one without stars, and without parentheses that were not there. -/
theorem unnoticed_of_plain (h : HeadAlike c c') (hstar : CodePoint.ofChar '*' ∉ c' :: new)
    (hend : CodePoint.ofChar ')' ∈ c' :: new → CodePoint.ofChar ')' ∈ c :: old) :
    Unnoticed (c :: old) (c' :: new) :=
  unnoticed_of_head h (safe_commentMachine h hstar) (safe_addressMachine h hend)

/-! ## Quotes that were left open -/

theorem HeadAlike.eq_quote_iff (h : HeadAlike c c') (hq : IsQuote q) : c = q ↔ c' = q := by
  rcases h with ⟨rfl, -⟩ | ⟨hletter, rfl⟩
  · rfl
  · refine iff_of_false ?_ ?_ <;> rcases hq with rfl | rfl
    · rcases hletter with rfl | rfl <;> decide
    · rcases hletter with rfl | rfl <;> decide
    · decide
    · decide

/-- A head that is no quote is within a string what any other code point is. -/
theorem HeadAlike.string (h : HeadAlike c c') (hc : c ≠ q) (hc' : c' ≠ q) :
    stringMachine q false c = .go false ∧ stringMachine q false c' = .go false := by
  have hplain : c ≠ CodePoint.ofChar '\\' ∧ c ≠ CodePoint.ofChar '\n' ∧
      c' ≠ CodePoint.ofChar '\\' ∧ c' ≠ CodePoint.ofChar '\n' :=
    h.induction (p := fun c c' => c ≠ CodePoint.ofChar '\\' ∧ c ≠ CodePoint.ofChar '\n' ∧
      c' ≠ CodePoint.ofChar '\\' ∧ c' ≠ CodePoint.ofChar '\n')
      (by decide) (by decide) (by decide) (by decide) (by decide) (by decide)
  obtain ⟨hslash, hline, hslash', hline'⟩ := hplain
  rw [stringMachine, stringMachine]
  simp [*]

/-- Whether a quote that was left open is found depends on what is behind the head. -/
theorem safe_stringMachine (hq : IsQuote q) (h : HeadAlike c c')
    (hbelow : (stringMachine q).Below ((stringMachine q).walk (.go false) old)
      ((stringMachine q).walk (.go false) new)) : (stringMachine q).Safe (c :: old) (c' :: new) := by
  intro s
  rw [Machine.walk_cons, Machine.walk_cons]
  cases s with
  | true => exact hbelow
  | false =>
    by_cases hc : c = q
    · have hfound : stringMachine q false c = .stop true := if_pos hc
      rw [hfound, Machine.walk_stop]
      exact Machine.below_found _
    · obtain ⟨hgo, hgo'⟩ := h.string hc fun hc' => hc ((h.eq_quote_iff hq).mpr hc')
      rw [hgo, hgo']
      exact hbelow

theorem stringMachine_of_mem {t : Text} (hslash : CodePoint.ofChar '\\' ∉ t)
    (hline : CodePoint.ofChar '\n' ∉ t) (hmem : q ∈ t) :
    (stringMachine q).walk (.go false) t = .stop true := by
  induction t with
  | nil => cases hmem
  | cons d t ih =>
    obtain ⟨hd, ht⟩ := List.ne_and_not_mem_of_not_mem_cons hslash
    obtain ⟨hd', ht'⟩ := List.ne_and_not_mem_of_not_mem_cons hline
    rw [Machine.walk_cons]
    by_cases hdq : d = q
    · have hfound : stringMachine q false d = .stop true := if_pos hdq
      rw [hfound, Machine.walk_stop]
    · have hgo : stringMachine q false d = .go false := by
        rw [stringMachine, if_neg hdq, if_neg (by simpa using hd.symm), if_neg (by simpa using hd'.symm)]
      rw [hgo, ih ht ht' ((List.mem_cons.mp hmem).resolve_left (Ne.symm hdq))]

/-- Without escapes and ends of lines a quote is found where there is one. -/
theorem below_stringMachine (hold : CodePoint.ofChar '\\' ∉ old ∧ CodePoint.ofChar '\n' ∉ old)
    (hnew : CodePoint.ofChar '\\' ∉ new ∧ CodePoint.ofChar '\n' ∉ new) (hmem : q ∈ new → q ∈ old) :
    (stringMachine q).Below ((stringMachine q).walk (.go false) old)
      ((stringMachine q).walk (.go false) new) := by
  by_cases hq : q ∈ old
  · rw [stringMachine_of_mem hold.1 hold.2 hq]
    exact Machine.below_found _
  · rw [(stringMachine_plain hold.1).mpr ⟨hq, hold.2⟩,
      (stringMachine_plain hnew.1).mpr ⟨fun hnew => hq (hmem hnew), hnew.2⟩]
    exact .refl _

/-- Whether an address is closed that was left open depends on what is behind the head. -/
theorem safe_closerMachine (hq : IsQuote q) (h : HeadAlike c c')
    (hbelow : ∀ closed, (closed = true ↔ c = q) →
      (closerMachine q).Below ((closerMachine q).walk (.go closed) old)
        ((closerMachine q).walk (.go closed) new)) : (closerMachine q).Safe (c :: old) (c' :: new) := by
  intro s
  rw [Machine.walk_cons, Machine.walk_cons]
  cases s with
  | true =>
    have hlost : closerMachine q true c' = .stop false := by
      refine h.induction (p := fun _ c' => closerMachine q true c' = .stop false) ?_ ?_ ?_ ?_ ?_ ?_ <;> rfl
    rw [hlost, Machine.walk_stop]
    exact Machine.below_lost _
  | false =>
    by_cases hc : c = q
    · have hgo : closerMachine q false c = .go true := if_pos hc
      have hgo' : closerMachine q false c' = .go true := if_pos ((h.eq_quote_iff hq).mp hc)
      rw [hgo, hgo']
      exact hbelow true (iff_of_true rfl hc)
    · have hgo : closerMachine q false c = .go false := if_neg hc
      have hgo' : closerMachine q false c' = .go false :=
        if_neg fun hc' => hc ((h.eq_quote_iff hq).mpr hc')
      rw [hgo, hgo']
      exact hbelow false (iff_of_false nofun hc)

theorem closerMachine_plain {t : Text} (h : q ∉ t) : (closerMachine q).walk (.go false) t = .go false := by
  induction t with
  | nil => rfl
  | cons d t ih =>
    obtain ⟨hd, ht⟩ := List.ne_and_not_mem_of_not_mem_cons h
    have hgo : closerMachine q false d = .go false := if_neg hd.symm
    rw [Machine.walk_cons, hgo, ih ht]

theorem below_closerMachine (hold : q ∉ old) (hnew : q ∉ new) :
    (closerMachine q).Below ((closerMachine q).walk (.go false) old)
      ((closerMachine q).walk (.go false) new) := by
  rw [closerMachine_plain hold, closerMachine_plain hnew]
  exact .refl _

/-- Behind a quote a code point that is neither blank nor a parenthesis closes no address. -/
theorem closerMachine_lost (hc : c.isBlank = false) (hend : c ≠ CodePoint.ofChar ')') (t : Text) :
    (closerMachine q).walk (.go true) (c :: t) = .stop false := by
  have hlost : closerMachine q true c = .stop false := by
    rw [closerMachine, if_neg (by simp [hc])]
    simpa using hend
  rw [Machine.walk_cons, hlost, Machine.walk_stop]

end VeiledGateway.Style
