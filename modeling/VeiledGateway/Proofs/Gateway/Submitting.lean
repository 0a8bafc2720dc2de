/-
  Submitting: what handing in a solution comes to.

  A value that is handed in is accepted, refused because nothing is to be solved, or refused because it
  does not solve what is.  `Submitted` says which of these is due, without regard to how it is found out;
  there is always one of them and never two.  It is what comes but for values that cannot be checked:
  the digest is taken of an encoding, which surrogate halves do not have, and the zeros that are demanded
  must make a text.
-/
import VeiledGateway.Proofs.Gateway.Effect
import VeiledGateway.Proofs.Text.Encoding

set_option autoImplicit false

namespace VeiledGateway

/-! ## What is due -/

namespace Record

/-- A record has this challenge, and it is not solved yet. -/
structure Open (record : Record) (challenge : Challenge) : Prop where
  has : record.challenge = some challenge
  unsolved : challenge.solved = false

/-- The record in which this challenge is solved. -/
def withSolved (record : Record) (challenge : Challenge) : Record :=
  { record with challenge := some { challenge with solved := true } }

/-- What is due when a value is handed in. -/
inductive Submitted (record : Record) (solution : Json) : Except GateFault Record → Prop
  | accepted {challenge : Challenge} (hopen : record.Open challenge)
      (hsolved : challenge.SolvedBy solution) :
      record.Submitted solution (.ok (record.withSolved challenge))
  | idle (hnone : ∀ challenge, ¬ record.Open challenge) :
      record.Submitted solution (.error (.refused .noActiveChallenge))
  | wrong {challenge : Challenge} (hopen : record.Open challenge)
      (hnot : ¬ challenge.SolvedBy solution) :
      record.Submitted solution (.error (.refused .invalidSolution))

/-- A text of a proper length that cannot be checked: it has no encoding behind the nonce, or no text has
as many zeros as are demanded. -/
inductive Uncheckable (record : Record) : Json → Prop
  | text {challenge : Challenge} {t : Text} (hopen : record.Open challenge) (hsome : t ≠ [])
      (hshort : t.length ≤ maxSolution)
      (hcause : ¬ (challenge.nonce ++ t).Plain ∨ Challenge.maxDifficulty ≤ challenge.difficulty) :
      record.Uncheckable (.text t)

variable {record : Record} {challenge : Challenge} {solution : Json} {t : Text}

theorem Open.unique {other : Challenge} (h : record.Open challenge) (h' : record.Open other) :
    challenge = other :=
  Option.some.inj (h.has.symm.trans h'.has)

/-- A record has an open challenge or none. -/
theorem open_cases (record : Record) :
    (∃ challenge, record.Open challenge) ∨ ∀ challenge, ¬ record.Open challenge :=
  Classical.or_iff_not_imp_left.mpr not_exists.mp

/-- Only one outcome is due. -/
theorem Submitted.unique {outcome outcome' : Except GateFault Record}
    (h : record.Submitted solution outcome) (h' : record.Submitted solution outcome') :
    outcome = outcome' := by
  cases h with
  | accepted hopen hsolved =>
    cases h' with
    | accepted hopen' _ => rw [hopen.unique hopen']
    | idle hnone => exact absurd hopen (hnone _)
    | wrong hopen' hnot => exact absurd (hopen.unique hopen' ▸ hsolved) hnot
  | idle hnone =>
    cases h' with
    | accepted hopen _ => exact absurd hopen (hnone _)
    | idle _ => rfl
    | wrong hopen _ => exact absurd hopen (hnone _)
  | wrong hopen hnot =>
    cases h' with
    | accepted hopen' hsolved => exact absurd (hopen.unique hopen' ▸ hsolved) hnot
    | idle hnone => exact absurd hopen (hnone _)
    | wrong _ _ => rfl

/-- Some outcome is always due. -/
theorem exists_submitted (record : Record) (solution : Json) :
    ∃ outcome, record.Submitted solution outcome := by
  rcases record.open_cases with ⟨challenge, hopen⟩ | hnone
  · by_cases hsolved : challenge.SolvedBy solution
    · exact ⟨_, .accepted hopen hsolved⟩
    · exact ⟨_, .wrong hopen hsolved⟩
  · exact ⟨_, .idle hnone⟩

end Record

/-! ## Checking -/

namespace Challenge

variable {nonce t : Text} {difficulty : Int}

theorem le_takeWhile_of_replicate_prefix {c : CodePoint} {digest : Text} {n : Nat}
    (h : List.replicate n c <+: digest) : n ≤ (digest.takeWhile (· = c)).length := by
  obtain ⟨rest, rfl⟩ := h
  have hall : ∀ d ∈ List.replicate n c, decide (d = c) = true :=
    fun d hd => decide_eq_true (List.eq_of_mem_replicate hd)
  rw [List.takeWhile_append_of_pos hall, List.length_append, List.length_replicate]
  exact Nat.le_add_right _ _

/-- A digest meets a difficulty if it begins with as many zeros. -/
theorem meets_iff {bytes : List UInt8} : meets bytes difficulty = true ↔
    List.replicate difficulty.toNat (CodePoint.ofChar '0') <+: Sha256.hexDigest bytes := by
  rw [meets, decide_eq_true_iff]
  exact ⟨replicate_prefix_of_le_takeWhile, le_takeWhile_of_replicate_prefix⟩

/-- What has an encoding is checked against a difficulty that is no more than a text can have. -/
theorem check_of_plain (hplain : (nonce ++ t).Plain) (hsize : ¬ maxDifficulty ≤ difficulty) :
    ∃ bytes, Utf8.encode (nonce ++ t) = .ok bytes ∧ check nonce t difficulty = .ok (meets bytes difficulty) := by
  obtain ⟨bytes, hbytes⟩ := Utf8.exists_encode_iff.mpr hplain
  exact ⟨bytes, hbytes, by rw [check, hbytes]; exact if_neg hsize⟩

/-- Everything else cannot be checked. -/
theorem check_of_not (h : ¬ (nonce ++ t).Plain ∨ maxDifficulty ≤ difficulty) :
    ∃ fault, check nonce t difficulty = .error fault := by
  unfold check
  split
  · exact ⟨_, rfl⟩
  · rename_i bytes hbytes
    have hplain := Utf8.exists_encode_iff.mp ⟨bytes, hbytes⟩
    exact ⟨.tooDifficult, if_pos (h.resolve_left (not_not_intro hplain))⟩

/-- A text solves a challenge if it has a proper length and what is digested of it meets the difficulty. -/
theorem solvedBy_iff {challenge : Challenge} {bytes : List UInt8} (hsome : t ≠ [])
    (hshort : t.length ≤ Record.maxSolution) (hbytes : Utf8.encode (challenge.nonce ++ t) = .ok bytes) :
    challenge.SolvedBy (.text t) ↔ meets bytes challenge.difficulty = true := by
  constructor
  · rintro ⟨-, -, other, hother, hzeros⟩
    obtain rfl := Except.ok.inj (hbytes.symm.trans hother)
    exact meets_iff.mpr hzeros
  · exact fun hmeets => .text hsome hshort ⟨bytes, hbytes, meets_iff.mp hmeets⟩

end Challenge

/-! ## What comes -/

namespace Record

variable {record : Record} {challenge : Challenge} {solution : Json} {t : Text}

theorem submit_of_idle (h : ∀ challenge, ¬ record.Open challenge) :
    record.submit solution = .error (.refused .noActiveChallenge) := by
  unfold submit
  split
  · rfl
  · rename_i challenge hchallenge
    have hsolved : challenge.solved = true := by
      rw [← Bool.not_eq_false]
      exact fun hunsolved => h challenge ⟨hchallenge, hunsolved⟩
    exact if_pos hsolved

/-- A value of the proper form: a text with something in it that is not too long. -/
def Proper (solution : Json) : Prop :=
  ∃ t, solution = .text t ∧ t ≠ [] ∧ t.length ≤ maxSolution

theorem submit_of_not_proper (hopen : record.Open challenge) (h : ¬ Proper solution) :
    record.submit solution = .error (.refused .invalidSolution) := by
  unfold submit
  rw [hopen.has]
  dsimp only
  rw [if_neg (by rw [hopen.unsolved]; decide)]
  split
  · rename_i t
    refine if_pos (Classical.byContradiction fun hlength => ?_)
    rw [Bool.or_eq_true, List.isEmpty_iff, decide_eq_true_iff] at hlength
    obtain ⟨hsome, hlong⟩ := not_or.mp hlength
    exact h ⟨t, rfl, hsome, Nat.not_lt.mp hlong⟩
  · rfl

/-- A text of a proper length is checked. -/
theorem submit_text (hopen : record.Open challenge) (hsome : t ≠ []) (hshort : t.length ≤ maxSolution) :
    record.submit (.text t) =
      match Challenge.check challenge.nonce t challenge.difficulty with
      | .error fault => .error (.unchecked fault)
      | .ok false => .error (.refused .invalidSolution)
      | .ok true => .ok (record.withSolved challenge) := by
  have hlength : ¬ (t.isEmpty || decide (maxSolution < t.length)) = true := by
    rw [Bool.or_eq_true, List.isEmpty_iff, decide_eq_true_iff]
    exact fun h => h.elim hsome (Nat.not_lt.mpr hshort)
  unfold submit
  rw [hopen.has]
  dsimp only
  rw [if_neg (by rw [hopen.unsolved]; decide), if_neg hlength]
  rfl

theorem submit_of_uncheckable (h : record.Uncheckable solution) :
    ∃ fault, record.submit solution = .error (.unchecked fault) := by
  obtain ⟨hopen, hsome, hshort, hcause⟩ := h
  obtain ⟨fault, hfault⟩ := Challenge.check_of_not hcause
  exact ⟨fault, by rw [submit_text hopen hsome hshort, hfault]⟩

/-- What can be checked comes to what is due. -/
theorem submitted_of_checkable (h : ¬ record.Uncheckable solution) :
    record.Submitted solution (record.submit solution) := by
  rcases record.open_cases with ⟨challenge, hopen⟩ | hnone
  · by_cases hproper : Proper solution
    · obtain ⟨t, rfl, hsome, hshort⟩ := hproper
      have hcheckable : ¬ (¬ (challenge.nonce ++ t).Plain ∨ Challenge.maxDifficulty ≤ challenge.difficulty) :=
        fun hcause => h (.text hopen hsome hshort hcause)
      obtain ⟨hplain, hsize⟩ := not_or.mp hcheckable
      obtain ⟨bytes, hbytes, hcheck⟩ := Challenge.check_of_plain (Classical.not_not.mp hplain) hsize
      have hsolved := Challenge.solvedBy_iff hsome hshort hbytes
      rw [submit_text hopen hsome hshort, hcheck]
      cases hmeets : Challenge.meets bytes challenge.difficulty with
      | false =>
        rw [hmeets] at hsolved
        exact .wrong hopen fun hsolves => Bool.false_ne_true (hsolved.mp hsolves)
      | true =>
        rw [hmeets] at hsolved
        exact .accepted hopen (hsolved.mpr rfl)
    · rw [submit_of_not_proper hopen hproper]
      refine .wrong hopen fun hsolved => hproper ?_
      obtain ⟨hsome, hshort, -⟩ := hsolved
      exact ⟨_, rfl, hsome, hshort⟩
  · rw [submit_of_idle hnone]
    exact .idle hnone

/-- What cannot be checked is neither accepted nor refused. -/
theorem not_submitted_of_uncheckable (h : record.Uncheckable solution) :
    ¬ record.Submitted solution (record.submit solution) := by
  obtain ⟨fault, hfault⟩ := submit_of_uncheckable h
  rw [hfault]
  exact nofun

/-- Whatever the record and whatever is handed in, it comes to what is due just if it can be checked, and
otherwise the check fails. -/
theorem submitted_submit_iff (record : Record) (solution : Json) :
    (record.Submitted solution (record.submit solution) ↔ ¬ record.Uncheckable solution) ∧
      (record.Uncheckable solution ↔ ∃ fault, record.submit solution = .error (.unchecked fault)) := by
  refine ⟨⟨fun hdue huncheckable => not_submitted_of_uncheckable huncheckable hdue, submitted_of_checkable⟩,
    submit_of_uncheckable, ?_⟩
  rintro ⟨fault, hfault⟩
  refine Classical.byContradiction fun hcheckable => ?_
  have hdue := submitted_of_checkable hcheckable
  rw [hfault] at hdue
  cases hdue

/-- A record with a challenge of this difficulty. -/
def challengedRecord (difficulty : Int) : Record :=
  { ofKey "k" with challenge := some ⟨"n", difficulty, false⟩ }

/-- A surrogate half is not refused although it solves nothing, nor is any text where no text has as many
zeros as are demanded. -/
theorem half_not_submitted :
    ¬ (challengedRecord 0).Submitted (.text [CodePoint.ofNat 0xD800])
        ((challengedRecord 0).submit (.text [CodePoint.ofNat 0xD800])) ∧
      ¬ (challengedRecord Challenge.maxDifficulty).Submitted (.text "a")
        ((challengedRecord Challenge.maxDifficulty).submit (.text "a")) := by
  have hopen (difficulty : Int) : (challengedRecord difficulty).Open ⟨"n", difficulty, false⟩ := ⟨rfl, rfl⟩
  have hhalf : ¬ (("n" : Text) ++ [CodePoint.ofNat 0xD800]).Plain :=
    fun hplain => nomatch hplain (CodePoint.ofNat 0xD800) (by decide)
  exact ⟨not_submitted_of_uncheckable (.text (hopen 0) (by decide) (by decide) (.inl hhalf)),
    not_submitted_of_uncheckable (.text (hopen _) (by decide) (by decide) (.inr (Int.le_refl _)))⟩

end Record

end VeiledGateway
