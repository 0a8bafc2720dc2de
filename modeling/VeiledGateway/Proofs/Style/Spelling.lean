/-
  Spellings of names in style sheets.

  A spelling writes each code point of a name as itself, behind a backslash, or by its code.  Any
  spelling is decoded to its name.  The serialization of a name is the spelling that an identifier of CSS
  is commonly written with; `Recognised` are the names whose serialization is read as one name.
-/
import Mathlib.Data.List.TakeWhile
import VeiledGateway.Proofs.Style.Scanning
import VeiledGateway.Rewriting
import VeiledGateway.Style.Escape

set_option autoImplicit false

namespace VeiledGateway.Style

variable {accepts : CodePoint → Bool} {after spelling name digits more : Text} {c : CodePoint}

/-! ## Spellings -/

/-- A text that spells a name when `after` comes behind it.  `accepts` are the code points that may
stand for themselves. -/
inductive Spells (accepts : CodePoint → Bool) (after : Text) : Text → Text → Prop
  | nil : Spells accepts after [] []
  | plain {c : CodePoint} {spelling name : Text} (hc : accepts c = true)
      (hrest : Spells accepts after spelling name) :
      Spells accepts after (c :: spelling) (c :: name)
  | sign {c : CodePoint} {spelling name : Text} (hhex : c.isHexDigit = false)
      (hline : c ≠ CodePoint.ofChar '\n') (hrest : Spells accepts after spelling name) :
      Spells accepts after (CodePoint.ofChar '\\' :: c :: spelling) (c :: name)
  | code {digits spelling name : Text} {blank : CodePoint} (hne : digits ≠ [])
      (hsize : digits.length ≤ 6) (hdigits : ∀ d ∈ digits, d.isHexDigit = true)
      (hblank : blank.isBlank = true) (hrest : Spells accepts after spelling name) :
      Spells accepts after (CodePoint.ofChar '\\' :: (digits ++ blank :: spelling))
        (codePointOf (hexNumber digits) :: name)
  /-- The blank behind a code may be left out before what neither is a blank nor goes on with it. -/
  | bare {digits spelling name : Text} (hne : digits ≠ []) (hsize : digits.length ≤ 6)
      (hdigits : ∀ d ∈ digits, d.isHexDigit = true)
      (hnext : ∀ d, (spelling ++ after).head? = some d →
        d.isBlank = false ∧ (d.isHexDigit = true → digits.length = 6))
      (hrest : Spells accepts after spelling name) :
      Spells accepts after (CodePoint.ofChar '\\' :: (digits ++ spelling))
        (codePointOf (hexNumber digits) :: name)

/-- The digits of a code end where it has six, or where something else comes. -/
theorem takeWhile_code (hsize : digits.length ≤ 6) (hdigits : ∀ d ∈ digits, d.isHexDigit = true)
    (hnext : ∀ d, more.head? = some d → d.isHexDigit = true → digits.length = 6) :
    ((digits ++ more).take 6).takeWhile CodePoint.isHexDigit = digits := by
  rw [List.take_append, List.take_of_length_le hsize, List.takeWhile_append_of_pos hdigits]
  suffices hnone : (more.take (6 - digits.length)).takeWhile CodePoint.isHexDigit = [] by
    rw [hnone, List.append_nil]
  cases more with
  | nil => simp
  | cons d rest =>
    by_cases hhex : d.isHexDigit = true
    · rw [hnext d rfl hhex]
      rfl
    · rcases hroom : 6 - digits.length with _ | n
      · rfl
      · rw [List.take_succ_cons, List.takeWhile_cons_of_neg hhex]

theorem isHexDigit_eq_false_of_isBlank (h : c.isBlank = true) : c.isHexDigit = false := by
  rw [Bool.eq_false_iff]
  intro hhex
  simp only [CodePoint.isHexDigit, CodePoint.hexValue?, CodePoint.isAsciiDigit, CodePoint.isBlank,
    CodePoint.isAsciiBlank] at h hhex
  grind

/-- A blank ends the digits of a code. -/
theorem takeWhile_code_blank {blank : CodePoint} (hsize : digits.length ≤ 6)
    (hdigits : ∀ d ∈ digits, d.isHexDigit = true) (hblank : blank.isBlank = true) :
    ((digits ++ blank :: more).take 6).takeWhile CodePoint.isHexDigit = digits := by
  refine takeWhile_code hsize hdigits ?_
  rintro _ ⟨⟩ hhex
  rw [isHexDigit_eq_false_of_isBlank hblank] at hhex
  cases hhex

/-! ### What may stand behind a spelling -/

/-- No blank and no digit comes up behind a text that was not there before. -/
def NoLonger (old new : Text) : Prop :=
  ∀ d, new.head? = some d → (d.isBlank = true → ∃ e, old.head? = some e ∧ e.isBlank = true) ∧
    (d.isHexDigit = true → ∃ e, old.head? = some e ∧ e.isHexDigit = true)

theorem NoLonger.append {old new : Text} (h : NoLonger old new) (t : Text) :
    NoLonger (t ++ old) (t ++ new) := by
  cases t with
  | nil => exact h
  | cons c t => exact fun d hd => ⟨fun hblank => ⟨d, hd, hblank⟩, fun hhex => ⟨d, hd, hhex⟩⟩

theorem Spells.behind {after' : Text} (hbehind : NoLonger after after')
    (h : Spells accepts after spelling name) : Spells accepts after' spelling name := by
  induction h with
  | nil => exact .nil
  | plain hc _ ih => exact .plain hc ih
  | sign hhex hline _ ih => exact .sign hhex hline ih
  | code hne hsize hdigits hblank _ ih => exact .code hne hsize hdigits hblank ih
  | @bare digits spelling name hne hsize hdigits hnext _ ih =>
    refine .bare hne hsize hdigits (fun d hd => ?_) ih
    obtain ⟨hblank, hhex⟩ := hbehind.append spelling d hd
    constructor
    · rw [Bool.eq_false_iff]
      intro hyes
      obtain ⟨e, he, hblank⟩ := hblank hyes
      rw [(hnext e he).1] at hblank
      cases hblank
    · intro hyes
      obtain ⟨e, he, hhex⟩ := hhex hyes
      exact (hnext e he).2 hhex

/-- A spelling may stand at the end of a text. -/
theorem Spells.last (h : Spells accepts after spelling name) : Spells accepts [] spelling name :=
  h.behind fun _ hd => nomatch hd

/-! ### What is decoded -/

theorem unescapeFrom_code (fuel : Nat) (hne : digits ≠ []) :
    ((digits ++ more).take 6).takeWhile CodePoint.isHexDigit = digits →
      unescapeFrom (fuel + 1) (CodePoint.ofChar '\\' :: (digits ++ more))
        = codePointOf (hexNumber digits) :: unescapeFrom fuel (match more with
          | d :: others => if d.isBlank then others else more
          | [] => []) := by
  intro hcode
  rw [unescapeFrom.eq_def]
  dsimp only
  rw [if_pos (by rfl), hcode, if_neg (by simpa using hne), List.drop_left]
  cases more <;> rfl

/-- A spelling is decoded to its name, if no backslash stands for itself, and what is behind it is decoded
after it. -/
theorem unescapeFrom_append (haccepts : accepts (CodePoint.ofChar '\\') = false)
    (h : Spells accepts after spelling name) : ∀ fuel, (spelling ++ after).length ≤ fuel →
      ∃ left, after.length ≤ left ∧ unescapeFrom fuel (spelling ++ after) = name ++ unescapeFrom left after := by
  induction h with
  | nil => exact fun fuel hfuel => ⟨fuel, hfuel, rfl⟩
  | @plain c spelling name hc _ ih =>
    intro fuel hfuel
    obtain ⟨fuel, rfl⟩ := Nat.exists_eq_add_one_of_ne_zero (Nat.ne_zero_of_lt hfuel)
    have hslash : ¬ (c == CodePoint.ofChar '\\') = true := by
      intro heq
      rw [beq_iff_eq.mp heq, haccepts] at hc
      cases hc
    obtain ⟨left, hleft, hrest⟩ := ih fuel (by simpa using hfuel)
    refine ⟨left, hleft, ?_⟩
    rw [List.cons_append, unescapeFrom.eq_def]
    dsimp only
    rw [if_neg hslash, hrest, List.cons_append]
  | @sign c spelling name hhex _ _ ih =>
    intro fuel hfuel
    obtain ⟨fuel, rfl⟩ := Nat.exists_eq_add_one_of_ne_zero (Nat.ne_zero_of_lt hfuel)
    have hdigits : ((c :: (spelling ++ after)).take 6).takeWhile CodePoint.isHexDigit = [] := by
      rw [List.take_succ_cons, List.takeWhile_cons_of_neg (by simpa using hhex)]
    obtain ⟨left, hleft, hrest⟩ := ih fuel (by simp only [List.cons_append, List.length_cons] at hfuel; omega)
    refine ⟨left, hleft, ?_⟩
    rw [List.cons_append, List.cons_append, unescapeFrom.eq_def]
    dsimp only
    rw [if_pos (by rfl), hdigits, if_pos (by rfl), hrest, List.cons_append]
  | @code digits spelling name blank hne hsize hdigits hblank _ ih =>
    intro fuel hfuel
    obtain ⟨fuel, rfl⟩ := Nat.exists_eq_add_one_of_ne_zero (Nat.ne_zero_of_lt hfuel)
    rw [List.cons_append, List.append_assoc, List.cons_append] at hfuel ⊢
    obtain ⟨left, hleft, hrest⟩ :=
      ih fuel (by rw [List.length_cons, List.length_append, List.length_cons] at hfuel; omega)
    refine ⟨left, hleft, ?_⟩
    rw [unescapeFrom_code fuel hne (takeWhile_code_blank hsize hdigits hblank)]
    dsimp only
    rw [if_pos hblank, hrest, List.cons_append]
  | @bare digits spelling name hne hsize hdigits hnext _ ih =>
    intro fuel hfuel
    obtain ⟨fuel, rfl⟩ := Nat.exists_eq_add_one_of_ne_zero (Nat.ne_zero_of_lt hfuel)
    rw [List.cons_append, List.append_assoc] at hfuel ⊢
    have hcode := takeWhile_code hsize hdigits fun d hd => (hnext d hd).2
    obtain ⟨left, hleft, hrest⟩ := ih fuel (by rw [List.length_cons, List.length_append] at hfuel; omega)
    refine ⟨left, hleft, ?_⟩
    rw [unescapeFrom_code fuel hne hcode, List.cons_append, ← hrest]
    generalize spelling ++ after = more at hnext
    cases more with
    | nil => cases fuel <;> rfl
    | cons d others =>
      dsimp only
      rw [if_neg (by simp [(hnext d rfl).1])]

/-- What is decoded of a spelling with a text behind it. -/
theorem unescape_append (haccepts : accepts (CodePoint.ofChar '\\') = false)
    (h : Spells accepts after spelling name) :
    ∃ left, after.length ≤ left ∧ unescape (spelling ++ after) = name ++ unescapeFrom left after :=
  unescapeFrom_append haccepts h _ (Nat.le_succ _)

/-- Any spelling of a name is decoded to it. -/
theorem unescape_of_spells (haccepts : accepts (CodePoint.ofChar '\\') = false)
    (h : Spells accepts after spelling name) : unescape spelling = name := by
  obtain ⟨left, -, hdecoded⟩ := unescape_append haccepts h.last
  rw [List.append_nil] at hdecoded
  rw [hdecoded]
  cases left <;> exact List.append_nil name

/-! ### What is read as a part of a name -/

theorem namePartSize_code (haccepts : accepts (CodePoint.ofChar '\\') = false) (hne : digits ≠ [])
    (hdigits : ∀ d ∈ digits, d.isHexDigit = true) :
    ((digits ++ more).take 6).takeWhile CodePoint.isHexDigit = digits →
      namePartSize accepts (CodePoint.ofChar '\\' :: (digits ++ more))
        = match more with
          | d :: _ => if d.isBlank then some (digits.length + 2) else some (digits.length + 1)
          | [] => some (digits.length + 1) := by
  intro hcode
  obtain ⟨first, others, rfl⟩ := List.exists_cons_of_ne_nil hne
  rw [namePartSize, if_neg (by rw [haccepts]; decide), if_pos (by rfl)]
  rw [List.cons_append, escapeSize, if_pos (hdigits first List.mem_cons_self)]
  dsimp only
  rw [← List.cons_append, hcode, List.drop_left]
  cases more with
  | nil => rfl
  | cons d rest =>
    dsimp only
    split <;> rfl

/-- The spelling of a first code point is one part of a name, and the others are spelled behind it. -/
theorem Spells.uncons (haccepts : accepts (CodePoint.ofChar '\\') = false)
    (h : Spells accepts after spelling (c :: name)) :
    ∃ part others, spelling = part ++ others ∧ part ≠ [] ∧
      namePartSize accepts (spelling ++ after) = some part.length ∧
      Spells accepts after others name := by
  cases h with
  | @plain _ spelling _ hc hrest =>
    exact ⟨[c], spelling, rfl, List.cons_ne_nil _ _, by simp [namePartSize, hc], hrest⟩
  | @sign _ spelling _ hhex hline hrest =>
    refine ⟨[CodePoint.ofChar '\\', c], spelling, rfl, List.cons_ne_nil _ _, ?_, hrest⟩
    rw [List.cons_append, namePartSize, if_neg (by rw [haccepts]; decide), if_pos (by rfl)]
    rw [List.cons_append, escapeSize, if_neg (by rw [hhex]; decide), if_neg (by simpa using hline)]
    rfl
  | @code digits spelling _ blank hne hsize hdigits hblank hrest =>
    refine ⟨CodePoint.ofChar '\\' :: (digits ++ [blank]), spelling, by simp, List.cons_ne_nil _ _, ?_, hrest⟩
    have hcode : ((digits ++ blank :: (spelling ++ after)).take 6).takeWhile CodePoint.isHexDigit
        = digits := takeWhile_code_blank hsize hdigits hblank
    rw [List.cons_append, List.append_assoc, List.cons_append, namePartSize_code haccepts hne hdigits hcode]
    dsimp only
    rw [if_pos hblank]
    simp
  | @bare digits spelling _ hne hsize hdigits hnext hrest =>
    refine ⟨CodePoint.ofChar '\\' :: digits, spelling, rfl, List.cons_ne_nil _ _, ?_, hrest⟩
    have hcode := takeWhile_code hsize hdigits fun d hd => (hnext d hd).2
    rw [List.cons_append, List.append_assoc, namePartSize_code haccepts hne hdigits hcode]
    generalize spelling ++ after = more at hnext ⊢
    cases more with
    | nil => rfl
    | cons d others =>
      dsimp only
      rw [if_neg (by simp [(hnext d rfl).1])]
      rfl

/-- The parts of a spelling are read up to its end. -/
theorem nameRestSize_of_spells (hafter : namePartSize isNamePart after = none)
    (h : Spells isNamePart after spelling name) :
    ∀ fuel, spelling.length ≤ fuel → nameRestSize fuel (spelling ++ after) = spelling.length := by
  induction name generalizing spelling with
  | nil =>
    intro fuel _
    cases h
    cases fuel with
    | zero => rfl
    | succ fuel =>
      rw [nameRestSize, List.nil_append, hafter]
      rfl
  | cons c name ih =>
    intro fuel hfuel
    obtain ⟨part, others, rfl, hne, hsize, hrest⟩ := h.uncons (by decide)
    have hpos := List.length_pos_iff.mpr hne
    rw [List.length_append] at hfuel
    obtain ⟨fuel, rfl⟩ := Nat.exists_eq_add_one_of_ne_zero (show fuel ≠ 0 by omega)
    rw [nameRestSize, hsize]
    dsimp only
    rw [List.append_assoc, List.drop_left, ih hrest fuel (by omega), List.length_append]

/-- A hyphen may stand at the beginning of a name, and is no start of it. -/
def Lead (hyphen : Text) (c : CodePoint) : Prop :=
  hyphen = [] ∧ c ≠ CodePoint.ofChar '-' ∨ hyphen = "-"

/-- A name is empty, or a hyphen, or has a start. -/
theorem lead_cases (name : Text) :
    name = [] ∨ name = "-" ∨ ∃ hyphen c rest, name = hyphen ++ c :: rest ∧ Lead hyphen c := by
  rcases name with _ | ⟨c, rest⟩
  · exact .inl rfl
  by_cases hc : c = CodePoint.ofChar '-'
  · subst hc
    cases rest with
    | nil => exact .inr (.inl rfl)
    | cons d rest => exact .inr (.inr ⟨"-", d, rest, rfl, .inr rfl⟩)
  · exact .inr (.inr ⟨[], c, rest, rfl, .inl ⟨rfl, hc⟩⟩)

theorem nameSize_of_lead {hyphen rest : Text} (h : Lead hyphen c) :
    nameSize (hyphen ++ c :: rest) = (namePartSize isNameStart (c :: rest)).map fun n =>
      hyphen.length + n + nameRestSize (c :: rest).length ((c :: rest).drop n) := by
  rcases h with ⟨rfl, hc⟩ | rfl
  · have hno : ¬ (c == CodePoint.ofChar '-') = true := by simpa using hc
    rw [List.nil_append, nameSize, if_neg hno, List.drop_zero]
    cases namePartSize isNameStart (c :: rest) <;> rfl
  · change nameSize (CodePoint.ofChar '-' :: c :: rest) = _
    rw [nameSize, if_pos (by rfl), List.drop_succ_cons, List.drop_zero]
    cases namePartSize isNameStart (c :: rest) <;> rfl

/-- A hyphen perhaps, a start and other parts are read as one name, and no more than them. -/
theorem nameSize_of_spells {hyphen start rest : Text} {d : CodePoint} (hhyphen : hyphen = [] ∨ hyphen = "-")
    (hafter : namePartSize isNamePart after = none)
    (hstart : Spells isNameStart (rest ++ after) start [d])
    (hrest : Spells isNamePart after rest name) :
    nameSize (hyphen ++ start ++ rest ++ after) = some (hyphen ++ start ++ rest).length := by
  obtain ⟨part, others, rfl, hne, hsize, hnil⟩ := hstart.uncons (by decide)
  cases hnil
  rw [List.append_nil] at hsize ⊢
  obtain ⟨c, tail, rfl⟩ := List.exists_cons_of_ne_nil hne
  have hlead : Lead hyphen c := by
    rcases hhyphen with rfl | rfl
    · refine .inl ⟨rfl, ?_⟩
      rintro rfl
      have hnone : namePartSize isNameStart (CodePoint.ofChar '-' :: (tail ++ (rest ++ after))) = none := by
        rw [namePartSize, if_neg (by decide), if_neg (by decide)]
      cases hnone.symm.trans hsize
    · exact .inr rfl
  rw [List.append_assoc, List.append_assoc, List.cons_append, nameSize_of_lead hlead]
  rw [List.cons_append] at hsize
  rw [hsize, Option.map_some, ← List.cons_append, List.drop_left]
  rw [nameRestSize_of_spells hafter hrest _ (by simp only [List.length_append, List.length_cons]; omega)]
  rw [List.length_append, List.length_append]

/-! ### Names that are read -/

theorem Spells.append {others more : Text} (h : Spells accepts (others ++ after) spelling name)
    (h' : Spells accepts after others more) : Spells accepts after (spelling ++ others) (name ++ more) := by
  induction h with
  | nil => exact h'
  | plain hc _ ih => exact .plain hc ih
  | sign hhex hline _ ih => exact .sign hhex hline ih
  | code hne hsize hdigits hblank _ ih =>
    rw [List.cons_append, List.append_assoc]
    exact .code hne hsize hdigits hblank ih
  | bare hne hsize hdigits hnext _ ih =>
    rw [List.cons_append, List.append_assoc]
    exact .bare hne hsize hdigits (by rwa [List.append_assoc]) ih

theorem Spells.mono {wider : CodePoint → Bool} (hwider : ∀ c, accepts c = true → wider c = true)
    (h : Spells accepts after spelling name) : Spells wider after spelling name := by
  induction h with
  | nil => exact .nil
  | plain hc _ ih => exact .plain (hwider _ hc) ih
  | sign hhex hline _ ih => exact .sign hhex hline ih
  | code hne hsize hdigits hblank _ ih => exact .code hne hsize hdigits hblank ih
  | bare hne hsize hdigits hnext _ ih => exact .bare hne hsize hdigits hnext ih

/-- What stands behind the digits of a code. -/
theorem next_of_takeWhile {t : Text} {digits others : Text} {d : CodePoint}
    (h : (t.take 6).takeWhile CodePoint.isHexDigit = digits) (ht : t = digits ++ d :: others) :
    d.isHexDigit = true → digits.length = 6 := by
  intro hhex
  have hsize : digits.length ≤ 6 := by
    rw [← h]
    exact Nat.le_trans (List.takeWhile_sublist _).length_le (List.length_take_le _ _)
  by_contra hless
  obtain ⟨n, hn⟩ : ∃ n, 6 - digits.length = n + 1 := ⟨5 - digits.length, by omega⟩
  have hdigits : ∀ e ∈ digits, e.isHexDigit = true := by
    rw [← h]
    exact fun e he => List.mem_takeWhile_imp he
  rw [ht, List.take_append, List.take_of_length_le hsize, hn, List.take_succ_cons,
    List.takeWhile_append_of_pos hdigits, List.takeWhile_cons_of_pos hhex] at h
  have hlength := congrArg List.length h
  rw [List.length_append, List.length_cons] at hlength
  omega

theorem spells_of_escapeSize {t rest : Text} (h : escapeSize (t ++ rest) = some t.length) :
    ∃ c, Spells accepts rest (CodePoint.ofChar '\\' :: t) [c] := by
  rcases t with _ | ⟨c, t⟩
  · exact absurd ((within_escapeSize _) _ h).1 (Nat.lt_irrefl 0)
  rw [List.cons_append, escapeSize] at h
  by_cases hhex : c.isHexDigit = true
  · rw [if_pos hhex, ← List.cons_append] at h
    dsimp only at h
    generalize hdigits : (((c :: t) ++ rest).take 6).takeWhile CodePoint.isHexDigit = digits at h
    have hall : ∀ d ∈ digits, d.isHexDigit = true := by
      rw [← hdigits]
      exact fun d hd => List.mem_takeWhile_imp hd
    have hsize : digits.length ≤ 6 := by
      rw [← hdigits]
      exact Nat.le_trans (List.takeWhile_sublist _).length_le (List.length_take_le _ _)
    have hne : digits ≠ [] := by
      rw [← hdigits, List.cons_append, List.take_succ_cons, List.takeWhile_cons_of_pos hhex]
      exact List.cons_ne_nil _ _
    have hprefix : digits <+: (c :: t) ++ rest := by
      rw [← hdigits]
      exact (List.takeWhile_prefix _).trans (List.take_prefix _ _)
    have hsplit := List.prefix_iff_eq_append.mp hprefix
    split at h
    · rename_i d others hdrop
      rw [hdrop] at hsplit
      split at h
      · rename_i hblank
        have hlength : (digits ++ [d]).length = (c :: t).length := by
          rw [List.length_append]
          exact Option.some.inj h
        rw [← List.singleton_append, ← List.append_assoc] at hsplit
        obtain ⟨ht, hrest⟩ := List.append_inj hsplit hlength
        rw [← ht]
        exact ⟨_, .code hne hsize hall hblank .nil⟩
      · rename_i hblank
        obtain ⟨ht, hrest⟩ := List.append_inj hsplit (Option.some.inj h)
        rw [← ht, ← List.append_nil digits]
        refine ⟨_, .bare hne hsize hall (fun e he => ?_) .nil⟩
        rw [List.nil_append, ← hrest] at he
        obtain rfl := Option.some.inj he
        exact ⟨by simpa using hblank, next_of_takeWhile hdigits hsplit.symm⟩
    · rename_i hdrop
      rw [hdrop] at hsplit
      obtain ⟨ht, hrest⟩ := List.append_inj hsplit (Option.some.inj h)
      rw [← ht, ← List.append_nil digits]
      refine ⟨_, .bare hne hsize hall (fun e he => ?_) .nil⟩
      rw [List.nil_append, ← hrest] at he
      cases he
  · rw [if_neg hhex] at h
    split at h
    · cases h
    · rename_i hline
      obtain rfl : t = [] := List.length_eq_zero_iff.mp (Nat.succ_inj.mp (Option.some.inj h)).symm
      exact ⟨c, .sign (by simpa using hhex) (by simpa using hline) .nil⟩

theorem spells_of_namePartSize {t rest : Text} (h : namePartSize accepts (t ++ rest) = some t.length) :
    ∃ c, Spells accepts rest t [c] := by
  rcases t with _ | ⟨c, t⟩
  · exact absurd ((within_namePartSize _ _) _ h).1 (Nat.lt_irrefl 0)
  rw [List.cons_append, namePartSize] at h
  split at h
  · rename_i hc
    obtain rfl : t = [] := List.length_eq_zero_iff.mp (Nat.succ_inj.mp (Option.some.inj h)).symm
    exact ⟨c, .plain hc .nil⟩
  split at h
  · rename_i hslash
    obtain rfl := beq_iff_eq.mp hslash
    obtain ⟨n, hn, hlength⟩ := Option.map_eq_some_iff.mp h
    obtain rfl : n = t.length := Nat.succ_inj.mp hlength
    exact spells_of_escapeSize hn
  · cases h

/-- The parts of a name end where no other one begins. -/
theorem spells_of_nameRestSize (fuel : Nat) {t rest : Text} (hfuel : (t ++ rest).length ≤ fuel)
    (h : nameRestSize fuel (t ++ rest) = t.length) :
    (∃ name, Spells isNamePart rest t name) ∧ namePartSize isNamePart rest = none := by
  induction fuel generalizing t with
  | zero =>
    obtain ⟨rfl, rfl⟩ := List.append_eq_nil_iff.mp (List.length_eq_zero_iff.mp (Nat.le_zero.mp hfuel))
    exact ⟨⟨[], .nil⟩, rfl⟩
  | succ fuel ih =>
    rw [nameRestSize] at h
    split at h
    · rename_i n hn
      obtain ⟨hpos, -⟩ := within_namePartSize _ _ n hn
      have hle : n ≤ t.length := by omega
      rw [← List.take_append_drop n t] at hn hfuel ⊢
      rw [List.drop_append_of_le_length hle] at h
      have hlength : (t.take n).length = n := List.length_take_of_le hle
      rw [List.append_assoc] at hn hfuel
      obtain ⟨c, hc⟩ := spells_of_namePartSize (hn.trans (congrArg some hlength.symm))
      rw [List.length_append, hlength] at hfuel
      obtain ⟨⟨name, hname⟩, hnone⟩ := ih (t := t.drop n) (by omega) (by rw [List.length_drop]; omega)
      exact ⟨⟨_, hc.append hname⟩, hnone⟩
    · rename_i hnone
      obtain rfl : t = [] := List.length_eq_zero_iff.mp h.symm
      exact ⟨⟨[], .nil⟩, hnone⟩

/-- A name that is read before a text: a hyphen perhaps, a start and other parts. -/
inductive IsName (after : Text) : Text → Prop
  | name {hyphen start rest name : Text} {c : CodePoint} (hhyphen : hyphen = [] ∨ hyphen = "-")
      (hstart : Spells isNameStart (rest ++ after) start [c]) (hrest : Spells isNamePart after rest name)
      (hafter : namePartSize isNamePart after = none) : IsName after (hyphen ++ start ++ rest)

theorem nameSize_eq_some_iff {t : Text} : nameSize (t ++ after) = some t.length ↔ IsName after t := by
  constructor
  · intro h
    rcases t with _ | ⟨c, t⟩
    · exact absurd (within_nameSize _ _ h).1 (Nat.lt_irrefl 0)
    -- The hyphen is taken off first, whether there is one or not.
    obtain ⟨hyphen, d, u, hsplit, hlead⟩ : ∃ hyphen d u, (c :: t) ++ after = hyphen ++ d :: u ∧ Lead hyphen d := by
      rcases lead_cases ((c :: t) ++ after) with hnil | hhyphen | hlead
      · cases hnil
      · rw [hhyphen] at h
        exact absurd h (by rw [show nameSize "-" = none by decide]; exact nofun)
      · exact hlead
    rw [hsplit, nameSize_of_lead hlead] at h
    obtain ⟨n, hn, hlength⟩ := Option.map_eq_some_iff.mp h
    have hle : hyphen.length ≤ (c :: t).length := by omega
    obtain ⟨u', htake⟩ : ∃ u', c :: t = hyphen ++ u' := by
      have hprefix : hyphen <+: c :: t := List.prefix_of_prefix_length_le ⟨_, hsplit.symm⟩ ⟨_, rfl⟩ hle
      exact ⟨_, (List.prefix_iff_eq_append.mp hprefix).symm⟩
    rw [htake] at hsplit hlength ⊢
    rw [List.append_assoc] at hsplit
    have hrest := List.append_cancel_left hsplit
    rw [← hrest] at hn hlength
    have hsum : (hyphen ++ u').length = hyphen.length + u'.length := List.length_append
    have hnle : n ≤ u'.length := by omega
    rw [← List.take_append_drop n u', List.append_assoc] at hn
    rw [List.drop_append_of_le_length hnle] at hlength
    obtain ⟨d', hstart⟩ := spells_of_namePartSize
      (hn.trans (congrArg some (List.length_take_of_le hnle).symm))
    obtain ⟨⟨name, hname⟩, hafter⟩ := spells_of_nameRestSize _
      (by rw [List.length_append, List.length_append, List.length_drop]; omega)
      (show nameRestSize (u' ++ after).length (u'.drop n ++ after) = (u'.drop n).length by
        rw [List.length_drop]; omega)
    rw [← List.take_append_drop n u', ← List.append_assoc]
    exact .name (hlead.imp_left And.left) hstart hname hafter
  · rintro ⟨hhyphen, hstart, hrest, hafter⟩
    exact nameSize_of_spells hhyphen hafter hstart hrest

theorem isNamePart_of_isNameStart (h : isNameStart c = true) : isNamePart c = true := by
  simp only [isNameStart, Bool.or_eq_true, beq_iff_eq] at h
  rw [isNamePart, CodePoint.isWord]
  have hof (n : Nat) (hn : c.val = n) : c = CodePoint.ofNat n := by rw [← hn, CodePoint.ofNat_val]
  rcases h with ((((h | rfl) | h) | h) | h) | h
  · have hascii : c.val < 0x80 := by
      simp only [CodePoint.isAsciiLetter, CodePoint.isAsciiLower, CodePoint.isAsciiUpper, Bool.or_eq_true,
        Bool.and_eq_true, decide_eq_true_eq] at h
      omega
    rw [if_pos hascii, h]
    rfl
  · decide
  · rw [hof _ h]
    decide +kernel
  · rw [hof _ h]
    decide +kernel
  · rw [hof _ h]
    decide +kernel
  · rw [hof _ h]
    decide +kernel

/-- All of a name is spelled. -/
theorem IsName.spells {t : Text} (h : IsName after t) : ∃ name, Spells isNamePart after t name := by
  obtain ⟨hhyphen, hstart, hrest, -⟩ := h
  have hname := (hstart.mono fun _ => isNamePart_of_isNameStart).append hrest
  rcases hhyphen with rfl | rfl
  · exact ⟨_, hname⟩
  · exact ⟨_, .plain (by decide) hname⟩

/-- A name is read before any text that does not make it longer. -/
theorem IsName.behind {t after' : Text} (hbehind : NoLonger after after')
    (hafter' : namePartSize isNamePart after' = none) (h : IsName after t) : IsName after' t := by
  obtain ⟨hhyphen, hstart, hrest, -⟩ := h
  exact .name hhyphen (hstart.behind (hbehind.append _)) (hrest.behind hbehind) hafter'

/-! ## Serializations -/

/-- A code point by its code. -/
def coded (c : CodePoint) : Text :=
  CodePoint.ofChar '\\' :: (Text.hex c.val 1 ++ [CodePoint.ofChar ' '])

/-- How a code point of a name is written. -/
def spelled (c : CodePoint) : Text :=
  if c.val = 0 then [CodePoint.replacement]
  else if c.val < 0x20 || c.val == 0x7F then coded c
  else if c.isAscii && !isNamePart c then [CodePoint.ofChar '\\', c]
  else [c]

/-- How a code point is written at the beginning of a name, or there behind a hyphen. -/
def spelledFirst (c : CodePoint) : Text :=
  if c.isAsciiDigit then coded c else spelled c

/-- The serialization of a name as an identifier of CSS. -/
def serialize : Text → Text
  | [] => []
  | [c] => if c = CodePoint.ofChar '-' then "\\-" else spelledFirst c
  | c :: d :: rest =>
    if c = CodePoint.ofChar '-' then c :: (spelledFirst d ++ rest.flatMap spelled)
    else spelledFirst c ++ (d :: rest).flatMap spelled

/-- What a backslash need not stand before. -/
def isPlain (c : CodePoint) : Bool :=
  c != CodePoint.ofChar '\\'

/-- A name without the code point zero, which no spelling can write. -/
def Writable (name : Text) : Prop :=
  ∀ c ∈ name, c.val ≠ 0

/-- What holds of the first code points by looking at each of them holds of every one that is ASCII. -/
theorem of_isAscii {p : CodePoint → Prop} (hall : ∀ n < 128, p (CodePoint.ofNat n))
    (h : c.isAscii = true) : p c := by
  rw [← CodePoint.ofNat_val c]
  exact hall c.val (by simpa [CodePoint.isAscii] using h)

theorem spells_coded (hnul : c.val ≠ 0) (hascii : c.isAscii = true)
    (h : Spells accepts after spelling name) :
    Spells accepts after (coded c ++ spelling) (c :: name) := by
  have hcode : c.val ≠ 0 → Text.hex c.val 1 ≠ [] ∧ (Text.hex c.val 1).length ≤ 6 ∧
      (∀ d ∈ Text.hex c.val 1, d.isHexDigit = true) ∧ codePointOf (hexNumber (Text.hex c.val 1)) = c :=
    of_isAscii (p := fun c => c.val ≠ 0 → Text.hex c.val 1 ≠ [] ∧ (Text.hex c.val 1).length ≤ 6 ∧
      (∀ d ∈ Text.hex c.val 1, d.isHexDigit = true) ∧ codePointOf (hexNumber (Text.hex c.val 1)) = c)
      (by decide +kernel) hascii
  obtain ⟨hne, hsize, hdigits, hvalue⟩ := hcode hnul
  have hblank : (CodePoint.ofChar ' ').isBlank = true := by decide
  have hspells := Spells.code hne hsize hdigits hblank h
  rw [hvalue] at hspells
  rwa [coded, List.cons_append, List.append_assoc]

/-- A code point is written by its code, behind a backslash that does not begin a code or as itself. -/
theorem spelled_cases (hnul : c.val ≠ 0) :
    (c.isAscii = true ∧ spelled c = coded c) ∨
      (c.isHexDigit = false ∧ c ≠ CodePoint.ofChar '\n' ∧ spelled c = [CodePoint.ofChar '\\', c]) ∨
      ((c.isAscii = false ∨ isNamePart c = true) ∧ spelled c = [c]) := by
  rw [spelled, if_neg hnul]
  split
  · rename_i hcontrol
    refine .inl ⟨?_, rfl⟩
    simp only [Bool.or_eq_true, decide_eq_true_eq, beq_iff_eq] at hcontrol
    rw [CodePoint.isAscii, decide_eq_true_eq]
    omega
  split
  · rename_i hcontrol hsign
    obtain ⟨hascii, hpart⟩ := by simpa using hsign
    refine .inr (.inl ⟨?_, ?_, rfl⟩)
    · exact of_isAscii (p := fun c => isNamePart c = false → c.isHexDigit = false)
        (by decide +kernel) hascii hpart
    · rintro rfl
      exact hcontrol (by decide)
  · rename_i hsign
    refine .inr (.inr ⟨?_, rfl⟩)
    rcases hascii : c.isAscii with _ | _
    · exact .inl rfl
    · exact .inr (by simpa [hascii] using hsign)

/-- How a code point is written at the beginning of a name. -/
theorem spelledFirst_cases (c : CodePoint) :
    (c.isAscii = true ∧ spelledFirst c = coded c) ∨
      (c.isAsciiDigit = false ∧ spelledFirst c = spelled c) := by
  unfold spelledFirst
  split
  · rename_i hdigit
    refine .inl ⟨?_, rfl⟩
    simp only [CodePoint.isAsciiDigit, Bool.and_eq_true, decide_eq_true_eq] at hdigit
    rw [CodePoint.isAscii, decide_eq_true_eq]
    omega
  · rename_i hdigit
    exact .inr ⟨by simpa using hdigit, rfl⟩

theorem spells_spelled (hnul : c.val ≠ 0)
    (hc : c.isAscii = false ∨ isNamePart c = true → accepts c = true)
    (h : Spells accepts after spelling name) :
    Spells accepts after (spelled c ++ spelling) (c :: name) := by
  rcases spelled_cases hnul with ⟨hascii, hspelled⟩ | ⟨hhex, hline, hspelled⟩ | ⟨hkind, hspelled⟩ <;>
    rw [hspelled]
  · exact spells_coded hnul hascii h
  · exact .sign hhex hline h
  · exact .plain (hc hkind) h

theorem spells_spelledFirst (hnul : c.val ≠ 0)
    (hc : c.isAscii = false ∨ isNamePart c = true ∧ c.isAsciiDigit = false → accepts c = true)
    (h : Spells accepts after spelling name) :
    Spells accepts after (spelledFirst c ++ spelling) (c :: name) := by
  rcases spelledFirst_cases c with ⟨hascii, hspelled⟩ | ⟨hdigit, hspelled⟩ <;> rw [hspelled]
  · exact spells_coded hnul hascii h
  · exact spells_spelled hnul (fun h => hc (h.imp_right fun hpart => ⟨hpart, hdigit⟩)) h

theorem spells_flatMap (hnul : Writable name)
    (hname : ∀ c ∈ name, c.isAscii = false ∨ isNamePart c = true → accepts c = true) :
    Spells accepts after (name.flatMap spelled) name := by
  induction name with
  | nil => exact .nil
  | cons c name ih =>
    obtain ⟨hnul, hrest⟩ := List.forall_mem_cons.mp hnul
    obtain ⟨hc, hname⟩ := List.forall_mem_cons.mp hname
    exact spells_spelled hnul hc (ih hrest hname)

/-- How a name with a start is written. -/
theorem serialize_of_lead {hyphen rest : Text} (h : Lead hyphen c) :
    serialize (hyphen ++ c :: rest) = hyphen ++ (spelledFirst c ++ rest.flatMap spelled) := by
  rcases h with ⟨rfl, hc⟩ | rfl
  · cases rest with
    | nil => rw [List.nil_append, serialize, if_neg hc, List.flatMap_nil, List.append_nil]; rfl
    | cons d rest => rw [List.nil_append, serialize, if_neg hc]; rfl
  · change serialize (CodePoint.ofChar '-' :: c :: rest) = _
    rw [serialize, if_pos rfl]
    rfl

theorem spells_serialize (hnul : Writable name) : Spells isPlain after (serialize name) name := by
  have hplain : ∀ c : CodePoint, c.isAscii = false ∨ isNamePart c = true → isPlain c = true := by
    intro c hc
    rw [isPlain, bne_iff_ne]
    rintro rfl
    exact absurd hc (by decide)
  rcases lead_cases name with rfl | rfl | ⟨hyphen, c, rest, rfl, hlead⟩
  · exact .nil
  · exact .sign (by decide) (by decide) .nil
  · rw [serialize_of_lead hlead]
    obtain ⟨hhyphen, hrest⟩ := List.forall_mem_append.mp hnul
    obtain ⟨hc, hrest⟩ := List.forall_mem_cons.mp hrest
    have htail : Spells isPlain after (spelledFirst c ++ rest.flatMap spelled) (c :: rest) :=
      spells_spelledFirst hc (fun h => hplain c (h.imp_right And.left))
        (spells_flatMap hrest fun c _ => hplain c)
    rcases hlead with ⟨rfl, -⟩ | rfl
    · exact htail
    · exact .plain (by decide) htail

/-- The serialization of a name is decoded to it. -/
theorem unescape_serialize (hnul : Writable name) : unescape (serialize name) = name := by
  have hspells : Spells isPlain [] (serialize name) name := spells_serialize hnul
  exact unescape_of_spells (by decide) hspells

/-! ## Names whose serialization is read as one name -/

/-- A code point that is read as the start of a name, as it is serialized. -/
def StartsName (c : CodePoint) : Prop :=
  c ≠ CodePoint.ofChar '-' ∧ (c.isAscii = true ∨ isNameStart c = true)

/-- A code point that is read as a part of a name, as it is serialized. -/
def ContinuesName (c : CodePoint) : Prop :=
  c.isAscii = true ∨ c.isWord = true

/-- The names that a serialization is read as: a hyphen; or a start behind a hyphen perhaps, and parts.
Not all names are: two hyphens at the beginning are none, and of other alphabets not all letters may
start a name, nor may signs that belong to no word be in it. -/
inductive Recognised : Text → Prop
  | hyphen : Recognised "-"
  | name {hyphen rest : Text} {c : CodePoint} (hhyphen : hyphen = [] ∨ hyphen = "-") (hc : StartsName c)
      (hrest : ∀ d ∈ rest, ContinuesName d) : Recognised (hyphen ++ c :: rest)

theorem StartsName.lead {hyphen : Text} (h : StartsName c) (hhyphen : hyphen = [] ∨ hyphen = "-") :
    Lead hyphen c :=
  hhyphen.imp_left fun hnil => ⟨hnil, h.1⟩

theorem spells_start (hnul : c.val ≠ 0) (h : StartsName c) :
    Spells isNameStart after (spelledFirst c) [c] := by
  rw [← List.append_nil (spelledFirst c)]
  refine spells_spelledFirst hnul (fun hkind => ?_) .nil
  rcases h.2 with hascii | hstart
  · obtain ⟨hpart, hdigit⟩ := hkind.resolve_left (by rw [hascii]; decide)
    exact of_isAscii (p := fun c => c ≠ CodePoint.ofChar '-' → isNamePart c = true →
      c.isAsciiDigit = false → isNameStart c = true) (by decide +kernel) hascii h.1 hpart hdigit
  · exact hstart

theorem spells_rest {rest : Text} (hnul : Writable rest) (h : ∀ d ∈ rest, ContinuesName d) :
    Spells isNamePart after (rest.flatMap spelled) rest := by
  refine spells_flatMap hnul fun d hd hkind => ?_
  rcases h d hd with hascii | hword
  · exact hkind.resolve_left (by rw [hascii]; decide)
  · rw [isNamePart, hword]
    rfl

/-- The serialization of a recognised name is read as one name, whatever else stands behind it. -/
theorem nameSize_serialize (hafter : namePartSize isNamePart after = none) (hnul : Writable name)
    (h : Recognised name) : nameSize (serialize name ++ after) = some (serialize name).length := by
  cases h with
  | hyphen =>
    have hstart : Spells isNameStart ([] ++ after) "\\-" "-" := .sign (by decide) (by decide) .nil
    exact nameSize_of_spells (.inl rfl) hafter hstart .nil
  | @name hyphen rest c hhyphen hc hrest =>
    obtain ⟨-, hnul⟩ := List.forall_mem_append.mp hnul
    obtain ⟨hcnul, hrestnul⟩ := List.forall_mem_cons.mp hnul
    rw [serialize_of_lead (hc.lead hhyphen), ← List.append_assoc]
    exact nameSize_of_spells hhyphen hafter (spells_start hcnul hc) (spells_rest hrestnul hrest)

/-! ## Selectors -/

/-- What a simple selector selects by. -/
inductive Selector where
  | byClass
  | byIdentity

namespace Selector

/-- What a selector begins with. -/
def sign : Selector → CodePoint
  | .byClass => CodePoint.ofChar '.'
  | .byIdentity => CodePoint.ofChar '#'

def kind : Selector → TokenKind
  | .byClass => .classSelector
  | .byIdentity => .identitySelector

/-- The program that asks for what stands for a name. -/
def request (settings : Settings) : Selector → Text → Rewriting Text
  | .byClass, name => Rewriting.className settings name
  | .byIdentity, name => Rewriting.elementId name

theorem tokenAt_eq (selector : Selector) (t : Text) :
    tokenAt (selector.sign :: t) = (nameSize t).map fun n => (selector.kind, n + 1) := by
  cases selector <;> rfl

end Selector

end VeiledGateway.Style
