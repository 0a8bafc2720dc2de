/-
  Scanning: a style sheet cut into pieces.

  `Scans` says without fuel how a style sheet is cut: a token is taken wherever one begins, and else a
  single code point.  There is one such cut of each text, and `scan` gives it, since every token takes
  at least one code point and no more than there are.
-/
import VeiledGateway.Proofs.Text.Prefix
import VeiledGateway.Style.Token

set_option autoImplicit false

namespace VeiledGateway.Style

/-! ## Extents -/

/-- An extent takes at least one code point of a text, and no more than there are. -/
def Extent.Within (extent : Extent) (t : Text) : Prop :=
  ∀ n, extent = some n → 0 < n ∧ n ≤ t.length

theorem within_none (t : Text) : Extent.Within none t :=
  fun _ h => nomatch h

theorem within_some {n : Nat} {t : Text} (hpos : 0 < n) (hle : n ≤ t.length) :
    Extent.Within (some n) t := by
  rintro _ ⟨⟩
  exact ⟨hpos, hle⟩

theorem Extent.Within.add {extent : Extent} {t rest : Text} (h : extent.Within rest) (n : Nat)
    (hle : n + rest.length ≤ t.length) : Extent.Within (extent.map (· + n)) t := by
  intro m hm
  obtain ⟨k, hk, rfl⟩ := Option.map_eq_some_iff.mp hm
  obtain ⟨hpos, hlen⟩ := h k hk
  exact ⟨by omega, by omega⟩

theorem within_escapeSize (after : Text) : Extent.Within (escapeSize after) after := by
  unfold escapeSize
  split
  · exact within_none _
  · rename_i c rest
    split
    · rename_i hhex
      have hdigits : ((c :: rest).take 6).takeWhile CodePoint.isHexDigit
          = c :: (rest.take 5).takeWhile CodePoint.isHexDigit := by
        rw [List.take_succ_cons, List.takeWhile_cons_of_pos hhex]
      have hlen : ((rest.take 5).takeWhile CodePoint.isHexDigit).length ≤ rest.length :=
        Nat.le_trans (List.takeWhile_sublist _).length_le (List.length_take_le' _ _)
      dsimp only
      rw [hdigits, List.length_cons, List.drop_succ_cons]
      split
      · rename_i d others hdrop
        have hless : ((rest.take 5).takeWhile CodePoint.isHexDigit).length < rest.length := by
          refine Nat.lt_of_not_le fun hle => ?_
          rw [List.drop_eq_nil_of_le hle] at hdrop
          cases hdrop
        split
        · exact within_some (by omega) (by rw [List.length_cons]; omega)
        · exact within_some (by omega) (by rw [List.length_cons]; omega)
      · exact within_some (by omega) (by rw [List.length_cons]; omega)
    · split
      · exact within_none _
      · exact within_some Nat.one_pos (by simp)

theorem within_namePartSize (accepts : CodePoint → Bool) (t : Text) :
    Extent.Within (namePartSize accepts t) t := by
  unfold namePartSize
  split
  · exact within_none _
  · split
    · exact within_some Nat.one_pos (by simp)
    · split
      · exact (within_escapeSize _).add 1 (by rw [List.length_cons]; omega)
      · exact within_none _

theorem nameRestSize_le (fuel : Nat) (t : Text) : nameRestSize fuel t ≤ t.length := by
  induction fuel generalizing t with
  | zero => exact Nat.zero_le _
  | succ fuel ih =>
    rw [nameRestSize]
    split
    · rename_i n hn
      have hle := (within_namePartSize isNamePart t n hn).2
      have hrest := ih (t.drop n)
      rw [List.length_drop] at hrest
      omega
    · exact Nat.zero_le _

theorem within_nameSize (t : Text) : Extent.Within (nameSize t) t := by
  unfold nameSize
  extract_lets hyphen after
  have hafter : hyphen + after.length ≤ t.length := by
    have hhyphen : hyphen ≤ t.length := by
      unfold hyphen
      split
      · split <;> simp
      · simp
    unfold after
    rw [List.length_drop]
    omega
  split
  · rename_i n hn
    obtain ⟨hpos, hle⟩ := within_namePartSize isNameStart after n hn
    have hrest := nameRestSize_le after.length (after.drop n)
    have hdrop : (after.drop n).length = after.length - n := List.length_drop
    exact within_some (by omega) (by omega)
  · exact within_none _

theorem cutAt?_eq_some {sought t before after : Text} (h : Text.cutAt? sought t = some (before, after)) :
    t = before ++ sought ++ after := by
  induction t generalizing before with
  | nil =>
    rw [Text.cutAt?] at h
    split at h
    · rename_i hempty
      obtain ⟨rfl, rfl⟩ := Prod.mk.inj (Option.some.inj h)
      rw [List.isEmpty_iff.mp hempty]
      rfl
    · cases h
  | cons c rest ih =>
    rw [Text.cutAt?] at h
    split at h
    · rename_i hprefix
      obtain ⟨rfl, rfl⟩ := Prod.mk.inj (Option.some.inj h)
      exact Text.dropPrefix?_eq_some_iff.mp hprefix
    · obtain ⟨⟨lead, tail⟩, hparts, heq⟩ := Option.map_eq_some_iff.mp h
      obtain ⟨rfl, rfl⟩ := Prod.mk.inj heq
      rw [ih hparts]
      rfl

theorem within_throughSize {sought : Text} (hne : sought ≠ []) (t : Text) :
    Extent.Within (throughSize sought t) t := by
  intro n hn
  obtain ⟨⟨before, after⟩, hcut, rfl⟩ := Option.map_eq_some_iff.mp hn
  have hpos := List.length_pos_iff.mpr hne
  rw [cutAt?_eq_some hcut]
  simp only [List.length_append]
  exact ⟨by omega, by omega⟩

theorem within_commentSize (t : Text) : Extent.Within (commentSize t) t := by
  unfold commentSize
  split
  · rename_i rest hrest
    refine (within_throughSize (by decide) rest).add 2 ?_
    have hlen := congrArg List.length (Text.dropPrefix?_eq_some_iff.mp hrest)
    rw [hlen, List.length_append]
    exact Nat.le_refl _
  · exact within_none _

theorem within_stringRestSize (quote : CodePoint) (t : Text) :
    Extent.Within (stringRestSize quote t) t := by
  fun_induction stringRestSize quote t with
  | case1 => exact within_none _
  | case2 => exact within_some Nat.one_pos (by simp)
  | case3 => exact within_none _
  | case4 => exact within_some Nat.one_pos (by simp)
  | case5 _ d rest _ _ ih => exact ih.add 2 (by simp only [List.length_cons]; omega)
  | case6 => exact within_none _
  | case7 _ d rest _ _ _ ih => exact ih.add 1 (by simp only [List.length_cons]; omega)

theorem within_stringSize (t : Text) : Extent.Within (stringSize t) t := by
  unfold stringSize
  split
  · split
    · exact (within_stringRestSize _ _).add 1 (by rw [List.length_cons]; omega)
    · exact within_none _
  · exact within_none _

theorem within_quotedAddressSize (t : Text) : Extent.Within (quotedAddressSize t) t := by
  unfold quotedAddressSize
  split
  · rename_i c rest
    split
    · extract_lets inside
      have hinside : inside ≤ rest.length := (List.takeWhile_sublist _).length_le
      split
      · exact within_none _
      · rename_i d after hdrop
        extract_lets blanks
        have hafter : inside + after.length + 1 = rest.length := by
          have hlen := congrArg List.length hdrop
          rw [List.length_drop, List.length_cons] at hlen
          omega
        split
        · rename_i e others hdrop'
          have hblanks : blanks + 1 ≤ after.length := by
            have hlen := congrArg List.length hdrop'
            rw [List.length_drop, List.length_cons] at hlen
            omega
          split
          · exact within_some (by omega) (by rw [List.length_cons]; omega)
          · exact within_none _
        · exact within_none _
    · exact within_none _
  · exact within_none _

theorem afterAddressOpening?_eq_some {t rest : Text} (h : afterAddressOpening? t = some rest) :
    t.length = rest.length + 4 ∧ rest = t.drop 4 := by
  unfold afterAddressOpening? at h
  split at h
  · rename_i hopening
    obtain rfl := Option.some.inj h
    have hlen : (t.take 4).length = 4 := by
      have heq : (t.take 4).map CodePoint.asciiLower = Text.ofString "url(" := by
        simpa [Text.eqString] using hopening
      have hlen := congrArg List.length heq
      rwa [List.length_map] at hlen
    rw [List.length_take] at hlen
    rw [List.length_drop]
    exact ⟨by omega, rfl⟩
  · cases h

theorem within_addressSize (t : Text) : Extent.Within (addressSize t) t := by
  unfold addressSize
  split
  · exact within_none _
  · rename_i rest hrest
    obtain ⟨hlen, -⟩ := afterAddressOpening?_eq_some hrest
    extract_lets blanks inside
    have hinside : blanks + 4 + inside.length ≤ t.length := by
      have hblanks : blanks ≤ rest.length := (List.takeWhile_sublist _).length_le
      unfold inside
      rw [List.length_drop]
      omega
    split
    · rename_i n hn
      obtain ⟨hpos, hle⟩ := within_quotedAddressSize inside n hn
      exact within_some (by omega) (by omega)
    · exact (within_throughSize (by decide) inside).add (blanks + 4) hinside

/-! ## Tokens -/

/-- What a token of each kind is, and how many code points it takes. -/
inductive TokenOf : TokenKind → Text → Nat → Prop
  | comment {t : Text} {n : Nat} (h : commentSize t = some n) : TokenOf .comment t n
  | address {t : Text} {n : Nat} (h : addressSize t = some n) : TokenOf .address t n
  | string {t : Text} {n : Nat} (h : stringSize t = some n) : TokenOf .string t n
  | opening (rest : Text) : TokenOf .opening (CodePoint.ofChar '{' :: rest) 1
  | closing (rest : Text) : TokenOf .closing (CodePoint.ofChar '}' :: rest) 1
  | semicolon (rest : Text) : TokenOf .semicolon (CodePoint.ofChar ';' :: rest) 1
  | classSelector {rest : Text} {n : Nat} (h : nameSize rest = some n) :
    TokenOf .classSelector (CodePoint.ofChar '.' :: rest) (n + 1)
  | identitySelector {rest : Text} {n : Nat} (h : nameSize rest = some n) :
    TokenOf .identitySelector (CodePoint.ofChar '#' :: rest) (n + 1)

theorem tokenOf_of_tokenAt {t : Text} {kind : TokenKind} {n : Nat}
    (h : tokenAt t = some (kind, n)) : TokenOf kind t n := by
  unfold tokenAt at h
  split at h
  · cases h
  · rename_i c rest
    split at h
    · obtain ⟨m, hm, heq⟩ := Option.map_eq_some_iff.mp h
      obtain ⟨rfl, rfl⟩ := Prod.mk.inj heq
      exact .comment hm
    split at h
    · obtain ⟨m, hm, heq⟩ := Option.map_eq_some_iff.mp h
      obtain ⟨rfl, rfl⟩ := Prod.mk.inj heq
      exact .address hm
    split at h
    · obtain ⟨m, hm, heq⟩ := Option.map_eq_some_iff.mp h
      obtain ⟨rfl, rfl⟩ := Prod.mk.inj heq
      exact .string hm
    split at h
    · rename_i hc
      obtain ⟨rfl, rfl⟩ := Prod.mk.inj (Option.some.inj h)
      obtain rfl := beq_iff_eq.mp hc
      exact .opening rest
    split at h
    · rename_i hc
      obtain ⟨rfl, rfl⟩ := Prod.mk.inj (Option.some.inj h)
      obtain rfl := beq_iff_eq.mp hc
      exact .closing rest
    split at h
    · rename_i hc
      obtain ⟨rfl, rfl⟩ := Prod.mk.inj (Option.some.inj h)
      obtain rfl := beq_iff_eq.mp hc
      exact .semicolon rest
    split at h
    · rename_i hc
      obtain ⟨m, hm, heq⟩ := Option.map_eq_some_iff.mp h
      obtain ⟨rfl, rfl⟩ := Prod.mk.inj heq
      obtain rfl := beq_iff_eq.mp hc
      exact .classSelector hm
    split at h
    · rename_i hc
      obtain ⟨m, hm, heq⟩ := Option.map_eq_some_iff.mp h
      obtain ⟨rfl, rfl⟩ := Prod.mk.inj heq
      obtain rfl := beq_iff_eq.mp hc
      exact .identitySelector hm
    · cases h

theorem within_tokenAt {t : Text} {kind : TokenKind} {n : Nat} (h : tokenAt t = some (kind, n)) :
    0 < n ∧ n ≤ t.length := by
  cases tokenOf_of_tokenAt h with
  | comment h => exact within_commentSize t n h
  | address h => exact within_addressSize t n h
  | string h => exact within_stringSize t n h
  | opening rest => exact ⟨Nat.one_pos, by simp⟩
  | closing rest => exact ⟨Nat.one_pos, by simp⟩
  | semicolon rest => exact ⟨Nat.one_pos, by simp⟩
  | @classSelector rest n hname =>
    have hle := (within_nameSize rest n hname).2
    exact ⟨by omega, by rw [List.length_cons]; omega⟩
  | @identitySelector rest n hname =>
    have hle := (within_nameSize rest n hname).2
    exact ⟨by omega, by rw [List.length_cons]; omega⟩

/-- The pieces of a text: a token wherever one begins, and else a single code point. -/
inductive Scans : Text → List Piece → Prop
  | nil : Scans [] []
  | token {kind : TokenKind} {text rest : Text} {pieces : List Piece}
      (h : tokenAt (text ++ rest) = some (kind, text.length)) (hrest : Scans rest pieces) :
      Scans (text ++ rest) (.token kind text :: pieces)
  | other {c : CodePoint} {rest : Text} {pieces : List Piece} (h : tokenAt (c :: rest) = none)
      (hrest : Scans rest pieces) : Scans (c :: rest) (.other c :: pieces)

theorem scans_scanFrom (fuel : Nat) (t : Text) (h : t.length ≤ fuel) : Scans t (scanFrom fuel t) := by
  induction fuel generalizing t with
  | zero =>
    obtain rfl := List.length_eq_zero_iff.mp (Nat.le_zero.mp h)
    exact .nil
  | succ fuel ih =>
    cases t with
    | nil => exact .nil
    | cons c rest =>
      rw [List.length_cons] at h
      rw [scanFrom]
      split
      · rename_i kind n htoken
        obtain ⟨hpos, hle⟩ := within_tokenAt htoken
        have hdrop : Scans ((c :: rest).drop n) (scanFrom fuel ((c :: rest).drop n)) := by
          refine ih _ ?_
          rw [List.length_drop, List.length_cons]
          omega
        have hsplit : (c :: rest).take n ++ (c :: rest).drop n = c :: rest := List.take_append_drop _ _
        have hlen : ((c :: rest).take n).length = n := List.length_take_of_le hle
        have htoken' : tokenAt ((c :: rest).take n ++ (c :: rest).drop n)
            = some (kind, ((c :: rest).take n).length) := by
          rw [hsplit, hlen, htoken]
        have hscans := Scans.token htoken' hdrop
        rwa [hsplit] at hscans
      · rename_i hnone
        exact .other hnone (ih rest (by omega))

theorem scans_scan (t : Text) : Scans t (scan t) :=
  scans_scanFrom t.length t (Nat.le_refl _)

/-- A text is cut in one way only. -/
theorem Scans.unique {t : Text} {pieces others : List Piece} (h : Scans t pieces)
    (h' : Scans t others) : pieces = others := by
  induction h generalizing others with
  | nil =>
    generalize ht : ([] : Text) = t at h'
    cases h' with
    | nil => rfl
    | @token kind text rest pieces htoken _ =>
      have hpos := (within_tokenAt htoken).1
      rw [(List.append_eq_nil_iff.mp ht.symm).1] at hpos
      exact absurd hpos (Nat.lt_irrefl 0)
    | other _ _ => cases ht
  | @token kind text rest pieces htoken _ ih =>
    generalize ht : text ++ rest = t at h'
    cases h' with
    | nil =>
      have hpos := (within_tokenAt htoken).1
      rw [(List.append_eq_nil_iff.mp ht).1] at hpos
      exact absurd hpos (Nat.lt_irrefl 0)
    | @token kind' text' rest' pieces' htoken' hrest' =>
      rw [ht, htoken'] at htoken
      obtain ⟨hkind, hlen⟩ := Prod.mk.inj (Option.some.inj htoken)
      obtain ⟨rfl, rfl⟩ := List.append_inj ht hlen.symm
      rw [hkind, ih hrest']
    | other hnone _ =>
      rw [ht, hnone] at htoken
      cases htoken
  | @other c rest pieces hnone _ ih =>
    generalize ht : c :: rest = t at h'
    cases h' with
    | nil => cases ht
    | token htoken' _ =>
      rw [ht, htoken'] at hnone
      cases hnone
    | other _ hrest' =>
      obtain ⟨rfl, rfl⟩ := List.cons.inj ht
      rw [ih hrest']

theorem Scans.scan_eq {t : Text} {pieces : List Piece} (h : Scans t pieces) : scan t = pieces :=
  (scans_scan t).unique h

theorem scan_of_token {kind : TokenKind} {text rest : Text}
    (h : tokenAt (text ++ rest) = some (kind, text.length)) :
    scan (text ++ rest) = .token kind text :: scan rest :=
  (Scans.token h (scans_scan rest)).scan_eq

theorem scan_of_none {c : CodePoint} {rest : Text} (h : tokenAt (c :: rest) = none) :
    scan (c :: rest) = .other c :: scan rest :=
  (Scans.other h (scans_scan rest)).scan_eq

/-- Put together again the pieces are the text. -/
theorem Scans.flatten {t : Text} {pieces : List Piece} (h : Scans t pieces) :
    (pieces.map Piece.text).flatten = t := by
  induction h with
  | nil => rfl
  | token _ _ ih => rw [List.map_cons, List.flatten_cons, ih, Piece.text]
  | other _ _ ih => rw [List.map_cons, List.flatten_cons, ih, Piece.text, List.singleton_append]

end VeiledGateway.Style
