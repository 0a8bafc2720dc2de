/-
  Exchanging: what an exchange behind a token does to the token.

  Whether a token begins at a place, and where it ends, depends on what stands behind.  An exchange of
  texts is unnoticed if it is safe for all searches of the scanner but those for quotes: then no token
  begins where none did, and every token ends where it did, unless a quote before the exchange was left
  open.
-/
import VeiledGateway.Proofs.Style.Searching

set_option autoImplicit false

namespace VeiledGateway.Style

variable {old new rest rest' text : Text} {c : CodePoint} {kind : TokenKind}

/-- An exchange of texts that no search of the scanner notices, but perhaps that for a quote. -/
structure Unnoticed (old new : Text) : Prop where
  name : nameMachine.Safe old new
  part : partMachine.Safe old new
  blank : (headMachine CodePoint.isBlank).Safe old new
  digit : (headMachine CodePoint.isHexDigit).Safe old new
  comment : commentMachine.Safe old new
  address : addressMachine.Safe old new

theorem Unnoticed.refl (t : Text) : Unnoticed t t :=
  ⟨.refl t, .refl t, .refl t, .refl t, .refl t, .refl t⟩

theorem Unnoticed.append {old' new' : Text} (h : Unnoticed old new) (h' : Unnoticed old' new') :
    Unnoticed (old ++ old') (new ++ new') where
  name := h.name.append h'.name
  part := h.part.append h'.part
  blank := h.blank.append h'.blank
  digit := h.digit.append h'.digit
  comment := h.comment.append h'.comment
  address := h.address.append h'.address

theorem Unnoticed.flatten {olds news : List Text} (h : List.Forall₂ Unnoticed olds news) :
    Unnoticed olds.flatten news.flatten := by
  induction h with
  | nil => exact .refl _
  | cons hfirst _ ih => exact hfirst.append ih

theorem Unnoticed.noLonger (h : Unnoticed old new) : NoLonger old new := by
  intro d hd
  exact ⟨fun hblank => headMachine_finds_iff.mp (h.blank.finds (headMachine_finds_iff.mpr ⟨d, hd, hblank⟩)),
    fun hhex => headMachine_finds_iff.mp (h.digit.finds (headMachine_finds_iff.mpr ⟨d, hd, hhex⟩))⟩

theorem Unnoticed.namePartSize (h : Unnoticed old new) (hold : namePartSize isNamePart old = none) :
    Style.namePartSize isNamePart new = none := by
  rw [namePartSize_isNamePart_eq_none_iff] at hold ⊢
  exact fun hfinds => hold (h.part.finds hfinds)

/-! ## Where tokens begin -/

theorem tokenAt_letter (h : IsAddressLetter c) (t : Text) :
    tokenAt (c :: t) = (addressSize (c :: t)).map fun n => (.address, n) := by
  rcases h with rfl | rfl <;> rfl

theorem tokenAt_quote_eq (h : IsQuote c) (t : Text) :
    tokenAt (c :: t) = (stringSize (c :: t)).map fun n => (.string, n) := by
  rcases h with rfl | rfl <;> rfl

theorem tokenAt_quote (h : IsQuote c) (t : Text) :
    tokenAt (c :: t) = ((stringMachine c).size? false t).map fun n => (.string, n + 1) := by
  rw [tokenAt_quote_eq h, stringSize, if_pos h.beq, stringRestSize_eq, Option.map_map]
  rfl

/-- The first code point of a token tells what is searched for. -/
theorem tokenAt_cases (c : CodePoint) :
    (∀ t, tokenAt (c :: t) = (commentMachine.size? .slashed t).map fun n => (.comment, n + 1)) ∨
    (IsAddressLetter c ∧ ∀ t, tokenAt (c :: t) = (addressSize (c :: t)).map fun n => (.address, n)) ∨
    (IsQuote c ∧
      ∀ t, tokenAt (c :: t) = ((stringMachine c).size? false t).map fun n => (.string, n + 1)) ∨
    (∃ kind, ∀ t, tokenAt (c :: t) = some (kind, 1)) ∨
    (∃ kind, ∀ t, tokenAt (c :: t) = (nameSize t).map fun n => (kind, n + 1)) ∨
    ∀ t, tokenAt (c :: t) = none := by
  by_cases hslash : c = CodePoint.ofChar '/'
  · subst hslash
    refine .inl fun t => ?_
    change (commentSize (CodePoint.ofChar '/' :: t)).map _ = _
    rw [commentSize_eq, Option.map_map]
    rfl
  by_cases hletter : IsAddressLetter c
  · exact .inr (.inl ⟨hletter, tokenAt_letter hletter⟩)
  by_cases hquote : IsQuote c
  · exact .inr (.inr (.inl ⟨hquote, tokenAt_quote hquote⟩))
  by_cases hopening : c = CodePoint.ofChar '{'
  · subst hopening
    exact .inr (.inr (.inr (.inl ⟨.opening, fun _ => rfl⟩)))
  by_cases hclosing : c = CodePoint.ofChar '}'
  · subst hclosing
    exact .inr (.inr (.inr (.inl ⟨.closing, fun _ => rfl⟩)))
  by_cases hsemicolon : c = CodePoint.ofChar ';'
  · subst hsemicolon
    exact .inr (.inr (.inr (.inl ⟨.semicolon, fun _ => rfl⟩)))
  by_cases hdot : c = CodePoint.ofChar '.'
  · subst hdot
    exact .inr (.inr (.inr (.inr (.inl ⟨.classSelector, fun _ => rfl⟩))))
  by_cases hhash : c = CodePoint.ofChar '#'
  · subst hhash
    exact .inr (.inr (.inr (.inr (.inl ⟨.identitySelector, fun _ => rfl⟩))))
  refine .inr (.inr (.inr (.inr (.inr fun t => ?_))))
  have hno : ¬ (c == CodePoint.ofChar 'u' || c == CodePoint.ofChar 'U') = true := by
    simpa [IsAddressLetter] using hletter
  have hno' : ¬ (c == CodePoint.ofChar '"' || c == CodePoint.ofChar '\'') = true := by
    simpa [IsQuote] using hquote
  rw [tokenAt, if_neg (by simpa using hslash), if_neg hno, if_neg hno', if_neg (by simpa using hopening),
    if_neg (by simpa using hclosing), if_neg (by simpa using hsemicolon), if_neg (by simpa using hdot),
    if_neg (by simpa using hhash)]

/-- Where no token began, none begins after an exchange, unless a quote was left open there that is
closed now. -/
theorem tokenAt_eq_none_of_unnoticed (h : Unnoticed rest rest')
    (hopen : IsQuote c → stringSize (c :: rest') = none) (hnone : tokenAt (c :: rest) = none) :
    tokenAt (c :: rest') = none := by
  rcases tokenAt_cases c with hcomment | ⟨hletter, haddress⟩ | ⟨hquote, hstring⟩ | ⟨kind, hbrace⟩ |
    ⟨kind, hname⟩ | hother
  · rw [hcomment, Option.map_eq_none_iff, Machine.size?_eq_none_iff] at hnone ⊢
    exact fun hfinds => hnone (h.comment.finds hfinds)
  · rw [haddress, Option.map_eq_none_iff, addressSize_eq_none_iff hletter] at hnone ⊢
    exact fun hfinds => hnone (h.address.finds hfinds)
  · rw [tokenAt_quote_eq hquote, hopen hquote]
    rfl
  · rw [hbrace] at hnone
    cases hnone
  · rw [hname, Option.map_eq_none_iff, nameSize_eq_none_iff] at hnone ⊢
    exact fun hfinds => hnone (h.name.finds hfinds)
  · exact hother rest'

/-- A string is a quote, what is inside, and the quote again, which is not found before. -/
theorem string_shape (h : tokenAt (text ++ rest) = some (.string, text.length)) :
    ∃ quote inside, IsQuote quote ∧ text = quote :: (inside ++ [quote]) ∧
      (stringMachine quote).walk (.go false) inside = .go false := by
  have hsize : stringSize (text ++ rest) = some text.length := by
    cases tokenOf_of_tokenAt h with
    | string h => exact h
  rcases text with _ | ⟨quote, text⟩
  · exact absurd (within_tokenAt h).1 (Nat.lt_irrefl 0)
  rw [List.cons_append, stringSize, stringRestSize_eq] at hsize
  split at hsize
  · rename_i hquote
    obtain ⟨n, hn, hlength⟩ := Option.map_eq_some_iff.mp hsize
    obtain rfl : n = text.length := Nat.succ_inj.mp hlength
    obtain ⟨inside, d, escaped, rfl, hinside, hd⟩ := Machine.walk_of_size? hn
    obtain ⟨rfl, rfl⟩ := stringMachine_found hd
    exact ⟨d, inside, by simpa [IsQuote] using hquote, rfl, hinside⟩
  · cases hsize

/-- What stands between quotes is a string, if no quote is found before the last one. -/
theorem tokenAt_of_string {quote : CodePoint} {inside : Text} (hquote : IsQuote quote)
    (hinside : (stringMachine quote).walk (.go false) inside = .go false) (rest : Text) :
    tokenAt (quote :: (inside ++ [quote]) ++ rest)
      = some (.string, (quote :: (inside ++ [quote])).length) := by
  have hsize := Machine.size?_of_walk hinside (if_pos rfl) rest
  rw [List.cons_append, List.append_assoc, List.singleton_append, tokenAt_quote hquote, hsize]
  simp

theorem tokenAt_of_isAddress (h : IsAddress rest text) :
    tokenAt (text ++ rest) = some (.address, text.length) := by
  have hsize := addressSize_of_isAddress h
  obtain ⟨c, after, rfl, hc⟩ : ∃ c after, text = c :: after ∧ IsAddressLetter c := by
    cases h with
    | quoted hc => exact ⟨_, _, rfl, hc⟩
    | plain hc => exact ⟨_, _, rfl, hc⟩
  rw [List.cons_append] at hsize ⊢
  rw [tokenAt_letter hc, hsize]
  rfl

/-! ## Where tokens end -/

/-- What an address holds behind its parenthesis and the blanks there. -/
def addressInside (address : Text) : Text :=
  (address.drop 4).dropWhile CodePoint.isBlank

/-- A quote with which an address begins, and with which it does not end, is not closed behind it
either. -/
def StaysOpen (address behind : Text) : Prop :=
  quotedAddressSize (addressInside address) = none →
    quotedAddressSize (addressInside address ++ behind) = none

theorem addressInside_of_parts {d : CodePoint} {letters blanks inside : Text}
    (hletters : letters.map CodePoint.asciiLower = "rl(") (hblanks : ∀ b ∈ blanks, b.isBlank = true)
    (hd : d.isBlank = false) : addressInside (c :: (letters ++ (blanks ++ d :: inside))) = d :: inside := by
  have hlength : letters.length = 3 := by
    have hlen := congrArg List.length hletters
    rwa [List.length_map] at hlen
  rw [addressInside, List.drop_succ_cons, List.drop_left' hlength, List.dropWhile_append_of_pos hblanks,
    List.dropWhile_cons_of_neg (by simp [hd])]

/-- A quote that is closed within a text is closed whatever stands behind. -/
theorem quotedAddressSize_append {t : Text} (h : quotedAddressSize (t ++ rest) = none) :
    quotedAddressSize t = none := by
  rcases t with _ | ⟨d, inside⟩
  · rfl
  by_cases hquote : IsQuote d
  · rw [List.cons_append, quotedAddressSize_eq hquote, Option.map_eq_none_iff] at h
    rw [quotedAddressSize_eq hquote, Option.map_eq_none_iff]
    rcases hsize : (closerMachine d).size? false inside with _ | n
    · rfl
    · have hle := Machine.size?_le hsize
      have hshort : (closerMachine d).size? false (inside.take n ++ inside.drop n)
          = some (inside.take n).length := by
        rw [List.take_append_drop, hsize, List.length_take_of_le hle]
      have hwithin := Machine.size?_of_behind hshort (inside.drop n ++ rest)
      rw [← List.append_assoc, List.take_append_drop, h] at hwithin
      cases hwithin
  · exact quotedAddressSize_of_not_quote hquote inside

/-- An address ends at the first parenthesis only if its quote is not closed further behind. -/
theorem IsAddress.staysOpen (h : IsAddress rest text) : StaysOpen text rest := by
  rcases h with @⟨c, quote, letters, blanks, inside, -, hletters, hblanks, hquote, hinside⟩ |
    @⟨c, d, letters, blanks, inside, -, hletters, hblanks, hd, hquoted, -⟩
  · rw [StaysOpen, addressInside_of_parts hletters hblanks hquote.isBlank]
    have hclosed := Machine.size?_of_behind hinside []
    rw [List.append_nil] at hclosed
    intro hnone
    rw [quotedAddressSize_eq hquote, hclosed] at hnone
    cases hnone
  · rw [StaysOpen, addressInside_of_parts hletters hblanks hd]
    exact fun _ => hquoted

/-- Within an address there is something. -/
theorem IsAddress.exists_inside (h : IsAddress rest text) :
    ∃ d inside, addressInside text = d :: inside := by
  rcases h with ⟨-, hletters, hblanks, hquote, -⟩ | ⟨-, hletters, hblanks, hd, -, -⟩
  · exact ⟨_, _, addressInside_of_parts hletters hblanks hquote.isBlank⟩
  · exact ⟨_, _, addressInside_of_parts hletters hblanks hd⟩

/-- A quote that an address leaves open stays open where the search for it is safe. -/
theorem IsAddress.staysOpen_of_safe (h : IsAddress rest text)
    (hsafe : ∀ q, IsQuote q → (closerMachine q).Safe rest rest') : StaysOpen text rest' := by
  obtain ⟨d, inside, hinside⟩ := h.exists_inside
  have hopen := h.staysOpen
  rw [StaysOpen, hinside] at hopen ⊢
  intro hnone
  have hold := hopen hnone
  by_cases hquote : IsQuote d
  · rw [List.cons_append, quotedAddressSize_eq hquote, Option.map_eq_none_iff,
      Machine.size?_eq_none_iff] at hold ⊢
    have hboth := (Machine.Safe.refl (m := closerMachine d) inside).append (hsafe d hquote)
    exact fun hfinds => hold (hboth.finds hfinds)
  · exact quotedAddressSize_of_not_quote hquote _

theorem IsAddress.behind (hopen : StaysOpen text rest') (htext : IsAddress rest text) :
    IsAddress rest' text := by
  rcases htext with ⟨hc, hletters, hblanks, hquote, hinside⟩ |
    @⟨c, d, letters, blanks, inside, hc, hletters, hblanks, hd, hquoted, hinside⟩
  · exact .quoted hc hletters hblanks hquote (Machine.size?_of_behind hinside _)
  · rw [StaysOpen, addressInside_of_parts hletters hblanks hd] at hopen
    exact .plain hc hletters hblanks hd (hopen (quotedAddressSize_append (t := d :: inside) hquoted))
      (Machine.size?_of_behind (t := d :: inside) hinside _)

theorem isAddressLetter_of_lower (h : c.asciiLower = CodePoint.ofChar 'u') : IsAddressLetter c := by
  by_cases hascii : c.isAscii = true
  · exact of_isAscii (p := fun c => c.asciiLower = CodePoint.ofChar 'u' → IsAddressLetter c)
      (by unfold IsAddressLetter; decide +kernel) hascii h
  · have hupper : c.isAsciiUpper = false := by
      simp only [CodePoint.isAscii, decide_eq_true_eq, Nat.not_lt] at hascii
      simp only [CodePoint.isAsciiUpper, Bool.and_eq_false_iff, decide_eq_false_iff_not]
      omega
    rw [CodePoint.asciiLower, hupper] at h
    exact .inl h

theorem isAddress_of_tokenAt (h : tokenAt (text ++ rest) = some (.address, text.length)) :
    IsAddress rest text := by
  have hsize : addressSize (text ++ rest) = some text.length := by
    cases tokenOf_of_tokenAt h with
    | address h => exact h
  rcases text with _ | ⟨c, text⟩
  · exact absurd (within_tokenAt h).1 (Nat.lt_irrefl 0)
  refine isAddress_of_addressSize (isAddressLetter_of_lower ?_) hsize
  by_contra hno
  have hopening : afterAddressOpening? (c :: text ++ rest) = none := by
    have hword : Text.ofString "url(" = CodePoint.ofChar 'u' :: Text.ofString "rl(" := rfl
    rw [afterAddressOpening?, Text.eqString, hword, List.cons_append, List.take_succ_cons,
      List.map_cons, if_neg (by simp [hno])]
  rw [addressSize, hopening] at hsize
  cases hsize

/-- A token stays a token after an exchange behind it, unless it left a quote open that is closed now. -/
theorem tokenAt_of_unnoticed (h : Unnoticed rest rest') (hopen : kind = .address → StaysOpen text rest')
    (htoken : tokenAt (text ++ rest) = some (kind, text.length)) :
    tokenAt (text ++ rest') = some (kind, text.length) := by
  rcases text with _ | ⟨c, text⟩
  · exact absurd (within_tokenAt htoken).1 (Nat.lt_irrefl 0)
  rw [List.cons_append] at htoken ⊢
  rcases tokenAt_cases c with hcomment | ⟨hletter, haddress⟩ | ⟨hquote, hstring⟩ | ⟨kind', hbrace⟩ |
    ⟨kind', hname⟩ | hother
  · rw [hcomment] at htoken ⊢
    obtain ⟨n, hn, heq⟩ := Option.map_eq_some_iff.mp htoken
    obtain ⟨rfl, hlength⟩ := Prod.mk.inj heq
    obtain rfl : n = text.length := Nat.succ_inj.mp hlength
    rw [Machine.size?_of_behind hn]
    rfl
  · rw [haddress] at htoken ⊢
    obtain ⟨n, hn, heq⟩ := Option.map_eq_some_iff.mp htoken
    obtain ⟨rfl, rfl⟩ := Prod.mk.inj heq
    rw [← haddress, ← List.cons_append]
    exact tokenAt_of_isAddress ((isAddress_of_addressSize hletter hn).behind (hopen rfl))
  · rw [hstring] at htoken ⊢
    obtain ⟨n, hn, heq⟩ := Option.map_eq_some_iff.mp htoken
    obtain ⟨rfl, hlength⟩ := Prod.mk.inj heq
    obtain rfl : n = text.length := Nat.succ_inj.mp hlength
    rw [Machine.size?_of_behind hn]
    rfl
  · rw [hbrace] at htoken ⊢
    exact htoken
  · rw [hname] at htoken ⊢
    obtain ⟨n, hn, heq⟩ := Option.map_eq_some_iff.mp htoken
    obtain ⟨rfl, hlength⟩ := Prod.mk.inj heq
    obtain rfl : n = text.length := Nat.succ_inj.mp hlength
    have hread := nameSize_eq_some_iff.mp hn
    have hafter : namePartSize isNamePart rest = none := by
      obtain ⟨-, -, -, hafter⟩ := hread
      exact hafter
    rw [nameSize_eq_some_iff.mpr (hread.behind h.noLonger (h.namePartSize hafter))]
    rfl
  · rw [hother] at htoken
    cases htoken

end VeiledGateway.Style
