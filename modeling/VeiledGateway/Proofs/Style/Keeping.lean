/-
  Keeping: what a style sheet keeps when it is rewritten.

  Every token becomes one of its kind again, and what stands between tokens stays.  The new sheet is cut
  into just these pieces as long as no quote that was left open is closed behind what has changed:
  `scans_recast_iff`.  A quote may be closed, since an end of line within an escape goes with the name it
  stands in.  And a class that is excluded stays as it is only if it is written without escapes.
-/
import VeiledGateway.Proofs.Context.Answering
import VeiledGateway.Proofs.Style.Recasting
import VeiledGateway.Proofs.Style.Referring

set_option autoImplicit false

namespace VeiledGateway.Style

/-! ## Along the pieces of a sheet -/

namespace Reached

/-- Selectors may stand here. -/
def inSelector (r : Reached) : Bool :=
  r.holdsRules && !Text.startsWith r.prelude "@"

/-- A string here is that of an import. -/
def inImport (r : Reached) : Bool :=
  Text.startsWith (Text.lower r.prelude) "@import"

end Reached

/-- The pieces from a place on, and what has been reached before each. -/
def placesFrom : Reached → List Piece → List (Reached × Piece)
  | _, [] => []
  | r, piece :: pieces => (r, piece) :: placesFrom (r.after piece) pieces

/-- What holds of all pieces from a place on and of the texts in their places: of what has been reached
before a piece, of the piece, of its text and of the text behind that. -/
def Along (p : Reached → Piece → Text → Text → Prop) : Reached → List Piece → List Text → Prop
  | r, piece :: pieces, new :: news => p r piece new news.flatten ∧ Along p (r.after piece) pieces news
  | _, [], [] => True
  | _, _, _ => False

variable {p : Reached → Piece → Text → Text → Prop} {r : Reached} {piece : Piece}
  {pieces : List Piece} {new : Text} {news : List Text}

theorem Along.length_eq (h : Along p r pieces news) : news.length = pieces.length := by
  induction pieces generalizing r news with
  | nil =>
    cases news with
    | nil => rfl
    | cons new news => cases h
  | cons piece pieces ih =>
    cases news with
    | nil => cases h
    | cons new news => rw [List.length_cons, List.length_cons, ih h.2]

/-- The text of pieces. -/
def textOf (pieces : List Piece) : Text :=
  (pieces.map Piece.text).flatten

/-- A piece with another text. -/
def Piece.recast : Piece → Text → Piece
  | .token kind _, new => .token kind new
  | .other c, _ => .other c

/-! ## Pieces in whose place others stand -/

/-- What of a token may go: the name of a selector, and a reference. -/
def coreOf (r : Reached) (kind : TokenKind) (text : Text) : Option Text :=
  match kind with
  | .classSelector => if r.inSelector then some (text.drop 1) else none
  | .identitySelector => if r.inSelector then some (text.drop 1) else none
  | kind => referenceAt? r (.token kind text)

/-- Pieces are recast one by one. -/
inductive Recasting : Reached → List Piece → List Text → Prop
  | nil {r : Reached} : Recasting r [] []
  | token {r : Reached} {kind : TokenKind} {text new : Text} {pieces : List Piece} {news : List Text}
      (h : Recasts (coreOf r kind text) kind (textOf pieces) text new)
      (hrest : Recasting (r.after (.token kind text)) pieces news) :
      Recasting r (.token kind text :: pieces) (new :: news)
  | other {r : Reached} {c : CodePoint} {pieces : List Piece} {news : List Text}
      (hrest : Recasting (r.after (.other c)) pieces news) :
      Recasting r (.other c :: pieces) ([c] :: news)

theorem Recasting.unnoticed (h : Recasting r pieces news) : Unnoticed (textOf pieces) news.flatten := by
  induction h with
  | nil => exact .refl []
  | token h _ ih => exact h.unnoticed.append ih
  | other _ ih => exact (Unnoticed.refl [_]).append ih

/-- A quote that is left open at a piece is not closed by what is behind it: neither where it would begin
a string, nor in an address. -/
def LeftOpen : Piece → Text → Text → Prop
  | .other c, _, behind => IsQuote c → stringSize (c :: behind) = none
  | .token .address _, new, behind => StaysOpen new behind
  | _, _, _ => True

theorem scans_token_iff {kind : TokenKind} {text rest : Text} :
    Scans (text ++ rest) (.token kind text :: pieces) ↔
      tokenAt (text ++ rest) = some (kind, text.length) ∧ Scans rest pieces := by
  refine ⟨fun h => ?_, fun h => .token h.1 h.2⟩
  generalize ht : text ++ rest = t at h
  cases h with
  | token htoken hrest =>
    obtain rfl := List.append_cancel_left ht
    exact ⟨htoken, hrest⟩

theorem scans_other_iff {c : CodePoint} {rest : Text} :
    Scans (c :: rest) (.other c :: pieces) ↔ tokenAt (c :: rest) = none ∧ Scans rest pieces := by
  refine ⟨fun h => ?_, fun h => .other h.1 h.2⟩
  generalize ht : c :: rest = t at h
  cases h with
  | other hnone hrest =>
    obtain ⟨-, rfl⟩ := List.cons.inj ht
    exact ⟨hnone, hrest⟩

/-- A token is read as one of its kind again just if what it leaves open is left open still. -/
theorem tokenAt_recast_iff {kind : TokenKind} {core : Option Text} {text rest rest' : Text}
    (h : Recasts core kind rest text new) (hrest : Unnoticed rest rest') :
    tokenAt (new ++ rest') = some (kind, new.length) ↔ LeftOpen (.token kind text) new rest' := by
  cases kind with
  | address =>
    exact ⟨fun htoken => (isAddress_of_tokenAt htoken).staysOpen,
      fun hopen => h.again hrest fun _ => hopen⟩
  | _ => exact iff_of_true (h.again hrest fun hkind => by cases hkind) trivial

theorem tokenAt_other_iff {c : CodePoint} {rest rest' : Text} (h : tokenAt (c :: rest) = none)
    (hrest : Unnoticed rest rest') :
    tokenAt (c :: rest') = none ↔ LeftOpen (.other c) new rest' := by
  refine ⟨fun hnone hquote => ?_, fun hopen => tokenAt_eq_none_of_unnoticed hrest hopen h⟩
  rwa [tokenAt_quote_eq hquote, Option.map_eq_none_iff] at hnone

/-- The new sheet is cut into the pieces that were recast just if all quotes that were left open are
left open still. -/
theorem scans_recast_iff {t : Text} (hscans : Scans t pieces) (h : Recasting r pieces news) :
    Scans news.flatten (List.zipWith Piece.recast pieces news) ↔
      Along (fun _ => LeftOpen) r pieces news := by
  induction h generalizing t with
  | nil => exact iff_of_true .nil (by rw [Along]; trivial)
  | @token r kind text new pieces news h hrest ih =>
    cases hscans with
    | @token _ _ rest _ htoken hscans =>
      have hbehind : Unnoticed rest news.flatten := hscans.flatten ▸ hrest.unnoticed
      have htext : textOf pieces = rest := hscans.flatten
      rw [List.flatten_cons, List.zipWith_cons_cons, Piece.recast, scans_token_iff, Along,
        tokenAt_recast_iff (htext ▸ h) hbehind, ih hscans]
  | @other r c pieces news hrest ih =>
    cases hscans with
    | @other _ rest _ hnone hscans =>
      have hbehind : Unnoticed rest news.flatten := hscans.flatten ▸ hrest.unnoticed
      rw [List.flatten_cons, List.singleton_append, List.zipWith_cons_cons, Piece.recast, scans_other_iff,
        Along, tokenAt_other_iff hnone hbehind, ih hscans]

/-! ### Quotes that are left open -/

/-- If any of a token goes, no line ends in the token, and no quote goes. -/
def LosesNoEnd (r : Reached) : Piece → Prop
  | .token kind text =>
    ∀ core ∈ coreOf r kind text, CodePoint.ofChar '\n' ∉ text ∧ ∀ c ∈ core, ¬ IsQuote c
  | .other _ => True

instance (r : Reached) (piece : Piece) : Decidable (LosesNoEnd r piece) :=
  match piece with
  | .token _ _ => inferInstanceAs (Decidable (∀ core ∈ _, _ ∧ ∀ c ∈ core, ¬ (c = _ ∨ c = _)))
  | .other _ => isTrue trivial

section Open

variable {t : Text} {q : CodePoint}

theorem Recasting.string (hq : IsQuote q) (h : Recasting r pieces news)
    (hends : ∀ place ∈ placesFrom r pieces, LosesNoEnd place.1 place.2) :
    (stringMachine q).Safe (textOf pieces) news.flatten := by
  induction h with
  | nil => exact .refl []
  | token h _ ih =>
    obtain ⟨hfirst, hbehind⟩ := List.forall_mem_cons.mp hends
    have hline (hsome) := (hfirst _ (Option.some_get hsome).symm).1
    exact (h.string hq hline).append (ih hbehind)
  | other _ ih => exact (Machine.Safe.refl [_]).append (ih (List.forall_mem_cons.mp hends).2)

theorem Recasting.closer (hq : IsQuote q) (h : Recasting r pieces news)
    (hends : ∀ place ∈ placesFrom r pieces, LosesNoEnd place.1 place.2) :
    (closerMachine q).Safe (textOf pieces) news.flatten := by
  induction h with
  | nil => exact .refl []
  | token h _ ih =>
    obtain ⟨hfirst, hbehind⟩ := List.forall_mem_cons.mp hends
    have hquote (core hcore hmem) := (hfirst core hcore).2 q hmem hq
    exact (h.closer hq hquote).append (ih hbehind)
  | other _ ih => exact (Machine.Safe.refl [_]).append (ih (List.forall_mem_cons.mp hends).2)

theorem stringSize_eq_none (hq : IsQuote q) (t : Text) :
    stringSize (q :: t) = none ↔ ¬ (stringMachine q).Finds false t := by
  rw [stringSize, if_pos hq.beq, Option.map_eq_none_iff, stringRestSize_eq, Machine.size?_eq_none_iff]

/-- Where no end goes, all quotes that were left open are left open still. -/
theorem Recasting.leftOpen (hscans : Scans t pieces) (h : Recasting r pieces news)
    (hends : ∀ place ∈ placesFrom r pieces, LosesNoEnd place.1 place.2) :
    Along (fun _ => LeftOpen) r pieces news := by
  induction h generalizing t with
  | nil => exact trivial
  | @token r kind text new pieces news h hrest ih =>
    have hbehind := (List.forall_mem_cons.mp hends).2
    cases hscans with
    | @token _ _ rest _ htoken hscans =>
      refine ⟨?_, ih hscans hbehind⟩
      cases kind with
      | address =>
        have htext : textOf pieces = rest := hscans.flatten
        have haddress : IsAddress rest text := isAddress_of_tokenAt htoken
        exact h.stays rfl (haddress.staysOpen_of_safe fun q hq => htext ▸ hrest.closer hq hbehind)
      | _ => exact trivial
  | @other r c pieces news hrest ih =>
    have hbehind := (List.forall_mem_cons.mp hends).2
    cases hscans with
    | @other _ rest _ hnone hscans =>
      refine ⟨fun hquote => ?_, ih hscans hbehind⟩
      have htext : textOf pieces = rest := hscans.flatten
      rw [tokenAt_quote_eq hquote, Option.map_eq_none_iff, ← htext, stringSize_eq_none hquote] at hnone
      rw [stringSize_eq_none hquote]
      exact fun hfinds => hnone ((hrest.string hquote hbehind).finds hfinds)

end Open

/-! ## What is written for a token -/

section Written

variable {v : View} {settings : Settings} {d : Context} {kind : TokenKind}
  {text rest name tok reference : Text}

/-- Links begin with a prefix that means nothing in addresses and strings. -/
def PlainLinks (settings : Settings) : Prop :=
  ∀ c ∈ settings.linkPrefix, isHarmless c = true

theorem isHarmless_of_isMark {c : CodePoint} (h : Token.isMark c = true) : isHarmless c = true :=
  of_isAscii (p := fun c => Token.isMark c = true → isHarmless c = true) (by decide +kernel)
    (isAscii_of_isMark h) h

theorem isLink_path (hplain : PlainLinks settings) (htok : Token.Marked tok) :
    IsLink (Rewriting.linkPath settings tok) where
  ne_nil := List.cons_ne_nil _ _
  harmless := by
    have hslash : isHarmless '/' = true := by decide
    intro c hc
    simp only [Rewriting.linkPath, List.mem_append] at hc
    rcases hc with ((hc | hc) | hc) | hc
    · exact List.mem_singleton.mp hc ▸ hslash
    · exact hplain c hc
    · exact List.mem_singleton.mp hc ▸ hslash
    · exact isHarmless_of_isMark (htok.marks c hc)

theorem isLink_fragment (htok : Token.Marked tok) : IsLink (CodePoint.ofChar '#' :: tok) where
  ne_nil := List.cons_ne_nil _ _
  harmless := List.forall_mem_cons.mpr ⟨by decide, fun c hc => isHarmless_of_isMark (htok.marks c hc)⟩

/-- A reference stays, or a link takes its place. -/
theorem isLink_of_answers (hd : d.Marked) (hplain : PlainLinks v.settings)
    (h : d.Answers (rewriteReference v reference) new) :
    new = reference ∨ CodePoint.ofChar '\\' ∉ reference ∧ IsLink new := by
  unfold rewriteReference at h
  split at h
  · exact .inl (Context.answers_pure.mp h).symm
  split at h
  · exact .inl (Context.answers_pure.mp h).symm
  rename_i hlooked
  have hslash : CodePoint.ofChar '\\' ∉ reference := by
    simp only [Bool.or_eq_true, not_or, List.contains_iff_mem] at hlooked
    exact hlooked.2
  obtain ⟨kind, -, h⟩ := Context.answers_bind.mp h
  split at h
  · split at h
    · obtain ⟨_, ⟨tok, htok, rfl⟩, h⟩ := Context.answers_bind.mp h
      obtain rfl := Context.answers_pure.mp h
      exact .inr ⟨hslash, isLink_fragment (hd.token htok)⟩
    · exact .inl (Context.answers_pure.mp h).symm
  · obtain ⟨path?, -, h⟩ := Context.answers_bind.mp h
    split at h
    · obtain ⟨tok, htok, rfl⟩ := h
      exact .inr ⟨hslash, isLink_path hplain (hd.token htok)⟩
    · exact .inl (Context.answers_pure.mp h).symm
  · exact .inl (Context.answers_pure.mp h).symm

theorem recasts_of_rewriteAddress (hd : d.Marked) (hplain : PlainLinks v.settings)
    (htext : IsAddress rest text) (h : d.Answers (rewriteAddress v text) new) :
    Recasts (some (addressParts text).2) .address rest text new := by
  have hlinked : ∀ new, CodePoint.ofChar '\\' ∉ (addressParts text).2 → IsLink new →
      Recasts (some (addressParts text).2) .address rest text (linkedAddress (addressParts text).1 new) :=
    fun _ hslash hlink => recasts_address htext hslash hlink
  unfold rewriteAddress at h
  generalize addressParts text = parts at h hlinked ⊢
  obtain ⟨quotes, reference⟩ := parts
  dsimp only at h hlinked ⊢
  obtain ⟨other, hother, h⟩ := Context.answers_bind.mp h
  obtain rfl := Context.answers_pure.mp h
  split
  · exact recasts_refl _ (tokenAt_of_isAddress htext)
  · rename_i hne
    obtain ⟨hslash, hlink⟩ := (isLink_of_answers hd hplain hother).resolve_left hne
    have hwritten : linkedAddress quotes other =
        ("url(" : Text) ++ quotes ++ other ++ quotes ++ (")" : Text) := by
      rw [linkedAddress, List.append_assoc, List.append_assoc, List.append_assoc]
      rfl
    rw [← hwritten]
    exact hlinked other hslash hlink

theorem recasts_of_rewriteImport (hd : d.Marked) (hplain : PlainLinks v.settings)
    (htoken : tokenAt (text ++ rest) = some (.string, text.length))
    (h : d.Answers (rewriteImport v text) new) :
    Recasts (some (stringParts text).2) .string rest text new := by
  obtain ⟨quote, inside, hquote, rfl, hwalk⟩ := string_shape htoken
  unfold rewriteImport at h
  rw [stringParts_eq] at h ⊢
  obtain ⟨other, hother, h⟩ := Context.answers_bind.mp h
  obtain rfl := Context.answers_pure.mp h
  split
  · exact recasts_refl _ htoken
  · rename_i hne
    obtain ⟨hslash, hlink⟩ := (isLink_of_answers hd hplain hother).resolve_left hne
    exact recasts_import hquote hslash hwalk hlink

/-- Two strings with the same quotes and the same value. -/
structure SameString (old new : Text) : Prop where
  opening : (stringParts new).1 = (stringParts old).1
  closing : new.getLast? = old.getLast?
  value : stringValue (stringParts new).2 = stringValue (stringParts old).2

theorem of_answers_chunkString (htoken : tokenAt (text ++ rest) = some (.string, text.length))
    (h : d.Answers (chunkString text) new) : Recasts none .string rest text new ∧ SameString text new := by
  obtain ⟨quote, inside, hquote, rfl, hwalk⟩ := string_shape htoken
  unfold chunkString at h
  rw [stringParts_eq] at h
  dsimp only at h
  split at h
  · obtain rfl := Context.answers_pure.mp h
    exact ⟨recasts_refl none htoken, rfl, rfl, rfl⟩
  · rename_i hplain
    obtain ⟨_, ⟨parts, hparts, rfl⟩, h⟩ := Context.answers_bind.mp h
    obtain rfl := Context.answers_pure.mp h
    obtain rfl := hparts.flatten
    have hslash : CodePoint.ofChar '\\' ∉ parts.flatten := by
      simp only [Bool.or_eq_true, not_or, List.contains_iff_mem] at hplain
      exact hplain.1
    have hnew : [quote] ++ Text.join lineContinuation parts ++ [quote] =
        quote :: (Text.join lineContinuation parts ++ [quote]) := rfl
    rw [hnew]
    refine ⟨recasts_chunk none hquote hslash hwalk, ?_, ?_, ?_⟩
    · rw [stringParts_eq, stringParts_eq]
    · rw [← List.cons_append, ← List.cons_append, List.getLast?_concat, List.getLast?_concat]
    · rw [stringParts_eq, stringParts_eq]
      exact stringValue_join hslash

theorem rewriteToken_string :
    rewriteToken v r .string text =
      if r.inImport then rewriteImport v text
      else if !r.holdsRules then chunkString text
      else return text :=
  rfl

/-! ### Selectors -/

theorem selector_parts (selector : Selector)
    (h : tokenAt (text ++ rest) = some (selector.kind, text.length)) :
    ∃ name, text = selector.sign :: name ∧ IsName rest name := by
  rcases text with _ | ⟨c, name⟩
  · exact absurd (within_tokenAt h).1 (Nat.lt_irrefl 0)
  rw [List.cons_append, List.length_cons] at h
  have hparts : c = selector.sign ∧ nameSize (name ++ rest) = some name.length := by
    cases selector with
    | byClass =>
      cases tokenOf_of_tokenAt h with
      | classSelector hname => exact ⟨rfl, hname⟩
    | byIdentity =>
      cases tokenOf_of_tokenAt h with
      | identitySelector hname => exact ⟨rfl, hname⟩
  exact ⟨name, by rw [hparts.1], nameSize_eq_some_iff.mp hparts.2⟩

/-- Where selectors may stand, a selector asks for what stands for its name. -/
theorem rewriteToken_inSelector (v : View) (r : Reached) (selector : Selector) (text : Text) :
    rewriteToken v r selector.kind text =
      if r.inSelector then do
        return selector.sign :: (← selector.request v.settings (unescape (text.drop 1)))
      else return text := by
  cases selector <;> rfl

/-- Where selectors may stand, a selector gets what stands for its name. -/
theorem of_answers_selector (selector : Selector)
    (h : d.Answers (rewriteToken v r selector.kind (selector.sign :: name)) new) :
    if r.inSelector then
      ∃ tok, d.Answers (selector.request v.settings (unescape name)) tok ∧ new = selector.sign :: tok
    else new = selector.sign :: name := by
  rw [rewriteToken_inSelector] at h
  split
  · rename_i hselector
    rw [if_pos hselector] at h
    obtain ⟨tok, htok, h⟩ := Context.answers_bind.mp h
    exact ⟨tok, htok, (Context.answers_pure.mp h).symm⟩
  · rename_i hnot
    rw [if_neg hnot] at h
    exact (Context.answers_pure.mp h).symm

/-- A token stands for a name, or the name itself if it is a class that is excluded. -/
theorem of_answers_request (hd : d.Marked) (selector : Selector)
    (h : d.Answers (selector.request settings name) tok) :
    Token.Marked tok ∧ (selector = .byClass → settings.isExcludedClass name = false) ∨
      selector = .byClass ∧ settings.isExcludedClass name = true ∧ tok = name := by
  cases selector with
  | byIdentity =>
    obtain ⟨_, htok, rfl⟩ := h
    exact .inl ⟨hd.token htok, fun hclass => by cases hclass⟩
  | byClass =>
    rw [Selector.request, Rewriting.className] at h
    split at h
    · rename_i hexcluded
      exact .inr ⟨rfl, hexcluded, (Context.answers_pure.mp h).symm⟩
    · rename_i hnot
      obtain ⟨_, htok, rfl⟩ := h
      exact .inl ⟨hd.token htok, fun _ => Bool.eq_false_iff.mpr hnot⟩

/-! ### What is kept -/

/-- What a piece and the text in its place have in common. -/
def Kept (v : View) (d : Context) (r : Reached) : Piece → Text → Prop
  | .other c, new => new = [c]
  | .token .classSelector text, new =>
    if r.inSelector then
      d.Answers (Rewriting.className v.settings (unescape (text.drop 1))) (unescape (new.drop 1)) ∧
        (v.settings.isExcludedClass (unescape (text.drop 1)) = true → new = text)
    else new = text
  | .token .identitySelector text, new =>
    if r.inSelector then
      d.Answers (Rewriting.elementId (unescape (text.drop 1))) (unescape (new.drop 1))
    else new = text
  | .token .address _, _ => True
  | .token .string text, new =>
    if r.inImport then True
    else if r.holdsRules then new = text
    else SameString text new
  | .token _ text, new => new = text

/-- A class that is excluded is written without escapes. -/
def WrittenPlainly (settings : Settings) (r : Reached) : Piece → Prop
  | .token .classSelector text =>
    r.inSelector = true → settings.isExcludedClass (unescape (text.drop 1)) = true →
      unescape (text.drop 1) = text.drop 1
  | _ => True

instance (settings : Settings) (r : Reached) (piece : Piece) : Decidable (WrittenPlainly settings r piece) :=
  match piece with
  | .token .classSelector _ => inferInstanceAs (Decidable (_ → _ → _ = _))
  | .token .comment _ | .token .address _ | .token .string _ | .token .opening _ | .token .closing _
  | .token .semicolon _ | .token .identitySelector _ | .other _ => isTrue trivial

theorem kept_class_iff (hd : d.Marked)
    (h : d.Answers (rewriteToken v r .classSelector (Selector.byClass.sign :: name)) new) :
    Kept v d r (.token .classSelector (Selector.byClass.sign :: name)) new ↔
      WrittenPlainly v.settings r (.token .classSelector (Selector.byClass.sign :: name)) := by
  have hnew := of_answers_selector .byClass h
  simp only [Kept, WrittenPlainly, List.drop_succ_cons, List.drop_zero]
  split
  · rename_i hselector
    rw [if_pos hselector] at hnew
    obtain ⟨tok, htok, rfl⟩ := hnew
    rw [List.drop_succ_cons, List.drop_zero]
    obtain ⟨hmarked, hnot⟩ | ⟨-, hexcluded, rfl⟩ := of_answers_request hd .byClass htok
    · rw [unescape_of_marked hmarked, hnot rfl]
      exact iff_of_true ⟨htok, fun h => by cases h⟩ fun _ h => by cases h
    · rw [Rewriting.className, if_pos hexcluded]
      constructor
      · rintro ⟨-, hsame⟩ - -
        exact (List.cons.inj (hsame hexcluded)).2
      · intro hsame
        have hsame := hsame hselector hexcluded
        rw [hsame, hsame]
        exact ⟨Context.answers_pure.mpr rfl, fun _ => rfl⟩
  · rename_i hnot
    rw [if_neg hnot] at hnew
    exact iff_of_true hnew fun hselector => absurd hselector hnot

theorem kept_identity (hd : d.Marked)
    (h : d.Answers (rewriteToken v r .identitySelector (Selector.byIdentity.sign :: name)) new) :
    Kept v d r (.token .identitySelector (Selector.byIdentity.sign :: name)) new := by
  have hnew := of_answers_selector .byIdentity h
  simp only [Kept, List.drop_succ_cons, List.drop_zero]
  split
  · rename_i hselector
    rw [if_pos hselector] at hnew
    obtain ⟨tok, htok, rfl⟩ := hnew
    obtain ⟨hmarked, -⟩ | ⟨hclass, -⟩ := of_answers_request hd .byIdentity htok
    · rwa [List.drop_succ_cons, List.drop_zero, unescape_of_marked hmarked]
    · cases hclass
  · rename_i hnot
    rwa [if_neg hnot] at hnew

theorem kept_string (htoken : tokenAt (text ++ rest) = some (.string, text.length))
    (h : d.Answers (rewriteToken v r .string text) new) : Kept v d r (.token .string text) new := by
  rw [rewriteToken_string] at h
  rw [Kept]
  split
  · trivial
  · rename_i hnot
    rw [if_neg hnot] at h
    cases hrules : r.holdsRules with
    | true =>
      rw [hrules] at h
      exact (Context.answers_pure.mp h).symm
    | false =>
      rw [hrules] at h
      exact (of_answers_chunkString htoken h).2

/-- What a token must keep it keeps, but for a class that is excluded and written with escapes. -/
theorem kept_of_answers (hd : d.Marked) (htoken : tokenAt (text ++ rest) = some (kind, text.length))
    (h : d.Answers (rewriteToken v r kind text) new) :
    Kept v d r (.token kind text) new ↔ WrittenPlainly v.settings r (.token kind text) := by
  cases kind with
  | classSelector =>
    obtain ⟨name, rfl, -⟩ := selector_parts .byClass htoken
    exact kept_class_iff hd h
  | identitySelector =>
    obtain ⟨name, rfl, -⟩ := selector_parts .byIdentity htoken
    exact iff_of_true (kept_identity hd h) trivial
  | string => exact iff_of_true (kept_string htoken h) trivial
  | address => exact iff_of_true trivial trivial
  | _ => exact iff_of_true (Context.answers_pure.mp h).symm trivial

/-- What is written for a token is read as one of its kind. -/
theorem recasts_of_answers (hd : d.Marked) (hplain : PlainLinks v.settings)
    (htoken : tokenAt (text ++ rest) = some (kind, text.length))
    (h : d.Answers (rewriteToken v r kind text) new)
    (hwritten : WrittenPlainly v.settings r (.token kind text)) :
    Recasts (coreOf r kind text) kind rest text new := by
  have hselected (selector : Selector) (hkind : kind = selector.kind) :
      Recasts (if r.inSelector then some (text.drop 1) else none) kind rest text new := by
    subst hkind
    obtain ⟨name, rfl, hname⟩ := selector_parts selector htoken
    have hnew := of_answers_selector selector h
    split
    · rename_i hselector
      rw [if_pos hselector] at hnew
      obtain ⟨tok, htok, rfl⟩ := hnew
      obtain ⟨hmarked, -⟩ | ⟨rfl, hexcluded, rfl⟩ := of_answers_request hd selector htok
      · exact recasts_selector selector hname hmarked
      · have hsame : unescape name = name := hwritten hselector hexcluded
        rw [hsame]
        exact recasts_refl _ htoken
    · rename_i hnot
      rw [if_neg hnot] at hnew
      subst hnew
      exact recasts_refl none htoken
  cases kind with
  | classSelector => exact hselected .byClass rfl
  | identitySelector => exact hselected .byIdentity rfl
  | address => exact recasts_of_rewriteAddress hd hplain (isAddress_of_tokenAt htoken) h
  | string =>
    rw [rewriteToken_string] at h
    have hcore : coreOf r .string text = if r.inImport then some (stringParts text).2 else none := rfl
    rw [hcore]
    split
    · rename_i himport
      rw [if_pos himport] at h
      exact recasts_of_rewriteImport hd hplain htoken h
    · rename_i hnot
      rw [if_neg hnot] at h
      split at h
      · exact (of_answers_chunkString htoken h).1
      · obtain rfl := Context.answers_pure.mp h
        exact recasts_refl none htoken
  | _ =>
    obtain rfl := Context.answers_pure.mp h
    exact recasts_refl _ htoken

end Written

/-! ## The whole sheet -/

section Sheet

variable {v : View} {d : Context} {t : Text}

theorem kept_iff_written (hd : d.Marked) (hscans : Scans t pieces)
    (h : d.Answers (rewritePieces v r pieces) news) :
    Along (fun r piece new _ => Kept v d r piece new) r pieces news ↔
      ∀ place ∈ placesFrom r pieces, WrittenPlainly v.settings place.1 place.2 := by
  induction hscans generalizing r news with
  | nil =>
    obtain rfl := Context.answers_pure.mp h
    exact iff_of_true trivial fun _ hmem => by cases hmem
  | @token kind text rest pieces htoken _ ih =>
    obtain ⟨new, others, rfl, hnew, hothers⟩ := answers_cons h
    rw [Along, placesFrom, List.forall_mem_cons, ih hothers]
    exact and_congr_left' (kept_of_answers hd htoken hnew)
  | @other c rest pieces _ _ ih =>
    obtain ⟨new, others, rfl, hnew, hothers⟩ := answers_cons h
    rw [Along, placesFrom, List.forall_mem_cons, ih hothers]
    exact and_congr_left' (iff_of_true (Context.answers_pure.mp hnew).symm trivial)

theorem recasting_of_answers (hd : d.Marked) (hplain : PlainLinks v.settings) (hscans : Scans t pieces)
    (h : d.Answers (rewritePieces v r pieces) news)
    (hwritten : ∀ place ∈ placesFrom r pieces, WrittenPlainly v.settings place.1 place.2) :
    Recasting r pieces news := by
  induction hscans generalizing r news with
  | nil =>
    obtain rfl := Context.answers_pure.mp h
    exact .nil
  | @token kind text rest pieces htoken hscans ih =>
    obtain ⟨new, others, rfl, hnew, hothers⟩ := answers_cons h
    obtain ⟨hfirst, hbehind⟩ := List.forall_mem_cons.mp hwritten
    have htext : textOf pieces = rest := hscans.flatten
    rw [← htext] at htoken
    exact .token (recasts_of_answers hd hplain htoken hnew hfirst) (ih hothers hbehind)
  | @other c rest pieces _ _ ih =>
    obtain ⟨new, others, rfl, hnew, hothers⟩ := answers_cons h
    obtain ⟨-, hbehind⟩ := List.forall_mem_cons.mp hwritten
    obtain rfl := Context.answers_pure.mp hnew
    exact .other (ih hothers hbehind)

/-- A sheet keeps its tokens: with the new texts it is cut into as many pieces of the same kinds, and
every text has in common with the old one what it must. -/
structure KeepsTokens (v : View) (d : Context) (source : Text) (news : List Text) : Prop where
  scan : scan news.flatten = List.zipWith Piece.recast (scan source) news
  kept : Along (fun r piece new _ => Kept v d r piece new) ⟨[], []⟩ (Style.scan source) news

theorem KeepsTokens.length_eq {source : Text} (h : KeepsTokens v d source news) :
    (Style.scan news.flatten).length = (Style.scan source).length := by
  rw [h.scan, List.length_zipWith, h.kept.length_eq, Nat.min_self]

theorem keepsTokens_iff (hd : d.Marked) (hplain : PlainLinks v.settings) {source : Text}
    (h : d.Answers (rewritePieces v ⟨[], []⟩ (scan source)) news) :
    KeepsTokens v d source news ↔
      (∀ place ∈ placesFrom ⟨[], []⟩ (scan source), WrittenPlainly v.settings place.1 place.2) ∧
        Along (fun _ => LeftOpen) ⟨[], []⟩ (scan source) news := by
  have hscans := scans_scan source
  have hkept := kept_iff_written hd hscans h
  have hrecast (hwritten) := scans_recast_iff hscans (recasting_of_answers hd hplain hscans h hwritten)
  constructor
  · rintro ⟨hscan, hpieces⟩
    have hwritten := hkept.mp hpieces
    exact ⟨hwritten, (hrecast hwritten).mp (hscan ▸ scans_scan _)⟩
  · rintro ⟨hwritten, hopen⟩
    exact ⟨((hrecast hwritten).mpr hopen).scan_eq, hkept.mpr hwritten⟩

/-- Of a sheet alone it can be told that it keeps its tokens, if no end of a line and no quote may go. -/
theorem keepsTokens_of_losesNoEnd (hd : d.Marked) (hplain : PlainLinks v.settings) {source : Text}
    (h : d.Answers (rewritePieces v ⟨[], []⟩ (scan source)) news)
    (hwritten : ∀ place ∈ placesFrom ⟨[], []⟩ (scan source), WrittenPlainly v.settings place.1 place.2)
    (hends : ∀ place ∈ placesFrom ⟨[], []⟩ (scan source), LosesNoEnd place.1 place.2) :
    KeepsTokens v d source news := by
  have hscans := scans_scan source
  have hrecasting := recasting_of_answers hd hplain hscans h hwritten
  exact (keepsTokens_iff hd hplain h).mpr ⟨hwritten, hrecasting.leftOpen hscans hends⟩

/-- A sheet with an apostrophe that is left open, selectors, a class that is excluded, and a string that
is cut. -/
def openSheet : Text :=
  "it's\n.a#b .fa-c\x7bcontent:\"some text\"\x7d"

/-- A session with tokens and a layout for it. -/
def openSheetContext : Context :=
  .ofMappings "k" { Mappings.empty with
    classNames := [("a", "t")], elementIds := [("b", "u")], textChunks := [("some text", "432")] }
    (Twister.ofSeed 0)

/-- Style sheets without files. -/
def fileless : View :=
  ⟨Settings.default, none, "/"⟩

theorem marked_openSheetContext : openSheetContext.Marked := by
  have hmarked : ∀ naming, ∀ entry ∈ (openSheetContext.table naming).forward,
      ∃ c rest, entry.2 = c :: rest ∧ c.isAsciiLower = true ∧ rest = [] := by
    intro naming entry hmem
    cases naming with
    | className => exact ⟨_, _, congrArg Prod.snd (List.mem_singleton.mp hmem), by decide, rfl⟩
    | elementId => exact ⟨_, _, congrArg Prod.snd (List.mem_singleton.mp hmem), by decide, rfl⟩
    | identifier => cases hmem
    | link => cases hmem
  intro naming original tok hmem
  obtain ⟨c, rest, rfl, hc, rfl⟩ := hmarked naming _ hmem
  exact .mk hc fun _ hd => by cases hd

end Sheet

end VeiledGateway.Style
