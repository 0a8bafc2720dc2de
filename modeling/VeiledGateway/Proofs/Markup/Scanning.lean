/-
  The tokens of a document, by the elements whose content is raw text.

  The content of a script or a style sheet ends at its end tag only.  That end tag is found by a
  pattern that does not mind case, and is then read by rules that do; where both succeed, the name
  that is read is that of the element.  So behind the start tag of such an element come texts, then
  its end tag: the tokens of a document are `Runs`.
-/
import Mathlib.Data.List.Forall2
import Mathlib.Data.List.TakeWhile
import VeiledGateway.Markup.Token
import VeiledGateway.Proofs.Outcome
import VeiledGateway.Proofs.Text.Prefix

set_option autoImplicit false

namespace VeiledGateway.Markup

/-! ## The end of raw text -/

theorem isRawElement_iff {name : Text} :
    isRawElement name = true ↔ name = ("script" : Text) ∨ name = ("style" : Text) := by
  simp [isRawElement, rawElements, Text.eqString]

/-- The letters of the names of elements whose content is raw text. -/
def rawLetters : Text := "scriptyle"

theorem mem_rawLetters {name : Text} (h : isRawElement name = true) : ∀ c ∈ name, c ∈ rawLetters := by
  rcases isRawElement_iff.mp h with rfl | rfl
  · decide
  · decide

/-- The first code point counts as the second where case does not count. -/
def Matches (d c : CodePoint) : Prop :=
  (Pattern.folds false c).contains d.simpleLower.val = true

instance (d c : CodePoint) : Decidable (Matches d c) :=
  inferInstanceAs (Decidable (_ = true))

theorem folds_rawLetters {c : CodePoint} (h : c ∈ rawLetters) :
    ∀ n ∈ Pattern.folds false c, n = c.val ∨ 0x80 ≤ n := by
  have hall : ∀ c ∈ rawLetters, ∀ n ∈ Pattern.folds false c, n = c.val ∨ 0x80 ≤ n := by decide
  exact hall c h

/-- The blanks beyond ASCII. -/
def wideBlanks : List Nat :=
  [0x85, 0xA0, 0x1680, 0x2000, 0x2001, 0x2002, 0x2003, 0x2004, 0x2005, 0x2006, 0x2007, 0x2008,
    0x2009, 0x200A, 0x2028, 0x2029, 0x202F, 0x205F, 0x3000]

variable {c d : CodePoint}

theorem mem_wideBlanks (h : d.isBlank = true) (hwide : 0x80 ≤ d.val) : d.val ∈ wideBlanks := by
  simp only [CodePoint.isBlank, CodePoint.isAsciiBlank, Bool.or_eq_true, Bool.and_eq_true,
    decide_eq_true_eq, beq_iff_eq] at h
  simp only [wideBlanks, List.mem_cons, List.not_mem_nil, or_false]
  omega

theorem asciiLower_of_matches (h : Matches d c) (hc : c ∈ rawLetters) (hascii : d.val < 0x80) :
    d.asciiLower = c := by
  have hlower : d.simpleLower = d.asciiLower := if_pos hascii
  have hmem := List.contains_iff_mem.mp h
  rw [hlower] at hmem
  rcases folds_rawLetters hc _ hmem with heq | hwide
  · exact CodePoint.eq_of_val heq
  · have hsmall : ∀ n < 0x80, (CodePoint.ofNat n).asciiLower.val < 0x80 := by decide
    have hlt := hsmall d.val hascii
    rw [CodePoint.ofNat_val] at hlt
    omega

theorem not_isBlank_of_matches (h : Matches d c) (hc : c ∈ rawLetters) : d.isBlank = false := by
  rcases hblank : d.isBlank with _ | _
  · rfl
  · exfalso
    by_cases hascii : d.val < 0x80
    · have hnone : ∀ n < 0x80, (CodePoint.ofNat n).isBlank = true →
          (CodePoint.ofNat n).asciiLower ∉ rawLetters := by decide
      refine hnone d.val hascii ?_ ?_
      · rwa [CodePoint.ofNat_val]
      · rwa [CodePoint.ofNat_val, asciiLower_of_matches h hc hascii]
    · have hnone : ∀ n ∈ wideBlanks, ∀ c ∈ rawLetters, ¬ Matches (CodePoint.ofNat n) c := by decide
      refine hnone d.val (mem_wideBlanks hblank (by omega)) c hc ?_
      rwa [CodePoint.ofNat_val]

/-- What ends the raw text of an element: its name, in any case, with nothing but blanks beside it. -/
inductive EndsRaw (name : Text) : Text → Prop
  | mk {lead word tail : Text} (hlead : ∀ c ∈ lead, c.isBlank = true)
      (hword : List.Forall₂ Matches word name) (htail : ∀ c ∈ tail, c.isBlank = true) :
      EndsRaw name ("</" ++ (lead ++ (word ++ (tail ++ ">"))))

theorem dropFolded?_eq_some {name t rest : Text} (h : dropFolded? t name = some rest) :
    ∃ word, t = word ++ rest ∧ List.Forall₂ Matches word name := by
  induction name generalizing t with
  | nil =>
    rw [dropFolded?] at h
    exact ⟨[], Option.some.inj h, .nil⟩
  | cons c name ih =>
    cases t with
    | nil => cases h
    | cons d t =>
      rw [dropFolded?] at h
      split at h
      · rename_i hmatch
        obtain ⟨word, rfl, hword⟩ := ih h
        exact ⟨d :: word, rfl, .cons hmatch hword⟩
      · cases h

theorem endsRaw_of_rawEnd? {name t after : Text} (h : rawEnd? name t = some after) :
    ∃ written, EndsRaw name written ∧ t = written ++ after := by
  unfold rawEnd? at h
  split at h
  · cases h
  · rename_i inside hinside
    split at h
    · cases h
    · rename_i behind hbehind
      obtain ⟨word, hrest, hword⟩ := dropFolded?_eq_some hbehind
      have hblank : ∀ t : Text, ∀ c ∈ t.takeWhile CodePoint.isBlank, c.isBlank = true :=
        fun _ _ => List.mem_takeWhile_imp
      refine ⟨_, .mk (hblank inside) hword (hblank behind), ?_⟩
      have hinside' : inside = inside.takeWhile CodePoint.isBlank ++ (word ++ behind) := by
        rw [← hrest, List.takeWhile_append_dropWhile]
      have hbehind' : behind = behind.takeWhile CodePoint.isBlank ++ (">" ++ after) := by
        rw [← Text.dropPrefix?_eq_some_iff.mp h, List.takeWhile_append_dropWhile]
      rw [Text.dropPrefix?_eq_some_iff.mp hinside]
      simp only [List.append_assoc]
      rw [← hbehind', ← hinside']

theorem endsRaw_of_cutAtRawEnd? {name t content written after : Text}
    (h : cutAtRawEnd? name t = some (content, written, after)) : EndsRaw name written := by
  induction t generalizing content with
  | nil => cases h
  | cons c rest ih =>
    rw [cutAtRawEnd?] at h
    split at h
    · rename_i hend
      obtain ⟨ending, hending, ht⟩ := endsRaw_of_rawEnd? hend
      cases h
      have htake : (c :: rest).take (rest.length + 1 - after.length) = ending := by
        rw [← List.length_cons, ht, List.length_append, Nat.add_sub_cancel, List.take_left]
      rwa [htake]
    · obtain ⟨⟨parts, others⟩, hparts, heq⟩ := Option.map_eq_some_iff.mp h
      cases heq
      exact ih hparts

theorem isAscii_of_isEndNamePart (h : isEndNamePart d = true) : d.val < 0x80 := by
  simp only [isEndNamePart, CodePoint.isAsciiLetter, CodePoint.isAsciiLower, CodePoint.isAsciiUpper,
    CodePoint.isAsciiDigit, Bool.or_eq_true, Bool.and_eq_true, decide_eq_true_eq, beq_iff_eq] at h
  rcases h with (((((h | h) | h) | rfl) | rfl) | rfl) | rfl
  · omega
  · omega
  · omega
  · decide
  · decide
  · decide
  · decide

theorem not_isEndNamePart_of_isBlank (h : d.isBlank = true) : isEndNamePart d = false := by
  rcases hpart : isEndNamePart d with _ | _
  · rfl
  · have hnone : ∀ n < 0x80, isEndNamePart (CodePoint.ofNat n) = true →
        (CodePoint.ofNat n).isBlank = false := by decide
    have hblank := hnone d.val (isAscii_of_isEndNamePart hpart)
    rw [CodePoint.ofNat_val] at hblank
    exact absurd h (by rw [hblank hpart]; decide)

/-- A name that is read in raw text is the name of the element, if all of it is read. -/
theorem takeWhile_of_ending {word name tail rest : Text} (hname : ∀ c ∈ name, c ∈ rawLetters)
    (hword : List.Forall₂ Matches word name) (htail : ∀ c ∈ tail, c.isBlank = true)
    (h : ((word ++ (tail ++ ">")).dropWhile isEndNamePart).dropWhile CodePoint.isBlank
      = CodePoint.ofChar '>' :: rest) :
    (word ++ (tail ++ ">")).takeWhile isEndNamePart = word ∧ ∀ c ∈ word, isEndNamePart c = true := by
  induction hword with
  | nil =>
    refine ⟨?_, fun c hc => absurd hc List.not_mem_nil⟩
    cases tail with
    | nil => decide
    | cons c tail =>
      rw [List.nil_append, List.cons_append, List.takeWhile_cons_of_neg]
      rw [not_isEndNamePart_of_isBlank (htail c List.mem_cons_self)]
      decide
  | @cons d c word name hmatch hword ih =>
    obtain ⟨hc, hname⟩ := List.forall_mem_cons.mp hname
    rw [List.cons_append] at h ⊢
    rcases hpart : isEndNamePart d with _ | _
    · rw [List.dropWhile_cons_of_neg (by rw [hpart]; decide),
        List.dropWhile_cons_of_neg (by rw [not_isBlank_of_matches hmatch hc]; decide)] at h
      obtain rfl := (List.cons.inj h).1
      have hnone : ∀ c ∈ rawLetters, ¬ Matches (CodePoint.ofChar '>') c := by decide
      exact absurd hmatch (hnone c hc)
    · rw [List.dropWhile_cons_of_pos hpart] at h
      obtain ⟨htake, hall⟩ := ih hname h
      exact ⟨by rw [List.takeWhile_cons_of_pos hpart, htake], List.forall_mem_cons.mpr ⟨hpart, hall⟩⟩

theorem lowerFrom_of_matches {word name : Text} (hname : ∀ c ∈ name, c ∈ rawLetters)
    (hword : List.Forall₂ Matches word name) (hpart : ∀ c ∈ word, isEndNamePart c = true)
    (before : Text) : Text.lowerFrom before word = name := by
  induction hword generalizing before with
  | nil => rfl
  | @cons d c word name hmatch hword ih =>
    obtain ⟨hc, hname⟩ := List.forall_mem_cons.mp hname
    obtain ⟨hd, hpart⟩ := List.forall_mem_cons.mp hpart
    have hascii := isAscii_of_isEndNamePart hd
    have hlower : d.lowerIn before word = [c] := by
      rw [CodePoint.lowerIn, if_neg (by rw [beq_iff_eq]; omega), if_neg (by rw [beq_iff_eq]; omega),
        CodePoint.simpleLower, if_pos hascii, asciiLower_of_matches hmatch hc hascii]
    rw [Text.lowerFrom, hlower, ih hname hpart]
    rfl

theorem plainEndTag?_eq_some {t found rest : Text} (h : plainEndTag? t = some (found, rest)) :
    (t.dropWhile CodePoint.isBlank).takeWhile isEndNamePart = found ∧
      ((t.dropWhile CodePoint.isBlank).dropWhile isEndNamePart).dropWhile CodePoint.isBlank
        = CodePoint.ofChar '>' :: rest := by
  unfold plainEndTag? at h
  dsimp only at h
  split at h
  · cases h
  · split at h
    · split at h
      · rename_i hbehind
        split at h
        · rename_i hclose
          obtain ⟨hfound, hrest⟩ := Prod.mk.inj (Option.some.inj h)
          exact ⟨hfound, by rw [hbehind, hrest, beq_iff_eq.mp hclose]⟩
        · cases h
      · cases h
    · cases h

/-- The end tag that is read where raw text ends is that of the element. -/
theorem lower_of_plainEndTag? {name written found rest : Text} (hname : isRawElement name = true)
    (h : EndsRaw name written) (hfound : plainEndTag? (written.drop 2) = some (found, rest)) :
    Text.lower found = name := by
  obtain @⟨lead, word, tail, hlead, hword, htail⟩ := h
  have hletters := mem_rawLetters hname
  have hstart : (lead ++ (word ++ (tail ++ ">"))).dropWhile CodePoint.isBlank
      = word ++ (tail ++ ">") := by
    rw [List.dropWhile_append_of_pos hlead]
    cases hword with
    | nil => cases hname
    | cons hmatch _ =>
      rw [List.cons_append, List.dropWhile_cons_of_neg]
      rw [not_isBlank_of_matches hmatch (hletters _ List.mem_cons_self)]
      decide
  obtain ⟨htake, hend⟩ := plainEndTag?_eq_some (t := lead ++ (word ++ (tail ++ ">"))) hfound
  rw [hstart] at htake hend
  obtain ⟨hword', hparts⟩ := takeWhile_of_ending hletters hword htail hend
  rw [← htake, hword']
  exact lowerFrom_of_matches hletters hword hparts []

/-! ## Tokens -/

/-- Tokens of which those behind the start of an element whose content is raw text are texts, until
its end tag; before and after them is told which such element is open. -/
inductive Runs : Option Text → List Token → Option Text → Prop
  | nil (inside : Option Text) : Runs inside [] inside
  | token (token : Token) {rest : List Token} {last : Option Text}
      (hrest : Runs (rawAfter [token]) rest last) : Runs none (token :: rest) last
  | raw {name : Text} (content : Text) {rest : List Token} {last : Option Text}
      (hrest : Runs (some name) rest last) : Runs (some name) (.text content :: rest) last
  | stop {name : Text} {rest : List Token} {last : Option Text} (hrest : Runs none rest last) :
      Runs (some name) (.stop name :: rest) last

/-- If an element is open, its content is raw text. -/
def OpenRaw (inside : Option Text) : Prop :=
  ∀ name, inside = some name → isRawElement name = true

theorem openRaw_none : OpenRaw none :=
  fun _ h => nomatch h

namespace Runs

variable {inside middle last : Option Text} {tokens more : List Token}

theorem append (h : Runs inside tokens middle) (h' : Runs middle more last) :
    Runs inside (tokens ++ more) last := by
  induction h with
  | nil => exact h'
  | token token _ ih => exact .token token (ih h')
  | raw content _ ih => exact .raw content (ih h')
  | stop _ ih => exact .stop (ih h')

theorem openRaw (h : Runs inside tokens last) (hinside : OpenRaw inside) : OpenRaw last := by
  induction h with
  | nil => exact hinside
  | token token _ ih =>
    refine ih fun name hname => ?_
    unfold rawAfter at hname
    split at hname
    · split at hname
      · rename_i hraw
        rwa [← Option.some.inj hname]
      · cases hname
    · cases hname
  | raw _ _ ih => exact ih hinside
  | stop _ ih => exact ih openRaw_none

theorem text (content : Text) : Runs none [.text content] none :=
  .token (.text content) (.nil none)

theorem textToken_none (t : Text) : Runs none (textToken t) none := by
  unfold textToken
  split
  · exact .nil none
  · exact .text t

theorem textToken_some (name t : Text) : Runs (some name) (textToken t) (some name) := by
  unfold textToken
  split
  · exact .nil _
  · exact .raw t (.nil _)

/-- One token at most stands alone. -/
theorem of_length (h : tokens.length ≤ 1) : Runs none tokens (rawAfter tokens) := by
  rcases tokens with _ | ⟨token, _ | ⟨_, _⟩⟩
  · exact .nil none
  · exact .token token (.nil _)
  · simp at h

end Runs

/-- What is read at a bracket is one token at most. -/
def Reading.IsShort : Reading → Prop
  | .done tokens _ => tokens.length ≤ 1
  | .unfinished => True

theorem isShort_readThrough (close : Text) {make : Text → List Token} (after : Text)
    (h : ∀ content, (make content).length ≤ 1) : (readThrough close make after).IsShort := by
  unfold readThrough
  split
  · exact h _
  · trivial

theorem isShort_readSpaced (close : List Text) (kind : AsideKind) (t : Text) :
    (readSpaced close kind t).IsShort := by
  unfold readSpaced
  split
  · exact Nat.le_refl 1
  · trivial

theorem isShort_readStartTag (whole t : Text) : (readStartTag whole t).IsShort := by
  unfold readStartTag
  dsimp only
  split
  · trivial
  · split
    · exact Nat.le_refl 1
    · split
      · split
        · split
          · exact Nat.le_refl 1
          · trivial
        · trivial
      · split
        · trivial
        · exact Nat.le_refl 1

theorem isShort_readEndTag (t : Text) : (readEndTag t).IsShort := by
  unfold readEndTag
  split
  · exact Nat.le_refl 1
  · split
    · trivial
    · split
      · exact isShort_readThrough _ _ fun _ => Nat.le_refl 1
      · refine isShort_readThrough _ _ fun content => ?_
        split
        · exact Nat.zero_le 1
        · exact Nat.le_refl 1

theorem isShort_readSection {whole t : Text} {reading : Reading}
    (h : readSection whole t = .ok reading) : reading.IsShort := by
  unfold readSection at h
  split at h
  · obtain rfl := Except.ok.inj h
    trivial
  · split at h
    · cases h
    · extract_lets name behind isIn ending at h
      have hending : ∀ close, (ending close).IsShort := by
        intro close
        unfold ending
        split
        · exact Nat.le_refl 1
        · trivial
      split at h
      · obtain rfl := Except.ok.inj h
        trivial
      · split at h
        · obtain rfl := Except.ok.inj h
          exact hending _
        · split at h
          · obtain rfl := Except.ok.inj h
            exact hending _
          · cases h

theorem isShort_readDeclaration {whole t : Text} {reading : Reading}
    (h : readDeclaration whole t = .ok reading) : reading.IsShort := by
  unfold readDeclaration at h
  split at h
  · exact isShort_readSection h
  · split at h
    · obtain rfl := Except.ok.inj h
      exact isShort_readThrough _ _ fun _ => Nat.le_refl 1
    · obtain rfl := Except.ok.inj h
      exact isShort_readThrough _ _ fun _ => Nat.le_refl 1

theorem isShort_readBracket {t : Text} {reading : Reading} (h : readBracket t = .ok reading) :
    reading.IsShort := by
  unfold readBracket at h
  dsimp only at h
  split at h
  · obtain rfl := Except.ok.inj h
    trivial
  · split at h
    · obtain rfl := Except.ok.inj h
      exact isShort_readStartTag _ _
    · split at h
      · obtain rfl := Except.ok.inj h
        exact isShort_readEndTag _
      · split at h
        · obtain rfl := Except.ok.inj h
          exact isShort_readThrough _ _ fun _ => Nat.le_refl 1
        · split at h
          · split at h
            · obtain rfl := Except.ok.inj h
              exact isShort_readSpaced _ _ _
            · exact isShort_readDeclaration h
          · obtain rfl := Except.ok.inj h
            exact Nat.le_refl 1

theorem runs_of_readBracket {t rest : Text} {tokens : List Token}
    (h : readBracket t = .ok (.done tokens rest)) : Runs none tokens (rawAfter tokens) :=
  .of_length (isShort_readBracket h)

theorem runs_of_readNumber {t rest : Text} {tokens : List Token}
    (h : readNumber t = .halt tokens rest) : Runs none tokens none := by
  unfold readNumber at h
  extract_lets hex body isDigit digits after lead spoiled at h
  have hspoiled : spoiled = .halt tokens rest → Runs none tokens none := by
    intro h
    unfold spoiled at h
    split at h
    · obtain ⟨rfl, -⟩ := ReferenceReading.halt.inj h
      exact .token _ (.nil none)
    · obtain ⟨rfl, -⟩ := ReferenceReading.halt.inj h
      exact .nil none
  clear_value after
  split at h
  · exact hspoiled h
  · split at h
    · exact hspoiled h
    · cases h

theorem runs_of_readReference {ending : Bool} {t rest : Text} {tokens : List Token}
    (h : readReference ending t = .halt tokens rest) : Runs none tokens none := by
  unfold readReference at h
  split at h
  · obtain ⟨rfl, -⟩ := ReferenceReading.halt.inj h
    exact .nil none
  · split at h
    · exact runs_of_readNumber h
    · split at h
      · split at h
        · cases h
        · split at h
          · obtain ⟨rfl, -⟩ := ReferenceReading.halt.inj h
            exact .nil none
          · obtain ⟨rfl, -⟩ := ReferenceReading.halt.inj h
            exact .nil none
      · cases h

theorem runs_of_rawEndTokens {name written : Text} (hname : isRawElement name = true)
    (h : EndsRaw name written) :
    Runs (some name) (rawEndTokens written).1 (if (rawEndTokens written).2 then none else some name) := by
  unfold rawEndTokens
  split
  · rename_i found rest hfound
    rw [lower_of_plainEndTag? hname h hfound]
    exact .stop (.nil none)
  · exact .raw written (.nil _)

/-- What is read first, and then the tokens of the rest of a pass. -/
theorem Runs.after {inside middle : Option Text} {tokens : List Token} {more : Except Refusal Pass}
    {p : Pass} (h : Runs inside tokens middle)
    (hmore : ∀ q, more = .ok q → Runs middle q.tokens q.inside)
    (hp : (do return (← more).after tokens) = Except.ok p) : Runs inside p.tokens p.inside := by
  obtain ⟨q, hq, hp⟩ := Outcome.bind_eq_ok.mp hp
  obtain rfl := Outcome.pure_eq_ok.mp hp
  exact h.append (hmore q hq)

/-- The tokens of a pass that begins where the element `inside` is open. -/
theorem runs_of_pass {ending : Bool} {fuel : Nat} {inside : Option Text} {t : Text} {p : Pass}
    (hinside : OpenRaw inside) (h : pass ending fuel inside t = .ok p) :
    Runs inside p.tokens p.inside := by
  induction fuel generalizing inside t p with
  | zero =>
    rw [pass] at h
    obtain rfl := Except.ok.inj h
    exact .nil inside
  | succ fuel ih =>
    unfold pass at h
    split at h
    · obtain rfl := Except.ok.inj h
      exact .nil _
    · obtain rfl := Except.ok.inj h
      exact .nil _
    · rename_i name hfuel _
      obtain rfl := Nat.succ.inj hfuel
      split at h
      · obtain rfl := Except.ok.inj h
        exact .nil _
      · rename_i content written rest hcut
        have hraw := hinside name rfl
        have htokens := runs_of_rawEndTokens hraw (endsRaw_of_cutAtRawEnd? hcut)
        have hruns := (Runs.textToken_some name content).append htokens
        refine hruns.after (fun q hq => ih ?_ hq) h
        exact hruns.openRaw hinside
    · rename_i hfuel _
      obtain rfl := Nat.succ.inj hfuel
      extract_lets plain lead at h
      have hlead : Runs none lead none := .textToken_none _
      split at h
      · obtain rfl := Except.ok.inj h
        exact hlead
      · rename_i c after _
        split at h
        · obtain ⟨reading, hreading, h⟩ := Outcome.bind_eq_ok.mp h
          split at h
          · rename_i tokens rest
            have hruns := hlead.append (runs_of_readBracket hreading)
            exact hruns.after (fun q hq => ih (hruns.openRaw openRaw_none) hq) h
          · split at h
            · exact (hlead.append (.text _)).after (fun q hq => ih openRaw_none hq) h
            · obtain rfl := Except.ok.inj h
              exact hlead
        · split at h
          · exact (hlead.append (.text _)).after (fun q hq => ih openRaw_none hq) h
          · rename_i hhalt
            obtain rfl := Except.ok.inj h
            exact hlead.append (runs_of_readReference hhalt)

/-- The tokens of a document. -/
theorem runs_of_scan {source : Text} {tokens : List Token} (h : scan source = .ok tokens) :
    ∃ last, Runs none tokens last := by
  obtain ⟨first, hfirst, h⟩ := Outcome.bind_eq_ok.mp h
  obtain ⟨second, hsecond, h⟩ := Outcome.bind_eq_ok.mp h
  obtain rfl := Outcome.pure_eq_ok.mp h
  have hbegin := runs_of_pass openRaw_none hfirst
  have hruns := hbegin.append (runs_of_pass (hbegin.openRaw openRaw_none) hsecond)
  rcases hlast : second.inside with _ | name
  · rw [hlast] at hruns
    exact ⟨none, hruns.append (.textToken_none _)⟩
  · rw [hlast] at hruns
    exact ⟨some name, hruns.append (.nil _)⟩

end VeiledGateway.Markup
