/-
  Rereading: what the grammar makes of the strings that are written.

  Where an operand can stand, a string that names something is read again as a string literal, and the
  pieces of a text as their sum, grouped from the left, which can be assigned to no more than the string
  could.  Where an operand has ended the two differ: a string literal leaves it alone, and a sum in
  parentheses makes a call of it.  So a string at the beginning of a line is lost to the line before when
  that has no semicolon.
-/
import VeiledGateway.Proofs.Script.Quoting

set_option autoImplicit false

namespace VeiledGateway.Script

/-! ## Lexemes -/

namespace Cursor

variable {cur : Cursor} {c d quote : CodePoint} {tail text body value : Text}

/-- A code point that neither is a blank nor can begin a comment. -/
def isSolid (c : CodePoint) : Bool :=
  !(isBlank c || isLineEnd c || c == '/' || c == '-' || c == '<')

theorem startsWith_cons_of_ne {lead : Text} (h : c ≠ d) : Text.startsWith (c :: tail) (d :: lead) = false :=
  Bool.eq_false_iff.mpr fun hlead =>
    h (List.cons_prefix_cons.mp (Text.startsWith_iff.mp hlead)).1.symm

theorem skipBlanks_of_solid (hrest : cur.rest = c :: tail) (h : isSolid c = true) :
    cur.skipBlanks = .ok cur := by
  simp only [isSolid, Bool.not_eq_true', Bool.or_eq_false_iff] at h
  obtain ⟨⟨⟨⟨hblank, hline⟩, hslash⟩, hminus⟩, hless⟩ := h
  have hpeek : cur.peek = c := by rw [peek, hrest]; rfl
  have hend : cur.atEnd = false := by rw [atEnd, hrest]; rfl
  have hclosing : cur.startsWith "-->" = false := by
    rw [startsWith, hrest]
    exact startsWith_cons_of_ne (beq_eq_false_iff_ne.mp hminus)
  have hopening : cur.startsWith "<!--" = false := by
    rw [startsWith, hrest]
    exact startsWith_cons_of_ne (beq_eq_false_iff_ne.mp hless)
  rw [skipBlanks, skipBlanksFrom]
  simp [hpeek, hend, hblank, hline, hslash, hclosing, hopening]

theorem isSolid_of_isQuote (h : IsQuote quote) : isSolid quote = true := by
  obtain rfl | rfl := h <;> decide

theorem lex_eq_string (hquote : IsQuote quote) (hrest : cur.rest = quote :: tail) :
    cur.lex = cur.string := by
  have hpeek : cur.peek = quote := by rw [peek, hrest]; rfl
  have hend : cur.atEnd = false := by rw [atEnd, hrest]; rfl
  rw [lex, hpeek, hend]
  obtain rfl | rfl := hquote <;> rfl

theorem lex_string (hquote : IsQuote quote) (hbody : Spells quote body value)
    (hrest : cur.rest = [quote] ++ body ++ [quote] ++ tail) (hfits : cur.rest.length ≤ cur.size) :
    cur.lex = .ok
      (lexeme cur (cur.move (body.length + 2)) .string value, cur.move (body.length + 2)) :=
  (lex_eq_string hquote hrest).trans (string_of_spells hbody hrest hfits)

theorem lex_open (hrest : cur.rest = CodePoint.ofChar '(' :: tail) :
    cur.lex = .ok (lexeme cur (cur.move 1) .punctuator "(", cur.move 1) := by
  obtain ⟨_, index, line, holes, isModule, size⟩ := cur
  subst hrest
  cases tail <;> rfl

theorem lex_close (hrest : cur.rest = CodePoint.ofChar ')' :: tail) :
    cur.lex = .ok (lexeme cur (cur.move 1) .punctuator ")", cur.move 1) := by
  obtain ⟨_, index, line, holes, isModule, size⟩ := cur
  subst hrest
  cases tail <;> rfl

theorem lex_plus (hrest : cur.rest = CodePoint.ofChar '+' :: CodePoint.ofChar '"' :: tail) :
    cur.lex = .ok (lexeme cur (cur.move 1) .punctuator "+", cur.move 1) := by
  obtain ⟨_, index, line, holes, isModule, size⟩ := cur
  subst hrest
  rfl

theorem rest_move_one (hrest : cur.rest = c :: tail) : (cur.move 1).rest = tail := by
  simp [move, hrest]

/-- What has to be escaped nowhere is read as it is. -/
theorem spells_inert (hquote : IsQuote quote) (h : ∀ c ∈ text, isInert c = true) :
    Spells quote text text := by
  induction text with
  | nil => exact spells_nil _
  | cons c rest ih =>
    obtain ⟨hc, hrest⟩ := List.forall_mem_cons.mp h
    have hcode : Spells quote [c] [c] := by
      refine spells_plain ?_ ?_ (isLineEnd_of_isInert hc)
      · rintro rfl
        obtain rfl | rfl := hquote <;> exact absurd hc (by decide)
      · rintro rfl
        exact absurd hc (by decide)
    exact hcode.append (ih hrest)

end Cursor

open Parse

variable {s t : State} {text tail value : Text} {quote : CodePoint} {m n : Nat} {sign : String}

/-! ## Readers on states -/

@[simp] theorem bind_apply {α β : Type} (p : Parse α) (f : α → Parse β) (s : State) :
    (p >>= f) s = match p s with
      | .ok (a, t) => f a t
      | .error fault => .error fault := by
  show (p s >>= _) = _
  cases p s <;> rfl

@[simp] theorem map_apply {α β : Type} (f : α → β) (p : Parse α) (s : State) :
    (f <$> p) s = match p s with
      | .ok (a, t) => .ok (f a, t)
      | .error fault => .error fault := by
  show (p s >>= _) = _
  cases p s <;> rfl

@[simp] theorem pure_apply {α : Type} (a : α) (s : State) : (pure a : Parse α) s = .ok (a, s) := rfl

@[simp] theorem get_apply (s : State) : (get : Parse State) s = .ok (s, s) := rfl

@[simp] theorem set_apply (s t : State) : (set t : Parse PUnit) s = .ok (⟨⟩, t) := rfl

@[simp] theorem modify_apply (f : State → State) (s : State) :
    (modify f : Parse PUnit) s = .ok (⟨⟩, f s) := rfl

@[simp] theorem here_apply (s : State) : here s = .ok (s.start.index, s) := rfl

@[simp] theorem ahead_apply (s : State) : Parse.ahead s = .ok (s.ahead, s) := rfl

@[simp] theorem finish_apply (start : Nat) (kind : String) (fields : List (String × Option Tree))
    (s : State) : finish start kind fields s = .ok (Tree.mk kind start s.lastIndex fields, s) := rfl

@[simp] theorem isSign_apply (sign : String) (s : State) :
    isSign sign s = .ok (decide (s.ahead.kind = .punctuator) && s.ahead.word == sign, s) := rfl

@[simp] theorem isWord_apply (word : String) (s : State) :
    isWord word s = .ok (decide (s.ahead.kind = .keyword) && s.ahead.word == word, s) := rfl

@[simp] theorem isContextual_apply (word : String) (s : State) :
    isContextual word s = .ok (decide (s.ahead.kind = .identifier) && s.ahead.word == word, s) := rfl

namespace State

/-- Reading has come to a text: its first lexeme is the next one. -/
structure Stands (s : State) (text : Text) : Prop where
  rest : s.start.rest = text
  fits : text.length ≤ s.start.size
  lexed : s.start.lex = .ok (s.ahead, s.cursor)

/-- The state behind so many code points from the next lexeme on, if no line ends among them. -/
def past (s : State) (n : Nat) : Except SyntaxFault State :=
  (advance s.start.line (s.start.move n) { s with cursor := s.start.move n }).map (·.2)

/-- What has been read can be neither assigned nor bound. -/
def noTarget (s : State) : State :=
  { s with isAssignmentTarget := false, isBindingElement := false }

/-- The state with other flags. -/
def flagged (s : State) (isAssignmentTarget isBindingElement : Bool) (coverFault : Option Lexeme)
    (allowIn : Bool) : State :=
  { s with isAssignmentTarget, isBindingElement, coverFault, allowIn }

/-- An arrow comes next. -/
def BeforeArrow (s : State) : Prop :=
  s.ahead.kind = .punctuator ∧ s.ahead.word = "=>"

theorem Stands.fits_rest (h : s.Stands text) : s.start.rest.length ≤ s.start.size := by
  rw [h.rest]
  exact h.fits

theorem Stands.flagged (h : s.Stands text) (a b : Bool) (f : Option Lexeme) (i : Bool) :
    (s.flagged a b f i).Stands text :=
  ⟨h.rest, h.fits, h.lexed⟩

/-! Reading on neither looks at the flags nor changes them. -/

theorem past_flagged (s : State) (n : Nat) (a b : Bool) (f : Option Lexeme) (i : Bool) :
    (s.flagged a b f i).past n = (s.past n).map (·.flagged a b f i) := by
  simp only [past, advance, flagged]
  cases (s.start.move n).skipBlanks with
  | error fault => rfl
  | ok start =>
    dsimp only
    cases start.lex <;> rfl

theorem past_noTarget (s : State) (n : Nat) : s.noTarget.past n = (s.past n).map noTarget := by
  simp only [past, advance, noTarget]
  cases (s.start.move n).skipBlanks with
  | error fault => rfl
  | ok start =>
    dsimp only
    cases start.lex <;> rfl

theorem exists_of_past (h : s.past n = .ok t) :
    ∃ cursor ahead newline start, t = { s with
      cursor, ahead, newline, start, lastIndex := s.start.index + n, lastLine := s.start.line } := by
  simp only [past, advance] at h
  cases hblanks : (s.start.move n).skipBlanks with
  | error fault => simp [hblanks, Except.map] at h
  | ok start =>
    cases hlex : start.lex with
    | error fault => simp [hblanks, hlex, Except.map] at h
    | ok read =>
      simp only [hblanks, hlex, Except.map, Except.ok.injEq] at h
      exact ⟨_, _, _, _, h.symm⟩

theorem lastIndex_of_past (h : s.past n = .ok t) : t.lastIndex = s.start.index + n := by
  obtain ⟨_, _, _, _, rfl⟩ := exists_of_past h
  rfl

theorem flagged_of_past (h : s.past n = .ok t) :
    t.flagged false false s.coverFault s.allowIn = t.noTarget := by
  obtain ⟨_, _, _, _, rfl⟩ := exists_of_past h
  rfl

/-- The state with a lexeme next that stands so far behind the one that is next now. -/
def onto (s : State) (n length : Nat) (kind : LexemeKind) (value : Text) : State :=
  { s with
    cursor := s.start.move (n + length)
    ahead := Cursor.lexeme (s.start.move n) (s.start.move (n + length)) kind value
    newline := false
    start := s.start.move n
    lastIndex := s.start.index + n
    lastLine := s.start.line }

/-- A lexeme stands so far behind the next one, with no blanks before it. -/
structure Lexes (s : State) (n length : Nat) (kind : LexemeKind) (value : Text) : Prop where
  solid : (s.start.move n).skipBlanks = .ok (s.start.move n)
  lexed : (s.start.move n).lex = .ok
    (Cursor.lexeme (s.start.move n) (s.start.move (n + length)) kind value, s.start.move (n + length))
  unnamed : kind ≠ .identifier

variable {length : Nat} {kind : LexemeKind}

theorem Lexes.past (h : s.Lexes n length kind value) : s.past n = .ok (s.onto n length kind value) := by
  have hkind : (Cursor.lexeme (s.start.move n) (s.start.move (n + length)) kind value).kind
      ≠ .identifier := h.unnamed
  simp only [State.past, advance, h.solid, h.lexed, hkind, decide_false, Bool.and_false, Bool.false_and,
    Bool.false_eq_true, if_false, Except.map]
  simp [onto, Cursor.lexeme, Cursor.move]

theorem Lexes.stands (h : s.Lexes n length kind value) (hrest : (s.start.move n).rest = text)
    (hfits : s.start.rest.length ≤ s.start.size) : (s.onto n length kind value).Stands text := by
  refine ⟨hrest, ?_, h.lexed⟩
  show text.length ≤ s.start.size
  rw [← hrest]
  simp only [Cursor.move, List.length_drop]
  omega

theorem past_onto (s : State) (m length n : Nat) (kind : LexemeKind) (value : Text) :
    (s.onto m length kind value).past n = s.past (m + n) := by
  simp only [State.past, advance, onto, Cursor.move_move]
  cases (s.start.move (m + n)).skipBlanks with
  | error fault => rfl
  | ok start =>
    dsimp only
    cases start.lex <;> rfl

end State

theorem next_eq_past (hcursor : s.cursor = s.start.move n) (hline : s.ahead.line = s.start.line) :
    next s = (s.past n).map fun t => (s.ahead, t) := by
  show (advance s.ahead.line s.cursor s >>= _) = _
  rw [State.past, hline, ← hcursor]
  cases advance s.start.line s.cursor s <;> rfl

theorem next_onto {length : Nat} {kind : LexemeKind} (s : State) (n : Nat) (value : Text) :
    next (s.onto n length kind value)
      = (s.past (n + length)).map fun t => ((s.onto n length kind value).ahead, t) := by
  rw [next_eq_past (n := length) (Cursor.move_move _ _ _).symm rfl, State.past_onto]

theorem next_noTarget_onto {length : Nat} {kind : LexemeKind} (s : State) (n : Nat) (value : Text) :
    next (s.onto n length kind value).noTarget
      = (s.past (n + length)).map fun t => ((s.onto n length kind value).ahead, t.noTarget) := by
  rw [next_eq_past (n := length) (Cursor.move_move _ _ _).symm rfl, State.past_noTarget, State.past_onto]
  cases s.past (n + length) <;> rfl

theorem expect_of_next (hkind : s.ahead.kind = .punctuator) (hword : s.ahead.word = sign)
    (hnext : next s = .ok (s.ahead, t)) : expect sign s = .ok ((), t) := by
  simp [expect, hnext, hkind, hword]

theorem expect_fails (h : ¬ (s.ahead.kind = .punctuator ∧ s.ahead.word = sign)) :
    ∃ fault, expect sign s = .error fault := by
  cases hread : advance s.ahead.line s.cursor s with
  | error fault => exact ⟨fault, by simp [expect, next, hread]⟩
  | ok read => exact ⟨_, by simp [expect, next, hread, h]; rfl⟩

/-! ## Readers that read a text -/

/-- Where a text comes next, and another behind it that does not begin with an arrow, the first one is read
as a tree that can be neither assigned nor bound. -/
def ReadsTo (p : Parse Tree) (text tail : Text) (made : Nat → Tree) : Prop :=
  ∀ s t : State, s.Stands (text ++ tail) → s.past text.length = .ok t → ¬ t.BeforeArrow →
    p s = .ok (made s.start.index, t.noTarget)

variable {p : Parse Tree} {made : Nat → Tree} {g : Grammar}

theorem ReadsTo.flagged (h : ReadsTo p text tail made) (hstands : s.Stands (text ++ tail))
    (hpast : s.past text.length = .ok t) (harrow : ¬ t.BeforeArrow) (a b : Bool) (f : Option Lexeme)
    (i : Bool) : p (s.flagged a b f i) = .ok (made s.start.index, t.flagged false false f i) := by
  refine h _ (t.flagged a b f i) (hstands.flagged a b f i) ?_ harrow
  rw [State.past_flagged, hpast]
  rfl

theorem ReadsTo.inherit (h : ReadsTo p text tail made) : ReadsTo (inherit p) text tail made := by
  intro s t hstands hpast harrow
  have hread := h.flagged hstands hpast harrow true true none s.allowIn
  have hcover : (s.coverFault <|> none) = s.coverFault := by cases s.coverFault <;> rfl
  rw [State.flagged] at hread
  rw [← State.flagged_of_past hpast]
  simp only [Parse.inherit, bind_apply, get_apply, set_apply, hread, modify_apply, pure_apply,
    State.flagged, Bool.false_and, hcover]

theorem ReadsTo.withIn (h : ReadsTo p text tail made) (allow : Bool) :
    ReadsTo (withIn allow p) text tail made := by
  intro s t hstands hpast harrow
  have hread := h.flagged hstands hpast harrow s.isAssignmentTarget s.isBindingElement s.coverFault allow
  rw [State.flagged] at hread
  rw [← State.flagged_of_past hpast]
  simp only [Parse.withIn, within, bind_apply, get_apply, set_apply, hread, modify_apply, pure_apply,
    State.flagged]

/-- What is read on its own leaves the flags as they were. -/
theorem ReadsTo.isolate (h : ReadsTo p text tail made) (hstands : s.Stands (text ++ tail))
    (hpast : s.past text.length = .ok t) (harrow : ¬ t.BeforeArrow) :
    isolate p s = .ok (made s.start.index,
      t.flagged s.isAssignmentTarget s.isBindingElement s.coverFault s.allowIn) := by
  have hread := h.flagged hstands hpast harrow true true none s.allowIn
  rw [State.flagged] at hread
  simp only [Parse.isolate, bind_apply, get_apply, set_apply, hread, pure_apply, State.flagged]

/-! ## String literals -/

/-- A text is a string literal with a value. -/
def IsLiteral (text value : Text) : Prop :=
  ∃ quote body, IsQuote quote ∧ Cursor.Spells quote body value ∧ text = [quote] ++ body ++ [quote]

theorem isLiteral_quoteAscii (part : Text) : IsLiteral (Json.quoteAscii part) (unitCodes part) :=
  ⟨_, _, .inl rfl, Cursor.spells_quoted part, rfl⟩

theorem isLiteral_inert (hquote : IsQuote quote) (h : ∀ c ∈ text, isInert c = true) :
    IsLiteral ([quote] ++ text ++ [quote]) text :=
  ⟨quote, text, hquote, Cursor.spells_inert hquote h, rfl⟩

theorem IsLiteral.lexed {cur : Cursor} (h : IsLiteral text value) (hrest : cur.rest = text ++ tail)
    (hfits : cur.rest.length ≤ cur.size) :
    cur.lex = .ok (Cursor.lexeme cur (cur.move text.length) .string value, cur.move text.length) := by
  obtain ⟨quote, body, hquote, hbody, rfl⟩ := h
  have hlength : ([quote] ++ body ++ [quote]).length = body.length + 2 := by simp
  rw [hlength]
  exact Cursor.lex_string hquote hbody hrest hfits

theorem IsLiteral.lexes (h : IsLiteral text value) (hrest : (s.start.move n).rest = text ++ tail)
    (hfits : s.start.rest.length ≤ s.start.size) : s.Lexes n text.length .string value := by
  have hfits : (s.start.move n).rest.length ≤ (s.start.move n).size := by
    refine le_trans ?_ hfits
    simp [Cursor.move]
  refine ⟨?_, ?_, by decide⟩
  · obtain ⟨quote, body, hquote, -, rfl⟩ := h
    exact Cursor.skipBlanks_of_solid (c := quote) (by simpa using hrest) (Cursor.isSolid_of_isQuote hquote)
  · rw [← Cursor.move_move]
    exact h.lexed hrest hfits

theorem IsLiteral.next (h : IsLiteral text value) (hstands : s.Stands (text ++ tail)) :
    s.ahead = Cursor.lexeme s.start (s.start.move text.length) .string value ∧
      s.cursor = s.start.move text.length := by
  have hlex := h.lexed hstands.rest hstands.fits_rest
  rw [hstands.lexed] at hlex
  exact Prod.mk.inj (Except.ok.inj hlex)

theorem IsLiteral.kind (h : IsLiteral text value) (hstands : s.Stands (text ++ tail)) :
    s.ahead.kind = .string := by
  rw [(h.next hstands).1]
  rfl

theorem IsLiteral.primary (h : IsLiteral text value) :
    ReadsTo (primary g) text tail (literalAt value text) := by
  intro s t hstands hpast _
  obtain ⟨hahead, hcursor⟩ := h.next hstands
  have hoctal : s.ahead.octal = false := by rw [hahead]; rfl
  have hvalue : s.ahead.value = value := by rw [hahead]; rfl
  have hline : s.ahead.line = s.start.line := by rw [hahead]; rfl
  have hraw : s.ahead.raw = text := by
    rw [hahead]
    simp [Cursor.lexeme, Cursor.move, hstands.rest]
  have hnext : Parse.next s.noTarget = .ok (s.ahead, t.noTarget) := by
    have hread : Parse.next s.noTarget = (s.noTarget.past text.length).map fun t => (s.ahead, t) :=
      next_eq_past hcursor hline
    rw [hread, State.past_noTarget, hpast]
    rfl
  have hlast : t.noTarget.lastIndex = s.start.index + text.length := by
    rw [← State.lastIndex_of_past hpast]
    rfl
  have hflags : isNoTarget s = .ok (⟨⟩, s.noTarget) := rfl
  simp [Script.primary, h.kind hstands, hoctal, hflags, hnext, literal, stringLiteral, hvalue, hraw, hlast,
    literalAt]

theorem IsLiteral.chainHead (h : IsLiteral text value) :
    ReadsTo (chainHead g) text tail (literalAt value text) := by
  intro s t hstands hpast harrow
  simpa [Script.chainHead, h.kind hstands] using (h.primary (g := g)).inherit s t hstands hpast harrow

/-- A string literal goes on with nothing. -/
theorem IsLiteral.callChain (h : IsLiteral text value) (hstands : s.Stands (text ++ tail)) (start : Nat)
    (maybeAsync : Option Nat) (fuel : Nat) (e : Tree) :
    callChain g start maybeAsync (fuel + 1) e s = .ok (e, s) := by
  simp [Script.callChain, h.kind hstands]

/-! ## Operands -/

/-- What comes behind an operand of a sum of strings in parentheses, and the sign that it begins with. -/
inductive EndsOperand : Text → String → Prop
  | plus (tail : Text) : EndsOperand (CodePoint.ofChar '+' :: CodePoint.ofChar '"' :: tail) "+"
  | close (tail : Text) : EndsOperand (CodePoint.ofChar ')' :: tail) ")"

theorem EndsOperand.lexes (h : EndsOperand tail sign) (hrest : (s.start.move n).rest = tail) :
    s.Lexes n 1 .punctuator sign := by
  cases h with
  | plus tail =>
    refine ⟨Cursor.skipBlanks_of_solid hrest (by decide), ?_, by decide⟩
    rw [← Cursor.move_move]
    exact Cursor.lex_plus hrest
  | close tail =>
    refine ⟨Cursor.skipBlanks_of_solid hrest (by decide), ?_, by decide⟩
    rw [← Cursor.move_move]
    exact Cursor.lex_close hrest

theorem EndsOperand.ahead (h : EndsOperand tail sign) (hstands : s.Stands (text ++ tail))
    (hpast : s.past text.length = .ok t) : t.ahead.kind = .punctuator ∧ t.ahead.word = sign := by
  rw [(h.lexes (Cursor.rest_move hstands.rest)).past] at hpast
  obtain rfl := Except.ok.inj hpast
  cases h <;> exact ⟨rfl, rfl⟩

theorem EndsOperand.not_beforeArrow (h : EndsOperand tail sign)
    (hword : s.ahead.word = Text.toString sign) : ¬ s.BeforeArrow := by
  intro harrow
  rw [State.BeforeArrow, hword] at harrow
  cases h <;> exact absurd harrow.2 (by decide)

theorem EndsOperand.callChain (h : EndsOperand tail sign) (hkind : s.ahead.kind = .punctuator)
    (hword : s.ahead.word = sign) (start : Nat) (maybeAsync : Option Nat) (fuel : Nat) (e : Tree) :
    callChain g start maybeAsync (fuel + 1) e s = .ok (e, s) := by
  cases h <;> simp [Script.callChain, hkind, hword]

theorem IsLiteral.leftHandSide (h : IsLiteral text value) (hends : EndsOperand tail sign) :
    ReadsTo (leftHandSide g) text tail (literalAt value text) := by
  intro s t hstands hpast harrow
  simp only [Script.leftHandSide, bind_apply, ahead_apply, here_apply, isContextual_apply, h.kind hstands,
    reduceCtorEq, decide_false, Bool.false_and, Bool.false_eq_true, if_false]
  refine ReadsTo.withIn (?_ : ReadsTo _ text tail (literalAt value text)) true s t hstands hpast harrow
  intro s t hstands hpast harrow
  obtain ⟨hkind, hword⟩ := hends.ahead hstands hpast
  simp only [bind_apply, isWord_apply, h.kind hstands, reduceCtorEq, decide_false, Bool.false_and,
    Bool.false_eq_true, if_false, (h.chainHead (g := g)) s t hstands hpast harrow, get_apply]
  exact hends.callChain (s := t.noTarget) hkind hword _ _ _ _

theorem IsLiteral.updateExpression (h : IsLiteral text value) (hends : EndsOperand tail sign) :
    ReadsTo (updateExpression g) text tail (literalAt value text) := by
  intro s t hstands hpast harrow
  obtain ⟨hkind, hword⟩ := hends.ahead hstands hpast
  have hread := (h.leftHandSide (g := g) hends).inherit s t hstands hpast harrow
  cases hends <;> simp [Script.updateExpression, h.kind hstands, hread, State.noTarget, hkind, hword]

theorem IsLiteral.unary (h : IsLiteral text value) (hends : EndsOperand tail sign) :
    ReadsTo (unary g) text tail (literalAt value text) := by
  intro s t hstands hpast harrow
  have hread := h.updateExpression (g := g) hends s t hstands hpast harrow
  simpa [Script.unary, isUnarySign, h.kind hstands] using hread

theorem IsLiteral.exponentiation (h : IsLiteral text value) (hends : EndsOperand tail sign) :
    ReadsTo (exponentiation (deeper g)) text tail (literalAt value text) := by
  intro s t hstands hpast harrow
  obtain ⟨hkind, hword⟩ := hends.ahead hstands hpast
  have hread := (h.unary (g := g) hends).inherit s t hstands hpast harrow
  cases hends <;> simp [Script.exponentiation, deeper, hread, State.noTarget, hkind, hword]

/-! ## Sums -/

/-- The pieces behind the first one, as they are written. -/
def added (parts : List Text) : Text :=
  parts.flatMap fun part => ("+" : Text) ++ Json.quoteAscii part

/-- The sign before the pieces behind the first one, or behind the last. -/
def signBefore (rest : List Text) : String :=
  if rest.isEmpty then ")" else "+"

/-- A piece that begins at a place. -/
def pieceAt (part : Text) (start : Nat) : Tree :=
  literalAt (unitCodes part) (Json.quoteAscii part) start

/-- What is read of the pieces behind a sum that begins and ends at places. -/
def sumFrom (start : Nat) : Nat → Tree → List Text → Tree
  | _, left, [] => left
  | stop, left, part :: rest =>
    let stop' := stop + 1 + (Json.quoteAscii part).length
    sumFrom start stop' (Tree.mk "BinaryExpression" start stop'
      [("operator", some (.text "+")), ("left", some left), ("right", some (pieceAt part (stop + 1)))]) rest

/-- What is read of pieces that are added up. -/
def sumAt (part : Text) (rest : List Text) (start : Nat) : Tree :=
  sumFrom start (start + (Json.quoteAscii part).length) (pieceAt part start) rest

theorem added_cons (part : Text) (rest : List Text) :
    added (part :: rest) = CodePoint.ofChar '+' :: (Json.quoteAscii part ++ added rest) := rfl

theorem join_pieces (part : Text) (rest : List Text) :
    Text.join "+" ((part :: rest).map Json.quoteAscii) = Json.quoteAscii part ++ added rest := by
  induction rest generalizing part with
  | nil => exact (List.append_nil _).symm
  | cons next rest ih =>
    have hjoin := ih next
    rw [List.map_cons] at hjoin ⊢
    rw [List.map_cons, Text.join, hjoin, added_cons, List.append_assoc]
    · rfl
    · exact List.cons_ne_nil _ _

theorem length_le_added (rest : List Text) : rest.length ≤ (added rest).length := by
  induction rest with
  | nil => exact Nat.zero_le _
  | cons part rest ih =>
    rw [added_cons, List.length_cons, List.length_cons, List.length_append]
    omega

theorem endsOperand_added (rest : List Text) (tail : Text) :
    EndsOperand (added rest ++ CodePoint.ofChar ')' :: tail) (signBefore rest) := by
  cases rest with
  | nil => exact .close tail
  | cons part rest => exact .plus _

theorem kind_sumFrom {start stop : Nat} {left : Tree} (rest : List Text)
    (h : left.kind = "Literal" ∨ left.kind = "BinaryExpression") :
    (sumFrom start stop left rest).kind = "Literal" ∨
      (sumFrom start stop left rest).kind = "BinaryExpression" := by
  induction rest generalizing stop left with
  | nil => exact h
  | cons part rest ih => exact ih (.inr rfl)

/-- No sum is taken for the parameters of an arrow function. -/
theorem not_holder_sumAt (part : Text) (rest : List Text) (start : Nat) :
    (sumAt part rest start).isKind arrowParameters = false := by
  have hkind : (sumAt part rest start).kind = "Literal" ∨
      (sumAt part rest start).kind = "BinaryExpression" :=
    kind_sumFrom rest (.inl rfl)
  obtain hsum | hsum := hkind <;> rw [Tree.isKind, hsum] <;> decide

/-- The operands that wait come to one with the last operand, if that ends at a place. -/
structure Closes (ps : List Pending) (start : Nat) (e : Tree) (stop begun : Nat) (closed : Tree) :
    Prop where
  reduces : ∀ strength ≤ 9, ∀ s : State, s.lastIndex = stop →
    reduce strength ps e s = .ok (([], closed), s)
  begins : reducedStart 9 ps start = begun

theorem closes_nil (start : Nat) (e : Tree) (stop : Nat) : Closes [] start e stop start e :=
  ⟨fun _ _ _ _ => rfl, rfl⟩

theorem closes_sum (begun : Nat) (left : Tree) (start : Nat) (e : Tree) (stop : Nat) :
    Closes [⟨begun, left, "+", 9⟩] start e stop begun (Tree.mk "BinaryExpression" begun stop
      [("operator", some (.text "+")), ("left", some left), ("right", some e)]) := by
  refine ⟨fun strength hstrength s hlast => ?_, rfl⟩
  have hsign : (Text.eqString "+" "||" || Text.eqString "+" "&&") = false := by decide
  simp [reduce, hstrength, binary, hsign, hlast]

section Chains

variable {ps : List Pending} {start stop begun fuel : Nat} {e closed right : Tree} {u : State}
  {lexeme : Lexeme}

theorem binaryChain_close (h : Closes ps start e stop begun closed) (hkind : s.ahead.kind = .punctuator)
    (hword : s.ahead.word = ")") (hlast : s.lastIndex = stop) :
    binaryChain g (fuel + 1) ps start e s = .ok (closed, s) := by
  have hstrength : precedence s.allowIn s.ahead = 0 := by
    rw [precedence, hkind, hword]
    rfl
  simp only [binaryChain, bind_apply, get_apply, hstrength, if_true, h.reduces 0 (by decide) s hlast,
    pure_apply]

theorem binaryChain_plus (h : Closes ps start e stop begun closed) (hkind : s.ahead.kind = .punctuator)
    (hword : s.ahead.word = "+") (hlast : s.lastIndex = stop) (hnext : next s = .ok (lexeme, t.noTarget))
    (hvalue : lexeme.value = "+") (hright : isolate g.exponentiation t.noTarget = .ok (right, u)) :
    binaryChain g (fuel + 1) ps start e s
      = binaryChain g fuel [⟨begun, closed, "+", 9⟩] t.start.index right u := by
  have hstrength : precedence s.allowIn s.ahead = 9 := by
    rw [precedence, hkind, hword]
    rfl
  have hindex : t.noTarget.start.index = t.start.index := rfl
  have hflags : isNoTarget t.noTarget = .ok (⟨⟩, t.noTarget) := rfl
  rw [binaryChain]
  simp only [bind_apply, get_apply, hstrength, OfNat.ofNat_ne_zero, if_false, h.begins,
    h.reduces 9 le_rfl s hlast, hnext, hflags, here_apply, hindex, hvalue, hright]

end Chains

/-- Behind a sign stands a piece, and behind that the others. -/
theorem rest_behind_plus {part : Text} {rest : List Text}
    (hrest : (s.start.move n).rest = added (part :: rest) ++ tail) :
    (s.start.move (n + 1)).rest = Json.quoteAscii part ++ (added rest ++ tail) ∧
      (s.start.move (n + 1 + (Json.quoteAscii part).length)).rest = added rest ++ tail := by
  have hpiece : (s.start.move (n + 1)).rest = Json.quoteAscii part ++ (added rest ++ tail) := by
    rw [added_cons, List.cons_append, List.append_assoc] at hrest
    rw [← Cursor.move_move]
    exact Cursor.rest_move_one hrest
  refine ⟨hpiece, ?_⟩
  rw [← Cursor.move_move]
  exact Cursor.rest_move hpiece

/-- Each piece is added to the sum of those before it. -/
theorem binaryChain_added {rest : List Text} {ps : List Pending} {start begun fuel : Nat} {e closed : Tree}
    (hrest : (s.start.move n).rest = added rest ++ CodePoint.ofChar ')' :: tail)
    (hfits : s.start.rest.length ≤ s.start.size)
    (hcloses : Closes ps start e (s.start.index + n) begun closed) (hfuel : rest.length < fuel) :
    binaryChain (deeper (deeper g)) fuel ps start e (s.onto n 1 .punctuator (signBefore rest)).noTarget
      = .ok (sumFrom begun (s.start.index + n) closed rest,
          (s.onto (n + (added rest).length) 1 .punctuator ")").noTarget) := by
  obtain ⟨fuel, rfl⟩ : ∃ m, fuel = m + 1 := ⟨fuel - 1, by omega⟩
  induction rest generalizing ps start e closed n fuel with
  | nil => exact binaryChain_close hcloses rfl rfl rfl
  | cons part rest ih =>
    obtain ⟨fuel, rfl⟩ : ∃ m, fuel = m + 1 := ⟨fuel - 1, by simp at hfuel; omega⟩
    have hliteral := isLiteral_quoteAscii part
    have hends := endsOperand_added rest tail
    obtain ⟨hpiece, hbehind⟩ := rest_behind_plus hrest
    have hlexes := hliteral.lexes hpiece hfits
    have hnext : next (s.onto n 1 .punctuator "+").noTarget = .ok ((s.onto n 1 .punctuator "+").ahead,
        (s.onto (n + 1) (Json.quoteAscii part).length .string (unitCodes part)).noTarget) := by
      rw [next_noTarget_onto, hlexes.past]
      rfl
    have hpast : (s.onto (n + 1) (Json.quoteAscii part).length .string (unitCodes part)).noTarget.past
        (Json.quoteAscii part).length
          = .ok (s.onto (n + 1 + (Json.quoteAscii part).length) 1 .punctuator (signBefore rest)).noTarget := by
      rw [State.past_noTarget, State.past_onto, (hends.lexes hbehind).past]
      rfl
    have hread := (hliteral.exponentiation (g := g) hends).isolate
      ((hlexes.stands hpiece hfits).flagged false false s.coverFault s.allowIn) hpast
      (hends.not_beforeArrow rfl)
    have hothers := ih hbehind (closes_sum begun closed (s.start.index + (n + 1))
      (pieceAt part (s.start.index + (n + 1))) (s.start.index + (n + 1 + (Json.quoteAscii part).length)))
      fuel (by simpa using hfuel)
    have hlength : (added (part :: rest)).length
        = 1 + (Json.quoteAscii part).length + (added rest).length := by
      rw [added_cons, List.length_cons, List.length_append]
      omega
    rw [show signBefore (part :: rest) = "+" from rfl,
      binaryChain_plus (s := (s.onto n 1 .punctuator "+").noTarget) hcloses rfl rfl rfl hnext rfl hread]
    refine hothers.trans ?_
    rw [hlength, sumFrom]
    simp only [Nat.add_assoc]

theorem readsTo_binaryExpression (part : Text) (rest : List Text) :
    ReadsTo (binaryExpression (deeper (deeper g))) (Json.quoteAscii part ++ added rest)
      (CodePoint.ofChar ')' :: tail) (sumAt part rest) := by
  intro s t hstands hpast _
  have hliteral := isLiteral_quoteAscii part
  have hends := endsOperand_added rest tail
  have hfirst : s.Stands (Json.quoteAscii part ++ (added rest ++ CodePoint.ofChar ')' :: tail)) := by
    rw [← List.append_assoc]
    exact hstands
  have hbehind := Cursor.rest_move hfirst.rest
  have hread := (hliteral.exponentiation (g := deeper g) hends).inherit s _ hfirst
    (hends.lexes hbehind).past (hends.not_beforeArrow rfl)
  have hclose : s.Lexes ((Json.quoteAscii part).length + (added rest).length) 1 .punctuator ")" := by
    refine (EndsOperand.close tail).lexes ?_
    rw [← List.length_append]
    exact Cursor.rest_move hstands.rest
  rw [List.length_append, hclose.past] at hpast
  obtain rfl := Except.ok.inj hpast
  have hfuel : rest.length < s.start.size + 2 := by
    have hlong := length_le_added rest
    have hfits := hfirst.fits
    rw [List.length_append, List.length_append] at hfits
    omega
  simp only [binaryExpression, bind_apply, here_apply, hread, get_apply]
  exact binaryChain_added (g := g) hbehind hstands.fits_rest (closes_nil _ _ _) hfuel

theorem readsTo_assignment (part : Text) (rest : List Text) :
    ReadsTo (assignment (deeper (deeper g))) (Json.quoteAscii part ++ added rest)
      (CodePoint.ofChar ')' :: tail) (sumAt part rest) := by
  intro s t hstands hpast harrow
  have hfirst : s.ahead.kind = .string := by
    rw [List.append_assoc] at hstands
    exact (isLiteral_quoteAscii part).kind hstands
  obtain ⟨hkind, hword⟩ := (EndsOperand.close tail).ahead hstands hpast
  have hread := (readsTo_binaryExpression (g := g) part rest).inherit s t hstands hpast harrow
  have hconditional :
      conditional (deeper (deeper g)) s = .ok (sumAt part rest s.start.index, t.noTarget) := by
    simp [conditional, hread, State.noTarget, hkind, hword]
  have hsign : ")" ∉ assignmentSigns := by decide
  simp [assignment, hfirst, hconditional, not_holder_sumAt, State.noTarget, hkind, hword, isAssignment,
    hsign]

/-! ## Parentheses -/

theorem chained_cons (part : Text) (rest : List Text) :
    chained (part :: rest)
      = CodePoint.ofChar '(' :: ((Json.quoteAscii part ++ added rest) ++ [CodePoint.ofChar ')']) := by
  rw [chained, join_pieces]
  rfl

theorem State.Stands.opens (hrest : s.start.rest = CodePoint.ofChar '(' :: tail) (h : s.Stands text) :
    s.ahead = Cursor.lexeme s.start (s.start.move 1) .punctuator "(" ∧ s.cursor = s.start.move 1 := by
  have hlex := Cursor.lex_open hrest
  rw [h.lexed] at hlex
  exact Prod.mk.inj (Except.ok.inj hlex)

/-- The states between the lexemes of pieces in parentheses. -/
structure Encloses (s t : State) (part : Text) (rest : List Text) (tail : Text) : Prop where
  kind : s.ahead.kind = .punctuator
  word : s.ahead.word = "("
  opens : expect "(" s = .ok ((), s.onto 1 (Json.quoteAscii part).length .string (unitCodes part))
  stands : (s.onto 1 (Json.quoteAscii part).length .string (unitCodes part)).Stands
    (Json.quoteAscii part ++ added rest ++ CodePoint.ofChar ')' :: tail)
  past : (s.onto 1 (Json.quoteAscii part).length .string (unitCodes part)).past
      (Json.quoteAscii part ++ added rest).length
    = .ok (s.onto (1 + (Json.quoteAscii part ++ added rest).length) 1 .punctuator ")")
  closes : expect ")" (s.onto (1 + (Json.quoteAscii part ++ added rest).length) 1 .punctuator ")").noTarget
    = .ok ((), t.noTarget)

theorem encloses {part : Text} {rest : List Text} (hstands : s.Stands (chained (part :: rest) ++ tail))
    (hpast : s.past (chained (part :: rest)).length = .ok t) : Encloses s t part rest tail := by
  have hrest : s.start.rest = CodePoint.ofChar '(' ::
      (Json.quoteAscii part ++ added rest ++ CodePoint.ofChar ')' :: tail) := by
    rw [hstands.rest, chained_cons]
    simp
  obtain ⟨hahead, hcursor⟩ := hstands.opens hrest
  have hkind : s.ahead.kind = .punctuator := by rw [hahead]; rfl
  have hword : s.ahead.word = "(" := by rw [hahead]; rfl
  have hline : s.ahead.line = s.start.line := by rw [hahead]; rfl
  have hinside : (s.start.move 1).rest = Json.quoteAscii part ++ added rest ++ CodePoint.ofChar ')' :: tail :=
    Cursor.rest_move_one hrest
  have hfirst : s.Lexes 1 (Json.quoteAscii part).length .string (unitCodes part) := by
    rw [List.append_assoc] at hinside
    exact (isLiteral_quoteAscii part).lexes hinside hstands.fits_rest
  have hclose : s.Lexes (1 + (Json.quoteAscii part ++ added rest).length) 1 .punctuator ")" := by
    refine (EndsOperand.close tail).lexes ?_
    rw [← Cursor.move_move]
    exact Cursor.rest_move hinside
  have hlength : (chained (part :: rest)).length = 1 + (Json.quoteAscii part ++ added rest).length + 1 := by
    rw [chained_cons, List.length_cons, List.length_append, List.length_singleton]
    omega
  refine ⟨hkind, hword, expect_of_next hkind hword ?_, hfirst.stands hinside hstands.fits_rest, ?_,
    expect_of_next rfl rfl ?_⟩
  · rw [next_eq_past hcursor hline, hfirst.past]
    rfl
  · rw [State.past_onto, hclose.past]
  · rw [next_noTarget_onto, ← hlength, hpast]
    rfl

/-- One expression in parentheses, behind which no arrow comes. -/
theorem group_of_one {u v : State} {e : Tree} (hopen : expect "(" s = .ok ((), u))
    (hfirst : u.ahead.kind = .string)
    (hread : inherit g.assignment { u with isBindingElement := true } = .ok (e, v))
    (hkind : v.ahead.kind = .punctuator) (hword : v.ahead.word = ")") (hclose : expect ")" v = .ok ((), t))
    (harrow : ¬ t.BeforeArrow) : group g s = .ok (e, { t with isBindingElement := false }) := by
  have hnone : ¬ (t.ahead.kind = .punctuator ∧ t.ahead.word = "=>") := harrow
  simp [group, hopen, hfirst, hread, hkind, hword, hclose, hnone]

theorem readsTo_group (part : Text) (rest : List Text) :
    ReadsTo (group (deeper (deeper (deeper g)))) (chained (part :: rest)) tail
      fun start => sumAt part rest (start + 1) := by
  intro s t hstands hpast harrow
  have h := encloses hstands hpast
  have hread := (readsTo_assignment (g := g) part rest).inherit _ _
    (h.stands.flagged s.isAssignmentTarget true s.coverFault s.allowIn)
    (by rw [State.past_flagged, h.past]; rfl) ((EndsOperand.close tail).not_beforeArrow rfl)
  exact group_of_one (g := deeper (deeper (deeper g))) h.opens rfl hread rfl rfl h.closes harrow

theorem readsTo_primary (part : Text) (rest : List Text) :
    ReadsTo (primary (deeper (deeper (deeper g)))) (chained (part :: rest)) tail
      fun start => sumAt part rest (start + 1) := by
  intro s t hstands hpast harrow
  have h := encloses hstands hpast
  have hflagged : (s.flagged s.isAssignmentTarget false s.coverFault s.allowIn).past
      (chained (part :: rest)).length
        = .ok (t.flagged s.isAssignmentTarget false s.coverFault s.allowIn) := by
    rw [State.past_flagged, hpast]
    rfl
  have hread := (readsTo_group (g := g) part rest).inherit _ _ (hstands.flagged _ _ _ _) hflagged harrow
  rw [State.flagged] at hread
  rw [← State.flagged_of_past hpast]
  simp [primary, h.kind, h.word, hread, State.flagged, State.noTarget]

/-- One argument of a call. -/
theorem arguments_of_one {u v : State} {e : Tree} (hopen : expect "(" s = .ok ((), u))
    (hfirst : u.ahead.kind = .string) (hread : isolate p u = .ok (e, v)) (hkind : v.ahead.kind = .punctuator)
    (hword : v.ahead.word = ")") (hclose : expect ")" v = .ok ((), t)) :
    arguments g p s = .ok ([e], t) := by
  simp [arguments, arguments.more, hopen, hfirst, hread, hkind, hword, hclose]

theorem arguments_chained (part : Text) (rest : List Text)
    (hstands : s.Stands (chained (part :: rest) ++ tail))
    (hpast : s.past (chained (part :: rest)).length = .ok t) :
    arguments (deeper (deeper (deeper g))) (assignment (deeper (deeper g))) s.noTarget
      = .ok ([sumAt part rest (s.start.index + 1)], t.noTarget) := by
  have h : Encloses s.noTarget t.noTarget part rest tail := by
    refine encloses (hstands.flagged false false s.coverFault s.allowIn) ?_
    rw [State.past_noTarget, hpast]
    rfl
  have hread := (readsTo_assignment (g := g) part rest).isolate h.stands h.past
    ((EndsOperand.close tail).not_beforeArrow rfl)
  exact arguments_of_one h.opens rfl hread rfl rfl h.closes

theorem callChain_chained (part : Text) (rest : List Text)
    (hstands : s.Stands (chained (part :: rest) ++ tail))
    (hpast : s.past (chained (part :: rest)).length = .ok t) {maybeAsync : Option Nat}
    (hasync : maybeAsync ≠ some s.ahead.line) (start fuel : Nat) (e : Tree) :
    callChain (deeper (deeper (deeper g))) start maybeAsync (fuel + 1) e s
      = callChain (deeper (deeper (deeper g))) start maybeAsync fuel
          (Tree.mk "CallExpression" start (s.start.index + (chained (part :: rest)).length)
            [("callee", some e), ("arguments", some (.list [sumAt part rest (s.start.index + 1)]))])
          t.noTarget := by
  have h := encloses hstands hpast
  have hread := arguments_chained (g := g) part rest hstands hpast
  have hlast : t.noTarget.lastIndex = s.start.index + (chained (part :: rest)).length := by
    rw [← State.lastIndex_of_past hpast]
    rfl
  have hassignment : (deeper (deeper (deeper g))).assignment = assignment (deeper (deeper g)) := rfl
  have hflags : isNoTarget s = .ok (⟨⟩, s.noTarget) := rfl
  rw [callChain]
  simp [h.kind, h.word, hasync, hassignment, hflags, hread, hlast]

/-! Empty parentheses can only be the parameters of an arrow function. -/

theorem group_chained_nil (hstands : s.Stands (chained [] ++ tail)) (hpast : s.past 2 = .ok t)
    (harrow : ¬ t.BeforeArrow) : ∃ fault, group g s = .error fault := by
  obtain ⟨hahead, hcursor⟩ := hstands.opens hstands.rest
  have hclose : s.Lexes 1 1 .punctuator ")" :=
    (EndsOperand.close tail).lexes (Cursor.rest_move_one hstands.rest)
  have hopen : expect "(" s = .ok ((), s.onto 1 1 .punctuator ")") := by
    refine expect_of_next (by rw [hahead]; rfl) (by rw [hahead]; rfl) ?_
    rw [next_eq_past hcursor (by rw [hahead]; rfl), hclose.past]
    rfl
  have hnext : next (s.onto 1 1 .punctuator ")") = .ok ((s.onto 1 1 .punctuator ")").ahead, t) := by
    rw [next_onto, hpast]
    rfl
  have hkind : (s.onto 1 1 .punctuator ")").ahead.kind = .punctuator := rfl
  have hword : (s.onto 1 1 .punctuator ")").ahead.word = ")" := rfl
  have hnone : ¬ (t.ahead.kind = .punctuator ∧ t.ahead.word = "=>") := harrow
  obtain ⟨fault, hfault⟩ := expect_fails hnone
  exact ⟨fault, by simp [group, hopen, hkind, hword, hnext, hnone, hfault]⟩

theorem primary_chained_nil (hstands : s.Stands (chained [] ++ tail)) (hpast : s.past 2 = .ok t)
    (harrow : ¬ t.BeforeArrow) : ∃ fault, primary g s = .error fault := by
  obtain ⟨hahead, -⟩ := hstands.opens hstands.rest
  have hkind : s.ahead.kind = .punctuator := by rw [hahead]; rfl
  have hword : s.ahead.word = "(" := by rw [hahead]; rfl
  have hflagged : (s.flagged true true none s.allowIn).past 2
      = .ok (t.flagged true true none s.allowIn) := by
    rw [State.past_flagged, hpast]
    rfl
  obtain ⟨fault, hfault⟩ := group_chained_nil (g := g) (hstands.flagged _ _ _ _) hflagged harrow
  rw [State.flagged] at hfault
  exact ⟨fault, by simp [primary, hkind, hword, Parse.inherit, hfault]⟩

/-! ## Wherever a string can stand -/

theorem deepenBy_succ (g : Grammar) (n : Nat) : g.deepenBy (n + 1) = deeper (g.deepenBy n) := by
  induction n generalizing g with
  | zero => simp only [Grammar.deepenBy]
  | succ n ih => rw [Grammar.deepenBy, ih, Grammar.deepenBy]

theorem grammar_succ (valid : Text → Text → Bool) (levels : Nat) :
    grammar valid (levels + 1) = deeper (grammar valid levels) :=
  deepenBy_succ _ _

/-- A text is read as a tree wherever an operand can stand. -/
structure ReadsAs (text : Text) (made : Nat → Tree) : Prop where
  /-- Reading comes to the text, whatever stands behind it. -/
  comes : ∀ (line : Nat) (cur start : Cursor) (s : State) (tail : Text), cur.skipBlanks = .ok start →
    start.rest = text ++ tail → start.rest.length ≤ start.size →
      ∃ u, advance line cur s = .ok ((), u) ∧ u.start = start ∧ u.Stands (text ++ tail)
  operand : ∀ (valid : Text → Text → Bool) (levels : Nat) (tail : Text),
    ReadsTo (primary (grammar valid (levels + 3))) text tail made

/-- Behind an operand, a text leaves it alone. -/
def LeavesOperand (text : Text) : Prop :=
  ∀ (valid : Text → Text → Bool) (levels : Nat) (s : State) (tail : Text), s.Stands (text ++ tail) →
    ∀ (start : Nat) (maybeAsync : Option Nat) (fuel : Nat) (e : Tree),
      callChain (grammar valid levels) start maybeAsync (fuel + 1) e s = .ok (e, s)

/-- Behind an operand, a text makes a call of it, with a tree as the only argument. -/
def CallsOperand (text : Text) (made : Nat → Tree) : Prop :=
  ∀ (valid : Text → Text → Bool) (levels : Nat) (s t : State) (tail : Text), s.Stands (text ++ tail) →
    s.past text.length = .ok t → ∀ (start : Nat) (maybeAsync : Option Nat) (fuel : Nat) (e : Tree),
      maybeAsync ≠ some s.ahead.line →
        callChain (grammar valid (levels + 3)) start maybeAsync (fuel + 1) e s =
          callChain (grammar valid (levels + 3)) start maybeAsync fuel
            (Tree.mk "CallExpression" start (s.start.index + text.length)
              [("callee", some e), ("arguments", some (.list [made s.start.index]))]) t.noTarget

theorem comes_of_lex {line : Nat} {cur start after : Cursor} {lexeme : Lexeme}
    (hblanks : cur.skipBlanks = .ok start) (hrest : start.rest = text)
    (hfits : start.rest.length ≤ start.size) (hlex : start.lex = .ok (lexeme, after))
    (hkind : lexeme.kind ≠ .identifier) (s : State) :
    ∃ u, advance line cur s = .ok ((), u) ∧ u.start = start ∧ u.Stands text := by
  simp only [advance, hblanks, hlex, hkind, decide_false, Bool.and_false, Bool.false_and,
    Bool.false_eq_true, if_false]
  exact ⟨_, rfl, rfl, hrest, hrest ▸ hfits, hlex⟩

theorem IsLiteral.readsAs (h : IsLiteral text value) : ReadsAs text (literalAt value text) :=
  ⟨fun _ _ _ s _ hblanks hrest hfits =>
    comes_of_lex hblanks hrest hfits (h.lexed hrest hfits) (by simp [Cursor.lexeme]) s,
    fun _ _ _ => h.primary⟩

theorem readsAs_chained (part : Text) (rest : List Text) :
    ReadsAs (chained (part :: rest)) fun start => sumAt part rest (start + 1) := by
  refine ⟨fun line cur start s tail hblanks hrest hfits => ?_, fun valid levels tail => ?_⟩
  · have hopen : start.rest = CodePoint.ofChar '(' ::
        (Json.quoteAscii part ++ added rest ++ [CodePoint.ofChar ')'] ++ tail) := by
      rw [hrest, chained_cons]
      rfl
    exact comes_of_lex hblanks hrest hfits (Cursor.lex_open hopen) (by simp [Cursor.lexeme]) s
  · rw [grammar_succ, grammar_succ, grammar_succ]
    exact readsTo_primary part rest

/-- No pieces at all are nothing that an operand can be. -/
theorem not_readsAs_nil (made : Nat → Tree) : ¬ ReadsAs (chained []) made := by
  intro h
  obtain ⟨u, hu, -, hstands⟩ :=
    h.comes 1 ⟨chained [], 0, 1, [], false, 2⟩ _ (State.initial []) [] rfl rfl le_rfl
  obtain ⟨t, hpast, harrow⟩ : ∃ t, u.past 2 = .ok t ∧ ¬ t.BeforeArrow := by
    obtain rfl := (Prod.mk.inj (Except.ok.inj hu)).2
    exact ⟨_, rfl, fun harrow => absurd harrow.1 (by decide)⟩
  obtain ⟨fault, hfault⟩ := primary_chained_nil (g := grammar (fun _ _ => true) 3) hstands hpast harrow
  rw [h.operand _ 0 [] _ _ hstands hpast harrow] at hfault
  cases hfault

/-- What is read of the pieces of a text in parentheses. -/
def sumTree : List Text → Nat → Tree
  | [], _ => .null
  | part :: rest, start => sumAt part rest (start + 1)

theorem readsAs_chained_iff (parts : List Text) : ReadsAs (chained parts) (sumTree parts) ↔ parts ≠ [] := by
  cases parts with
  | nil => exact iff_of_false (not_readsAs_nil _) fun h => h rfl
  | cons part rest => exact iff_of_true (readsAs_chained part rest) (List.cons_ne_nil _ _)

theorem callsOperand_chained {parts : List Text} (h : parts ≠ []) :
    CallsOperand (chained parts) (sumTree parts) := by
  intro valid levels s t tail hstands hpast start maybeAsync fuel e hasync
  obtain ⟨part, rest, rfl⟩ := List.exists_cons_of_ne_nil h
  rw [grammar_succ, grammar_succ, grammar_succ]
  exact callChain_chained part rest hstands hpast hasync start fuel e

/-! ## The strings of a script -/

variable {settings : Settings} {d : Context} {use : StringUse} {meant : Text}

/-- The string names a class that is excluded, and has the end of a line behind the name. -/
def BreaksLine (settings : Settings) (value : Text) (use : StringUse) : Prop :=
  use = .word ∧ settings.isExcludedClass value = true ∧ withoutLastNewline value ≠ value

theorem not_stands_newline (hquote : IsQuote quote) (h : ∀ c ∈ text, isInert c = true) :
    ¬ s.Stands ([quote] ++ (text ++ ("\n" : Text)) ++ tail) := by
  intro hstands
  have hne : quote ≠ CodePoint.ofChar '\n' := by obtain rfl | rfl := hquote <;> decide
  obtain ⟨fault, hfault⟩ := Cursor.string_newline (Cursor.spells_inert hquote h) hne hstands.rest
    hstands.fits_rest
  have hlex := hstands.lexed
  rw [Cursor.lex_eq_string hquote hstands.rest, hfault] at hlex
  cases hlex

/-- What is written for a string that names something is a string literal, unless it breaks the line. -/
theorem literal_or_newline (hd : d.Marked) (hquote : IsQuote quote) (hsuits : use.Suits value)
    (hmeans : Means settings d value use meant) :
    (IsLiteral ([quote] ++ meant ++ [quote]) meant ∧ ¬ BreaksLine settings value use) ∨
      (BreaksLine settings value use ∧
        ∃ name, (∀ c ∈ name, isInert c = true) ∧ meant = name ++ ("\n" : Text)) := by
  cases hmeans with
  | identity hstands =>
    exact .inl ⟨isLiteral_inert hquote (isInert_of_elementId hd hstands), fun h => nomatch h.1⟩
  | selector hstands =>
    obtain ⟨hsign, hname, -⟩ := of_simpleSelector? hsuits
    refine .inl ⟨isLiteral_inert hquote (List.forall_mem_cons.mpr
      ⟨?_, isInert_of_selected hd hname hstands⟩), fun h => nomatch h.1⟩
    obtain rfl | rfl := hsign <;> decide
  | word hstands =>
    obtain ⟨hexcluded, rfl⟩ | ⟨hother, hinert⟩ := of_answers_className hd hstands
    · have hname : ∀ c ∈ withoutLastNewline meant, isInert c = true := fun c hc =>
        isInert_of_isWordPart (isWordPart_of_isBareWord hsuits c hc)
      obtain hsame | hnewline := withoutLastNewline_cases meant
      · rw [hsame] at hname
        exact .inl ⟨isLiteral_inert hquote hname, fun h => h.2.2 hsame⟩
      · refine .inr ⟨⟨rfl, hexcluded, fun hsame => ?_⟩, _, hname, hnewline⟩
        rw [hsame] at hnewline
        exact ne_append_newline _ hnewline
    · exact .inl ⟨isLiteral_inert hquote hinert, fun h =>
        absurd (h.2.1.symm.trans hother) Bool.true_eq_false.mp⟩

theorem readsAs_means_iff (hd : d.Marked) (hquote : IsQuote quote) (hsuits : use.Suits value)
    (hmeans : Means settings d value use meant) :
    ReadsAs ([quote] ++ meant ++ [quote]) (literalAt meant ([quote] ++ meant ++ [quote])) ↔
      ¬ BreaksLine settings value use := by
  obtain ⟨hliteral, hwhole⟩ | ⟨hbreaks, name, hname, rfl⟩ := literal_or_newline hd hquote hsuits hmeans
  · exact iff_of_true hliteral.readsAs hwhole
  · refine iff_of_false (fun hreads => ?_) (not_not_intro hbreaks)
    let written : Text := [quote] ++ (name ++ ("\n" : Text)) ++ [quote]
    let cur : Cursor := ⟨written, 0, 1, [], false, written.length⟩
    have hblanks : cur.skipBlanks = .ok cur :=
      Cursor.skipBlanks_of_solid rfl (Cursor.isSolid_of_isQuote hquote)
    obtain ⟨u, -, -, hstands⟩ :=
      hreads.comes 1 cur cur (State.initial []) [] hblanks (List.append_nil _).symm le_rfl
    rw [List.append_nil] at hstands
    exact not_stands_newline hquote hname hstands

theorem leavesOperand_means (hd : d.Marked) (hquote : IsQuote quote) (hsuits : use.Suits value)
    (hmeans : Means settings d value use meant) : LeavesOperand ([quote] ++ meant ++ [quote]) := by
  intro valid levels s tail hstands start maybeAsync fuel e
  obtain ⟨hliteral, -⟩ | ⟨-, name, hname, rfl⟩ := literal_or_newline hd hquote hsuits hmeans
  · exact hliteral.callChain hstands start maybeAsync fuel e
  · rw [List.append_assoc] at hstands
    exact absurd hstands (not_stands_newline hquote hname)

/-- How a string that is rewritten is read again. -/
inductive Reread (settings : Settings) (d : Context) (value : Text) (quote : CodePoint) (use : StringUse)
    (text : Text) : Prop
  /-- What names something is a string literal with that name as its value, unless it breaks the line. -/
  | name (meant : Text) (means : Means settings d value use meant)
      (written : text = [quote] ++ meant ++ [quote])
      (reads : ReadsAs text (literalAt meant text) ↔ ¬ BreaksLine settings value use)
      (leaves : LeavesOperand text)
  /-- A text that is cut is the sum of its pieces, if there are any.  Behind an operand it is the argument
  of a call. -/
  | pieces (phrase : use = .phrase) (parts : List Text) (pieces : d.HasPieces value parts)
      (written : text = chained parts) (reads : ReadsAs text (sumTree parts) ↔ parts ≠ [])
      (calls : parts ≠ [] → CallsOperand text (sumTree parts))

/-- What stands in the places of all strings of a script that are rewritten. -/
def StringsReread (settings : Settings) (source : Text) (t : Tree) (d : Context) (edits : Edits)
    (output : Text) : Prop :=
  ∀ p ∈ places t, p.isSpared = false → ∀ value quote range, stringValue? p.node = some value →
    Quoted p.node quote → rangeOf p.node = .ok range → p.use settings value ≠ .other →
      (∃ before after, Edits.spliceUpTo source 0 edits.sorted range = .ok before ∧
        output = before ++ Edits.textAt source edits range ++ after) ∧
      Reread settings d value quote (p.use settings value) (Edits.textAt source edits range)

variable {source output : Text} {marks : List Mark} {b : Bindings} {isModule : Bool}

theorem stringsReread_of_answers {t : Tree} (h : IsProgram t) (hspaced : Spaced t)
    (hb : Describes isModule t b) (hd : d.Marked)
    (hmarks : d.Answers (visit (viewOf settings source b) t.depth [] [] t) marks)
    (happly : (editsIn marks).apply source = .ok output) :
    StringsReread settings source t d (editsIn marks) output := by
  intro p hp hspared value quote range hvalue hquoted hrange huse
  obtain ⟨written, hwritten, htext, hstands⟩ :=
    exists_written h hspaced hb hmarks happly hp hspared hvalue hrange huse
  refine ⟨hstands, ?_⟩
  rw [hquoted.quoteOf_eq] at hwritten
  have hsuits := suits_use settings p value
  by_cases hname : (p.use settings value).isName = true
  · obtain ⟨meant, hmeans, htext⟩ := exists_means hname hwritten htext
    rw [htext]
    exact .name meant hmeans rfl (readsAs_means_iff hd hquoted.isQuote hsuits hmeans)
      (leavesOperand_means hd hquoted.isQuote hsuits hmeans)
  · have hphrase : p.use settings value = .phrase := by
      cases hother : p.use settings value with
      | phrase => rfl
      | other => exact absurd hother huse
      | _ => simp [hother, StringUse.isName] at hname
    rw [hphrase] at hwritten ⊢
    obtain rfl := Option.some.inj hwritten
    obtain ⟨_, ⟨parts, hpieces, rfl⟩, hchained⟩ := Context.answers_bind.mp htext
    rw [← Context.answers_pure.mp hchained]
    exact .pieces rfl parts hpieces rfl (readsAs_chained_iff parts) callsOperand_chained

/-- A session in which a text has been cut. -/
def cutBefore : Context :=
  .ofMappings "" { Mappings.empty with textChunks := [("hello world", "33311")] } (Twister.ofSeed 0)

theorem marked_cutBefore : cutBefore.Marked := by
  intro naming original tok hmem
  cases naming <;> cases hmem

end VeiledGateway.Script
