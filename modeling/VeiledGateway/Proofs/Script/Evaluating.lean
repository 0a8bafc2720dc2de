/-
  Evaluating: the value of a string in a script.

  A script counts strings in code units.  `evaluate` reads a string literal of ECMAScript, or a sum of
  such literals in parentheses, code point by code point, and gives the code units of its value.  A text
  that is cut into pieces comes out as it was, wherever it was cut, and what is written for it is
  printable ASCII without angle brackets that were not there.  The lexer of scripts reads a piece that is
  written in quotes as its code units, too.
-/
import VeiledGateway.Proofs.Context.Demanding
import VeiledGateway.Proofs.Context.Linking
import VeiledGateway.Proofs.Number.Digits
import VeiledGateway.Proofs.Script.Marking

set_option autoImplicit false

namespace VeiledGateway

/-- A text gets its pieces unless a layout was stored for it that is no layout of digits. -/
theorem Context.run_textPieces {c : Context} {text : Text}
    (h : ∀ layout, c.textChunks.value? text = some layout → Layout.IsDigits layout) :
    ∃ parts d, c.run (Rewriting.textPieces text) = (.ok parts, d, []) ∧ parts.flatten = text := by
  have hgrants : c.Grants (.pieces text) := fun layout hold => (h layout hold).exists_split text
  obtain ⟨parts, hparts⟩ := grants_pieces_iff.mp hgrants
  have hanswer : c.answerPieces text = (.ok parts, (c.answerPieces text).2) := Prod.ext hparts rfl
  refine ⟨parts, (c.answerPieces text).2, ?_, (hasPieces_of_answerPieces hanswer).flatten⟩
  rw [Rewriting.textPieces, run, hanswer]
  rfl

end VeiledGateway

namespace VeiledGateway.Script

/-! ## String literals -/

/-- How far the inside of a string literal has been read. -/
inductive LiteralState where
  | plain
  /-- Behind a backslash. -/
  | escaped
  /-- Behind the letter of an escape by code, where so many hexadecimal digits are still to come. -/
  | code (left value : Nat)
  /-- Behind the letter of an escape by code that may have a brace. -/
  | unicode
  /-- Behind that brace, and behind digits if there is a value. -/
  | braced (value : Option Nat)
  /-- Behind a digit of an octal escape, where up to so many more may come. -/
  | octal (left value : Nat)
  /-- Behind an escaped carriage return; a line feed goes with it. -/
  | carriage

/-- How far a string has been read.  A literal may be one of a sum. -/
inductive Reading where
  | start
  /-- Where a literal of a sum begins. -/
  | operand
  | inside (inSum : Bool) (quote : CodePoint) (s : LiteralState)
  /-- Behind a literal of a sum. -/
  | behind
  | done

namespace Reading

/-- What is read where a literal begins. -/
def opening (inSum : Bool) (c : CodePoint) : Option (List Nat × Reading) :=
  if c == '"' || c == '\'' then some ([], .inside inSum c .plain) else none

section Inside

variable (inSum : Bool) (quote c : CodePoint)

/-- What is read of a literal that no escape precedes. -/
def readPlain : Option (List Nat × Reading) :=
  if c = quote then some ([], if inSum then .behind else .done)
  else if c == '\\' then some ([], .inside inSum quote .escaped)
  else if isLineEnd c then none
  else some (Utf16.unitsOf c, .inside inSum quote .plain)

/-- What is read of a literal behind a backslash. -/
def readEscaped : Option (List Nat × Reading) :=
  if c == 'u' then some ([], .inside inSum quote .unicode)
  else if c == 'x' then some ([], .inside inSum quote (.code 2 0))
  else if c == '\r' then some ([], .inside inSum quote .carriage)
  else if isLineEnd c then some ([], .inside inSum quote .plain)
  else
    match Cursor.letterEscape? c with
    | some d => some (Utf16.unitsOf d, .inside inSum quote .plain)
    | none =>
      if Cursor.isOctalDigit c then
        some ([], .inside inSum quote (.octal (if c.val < 0x34 then 2 else 1) (c.val - 0x30)))
      else some (Utf16.unitsOf c, .inside inSum quote .plain)

/-- What is read of a literal where a digit of a code is to come. -/
def readDigit (left value : Nat) : Option (List Nat × Reading) :=
  c.hexValue?.map fun digit =>
    let value := value * 16 + digit
    if left ≤ 1 then ([value], .inside inSum quote .plain)
    else ([], .inside inSum quote (.code (left - 1) value))

/-- What is read of a literal within the braces of a code. -/
def readBraced (value : Option Nat) : Option (List Nat × Reading) :=
  match c.hexValue? with
  | some digit => some ([], .inside inSum quote (.braced (some (value.getD 0 * 16 + digit))))
  | none =>
    if c == '}' then
      (value.bind CodePoint.ofNat?).map fun d => (Utf16.unitsOf d, .inside inSum quote .plain)
    else none

/-- What is read of a literal, by what precedes. -/
def readInside : LiteralState → Option (List Nat × Reading)
  | .plain => readPlain inSum quote c
  | .escaped => readEscaped inSum quote c
  | .code left value => readDigit inSum quote c left value
  | .unicode =>
    if c == '{' then some ([], .inside inSum quote (.braced none)) else readDigit inSum quote c 4 0
  | .braced value => readBraced inSum quote c value
  | .octal left value =>
    if 0 < left && Cursor.isOctalDigit c then
      some ([], .inside inSum quote (.octal (left - 1) (value * 8 + (c.val - 0x30))))
    else (readPlain inSum quote c).map fun next => (value :: next.1, next.2)
  | .carriage =>
    if c == '\n' then some ([], .inside inSum quote .plain) else readPlain inSum quote c

end Inside

/-- What a code point adds to the value of a string, and how far has been read with it. -/
def readNext : Reading → CodePoint → Option (List Nat × Reading)
  | .start, c => if c == '(' then some ([], .operand) else opening false c
  | .operand, c => opening true c
  | .inside inSum quote s, c => readInside inSum quote c s
  | .behind, c =>
    if c == '+' then some ([], .operand)
    else if c == ')' then some ([], .done)
    else none
  | .done, _ => none

/-- The code units of the rest of a string, if it is one. -/
def evaluateFrom : Reading → Text → Option (List Nat)
  | .done, [] => some []
  | _, [] => none
  | r, c :: rest =>
    (readNext r c).bind fun next => (evaluateFrom next.2 rest).map (next.1 ++ ·)

end Reading

/-- The code units of a string literal, or of a sum of string literals in parentheses, without blanks
between them. -/
def evaluate (t : Text) : Option (List Nat) :=
  Reading.evaluateFrom .start t

/-! ## Reading on -/

/-- A text is read from one place to another, and adds code units to the value. -/
def Reads (r : Reading) (t : Text) (units : List Nat) (r' : Reading) : Prop :=
  ∀ rest, r.evaluateFrom (t ++ rest) = (r'.evaluateFrom rest).map (units ++ ·)

variable {r r' r'' : Reading} {t t' rest : Text} {units units' : List Nat} {c : CodePoint}

theorem reads_nil (r : Reading) : Reads r [] [] r := by
  intro rest
  simp

theorem Reads.append (h : Reads r t units r') (h' : Reads r' t' units' r'') :
    Reads r (t ++ t') (units ++ units') r'' := by
  intro rest
  rw [List.append_assoc, h, h', Option.map_map]
  simp [Function.comp_def]

theorem reads_code (h : r.readNext c = some (units, r')) : Reads r [c] units r' := by
  intro rest
  have hstep : r.evaluateFrom (c :: rest) =
      (r.readNext c).bind fun next => (next.2.evaluateFrom rest).map (next.1 ++ ·) := by
    cases r <;> rfl
  rw [List.singleton_append, hstep, h, Option.bind_some]

theorem evaluate_of_reads (h : Reads .start t units .done) : evaluate t = some units := by
  have hall := h []
  rw [List.append_nil] at hall
  rw [evaluate, hall]
  simp [Reading.evaluateFrom]

/-! ## Codes in hexadecimal -/

theorem digitChar_ne_brace {n : Nat} (h : n < 16) :
    (CodePoint.ofChar n.digitChar == CodePoint.ofChar '{') = false := by
  have hall : ∀ m < 16, (CodePoint.ofChar m.digitChar == CodePoint.ofChar '{') = false := by decide
  exact hall n h

/-- The four hexadecimal digits of a code unit. -/
theorem hex_four {n : Nat} (h : n < 0x10000) :
    Text.hex n 4 = [n / 0x1000, n / 0x100 % 0x10, n / 0x10 % 0x10, n % 0x10].map fun digit =>
      CodePoint.ofChar digit.digitChar := by
  have hzero : CodePoint.ofChar '0' = CodePoint.ofChar (Nat.digitChar 0) := rfl
  have hstep {m : Nat} (hm : 16 ≤ m) :
      Nat.toDigits 16 m = Nat.toDigits 16 (m / 16) ++ [(m % 16).digitChar] :=
    Nat.toDigits_of_base_le (by decide) hm
  have hlast {m : Nat} (hm : m < 16) : Nat.toDigits 16 m = [m.digitChar] :=
    Nat.toDigits_of_lt_base hm
  unfold Text.hex
  dsimp only
  rw [hzero]
  by_cases hone : n < 0x10
  · rw [hlast hone, Nat.div_eq_of_lt (by omega), Nat.div_eq_of_lt (by omega), Nat.div_eq_of_lt hone,
      Nat.mod_eq_of_lt hone]
    rfl
  by_cases htwo : n < 0x100
  · rw [hstep (by omega), hlast (by omega), Nat.div_eq_of_lt (by omega : n < 0x1000),
      Nat.div_eq_of_lt htwo, Nat.mod_eq_of_lt (by omega : n / 0x10 < 0x10)]
    rfl
  by_cases hthree : n < 0x1000
  · rw [hstep (by omega), hstep (by omega), hlast (by omega), Nat.div_div_eq_div_mul,
      Nat.div_eq_of_lt hthree, Nat.mod_eq_of_lt (by omega : n / 0x100 < 0x10)]
    rfl
  · have hsecond : n / 16 / 16 = n / 0x100 := by omega
    have hfirst : n / 0x100 / 16 = n / 0x1000 := by omega
    rw [hstep (by omega), hstep (by omega), hstep (by omega), hsecond, hfirst, hlast (by omega)]
    rfl

section Quoted

variable {inSum : Bool}

/-- A digit of a code. -/
theorem reads_digit {quote : CodePoint} {digit : Nat} (h : digit < 16) (left value : Nat) :
    Reads (.inside inSum quote (.code (left + 2) value)) [CodePoint.ofChar digit.digitChar] []
      (.inside inSum quote (.code (left + 1) (value * 16 + digit))) := by
  apply reads_code
  rw [Reading.readNext, Reading.readInside, Reading.readDigit, hexValue?_digitChar h]
  rfl

theorem reads_last_digit {quote : CodePoint} {digit : Nat} (h : digit < 16) (value : Nat) :
    Reads (.inside inSum quote (.code 1 value)) [CodePoint.ofChar digit.digitChar]
      [value * 16 + digit] (.inside inSum quote .plain) := by
  apply reads_code
  rw [Reading.readNext, Reading.readInside, Reading.readDigit, hexValue?_digitChar h]
  rfl

/-- The first digit of a code, where a brace might stand. -/
theorem reads_first_digit {quote : CodePoint} {digit : Nat} (h : digit < 16) :
    Reads (.inside inSum quote .unicode) [CodePoint.ofChar digit.digitChar] []
      (.inside inSum quote (.code 3 digit)) := by
  apply reads_code
  rw [Reading.readNext, Reading.readInside, digitChar_ne_brace h, Reading.readDigit,
    hexValue?_digitChar h]
  simp

/-! ## Texts in quotes -/

/-- Inside of a literal between double quotes, where no escape precedes. -/
abbrev Reading.quoted (inSum : Bool) : Reading :=
  .inside inSum (CodePoint.ofChar '"') .plain

/-- The escape of a code unit stands for it. -/
theorem reads_unitEscape {n : Nat} (h : n < 0x10000) :
    Reads (.quoted inSum) (Json.unitEscape n) [n] (.quoted inSum) := by
  have hslash : Reads (.quoted inSum) [CodePoint.ofChar '\\'] []
      (.inside inSum (CodePoint.ofChar '"') .escaped) := reads_code rfl
  have hletter : Reads (.inside inSum (CodePoint.ofChar '"') .escaped) [CodePoint.ofChar 'u'] []
      (.inside inSum (CodePoint.ofChar '"') .unicode) := reads_code rfl
  have hfirst : Reads (.inside inSum (CodePoint.ofChar '"') .unicode)
      [CodePoint.ofChar (n / 0x1000).digitChar] []
      (.inside inSum (CodePoint.ofChar '"') (.code 3 (n / 0x1000))) := reads_first_digit (by omega)
  have hdigits := ((hfirst.append (reads_digit (by omega : n / 0x100 % 0x10 < 16) 1 _)).append
      (reads_digit (by omega : n / 0x10 % 0x10 < 16) 0 _)).append
        (reads_last_digit (by omega : n % 0x10 < 16) _)
  have hvalue : ((n / 0x1000 * 16 + n / 0x100 % 0x10) * 16 + n / 0x10 % 0x10) * 16 + n % 0x10 = n := by
    omega
  rw [hvalue] at hdigits
  have hall := (hslash.append hletter).append hdigits
  rw [Json.unitEscape, hex_four h]
  exact hall

theorem reads_unitEscapes {ns : List Nat} (h : ∀ n ∈ ns, n < 0x10000) :
    Reads (.quoted inSum) (ns.flatMap Json.unitEscape) ns (.quoted inSum) := by
  induction ns with
  | nil => exact reads_nil _
  | cons n ns ih =>
    obtain ⟨hn, hns⟩ := List.forall_mem_cons.mp h
    exact (reads_unitEscape hn).append (ih hns)

theorem unitsOf_lt (c : CodePoint) : ∀ n ∈ Utf16.unitsOf c, n < 0x10000 := by
  have hlt := c.isLt
  unfold Utf16.unitsOf
  split
  · simpa
  · simp only [List.mem_cons, List.not_mem_nil, or_false, forall_eq_or_imp, forall_eq]
    omega

theorem reads_escape {d : CodePoint}
    (h : Reading.readEscaped inSum (CodePoint.ofChar '"') d = some (units, .quoted inSum)) :
    Reads (.quoted inSum) [CodePoint.ofChar '\\', d] units (.quoted inSum) := by
  have hslash : Reads (.quoted inSum) [CodePoint.ofChar '\\'] []
      (.inside inSum (CodePoint.ofChar '"') .escaped) := reads_code rfl
  exact hslash.append (reads_code h)

/-- What is written for a code point in quotes stands for its code units. -/
theorem reads_quoteCode (c : CodePoint) :
    Reads (.quoted inSum) (Json.quoteCode true c) (Utf16.unitsOf c) (.quoted inSum) := by
  unfold Json.quoteCode Json.shortEscape?
  by_cases hquote : c = CodePoint.ofChar '"'
  · subst hquote
    exact reads_escape (d := CodePoint.ofChar '"') rfl
  by_cases hslash : c = CodePoint.ofChar '\\'
  · subst hslash
    exact reads_escape (d := CodePoint.ofChar '\\') rfl
  by_cases hn : c = CodePoint.ofChar '\n'
  · subst hn
    exact reads_escape rfl
  by_cases hr : c = CodePoint.ofChar '\r'
  · subst hr
    exact reads_escape rfl
  by_cases ht : c = CodePoint.ofChar '\t'
  · subst ht
    exact reads_escape rfl
  by_cases hf : c = CodePoint.ofChar '\x0C'
  · subst hf
    exact reads_escape rfl
  by_cases hb : c = CodePoint.ofChar '\x08'
  · subst hb
    exact reads_escape rfl
  simp only [beq_iff_eq, hquote, hslash, hn, hr, ht, hf, hb, if_false, Bool.true_and]
  by_cases hcontrol : c.val < 0x20
  · have hunits : Utf16.unitsOf c = [c.val] := if_pos (by omega)
    rw [if_pos hcontrol, hunits]
    exact reads_unitEscape (by omega)
  rw [if_neg hcontrol]
  by_cases hbeyond : 0x7E < c.val
  · rw [if_pos (by simpa using hbeyond)]
    exact reads_unitEscapes (unitsOf_lt c)
  · rw [if_neg (by simpa using hbeyond)]
    have hline : isLineEnd c = false := by
      simp only [isLineEnd, Bool.or_eq_false_iff, beq_eq_false_iff_ne]
      omega
    apply reads_code
    rw [Reading.readNext, Reading.readInside, Reading.readPlain, if_neg hquote,
      if_neg (by simpa using hslash), hline]
    rfl

theorem reads_quoted (t : Text) :
    Reads (.quoted inSum) (t.flatMap (Json.quoteCode true)) (Utf16.units t) (.quoted inSum) := by
  induction t with
  | nil => exact reads_nil _
  | cons c t ih => exact (reads_quoteCode c).append ih

end Quoted

/-- A text in quotes, among others that are added up. -/
theorem reads_quoteAscii (t : Text) : Reads .operand (Json.quoteAscii t) (Utf16.units t) .behind := by
  have hopen : Reads .operand "\"" [] (.quoted true) := reads_code rfl
  have hclose : Reads (.quoted true) "\"" [] .behind := reads_code rfl
  have hall := (hopen.append (reads_quoted t)).append hclose
  rwa [List.nil_append, List.append_nil] at hall

/-! ## Pieces -/

/-- Pieces that are added up have the value of the whole. -/
theorem reads_join {parts : List Text} (h : parts ≠ []) :
    Reads .operand (Text.join "+" (parts.map Json.quoteAscii)) (Utf16.units parts.flatten) .behind := by
  induction parts with
  | nil => exact absurd rfl h
  | cons part rest ih =>
    have hunits : Utf16.units (part :: rest).flatten = Utf16.units part ++ Utf16.units rest.flatten := by
      simp [Utf16.units]
    rw [hunits]
    cases rest with
    | nil =>
      have hempty : Utf16.units [] = [] := rfl
      rw [List.flatten_nil, hempty, List.append_nil]
      exact reads_quoteAscii part
    | cons next others =>
      have hplus : Reads .behind "+" [] .operand := reads_code rfl
      have hall := ((reads_quoteAscii part).append hplus).append (ih (List.cons_ne_nil _ _))
      rwa [List.append_nil] at hall

theorem evaluate_chained {parts : List Text} (h : parts ≠ []) :
    evaluate (chained parts) = some (Utf16.units parts.flatten) := by
  have hopen : Reads .start "(" [] .operand := reads_code rfl
  have hclose : Reads .behind ")" [] .done := reads_code rfl
  have hall := (hopen.append (reads_join h)).append hclose
  rw [List.nil_append, List.append_nil] at hall
  exact evaluate_of_reads hall

/-! ## What is written -/

/-- The code points that are written around those of a text. -/
def isScaffold (c : CodePoint) : Bool :=
  Token.isMark c || c == '\\' || c == '"' || c == '(' || c == '+' || c == ')'

theorem isScaffold_unitEscape (n : Nat) : ∀ d ∈ Json.unitEscape n, isScaffold d = true := by
  intro d hd
  rcases List.mem_append.mp hd with hletter | hdigit
  · rcases List.mem_pair.mp hletter with rfl | rfl <;> decide
  · simp [isScaffold, Token.isMark_hex n 4 d hdigit]

theorem isScaffold_shortEscape {c : CodePoint} {escape : Text}
    (h : Json.shortEscape? c = some escape) : ∀ d ∈ escape, isScaffold d = true := by
  unfold Json.shortEscape? at h
  repeat' split at h
  all_goals cases h <;> decide

/-- A code point stands for itself in quotes only if it is printable. -/
theorem mem_quoteCode {c d : CodePoint} (h : d ∈ Json.quoteCode true c) :
    isScaffold d = true ∨ d = c ∧ 0x20 ≤ d.val ∧ d.val ≤ 0x7E := by
  unfold Json.quoteCode at h
  split at h
  · rename_i escape hescape
    exact .inl (isScaffold_shortEscape hescape d h)
  · split at h
    · exact .inl (isScaffold_unitEscape _ d h)
    · split at h
      · obtain ⟨n, -, hn⟩ := List.mem_flatMap.mp h
        exact .inl (isScaffold_unitEscape n d hn)
      · rename_i hcontrol hbeyond
        obtain rfl := List.mem_singleton.mp h
        simp only [Bool.true_and, decide_eq_true_eq] at hbeyond
        exact .inr ⟨rfl, by omega, by omega⟩

theorem mem_join {sep : Text} {parts : List Text} {d : CodePoint} (h : d ∈ Text.join sep parts) :
    d ∈ sep ∨ ∃ part ∈ parts, d ∈ part := by
  induction parts with
  | nil => exact absurd h List.not_mem_nil
  | cons part rest ih =>
    cases rest with
    | nil => exact .inr ⟨part, List.mem_cons_self, h⟩
    | cons next others =>
      rcases List.mem_append.mp h with hfirst | hrest
      · rcases List.mem_append.mp hfirst with hpart | hsep
        · exact .inr ⟨part, List.mem_cons_self, hpart⟩
        · exact .inl hsep
      · rcases ih hrest with hsep | ⟨other, hother, hd⟩
        · exact .inl hsep
        · exact .inr ⟨other, List.mem_cons_of_mem _ hother, hd⟩

theorem mem_chained {parts : List Text} {d : CodePoint} (h : d ∈ chained parts) :
    isScaffold d = true ∨ d ∈ parts.flatten ∧ 0x20 ≤ d.val ∧ d.val ≤ 0x7E := by
  rcases List.mem_append.mp h with hfirst | hclose
  · rcases List.mem_append.mp hfirst with hopen | hinside
    · obtain rfl := List.mem_singleton.mp hopen
      exact .inl (by decide)
    · rcases mem_join hinside with hplus | ⟨quoted, hquoted, hd⟩
      · obtain rfl := List.mem_singleton.mp hplus
        exact .inl (by decide)
      · obtain ⟨part, hpart, rfl⟩ := List.mem_map.mp hquoted
        rcases List.mem_append.mp hd with hstart | hend
        · rcases List.mem_append.mp hstart with hquote | htext
          · obtain rfl := List.mem_singleton.mp hquote
            exact .inl (by decide)
          · obtain ⟨c, hc, hcode⟩ := List.mem_flatMap.mp htext
            rcases mem_quoteCode hcode with hscaffold | ⟨rfl, hprintable⟩
            · exact .inl hscaffold
            · exact .inr ⟨List.mem_flatten_of_mem hpart hc, hprintable⟩
        · obtain rfl := List.mem_singleton.mp hend
          exact .inl (by decide)
  · obtain rfl := List.mem_singleton.mp hclose
    exact .inl (by decide)

theorem isScaffold_bounds {d : CodePoint} (h : isScaffold d = true) : 0x20 ≤ d.val ∧ d.val ≤ 0x7E := by
  simp only [isScaffold, Bool.or_eq_true, beq_iff_eq] at h
  rcases h with ((((hmark | rfl) | rfl) | rfl) | rfl) | rfl
  · have hbounds := Token.isMark_bounds hmark
    omega
  all_goals decide

theorem chained_printable {parts : List Text} {d : CodePoint} (h : d ∈ chained parts) :
    0x20 ≤ d.val ∧ d.val ≤ 0x7E := by
  rcases mem_chained h with hscaffold | ⟨-, hprintable⟩
  · exact isScaffold_bounds hscaffold
  · exact hprintable

theorem angle_chained {parts : List Text} (h : CodePoint.ofChar '<' ∈ chained parts) :
    CodePoint.ofChar '<' ∈ parts.flatten := by
  rcases mem_chained h with hscaffold | ⟨hmem, -⟩
  · cases hscaffold
  · exact hmem

/-! ## Strings that are cut -/

/-- A string whose text is cut into pieces: a long one without angle brackets that is no bare word. -/
structure IsCut (v : View) (t : Tree) (value : Text) : Prop where
  string : stringValue? t = some value
  flat : value.any (fun c => c == '<' || c == '>') = false
  long : v.settings.minLiteralLength ≤ (value.length : Int)
  phrase : isBareWord value = false

/-- Pieces from which a script puts a text together again: they have its code units, and what is
written for them neither ends the line nor opens a tag. -/
structure Rejoins (value : Text) (parts : List Text) : Prop where
  units : evaluate (chained parts) = some (Utf16.units value)
  line : ∀ d ∈ chained parts, isLineEnd d = false
  flat : CodePoint.ofChar '<' ∉ value → CodePoint.ofChar '<' ∉ chained parts

theorem rejoins_flatten {parts : List Text} (h : parts.flatten ≠ []) : Rejoins parts.flatten parts := by
  have hparts : parts ≠ [] := by
    rintro rfl
    exact h rfl
  refine ⟨evaluate_chained hparts, ?_, ?_⟩
  · intro d hd
    have hprintable := chained_printable hd
    simp only [isLineEnd, Bool.or_eq_false_iff, beq_eq_false_iff_ne]
    omega
  · intro hvalue hmem
    exact hvalue (angle_chained hmem)

/-- What is done to a string that is cut, once its pieces are known. -/
theorem run_visitString {v : View} {t : Tree} {value : Text} {range : Range} {c d : Context}
    {parts : List Text} (h : IsCut v t value) (hrange : rangeOf t = .ok range)
    (hparts : c.run (Rewriting.textPieces value) = (.ok parts, d, [])) :
    c.run (visitString v t) =
      (.ok ((editIfNew v.source range (chained parts)).map (Mark.edit range)).toList, d, []) := by
  obtain ⟨hvalue, hflat, hlong, hphrase⟩ := h
  have hedit : d.run (editTo v t (chained parts)) =
      (.ok ((editIfNew v.source range (chained parts)).map (Mark.edit range)).toList, d, []) := by
    rw [editTo, hrange]
    unfold editIfNew
    by_cases hslice : Text.slice v.source range.start range.stop = chained parts
    · simp [hslice, Rewriting.ofExcept, bind, Rewriting.bind, pure, Context.run]
    · simp [hslice, Rewriting.ofExcept, bind, Rewriting.bind, pure, Context.run]
  unfold visitString
  rw [hvalue]
  dsimp only
  rw [hflat, if_neg (by simp), if_neg (by omega), hphrase, if_neg (by simp), Context.run_bind, hparts]
  dsimp only
  rw [hedit, List.nil_append]

/-- A text that is not empty gets pieces, unless a layout was stored for it that is no layout of digits;
a script puts them together to its code units, wherever it was cut; and they are what is written for
every string of that text that is cut. -/
theorem cut_string_keeps_value {c : Context} {value : Text} (hvalue : value ≠ [])
    (hlayouts : ∀ layout, c.textChunks.value? value = some layout → Layout.IsDigits layout) :
    ∃ parts d, c.run (Rewriting.textPieces value) = (.ok parts, d, []) ∧ Rejoins value parts ∧
      ∀ (v : View) (t : Tree) (range : Range), IsCut v t value → rangeOf t = .ok range →
        c.run (visitString v t) =
          (.ok ((editIfNew v.source range (chained parts)).map (Mark.edit range)).toList, d, []) := by
  obtain ⟨parts, d, hrun, rfl⟩ := Context.run_textPieces hlayouts
  refine ⟨parts, d, hrun, rejoins_flatten hvalue, ?_⟩
  intro v t range hcut hrange
  exact run_visitString hcut hrange hrun

/-- A text with ends of lines, half of a pair, a whole pair, a quote and a word. -/
def mixedText : Text :=
  [CodePoint.ofNat 0x2028, CodePoint.ofNat 0xD83D, CodePoint.ofNat 0x1F600] ++ ("\n\"end" : Text)

/-- A context in which that text has a layout that was made for a shorter one, with an empty piece. -/
def staleContext : Context :=
  Context.ofMappings "k" { Mappings.empty with textChunks := [(mixedText, "021")] } (Twister.ofSeed 0)

/-- That text is cut into an empty piece, two and one code points and what is left over. -/
theorem mixedText_keeps_value :
    (mixedText ≠ [] ∧
      ∀ layout, staleContext.textChunks.value? mixedText = some layout → Layout.IsDigits layout) ∧
    ∃ parts d, staleContext.run (Rewriting.textPieces mixedText) = (.ok parts, d, []) ∧
      parts.map List.length = [0, 2, 1, 5] ∧ Rejoins mixedText parts := by
  have hvalue : mixedText ≠ [] := by decide
  have hlayouts : ∀ layout, staleContext.textChunks.value? mixedText = some layout →
      Layout.IsDigits layout := by
    intro layout hlayout
    obtain rfl : ("021" : Text) = layout := Option.some.inj hlayout
    unfold Layout.IsDigits
    decide
  refine ⟨⟨hvalue, hlayouts⟩, ?_⟩
  obtain ⟨parts, d, hrun, hrejoins, -⟩ := cut_string_keeps_value hvalue hlayouts
  refine ⟨parts, d, hrun, ?_, hrejoins⟩
  have hlengths : (staleContext.run (Rewriting.textPieces mixedText)).1.toOption.map
      (List.map List.length) = some [0, 2, 1, 5] := by decide
  rw [hrun] at hlengths
  exact Option.some.inj hlengths

/-! ## Literals as they are lexed

A string comes to the same code units when a script is read, with a code point for each of them. -/

/-- A text as a script counts it: a code point for each code unit. -/
def unitCodes (t : Text) : Text :=
  (Utf16.units t).map CodePoint.ofNat

namespace Cursor

variable {cur : Cursor} {c d quote : CodePoint} {tail text body body' value value' : Text}

theorem move_move (cur : Cursor) (m n : Nat) : (cur.move m).move n = cur.move (m + n) := by
  simp [move, Nat.add_assoc, List.drop_drop]

theorem rest_move (h : cur.rest = text ++ tail) : (cur.move text.length).rest = tail := by
  simp [move, h]

/-- Between quotes a text is read as a value, in so many steps at most as it has code points. -/
def Spells (quote : CodePoint) (body value : Text) : Prop :=
  ∃ steps ≤ body.length, ∀ (fuel : Nat) (cur : Cursor) (tail : Text), cur.rest = body ++ tail →
    stringBody quote (steps + fuel) cur =
      (stringBody quote fuel (cur.move body.length)).map fun read => (value ++ read.1, read.2)

theorem spells_nil (quote : CodePoint) : Spells quote [] [] := by
  refine ⟨0, le_rfl, fun fuel cur tail _ => ?_⟩
  have hmove : cur.move ([] : Text).length = cur := by simp [move]
  rw [Nat.zero_add, hmove]
  cases stringBody quote fuel cur <;> rfl

theorem Spells.append (h : Spells quote body value) (h' : Spells quote body' value') :
    Spells quote (body ++ body') (value ++ value') := by
  obtain ⟨steps, hsteps, hread⟩ := h
  obtain ⟨steps', hsteps', hread'⟩ := h'
  refine ⟨steps + steps', by rw [List.length_append]; omega, fun fuel cur tail hrest => ?_⟩
  rw [List.append_assoc] at hrest
  rw [Nat.add_assoc, hread _ cur _ hrest, hread' fuel _ tail (rest_move hrest), move_move,
    List.length_append]
  cases stringBody quote fuel (cur.move (body.length + body'.length)) with
  | error fault => rfl
  | ok read => simp [Except.map]

theorem spells_plain (hquote : c ≠ quote) (hslash : c ≠ CodePoint.ofChar '\\')
    (hline : isLineEnd c = false) : Spells quote [c] [c] := by
  refine ⟨1, le_rfl, fun fuel cur tail hrest => ?_⟩
  rw [Nat.add_comm, stringBody, hrest]
  simp only [List.singleton_append, if_neg hquote, beq_iff_eq, hslash, hline, if_false,
    Bool.false_eq_true, List.length_singleton]
  cases stringBody quote fuel (cur.move 1) <;> rfl

/-- An escape, with what follows its first code point. -/
theorem spells_escape (hquote : quote ≠ CodePoint.ofChar '\\') (hline : isLineEnd d = false)
    (h : ∀ cur tail, cur.rest = d :: body ++ tail →
      stringEscape cur = .ok (value, cur.move (body.length + 1), false)) :
    Spells quote (CodePoint.ofChar '\\' :: d :: body) value := by
  refine ⟨1, by simp, fun fuel cur tail hrest => ?_⟩
  have hmoved : (cur.move 1).rest = d :: body ++ tail := by simp [move, hrest]
  have hend : (cur.move 1).atEnd = false := by rw [atEnd, hmoved]; rfl
  have hpeek : (cur.move 1).peek = d := by rw [peek, hmoved]; rfl
  have hlength : (CodePoint.ofChar '\\' :: d :: body).length = 1 + (body.length + 1) := by
    simp only [List.length_cons]
    omega
  rw [Nat.add_comm, stringBody, hrest, hlength]
  simp only [List.cons_append, if_neg hquote.symm, beq_self_eq_true, if_true, hend, hpeek, hline,
    if_false, Bool.false_eq_true, h _ tail hmoved, move_move]
  show (stringBody quote fuel _ >>= _) = _
  cases stringBody quote fuel (cur.move (1 + (body.length + 1))) <;> rfl

theorem hexCode?_digits {digits : List Nat} (h : ∀ digit ∈ digits, digit < 16) (n : Nat)
    (hrest : cur.rest = (digits.map fun digit => CodePoint.ofChar digit.digitChar) ++ tail) :
    hexCode? digits.length n cur
      = some (digits.foldl (fun n digit => n * 16 + digit) n, cur.move digits.length) := by
  induction digits generalizing n cur with
  | nil => simp [hexCode?, move]
  | cons digit digits ih =>
    obtain ⟨hdigit, hdigits⟩ := List.forall_mem_cons.mp h
    have hmoved : (cur.move 1).rest
        = (digits.map fun digit => CodePoint.ofChar digit.digitChar) ++ tail := by
      simp [move, hrest]
    rw [List.length_cons, hexCode?, hrest]
    simp only [List.map_cons, List.cons_append, hexValue?_digitChar hdigit]
    rw [ih hdigits _ hmoved, move_move, Nat.add_comm 1, List.foldl_cons]

/-- The escape of a code unit stands for a code point of its own. -/
theorem spells_unitEscape {n : Nat} (h : n < 0x10000) :
    Spells (CodePoint.ofChar '"') (Json.unitEscape n) [CodePoint.ofNat n] := by
  rw [Json.unitEscape, hex_four h]
  refine spells_escape (d := CodePoint.ofChar 'u') (by decide) (by decide) fun cur tail hrest => ?_
  have hdigits : ∀ digit ∈ [n / 0x1000, n / 0x100 % 0x10, n / 0x10 % 0x10, n % 0x10], digit < 16 := by
    simp only [List.forall_mem_cons, List.not_mem_nil, false_implies, implies_true, and_true]
    omega
  have hmoved : (cur.move 1).rest = ([n / 0x1000, n / 0x100 % 0x10, n / 0x10 % 0x10, n % 0x10].map
      fun digit => CodePoint.ofChar digit.digitChar) ++ tail := by
    simp [move, hrest]
  have hvalue : [n / 0x1000, n / 0x100 % 0x10, n / 0x10 % 0x10, n % 0x10].foldl
      (fun n digit => n * 16 + digit) 0 = n := by
    simp only [List.foldl_cons, List.foldl_nil]
    omega
  have hpeek : cur.peek = CodePoint.ofChar 'u' := by rw [peek, hrest]; rfl
  have hbrace : (cur.peekAt 1 == CodePoint.ofChar '{') = false := by
    rw [peekAt, hrest]
    exact digitChar_ne_brace (by omega)
  have hcode : hexCode? 4 0 (cur.move 1) = some (n, (cur.move 1).move 4) := by
    have hread := hexCode?_digits hdigits 0 hmoved
    rwa [hvalue] at hread
  rw [stringEscape, hpeek, hbrace, hcode, move_move]
  rfl

theorem spells_unitEscapes {ns : List Nat} (h : ∀ n ∈ ns, n < 0x10000) :
    Spells (CodePoint.ofChar '"') (ns.flatMap Json.unitEscape) (ns.map CodePoint.ofNat) := by
  induction ns with
  | nil => exact spells_nil _
  | cons n ns ih =>
    obtain ⟨hn, hns⟩ := List.forall_mem_cons.mp h
    exact (spells_unitEscape hn).append (ih hns)

/-- An escape of one letter. -/
theorem spells_letter (hline : isLineEnd d = false)
    (h : ∀ cur : Cursor, cur.peek = d → stringEscape cur = .ok (value, cur.move 1, false)) :
    Spells (CodePoint.ofChar '"') [CodePoint.ofChar '\\', d] value :=
  spells_escape (by decide) hline fun cur tail hrest => h cur (by rw [peek, hrest]; rfl)

theorem spells_shortEscape {escape : Text} (h : Json.shortEscape? c = some escape) :
    Spells (CodePoint.ofChar '"') escape ((Utf16.unitsOf c).map CodePoint.ofNat) := by
  unfold Json.shortEscape? at h
  repeat' split at h
  all_goals
    first
    | contradiction
    | rename_i heq
      obtain rfl := beq_iff_eq.mp heq
      obtain rfl := Option.some.inj h
      exact spells_letter (by decide) fun cur hpeek => by rw [stringEscape, hpeek]; rfl

/-- What is written for a code point in quotes is read as its code units. -/
theorem spells_quoteCode (c : CodePoint) :
    Spells (CodePoint.ofChar '"') (Json.quoteCode true c) ((Utf16.unitsOf c).map CodePoint.ofNat) := by
  have hunits : c.val < 0x10000 → (Utf16.unitsOf c).map CodePoint.ofNat = [c] := fun hlow => by
    rw [Utf16.unitsOf, if_pos hlow, List.map_singleton, CodePoint.ofNat_val]
  unfold Json.quoteCode
  split
  · rename_i escape hescape
    exact spells_shortEscape hescape
  · rename_i hnone
    split
    · have hunit : Spells (CodePoint.ofChar '"') (Json.unitEscape c.val) [CodePoint.ofNat c.val] :=
        spells_unitEscape (by omega)
      rwa [CodePoint.ofNat_val, ← hunits (by omega)] at hunit
    · split
      · exact spells_unitEscapes (unitsOf_lt c)
      · rename_i hcontrol hbeyond
        have hlow : c.val ≤ 0x7E := by simpa using hbeyond
        have hline : isLineEnd c = false := by
          simp only [isLineEnd, Bool.or_eq_false_iff, beq_eq_false_iff_ne]
          omega
        rw [hunits (by omega)]
        refine spells_plain ?_ ?_ hline
        · rintro rfl
          cases hnone
        · rintro rfl
          cases hnone

theorem spells_quoted (t : Text) :
    Spells (CodePoint.ofChar '"') (t.flatMap (Json.quoteCode true)) (unitCodes t) := by
  induction t with
  | nil => exact spells_nil _
  | cons c t ih =>
    have hall := (spells_quoteCode c).append ih
    simpa [unitCodes, Utf16.units] using hall

/-- What is read of a string up to a place in it, with fuel left to go on. -/
theorem Spells.behind_quote (hbody : Spells quote body value)
    (hrest : cur.rest = quote :: (body ++ c :: tail)) (hfits : cur.rest.length ≤ cur.size) :
    (cur.move (body.length + 1)).rest = c :: tail ∧
      ∃ fuel, stringBody cur.peek cur.size (cur.move 1) =
        (stringBody quote (fuel + 1) (cur.move (body.length + 1))).map fun read =>
          (value ++ read.1, read.2) := by
  obtain ⟨steps, hsteps, hread⟩ := hbody
  have hpeek : cur.peek = quote := by rw [peek, hrest]; rfl
  have hmoved : (cur.move 1).rest = body ++ c :: tail := by simp [move, hrest]
  have hbehind : (cur.move 1).move body.length = cur.move (body.length + 1) := by
    rw [move_move, Nat.add_comm]
  have hlength : body.length + 2 ≤ cur.size := by
    refine le_trans ?_ hfits
    rw [hrest, List.length_cons, List.length_append, List.length_cons]
    omega
  obtain ⟨fuel, hfuel⟩ : ∃ fuel, cur.size = steps + (fuel + 1) := ⟨cur.size - steps - 1, by omega⟩
  refine ⟨hbehind ▸ rest_move hmoved, fuel, ?_⟩
  rw [hpeek, hfuel, hread _ _ _ hmoved, hbehind]

/-- A string is read up to the quote that closes it. -/
theorem string_of_spells (hbody : Spells quote body value)
    (hrest : cur.rest = [quote] ++ body ++ [quote] ++ tail) (hfits : cur.rest.length ≤ cur.size) :
    cur.string = .ok
      (lexeme cur (cur.move (body.length + 2)) .string value, cur.move (body.length + 2)) := by
  obtain ⟨hclose, fuel, hread⟩ := hbody.behind_quote (by simpa using hrest) hfits
  have hend : stringBody quote (fuel + 1) (cur.move (body.length + 1))
      = .ok ([], cur.move (body.length + 2), false) := by
    rw [stringBody, hclose]
    simp only [if_true, move_move]
  rw [string, hread, hend]
  simp [Except.map, bind, Except.bind, lexeme]

/-- A string does not go on behind the end of a line. -/
theorem string_newline (hbody : Spells quote body value) (hquote : quote ≠ CodePoint.ofChar '\n')
    (hrest : cur.rest = [quote] ++ (body ++ ("\n" : Text)) ++ tail) (hfits : cur.rest.length ≤ cur.size) :
    ∃ fault, cur.string = .error fault := by
  have hnewline : cur.rest = quote :: (body ++ CodePoint.ofChar '\n' :: tail) := by
    rw [hrest, show Text.ofString "\n" = [CodePoint.ofChar '\n'] from rfl]
    simp
  obtain ⟨hclose, fuel, hread⟩ := hbody.behind_quote hnewline hfits
  have hfails : stringBody quote (fuel + 1) (cur.move (body.length + 1))
      = (cur.move (body.length + 1)).fail .illegal := by
    rw [stringBody, hclose]
    simp only [if_neg hquote.symm]
    rfl
  rw [string, hread, hfails]
  exact ⟨_, rfl⟩

end Cursor

end VeiledGateway.Script
