/-
  Strings that name something.

  A string that is taken for a class, for the identity of an element or for a selector of one keeps its
  quotes, and between them stands what its name is exchanged for.  Nothing is escaped there, and nothing
  needs to be: tokens and words hold no quote, no backslash and no end of a line.  The one exception is a
  class that is excluded and has the end of a line behind it.
-/
import VeiledGateway.Proofs.Context.Minting
import VeiledGateway.Proofs.Edits.Splicing
import VeiledGateway.Proofs.Script.Strings

set_option autoImplicit false

namespace VeiledGateway.Script

/-! ## Between quotes -/

/-- A quote of a script. -/
def IsQuote (c : CodePoint) : Prop :=
  c = '"' ∨ c = '\''

/-- A code point of a word, or the sign of a selector. -/
def isInert (c : CodePoint) : Bool :=
  isWordPart c || c == '#' || c == '.'

variable {quote c : CodePoint} {t : Text}

theorem isLineEnd_of_isInert (h : isInert c = true) : isLineEnd c = false := by
  refine Bool.eq_false_iff.mpr fun hend => ?_
  have hvalue : c.val = 0x0A ∨ c.val = 0x0D ∨ c.val = 0x2028 ∨ c.val = 0x2029 := by
    simpa [isLineEnd, or_assoc] using hend
  have hcode : c = CodePoint.ofNat c.val := (CodePoint.ofNat_val c).symm
  obtain hvalue | hvalue | hvalue | hvalue := hvalue <;> rw [hvalue] at hcode <;> subst hcode <;>
    exact absurd h (by decide)

/-- Such a code point stands for itself between quotes. -/
theorem reads_inert_code (hquote : IsQuote quote) (h : isInert c = true) :
    Reads (.inside false quote .plain) [c] (Utf16.unitsOf c) (.inside false quote .plain) := by
  refine reads_code ?_
  have hne : c ≠ quote := by
    rintro rfl
    obtain rfl | rfl := hquote <;> exact absurd h (by decide)
  have hbackslash : (c == CodePoint.ofChar '\\') = false := by
    refine beq_eq_false_iff_ne.mpr ?_
    rintro rfl
    exact absurd h (by decide)
  simp only [Reading.readNext, Reading.readInside, Reading.readPlain, if_neg hne, hbackslash,
    isLineEnd_of_isInert h, Bool.false_eq_true, if_false]

theorem reads_inert (hquote : IsQuote quote) (h : ∀ c ∈ t, isInert c = true) :
    Reads (.inside false quote .plain) t (Utf16.units t) (.inside false quote .plain) := by
  induction t with
  | nil => exact reads_nil _
  | cons c rest ih =>
    obtain ⟨hc, hrest⟩ := List.forall_mem_cons.mp h
    exact (reads_inert_code hquote hc).append (ih hrest)

theorem reads_quote (hquote : IsQuote quote) : Reads .start [quote] [] (.inside false quote .plain) := by
  refine reads_code ?_
  obtain rfl | rfl := hquote <;> rfl

/-- Between quotes a text of such code points is the value of a string. -/
theorem evaluate_inert (hquote : IsQuote quote) (h : ∀ c ∈ t, isInert c = true) :
    evaluate ([quote] ++ t ++ [quote]) = some (Utf16.units t) := by
  have hclose : Reads (.inside false quote .plain) [quote] [] .done :=
    reads_code (by simp [Reading.readNext, Reading.readInside, Reading.readPlain])
  have hall := ((reads_quote hquote).append (reads_inert hquote h)).append hclose
  rw [List.nil_append, List.append_nil] at hall
  exact evaluate_of_reads hall

/-- A string does not go on behind the end of a line. -/
theorem evaluate_newline (hquote : IsQuote quote) (h : ∀ c ∈ t, isInert c = true) :
    evaluate ([quote] ++ (t ++ ("\n" : Text)) ++ [quote]) = none := by
  have hall := (reads_quote hquote).append (reads_inert hquote h)
  have hnone : Reading.evaluateFrom (.inside false quote .plain) (("\n" : Text) ++ [quote]) = none := by
    obtain rfl | rfl := hquote <;> rfl
  rw [List.append_assoc, List.append_assoc, ← List.append_assoc, evaluate, hall, hnone]
  rfl

/-! ## What a string names -/

/-- A string that is taken for the name of something. -/
def StringUse.isName : StringUse → Bool
  | .identity => true
  | .selector _ _ => true
  | .word => true
  | .phrase => false
  | .other => false

/-- It names a class that is excluded. -/
def StringUse.keepsClass (settings : Settings) (value : Text) : StringUse → Bool
  | .selector sign name => sign != '#' && settings.isExcludedClass name
  | .word => settings.isExcludedClass value
  | _ => false

/-- What a string names once it is rewritten: an element, what a selector selects, or a class. -/
inductive Means (settings : Settings) (d : Context) (value : Text) : StringUse → Text → Prop
  | identity {tok : Text} (stands : d.Answers (Rewriting.elementId value) tok) :
    Means settings d value .identity tok
  | selector {sign : CodePoint} {name mapped : Text}
      (stands : d.Answers (selected settings sign name) mapped) :
    Means settings d value (.selector sign name) ([sign] ++ mapped)
  | word {mapped : Text} (stands : d.Answers (Rewriting.className settings value) mapped) :
    Means settings d value .word mapped

variable {settings : Settings} {d : Context} {value name meant text : Text} {use : StringUse} {node : Tree}
  {p : Place}

/-- What is written for a string that names something stands between its quotes. -/
theorem exists_means {written : Rewriting Text} (hname : use.isName = true)
    (hwritten : use.written? settings [quote] value = some written) (h : d.Answers written text) :
    ∃ meant, Means settings d value use meant ∧ text = [quote] ++ meant ++ [quote] := by
  cases use with
  | identity =>
    obtain rfl := Option.some.inj hwritten
    obtain ⟨tok, htok, h⟩ := Context.answers_bind.mp h
    exact ⟨tok, .identity htok, (Context.answers_pure.mp h).symm⟩
  | selector sign name =>
    obtain rfl := Option.some.inj hwritten
    obtain ⟨mapped, hmapped, h⟩ := Context.answers_bind.mp h
    refine ⟨[sign] ++ mapped, .selector hmapped, (Context.answers_pure.mp h).symm.trans ?_⟩
    simp only [List.append_assoc]
  | word =>
    obtain rfl := Option.some.inj hwritten
    obtain ⟨mapped, hmapped, h⟩ := Context.answers_bind.mp h
    exact ⟨mapped, .word hmapped, (Context.answers_pure.mp h).symm⟩
  | phrase => cases hname
  | other => cases hname

/-! ## Names hold nothing that would have to be escaped -/

theorem isInert_of_isWordPart (h : isWordPart c = true) : isInert c = true := by
  rw [isInert, h]
  rfl

theorem isInert_of_marked (h : Token.Marked text) : ∀ c ∈ text, isInert c = true := by
  intro c hc
  refine isInert_of_isWordPart ?_
  obtain hdigit | hlower := Bool.or_eq_true_iff.mp (h.marks c hc)
  · rw [isWordPart, hdigit, Bool.or_true, Bool.true_or]
  · rw [isWordPart, isWordStart, CodePoint.isAsciiLetter, hlower]
    simp

theorem isInert_of_elementId (hd : d.Marked) (h : d.Answers (Rewriting.elementId name) text) :
    ∀ c ∈ text, isInert c = true := by
  obtain ⟨_, htok, rfl⟩ := h
  exact isInert_of_marked (hd.token htok)

/-- What stands for a class is a token, unless the class is excluded. -/
theorem of_answers_className (hd : d.Marked) (h : d.Answers (Rewriting.className settings name) text) :
    (settings.isExcludedClass name = true ∧ text = name) ∨
      (settings.isExcludedClass name = false ∧ ∀ c ∈ text, isInert c = true) := by
  unfold Rewriting.className at h
  split at h
  · rename_i hexcluded
    exact .inl ⟨hexcluded, (Context.answers_pure.mp h).symm⟩
  · rename_i hexcluded
    obtain ⟨_, htok, rfl⟩ := h
    exact .inr ⟨Bool.eq_false_iff.mpr hexcluded, isInert_of_marked (hd.token htok)⟩

theorem isInert_of_selected (hd : d.Marked) {sign : CodePoint} (hname : ∀ c ∈ name, isWordPart c = true)
    (h : d.Answers (selected settings sign name) text) : ∀ c ∈ text, isInert c = true := by
  unfold selected at h
  split at h
  · exact isInert_of_elementId hd h
  · obtain ⟨-, rfl⟩ | ⟨-, hinert⟩ := of_answers_className hd h
    · exact fun c hc => isInert_of_isWordPart (hname c hc)
    · exact hinert

/-- The form that a string has when it is taken for something. -/
def StringUse.Suits (value : Text) : StringUse → Prop
  | .selector sign name => simpleSelector? value = some (sign, name)
  | .word => isBareWord value = true
  | _ => True

theorem suits_formOf : (formOf settings value).Suits value := by
  unfold formOf
  split
  · trivial
  · split
    · trivial
    · split
      · assumption
      · trivial

theorem suits_use (settings : Settings) (p : Place) (value : Text) : (p.use settings value).Suits value := by
  unfold Place.use Place.lookedUp?
  split
  · trivial
  · split
    · cases hselector : simpleSelector? value with
      | none => exact suits_formOf
      | some selector => exact hselector
    · exact suits_formOf

/-- No end of a line is dropped where there is none. -/
theorem withoutLastNewline_of_inert (h : ∀ c ∈ text, isInert c = true) : withoutLastNewline text = text := by
  refine (withoutLastNewline_cases text).resolve_right fun hnewline => ?_
  have hmem : CodePoint.ofChar '\n' ∈ text := by
    rw [hnewline]
    exact List.mem_append_right _ (by decide)
  exact absurd (h _ hmem) (by decide)

theorem ne_append_newline (text : Text) : text ≠ text ++ ("\n" : Text) := fun heq =>
  absurd (List.self_eq_append_right.mp heq) (by decide)

theorem withoutLastNewline_append_ne (text : Text) :
    withoutLastNewline (text ++ ("\n" : Text)) ≠ text ++ ("\n" : Text) := by
  rw [withoutLastNewline_append]
  exact ne_append_newline text

/-- A word that is written as it is becomes the value of a string just if no end of a line is behind it. -/
theorem evaluate_word_iff (hquote : IsQuote quote) (hword : isBareWord value = true) :
    evaluate ([quote] ++ value ++ [quote]) = some (Utf16.units value) ↔
      withoutLastNewline value = value := by
  have hinert : ∀ c ∈ withoutLastNewline value, isInert c = true := fun c hc =>
    isInert_of_isWordPart (isWordPart_of_isBareWord hword c hc)
  obtain hsame | hnewline := withoutLastNewline_cases value
  · rw [hsame] at hinert
    exact iff_of_true (evaluate_inert hquote hinert) hsame
  · have hnone := evaluate_newline hquote hinert
    rw [← hnewline] at hnone
    refine iff_of_false (fun hreads => ?_) ?_
    · rw [hnone] at hreads
      cases hreads
    · rw [hnewline]
      exact withoutLastNewline_append_ne _

/-- A selector of a class that is excluded keeps its value just if no end of a line is behind it. -/
theorem selector_kept_iff {sign : CodePoint} (hselector : simpleSelector? value = some (sign, name)) :
    [sign] ++ name = value ↔ withoutLastNewline value = value := by
  obtain ⟨hsign, hname, hvalue⟩ := of_simpleSelector? hselector
  have hinert : ∀ c ∈ [sign] ++ name, isInert c = true := by
    refine List.forall_mem_cons.mpr ⟨?_, fun c hc => isInert_of_isWordPart (hname c hc)⟩
    obtain rfl | rfl := hsign <;> decide
  obtain rfl | rfl := hvalue
  · exact iff_of_true rfl (withoutLastNewline_of_inert hinert)
  · exact iff_of_false (ne_append_newline _) (withoutLastNewline_append_ne _)

/-- What is written for a selector is the value of a string. -/
theorem evaluate_selected (hd : d.Marked) (hquote : IsQuote quote) {sign : CodePoint}
    (hselector : simpleSelector? value = some (sign, name))
    (hstands : d.Answers (selected settings sign name) text) :
    evaluate ([quote] ++ ([sign] ++ text) ++ [quote]) = some (Utf16.units ([sign] ++ text)) := by
  obtain ⟨hsign, hname, -⟩ := of_simpleSelector? hselector
  refine evaluate_inert hquote (List.forall_mem_cons.mpr ⟨?_, isInert_of_selected hd hname hstands⟩)
  obtain rfl | rfl := hsign <;> decide

/-- What is written for a class that a selector has, and that is excluded, is the class itself. -/
theorem eq_of_selected_kept (hd : d.Marked) {sign : CodePoint}
    (hkeeps : (StringUse.selector sign name).keepsClass settings value = true)
    (hstands : d.Answers (selected settings sign name) text) : text = name := by
  obtain ⟨hclass, hexcluded⟩ := Bool.and_eq_true_iff.mp hkeeps
  rw [selected, if_neg (by simpa using hclass)] at hstands
  obtain ⟨-, hsame⟩ | ⟨hother, -⟩ := of_answers_className hd hstands
  · exact hsame
  · exact absurd (hexcluded.symm.trans hother) Bool.true_eq_false.mp

/-- Where no old value is to be kept, it is enough that there is a string. -/
theorem reads_iff_of_unkept (hkeeps : use.keepsClass settings value = false)
    (hreads : evaluate ([quote] ++ meant ++ [quote]) = some (Utf16.units meant)) :
    (evaluate ([quote] ++ meant ++ [quote]) = some (Utf16.units meant) ∧
        (use.keepsClass settings value = true → meant = value)) ↔
      ¬ (use.keepsClass settings value = true ∧ withoutLastNewline value ≠ value) := by
  have hnever : use.keepsClass settings value ≠ true := Bool.eq_false_iff.mp hkeeps
  exact iff_of_true ⟨hreads, fun hkept => absurd hkept hnever⟩ fun h => hnever h.1

/-- What stands between quotes is the value of a string, and that of a class that is excluded is the old
one, unless there is the end of a line behind that. -/
theorem means_iff (hd : d.Marked) (hquote : IsQuote quote) (hsuits : use.Suits value)
    (hmeans : Means settings d value use meant) :
    (evaluate ([quote] ++ meant ++ [quote]) = some (Utf16.units meant) ∧
        (use.keepsClass settings value = true → meant = value)) ↔
      ¬ (use.keepsClass settings value = true ∧ withoutLastNewline value ≠ value) := by
  cases hmeans with
  | identity hstands =>
    exact reads_iff_of_unkept rfl (evaluate_inert hquote (isInert_of_elementId hd hstands))
  | selector hstands =>
    rw [and_iff_right (evaluate_selected hd hquote hsuits hstands), not_and, not_ne_iff]
    refine forall_congr' fun hkeeps => ?_
    rw [eq_of_selected_kept hd hkeeps hstands]
    exact selector_kept_iff hsuits
  | word hstands =>
    obtain ⟨hexcluded, rfl⟩ | ⟨hother, hinert⟩ := of_answers_className hd hstands
    · have hkeeps : StringUse.keepsClass settings meant .word = true := hexcluded
      rw [and_iff_left fun _ => rfl, and_iff_right hkeeps, not_ne_iff]
      exact evaluate_word_iff hquote hsuits
    · exact reads_iff_of_unkept hother (evaluate_inert hquote hinert)

/-! ## The names in a script -/

/-- A string that is written between quotes. -/
structure Quoted (node : Tree) (quote : CodePoint) : Prop where
  isQuote : IsQuote quote
  raw : ∃ rest, node.textField? "raw" = some (quote :: rest)

theorem Quoted.quoteOf_eq (h : Quoted node quote) : quoteOf node = [quote] := by
  obtain ⟨hquote, rest, hraw⟩ := h
  unfold quoteOf
  rw [hraw]
  obtain rfl | rfl := hquote <;> rfl

/-- What stands in the place of a string that names something, once edits are made. -/
structure NamedAt (settings : Settings) (source : Text) (d : Context) (edits : Edits) (output : Text)
    (use : StringUse) (value : Text) (quote : CodePoint) (range : Range) (meant : Text) : Prop where
  /-- The name is the one that the tables have for what the string is taken for. -/
  means : Means settings d value use meant
  /-- It stands between the quotes of the string, where the string stood. -/
  text : Edits.textAt source edits range = [quote] ++ meant ++ [quote]
  stands : ∃ before after, Edits.spliceUpTo source 0 edits.sorted range = .ok before ∧
    output = before ++ Edits.textAt source edits range ++ after
  /-- It is the value of what stands there, and the old one for a class that is excluded, unless that has
  the end of a line behind it. -/
  reads : (evaluate (Edits.textAt source edits range) = some (Utf16.units meant) ∧
      (use.keepsClass settings value = true → meant = value)) ↔
    ¬ (use.keepsClass settings value = true ∧ withoutLastNewline value ≠ value)

/-- What stands in the places of all strings of a script that name something. -/
def NamesQuoted (settings : Settings) (source : Text) (t : Tree) (d : Context) (edits : Edits)
    (output : Text) : Prop :=
  ∀ p ∈ places t, p.isSpared = false → ∀ value quote range, stringValue? p.node = some value →
    Quoted p.node quote → rangeOf p.node = .ok range → (p.use settings value).isName = true →
      ∃ meant, NamedAt settings source d edits output (p.use settings value) value quote range meant

variable {source output : Text} {edits : Edits} {range : Range} {marks : List Mark} {b : Bindings}
  {isModule : Bool}

/-- An edit that is not needed leaves the text that it would give. -/
theorem textAt_of_lookup (h : edits.lookup range = editIfNew source range text) :
    Edits.textAt source edits range = text := by
  rw [Edits.textAt, h, editIfNew]
  split
  · assumption
  · rfl

/-- What stands in the place of a string that is rewritten is what the rule for it writes. -/
theorem exists_written {t : Tree} (h : IsProgram t) (hspaced : Spaced t) (hb : Describes isModule t b)
    (hmarks : d.Answers (visit (viewOf settings source b) t.depth [] [] t) marks)
    (happly : (editsIn marks).apply source = .ok output) (hp : p ∈ places t) (hspared : p.isSpared = false)
    (hvalue : stringValue? p.node = some value) (hrange : rangeOf p.node = .ok range)
    (huse : p.use settings value ≠ .other) :
    ∃ written, (p.use settings value).written? settings (quoteOf p.node) value = some written ∧
      d.Answers written (Edits.textAt source (editsIn marks) range) ∧
      ∃ before after, Edits.spliceUpTo source 0 (editsIn marks).sorted range = .ok before ∧
        output = before ++ Edits.textAt source (editsIn marks) range ++ after := by
  have hliteral := kind_of_string hvalue
  have hvisited := (literal_visited_iff h hp hliteral).mpr hspared
  have hranged := textRange?_of_literal hliteral hrange
  have hacts := hmarks
  rw [visit_program (v := viewOf settings source b) h hb] at hacts
  obtain ⟨here, hhere⟩ := (Context.mem_of_answers_flatten hacts).1 p hvisited
  have hrule := hhere
  rw [actAt_string _ hvalue] at hrule
  obtain ⟨hother, -⟩ | ⟨written, text, hwritten, htext, hedit⟩ := of_answers_rewrite hrange hrule
  · exact absurd hother huse
  have hat : Edits.textAt source (editsIn marks) range = text :=
    textAt_of_lookup (lookup_of_visited h hspaced hb hmarks hvisited hranged hhere fun other => by
      simp [hedit, viewOf])
  have honly : OnlyText t marks := (hmarks.post (ensures_visit h hb).yields).onlyText h
  have hmem : ∀ edit ∈ editsIn marks, edit.1 ∈ textRanges t := fun edit hedit =>
    honly edit.1 edit.2 (mem_edits_iff.mp (Edits.mem_of_mem_ofList hedit))
  have hin : range ∈ textRanges t := List.mem_filterMap.mpr ⟨p, hp, hranged⟩
  refine ⟨written, hwritten, hat ▸ htext, ?_⟩
  refine Edits.exists_around (hspaced.proper range hin) (Edits.nodup_ofList _)
    (fun edit hedit => (hspaced.proper _ (hmem edit hedit)).isOrdered) (fun edit hedit => ?_) happly
  exact or_iff_not_imp_left.mpr (hspaced.apart_of_ne (hmem edit hedit) hin)

theorem namesQuoted_of_answers {t : Tree} (h : IsProgram t) (hspaced : Spaced t)
    (hb : Describes isModule t b) (hd : d.Marked)
    (hmarks : d.Answers (visit (viewOf settings source b) t.depth [] [] t) marks)
    (happly : (editsIn marks).apply source = .ok output) :
    NamesQuoted settings source t d (editsIn marks) output := by
  intro p hp hspared value quote range hvalue hquoted hrange hname
  have huse : p.use settings value ≠ .other := fun hother => by
    rw [hother] at hname
    cases hname
  obtain ⟨written, hwritten, htext, hstands⟩ :=
    exists_written h hspaced hb hmarks happly hp hspared hvalue hrange huse
  rw [hquoted.quoteOf_eq] at hwritten
  obtain ⟨meant, hmeans, htext⟩ := exists_means hname hwritten htext
  refine ⟨meant, hmeans, htext, hstands, ?_⟩
  rw [htext]
  exact means_iff hd hquoted.isQuote (suits_use settings p value) hmeans

theorem marked_identifiedBefore : identifiedBefore.Marked := by
  intro naming original tok hmem
  cases naming with
  | elementId =>
    obtain rfl : tok = "t" := congrArg Prod.snd (List.mem_singleton.mp hmem)
    exact .mk (by decide) fun _ hd => by cases hd
  | _ => cases hmem

/-- The tree of `x=s`, for a string with its value. -/
def assigning (value raw : Text) : Tree :=
  Tree.mk "Program" 0 (raw.length + 2) [("body", some (.list [
    Tree.mk "ExpressionStatement" 0 (raw.length + 2) [
      ("expression", some (Tree.mk "AssignmentExpression" 0 (raw.length + 2) [
        ("left", some (nameAt "x" 0 1)),
        ("right", some (literalAt value raw 2))]))]]))]

end VeiledGateway.Script
