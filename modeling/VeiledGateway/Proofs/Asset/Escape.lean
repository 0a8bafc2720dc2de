/-
  The names of a path, its normal form, and what decoding its percent escapes does to it.

  The names of a path are read off its fields one after the other, so what holds of all of them is
  an invariant of that fold.  A path in normal form is read back into the names it was written
  from, and it is as long as these with a slash before each.

  A text in which no escape stands is left as it is, and one in which an escape stands gets shorter
  by two code points at least.  Decoding works on runs of ASCII, and an escape never reaches beyond
  one run.
-/
import VeiledGateway.Asset.Resolver
import VeiledGateway.Proofs.Outcome

set_option autoImplicit false

namespace VeiledGateway

/-! ## Fields -/

namespace Text

/-- How long texts are with one separator for each. -/
def span : List Text → Nat
  | [] => 0
  | part :: rest => part.length + 1 + span rest

@[simp] theorem span_nil : span [] = 0 :=
  rfl

@[simp] theorem span_cons (part : Text) (parts : List Text) :
    span (part :: parts) = part.length + 1 + span parts :=
  rfl

theorem span_append (parts others : List Text) :
    span (parts ++ others) = span parts + span others := by
  induction parts with
  | nil => exact (Nat.zero_add _).symm
  | cons part rest ih => rw [List.cons_append, span_cons, span_cons, ih, ← Nat.add_assoc]

theorem span_reverse (parts : List Text) : span parts.reverse = span parts := by
  induction parts with
  | nil => rfl
  | cons part rest ih =>
    rw [List.reverse_cons, span_append, ih, span_cons, span_cons, span_nil, Nat.add_zero,
      Nat.add_comm]

theorem fields_ne_nil (c : CodePoint) (t : Text) : fields c t ≠ [] := by
  cases t with
  | nil => simp [fields]
  | cons d rest =>
    rw [fields]
    split
    · simp
    · split <;> simp

theorem fields_cons_of_ne {c d : CodePoint} (h : d ≠ c) (rest : Text) :
    ∃ first others, fields c rest = first :: others ∧
      fields c (d :: rest) = (d :: first) :: others := by
  rw [fields, if_neg h]
  cases hrest : fields c rest with
  | nil => exact absurd hrest (fields_ne_nil c rest)
  | cons first others => exact ⟨first, others, rfl, rfl⟩

/-- The separator stands in no field. -/
theorem not_mem_fields {c : CodePoint} {t : Text} :
    ∀ part ∈ fields c t, c ∉ part := by
  induction t with
  | nil => simp [fields]
  | cons d rest ih =>
    by_cases hd : d = c
    · simpa [fields, hd] using ih
    · obtain ⟨first, others, hrest, hfields⟩ := fields_cons_of_ne hd rest
      rw [hrest] at ih
      rw [hfields]
      intro part hpart
      rcases List.mem_cons.mp hpart with rfl | hpart
      · have hfirst : c ∉ first := ih first (by simp)
        simp [hfirst, Ne.symm hd]
      · exact ih part (by simp [hpart])

/-- The fields of a text are one longer than the text, with a separator for each. -/
theorem span_fields (c : CodePoint) (t : Text) : span (fields c t) = t.length + 1 := by
  induction t with
  | nil => rfl
  | cons d rest ih =>
    by_cases hd : d = c
    · simp [fields, hd, ih]
      omega
    · obtain ⟨first, others, hrest, hfields⟩ := fields_cons_of_ne hd rest
      rw [hrest] at ih
      simp only [span_cons] at ih
      simp only [hfields, span_cons, List.length_cons]
      omega

theorem fields_of_not_mem {c : CodePoint} {part : Text} (h : c ∉ part) :
    fields c part = [part] := by
  induction part with
  | nil => rfl
  | cons d rest ih =>
    have hd : d ≠ c := fun e => h (by simp [e])
    rw [fields, if_neg hd, ih fun hrest => h (by simp [hrest])]

theorem fields_append {c : CodePoint} {part : Text} (h : c ∉ part) (rest : Text) :
    fields c (part ++ c :: rest) = part :: fields c rest := by
  induction part with
  | nil => simp [fields]
  | cons d tail ih =>
    have hd : d ≠ c := fun e => h (by simp [e])
    rw [List.cons_append, fields, if_neg hd, ih fun htail => h (by simp [htail])]

/-- Parts without the separator are the fields of what they are joined to. -/
theorem fields_join {c : CodePoint} {parts : List Text} (hne : parts ≠ [])
    (h : ∀ part ∈ parts, c ∉ part) : fields c (join [c] parts) = parts := by
  induction parts with
  | nil => exact absurd rfl hne
  | cons part rest ih =>
    have hpart : c ∉ part := h part (by simp)
    cases rest with
    | nil => exact fields_of_not_mem hpart
    | cons next others =>
      have hrest : fields c (join [c] (next :: others)) = next :: others :=
        ih (by simp) fun p hp => h p (by simp [hp])
      rw [join, List.append_assoc, List.singleton_append, fields_append hpart, hrest]
      simp

theorem length_join {c : CodePoint} {parts : List Text} (hne : parts ≠ []) :
    (join [c] parts).length + 1 = span parts := by
  induction parts with
  | nil => exact absurd rfl hne
  | cons part rest ih =>
    cases rest with
    | nil => simp [join]
    | cons next others =>
      have hrest : (join [c] (next :: others)).length + 1 = span (next :: others) := ih (by simp)
      rw [join, span_cons, ← hrest]
      · simp only [List.length_append, List.length_singleton]
        omega
      · simp

end Text

/-! ## Names -/

namespace Reference

/-- One more name is read: what comes of the names that are above. -/
def push (above : List Text) (name : Text) : List Text :=
  if name.isEmpty || Text.eqString name "." then above
  else if Text.eqString name ".." then above.drop 1
  else name :: above

theorem names_eq_push (path : Text) :
    names path = ((Text.fields '/' path).foldl push []).reverse :=
  rfl

/-- A name that names something below a folder. -/
def IsProper (name : Text) : Prop :=
  name ≠ [] ∧ name ≠ ("." : Text) ∧ name ≠ (".." : Text) ∧ CodePoint.ofChar '/' ∉ name

theorem push_of_proper {name : Text} (h : IsProper name) (above : List Text) :
    push above name = name :: above := by
  obtain ⟨hne, hdot, hdots, -⟩ := h
  simp [push, Text.eqString, hne, hdot, hdots]

theorem foldl_push_of_proper {parts : List Text} (h : ∀ part ∈ parts, IsProper part)
    (above : List Text) : parts.foldl push above = parts.reverse ++ above := by
  induction parts generalizing above with
  | nil => rfl
  | cons part rest ih =>
    rw [List.foldl_cons, push_of_proper (h part (by simp)), ih fun p hp => h p (by simp [hp])]
    simp

/-- Reading a name without a slash keeps the names above proper. -/
theorem push_proper {above : List Text} {name : Text} (habove : ∀ part ∈ above, IsProper part)
    (hname : CodePoint.ofChar '/' ∉ name) : ∀ part ∈ push above name, IsProper part := by
  unfold push
  split
  · exact habove
  · rename_i hnot
    split
    · exact fun part hpart => habove part (List.mem_of_mem_drop hpart)
    · rename_i hdots
      simp only [Text.eqString, Bool.or_eq_true, List.isEmpty_iff, beq_iff_eq, not_or] at hnot hdots
      intro part hpart
      rcases List.mem_cons.mp hpart with rfl | hpart
      · exact ⟨hnot.1, hnot.2, hdots, hname⟩
      · exact habove part hpart

/-- All names of a path are proper. -/
theorem names_proper (path : Text) : ∀ name ∈ names path, IsProper name := by
  have hfold : ∀ (parts : List Text) (above : List Text),
      (∀ part ∈ parts, CodePoint.ofChar '/' ∉ part) → (∀ part ∈ above, IsProper part) →
      ∀ name ∈ parts.foldl push above, IsProper name := by
    intro parts
    induction parts with
    | nil => exact fun _ _ habove => habove
    | cons part rest ih =>
      intro above hparts habove
      exact ih (push above part) (fun p hp => hparts p (by simp [hp]))
        (push_proper habove (hparts part (by simp)))
  intro name hname
  rw [names_eq_push, List.mem_reverse] at hname
  exact hfold _ [] Text.not_mem_fields (by simp) name hname

/-- The normal form of a path has the names of the path. -/
theorem names_normal (path : Text) : names (normal path) = names path := by
  have hproper : ∀ name ∈ names path, IsProper name := names_proper path
  have hfields : Text.fields '/' (normal path) = [] :: Text.fields '/' (Text.join "/" (names path)) :=
    rfl
  have hfold : (Text.fields '/' (normal path)).foldl push [] = (names path).reverse := by
    rw [hfields, List.foldl_cons]
    by_cases hnames : names path = []
    · rw [hnames]
      rfl
    · have hjoin : Text.fields '/' (Text.join "/" (names path)) = names path :=
        Text.fields_join hnames fun name hname => (hproper name hname).2.2.2
      rw [hjoin]
      exact (foldl_push_of_proper hproper _).trans (List.append_nil _)
  rw [names_eq_push, hfold, List.reverse_reverse]

/-! ## Lengths -/

theorem span_push_le (above : List Text) (name : Text) :
    Text.span (push above name) ≤ Text.span above + (name.length + 1) := by
  unfold push
  split
  · omega
  · split
    · cases above with
      | nil => simp
      | cons first rest => simp; omega
    · simp; omega

/-- The names of a path are no longer than the path, with a slash before each. -/
theorem span_names_le (path : Text) : Text.span (names path) ≤ path.length + 1 := by
  have hfold : ∀ (parts above : List Text),
      Text.span (parts.foldl push above) ≤ Text.span above + Text.span parts := by
    intro parts
    induction parts with
    | nil => simp
    | cons part rest ih =>
      intro above
      have hpush := span_push_le above part
      have hrest := ih (push above part)
      rw [List.foldl_cons, Text.span_cons]
      omega
  have hpath := hfold (Text.fields '/' path) []
  rw [Text.span_fields] at hpath
  rw [names_eq_push, Text.span_reverse]
  simpa using hpath

/-- A path in normal form is as long as its names with a slash before each, unless it has none. -/
theorem length_normal {path : Text} (h : names path ≠ []) :
    (normal path).length = Text.span (names path) := by
  have hjoin : (Text.join "/" (names path)).length + 1 = Text.span (names path) :=
    Text.length_join h
  rw [normal, List.length_cons]
  exact hjoin

end Reference

/-! ## Decoding bytes -/

namespace Utf8

/-- Decoding gives no more code points than there are bytes. -/
theorem length_decodeLossyFrom_le (fuel : Nat) (bytes : List UInt8) :
    (decodeLossyFrom fuel bytes).length ≤ bytes.length := by
  induction fuel generalizing bytes with
  | zero => simp [decodeLossyFrom]
  | succ fuel ih =>
    cases bytes with
    | nil => simp [decodeLossyFrom]
    | cons b rest =>
      have hdrop (used : Nat) :
          (decodeLossyFrom fuel (rest.drop (used - 1))).length ≤ rest.length :=
        Nat.le_trans (ih _) (by simp)
      rw [decodeLossyFrom]
      split
      · simpa using hdrop _
      · simpa using hdrop _

theorem length_decodeLossy_le (bytes : List UInt8) : (decodeLossy bytes).length ≤ bytes.length :=
  length_decodeLossyFrom_le bytes.length bytes

/-- The byte of an ASCII code point is decoded into it. -/
theorem step_ascii {c : CodePoint} (h : c.isAscii = true) (rest : List UInt8) :
    step (UInt8.ofNat c.val) rest = .code c 1 := by
  have hc : c.val < 0x80 := by simpa [CodePoint.isAscii] using h
  have hval : (UInt8.ofNat c.val).toNat = c.val := by
    simp only [UInt8.toNat_ofNat']
    omega
  have hlt : UInt8.ofNat c.val < 0x80 := by
    rw [UInt8.lt_iff_toNat_lt, hval]
    exact hc
  rw [step.eq_def, if_pos hlt, hval]
  simp [CodePoint.ofNat, CodePoint.ofNat?, c.isLt]

/-- The bytes of an ASCII text are decoded into it. -/
theorem decodeLossy_ascii {t : Text} (h : ∀ c ∈ t, c.isAscii = true) :
    decodeLossy (t.map fun c => UInt8.ofNat c.val) = t := by
  have hfuel : ∀ fuel, t.length ≤ fuel →
      decodeLossyFrom fuel (t.map fun c => UInt8.ofNat c.val) = t := by
    intro fuel
    induction t generalizing fuel with
    | nil => cases fuel <;> simp [decodeLossyFrom]
    | cons c rest ih =>
      intro hlength
      obtain ⟨fuel, rfl⟩ : ∃ less, fuel = less + 1 := ⟨fuel - 1, by simp at hlength; omega⟩
      have hrest : decodeLossyFrom fuel (rest.map fun c => UInt8.ofNat c.val) = rest :=
        ih (fun d hd => h d (by simp [hd])) fuel (by simpa using hlength)
      rw [List.map_cons, decodeLossyFrom, step_ascii (h c (by simp))]
      simp only [Nat.sub_self, List.drop_zero, hrest]
  exact hfuel _ (by simp)

end Utf8

namespace Reference

/-! ## Escapes -/

/-- A text begins with a percent sign and two hexadecimal digits. -/
def BeginsEscape (t : Text) : Prop :=
  ∃ high low rest, t = CodePoint.ofChar '%' :: high :: low :: rest ∧
    high.isHexDigit = true ∧ low.isHexDigit = true

/-- A percent sign and two hexadecimal digits stand in a text. -/
def HasEscape (t : Text) : Prop :=
  ∃ before after, t = before ++ after ∧ BeginsEscape after

theorem hasEscape_cons {c : CodePoint} {rest : Text} :
    HasEscape (c :: rest) ↔ BeginsEscape (c :: rest) ∨ HasEscape rest := by
  constructor
  · rintro ⟨before, after, ht, hafter⟩
    cases before with
    | nil => exact .inl (ht ▸ hafter)
    | cons d before => exact .inr ⟨before, after, (List.cons.inj ht).2, hafter⟩
  · rintro (h | ⟨before, after, rfl, hafter⟩)
    · exact ⟨[], _, rfl, h⟩
    · exact ⟨c :: before, after, rfl, hafter⟩

theorem HasEscape.append_left {t : Text} (h : HasEscape t) (more : Text) :
    HasEscape (t ++ more) := by
  obtain ⟨before, _, rfl, high, low, rest, rfl, hhigh, hlow⟩ := h
  exact ⟨before, _, List.append_assoc _ _ _, high, low, rest ++ more, rfl, hhigh, hlow⟩

theorem HasEscape.append_right {t : Text} (h : HasEscape t) (lead : Text) :
    HasEscape (lead ++ t) := by
  obtain ⟨before, after, rfl, hafter⟩ := h
  exact ⟨lead ++ before, after, (List.append_assoc _ _ _).symm, hafter⟩

theorem HasEscape.three_le {t : Text} (h : HasEscape t) : 3 ≤ t.length := by
  obtain ⟨before, _, rfl, high, low, rest, rfl, -, -⟩ := h
  simp
  omega

theorem isAscii_of_isHexDigit {c : CodePoint} (h : c.isHexDigit = true) : c.isAscii = true := by
  simp only [CodePoint.isHexDigit, CodePoint.hexValue?, CodePoint.isAsciiDigit] at h
  simp only [CodePoint.isAscii, decide_eq_true_eq]
  grind

/-- An escape lies on one side of a code point that is not ASCII. -/
theorem hasEscape_append_cons {c : CodePoint} (hc : c.isAscii = false) (lead rest : Text) :
    HasEscape (lead ++ c :: rest) ↔ HasEscape lead ∨ HasEscape rest := by
  have hne : ∀ {d : CodePoint}, d.isAscii = true → c ≠ d := by
    rintro d hd rfl
    rw [hd] at hc
    cases hc
  constructor
  · intro h
    induction lead with
    | nil =>
      rcases hasEscape_cons.mp h with ⟨high, low, after, ht, -, -⟩ | h
      · exact absurd (List.cons.inj ht).1 (hne (by decide))
      · exact .inr h
    | cons d lead ih =>
      rcases hasEscape_cons.mp h with ⟨high, low, after, ht, hhigh, hlow⟩ | h
      · obtain ⟨rfl, htail⟩ := List.cons.inj ht
        rcases lead with _ | ⟨first, _ | ⟨second, lead⟩⟩
        · exact absurd (List.cons.inj htail).1 (hne (isAscii_of_isHexDigit hhigh))
        · exact absurd (List.cons.inj (List.cons.inj htail).2).1 (hne (isAscii_of_isHexDigit hlow))
        · obtain ⟨rfl, hrest⟩ := List.cons.inj htail
          obtain ⟨rfl, -⟩ := List.cons.inj hrest
          exact .inl ⟨[], _, rfl, _, _, lead, rfl, hhigh, hlow⟩
      · exact (ih h).imp (fun hlead => hasEscape_cons.mpr (.inr hlead)) id
  · rintro (h | h)
    · exact h.append_left _
    · exact (hasEscape_cons.mpr (.inr h)).append_right _

/-! ## Texts without escapes -/

/-- What is decoded where no escape begins: the code point as it is, and the rest. -/
theorem unescapeAscii_cons {c : CodePoint} {rest : Text} (h : ¬ BeginsEscape (c :: rest)) :
    unescapeAscii (c :: rest) = UInt8.ofNat c.val :: unescapeAscii rest := by
  rcases rest with _ | ⟨d, _ | ⟨e, rest⟩⟩
  · rfl
  · rfl
  · rw [unescapeAscii]
    split
    · rename_i hc
      split
      · rename_i hhigh hlow
        have hsign : c = CodePoint.ofChar '%' := by simpa using hc
        exact absurd ⟨d, e, rest, by rw [hsign], by rw [CodePoint.isHexDigit, hhigh]; rfl,
          by rw [CodePoint.isHexDigit, hlow]; rfl⟩ h
      · rfl
    · rfl

theorem unescapeAscii_of_not_hasEscape {t : Text} (h : ¬ HasEscape t) :
    unescapeAscii t = t.map fun c => UInt8.ofNat c.val := by
  induction t with
  | nil => rfl
  | cons c rest ih =>
    have hbegins : ¬ BeginsEscape (c :: rest) := fun hb => h (hasEscape_cons.mpr (.inl hb))
    have hrest : ¬ HasEscape rest := fun hr => h (hasEscape_cons.mpr (.inr hr))
    rw [unescapeAscii_cons hbegins, ih hrest]
    rfl

theorem unescapeRuns_of_not_hasEscape {run rest : Text} (hrun : ∀ c ∈ run, c.isAscii = true)
    (h : ¬ HasEscape (run.reverse ++ rest)) : unescapeRuns run rest = run.reverse ++ rest := by
  have hdecoded : ∀ {run : Text}, (∀ c ∈ run, c.isAscii = true) → ¬ HasEscape run.reverse →
      Utf8.decodeLossy (unescapeAscii run.reverse) = run.reverse := by
    intro run hrun h
    rw [unescapeAscii_of_not_hasEscape h]
    exact Utf8.decodeLossy_ascii fun c hc => hrun c (List.mem_reverse.mp hc)
  induction rest generalizing run with
  | nil =>
    rw [List.append_nil] at h
    rw [unescapeRuns, hdecoded hrun h, List.append_nil]
  | cons c rest ih =>
    rw [unescapeRuns]
    split
    · rename_i hc
      have hreverse : (c :: run).reverse ++ rest = run.reverse ++ c :: rest := by simp
      rw [← hreverse]
      refine ih ?_ (hreverse ▸ h)
      intro d hd
      rcases List.mem_cons.mp hd with rfl | hd
      · exact hc
      · exact hrun d hd
    · rename_i hc
      rw [hasEscape_append_cons (by simpa using hc), not_or] at h
      have hrest : unescapeRuns [] rest = rest := ih (fun d hd => nomatch hd) h.2
      rw [hdecoded hrun h.1, hrest]

/-- A text in which no escape stands is left as it is. -/
theorem unescape_of_not_hasEscape {t : Text} (h : ¬ HasEscape t) : unescape t = t :=
  unescapeRuns_of_not_hasEscape (by simp) h

/-! ## Texts with escapes -/

theorem length_unescapeAscii_le (t : Text) : (unescapeAscii t).length ≤ t.length := by
  fun_induction unescapeAscii t <;> simp_all
  omega

/-- What is decoded of an ASCII text is shorter by two bytes for each escape. -/
theorem length_unescapeAscii_of_hasEscape {t : Text} (h : HasEscape t) :
    (unescapeAscii t).length + 2 ≤ t.length := by
  induction t with
  | nil => exact absurd h.three_le (by simp)
  | cons c rest ih =>
    by_cases hbegins : BeginsEscape (c :: rest)
    · obtain ⟨high, low, after, ht, hhigh, hlow⟩ := hbegins
      obtain ⟨rfl, rfl⟩ := List.cons.inj ht
      obtain ⟨m, hm⟩ := Option.isSome_iff_exists.mp hhigh
      obtain ⟨n, hn⟩ := Option.isSome_iff_exists.mp hlow
      have hafter := length_unescapeAscii_le after
      simp only [unescapeAscii, beq_self_eq_true, if_true, hm, hn, List.length_cons]
      omega
    · have hrest := ih ((hasEscape_cons.mp h).resolve_left hbegins)
      rw [unescapeAscii_cons hbegins]
      simp only [List.length_cons]
      omega

theorem length_unescapeRuns_le (run rest : Text) :
    (unescapeRuns run rest).length ≤ run.length + rest.length := by
  have hdecoded (run : Text) :
      (Utf8.decodeLossy (unescapeAscii run.reverse)).length ≤ run.length := by
    refine Nat.le_trans (Utf8.length_decodeLossy_le _) ?_
    simpa using length_unescapeAscii_le run.reverse
  induction rest generalizing run with
  | nil => exact hdecoded run
  | cons c rest ih =>
    rw [unescapeRuns]
    split
    · have hrest := ih (c :: run)
      simp only [List.length_cons] at hrest ⊢
      omega
    · have hrun := hdecoded run
      have hrest := ih []
      simp only [List.length_append, List.length_cons, List.length_nil] at hrest ⊢
      omega

theorem length_unescapeRuns_of_hasEscape {run rest : Text}
    (h : HasEscape (run.reverse ++ rest)) :
    (unescapeRuns run rest).length + 2 ≤ run.length + rest.length := by
  have hdecoded : ∀ {run : Text}, HasEscape run.reverse →
      (Utf8.decodeLossy (unescapeAscii run.reverse)).length + 2 ≤ run.length := by
    intro run h
    have hrun := length_unescapeAscii_of_hasEscape h
    have hdecode := Utf8.length_decodeLossy_le (unescapeAscii run.reverse)
    rw [List.length_reverse] at hrun
    omega
  induction rest generalizing run with
  | nil => exact hdecoded (by simpa using h)
  | cons c rest ih =>
    rw [unescapeRuns]
    split
    · have hrest := ih (by simpa using h : HasEscape ((c :: run).reverse ++ rest))
      simp only [List.length_cons] at hrest ⊢
      omega
    · rename_i hc
      have hrun := length_unescapeRuns_le run []
      have hrest := length_unescapeRuns_le [] rest
      rw [unescapeRuns] at hrun
      simp only [List.length_append, List.length_cons, List.length_nil] at hrun hrest ⊢
      rcases (hasEscape_append_cons (by simpa using hc) _ _).mp h with h | h
      · have hlead := hdecoded h
        omega
      · have hshorter : (unescapeRuns [] rest).length + 2 ≤ ([] : Text).length + rest.length := ih h
        simp only [List.length_nil] at hshorter
        omega

/-- A text in which an escape stands gets shorter by two code points at least. -/
theorem length_unescape_of_hasEscape {t : Text} (h : HasEscape t) :
    (unescape t).length + 2 ≤ t.length := by
  have hruns : (unescapeRuns [] t).length + 2 ≤ ([] : Text).length + t.length :=
    length_unescapeRuns_of_hasEscape h
  rw [unescape]
  simpa using hruns

/-- A path in normal form in which an escape stands has other names when it is decoded. -/
theorem names_unescape_ne {path : Text} (h : HasEscape (normal path)) :
    names (unescape (normal path)) ≠ names (normal path) := by
  intro hnames
  have hshorter := length_unescape_of_hasEscape h
  have hspan := span_names_le (unescape (normal path))
  rw [hnames, names_normal] at hspan
  have hsome : names path ≠ [] := by
    intro hnone
    have hlong := h.three_le
    simp [normal, hnone, Text.join] at hlong
  have hlength := length_normal hsome
  omega

end Reference

end VeiledGateway
