/-
  Recognising references that lead elsewhere.

  Two readers tell whether a reference has a scheme or a host.  Its kind is told by the text without
  the blanks at its ends; its parts are told once control codes before it, and tabs and ends of lines
  anywhere, are gone.  They agree exactly where nothing of that kind stands before the end of the sign
  that tells a scheme or a host; elsewhere the path of a foreign address is taken for one of the site.
-/
import VeiledGateway.Proofs.Rewriting.Resolving

set_option autoImplicit false

namespace VeiledGateway

namespace Reference

/-! ## Signs -/

/-- What tells that a reference leads elsewhere: two slashes, or a scheme and a colon. -/
inductive IsSign : Text → Prop
  | host : IsSign "//"
  | scheme {c : CodePoint} {rest : Text} (hc : c.isAsciiLetter = true)
      (hrest : rest.all isSchemeCode = true) : IsSign (c :: rest ++ [CodePoint.ofChar ':'])

variable {sign other t reference : Text} {parts : Parts}

theorem colon_not_mem {c : CodePoint} {rest : Text} (hc : c.isAsciiLetter = true)
    (hrest : rest.all isSchemeCode = true) : CodePoint.ofChar ':' ∉ c :: rest := by
  have hcolon : isSchemeCode (CodePoint.ofChar ':') = false := by decide
  intro hmem
  rcases List.mem_cons.mp hmem with rfl | hmem
  · cases hc
  · rw [List.all_eq_true.mp hrest _ hmem] at hcolon
    cases hcolon

/-- The codes of a sign are no blanks, and none of them is dropped. -/
theorem IsSign.printing (h : IsSign sign) : ∀ c ∈ sign, 0x20 < c.val := by
  have hscheme {c : CodePoint} (hc : isSchemeCode c = true) : 0x20 < c.val := by
    simp only [isSchemeCode, CodePoint.isAsciiLetter, CodePoint.isAsciiUpper,
      CodePoint.isAsciiLower, CodePoint.isAsciiDigit, Bool.or_eq_true, Bool.and_eq_true,
      decide_eq_true_eq, beq_iff_eq] at hc
    rcases hc with (((hletter | hdigit) | rfl) | rfl) | rfl
    · omega
    · omega
    all_goals decide
  cases h with
  | host => decide
  | scheme hc hrest =>
    intro d hd
    rcases List.mem_append.mp hd with hd | hd
    · rcases List.mem_cons.mp hd with rfl | hd
      · exact hscheme (by simp [isSchemeCode, hc])
      · exact hscheme (List.all_eq_true.mp hrest _ hd)
    · obtain rfl := List.mem_singleton.mp hd
      decide

theorem IsSign.length_pos (h : IsSign sign) : 0 < sign.length := by
  cases h with
  | host => decide
  | scheme => simp

theorem hasScheme_iff : hasScheme t = true ↔ ∃ c rest after, c.isAsciiLetter = true ∧
    rest.all isSchemeCode = true ∧ t = c :: rest ++ CodePoint.ofChar ':' :: after := by
  unfold hasScheme
  constructor
  · intro h
    split at h
    · rename_i c rest after hcut
      obtain ⟨hc, hrest⟩ := (Bool.and_eq_true _ _).mp h
      exact ⟨c, rest, after, hc, hrest, (Text.cutAtCode_eq_some_iff.mp hcut).1⟩
    · cases h
  · rintro ⟨c, rest, after, hc, hrest, rfl⟩
    rw [Text.cutAtCode_eq_some_iff.mpr ⟨rfl, colon_not_mem hc hrest⟩]
    dsimp only
    rw [hc, hrest]
    rfl

/-- A reference looks foreign if it begins with a sign. -/
theorem looks_foreign_iff :
    (Text.startsWith t "//" || hasScheme t) = true ↔ ∃ sign, IsSign sign ∧ sign <+: t := by
  rw [Bool.or_eq_true, Text.startsWith_iff, hasScheme_iff]
  constructor
  · rintro (hslashes | ⟨c, rest, after, hc, hrest, rfl⟩)
    · exact ⟨_, .host, hslashes⟩
    · exact ⟨_, .scheme hc hrest, after, by simp⟩
  · rintro ⟨_, hsign, hopening⟩
    cases hsign with
    | host => exact .inl hopening
    | scheme hc hrest =>
      obtain ⟨after, rfl⟩ := hopening
      exact .inr ⟨_, _, after, hc, hrest, by simp⟩

/-! ## What is kept of a reference -/

/-- A reference without what is no part of an address. -/
def kept (reference : Text) : Text :=
  (reference.dropWhile fun (c : CodePoint) => c.val ≤ 0x20).filter (!isDropped ·)

theorem split_parts (h : split reference = .ok parts) :
    parts.scheme = (cutScheme (kept reference)).1 ∧
      parts.host = (cutHost (cutScheme (kept reference)).2).1 := by
  unfold split at h
  dsimp only at h
  obtain ⟨_, -, h⟩ := Outcome.bind_eq_ok.mp h
  obtain rfl := Outcome.pure_eq_ok.mp h
  exact ⟨rfl, rfl⟩

theorem cutScheme_of_scheme {c : CodePoint} {rest after : Text} (hc : c.isAsciiLetter = true)
    (hrest : rest.all isSchemeCode = true) :
    cutScheme (c :: rest ++ CodePoint.ofChar ':' :: after) =
      ((c :: rest).map CodePoint.asciiLower, after) := by
  unfold cutScheme
  rw [Text.cutAtCode_eq_some_iff.mpr ⟨rfl, colon_not_mem hc hrest⟩]
  dsimp only
  rw [hc, hrest]
  rfl

theorem cutScheme_cases (t : Text) :
    cutScheme t = ([], t) ∨ ∃ c rest after, c.isAsciiLetter = true ∧
      rest.all isSchemeCode = true ∧ t = c :: rest ++ CodePoint.ofChar ':' :: after := by
  by_cases hscheme : hasScheme t = true
  · exact .inr (hasScheme_iff.mp hscheme)
  · refine .inl ?_
    unfold hasScheme at hscheme
    unfold cutScheme
    split
    · rename_i hcut
      rw [hcut] at hscheme
      exact if_neg hscheme
    · rfl

/-- How many codes at the head of an address tell that it leads elsewhere. -/
def signLength (t : Text) : Nat :=
  match (cutScheme t).1 with
  | [] => 2
  | scheme => scheme.length + 1

theorem signLength_of_sign (h : IsSign sign) (hopening : sign <+: t) : signLength t = sign.length := by
  obtain ⟨after, rfl⟩ := hopening
  cases h with
  | host =>
    rcases cutScheme_cases (("//" : Text) ++ after) with hnone | ⟨c, rest, _, hc, -, h⟩
    · rw [signLength, hnone]
      rfl
    · rw [← (List.cons.inj h).1] at hc
      cases hc
  | scheme hc hrest =>
    rw [List.append_assoc, signLength, List.singleton_append, cutScheme_of_scheme hc hrest]
    simp

/-- No address begins with two signs. -/
theorem IsSign.unique (hsign : IsSign sign) (hother : IsSign other) (h : sign <+: t)
    (h' : other <+: t) : sign = other := by
  have hlength : sign.length = other.length := by
    rw [← signLength_of_sign hsign h, ← signLength_of_sign hother h']
  exact (List.prefix_of_prefix_length_le h h' (Nat.le_of_eq hlength)).eq_of_length hlength

/-- An address with a scheme or a host begins with a sign. -/
theorem exists_sign (hsplit : split reference = .ok parts)
    (hforeign : parts.scheme ≠ [] ∨ parts.host ≠ []) :
    ∃ sign, IsSign sign ∧ sign <+: kept reference := by
  obtain ⟨hscheme, hhost⟩ := split_parts hsplit
  rw [hscheme, hhost] at hforeign
  generalize kept reference = t at hforeign
  rcases cutScheme_cases t with hnone | ⟨c, rest, after, hc, hrest, rfl⟩
  · rw [hnone, or_iff_right (not_not_intro rfl)] at hforeign
    refine ⟨_, .host, ?_⟩
    dsimp only at hforeign
    unfold cutHost at hforeign
    split at hforeign
    · exact absurd rfl hforeign
    · rename_i rest hrest
      exact ⟨rest, (Text.dropPrefix?_eq_some_iff.mp hrest).symm⟩
  · exact ⟨_, .scheme hc hrest, after, by simp⟩

theorem not_isDropped {c : CodePoint} (h : 0x20 < c.val) : isDropped c = false := by
  simp only [isDropped, Bool.or_eq_false_iff, beq_eq_false_iff_ne]
  refine ⟨⟨?_, ?_⟩, ?_⟩ <;> rintro rfl <;> exact absurd h (by decide)

/-- What stands at the head of a reference without blanks and control codes is kept there. -/
theorem kept_append {lead rest : Text} (hne : lead ≠ []) (h : ∀ c ∈ lead, 0x20 < c.val) :
    kept (lead ++ rest) = lead ++ rest.filter (!isDropped ·) := by
  have hhead : (lead ++ rest).dropWhile (fun (c : CodePoint) => c.val ≤ 0x20) = lead ++ rest := by
    cases lead with
    | nil => exact absurd rfl hne
    | cons c lead =>
      have hc := h c List.mem_cons_self
      rw [List.cons_append, List.dropWhile_cons_of_neg (by simp only [decide_eq_true_eq]; omega)]
  have hlead : lead.filter (!isDropped ·) = lead :=
    List.filter_eq_self.mpr fun c hc => by rw [not_isDropped (h c hc)]; rfl
  rw [kept, hhead, List.filter_append, hlead]

/-- A reference shows its sign: neither before it nor in it stands a blank or a control code. -/
def Shows (reference : Text) : Prop :=
  ∀ c ∈ reference.take (signLength (kept reference)), 0x20 < c.val

instance (reference : Text) : Decidable (Shows reference) :=
  inferInstanceAs (Decidable (∀ c ∈ _, _))

theorem opens_iff_shows (hsign : IsSign sign) (hkept : sign <+: kept reference) :
    sign <+: reference ↔ Shows reference := by
  unfold Shows
  rw [signLength_of_sign hsign hkept]
  constructor
  · rintro ⟨rest, rfl⟩
    rw [List.take_left]
    exact hsign.printing
  · intro h
    have hne : reference.take sign.length ≠ [] := by
      intro hnil
      rcases List.take_eq_nil_iff.mp hnil with hzero | rfl
      · exact absurd hzero (Nat.ne_of_gt hsign.length_pos)
      · exact absurd (List.prefix_nil.mp hkept) (List.ne_nil_of_length_pos hsign.length_pos)
    have hwhole : kept (reference.take sign.length ++ reference.drop sign.length) = _ :=
      kept_append hne h
    rw [List.take_append_drop] at hwhole
    rw [hwhole] at hkept
    rcases Nat.le_total sign.length reference.length with hle | hle
    · have htake : (reference.take sign.length).length = sign.length := by
        rw [List.length_take, Nat.min_eq_left hle]
      have hsame : sign = reference.take sign.length :=
        (List.prefix_of_prefix_length_le hkept (List.prefix_append _ _) (Nat.le_of_eq htake.symm)).eq_of_length
          htake.symm
      rw [hsame]
      exact List.take_prefix _ _
    · rwa [List.drop_eq_nil_of_le hle, List.filter_nil, List.append_nil, List.take_of_length_le hle]
        at hkept

/-- Any sign with which a reference begins is kept. -/
theorem prefix_kept (hsign : IsSign sign) (h : sign <+: reference) : sign <+: kept reference := by
  obtain ⟨rest, rfl⟩ := h
  rw [kept_append (List.ne_nil_of_length_pos hsign.length_pos) hsign.printing]
  exact List.prefix_append _ _

/-! ## Kinds -/

/-- The kind of a path. -/
def pathKind (path : Text) : ReferenceKind :=
  if (extension (fileName path)).isEmpty then .dynamic else .static

/-- A foreign address is known as such if it shows its sign; otherwise it is taken for its path. -/
theorem kindOf_foreign (hsplit : split (Text.trim reference) = .ok parts)
    (hforeign : parts.scheme ≠ [] ∨ parts.host ≠ []) :
    kindOf reference =
      .ok (if Shows (Text.trim reference) then .external else pathKind (unescape parts.path)) := by
  obtain ⟨sign, hsign, hkept⟩ := exists_sign hsplit hforeign
  unfold kindOf
  dsimp only
  generalize Text.trim reference = ref at *
  by_cases hshows : Shows ref
  · have hlooks := looks_foreign_iff.mpr ⟨sign, hsign, (opens_iff_shows hsign hkept).mpr hshows⟩
    rw [if_pos hlooks, if_pos hshows]
    rfl
  · have hplain : ¬ (Text.startsWith ref "//" || hasScheme ref) = true := by
      intro hlooks
      obtain ⟨other, hother, hopening⟩ := looks_foreign_iff.mp hlooks
      have hsame := hother.unique hsign (prefix_kept hother hopening) hkept
      subst hsame
      exact hshows ((opens_iff_shows hother hkept).mp hopening)
    -- A mark of a fragment is kept, and no sign begins with it.
    have hmark : ¬ Text.startsWith ref "#" = true := by
      intro hmark
      obtain ⟨rest, rfl⟩ := Text.startsWith_iff.mp hmark
      rw [kept_append (by decide) (by decide)] at hkept
      obtain ⟨after, hafter⟩ := hkept
      cases hsign with
      | host => cases hafter
      | scheme hc hrest =>
        rw [List.append_assoc] at hafter
        rw [(List.cons.inj hafter).1] at hc
        cases hc
    rw [if_neg hplain, if_neg hmark, if_neg hshows, pathOf, hsplit]
    rfl

end Reference

/-! ## What is left alone -/

/-- A reference is left alone: it is no file, wherever it stands and whatever files there are, and
neither kind of document gives it another text. -/
structure LeftAlone (reference : Text) : Prop where
  kind : Reference.kindOf reference = .ok .external
  nowhere : ∀ (assets : Assets) (base : Text), assets.canonical reference base = .ok none
  same : ∀ (assets : Assets) (base : Text), assets.resolve reference base = .ok reference
  style : ∀ v : View, Style.rewriteReference v reference = pure reference
  markup : ∀ v : View, Markup.rewriteReference v reference = pure reference

theorem leftAlone_of_kind {reference : Text} (h : Reference.kindOf reference = .ok .external) :
    LeftAlone reference := by
  have hnowhere (assets : Assets) (base : Text) : assets.canonical reference base = .ok none :=
    Assets.canonical_of_other h nofun
  refine ⟨h, hnowhere, fun assets base => ?_, fun v => ?_, fun v => ?_⟩
  · rw [Assets.resolve_eq_map, hnowhere]
    rfl
  · unfold Style.rewriteReference
    rw [h]
    split
    · rfl
    · split <;> rfl
  · unfold Markup.rewriteReference
    rw [h]
    rfl

/-- A reference with a scheme or a host is left alone if and only if it shows the sign of that; one that
does not is treated as the path in it would be. -/
theorem foreign_left_alone_iff {reference : Text} {parts : Reference.Parts}
    (hsplit : Reference.split (Text.trim reference) = .ok parts)
    (hforeign : parts.scheme ≠ [] ∨ parts.host ≠ []) :
    (LeftAlone reference ↔ Reference.Shows (Text.trim reference)) ∧
      (¬ Reference.Shows (Text.trim reference) → Reference.kindOf reference =
        .ok (Reference.pathKind (Reference.unescape parts.path))) := by
  have hkind := Reference.kindOf_foreign hsplit hforeign
  refine ⟨⟨fun halone => ?_, fun hshows => ?_⟩, fun hhidden => ?_⟩
  · by_contra hhidden
    rw [if_neg hhidden, halone.kind] at hkind
    unfold Reference.pathKind at hkind
    split at hkind <;> cases hkind
  · rw [if_pos hshows] at hkind
    exact leftAlone_of_kind hkind
  · rwa [if_neg hhidden] at hkind

/-- The address of a style sheet elsewhere. -/
theorem shown_address_left_alone :
    (Reference.split (Text.trim " https://cdn.net/a.css") = .ok ⟨"https", "cdn.net", "/a.css", []⟩ ∧
      (("https" : Text) ≠ [] ∨ ("cdn.net" : Text) ≠ [])) ∧
    LeftAlone " https://cdn.net/a.css" := by
  have hsplit : Reference.split (Text.trim " https://cdn.net/a.css") =
      .ok ⟨"https", "cdn.net", "/a.css", []⟩ := rfl
  have hforeign : ("https" : Text) ≠ [] ∨ ("cdn.net" : Text) ≠ [] := .inl (by decide)
  exact ⟨⟨hsplit, hforeign⟩, (foreign_left_alone_iff hsplit hforeign).1.mpr (by decide)⟩

/-- With a tab between the slashes, or a new line in the scheme, the address of a style sheet elsewhere
becomes a link to the file of that name on the site. -/
theorem hidden_address_taken :
    Reference.split (Text.trim "/\t/cdn.net/a.css") = .ok ⟨[], "cdn.net", "/a.css", []⟩ ∧
    Reference.kindOf "/\t/cdn.net/a.css" = .ok .static ∧
    plainSite.canonical "/\t/cdn.net/a.css" "/" = .ok (some "/a.css") ∧
    plainSite.resolve "/\t/cdn.net/a.css" "/" = .ok "/a.css" ∧
    Reference.split (Text.trim "ht\ntp://cdn.net/a.css") = .ok ⟨"http", "cdn.net", "/a.css", []⟩ ∧
    Reference.kindOf "ht\ntp://cdn.net/a.css" = .ok .static ∧
    plainSite.canonical "ht\ntp://cdn.net/a.css" "/" = .ok (some "/a.css") ∧
    Style.rewriteReference plainView "/\t/cdn.net/a.css" ≠ pure "/\t/cdn.net/a.css" ∧
    Markup.rewriteReference plainView "/\t/cdn.net/a.css" ≠ pure "/\t/cdn.net/a.css" := by
  refine ⟨rfl, rfl, rfl, rfl, rfl, rfl, rfl, ?_, ?_⟩
  · intro h
    have hlink : Style.rewriteReference plainView "/\t/cdn.net/a.css" =
        Rewriting.link plainView.settings "/a.css" := rfl
    cases hlink.symm.trans h
  · intro h
    have hlink : Markup.rewriteReference plainView "/\t/cdn.net/a.css" =
        Rewriting.link plainView.settings "/a.css" := rfl
    cases hlink.symm.trans h

end VeiledGateway
