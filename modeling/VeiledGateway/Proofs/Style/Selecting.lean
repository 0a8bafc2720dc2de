/-
  Selecting: what a style sheet asks for, and when it comes to an output.

  Without references a sheet asks for the names of its selectors, as they are decoded, and for the pieces
  of its strings.  An escape by a code may stand for a surrogate half, which has no encoding, so that there
  is no token for the name it stands in.  This, and a layout that is none, is all that keeps a sheet from
  being rewritten.
-/
import VeiledGateway.Proofs.Context.Demanding
import VeiledGateway.Proofs.Style.Commenting
import VeiledGateway.Proofs.Style.Keeping

set_option autoImplicit false

namespace VeiledGateway.Style

variable {spelling name after : Text} {code : Nat}

/-! ## Codes in a spelling -/

/-- An escape by a code stands in a spelling.  What is before it is spelled too, so its backslash is not
one that an escape is for, and the digits are all that belong to it. -/
inductive HasCode : Text → Nat → Prop
  | mk {before name digits behind : Text}
      (hbefore : Spells isNamePart (CodePoint.ofChar '\\' :: (digits ++ behind)) before name)
      (hne : digits ≠ [])
      (hdigits : ((digits ++ behind).take 6).takeWhile CodePoint.isHexDigit = digits) :
      HasCode (before ++ CodePoint.ofChar '\\' :: (digits ++ behind)) (hexNumber digits)

theorem HasCode.behind {part others : Text} (hpart : Spells isNamePart others part name)
    (h : HasCode others code) : HasCode (part ++ others) code := by
  cases h with
  | mk hbefore hne hdigits =>
    rw [← List.append_assoc]
    exact .mk (hpart.append hbefore) hne hdigits

/-- What a code stands for is in the name that is decoded. -/
theorem HasCode.mem (h : HasCode spelling code) : codePointOf code ∈ unescape spelling := by
  cases h with
  | mk hbefore hne hdigits =>
    obtain ⟨left, hleft, hdecoded⟩ := unescape_append (by decide) hbefore
    obtain ⟨left, rfl⟩ := Nat.exists_eq_add_one_of_ne_zero (Nat.ne_zero_of_lt hleft)
    rw [hdecoded, unescapeFrom_code left hne hdigits]
    exact List.mem_append_right _ List.mem_cons_self

/-- A code point is written in a spelling: it stands there, or an escape by its code does. -/
def WrittenIn (spelling : Text) (c : CodePoint) : Prop :=
  c ∈ spelling ∨ ∃ code, HasCode spelling code ∧ c = codePointOf code

theorem WrittenIn.behind {part others : Text} {c : CodePoint} (hpart : Spells isNamePart others part name)
    (h : WrittenIn others c) : WrittenIn (part ++ others) c := by
  rcases h with hmem | ⟨code, hcode, rfl⟩
  · exact .inl (List.mem_append_right _ hmem)
  · exact .inr ⟨code, hcode.behind hpart, rfl⟩

/-- All of a name is written in its spelling. -/
theorem writtenIn_of_spells (h : Spells isNamePart [] spelling name) : ∀ c ∈ name, WrittenIn spelling c := by
  induction h with
  | nil => exact nofun
  | @plain c spelling name hc _ ih =>
    have hpart : Spells isNamePart spelling [c] [c] := .plain hc .nil
    exact List.forall_mem_cons.mpr ⟨.inl List.mem_cons_self, fun d hd => (ih d hd).behind hpart⟩
  | @sign c spelling name hhex hline _ ih =>
    have hpart : Spells isNamePart spelling [CodePoint.ofChar '\\', c] [c] := .sign hhex hline .nil
    exact List.forall_mem_cons.mpr
      ⟨.inl (List.mem_cons_of_mem _ List.mem_cons_self), fun d hd => (ih d hd).behind hpart⟩
  | @code digits spelling name blank hne hsize hdigits hblank _ ih =>
    have hpart : Spells isNamePart spelling (CodePoint.ofChar '\\' :: (digits ++ [blank]))
        [codePointOf (hexNumber digits)] := .code hne hsize hdigits hblank .nil
    have hcode : ((digits ++ blank :: spelling).take 6).takeWhile CodePoint.isHexDigit = digits :=
      takeWhile_code_blank hsize hdigits hblank
    refine List.forall_mem_cons.mpr ⟨.inr ⟨_, .mk .nil hne hcode, rfl⟩, fun d hd => ?_⟩
    have hbehind := (ih d hd).behind hpart
    rwa [List.cons_append, List.append_assoc, List.singleton_append] at hbehind
  | @bare digits spelling name hne hsize hdigits hnext _ ih =>
    rw [List.append_nil] at hnext
    have hpart : Spells isNamePart spelling (CodePoint.ofChar '\\' :: (digits ++ []))
        [codePointOf (hexNumber digits)] := .bare hne hsize hdigits hnext .nil
    have hcode := takeWhile_code hsize hdigits fun d hd => (hnext d hd).2
    refine List.forall_mem_cons.mpr ⟨.inr ⟨_, .mk .nil hne hcode, rfl⟩, fun d hd => ?_⟩
    have hbehind := (ih d hd).behind hpart
    rwa [List.append_nil] at hbehind

/-! ### Surrogate halves -/

/-- The code of a surrogate half. -/
def IsHalf (code : Nat) : Prop :=
  0xD800 ≤ code ∧ code ≤ 0xDFFF

/-- A code that stands for the replacement in CSS. -/
def Forbidden (code : Nat) : Prop :=
  code = 0 ∨ IsHalf code ∨ 0x10FFFF < code

theorem isSurrogate_codePointOf (code : Nat) : (codePointOf code).isSurrogate = true ↔ IsHalf code := by
  unfold codePointOf
  split
  · rename_i hzero
    exact iff_of_false (by decide) fun h => by have := h.1; omega
  · by_cases hcode : code < 0x110000
    · have hval : (CodePoint.ofNat code).val = code := by
        rw [CodePoint.ofNat, CodePoint.ofNat?, dif_pos hcode]
        rfl
      rw [CodePoint.isSurrogate, hval, Bool.and_eq_true, decide_eq_true_eq, decide_eq_true_eq]
      exact Iff.rfl
    · rw [CodePoint.ofNat, CodePoint.ofNat?, dif_neg hcode]
      exact iff_of_false (by decide) fun h => by have := h.2; omega

/-- Of the codes that are forbidden, those of surrogate halves do not stand for the replacement. -/
theorem codePointOf_forbidden (h : Forbidden code) :
    codePointOf code = CodePoint.replacement ↔ ¬ IsHalf code := by
  constructor
  · intro hreplaced hhalf
    rw [← isSurrogate_codePointOf, hreplaced] at hhalf
    exact absurd hhalf (by decide)
  · intro hhalf
    rcases h with rfl | hhalf' | hbeyond
    · rfl
    · exact absurd hhalf' hhalf
    · rw [codePointOf, if_neg (by omega), CodePoint.ofNat, CodePoint.ofNat?, dif_neg (by omega)]
      rfl

/-- An escape by the code of a surrogate half stands in a spelling. -/
def CodesHalf (spelling : Text) : Prop :=
  ∃ code, HasCode spelling code ∧ IsHalf code

theorem not_codesHalf_of_plain (h : (unescape spelling).Plain) : ¬ CodesHalf spelling := by
  rintro ⟨code, hcode, hhalf⟩
  have hplain := h _ hcode.mem
  rw [(isSurrogate_codePointOf code).mpr hhalf] at hplain
  cases hplain

/-- A name is plain unless a surrogate half is written in it by its code. -/
theorem plain_unescape_iff (hname : IsName after spelling) (hplain : spelling.Plain) :
    (unescape spelling).Plain ↔ ¬ CodesHalf spelling := by
  refine ⟨not_codesHalf_of_plain, fun h => ?_⟩
  obtain ⟨name, hspells⟩ := hname.spells
  rw [unescape_of_spells (by decide) hspells]
  intro c hc
  rcases writtenIn_of_spells hspells.last c hc with hmem | ⟨code, hcode, rfl⟩
  · exact hplain c hmem
  · exact Bool.eq_false_iff.mpr fun hhalf => h ⟨code, hcode, (isSurrogate_codePointOf code).mp hhalf⟩

/-! ## What a sheet asks for -/

namespace Selector

/-- The table of the names that a selector selects by. -/
def naming : Selector → Naming
  | .byClass => .className
  | .byIdentity => .elementId

/-- A token is asked for, that is, for all names but those of excluded classes. -/
def asks (settings : Settings) : Selector → Text → Bool
  | .byClass, name => !settings.isExcludedClass name
  | .byIdentity, _ => true

def demands (settings : Settings) (selector : Selector) (name : Text) : List Demand :=
  if selector.asks settings name then [.name selector.naming name] else []

theorem demands_request (settings : Settings) (selector : Selector) (name : Text) :
    (selector.request settings name).Demands (selector.demands settings name) := by
  cases selector with
  | byIdentity => exact ⟨[], rfl, fun _ => rfl⟩
  | byClass =>
    rw [request, Rewriting.className, demands, asks]
    cases settings.isExcludedClass name with
    | true => exact rfl
    | false => exact ⟨[], rfl, fun _ => rfl⟩

end Selector

/-- The selector at a piece, and its name as it is written. -/
def selectorAt? (r : Reached) : Piece → Option (Selector × Text)
  | .token .classSelector text => if r.inSelector then some (.byClass, text.drop 1) else none
  | .token .identitySelector text => if r.inSelector then some (.byIdentity, text.drop 1) else none
  | _ => none

/-- What is inside the string at a piece, if it is cut into pieces. -/
def cutAt? (r : Reached) : Piece → Option Text
  | .token .string text =>
    if r.inImport = false ∧ r.holdsRules = false ∧ Cuttable text then some (stringParts text).2 else none
  | _ => none

/-- What a piece asks for where so much has been reached. -/
def demandsAt (settings : Settings) (r : Reached) (piece : Piece) : List Demand :=
  ((selectorAt? r piece).toList.flatMap fun selector =>
    selector.1.demands settings (unescape selector.2)) ++ (cutAt? r piece).toList.map Demand.pieces

/-- The selectors of a sheet. -/
def selectors (source : Text) : List (Selector × Text) :=
  (placesFrom ⟨[], []⟩ (scan source)).filterMap fun place => selectorAt? place.1 place.2

/-- The strings of a sheet that are cut into pieces. -/
def cutStrings (source : Text) : List Text :=
  (placesFrom ⟨[], []⟩ (scan source)).filterMap fun place => cutAt? place.1 place.2

/-- What a sheet asks for, in the order in which it does. -/
def demands (settings : Settings) (source : Text) : List Demand :=
  (placesFrom ⟨[], []⟩ (scan source)).flatMap fun place => demandsAt settings place.1 place.2

section Demands

variable {v : View}

theorem rewriteReference_of_none (hassets : v.assets = none) (reference : Text) :
    rewriteReference v reference = pure reference := by
  rw [rewriteReference, hassets]

theorem rewriteAddress_of_none (hassets : v.assets = none) (text : Text) :
    rewriteAddress v text = pure text := by
  rw [rewriteAddress]
  dsimp only
  rw [rewriteReference_of_none hassets, pure_bind, if_pos rfl]

theorem rewriteImport_of_none (hassets : v.assets = none) (text : Text) :
    rewriteImport v text = pure text := by
  rw [rewriteImport]
  dsimp only
  rw [rewriteReference_of_none hassets, pure_bind, if_pos rfl]

theorem demands_chunkString {text : Text} (h : Cuttable text) :
    (chunkString text).Demands [.pieces (stringParts text).2] := by
  have hnot : ¬ (List.contains (stringParts text).2 (CodePoint.ofChar '\\') ||
      decide ((Text.trim (stringParts text).2).length ≤ 1)) = true := by
    rw [h.1, Bool.false_or, decide_eq_true_eq]
    exact Nat.not_le_of_lt h.2
  rw [chunkString]
  dsimp only
  rw [if_neg hnot]
  exact ⟨[], rfl, fun _ => rfl⟩

/-- What is asked for where a selector stands. -/
theorem demands_selector (r : Reached) (selector : Selector) (text : Text) :
    (rewriteToken v r selector.kind text).Demands (demandsAt v.settings r (.token selector.kind text)) := by
  have hat : demandsAt v.settings r (.token selector.kind text) =
      if r.inSelector then selector.demands v.settings (unescape (text.drop 1)) else [] := by
    cases selector <;> cases hr : r.inSelector <;> simp [demandsAt, selectorAt?, cutAt?, Selector.kind, hr]
  rw [rewriteToken_inSelector, hat]
  split
  · rw [← List.append_nil (selector.demands v.settings _)]
    exact (selector.demands_request _ _).bind fun _ => Rewriting.demands_pure _
  · exact Rewriting.demands_pure _

theorem demands_string (hassets : v.assets = none) (r : Reached) (text : Text) :
    (rewriteToken v r .string text).Demands (demandsAt v.settings r (.token .string text)) := by
  have hat : demandsAt v.settings r (.token .string text) =
      if r.inImport = false ∧ r.holdsRules = false ∧ Cuttable text then [.pieces (stringParts text).2]
      else [] := by
    simp only [demandsAt, selectorAt?, cutAt?]
    split <;> rfl
  rw [rewriteToken_string, hat]
  cases himport : r.inImport with
  | true =>
    rw [if_pos rfl, rewriteImport_of_none hassets, if_neg nofun]
    exact Rewriting.demands_pure _
  | false =>
    rw [if_neg nofun]
    cases hrules : r.holdsRules with
    | true =>
      rw [if_neg nofun, if_neg nofun]
      exact Rewriting.demands_pure _
    | false =>
      rw [Bool.not_false, if_pos rfl]
      by_cases hcut : Cuttable text
      · rw [if_pos ⟨rfl, rfl, hcut⟩]
        exact demands_chunkString hcut
      · rw [if_neg fun h => hcut h.2.2, chunkString_of_not_cuttable hcut]
        exact Rewriting.demands_pure _

theorem demands_rewritePiece (hassets : v.assets = none) (r : Reached) (piece : Piece) :
    (rewritePiece v r piece).Demands (demandsAt v.settings r piece) := by
  cases piece with
  | other c => exact Rewriting.demands_pure _
  | token kind text =>
    cases kind with
    | classSelector => exact demands_selector r .byClass text
    | identitySelector => exact demands_selector r .byIdentity text
    | string => exact demands_string hassets r text
    | address =>
      change (rewriteAddress v text).Demands []
      rw [rewriteAddress_of_none hassets]
      exact Rewriting.demands_pure _
    | comment | opening | closing | semicolon => exact Rewriting.demands_pure _

theorem demands_rewritePieces (hassets : v.assets = none) (r : Reached) (pieces : List Piece) :
    (rewritePieces v r pieces).Demands
      ((placesFrom r pieces).flatMap fun place => demandsAt v.settings place.1 place.2) := by
  induction pieces generalizing r with
  | nil => exact Rewriting.demands_pure _
  | cons piece pieces ih =>
    rw [rewritePieces_cons, placesFrom, List.flatMap_cons]
    refine (demands_rewritePiece hassets r piece).bind fun _ => ?_
    rw [← List.append_nil (List.flatMap _ _)]
    exact (ih _).bind fun _ => Rewriting.demands_pure _

/-- Without assets a sheet asks for the same whatever it is answered. -/
theorem demands_rewrite (hassets : v.assets = none) (source : Text) :
    (rewrite v source).Demands (demands v.settings source) := by
  rw [rewrite, demands, ← List.append_nil (List.flatMap _ _)]
  exact (demands_rewritePieces hassets _ _).bind fun _ => Rewriting.demands_pure _

end Demands

/-! ## When a sheet is rewritten -/

theorem mem_of_mem_placesFrom {r r' : Reached} {piece : Piece} {pieces : List Piece}
    (h : (r', piece) ∈ placesFrom r pieces) : piece ∈ pieces := by
  induction pieces generalizing r with
  | nil => cases h
  | cons first pieces ih =>
    rcases List.mem_cons.mp h with heq | hrest
    · exact (Prod.mk.inj heq).2 ▸ List.mem_cons_self
    · exact List.mem_cons_of_mem _ (ih hrest)

/-- A token among the pieces of a text is read as one somewhere. -/
theorem Scans.exists_tokenAt {t text : Text} {kind : TokenKind} {pieces : List Piece} (h : Scans t pieces)
    (hmem : Piece.token kind text ∈ pieces) : ∃ rest, tokenAt (text ++ rest) = some (kind, text.length) := by
  induction h with
  | nil => cases hmem
  | @token _ _ rest _ htoken _ ih =>
    rcases List.mem_cons.mp hmem with heq | hrest
    · obtain ⟨rfl, rfl⟩ := Piece.token.inj heq
      exact ⟨rest, htoken⟩
    · exact ih hrest
  | other _ _ ih =>
    rcases List.mem_cons.mp hmem with heq | hrest
    · cases heq
    · exact ih hrest

theorem mem_of_mem_scan {source : Text} {piece : Piece} (h : piece ∈ scan source) :
    ∀ c ∈ piece.text, c ∈ source := by
  intro c hc
  rw [← (scans_scan source).flatten]
  exact List.mem_flatten.mpr ⟨piece.text, List.mem_map_of_mem h, hc⟩

theorem selectorAt?_eq_some {r : Reached} {piece : Piece} {selector : Selector}
    (h : selectorAt? r piece = some (selector, spelling)) :
    ∃ text, piece = .token selector.kind text ∧ spelling = text.drop 1 := by
  unfold selectorAt? at h
  split at h
  · split at h
    · obtain ⟨rfl, rfl⟩ := Prod.mk.inj (Option.some.inj h)
      exact ⟨_, rfl, rfl⟩
    · cases h
  · split at h
    · obtain ⟨rfl, rfl⟩ := Prod.mk.inj (Option.some.inj h)
      exact ⟨_, rfl, rfl⟩
    · cases h
  · cases h

/-- The selectors of a sheet have names, which stand in the sheet as they are written. -/
theorem isName_of_mem_selectors {source : Text} {selector : Selector}
    (h : (selector, spelling) ∈ selectors source) :
    (∃ after, IsName after spelling) ∧ ∀ c ∈ spelling, c ∈ source := by
  obtain ⟨⟨r, piece⟩, hplace, hat⟩ := List.mem_filterMap.mp h
  obtain ⟨text, rfl, rfl⟩ := selectorAt?_eq_some hat
  have hmem := mem_of_mem_placesFrom hplace
  obtain ⟨rest, htoken⟩ := (scans_scan source).exists_tokenAt hmem
  obtain ⟨name, rfl, hname⟩ := selector_parts selector htoken
  exact ⟨⟨rest, hname⟩, fun c hc => mem_of_mem_scan hmem c (List.mem_cons_of_mem _ hc)⟩

/-- The name of a selector of a plain sheet is plain unless a surrogate half is written in it by its code. -/
theorem plain_unescape_of_mem {source : Text} {selector : Selector} (hsource : source.Plain)
    (h : (selector, spelling) ∈ selectors source) : (unescape spelling).Plain ↔ ¬ CodesHalf spelling := by
  obtain ⟨⟨after, hname⟩, hmem⟩ := isName_of_mem_selectors h
  exact plain_unescape_iff hname fun c hc => hsource c (hmem c hc)

theorem forall_mem_demands {settings : Settings} {source : Text} {p : Demand → Prop} :
    (∀ demand ∈ demands settings source, p demand) ↔
      (∀ selector ∈ selectors source, selector.1.asks settings (unescape selector.2) = true →
        p (.name selector.1.naming (unescape selector.2))) ∧
      ∀ text ∈ cutStrings source, p (.pieces text) := by
  have hselector (selector : Selector) (name : Text) :
      (∀ demand ∈ selector.demands settings name, p demand) ↔
        (selector.asks settings name = true → p (.name selector.naming name)) := by
    rw [Selector.demands]
    cases selector.asks settings name <;> simp
  simp only [demands, selectors, cutStrings, demandsAt, List.forall_mem_flatMap, List.forall_mem_append,
    List.forall_mem_filterMap, List.forall_mem_map, Option.mem_toList, forall_and, hselector]

variable {v : View} {c : Context} {source : Text}

/-- Without assets a plain sheet comes to an output exactly if the names in which surrogate halves are written
have tokens already, and the layouts that its strings have are layouts. -/
theorem comes_iff (hassets : v.assets = none) (hkey : c.key.Plain) (hsource : source.Plain) :
    (∃ out, (c.run (rewrite v source)).1 = .ok out) ↔
      (∀ selector ∈ selectors source, CodesHalf selector.2 →
        selector.1.asks v.settings (unescape selector.2) = true →
          ∃ tok, (c.table selector.1.naming).value? (unescape selector.2) = some tok) ∧
      ∀ text ∈ cutStrings source, c.Grants (.pieces text) := by
  rw [(demands_rewrite hassets source).comes_iff c, forall_mem_demands]
  refine and_congr_left fun _ => forall₂_congr fun selector hselector => ?_
  rw [Context.Grants, and_iff_left hkey, plain_unescape_of_mem hsource hselector]
  constructor
  · exact fun h hhalf hasks => (h hasks).resolve_right fun hnot => hnot hhalf
  · intro h hasks
    by_cases hhalf : CodesHalf selector.2
    · exact .inl (h hhalf hasks)
    · exact .inr hhalf

/-- A sheet comes to an output, the names of its selectors are sequences of scalar values, and the codes in
them that CSS forbids stand for the replacement. -/
structure Endures (v : View) (c : Context) (source : Text) : Prop where
  comes : ∃ out, (c.run (rewrite v source)).1 = .ok out
  scalar : ∀ selector ∈ selectors source, (unescape selector.2).IsScalar
  replaced : ∀ selector ∈ selectors source, ∀ code, HasCode selector.2 code → Forbidden code →
    codePointOf code = CodePoint.replacement

end VeiledGateway.Style
