/-
  A comment before a style sheet, where it shows.

  Where something in a style sheet is sensitive to a comment before it, there are settings and a session
  in which the two outputs differ: one token stands for all names, all texts are cut behind their first
  code point, and the outputs are told apart at the first sensitive piece.  With what holds elsewhere
  that gives for each style sheet whether a comment before it is inert.
-/
import VeiledGateway.Proofs.Style.Commenting
import VeiledGateway.Proofs.Style.Exchanging

set_option autoImplicit false

namespace VeiledGateway.Style

open Rewriting

variable {v : View} {comment : Text} {phase : Phase} {r r' : Reached}

/-! ## Shapes of tokens -/

/-- A selector has a name behind its first code point. -/
theorem selector_shape {kind : TokenKind} {text rest : Text} (hkind : isSelector kind = true)
    (h : tokenAt (text ++ rest) = some (kind, text.length)) :
    ∃ c d name, text = c :: d :: name := by
  have hlong : 1 < text.length := by
    generalize hall : text ++ rest = all at h
    generalize text.length = size at h
    cases tokenOf_of_tokenAt h with
    | classSelector hname => exact Nat.succ_lt_succ (within_nameSize _ _ hname).1
    | identitySelector hname => exact Nat.succ_lt_succ (within_nameSize _ _ hname).1
    | _ => cases hkind
  cases text with
  | nil => cases hlong
  | cons c after =>
    cases after with
    | nil => exact absurd hlong (Nat.lt_irrefl 1)
    | cons d others => exact ⟨c, d, others, rfl⟩

/-! ## Plain settings -/

/-- Settings by which no class stays as it is, and links begin with one code point. -/
def plainSettings (x : CodePoint) : Settings where
  excludedClasses := []
  excludedClassPrefixes := []
  reservedIdentifiers := []
  minLiteralLength := 0
  linkPrefix := [x]

/-- The view of the same files with those settings. -/
def plainView (v : View) (x : CodePoint) : View :=
  { v with settings := plainSettings x }

variable {x : CodePoint} {c : Context}

theorem exists_fresh (a b : CodePoint) : ∃ x : CodePoint, x ≠ a ∧ x ≠ b := by
  by_contra hnone
  have hall (x : CodePoint) : x = a ∨ x = b := by
    by_contra hneither
    exact hnone ⟨x, not_or.mp hneither⟩
  rcases hall 'a' with h | h <;> rcases hall 'b' with h' | h' <;> rcases hall 'c' with h'' | h'' <;>
    subst_vars <;> simp_all +decide

theorem answers_className_plain (hc : c.Uniform [x]) {original new : Text}
    (h : c.Answers (className (plainSettings x) original) new) : new = [x] := by
  obtain ⟨tok, htok, rfl⟩ := h
  exact hc.token htok

theorem answers_elementId_plain (hc : c.Uniform [x]) {original new : Text}
    (h : c.Answers (elementId original) new) : new = [x] := by
  obtain ⟨tok, htok, rfl⟩ := h
  exact hc.token htok

/-- Two texts differ at a place that both have. -/
def DifferAt (k : Nat) (a b : Text) : Prop :=
  ∃ d e, a[k]? = some d ∧ b[k]? = some e ∧ d ≠ e

theorem DifferAt.symm {k : Nat} {a b : Text} (h : DifferAt k a b) : DifferAt k b a := by
  obtain ⟨d, e, hd, he, hne⟩ := h
  exact ⟨e, d, he, hd, hne.symm⟩

theorem DifferAt.append_ne {k : Nat} {a b : Text} (h : DifferAt k a b) (rest rest' : Text) :
    a ++ rest ≠ b ++ rest' := by
  obtain ⟨d, e, hd, he, hne⟩ := h
  intro heq
  have hk : k < a.length := (List.getElem?_eq_some_iff.mp hd).1
  have hk' : k < b.length := (List.getElem?_eq_some_iff.mp he).1
  have hat := congrArg (·[k]?) heq
  simp only [List.getElem?_append_left hk, List.getElem?_append_left hk', hd, he] at hat
  exact hne (Option.some.inj hat)

/-- A live reference that comes to an answer becomes another one. -/
theorem live_becomes {reference new : Text} (hc : c.Uniform [x]) (hlive : Live v reference)
    (hfinds : v.Finds reference) (h : c.Answers (rewriteReference (plainView v x) reference) new) :
    new[1]? = some x := by
  obtain ⟨hlooked, hlive⟩ := hlive
  obtain ⟨hsome, hlooked⟩ := (Bool.and_eq_true _ _).mp hlooked
  obtain ⟨assets, hassets⟩ := Option.isSome_iff_exists.mp hsome
  have hplain : (plainView v x).assets = some assets := hassets
  unfold rewriteReference at h
  rw [hplain] at h
  dsimp only at h
  rw [if_neg (by rw [(Bool.not_eq_true' _).mp hlooked]; decide)] at h
  obtain ⟨kind, hkind, h⟩ := Context.answers_bind.mp h
  have hkind := Context.answers_ofExcept.mp hkind
  rcases hlive with hreads | ⟨hfragment, hlong⟩ | ⟨hstatic, hcanonical⟩
  · exact absurd hfinds.1 hreads
  · obtain rfl := Except.ok.inj (hfragment.symm.trans hkind)
    dsimp only at h
    rw [if_pos hlong] at h
    obtain ⟨tok, htok, h⟩ := Context.answers_bind.mp h
    obtain rfl := answers_elementId_plain hc htok
    obtain rfl := Context.answers_pure.mp h
    rfl
  · obtain rfl := Except.ok.inj (hstatic.symm.trans hkind)
    dsimp only at h
    obtain ⟨path?, hpath, h⟩ := Context.answers_bind.mp h
    cases path? with
    | some path =>
      obtain ⟨tok, htok, h⟩ := h
      obtain rfl := Context.answers_pure.mp h
      rfl
    | none =>
      unfold View.pathOf? at hpath
      rw [hplain] at hpath
      obtain ⟨found?, hfound, hpath⟩ := Context.answers_bind.mp hpath
      have hfound := Context.answers_ofExcept.mp hfound
      cases found? with
      | none => exact absurd hfound (hcanonical assets hassets)
      | some path => cases Context.answers_pure.mp hpath

/-- A live import becomes another one. -/
theorem differ_rewriteImport {text new rest : Text} (hc : c.Uniform [x])
    (htoken : tokenAt (text ++ rest) = some (.string, text.length))
    (hlive : Live v (stringParts text).2) (hfinds : v.Finds (stringParts text).2)
    (hx : ∀ d, text[2]? = some d → d ≠ x)
    (h : c.Answers (rewriteImport (plainView v x) text) new) : DifferAt 2 new text := by
  obtain ⟨quote, inside, -, rfl, -⟩ := string_shape htoken
  rw [stringParts_eq] at hlive hfinds
  unfold rewriteImport at h
  rw [stringParts_eq] at h
  obtain ⟨target, htarget, h⟩ := Context.answers_bind.mp h
  obtain rfl := Context.answers_pure.mp h
  have hat := live_becomes hc hlive hfinds htarget
  obtain ⟨first, others, rfl⟩ : ∃ first others, inside = first :: others := by
    refine List.exists_cons_of_ne_nil ?_
    rintro rfl
    simp [Live, looksAt] at hlive
  have hother : target ≠ first :: others := by
    rintro rfl
    refine hx x ?_ rfl
    rw [List.getElem?_cons_succ, List.getElem?_append_left (List.getElem?_eq_some_iff.mp hat).1, hat]
  obtain ⟨d, hd⟩ : ∃ d, (quote :: (first :: others ++ [quote]))[2]? = some d := by
    cases others with
    | nil => exact ⟨quote, rfl⟩
    | cons second others => exact ⟨second, rfl⟩
  refine ⟨x, d, ?_, hd, (hx d hd).symm⟩
  rw [if_neg hother, List.singleton_append, List.cons_append, List.getElem?_cons_succ,
    List.getElem?_append_left (List.getElem?_eq_some_iff.mp hat).1, hat]

theorem length_trim_le (t : Text) : (Text.trim t).length ≤ t.length := by
  have hright (u : Text) : (Text.trimRight u).length ≤ u.length := by
    rw [Text.trimRight, List.length_reverse]
    exact Nat.le_trans (List.dropWhile_sublist _).length_le (Nat.le_of_eq List.length_reverse)
  exact Nat.le_trans (hright _) (List.dropWhile_sublist _).length_le

/-- A string that is cut has the end of a line behind its first code point. -/
theorem differ_chunkString {text new rest : Text} (hc : c.Uniform [x])
    (htoken : tokenAt (text ++ rest) = some (.string, text.length)) (hcut : Cuttable text)
    (h : c.Answers (chunkString text) new) : DifferAt 2 new text := by
  obtain ⟨quote, inside, -, rfl, -⟩ := string_shape htoken
  rw [Cuttable, stringParts_eq] at hcut
  unfold chunkString at h
  rw [stringParts_eq] at h
  dsimp only at h hcut
  rw [if_neg (by rw [hcut.1, Bool.false_or, decide_eq_true_eq, Nat.not_le]; exact hcut.2)] at h
  obtain ⟨pieces, ⟨parts, ⟨layout, hlayout, hsplit⟩, rfl⟩, h⟩ := Context.answers_bind.mp h
  obtain rfl := Context.answers_pure.mp h
  obtain rfl := hc.layout hlayout
  have hlong : 1 < inside.length := by
    exact Nat.lt_of_lt_of_le hcut.2 (length_trim_le inside)
  match inside, hlong with
  | first :: second :: others, _ =>
    obtain rfl : [[first], second :: others] = parts := Except.ok.inj hsplit
    refine ⟨CodePoint.ofChar '\\', second, rfl, rfl, ?_⟩
    rintro rfl
    simp at hcut

theorem selector_becomes {kind : TokenKind} {text new : Text} (hc : c.Uniform [x])
    (hrules : r.holdsRules = true) (hlead : Text.startsWith r.prelude "@" = false)
    (hkind : isSelector kind = true)
    (h : c.Answers (rewriteToken (plainView v x) r kind text) new) : new[1]? = some x := by
  rw [rewriteToken_of_rules hrules, hlead] at h
  cases kind with
  | classSelector =>
    obtain ⟨tok, htok, h⟩ := Context.answers_bind.mp h
    obtain rfl := answers_className_plain hc htok
    obtain rfl := Context.answers_pure.mp h
    rfl
  | identitySelector =>
    obtain ⟨tok, htok, h⟩ := Context.answers_bind.mp h
    obtain rfl := answers_elementId_plain hc htok
    obtain rfl := Context.answers_pure.mp h
    rfl
  | _ => cases hkind

theorem selector_stays {kind : TokenKind} {text : Text}
    (h : r.holdsRules = false ∨ Text.startsWith r.prelude "@" = true) (hkind : isSelector kind = true) :
    rewriteToken v r kind text = pure text := by
  have hneither : (r.holdsRules && !Text.startsWith r.prelude "@") = false := by
    rcases h with h | h <;> rw [h] <;> simp
  unfold rewriteToken
  rw [hneither]
  cases kind with
  | classSelector => rfl
  | identitySelector => rfl
  | _ => cases hkind

/-- At a sensitive piece the two outputs differ, where one token stands for all names and all texts are
cut behind their first code point. -/
theorem differ_of_sensitive {kind : TokenKind} {text rest : Text}
    (h : Beside comment phase r r') (hsensitive : Sensitive v r phase (.token kind text))
    (htoken : tokenAt (text ++ rest) = some (kind, text.length))
    (hfinds : ∀ reference, referenceAt? r (.token kind text) = some reference →
      looksAt v reference = true → v.Finds reference) :
    ∃ x, ∀ c : Context, c.Uniform [x] → ∀ new new',
      c.Answers (rewriteToken (plainView v x) r kind text) new →
      c.Answers (rewriteToken (plainView v x) r' kind text) new' → ∃ k, DifferAt k new new' := by
  have hselector {r r' : Reached} (hkind : isSelector kind = true)
      (hrules : r.holdsRules = true) (hlead : Text.startsWith r.prelude "@" = false)
      (hstays : r'.holdsRules = false ∨ Text.startsWith r'.prelude "@" = true) :
      ∃ x, ∀ c : Context, c.Uniform [x] → ∀ new new',
        c.Answers (rewriteToken (plainView v x) r kind text) new →
        c.Answers (rewriteToken (plainView v x) r' kind text) new' → DifferAt 1 new new' := by
    obtain ⟨a, d, name, rfl⟩ := selector_shape hkind htoken
    obtain ⟨x, hx, -⟩ := exists_fresh d d
    refine ⟨x, fun c hc new new' hnew hnew' => ?_⟩
    rw [selector_stays hstays hkind] at hnew'
    obtain rfl := Context.answers_pure.mp hnew'
    exact ⟨x, d, selector_becomes hc hrules hlead hkind hnew, rfl, hx⟩
  cases h with
  | first since =>
    rcases hsensitive with ⟨hkind, hlead⟩ | ⟨rfl, himport, hlive⟩
    · obtain ⟨x, hx⟩ := @hselector ⟨[], since ++ (commented comment).reverse⟩ ⟨[], since⟩ hkind rfl
        (startsWith_prelude_first since) (.inr hlead)
      exact ⟨x, fun c hc new new' hnew hnew' => ⟨1, (hx c hc new' new hnew' hnew).symm⟩⟩
    · obtain ⟨x, hx, -⟩ := exists_fresh (text[2]?.getD default) default
      refine ⟨x, fun c hc new new' hnew hnew' => ⟨2, ?_⟩⟩
      rw [rewriteToken_of_rules rfl, startsWith_import_first] at hnew'
      obtain rfl := Context.answers_pure.mp hnew'
      rw [rewriteToken_of_rules rfl, himport] at hnew
      refine differ_rewriteImport hc htoken hlive (hfinds _ (if_pos himport) hlive.1) ?_ hnew
      rintro d hd rfl
      exact hx (by rw [hd]; rfl)
  | within h since =>
    cases h with
    | nil =>
      rcases hsensitive with ⟨hkind, hlead⟩ | ⟨rfl, himport, hcut⟩
      · obtain ⟨x, hx⟩ := @hselector ⟨[.group], since⟩ ⟨[.declarations], since⟩ hkind rfl hlead
          (.inl rfl)
        exact ⟨x, fun c hc new new' hnew hnew' => ⟨1, hx c hc new new' hnew hnew'⟩⟩
      · obtain ⟨x, -⟩ := exists_fresh default default
        refine ⟨x, fun c hc new new' hnew hnew' => ⟨2, ?_⟩⟩
        rw [rewriteToken_of_rules rfl, himport] at hnew
        obtain rfl := Context.answers_pure.mp hnew
        rw [rewriteToken_of_declarations rfl] at hnew'
        have hprelude : Reached.prelude ⟨[] ++ [Block.group], since⟩
            = Reached.prelude ⟨[] ++ [.declarations], since⟩ := rfl
        rw [hprelude] at himport
        dsimp only at hnew'
        rw [himport] at hnew'
        exact (differ_chunkString hc htoken hcut hnew').symm
    | cons _ _ => exact absurd hsensitive id
  | past h since => exact absurd hsensitive id

/-! ## All pieces -/

/-- What is named behind the comment is named without it. -/
theorem referenceAt?_of_beside (h : Beside comment phase r r') {piece : Piece} {reference : Text}
    (hat : referenceAt? r' piece = some reference) : referenceAt? r piece = some reference := by
  cases h with
  | first since =>
    cases piece with
    | token kind text =>
      cases kind with
      | string =>
        rw [referenceAt?, startsWith_import_first] at hat
        cases hat
      | _ => exact hat
    | other c => exact hat
  | within h since => exact hat
  | past h since => exact hat

theorem mem_referencesFrom_of_beside (h : Beside comment phase r r') {pieces : List Piece}
    {reference : Text} (hmem : reference ∈ referencesFrom r' pieces) :
    reference ∈ referencesFrom r pieces := by
  induction pieces generalizing phase r r' with
  | nil => exact hmem
  | cons piece rest ih =>
    rcases List.mem_append.mp hmem with hat | hrest
    · refine List.mem_append_left _ (Option.mem_toList.mpr ?_)
      exact referenceAt?_of_beside h (Option.mem_toList.mp hat)
    · exact List.mem_append_right _ (ih (h.after piece) hrest)

/-- Two rewritings of the same pieces differ in every such context that answers both. -/
def Differ (v : View) (x : CodePoint) (r r' : Reached) (pieces : List Piece) : Prop :=
  ∀ c : Context, c.Uniform [x] → ∀ news news', c.Answers (rewritePieces (plainView v x) r pieces) news →
    c.Answers (rewritePieces (plainView v x) r' pieces) news' → news.flatten ≠ news'.flatten

/-- They differ behind a piece at which nothing shows. -/
theorem Differ.cons {piece : Piece} {rest : List Piece} (h : Beside comment phase r r')
    (hquiet : ¬ Sensitive v r phase piece)
    (hrest : Differ v x (r.after piece) (r'.after piece) rest) : Differ v x r r' (piece :: rest) := by
  intro c hc news news' hnews hnews'
  obtain ⟨new, others, rfl, hnew, hothers⟩ := answers_cons hnews
  obtain ⟨new', others', rfl, hnew', hothers'⟩ := answers_cons hnews'
  -- The settings take no part in what shows at a piece.
  have hquiet : ¬ Sensitive (plainView v x) r phase piece := hquiet
  obtain rfl := (sameRuns_rewritePiece h hquiet).answer_eq hnew hnew'
  rw [List.flatten_cons, List.flatten_cons, ne_eq, List.append_cancel_left_eq]
  exact hrest c hc others others' hothers hothers'

/-- Where something shows, the two outputs differ from the first such piece on. -/
theorem differ_of_exposed {t : Text} {pieces : List Piece} (hscans : Scans t pieces)
    (h : Beside comment phase r r') (hexposed : Exposed v phase r pieces)
    (hfinds : ∀ reference ∈ referencesFrom r pieces, looksAt v reference = true → v.Finds reference) :
    ∃ x, Differ v x r r' pieces := by
  induction hscans generalizing phase r r' with
  | nil => cases hexposed
  | @token kind text rest pieces htoken _ ih =>
    by_cases hsensitive : Sensitive v r phase (.token kind text)
    · obtain ⟨x, hx⟩ := differ_of_sensitive h hsensitive htoken fun reference hat =>
        hfinds reference (List.mem_append_left _ (Option.mem_toList.mpr hat))
      refine ⟨x, fun c hc news news' hnews hnews' => ?_⟩
      obtain ⟨new, others, rfl, hnew, -⟩ := answers_cons hnews
      obtain ⟨new', others', rfl, hnew', -⟩ := answers_cons hnews'
      obtain ⟨k, hk⟩ := hx c hc new new' hnew hnew'
      exact hk.append_ne _ _
    · obtain ⟨x, hx⟩ := ih (h.after _) (hexposed.later_of_not hsensitive) fun reference hmem =>
        hfinds reference (List.mem_append_right _ hmem)
      exact ⟨x, hx.cons h hsensitive⟩
  | @other c rest pieces _ _ ih =>
    have hquiet : ¬ Sensitive v r phase (.other c) := by
      intro hsensitive
      rcases phase with _ | (_ | _) | _ <;> exact hsensitive
    obtain ⟨x, hx⟩ := ih (h.after _) (hexposed.later_of_not hquiet) fun reference hmem =>
      hfinds reference (List.mem_append_right _ hmem)
    exact ⟨x, hx.cons h hquiet⟩

/-! ## When a comment is inert -/

/-- A session that has the token of a class. -/
def tokenContext : Context :=
  .ofMappings "k" { Mappings.empty with classNames := [("a", "t")] } (Twister.ofSeed 0)

/-- Style sheets without files. -/
def sheetView : View :=
  ⟨Settings.default, none, "/"⟩

end VeiledGateway.Style
