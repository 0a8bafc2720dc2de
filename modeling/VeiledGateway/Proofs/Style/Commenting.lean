/-
  A comment before a style sheet.

  The prelude of a statement is the text since the last brace or semicolon, with the comments in it.
  A comment before the first statement therefore hides the name of its rule: names before its block are
  taken for those of selectors, the target of an import is taken for any other string, and the block of
  a group is taken for one of declarations.  `Sensitive` says at which tokens that shows; what comes
  after the first statement is rewritten as it was.
-/
import VeiledGateway.Proofs.Rewriting.Comparing
import VeiledGateway.Proofs.Style.Referring
import VeiledGateway.Proofs.Style.Scanning

set_option autoImplicit false

namespace VeiledGateway.Style

open Rewriting

variable {v : View}

/-! ## How far the first statement goes -/

/-- Where one is in a style sheet: in the first statement before its block, in the block of a group
that the first statement opens, so many blocks deep, or past all that. -/
inductive Phase where
  | first
  | within (depth : Nat)
  | past

/-- Where one is after a piece. -/
def Phase.after (r : Reached) (piece : Piece) : Phase → Phase
  | .first =>
    match piece with
    | .token .opening _ => if blockAfter r = .group then .within 0 else .past
    | .token .closing _ => .past
    | .token .semicolon _ => .past
    | _ => .first
  | .within depth =>
    match piece with
    | .token .opening _ => .within (depth + 1)
    | .token .closing _ =>
      match depth with
      | 0 => .past
      | depth + 1 => .within depth
    | _ => .within depth
  | .past => .past

/-- A reference is not left as it is, or comes to no answer. -/
def Live (v : View) (reference : Text) : Prop :=
  looksAt v reference = true ∧
    (¬ Reference.Reads reference ∨
      Reference.kindOf reference = .ok .fragment ∧ 1 < reference.length ∨
      Reference.kindOf reference = .ok .static ∧
        ∀ assets, v.assets = some assets → assets.canonical reference v.base ≠ .ok none)

/-- A string is cut into pieces in declarations. -/
def Cuttable (text : Text) : Prop :=
  List.contains (stringParts text).2 (CodePoint.ofChar '\\') = false ∧
    1 < (Text.trim (stringParts text).2).length

instance (text : Text) : Decidable (Cuttable text) :=
  inferInstanceAs (Decidable (_ ∧ _))

def isSelector : TokenKind → Bool
  | .classSelector => true
  | .identitySelector => true
  | _ => false

/-- Whether the first statement begins with the name of a rule shows at a piece. -/
def Sensitive (v : View) (r : Reached) : Phase → Piece → Prop
  | .first, .token kind text =>
    isSelector kind = true ∧ Text.startsWith r.prelude "@" = true ∨
      kind = .string ∧ Text.startsWith (Text.lower r.prelude) "@import" = true ∧
        Live v (stringParts text).2
  | .within 0, .token kind text =>
    isSelector kind = true ∧ Text.startsWith r.prelude "@" = false ∨
      kind = .string ∧ Text.startsWith (Text.lower r.prelude) "@import" = false ∧ Cuttable text
  | _, _ => False

/-- It shows at one of the pieces from a place on. -/
inductive Exposed (v : View) : Phase → Reached → List Piece → Prop
  | here {phase : Phase} {r : Reached} {piece : Piece} {rest : List Piece}
      (h : Sensitive v r phase piece) : Exposed v phase r (piece :: rest)
  | later {phase : Phase} {r : Reached} {piece : Piece} {rest : List Piece}
      (h : Exposed v (phase.after r piece) (r.after piece) rest) : Exposed v phase r (piece :: rest)

/-- Something in a style sheet depends on its first statement beginning with the name of a rule. -/
def CommentSensitive (v : View) (source : Text) : Prop :=
  Exposed v .first ⟨[], []⟩ (scan source)

theorem Exposed.later_of_not {v : View} {phase : Phase} {r : Reached} {piece : Piece}
    {rest : List Piece} (h : Exposed v phase r (piece :: rest)) (hquiet : ¬ Sensitive v r phase piece) :
    Exposed v (phase.after r piece) (r.after piece) rest := by
  cases h with
  | here hpiece => exact absurd hpiece hquiet
  | later hrest => exact hrest

theorem Exposed.of_settings {v : View} {settings : Settings} {phase : Phase} {r : Reached}
    {pieces : List Piece} (h : Exposed { v with settings := settings } phase r pieces) :
    Exposed v phase r pieces := by
  induction h with
  | here hpiece => exact .here hpiece
  | later _ ih => exact .later ih

/-! ## Two states side by side -/

/-- A text as a comment. -/
def commented (comment : Text) : Text :=
  ("/*" : Text) ++ comment ++ ("*/" : Text)

/-- Two blocks that hold rules, or neither of them. -/
def SameBlock (a b : Block) : Prop :=
  a = .group ↔ b = .group

/-- What has been reached without the comment and with it. -/
inductive Beside (comment : Text) : Phase → Reached → Reached → Prop
  | first (since : Text) :
    Beside comment .first ⟨[], since⟩ ⟨[], since ++ (commented comment).reverse⟩
  | within {inner inner' : List Block} (h : List.Forall₂ SameBlock inner inner') (since : Text) :
    Beside comment (.within inner.length) ⟨inner ++ [.group], since⟩
      ⟨inner' ++ [.declarations], since⟩
  | past {blocks blocks' : List Block} (h : List.Forall₂ SameBlock blocks blocks') (since : Text) :
    Beside comment .past ⟨blocks, since⟩ ⟨blocks', since⟩

variable {comment : Text} {phase : Phase} {r r' : Reached}

theorem holdsRules_cons_congr {a b : Block} (h : SameBlock a b) (rest rest' : List Block)
    (since since' : Text) :
    Reached.holdsRules ⟨a :: rest, since⟩ = Reached.holdsRules ⟨b :: rest', since'⟩ := by
  rw [Bool.eq_iff_iff]
  simpa only [Reached.holdsRules, beq_iff_eq, SameBlock] using h

theorem holdsRules_congr {blocks blocks' : List Block} (h : List.Forall₂ SameBlock blocks blocks')
    (since since' : Text) : Reached.holdsRules ⟨blocks, since⟩ = Reached.holdsRules ⟨blocks', since'⟩ := by
  cases h with
  | nil => rfl
  | cons hfirst _ => exact holdsRules_cons_congr hfirst _ _ since since'

/-- What follows the same text is a block of the same kind. -/
theorem sameBlock_blockAfter (blocks blocks' : List Block) (since : Text) :
    SameBlock (blockAfter ⟨blocks, since⟩) (blockAfter ⟨blocks', since⟩) := by
  unfold SameBlock blockAfter Reached.prelude
  dsimp only
  split
  · exact Iff.rfl
  · constructor <;> intro h <;> split at h <;> cases h

theorem prelude_first (since : Text) :
    ∃ rest, Reached.prelude ⟨[], since ++ (commented comment).reverse⟩
      = CodePoint.ofChar '/' :: rest := by
  refine ⟨("*" : Text) ++ comment ++ ("*/" : Text) ++ since.reverse, ?_⟩
  rw [Reached.prelude, List.reverse_append, List.reverse_reverse]
  rfl

/-- Behind the comment no prelude begins with the name of a rule. -/
theorem startsWith_prelude_first (since : Text) :
    Text.startsWith (Reached.prelude ⟨[], since ++ (commented comment).reverse⟩) "@" = false := by
  obtain ⟨rest, hrest⟩ := @prelude_first comment since
  rw [hrest]
  rfl

theorem startsWith_import_first (since : Text) :
    Text.startsWith (Text.lower (Reached.prelude ⟨[], since ++ (commented comment).reverse⟩)) "@import"
      = false := by
  obtain ⟨rest, hrest⟩ := @prelude_first comment since
  rw [hrest]
  rfl

theorem blockAfter_first (since : Text) :
    blockAfter ⟨[], since ++ (commented comment).reverse⟩ = .declarations := by
  rw [blockAfter, startsWith_prelude_first]
  rfl

theorem Beside.extend (h : Beside comment phase r r') (text : Text) :
    Beside comment phase ⟨r.blocks, text.reverse ++ r.since⟩ ⟨r'.blocks, text.reverse ++ r'.since⟩ := by
  cases h with
  | first since =>
    rw [← List.append_assoc]
    exact .first (text.reverse ++ since)
  | within h since => exact .within h (text.reverse ++ since)
  | past h since => exact .past h (text.reverse ++ since)

theorem Beside.after_opening (h : Beside comment phase r r') (text : Text) :
    Beside comment (phase.after r (.token .opening text)) ⟨blockAfter r :: r.blocks, []⟩
      ⟨blockAfter r' :: r'.blocks, []⟩ := by
  cases h with
  | first since =>
    rw [blockAfter_first, Phase.after]
    dsimp only
    split
    · rename_i hgroup
      rw [hgroup]
      exact .within .nil []
    · rename_i hother
      exact .past (.cons (iff_of_false hother (by decide)) .nil) []
  | within h since => exact .within (.cons (sameBlock_blockAfter _ _ since) h) []
  | past h since => exact .past (.cons (sameBlock_blockAfter _ _ since) h) []

theorem Beside.after_closing (h : Beside comment phase r r') (text : Text) :
    Beside comment (phase.after r (.token .closing text)) ⟨r.blocks.drop 1, []⟩
      ⟨r'.blocks.drop 1, []⟩ := by
  cases h with
  | first since => exact .past .nil []
  | within h since =>
    cases h with
    | nil => exact .past .nil []
    | cons _ hrest => exact .within hrest []
  | past h since =>
    cases h with
    | nil => exact .past .nil []
    | cons _ hrest => exact .past hrest []

theorem Beside.after_semicolon (h : Beside comment phase r r') (text : Text) :
    Beside comment (phase.after r (.token .semicolon text)) ⟨r.blocks, []⟩ ⟨r'.blocks, []⟩ := by
  cases h with
  | first since => exact .past .nil []
  | within h since => exact .within h []
  | past h since => exact .past h []

/-- After a piece two such states are again side by side. -/
theorem Beside.after (h : Beside comment phase r r') (piece : Piece) :
    Beside comment (phase.after r piece) (r.after piece) (r'.after piece) := by
  have hkept (hphase : phase.after r piece = phase)
      (hr : ∀ r : Reached, r.after piece = ⟨r.blocks, piece.text.reverse ++ r.since⟩) :
      Beside comment (phase.after r piece) (r.after piece) (r'.after piece) := by
    rw [hphase, hr, hr]
    exact h.extend piece.text
  cases piece with
  | token kind text =>
    cases kind with
    | opening => exact h.after_opening text
    | closing => exact h.after_closing text
    | semicolon => exact h.after_semicolon text
    | _ => exact hkept (by cases phase <;> rfl) fun _ => rfl
  | other c => exact hkept (by cases phase <;> rfl) fun _ => rfl

/-! ## One piece -/

theorem rewritePiece_congr {blocks blocks' : List Block}
    (h : Reached.holdsRules ⟨blocks, []⟩ = Reached.holdsRules ⟨blocks', []⟩) (since : Text)
    (piece : Piece) : rewritePiece v ⟨blocks, since⟩ piece = rewritePiece v ⟨blocks', since⟩ piece := by
  have h : Reached.holdsRules ⟨blocks, since⟩ = Reached.holdsRules ⟨blocks', since⟩ := h
  have hprelude : Reached.prelude ⟨blocks, since⟩ = Reached.prelude ⟨blocks', since⟩ := rfl
  cases piece with
  | token kind text => simp only [rewritePiece, rewriteToken, h, hprelude]
  | other c => rfl

/-- A reference that is not live stands for itself. -/
theorem sameRuns_rewriteReference {reference : Text} (h : ¬ Live v reference) :
    (rewriteReference v reference).SameRuns (pure reference) := by
  unfold rewriteReference
  split
  · exact .refl _
  · rename_i assets hassets
    split
    · exact .refl _
    · rename_i hlooked
      have hlooked : looksAt v reference = true := by
        rw [looksAt, hassets, Option.isSome_some, Bool.true_and, Bool.not_eq_true']
        exact Bool.not_eq_true _ ▸ hlooked
      simp only [Live, hlooked, true_and, not_or, not_not, not_and, not_forall] at h
      obtain ⟨hreads, hfragment, hstatic⟩ := h
      obtain ⟨kind, hkind⟩ := Reference.kindOf_comes_iff.mpr hreads
      rw [hkind]
      cases kind with
      | external => exact .refl _
      | dynamic => exact .refl _
      | fragment =>
        change SameRuns (if 1 < reference.length then _ else pure reference) _
        rw [if_neg (hfragment hkind)]
        exact .refl _
      | static =>
        obtain ⟨other, hother, hnone⟩ := hstatic hkind
        obtain rfl := Option.some.inj (hassets.symm.trans hother)
        have hpath : v.pathOf? reference
            = Rewriting.noting (.missingAsset reference) >>= fun _ => pure none := by
          unfold View.pathOf?
          rw [hassets]
          dsimp only
          rw [hnone, hkind]
          rfl
        change SameRuns (v.pathOf? reference >>= _) _
        rw [hpath]
        exact fun _ => ⟨rfl, rfl⟩

theorem chunkString_of_not_cuttable {text : Text} (h : ¬ Cuttable text) :
    chunkString text = pure text := by
  unfold chunkString
  exact if_pos (by
    rw [Bool.or_eq_true, decide_eq_true_eq]
    by_contra hneither
    obtain ⟨hescape, hlong⟩ := not_or.mp hneither
    exact h ⟨Bool.not_eq_true _ ▸ hescape, Nat.lt_of_not_le hlong⟩)

theorem sameRuns_rewriteImport {text : Text} (h : ¬ Live v (stringParts text).2) :
    (rewriteImport v text).SameRuns (pure text) := by
  have hpure : ((pure (stringParts text).2 : Rewriting Text) >>= fun new => pure (if new =
      (stringParts text).2 then text else (stringParts text).1 ++ new ++ (stringParts text).1))
      = pure text := by
    rw [pure_bind, if_pos rfl]
  rw [← hpure]
  exact (sameRuns_rewriteReference h).bind fun _ => .refl _

/-- What a token becomes in a place where rules may stand. -/
theorem rewriteToken_of_rules (hrules : r.holdsRules = true) (kind : TokenKind) (text : Text) :
    rewriteToken v r kind text =
      match kind with
      | .classSelector =>
        if Text.startsWith r.prelude "@" then pure text
        else do return (CodePoint.ofChar '.') :: (← className v.settings (unescape (text.drop 1)))
      | .identitySelector =>
        if Text.startsWith r.prelude "@" then pure text
        else do return (CodePoint.ofChar '#') :: (← elementId (unescape (text.drop 1)))
      | .address => rewriteAddress v text
      | .string =>
        if Text.startsWith (Text.lower r.prelude) "@import" then rewriteImport v text else pure text
      | _ => pure text := by
  unfold rewriteToken
  rw [hrules]
  cases Text.startsWith r.prelude "@" <;> cases kind <;> rfl

/-- What a token becomes in a place where declarations stand. -/
theorem rewriteToken_of_declarations (hrules : r.holdsRules = false) (kind : TokenKind)
    (text : Text) :
    rewriteToken v r kind text =
      match kind with
      | .address => rewriteAddress v text
      | .string =>
        if Text.startsWith (Text.lower r.prelude) "@import" then rewriteImport v text
        else chunkString text
      | _ => pure text := by
  unfold rewriteToken
  rw [hrules]
  cases kind <;> rfl

theorem sameRuns_first {since : Text} {kind : TokenKind} {text : Text}
    (hquiet : ¬ Sensitive v ⟨[], since⟩ .first (.token kind text)) :
    (rewriteToken v ⟨[], since⟩ kind text).SameRuns
      (rewriteToken v ⟨[], since ++ (commented comment).reverse⟩ kind text) := by
  obtain ⟨hselector, hstring⟩ := not_or.mp hquiet
  rw [rewriteToken_of_rules rfl, rewriteToken_of_rules rfl, startsWith_prelude_first,
    startsWith_import_first]
  cases kind with
  | classSelector =>
    dsimp only
    rw [if_neg fun h => hselector ⟨rfl, h⟩]
    exact .refl _
  | identitySelector =>
    dsimp only
    rw [if_neg fun h => hselector ⟨rfl, h⟩]
    exact .refl _
  | string =>
    dsimp only
    split
    · rename_i himport
      exact sameRuns_rewriteImport fun hlive => hstring ⟨rfl, himport, hlive⟩
    · exact .refl _
  | _ => exact .refl _

theorem sameRuns_within {since : Text} {kind : TokenKind} {text : Text}
    (hquiet : ¬ Sensitive v ⟨[.group], since⟩ (.within 0) (.token kind text)) :
    (rewriteToken v ⟨[.group], since⟩ kind text).SameRuns
      (rewriteToken v ⟨[.declarations], since⟩ kind text) := by
  obtain ⟨hselector, hstring⟩ := not_or.mp hquiet
  have hprelude : Reached.prelude ⟨[.group], since⟩ = Reached.prelude ⟨[.declarations], since⟩ := rfl
  rw [hprelude] at hselector hstring
  rw [rewriteToken_of_rules rfl, rewriteToken_of_declarations rfl, hprelude]
  generalize Reached.prelude ⟨[.declarations], since⟩ = lead at hselector hstring
  cases kind with
  | classSelector =>
    dsimp only
    rw [if_pos (Bool.not_eq_false _ ▸ fun h => hselector ⟨rfl, h⟩)]
    exact .refl _
  | identitySelector =>
    dsimp only
    rw [if_pos (Bool.not_eq_false _ ▸ fun h => hselector ⟨rfl, h⟩)]
    exact .refl _
  | string =>
    dsimp only
    split
    · exact .refl _
    · rename_i himport
      rw [chunkString_of_not_cuttable fun hcut => hstring ⟨rfl, Bool.not_eq_true _ ▸ himport, hcut⟩]
      exact .refl _
  | _ => exact .refl _

/-- A piece at which nothing shows is rewritten the same behind the comment. -/
theorem sameRuns_rewritePiece (h : Beside comment phase r r') {piece : Piece}
    (hquiet : ¬ Sensitive v r phase piece) :
    (rewritePiece v r piece).SameRuns (rewritePiece v r' piece) := by
  cases h with
  | first since =>
    cases piece with
    | token kind text => exact sameRuns_first hquiet
    | other c => exact .refl _
  | within h since =>
    cases h with
    | nil =>
      cases piece with
      | token kind text => exact sameRuns_within hquiet
      | other c => exact .refl _
    | cons hfirst _ =>
      rw [List.cons_append, List.cons_append,
        rewritePiece_congr (holdsRules_cons_congr hfirst _ _ [] []) since piece]
      exact .refl _
  | past h since =>
    rw [rewritePiece_congr (holdsRules_congr h [] []) since piece]
    exact .refl _

theorem sameRuns_rewritePieces {pieces : List Piece} (h : Beside comment phase r r')
    (hquiet : ¬ Exposed v phase r pieces) :
    (rewritePieces v r pieces).SameRuns (rewritePieces v r' pieces) := by
  induction pieces generalizing phase r r' with
  | nil => exact .refl _
  | cons piece rest ih =>
    rw [rewritePieces_cons, rewritePieces_cons]
    refine (sameRuns_rewritePiece h fun hpiece => hquiet (.here hpiece)).bind fun new => ?_
    exact (ih (h.after piece) fun hrest => hquiet (.later hrest)).bind fun _ => .refl _

/-! ## The whole style sheet -/

/-- Two code points are first found behind a text where they do not stand: they are different, so the
first of them is not the second one of an earlier place. -/
theorem cutAt?_pair {a b : CodePoint} (hne : a ≠ b) {t : Text} (h : Text.cutAt? [a, b] t = none)
    (rest : Text) : Text.cutAt? [a, b] (t ++ a :: b :: rest) = some (t, rest) := by
  induction t with
  | nil => simp [Text.cutAt?, Text.dropPrefix?]
  | cons c others ih =>
    rw [Text.cutAt?] at h
    split at h
    · cases h
    · rename_i hprefix
      have hnone : Text.dropPrefix? (c :: (others ++ a :: b :: rest)) [a, b] = none := by
        rw [Option.eq_none_iff_forall_ne_some]
        intro after hafter
        obtain ⟨rfl, hrest⟩ := List.cons.inj (Text.dropPrefix?_eq_some_iff.mp hafter)
        cases others with
        | nil => exact hne (List.cons.inj hrest).1
        | cons d others =>
          obtain ⟨rfl, -⟩ := List.cons.inj hrest
          simp [Text.dropPrefix?] at hprefix
      rw [List.cons_append, Text.cutAt?, hnone]
      dsimp only
      rw [ih (Option.map_eq_none_iff.mp h)]
      rfl

theorem commented_append (comment rest : Text) :
    commented comment ++ rest = ("/*" : Text) ++ (comment ++
      CodePoint.ofChar '*' :: CodePoint.ofChar '/' :: rest) := by
  have hend : ("*/" : Text) = [CodePoint.ofChar '*', CodePoint.ofChar '/'] := rfl
  simp only [commented, List.append_assoc, hend, List.cons_append, List.nil_append]

theorem length_commented (comment : Text) : (commented comment).length = comment.length + 4 := by
  have hstart : ("/*" : Text).length = 2 := rfl
  have hend : ("*/" : Text).length = 2 := rfl
  simp only [commented, List.length_append, hstart, hend]
  omega

theorem tokenAt_commented {comment : Text} (h : Text.contains comment "*/" = false) (rest : Text) :
    tokenAt (commented comment ++ rest) = some (.comment, (commented comment).length) := by
  rw [Text.contains, Option.isSome_eq_false_iff, Option.isNone_iff_eq_none] at h
  have hend : ("*/" : Text) = [CodePoint.ofChar '*', CodePoint.ofChar '/'] := rfl
  have hcut := cutAt?_pair (by decide) (hend ▸ h) rest
  have hsize : commentSize (commented comment ++ rest) = some (comment.length + 4) := by
    rw [commented_append, commentSize, Text.dropPrefix?_append]
    dsimp only
    rw [throughSize, hend, hcut]
    rfl
  have htoken : tokenAt (commented comment ++ rest)
      = (commentSize (commented comment ++ rest)).map (TokenKind.comment, ·) := rfl
  rw [htoken, hsize, length_commented]
  rfl

theorem scan_commented {comment : Text} (h : Text.contains comment "*/" = false) (source : Text) :
    scan (commented comment ++ source) = .token .comment (commented comment) :: scan source :=
  (Scans.token (tokenAt_commented h source) (scans_scan source)).scan_eq

/-- The rewriting of a style sheet behind a comment, and what has been reached there. -/
theorem rewrite_commented {comment : Text} (h : Text.contains comment "*/" = false) (source : Text) :
    rewrite v (commented comment ++ source) =
      rewritePieces v ⟨[], (commented comment).reverse⟩ (scan source) >>= fun news =>
        pure (commented comment ++ news.flatten) := by
  have hpiece : rewritePiece v ⟨[], []⟩ (.token .comment (commented comment))
      = pure (commented comment) := rfl
  have hafter : Reached.after ⟨[], []⟩ (.token .comment (commented comment))
      = ⟨[], (commented comment).reverse⟩ := by
    rw [Reached.after]
    · exact congrArg (Reached.mk []) (List.append_nil _)
    all_goals simp
  rw [rewrite, scan_commented h, rewritePieces_cons, hpiece, hafter]
  simp only [pure_bind, bind_assoc, List.flatten_cons]

/-! ## Where nothing shows -/

/-- A comment before a style sheet is inert in a session: the sheet is rewritten as without it, with
the same outcome and the same context after it. -/
def CommentInert (v : View) (c : Context) (comment source : Text) : Prop :=
  (c.run (rewrite v (commented comment ++ source))).1 =
      (c.run (rewrite v source)).1.map (commented comment ++ ·) ∧
    (c.run (rewrite v (commented comment ++ source))).2.1 = (c.run (rewrite v source)).2.1

theorem commentInert_of_not_sensitive {comment source : Text}
    (hcomment : Text.contains comment "*/" = false) (h : ¬ CommentSensitive v source) (c : Context) :
    CommentInert v c comment source := by
  have hbegin : Beside comment .first ⟨[], []⟩ ⟨[], (commented comment).reverse⟩ := .first []
  have hsame := (sameRuns_rewritePieces hbegin h).bind fun news =>
    SameRuns.refl (pure (commented comment ++ news.flatten))
  have hsource : rewritePieces v ⟨[], []⟩ (scan source) >>= (fun news =>
      pure (commented comment ++ news.flatten)) =
      rewrite v source >>= fun out => pure (commented comment ++ out) := by
    simp only [rewrite, bind_assoc, pure_bind]
  rw [hsource] at hsame
  obtain ⟨hout, hcontext⟩ := hsame c
  rw [CommentInert, rewrite_commented hcomment, ← hout, ← hcontext, Context.run_bind]
  rcases c.run (rewrite v source) with ⟨fault | out, d, notes⟩ <;> exact ⟨rfl, rfl⟩

/-! ## Style sheets that begin with no name of a rule -/

/-- Nothing but the sign itself has the sign before the names of rules as its lower-case form. -/
theorem simpleLower_eq_sign {c : CodePoint} (h : c.simpleLower = CodePoint.ofChar '@') :
    c = CodePoint.ofChar '@' := by
  have hsign : (CodePoint.ofChar '@').val = 0x40 := rfl
  unfold CodePoint.simpleLower at h
  split at h
  · unfold CodePoint.asciiLower at h
    split at h
    · rename_i hupper
      rw [CodePoint.isAsciiUpper, Bool.and_eq_true, decide_eq_true_eq, decide_eq_true_eq] at hupper
      have hval := congrArg CodePoint.val h
      rw [hsign, CodePoint.ofNat, CodePoint.ofNat?, dif_pos (by omega), Option.getD_some] at hval
      dsimp only at hval
      omega
    · exact h
  · split at h
    · exact absurd h (by decide)
    · unfold Unicode.mapCase at h
      split at h
      · rename_i run hrun
        have hcontains := List.find?_some hrun
        rw [Unicode.CaseRun.contains, Bool.and_eq_true, Bool.and_eq_true, decide_eq_true_eq] at hcontains
        have hruns : ∀ run ∈ Unicode.lowerRuns, (0x40 : Int) < run.first + run.shift := by decide +kernel
        have hrun := hruns run (List.mem_of_find?_eq_some hrun)
        have hval := congrArg CodePoint.val h
        rw [hsign, CodePoint.ofNat, CodePoint.ofNat?] at hval
        split at hval
        · dsimp only [Option.getD_some] at hval
          omega
        · exact absurd hval (by decide)
      · exact h

theorem startsWith_of_import {t : Text} (h : Text.startsWith (Text.lower t) "@import" = true) :
    Text.startsWith t "@" = true := by
  obtain ⟨tail, htail⟩ := Text.startsWith_iff.mp h
  cases t with
  | nil => cases htail
  | cons c rest =>
    have hhead : c.simpleLower = CodePoint.ofChar '@' := by
      change CodePoint.ofChar '@' :: _ = c.lowerIn [] rest ++ _ at htail
      unfold CodePoint.lowerIn at htail
      split at htail
      · exact absurd (List.cons.inj htail).1 (by decide)
      · split at htail
        · exact absurd (List.cons.inj htail).1 (by decide)
        · exact (List.cons.inj htail).1.symm
    rw [simpleLower_eq_sign hhead]
    exact Text.startsWith_iff.mpr ⟨rest, rfl⟩

/-- A text that begins with something behind its blanks still does so when it is continued. -/
theorem startsWith_trimLeft_append {t lead : Text} (h : Text.startsWith (Text.trimLeft t) lead = true)
    (hne : lead ≠ []) (rest : Text) : Text.startsWith (Text.trimLeft (t ++ rest)) lead = true := by
  obtain ⟨tail, htail⟩ := Text.startsWith_iff.mp h
  induction t with
  | nil =>
    obtain ⟨rfl, -⟩ := List.append_eq_nil_iff.mp htail
    exact absurd rfl hne
  | cons c others ih =>
    rw [Text.trimLeft, List.cons_append] at *
    by_cases hblank : c.isBlank = true
    · rw [List.dropWhile_cons_of_pos hblank] at *
      exact ih h htail
    · rw [List.dropWhile_cons_of_neg hblank] at *
      exact Text.startsWith_iff.mpr ⟨tail ++ rest, by rw [← List.append_assoc, htail, List.cons_append]⟩

theorem not_exposed_past {pieces : List Piece} : ¬ Exposed v .past r pieces := by
  induction pieces generalizing r with
  | nil => exact nofun
  | cons piece rest ih =>
    rintro (hpiece | hrest)
    · exact hpiece
    · exact ih hrest

/-- In a first statement of which nothing begins with the name of a rule nothing is sensitive. -/
theorem not_exposed_first {source t since : Text} {pieces : List Piece} (hscans : Scans t pieces)
    (hsource : since.reverse ++ t = source)
    (h : Text.startsWith (Text.trimLeft source) "@" = false) : ¬ Exposed v .first ⟨[], since⟩ pieces := by
  have hlead {t since : Text} (hsource : since.reverse ++ t = source) :
      ¬ Text.startsWith (Reached.prelude ⟨[], since⟩) "@" = true := by
    intro hsign
    rw [← hsource] at h
    exact Bool.eq_false_iff.mp h (startsWith_trimLeft_append hsign (by decide) t)
  induction hscans generalizing since with
  | nil => exact nofun
  | @token kind text rest pieces _ _ ih =>
    rintro (hpiece | hrest)
    · rcases hpiece with ⟨-, hsign⟩ | ⟨-, himport, -⟩
      · exact hlead hsource hsign
      · exact hlead hsource (startsWith_of_import himport)
    · have hblock : blockAfter ⟨[], since⟩ ≠ .group := by
        rw [blockAfter, if_neg (hlead hsource)]
        split <;> decide
      have hkept : ¬ Exposed v .first ⟨[], text.reverse ++ since⟩ pieces :=
        ih (by rw [← hsource, List.reverse_append, List.reverse_reverse, List.append_assoc])
      cases kind with
      | opening =>
        rw [Phase.after, if_neg hblock] at hrest
        exact not_exposed_past hrest
      | closing => exact not_exposed_past hrest
      | semicolon => exact not_exposed_past hrest
      | _ => exact hkept hrest
  | @other c rest pieces _ _ ih =>
    rintro (hpiece | hrest)
    · exact hpiece
    · have hkept : ¬ Exposed v .first ⟨[], c :: since⟩ pieces :=
        ih (by rw [← hsource, List.reverse_cons, List.append_assoc, List.singleton_append])
      exact hkept hrest

/-- A comment is inert before every style sheet that does not begin with the name of a rule. -/
theorem not_commentSensitive_of_plain {source : Text}
    (h : Text.startsWith (Text.trimLeft source) "@" = false) : ¬ CommentSensitive v source :=
  not_exposed_first (scans_scan source) rfl h

end VeiledGateway.Style
