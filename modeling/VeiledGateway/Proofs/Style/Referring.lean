/-
  Referring: which references the rewriting of a style sheet depends on.

  A style sheet names its references in addresses and in the strings of imports.  Its rewriting never
  fails by itself if each of them comes to an answer, and it is doomed as soon as one of them does not;
  nothing else in a style sheet can make it fail.
-/
import VeiledGateway.Proofs.Asset.Resolving
import VeiledGateway.Proofs.Context.Answering
import VeiledGateway.Style.Rewrite

set_option autoImplicit false

namespace VeiledGateway

open Rewriting

/-! ## References of a view -/

namespace View

variable {v : View} {reference : Text}

/-- A reference of a document comes to an answer, in the files of the view if there are any. -/
def Finds (v : View) (reference : Text) : Prop :=
  Reference.Reads reference ∧
    ∀ assets, v.assets = some assets → assets.Answers reference v.base

theorem finds_iff {assets : Assets} (hassets : v.assets = some assets) :
    v.Finds reference ↔ assets.Answers reference v.base := by
  constructor
  · exact fun h => h.2 assets hassets
  · intro h
    refine ⟨h.1, fun other hother => ?_⟩
    obtain rfl := Option.some.inj (hassets.symm.trans hother)
    exact h

theorem ensures_pathOf? (h : v.Finds reference) : (v.pathOf? reference).Ensures fun _ => True := by
  obtain ⟨kind, hkind⟩ := Reference.kindOf_comes_iff.mpr h.1
  unfold pathOf?
  split
  · exact ensures_pure trivial
  · rename_i assets hassets
    obtain ⟨path?, hpath⟩ := Assets.canonical_comes_iff.mpr (h.2 assets hassets)
    refine (ensures_ofExcept (· = path?) hpath rfl).bind fun _ hsame => ?_
    obtain rfl := hsame
    split
    · exact ensures_pure trivial
    · refine (ensures_ofExcept (fun _ => True) hkind trivial).bind fun _ _ => ?_
      split
      · exact (ensures_noting _).bind fun _ _ => ensures_pure trivial
      · exact ensures_pure trivial

/-- A reference that reads as an address and comes to no answer is that of a file. -/
theorem static_of_not_finds {kind : ReferenceKind} (hkind : Reference.kindOf reference = .ok kind)
    (h : ¬ v.Finds reference) : kind = .static := by
  apply Classical.byContradiction
  intro hother
  refine h ⟨Reference.kindOf_comes_iff.mp ⟨kind, hkind⟩, fun assets _ => ?_⟩
  exact Assets.canonical_comes_iff.mp ⟨none, Assets.canonical_of_other hkind hother⟩

theorem doomed_pathOf? (hreads : Reference.Reads reference) (h : ¬ v.Finds reference) :
    (v.pathOf? reference).Doomed := by
  unfold pathOf?
  split
  · rename_i hnone
    exact absurd ⟨hreads, fun assets hassets => nomatch hnone.symm.trans hassets⟩ h
  · rename_i assets hassets
    refine (doomed_ofExcept fun hpath => h ⟨hreads, fun other hother => ?_⟩).bind _
    obtain rfl := Option.some.inj (hassets.symm.trans hother)
    exact Assets.canonical_comes_iff.mp hpath

end View

namespace Style

variable {v : View} {reference : Text}

/-- A reference of a style sheet is looked at: there are files, it is not empty, and it has no
escapes. -/
def looksAt (v : View) (reference : Text) : Bool :=
  v.assets.isSome && !(reference.isEmpty || List.contains reference (CodePoint.ofChar '\\'))

theorem ensures_rewriteReference (h : looksAt v reference = true → v.Finds reference) :
    (rewriteReference v reference).Ensures fun _ => True := by
  unfold rewriteReference
  split
  · exact ensures_pure trivial
  · rename_i assets hassets
    split
    · exact ensures_pure trivial
    · rename_i hlooked
      have hfinds : v.Finds reference := by
        refine h ?_
        rw [looksAt, hassets, Option.isSome_some, Bool.true_and, Bool.not_eq_true']
        exact Bool.not_eq_true _ ▸ hlooked
      obtain ⟨kind, hkind⟩ := Reference.kindOf_comes_iff.mpr hfinds.1
      refine (ensures_ofExcept (fun _ => True) hkind trivial).bind fun _ _ => ?_
      split
      · split
        · exact (ensures_elementId _).bind fun _ _ => ensures_pure trivial
        · exact ensures_pure trivial
      · refine (View.ensures_pathOf? hfinds).bind fun path? _ => ?_
        split
        · exact ensures_link _ _
        · exact ensures_pure trivial
      · exact ensures_pure trivial

theorem doomed_rewriteReference (hlooked : looksAt v reference = true) (h : ¬ v.Finds reference) :
    (rewriteReference v reference).Doomed := by
  obtain ⟨hsome, hlooked⟩ := (Bool.and_eq_true _ _).mp hlooked
  obtain ⟨assets, hassets⟩ := Option.isSome_iff_exists.mp hsome
  unfold rewriteReference
  rw [hassets]
  dsimp only
  rw [if_neg (by rw [(Bool.not_eq_true' _).mp hlooked]; decide)]
  by_cases hreads : ∃ kind, Reference.kindOf reference = .ok kind
  · obtain ⟨kind, hkind⟩ := hreads
    obtain rfl := View.static_of_not_finds hkind h
    rw [hkind]
    exact (View.doomed_pathOf? (Reference.kindOf_comes_iff.mp ⟨_, hkind⟩) h).bind _
  · exact (doomed_ofExcept hreads).bind _

/-! ## Tokens -/

theorem stringParts_eq (quote : CodePoint) (inside : Text) :
    stringParts (quote :: (inside ++ [quote])) = ([quote], inside) := by
  simp [stringParts]

/-- The reference that a piece names where so much has been reached. -/
def referenceAt? (r : Reached) : Piece → Option Text
  | .token .address text => some (addressParts text).2
  | .token .string text =>
    if Text.startsWith (Text.lower r.prelude) "@import" then some (stringParts text).2 else none
  | _ => none

theorem ensures_chunkString (text : Text) : (chunkString text).Ensures fun _ => True := by
  unfold chunkString
  split
  split
  · exact ensures_pure trivial
  · exact (ensures_textPieces _).bind fun _ _ => ensures_pure trivial

theorem ensures_rewriteToken {r : Reached} {kind : TokenKind} {text : Text}
    (h : ∀ reference, referenceAt? r (.token kind text) = some reference →
      looksAt v reference = true → v.Finds reference) :
    (rewriteToken v r kind text).Ensures fun _ => True := by
  have hreference {reference : Text} (hat : referenceAt? r (.token kind text) = some reference)
      {f : Text → Rewriting Text} (hf : ∀ new, (f new).Ensures fun _ => True) :
      (rewriteReference v reference >>= f).Ensures fun _ => True :=
    (ensures_rewriteReference (h reference hat)).bind fun new _ => hf new
  unfold rewriteToken
  dsimp only
  split
  · split
    · exact (ensures_className _ _).bind fun _ _ => ensures_pure trivial
    · exact ensures_pure trivial
  · split
    · exact (ensures_elementId _).bind fun _ _ => ensures_pure trivial
    · exact ensures_pure trivial
  · exact hreference rfl fun _ => ensures_pure trivial
  · split
    · rename_i himport
      have hat : referenceAt? r (.token .string text) = some (stringParts text).2 := if_pos himport
      exact hreference hat fun _ => ensures_pure trivial
    · split
      · exact ensures_chunkString text
      · exact ensures_pure trivial
  · exact ensures_pure trivial

theorem doomed_rewriteToken {r : Reached} {kind : TokenKind} {text : Text}
    (hat : referenceAt? r (.token kind text) = some reference)
    (hlooked : looksAt v reference = true) (h : ¬ v.Finds reference) :
    (rewriteToken v r kind text).Doomed := by
  have hdoomed := doomed_rewriteReference hlooked h
  unfold referenceAt? at hat
  unfold rewriteToken
  dsimp only
  split at hat
  · rename_i heq
    obtain ⟨rfl, rfl⟩ := Piece.token.inj heq
    obtain rfl := Option.some.inj hat
    exact hdoomed.bind _
  · rename_i heq
    obtain ⟨rfl, rfl⟩ := Piece.token.inj heq
    split at hat
    · rename_i himport
      obtain rfl := Option.some.inj hat
      dsimp only
      rw [if_pos himport]
      exact hdoomed.bind _
    · cases hat
  · cases hat

/-! ## Style sheets -/

/-- The references of pieces from a place on. -/
def referencesFrom (r : Reached) : List Piece → List Text
  | [] => []
  | piece :: rest => (referenceAt? r piece).toList ++ referencesFrom (r.after piece) rest

/-- The references of a style sheet that are looked at. -/
def references (v : View) (source : Text) : List Text :=
  (referencesFrom ⟨[], []⟩ (scan source)).filter (looksAt v)

/-- A piece, rewritten. -/
def rewritePiece (v : View) (r : Reached) : Piece → Rewriting Text
  | .token kind text => rewriteToken v r kind text
  | .other c => pure [c]

theorem rewritePieces_cons (r : Reached) (piece : Piece) (rest : List Piece) :
    rewritePieces v r (piece :: rest) = do
      let new ← rewritePiece v r piece
      return new :: (← rewritePieces v (r.after piece) rest) := by
  cases piece <;> rfl

/-- What the pieces from a place on become, one after the other. -/
theorem answers_cons {c : Context} {r : Reached} {pieces : List Piece} {piece : Piece} {news : List Text}
    (h : c.Answers (rewritePieces v r (piece :: pieces)) news) :
    ∃ new others, news = new :: others ∧ c.Answers (rewritePiece v r piece) new ∧
      c.Answers (rewritePieces v (r.after piece) pieces) others := by
  rw [rewritePieces_cons] at h
  obtain ⟨new, hnew, h⟩ := Context.answers_bind.mp h
  obtain ⟨others, hothers, h⟩ := Context.answers_bind.mp h
  exact ⟨new, others, (Context.answers_pure.mp h).symm, hnew, hothers⟩

theorem ensures_rewritePieces {pieces : List Piece} {r : Reached}
    (h : ∀ reference ∈ referencesFrom r pieces, looksAt v reference = true → v.Finds reference) :
    (rewritePieces v r pieces).Ensures fun _ => True := by
  induction pieces generalizing r with
  | nil => exact ensures_pure trivial
  | cons piece rest ih =>
    have hpiece : (rewritePiece v r piece).Ensures fun _ => True := by
      cases piece with
      | token kind text =>
        refine ensures_rewriteToken fun reference hat => h reference (List.mem_append_left _ ?_)
        rw [hat]
        exact List.mem_singleton.mpr rfl
      | other c => exact ensures_pure trivial
    rw [rewritePieces_cons]
    refine hpiece.bind fun new _ => ?_
    refine (ih fun reference hreference => ?_).bind fun others _ => ensures_pure trivial
    exact h reference (List.mem_append_right _ hreference)

theorem doomed_rewritePieces {pieces : List Piece} {r : Reached}
    (hmem : reference ∈ referencesFrom r pieces)
    (hlooked : looksAt v reference = true) (h : ¬ v.Finds reference) :
    (rewritePieces v r pieces).Doomed := by
  induction pieces generalizing r with
  | nil => cases hmem
  | cons piece rest ih =>
    rw [rewritePieces_cons]
    rcases List.mem_append.mp hmem with hmem | hmem
    · have hat : referenceAt? r piece = some reference := Option.mem_toList.mp hmem
      cases piece with
      | token kind text => exact (doomed_rewriteToken hat hlooked h).bind _
      | other c => cases hat
    · exact (yields_true _).bind fun new _ => (ih hmem).bind _

theorem ensures_rewrite {source : Text} (h : ∀ reference ∈ references v source, v.Finds reference) :
    (rewrite v source).Ensures fun _ => True := by
  refine (ensures_rewritePieces fun reference hmem hlooked => ?_).bind fun _ _ => ensures_pure trivial
  exact h reference (List.mem_filter.mpr ⟨hmem, hlooked⟩)

theorem doomed_rewrite {source : Text} (hmem : reference ∈ references v source)
    (h : ¬ v.Finds reference) : (rewrite v source).Doomed := by
  obtain ⟨hmem, hlooked⟩ := List.mem_filter.mp hmem
  exact (doomed_rewritePieces hmem hlooked h).bind _

end Style

end VeiledGateway
