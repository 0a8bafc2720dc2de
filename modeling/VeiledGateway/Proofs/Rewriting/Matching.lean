/-
  Markup and style sheets name alike.

  A document names classes and identities in attributes, and a style sheet in selectors.  What the
  rewriting of a document writes for a name is what the rewriting of a style sheet writes for its
  serialization, from the same context, if that is recognised as one name; and else a part of the name
  stays in the style sheet.
-/
import VeiledGateway.Proofs.Context.Linking
import VeiledGateway.Proofs.Context.Repeating
import VeiledGateway.Proofs.Markup.Surveying
import VeiledGateway.Proofs.Markup.Veiling
import VeiledGateway.Proofs.Style.Referring
import VeiledGateway.Proofs.Style.Spelling

set_option autoImplicit false

namespace VeiledGateway

namespace Style

open Rewriting

variable {v : View} {settings : Settings} {name rest : Text} {c : Context} {d : CodePoint}

/-! ## Style sheets -/

/-- The style sheet with one empty rule, for the elements with a name. -/
def Selector.sheet (selector : Selector) (name : Text) : Text :=
  selector.sign :: (serialize name ++ "\x7b\x7d")

theorem rewriteToken_selector (selector : Selector) (name : Text) :
    rewriteToken v ⟨[], []⟩ selector.kind (selector.sign :: name) = (do
      return selector.sign :: (← selector.request v.settings (unescape name))) := by
  cases selector <;> rfl

/-- A selector in a sheet of its own, with the braces behind it. -/
theorem scan_sheet (hnul : Writable name) (h : Recognised name) (selector : Selector) :
    scan (selector.sheet name) = [.token selector.kind (selector.sign :: serialize name),
      .token .opening "\x7b", .token .closing "\x7d"] := by
  have hafter : namePartSize isNamePart ("\x7b\x7d" : Text) = none := by decide
  have htoken : tokenAt ((selector.sign :: serialize name) ++ ("\x7b\x7d" : Text))
      = some (selector.kind, (selector.sign :: serialize name).length) := by
    rw [List.cons_append, selector.tokenAt_eq, nameSize_serialize hafter hnul h]
    rfl
  rw [Selector.sheet, ← List.cons_append, scan_of_token htoken]
  rfl

/-- Where a name is recognised, the sheet becomes that of what stands for it. -/
theorem rewrite_sheet (hnul : Writable name) (h : Recognised name) (selector : Selector) :
    rewrite v (selector.sheet name) = (do
      let tok ← selector.request v.settings name
      return selector.sign :: (tok ++ ("\x7b\x7d" : Text))) := by
  rw [rewrite, scan_sheet hnul h, rewritePieces_cons, rewritePiece, rewriteToken_selector,
    unescape_serialize hnul]
  simp only [bind_assoc, pure_bind]
  rfl

/-! ### Names that are not recognised -/

/-- The first item of a list that is not of a kind. -/
theorem exists_first {α : Type} {p : α → Prop} {items : List α} (h : ∃ item ∈ items, ¬ p item) :
    ∃ good item more, items = good ++ item :: more ∧ (∀ other ∈ good, p other) ∧ ¬ p item := by
  induction items with
  | nil =>
    obtain ⟨item, hmem, -⟩ := h
    cases hmem
  | cons first rest ih =>
    by_cases hfirst : p first
    · have hrest : ∃ item ∈ rest, ¬ p item := by simpa [hfirst] using h
      obtain ⟨good, item, more, rfl, hgood, hitem⟩ := ih hrest
      exact ⟨first :: good, item, more, rfl, List.forall_mem_cons.mpr ⟨hfirst, hgood⟩, hitem⟩
    · exact ⟨[], first, rest, rfl, (fun _ hmem => absurd hmem List.not_mem_nil), hfirst⟩

/-- What no token has in it, and no sheet that is made of a token. -/
def Odd (d : CodePoint) : Prop :=
  d.isAscii = false ∨ d = CodePoint.ofChar '-'

/-- No token begins with it. -/
theorem Odd.tokenAt_eq_none (h : Odd d) (rest : Text) : tokenAt (d :: rest) = none := by
  have hne : ∀ other : CodePoint, other.isAscii = true → other ≠ CodePoint.ofChar '-' → d ≠ other := by
    rintro _ hascii hhyphen rfl
    exact h.elim (fun hnot => nomatch hascii.symm.trans hnot) hhyphen
  have hno (other : Char) (hascii : (CodePoint.ofChar other).isAscii = true)
      (hhyphen : CodePoint.ofChar other ≠ CodePoint.ofChar '-') :
      (d == CodePoint.ofChar other) = false := by
    simpa using hne _ hascii hhyphen
  simp only [tokenAt, hno '/' (by decide) (by decide), hno 'u' (by decide) (by decide),
    hno 'U' (by decide) (by decide), hno '"' (by decide) (by decide), hno '\'' (by decide) (by decide),
    hno '{' (by decide) (by decide), hno '}' (by decide) (by decide), hno ';' (by decide) (by decide),
    hno '.' (by decide) (by decide), hno '#' (by decide) (by decide)]
  rfl

theorem Odd.ne_backslash (h : Odd d) : d ≠ CodePoint.ofChar '\\' := by
  rintro rfl
  exact absurd h (by unfold Odd; decide)

/-- What is not ASCII is written as itself. -/
theorem spelled_of_not_ascii (h : d.isAscii = false) : spelled d = [d] := by
  have hbig : 0x80 ≤ d.val := by simpa [CodePoint.isAscii] using h
  have hcontrol : ¬ (decide (d.val < 0x20) || d.val == 0x7F) = true := by
    simp only [Bool.or_eq_true, decide_eq_true_eq, beq_iff_eq]
    omega
  rw [spelled, if_neg (by omega), if_neg hcontrol, h]
  rfl

theorem Odd.spelledFirst_eq (h : Odd d) : spelledFirst d = [d] := by
  rcases h with hascii | rfl
  · have hdigit : ¬ d.isAsciiDigit = true := by
      have hbig : 0x80 ≤ d.val := by simpa [CodePoint.isAscii] using hascii
      simp only [CodePoint.isAsciiDigit, Bool.and_eq_true, decide_eq_true_eq]
      omega
    rw [spelledFirst, if_neg hdigit, spelled_of_not_ascii hascii]
  · decide

theorem odd_of_not_startsName (h : ¬ StartsName d) : Odd d ∧ isNameStart d = false := by
  by_cases hhyphen : d = CodePoint.ofChar '-'
  · subst hhyphen
    exact ⟨.inr rfl, by decide⟩
  · obtain ⟨hascii, hstart⟩ := not_or.mp fun hor => h ⟨hhyphen, hor⟩
    exact ⟨.inl (by simpa using hascii), by simpa using hstart⟩

/-- Where no name starts, the sign of the selector is no token, and neither is what stands behind it. -/
theorem exists_other_of_not_start {hyphen : Text} (hlead : Lead hyphen d) (hstart : ¬ StartsName d)
    (selector : Selector) :
    ∃ e, Odd e ∧ .other e ∈ scan (selector.sign :: (hyphen ++ (spelledFirst d ++ rest))) := by
  obtain ⟨hodd, hno⟩ := odd_of_not_startsName hstart
  have hpart : namePartSize isNameStart (d :: rest) = none := by
    rw [namePartSize, hno, if_neg (by decide), if_neg (by simpa using hodd.ne_backslash)]
  have hsign : tokenAt (selector.sign :: (hyphen ++ d :: rest)) = none := by
    rw [selector.tokenAt_eq, nameSize_of_lead hlead, hpart]
    rfl
  rw [hodd.spelledFirst_eq, List.singleton_append, scan_of_none hsign]
  rcases hlead with ⟨rfl, -⟩ | rfl
  · refine ⟨d, hodd, List.mem_cons_of_mem _ ?_⟩
    rw [List.nil_append, scan_of_none (hodd.tokenAt_eq_none rest)]
    exact List.mem_cons_self
  · have hhyphen : Odd (CodePoint.ofChar '-') := .inr rfl
    refine ⟨CodePoint.ofChar '-', hhyphen, List.mem_cons_of_mem _ ?_⟩
    change _ ∈ scan (CodePoint.ofChar '-' :: d :: rest)
    rw [scan_of_none (hhyphen.tokenAt_eq_none _)]
    exact List.mem_cons_self

/-- The first code point that cannot be in a name ends the selector. -/
theorem exists_other_of_not_part {more : Text} (hnul : Writable name) (h : Recognised name)
    (hpart : ¬ ContinuesName d) (selector : Selector) :
    ∃ e, Odd e ∧ .other e ∈ scan (selector.sign :: (serialize name ++ (spelled d ++ more))) := by
  obtain ⟨hascii, hword⟩ := not_or.mp hpart
  have hodd : Odd d := .inl (by simpa using hascii)
  have hafter : namePartSize isNamePart (d :: more) = none := by
    have hhyphen : d ≠ CodePoint.ofChar '-' := by
      rintro rfl
      exact hascii (by decide)
    have hno : ¬ isNamePart d = true := by simpa [isNamePart, hhyphen] using hword
    rw [namePartSize, if_neg hno, if_neg (by simpa using hodd.ne_backslash)]
  have htoken : tokenAt ((selector.sign :: serialize name) ++ d :: more)
      = some (selector.kind, (selector.sign :: serialize name).length) := by
    rw [List.cons_append, selector.tokenAt_eq, nameSize_serialize hafter hnul h]
    rfl
  refine ⟨d, hodd, ?_⟩
  rw [spelled_of_not_ascii (by simpa using hascii), List.singleton_append, ← List.cons_append,
    scan_of_token htoken, scan_of_none (hodd.tokenAt_eq_none more)]
  exact List.mem_cons_of_mem _ List.mem_cons_self

/-- Of a name that is not recognised some odd code point is in no token of the sheet. -/
theorem exists_other_of_not_recognised (hne : name ≠ []) (hnul : Writable name) (h : ¬ Recognised name)
    (selector : Selector) : ∃ d, Odd d ∧ .other d ∈ scan (selector.sheet name) := by
  rcases lead_cases name with rfl | rfl | ⟨hyphen, c, rest, rfl, hlead⟩
  · exact absurd rfl hne
  · exact absurd .hyphen h
  have hhyphen : hyphen = [] ∨ hyphen = "-" := hlead.imp_left And.left
  rw [Selector.sheet, serialize_of_lead hlead, List.append_assoc, List.append_assoc]
  by_cases hstart : StartsName c
  · have hbad : ∃ d ∈ rest, ¬ ContinuesName d := by
      by_contra hall
      push Not at hall
      exact h (.name hhyphen hstart hall)
    obtain ⟨good, d, more, rfl, hgood, hpart⟩ := exists_first hbad
    have hnul : Writable (hyphen ++ c :: good) := fun e he => hnul e (by
      rw [← List.cons_append, ← List.append_assoc]
      exact List.mem_append_left _ he)
    have hother : ∃ e, Odd e ∧ .other e ∈ scan (selector.sign :: (serialize (hyphen ++ c :: good) ++
        (spelled d ++ (more.flatMap spelled ++ ("\x7b\x7d" : Text))))) :=
      exists_other_of_not_part hnul (.name hhyphen hstart hgood) hpart selector
    rw [serialize_of_lead hlead] at hother
    simpa only [List.flatMap_append, List.flatMap_cons, List.append_assoc] using hother
  · exact exists_other_of_not_start hlead hstart selector

/-- A code point that is in no token of a sheet is in what the sheet becomes. -/
theorem mem_of_other {pieces : List Piece} {r : Reached} {news : List Text}
    (h : c.Answers (rewritePieces v r pieces) news) (hmem : .other d ∈ pieces) : d ∈ news.flatten := by
  induction pieces generalizing r news with
  | nil => cases hmem
  | cons piece pieces ih =>
    obtain ⟨new, others, rfl, hnew, hothers⟩ := answers_cons h
    rw [List.flatten_cons, List.mem_append]
    rcases List.mem_cons.mp hmem with rfl | hmem
    · obtain rfl := Context.answers_pure.mp hnew
      exact .inl List.mem_cons_self
    · exact .inr (ih hothers hmem)

/-! ### What a sheet becomes -/

/-- What stands for a name in a style sheet is what stands for it in markup: exactly if the name is
recognised, where that is a token. -/
def Selector.Agrees (selector : Selector) (c : Context) (settings : Settings) (name tok : Text) : Prop :=
  name ≠ [] → Writable name → ∀ assets base,
    (Recognised name → (c.run (rewrite ⟨settings, assets, base⟩ (selector.sheet name))).1
      = .ok (selector.sign :: (tok ++ ("\x7b\x7d" : Text)))) ∧
    ((∀ mark ∈ tok, Token.isMark mark = true) →
      (c.run (rewrite ⟨settings, assets, base⟩ (selector.sheet name))).1
        = .ok (selector.sign :: (tok ++ ("\x7b\x7d" : Text))) → Recognised name)

/-- Nothing odd is in the sheet of a token. -/
theorem not_mem_of_odd {tok : Text} (htok : ∀ mark ∈ tok, Token.isMark mark = true) (hodd : Odd d)
    (selector : Selector) : d ∉ selector.sign :: (tok ++ ("\x7b\x7d" : Text)) := by
  rw [List.mem_cons, List.mem_append]
  rintro (rfl | hmark | hbrace)
  · cases selector <;> exact absurd hodd (by unfold Odd; decide)
  · have hmark := htok d hmark
    rcases hodd with hascii | rfl
    · have hbounds := Token.isMark_bounds hmark
      have hbig : 0x80 ≤ d.val := by simpa [CodePoint.isAscii] using hascii
      omega
    · exact absurd hmark (by decide)
  · rcases List.mem_pair.mp hbrace with rfl | rfl <;> exact absurd hodd (by unfold Odd; decide)

theorem agrees_of_request {selector : Selector} {tok : Text}
    (h : (c.run (selector.request settings name)).1 = .ok tok) :
    selector.Agrees c settings name tok := by
  intro hne hnul assets base
  constructor
  · intro hrecognised
    rw [rewrite_sheet hnul hrecognised, Context.run_bind]
    rcases hrun : c.run (selector.request settings name) with ⟨fault | tok', d, notes⟩ <;> rw [hrun] at h
    · cases h
    · obtain rfl := Except.ok.inj h
      rfl
  · intro htok hout
    by_contra hno
    obtain ⟨d, hodd, hother⟩ := exists_other_of_not_recognised hne hnul hno selector
    have hrun := Outcome.eq_pair_of_toOption (by rw [hout]; rfl)
    obtain ⟨news, hnews, hflat⟩ := Context.answers_bind.mp (Context.answers_of_run hrun)
    refine not_mem_of_odd htok hodd selector ?_
    rw [← Context.answers_pure.mp hflat]
    exact mem_of_other hnews hother

end Style

namespace Markup

variable {c d : Context} {v : View} {settings : Settings}

/-! ## Documents -/

/-- The tags of a document, in order. -/
def tagSurvey : Survey Tag where
  tag := fun tag => [tag]
  text := fun _ _ => []

theorem tags_textless : tagSurvey.Textless :=
  fun _ _ => rfl

/-- The visit to the attributes goes to each tag. -/
theorem Visited.tags {inside : Option Tag} {a b : List Node} (h : Visited d (tagVisit v) inside a b) :
    List.Forall₂ (fun old new => d.Answers (rewriteTag v old) new) (tagSurvey.nodes inside a)
      (tagSurvey.nodes inside b) := by
  induction h with
  | nil => exact .nil
  | @text inside kept content new rest rest' hnew _ ih =>
    obtain rfl := Context.answers_pure.mp hnew
    rw [Survey.nodes, Survey.nodes_append, tags_textless.nodes_text]
    exact ih
  | aside kind content _ ih => exact ih
  | @element inside tag tag' children children' rest rest' htag _ _ ihchildren ihrest =>
    rw [tags_textless.nodes_inside (some tag) (some tag') children'] at ihchildren
    have hfirst : List.Forall₂ (fun old new => d.Answers (rewriteTag v old) new)
        (tag :: tagSurvey.nodes (some tag) children) (tag' :: tagSurvey.nodes (some tag') children') :=
      .cons htag ihchildren
    exact List.rel_append hfirst ihrest

/-- The tags of a document are rewritten one for one, whatever becomes of its texts. -/
theorem tags_of_rewrite {document new : Document} (h : d.Answers (Document.rewrite v document) new) :
    List.Forall₂ (fun old new => d.Answers (rewriteTag v old) new) (tagSurvey.document document)
      (tagSurvey.document new) := by
  obtain ⟨scripted, hscripted, h⟩ := Context.answers_bind.mp h
  obtain ⟨styled, hstyled, h⟩ := Context.answers_bind.mp h
  obtain ⟨chunked, hchunked, hnew⟩ := Context.answers_bind.mp h
  have hscripts := hscripted.post ((leaves_scriptVisit tags_textless).nodes none document)
  have hstyles := hstyled.post ((leaves_styleVisit tags_textless).nodes none scripted)
  have htexts := hchunked.post ((leaves_textVisit tags_textless).nodes none styled)
  have htags := (visited_of_answers chunked hnew).tags
  rwa [htexts, hstyles, hscripts] at htags

/-- The classes and the identity of a tag are given what style sheets give them. -/
structure Tag.Matches (c : Context) (settings : Settings) (old new : Tag) : Prop where
  classes (items : List Text) (h : old.words? "class" = some items) :
    ∃ news, new.words? "class" = some news ∧
      List.Forall₂ (Style.Selector.byClass.Agrees c settings) items news
  identity (name : Text) (h : old.plain? "id" = some name) :
    ∃ tok, new.plain? "id" = some tok ∧ Style.Selector.byIdentity.Agrees c settings name tok

theorem matches_of_rewriteTag (hc : c.Foretells d) {old new : Tag}
    (h : d.Answers (rewriteTag v old) new) : old.Matches c v.settings new where
  classes := by
    intro items hitems
    obtain ⟨news, hnews, hall⟩ := (veiled_of_rewriteTag h).classes items hitems
    refine ⟨news, hnews, hall.imp fun name tok hname => Style.agrees_of_request ?_⟩
    rw [Style.Selector.request, Rewriting.className]
    unfold Tag.StandsForClass at hname
    split
    · rename_i hexcluded
      rw [if_pos hexcluded] at hname
      rw [hname]
      rfl
    · rename_i hexcluded
      rw [if_neg hexcluded] at hname
      exact hc.run_name hname
  identity := by
    intro name hname
    obtain ⟨tok, htok, hvalue⟩ := identity_of_rewriteTag h hname
    exact ⟨tok, htok, fun hne => Style.agrees_of_request (hc.run_name (hvalue hne)) hne⟩

/-- A session that has the token of a class with an accent. -/
def accentContext : Context :=
  .ofMappings "k" { Mappings.empty with classNames := [("é", "t")] } (Twister.ofSeed 0)

end Markup

end VeiledGateway
