/-
  What a visit makes of a document, read off the tables that answered it.

  `Visited` says it node by node, without the program.  From it follows what each of the visits that
  rewrite a document leaves as it was: the one to the texts changes nothing that is seen, and the one
  to the attributes changes tags only, and of these nothing but the values that it is there for.

  An empty comment shows nothing, and texts that stand side by side show as one.  `tidy` takes the
  former out and then joins the latter.  Two documents that are alike, but for the tags and for the
  code in them, stay so when both are tidied.
-/
import VeiledGateway.Markup.Rewrite
import VeiledGateway.Proofs.Context.Answering

set_option autoImplicit false

namespace VeiledGateway.Markup

/-! ## What is seen -/

def Node.isEmptyComment : Node → Bool
  | .aside .comment [] => true
  | _ => false

mutual

/-- A node without the empty comments in it. -/
def Node.uncommented : Node → Node
  | .element tag children => .element tag (uncommented children)
  | .text kept content => .text kept content
  | .aside kind content => .aside kind content

/-- Nodes without empty comments, at any depth. -/
def uncommented : List Node → List Node
  | [] => []
  | node :: rest =>
    if node.isEmptyComment then uncommented rest else node.uncommented :: uncommented rest

end

/-- A text before nodes: one with the text that they begin with, if they do. -/
def joinText (kept : Bool) (content : Text) : List Node → List Node
  | .text _ more :: rest => .text kept (content ++ more) :: rest
  | nodes => .text kept content :: nodes

mutual

/-- A node in which texts side by side are one. -/
def Node.joined : Node → Node
  | .element tag children => .element tag (joined children)
  | .text kept content => .text kept content
  | .aside kind content => .aside kind content

/-- Nodes of which texts side by side are one, at any depth. -/
def joined : List Node → List Node
  | [] => []
  | .text kept content :: rest => joinText kept content (joined rest)
  | node :: rest => node.joined :: joined rest

end

/-- Nodes without empty comments, where texts side by side are then one. -/
def tidy (nodes : List Node) : List Node :=
  joined (uncommented nodes)

variable {kept : Bool} {content : Text} {rest : List Node}

theorem tidy_text : tidy (.text kept content :: rest) = joinText kept content (tidy rest) :=
  rfl

theorem tidy_element (tag : Tag) (children : List Node) :
    tidy (.element tag children :: rest) = .element tag (tidy children) :: tidy rest :=
  rfl

theorem tidy_aside (kind : AsideKind) (content : Text) (rest : List Node) :
    tidy (.aside kind content :: rest) =
      if (Node.aside kind content).isEmptyComment then tidy rest
      else .aside kind content :: tidy rest := by
  rw [tidy, uncommented]
  split
  · rfl
  · rfl

/-! ## Texts in pieces -/

theorem joinText_joinText (kept' : Bool) (more : Text) (nodes : List Node) :
    joinText kept content (joinText kept' more nodes) = joinText kept (content ++ more) nodes := by
  rcases nodes with _ | ⟨_ | ⟨_, last⟩ | _, _⟩
  · rfl
  · rfl
  · rw [joinText, joinText, joinText, List.append_assoc]
  · rfl

/-- The pieces of a text show as the text does. -/
theorem tidy_pieceNodes {pieces : List Text} (h : pieces ≠ []) (rest : List Node) :
    tidy (pieceNodes pieces ++ rest) = joinText false pieces.flatten (tidy rest) := by
  induction pieces with
  | nil => exact absurd rfl h
  | cons piece others ih =>
    cases others with
    | nil =>
      rw [List.flatten_cons, List.flatten_nil, List.append_nil]
      rfl
    | cons next others =>
      rw [List.flatten_cons, ← joinText_joinText false, ← ih (List.cons_ne_nil _ _)]
      rfl

example : tidy (pieceNodes ["hi ", "you"]) = [.text false "hi you"] := rfl

/-! ## Documents that are alike -/

/-- Nodes that are alike but for the tags, each of which is as `tags` tells, and but for the one text
of an element whose tag is as `coded` tells. -/
inductive Alike (tags : Tag → Tag → Prop) (coded : Tag → Prop) : List Node → List Node → Prop
  | nil : Alike tags coded [] []
  | text (kept : Bool) (content : Text) {rest rest' : List Node}
      (hrest : Alike tags coded rest rest') :
      Alike tags coded (.text kept content :: rest) (.text kept content :: rest')
  | aside (kind : AsideKind) (content : Text) {rest rest' : List Node}
      (hrest : Alike tags coded rest rest') :
      Alike tags coded (.aside kind content :: rest) (.aside kind content :: rest')
  | element {tag tag' : Tag} {children children' rest rest' : List Node} (htag : tags tag tag')
      (hchildren : Alike tags coded children children') (hrest : Alike tags coded rest rest') :
      Alike tags coded (.element tag children :: rest) (.element tag' children' :: rest')
  | code {tag tag' : Tag} (kept : Bool) (content content' : Text) {rest rest' : List Node}
      (hcoded : coded tag) (htag : tags tag tag') (hrest : Alike tags coded rest rest') :
      Alike tags coded (.element tag [.text kept content] :: rest)
        (.element tag' [.text kept content'] :: rest')

namespace Alike

variable {tags : Tag → Tag → Prop} {coded : Tag → Prop} {a b c : List Node}

theorem joinText (h : Alike tags coded a b) :
    Alike tags coded (joinText kept content a) (joinText kept content b) := by
  cases h with
  | nil => exact .text _ _ .nil
  | text _ more hrest => exact .text kept (content ++ more) hrest
  | aside kind more hrest => exact .text kept content (.aside kind more hrest)
  | element htag hchildren hrest => exact .text kept content (.element htag hchildren hrest)
  | code _ old new hcoded htag hrest => exact .text kept content (.code _ old new hcoded htag hrest)

theorem tidy (h : Alike tags coded a b) : Alike tags coded (tidy a) (tidy b) := by
  induction h with
  | nil => exact .nil
  | text _ _ _ ih => exact ih.joinText
  | aside kind content _ ih =>
    rw [tidy_aside, tidy_aside]
    split
    · exact ih
    · exact .aside kind content ih
  | element htag _ _ ihchildren ihrest => exact .element htag ihchildren ihrest
  | code kept content content' hcoded htag _ ih => exact .code kept content content' hcoded htag ih

/-- Nodes alike with the same tags, and what these are alike to. -/
theorem trans (h : Alike Eq coded a b) (h' : Alike tags coded b c) : Alike tags coded a c := by
  induction h generalizing c with
  | nil => exact h'
  | text kept content _ ih =>
    cases h' with
    | text _ _ hrest => exact .text kept content (ih hrest)
  | aside kind content _ ih =>
    cases h' with
    | aside _ _ hrest => exact .aside kind content (ih hrest)
  | element htag hchildren _ ihchildren ihrest =>
    subst htag
    cases h' with
    | element htag' hchildren' hrest => exact .element htag' (ihchildren hchildren') (ihrest hrest)
    | code kept content content' hcoded htag' hrest =>
      rcases hchildren with _ | ⟨_, _, ⟨⟩⟩
      exact .code kept content content' hcoded htag' (ihrest hrest)
  | code kept content content' hcoded htag _ ih =>
    subst htag
    cases h' with
    | element htag' hchildren' hrest =>
      rcases hchildren' with _ | ⟨_, _, ⟨⟩⟩
      exact .code kept content content' hcoded htag' (ih hrest)
    | code _ _ content' _ htag' hrest => exact .code kept content content' hcoded htag' (ih hrest)

end Alike

variable {d : Context} {visit : Visit} {v : View} {settings : Settings}

/-! ## Names of elements -/

namespace Tag

variable {tag : Tag}

theorem isNamed_of_subset {names more : List String} (h : names ⊆ more) (hnamed : tag.isNamed names = true) :
    tag.isNamed more = true := by
  obtain ⟨name, hmem, hname⟩ := List.any_eq_true.mp hnamed
  exact List.any_eq_true.mpr ⟨name, h hmem, hname⟩

theorem isNamed_singleton_iff {name : String} : tag.isNamed [name] = true ↔ tag.name = (name : Text) := by
  simp [isNamed, Text.eqString]

theorem name_of_moduleMode? {isModule : Bool} (h : moduleMode? tag = some isModule) :
    tag.name = ("script" : Text) := by
  unfold moduleMode? at h
  split at h
  · cases h
  · rename_i hnamed
    obtain ⟨hname, -⟩ := not_or.mp (mt Bool.or_eq_true_iff.mpr hnamed)
    exact isNamed_singleton_iff.mp (by simpa using hname)

/-- A script is not a style sheet. -/
theorem not_style_of_mode {isModule : Bool} (h : moduleMode? tag = some isModule) :
    tag.isNamed ["style"] = false := by
  rw [Bool.eq_false_iff, Ne, isNamed_singleton_iff, name_of_moduleMode? h]
  decide

end Tag

/-! ## Visits -/

/-- What a visit makes of nodes inside an element when the tables answer it. -/
inductive Visited (d : Context) (visit : Visit) : Option Tag → List Node → List Node → Prop
  | nil (inside : Option Tag) : Visited d visit inside [] []
  | text {inside : Option Tag} {kept : Bool} {content : Text} {new rest rest' : List Node}
      (hnew : d.Answers (visit.text inside kept content) new)
      (hrest : Visited d visit inside rest rest') :
      Visited d visit inside (.text kept content :: rest) (new ++ rest')
  | aside {inside : Option Tag} (kind : AsideKind) (content : Text) {rest rest' : List Node}
      (hrest : Visited d visit inside rest rest') :
      Visited d visit inside (.aside kind content :: rest) (.aside kind content :: rest')
  | element {inside : Option Tag} {tag tag' : Tag} {children children' rest rest' : List Node}
      (htag : d.Answers (visit.tag tag) tag')
      (hchildren : Visited d visit (some tag) children children')
      (hrest : Visited d visit inside rest rest') :
      Visited d visit inside (.element tag children :: rest) (.element tag' children' :: rest')

mutual

theorem visited_of_answers_node {inside : Option Tag} {new rest rest' : List Node} :
    (n : Node) → d.Answers (visit.node inside n) new → Visited d visit inside rest rest' →
      Visited d visit inside (n :: rest) (new ++ rest')
  | .text _ _, hnew, hrest => .text hnew hrest
  | .aside kind content, hnew, hrest => by
    obtain rfl := Context.answers_pure.mp hnew
    exact .aside kind content hrest
  | .element tag children, hnew, hrest => by
    obtain ⟨tag', htag, hnew⟩ := Context.answers_bind.mp hnew
    obtain ⟨children', hchildren, hnew⟩ := Context.answers_bind.mp hnew
    obtain rfl := Context.answers_pure.mp hnew
    exact .element htag (visited_of_answers children hchildren) hrest

theorem visited_of_answers {inside : Option Tag} {new : List Node} :
    (nodes : List Node) → d.Answers (visit.nodes inside nodes) new → Visited d visit inside nodes new
  | [], hnew => by
    obtain rfl := Context.answers_pure.mp hnew
    exact .nil inside
  | first :: rest, hnew => by
    obtain ⟨firsts, hfirst, hnew⟩ := Context.answers_bind.mp hnew
    obtain ⟨others, hothers, hnew⟩ := Context.answers_bind.mp hnew
    obtain rfl := Context.answers_pure.mp hnew
    exact visited_of_answers_node first hfirst (visited_of_answers rest hothers)

end

/-! ## Texts -/

/-- What the visit to the texts makes of a text shows as the text, whatever stands behind it. -/
theorem tidy_of_textVisit {inside : Option Tag} {kept : Bool} {content : Text} {new : List Node}
    (h : d.Answers (textVisit.text inside kept content) new) (rest : List Node) :
    tidy (new ++ rest) = joinText kept content (tidy rest) := by
  unfold textVisit at h
  dsimp only at h
  split at h
  · obtain rfl := Context.answers_pure.mp h
    rfl
  · rename_i hcut
    obtain ⟨pieces, ⟨parts, hpieces, rfl⟩, hnew⟩ := Context.answers_bind.mp h
    obtain rfl := Context.answers_pure.mp hnew
    obtain ⟨⟨hkept, -⟩, hlong⟩ := by simpa only [Bool.or_eq_true, not_or] using hcut
    have hflat := hpieces.flatten
    have hparts : parts ≠ [] := by
      rintro rfl
      obtain rfl : [] = content := hflat
      exact hlong (by decide)
    rw [tidy_pieceNodes hparts, hflat, Bool.eq_false_iff.mpr hkept]

theorem Visited.tidy_eq {inside : Option Tag} {a b : List Node} (h : Visited d textVisit inside a b) :
    tidy b = tidy a := by
  induction h with
  | nil => rfl
  | text hnew _ ih => rw [tidy_of_textVisit hnew, ih, tidy_text]
  | aside kind content _ ih => rw [tidy_aside, tidy_aside, ih]
  | element htag _ _ ihchildren ihrest =>
    obtain rfl := Context.answers_pure.mp htag
    rw [tidy_element, tidy_element, ihchildren, ihrest]

/-! ## Attributes -/

namespace Tag

/-- The attributes of a tag that the visit to the attributes may give other values. -/
def isVeiled (tag : Tag) (field : Text) : Bool :=
  ["class", "id", "src", "href"].any (Text.eqString field)
    || tag.isNamed ["label"] && Text.eqString field "for"

/-- At most the value of this attribute is another, and no attribute is new. -/
def Sets (field : Text) (old new : Tag) : Prop :=
  new = old ∨ old.attributes.has field = true ∧ ∃ value, new = old.put field value

theorem Sets.name {field : Text} {old new : Tag} (h : Sets field old new) : new.name = old.name := by
  rcases h with rfl | ⟨-, value, rfl⟩
  · rfl
  · rfl

theorem Sets.fields {field : Text} {old new : Tag} (h : Sets field old new) :
    new.attributes.map Prod.fst = old.attributes.map Prod.fst := by
  rcases h with rfl | ⟨hhas, value, rfl⟩
  · rfl
  · exact Entries.names_put_of_has hhas value

theorem Sets.get? {field other : Text} {old new : Tag} (h : Sets field old new)
    (hne : other ≠ field) : new.attributes.get? other = old.attributes.get? other := by
  rcases h with rfl | ⟨-, value, rfl⟩
  · rfl
  · exact Entries.get?_put_of_ne _ value hne

/-- What stands for a class when the tables answer: the class itself if it is excluded, else its
token. -/
def StandsForClass (settings : Settings) (d : Context) (original new : Text) : Prop :=
  if settings.isExcludedClass original then new = original
  else d.classNames.value? original = some new

/-- A tag that differs from another in the values of some attributes only: the classes, one for one,
the identity, the identity that a label is for, and the references. -/
structure Veiled (settings : Settings) (d : Context) (old new : Tag) : Prop where
  name : new.name = old.name
  fields : new.attributes.map Prod.fst = old.attributes.map Prod.fst
  others (field : Text) (h : old.isVeiled field = false) :
    new.attributes.get? field = old.attributes.get? field
  classes (items : List Text) (h : old.words? "class" = some items) :
    ∃ news, new.words? "class" = some news ∧ List.Forall₂ (StandsForClass settings d) items news
  unlisted (h : old.words? "class" = none) :
    new.attributes.get? "class" = old.attributes.get? "class"

theorem has_of_words? {tag : Tag} {field : Text} {items : List Text}
    (h : tag.words? field = some items) : tag.attributes.has field = true := by
  unfold words? at h
  split at h
  · rename_i hget
    rw [Entries.has, hget]
    rfl
  · cases h

theorem has_of_plain? {tag : Tag} {field content : Text} (h : tag.plain? field = some content) :
    tag.attributes.has field = true := by
  unfold plain? at h
  split at h
  · rename_i hget
    rw [Entries.has, hget]
    rfl
  · cases h

theorem words?_eq_of_get? {old new : Tag} {field : Text}
    (h : new.attributes.get? field = old.attributes.get? field) :
    new.words? field = old.words? field := by
  rw [words?, words?, h]

end Tag

theorem answers_className {original new : Text} :
    d.Answers (Rewriting.className settings original) new ↔
      Tag.StandsForClass settings d original new := by
  unfold Rewriting.className Tag.StandsForClass
  split
  · exact Context.answers_pure.trans eq_comm
  · constructor
    · rintro ⟨tok, htok, rfl⟩
      exact htok
    · exact fun h => ⟨new, h, rfl⟩

/-- The classes of a tag are rewritten one for one, and nothing else is. -/
theorem sets_of_rewriteClasses {old new : Tag} (h : d.Answers (rewriteClasses v old) new) :
    Tag.Sets "class" old new ∧
      (∀ items, old.words? "class" = some items → ∃ news, new.words? "class" = some news ∧
        List.Forall₂ (Tag.StandsForClass v.settings d) items news) ∧
      (old.words? "class" = none → new = old) := by
  unfold rewriteClasses at h
  split at h
  · rename_i first rest hwords
    obtain ⟨news, hnews, h⟩ := Context.answers_bind.mp h
    obtain rfl := Context.answers_pure.mp h
    refine ⟨.inr ⟨Tag.has_of_words? hwords, _, rfl⟩, fun items hitems => ⟨news, ?_, ?_⟩, ?_⟩
    · rw [Tag.words?, Tag.put, Entries.get?_put_self]
    · obtain rfl := Option.some.inj (hwords.symm.trans hitems)
      exact (Context.answers_mapM.mp hnews).imp fun _ _ => answers_className.mp
    · intro hnone
      cases hwords.symm.trans hnone
  · rename_i hnone
    obtain rfl := Context.answers_pure.mp h
    refine ⟨.inl rfl, fun items hitems => ⟨items, hitems, ?_⟩, fun _ => rfl⟩
    cases items with
    | nil => exact .nil
    | cons first rest => exact absurd hitems (hnone first rest)

theorem sets_of_rewriteIdentity {field : Text} {old new : Tag}
    (h : d.Answers (rewriteIdentity field old) new) : Tag.Sets field old new := by
  unfold rewriteIdentity at h
  split at h
  · rename_i hplain
    obtain ⟨tok, -, h⟩ := Context.answers_bind.mp h
    obtain rfl := Context.answers_pure.mp h
    exact .inr ⟨Tag.has_of_plain? hplain, _, rfl⟩
  · obtain rfl := Context.answers_pure.mp h
    exact .inl rfl

theorem sets_of_rewriteLink {field : Text} {old new : Tag}
    (h : d.Answers (rewriteLink v field old) new) : Tag.Sets field old new := by
  unfold rewriteLink at h
  split at h
  · rename_i hplain
    obtain ⟨reference, -, h⟩ := Context.answers_bind.mp h
    obtain rfl := Context.answers_pure.mp h
    exact .inr ⟨Tag.has_of_plain? hplain, _, rfl⟩
  · obtain rfl := Context.answers_pure.mp h
    exact .inl rfl

/-- The identity that a label is for and the references are set one after the other. -/
theorem sets_of_rewriteTag {old new : Tag} (h : d.Answers (rewriteTag v old) new) :
    ∃ named marked labelled sourced, d.Answers (rewriteClasses v old) named ∧
      d.Answers (rewriteIdentity "id" named) marked ∧ Tag.Sets "for" marked labelled ∧
      (old.isNamed ["label"] = false → labelled = marked) ∧
      Tag.Sets "src" labelled sourced ∧ Tag.Sets "href" sourced new := by
  obtain ⟨named, hnamed, h⟩ := Context.answers_bind.mp h
  obtain ⟨marked, hmarked, h⟩ := Context.answers_bind.mp h
  have hlinks : ∀ labelled, d.Answers (rewriteLink v "src" labelled >>= rewriteLink v "href") new →
      ∃ sourced, Tag.Sets "src" labelled sourced ∧ Tag.Sets "href" sourced new := by
    intro labelled h
    obtain ⟨sourced, hsourced, hnew⟩ := Context.answers_bind.mp h
    exact ⟨sourced, sets_of_rewriteLink hsourced, sets_of_rewriteLink hnew⟩
  dsimp only at h
  split at h
  · rename_i hlabel
    obtain ⟨labelled, hlabelled, h⟩ := Context.answers_bind.mp h
    obtain ⟨sourced, hsourced, hnew⟩ := hlinks labelled h
    exact ⟨named, marked, labelled, sourced, hnamed, hmarked, sets_of_rewriteIdentity hlabelled, fun hno => absurd hlabel (by rw [hno]; decide),
      hsourced, hnew⟩
  · obtain ⟨sourced, hsourced, hnew⟩ := hlinks marked h
    exact ⟨named, marked, marked, sourced, hnamed, hmarked, .inl rfl, fun _ => rfl, hsourced, hnew⟩

theorem veiled_of_rewriteTag {old new : Tag} (h : d.Answers (rewriteTag v old) new) :
    old.Veiled v.settings d new := by
  obtain ⟨named, marked, labelled, sourced, hnamed, hidentity, hlabelled, hno, hsourced, hnew⟩ :=
    sets_of_rewriteTag h
  have hmarked := sets_of_rewriteIdentity hidentity
  obtain ⟨hsets, hclasses, hunlisted⟩ := sets_of_rewriteClasses hnamed
  have hbehind : new.attributes.get? "class" = named.attributes.get? "class" := by
    rw [hnew.get? (by decide), hsourced.get? (by decide), hlabelled.get? (by decide),
      hmarked.get? (by decide)]
  constructor
  · rw [hnew.name, hsourced.name, hlabelled.name, hmarked.name, hsets.name]
  · rw [hnew.fields, hsourced.fields, hlabelled.fields, hmarked.fields, hsets.fields]
  · intro field hveiled
    obtain ⟨⟨hclass, hid, hsrc, hhref⟩, hfor⟩ := by
      simpa [Tag.isVeiled, Text.eqString] using hveiled
    have hlabel : labelled.attributes.get? field = marked.attributes.get? field := by
      rcases hnamed : old.isNamed ["label"] with _ | _
      · rw [hno hnamed]
      · exact hlabelled.get? (hfor hnamed)
    rw [hnew.get? hhref, hsourced.get? hsrc, hlabel, hmarked.get? hid, hsets.get? hclass]
  · intro items hitems
    rw [Tag.words?_eq_of_get? hbehind]
    exact hclasses items hitems
  · intro hnone
    rw [hbehind, hunlisted hnone]

/-- The identity of a tag is given its token; an empty one stays. -/
theorem identity_of_rewriteTag {old new : Tag} (h : d.Answers (rewriteTag v old) new) {name : Text}
    (hid : old.plain? "id" = some name) :
    ∃ tok, new.plain? "id" = some tok ∧ (name ≠ [] → d.elementIds.value? name = some tok) := by
  obtain ⟨named, marked, labelled, sourced, hnamed, hidentity, hlabelled, -, hsourced, hnew⟩ :=
    sets_of_rewriteTag h
  have hbehind : new.plain? "id" = marked.plain? "id" := by
    rw [Tag.plain?, hnew.get? (by decide), hsourced.get? (by decide), hlabelled.get? (by decide),
      Tag.plain?]
  have hbefore : named.plain? "id" = some name := by
    rw [← hid, Tag.plain?, (sets_of_rewriteClasses hnamed).1.get? (by decide), Tag.plain?]
  rw [hbehind]
  unfold rewriteIdentity at hidentity
  rw [hbefore] at hidentity
  cases name with
  | nil =>
    obtain rfl := Context.answers_pure.mp hidentity
    exact ⟨[], hbefore, fun hne => absurd rfl hne⟩
  | cons first rest =>
    obtain ⟨tok, ⟨_, htok, rfl⟩, hidentity⟩ := Context.answers_bind.mp hidentity
    obtain rfl := Context.answers_pure.mp hidentity
    exact ⟨_, by rw [Tag.plain?, Tag.put, Entries.get?_put_self], fun _ => htok⟩

/-- The visit to the attributes leaves documents as they were but for the tags. -/
theorem Visited.alike {inside : Option Tag} {a b : List Node} (h : Visited d (tagVisit v) inside a b)
    (coded : Tag → Prop) : Alike (Tag.Veiled v.settings d) coded a b := by
  induction h with
  | nil => exact .nil
  | text hnew _ ih =>
    obtain rfl := Context.answers_pure.mp hnew
    exact .text _ _ ih
  | aside kind content _ ih => exact .aside kind content ih
  | element htag _ _ ihchildren ihrest =>
    exact .element (veiled_of_rewriteTag htag) ihchildren ihrest

end VeiledGateway.Markup
