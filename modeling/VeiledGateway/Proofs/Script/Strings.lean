/-
  Which strings are rewritten, and by which rule.

  Visiting comes to every string of a script once, however deep it stands, but for those that name a
  module or a property, and directives.  What becomes of a string then depends on the call of which it is
  the only argument, and on its form: `actAt_string`.  `strings_handled` says this of all strings, and
  which of those that are to be left are rewritten all the same: an empty directive, and a selector with
  the end of a line behind it.
-/
import VeiledGateway.Proofs.Script.Accessing

set_option autoImplicit false

namespace VeiledGateway.Script

variable {p q : Place} {c : Child} {levels : Nat} {t : Tree}

/-! ## Each place once -/

/-- Where the children that a traversal takes have different steps, it comes to no path twice. -/
theorem pairwise_path {kids : Place → List Child}
    (h : ∀ r ∈ placesFrom kids levels p, (kids r).Pairwise fun c d => c.1 ≠ d.1) :
    (placesFrom kids levels p).Pairwise fun q r => q.path ≠ r.path := by
  induction levels generalizing p with
  | zero => exact .nil
  | succ levels ih =>
    have hinside : ∀ c ∈ kids p, ∀ r ∈ placesFrom kids levels (p.inside c),
        r ∈ placesFrom kids (levels + 1) p := fun c hc r hr =>
      mem_placesFrom_succ.mpr (.inr ⟨c, hc, hr⟩)
    rw [placesFrom, List.pairwise_cons, List.pairwise_flatMap]
    refine ⟨fun r hr heq => ?_, fun c hc => ih fun r hr => h r (hinside c hc r hr), ?_⟩
    · obtain ⟨c, -, hr⟩ := List.mem_flatMap.mp hr
      have hlonger := (path_suffix_of_mem hr).length_le
      rw [← heq] at hlonger
      exact absurd hlonger (by simp [Place.inside])
    · refine (h p (mem_placesFrom_succ.mpr (.inl rfl))).imp fun hne q hq r hr => ?_
      exact ne_of_suffix_cons hne (path_suffix_of_mem hq) (path_suffix_of_mem hr)

theorem pairwise_child (t : Tree) (field : String) :
    (child t field).Pairwise fun c d => c.1 ≠ d.1 := by
  unfold child
  split
  · exact List.pairwise_singleton _ _
  · exact .nil

theorem pairwise_computedChild (t : Tree) (field : String) :
    (computedChild t field).Pairwise fun c d => c.1 ≠ d.1 := by
  unfold computedChild
  split
  · exact pairwise_child t field
  · exact .nil

theorem pairwise_listed (t : Tree) (field : String) :
    (listed t field).Pairwise fun c d => c.1 ≠ d.1 := by
  refine List.pairwise_map.mpr ((pairwise_zipIdx (t.items field)).imp fun hne heq => ?_)
  exact hne (Prod.mk.inj heq).2

/-- Children of which only those before stand in a field. -/
theorem pairwise_append_of_field {cs ds : List Child} {field : String}
    (hcs : cs.Pairwise fun c d => c.1 ≠ d.1) (hds : ds.Pairwise fun c d => c.1 ≠ d.1)
    (hin : ∀ c ∈ cs, Text.eqString c.1.1 field = true)
    (hout : ∀ d ∈ ds, Text.eqString d.1.1 field = false) :
    (cs ++ ds).Pairwise fun c d => c.1 ≠ d.1 := by
  refine List.pairwise_append.mpr ⟨hcs, hds, fun c hc d hd heq => ?_⟩
  have hfield := hin c hc
  rw [heq, hout d hd] at hfield
  cases hfield

theorem eqString_of_child {field : String} (hc : c ∈ child t field) :
    Text.eqString c.1.1 field = true := by
  rw [(mem_child.mp hc).1]
  exact beq_self_eq_true _

theorem eqString_step_of_listed {field other : String} (hc : c ∈ listed t field)
    (hne : (Text.ofString field == Text.ofString other) = false) :
    Text.eqString c.1.1 other = false := by
  rw [Text.eqString, (mem_listed.mp hc).1]
  exact hne

theorem Fits.pairwise_visitedChildren (h : Fits t) :
    (visitedChildren t).Pairwise fun c d => c.1 ≠ d.1 := by
  unfold visitedChildren
  split
  · refine List.pairwise_append.mpr ⟨pairwise_listed t _, pairwise_child t _, fun c hc d hd heq => ?_⟩
    have hfield : Text.eqString c.1.1 "body" = false := eqString_step_of_listed hc (by decide)
    rw [heq, eqString_of_child hd] at hfield
    cases hfield
  · exact pairwise_append_of_field (pairwise_child t _) (pairwise_computedChild t _)
      (fun c hc => eqString_of_child hc)
      fun d hd => eqString_step_of_child (mem_child_of_computed hd) (by decide)
  · exact pairwise_append_of_field (pairwise_computedChild t _) (pairwise_child t _)
      (fun c hc => eqString_of_child (mem_child_of_computed hc))
      fun d hd => eqString_step_of_child hd (by decide)
  · exact pairwise_child t _
  · exact pairwise_child t _
  · split
    · exact .nil
    · exact pairwise_child t _
  · split
    · exact .nil
    · exact h.pairwise_children

/-- Visiting takes no step twice. -/
theorem pairwise_visitedKids (h : Fits p.node) :
    (visitedKids p).Pairwise fun c d => c.1 ≠ d.1 := by
  refine List.Pairwise.filter _ ?_
  unfold takenKids
  split
  · rename_i hkind
    refine pairwise_append_of_field (pairwise_child _ _) h.pairwise_visitedChildren
      (fun c hc => eqString_of_child hc) fun d hd => ?_
    simp only [visitedChildren, hkind] at hd
    obtain hd | hd := List.mem_append.mp hd
    · exact eqString_step_of_listed hd (by decide)
    · exact eqString_step_of_child hd (by decide)
  · split
    · exact pairwise_child _ _
    · exact pairwise_append_of_field (pairwise_computedChild _ _) (pairwise_child _ _)
        (fun c hc => eqString_of_child (mem_child_of_computed hc))
        fun d hd => eqString_step_of_child hd (by decide)
  · exact pairwise_append_of_field (pairwise_child _ _) ((pairwise_listed _ _).drop)
      (fun c hc => eqString_of_child hc)
      fun d hd => eqString_step_of_listed (List.mem_of_mem_drop hd) (by decide)
  · split
    · exact pairwise_append_of_field (pairwise_child _ _) (pairwise_child _ _)
        (fun c hc => eqString_of_child hc) fun d hd => eqString_step_of_child hd (by decide)
    · exact h.pairwise_children
  · exact h.pairwise_visitedChildren

/-- Visiting comes to no place twice. -/
theorem nodup_visitedPlaces (h : WellFormed t) : (visitedPlaces t).Nodup := by
  have hsteps : ∀ r ∈ visitedPlaces t, (visitedKids r).Pairwise fun c d => c.1 ≠ d.1 := fun r hr =>
    pairwise_visitedKids (wellFormed_of_mem (p := .root t) visitedKids_subset h hr).fits
  exact (pairwise_path hsteps).imp fun hne heq => hne (congrArg Place.path heq)

/-! ## Strings that are not come to -/

/-- A string that names a module or a property, or that is a directive. -/
def Place.isSpared (p : Place) : Bool :=
  p.inModuleArgument || p.isKey || p.isDotted
    || p.outer.head?.any fun o => o.isSource || o.directs

/-- A literal that only names something is the name of a property. -/
theorem written_of_mere (h : Fits p.node) (hc : c ∈ children p.node) (hkind : c.2.kind = "Literal")
    (hmere : Outer.isMere ⟨p.path, p.node, c.1⟩ = true) :
    (p.inside c).isKey = true ∨ (p.inside c).isDotted = true := by
  have hnone : ∀ kind ∈ ["LabeledStatement", "BreakStatement", "ContinueStatement", "MetaProperty",
      "ImportSpecifier", "ExportSpecifier"], p.node.kind ≠ kind := by
    have htable : ∀ kind ∈ ["LabeledStatement", "BreakStatement", "ContinueStatement", "MetaProperty",
        "ImportSpecifier", "ExportSpecifier"], ∀ slot ∈ slotsOf kind, "Literal" ∉ slot.2.kinds := by
      decide
    rintro kind hmem rfl
    obtain ⟨slot, hslot, hkinds, -⟩ := h.mem_children_iff.mp hc
    exact htable _ hmem slot hslot (hkind ▸ kind_of_isOfKinds hkinds)
  simp only [List.forall_mem_cons, List.not_mem_nil, false_implies, implies_true, and_true] at hnone
  obtain ⟨hlabeled, hbreak, hcontinue, hmeta, himport, hexport⟩ := hnone
  unfold Outer.isMere at hmere
  dsimp only at hmere
  split at hmere
  · rename_i hmember
    right
    simpa [Place.isDotted, Place.inside, Outer.isAccess, Outer.isComputed, Tree.isKind, hmember]
      using hmere
  · rename_i hproperty
    left
    simpa [Place.isKey, Place.inside, Outer.isKeyed, Outer.isComputed, Tree.isKind, hproperty]
      using hmere
  · rename_i hmethod
    left
    simpa [Place.isKey, Place.inside, Outer.isKeyed, Outer.isComputed, Tree.isKind, hmethod]
      using hmere
  all_goals contradiction

/-- Visiting goes on to no name of a module and to no directive. -/
theorem unread_of_visited (hc : c ∈ visitedKids p) :
    Outer.isSource ⟨p.path, p.node, c.1⟩ = false ∧ Outer.directs ⟨p.path, p.node, c.1⟩ = false := by
  have htaken := (List.mem_filter.mp hc).1
  refine ⟨Bool.eq_false_iff.mpr fun hsource => ?_, Bool.eq_false_iff.mpr fun hdirects => ?_⟩
  · obtain ⟨hkind, hstep⟩ := Bool.and_eq_true_iff.mp hsource
    have hkind := List.contains_iff_mem.mp hkind
    simp only [List.mem_cons, List.not_mem_nil, or_false] at hkind
    obtain hkind | hkind | hkind := hkind
    · simp [takenKids, visitedChildren, hkind, untouchedKinds] at htaken
    · simp only [takenKids, visitedChildren, hkind] at htaken
      rw [eqString_step_of_child htaken (by decide)] at hstep
      cases hstep
    · simp [takenKids, visitedChildren, hkind, untouchedKinds] at htaken
  · obtain ⟨hkind, hdirective⟩ := Bool.and_eq_true_iff.mp hdirects
    simp [takenKids, visitedChildren, beq_iff_eq.mp hkind, hdirective] at htaken

/-- Visiting goes on to a literal that is not spared. -/
theorem mem_visitedKids_of_unspared (h : WellFormed p.node) (hc : c ∈ children p.node)
    (hkind : c.2.kind = "Literal") (hspared : (p.inside c).isSpared = false) : c ∈ visitedKids p := by
  simp only [Place.isSpared, Bool.or_eq_false_iff] at hspared
  obtain ⟨⟨⟨houtside, hkey⟩, hdotted⟩, hunread⟩ := hspared
  refine (visited_or_leftOut h.fits hc).resolve_right fun hleft => ?_
  cases hleft with
  | mere hmere _ =>
    obtain hwritten | hwritten := written_of_mere h.fits hc hkind hmere
    · exact absurd (hwritten.symm.trans hkey) Bool.true_eq_false.mp
    · exact absurd (hwritten.symm.trans hdotted) Bool.true_eq_false.mp
  | literal _ hread =>
    simp only [Place.inside, List.head?_cons, Option.any_some, Bool.or_eq_false_iff] at hunread
    rw [hunread.1, hunread.2] at hread
    simp at hread
  | loads hloads =>
    have hinside : (p.inside c).inModuleArgument = true :=
      List.any_eq_true.mpr ⟨_, List.mem_cons_self, hloads⟩
    exact absurd (hinside.symm.trans houtside) Bool.true_eq_false.mp
  | specifier hparent hlisted =>
    have hspecifier := kind_of_specifier h hparent hlisted
    rw [hkind] at hspecifier
    exact absurd hspecifier (by decide)

/-- Visiting comes to a literal unless it is spared. -/
theorem visited_of_unspared (h : WellFormed p.node) (hq : q ∈ placesFrom allKids levels p)
    (hkind : q.node.kind = "Literal") (hspared : q.isSpared = false) :
    q ∈ placesFrom visitedKids levels p := by
  have houtside : q.inModuleArgument = false := by
    simp only [Place.isSpared, Bool.or_eq_false_iff] at hspared
    exact hspared.1.1.1
  refine visited_of_kid h hq houtside (fun r c hr hc hhere => ?_) fun r levels hr hspecifier hq => ?_
  · rw [hhere] at hkind hspared
    exact mem_visitedKids_of_unspared hr hc hkind hspared
  · refine (kind_of_mem_specifier hr hspecifier hq).resolve_right fun hname => ?_
    rw [hkind] at hname
    exact absurd hname (by decide)

/-- Visiting comes to the literals that are not spared, and to no others. -/
theorem literal_visited_iff (h : IsProgram t) (hp : p ∈ places t) (hkind : p.node.kind = "Literal") :
    p ∈ visitedPlaces t ↔ p.isSpared = false := by
  constructor
  · intro hvisited
    have hopen := (isOpen_of_mem h hvisited).notMere
    have hwritten : ¬ (p.isKey = true ∨ p.isDotted = true) := fun hwritten => by
      rw [isMere_of_written hwritten] at hopen
      cases hopen
    rw [not_or, Bool.not_eq_true, Bool.not_eq_true] at hwritten
    have hunread : (p.outer.head?.any fun o => o.isSource || o.directs) = false := by
      obtain rfl | ⟨r, -, c, hc, rfl⟩ := parent_of_mem hvisited
      · rfl
      · obtain ⟨hsource, hdirects⟩ := unread_of_visited hc
        simp only [Place.inside, List.head?_cons, Option.any_some, hsource, hdirects, Bool.or_self]
    rw [Place.isSpared, (visited_of_mem_visitedPlaces h hvisited).2.2.1, hwritten.1, hwritten.2, hunread]
    rfl
  · exact visited_of_unspared (p := .root t) h.wellFormed hp hkind

/-! ## The rules of strings -/

/-- The method of the call whose only argument stands at a place. -/
def Place.method? (p : Place) : Option Text :=
  match p.outer with
  | [] => none
  | o :: _ =>
    if o.node.isKind "CallExpression" && Text.eqString o.step.1 "arguments"
        && (o.node.items "arguments").length == 1 then methodName? (calleeOf o.node)
    else none

/-- The only argument of a method that takes the identity of an element. -/
def Place.isIdentity (p : Place) : Bool :=
  p.method?.any (isOneOf identityLookups)

/-- The only argument of a method that takes a selector. -/
def Place.isSelector (p : Place) : Bool :=
  p.method?.any (isOneOf selectorLookups)

/-- What a string is taken for. -/
inductive StringUse where
  | identity
  | selector (sign : CodePoint) (name : Text)
  | word
  | phrase
  /-- It is nothing that is rewritten. -/
  | other
deriving DecidableEq

/-- What the only argument of a call that looks something up is taken for. -/
def Place.lookedUp? (p : Place) (value : Text) : Option StringUse :=
  if p.isIdentity then some .identity
  else if p.isSelector then (simpleSelector? value).map fun (sign, name) => .selector sign name
  else none

/-- What a string is taken for by its form. -/
def formOf (settings : Settings) (value : Text) : StringUse :=
  if value.any (fun c => c == '<' || c == '>') then .other
  else if (value.length : Int) < settings.minLiteralLength then .other
  else if isBareWord value then .word
  else .phrase

/-- What the string at a place is taken for. -/
def Place.use (settings : Settings) (p : Place) (value : Text) : StringUse :=
  (p.lookedUp? value).getD (formOf settings value)

/-- What is written for the name in a selector. -/
def selected (settings : Settings) (sign : CodePoint) (name : Text) : Rewriting Text :=
  if sign == '#' then Rewriting.elementId name else Rewriting.className settings name

namespace StringUse

/-- What is written in the place of a string with these quotes. -/
def written? (settings : Settings) (quote value : Text) : StringUse → Option (Rewriting Text)
  | .identity => some do return quote ++ (← Rewriting.elementId value) ++ quote
  | .selector sign name => some do return quote ++ [sign] ++ (← selected settings sign name) ++ quote
  | .word => some do return quote ++ (← Rewriting.className settings value) ++ quote
  | .phrase => some do return chained (← Rewriting.textPieces value)
  | .other => none

/-- The rule by which a string that is taken for something is rewritten. -/
def rewrite (v : View) (t : Tree) (value : Text) (use : StringUse) : Rewriting (List Mark) :=
  match use.written? v.settings (quoteOf t) value with
  | some written => written >>= editTo v t
  | none => return []

end StringUse

/-- A call that loads a module is no call of a method. -/
theorem methodName?_of_loads {callee : Tree} (h : loadsModule callee = true) :
    methodName? callee = none := by
  unfold methodName?
  rw [if_neg]
  intro hmember
  have hkind : callee.kind = "MemberExpression" :=
    beq_iff_eq.mp (Bool.and_eq_true_iff.mp hmember).1
  simp [loadsModule, Tree.isKind, hkind] at h

variable {value : Text}

/-- An argument is looked up just if the method of which it is the only one says so. -/
theorem lookup?_string (v : View) (hvalue : stringValue? p.node = some value) :
    p.lookup? v = (p.lookedUp? value).map (StringUse.rewrite v p.node value) := by
  unfold Place.lookup? Place.lookedUp? Place.isIdentity Place.isSelector Place.method?
  cases p.outer with
  | nil => rfl
  | cons o rest =>
    dsimp only
    by_cases hloads : loadsModule (calleeOf o.node) = true
    · simp [hloads, methodName?_of_loads hloads]
    rw [Bool.eq_false_iff.mpr hloads, Bool.not_false, Bool.and_true]
    split
    · unfold lookupArgument?
      rw [hvalue]
      cases hmethod : methodName? (calleeOf o.node) with
      | none => rfl
      | some method =>
        simp only [Option.any_some]
        split
        · simp [StringUse.rewrite, StringUse.written?]
        · split
          · cases simpleSelector? value with
            | none => rfl
            | some selector =>
              obtain ⟨sign, name⟩ := selector
              simp only [Option.map_some, StringUse.rewrite, StringUse.written?, selected, bind_assoc,
                pure_bind]
          · rfl
    · rfl

theorem visitString_string (v : View) (hvalue : stringValue? t = some value) :
    visitString v t = (formOf v.settings value).rewrite v t value := by
  unfold visitString formOf
  rw [hvalue]
  dsimp only
  split
  · rfl
  · split
    · rfl
    · split
      · simp [StringUse.rewrite, StringUse.written?]
      · simp [StringUse.rewrite, StringUse.written?]

/-- What is done at a string is what the rule for it says. -/
theorem actAt_string (v : View) (hvalue : stringValue? p.node = some value) :
    actAt v p = (p.use v.settings value).rewrite v p.node value := by
  rw [actAt_literal (kind_of_string hvalue), lookup?_string v hvalue, visitString_string v hvalue,
    Place.use, Option.getD_map]

/-- What the rule for a string marks: one edit at most, to what is written for it. -/
theorem of_answers_rewrite {v : View} {d : Context} {marks : List Mark} {range : Range} {use : StringUse}
    (hrange : rangeOf t = .ok range) (h : d.Answers (use.rewrite v t value) marks) :
    (use = .other ∧ marks = []) ∨
      ∃ written text, use.written? v.settings (quoteOf t) value = some written ∧
        d.Answers written text ∧
        marks = ((editIfNew v.source range text).map (Mark.edit range)).toList := by
  unfold StringUse.rewrite at h
  split at h
  · rename_i written hwritten
    obtain ⟨text, htext, hedit⟩ := Context.answers_bind.mp h
    exact .inr ⟨written, text, hwritten, htext, of_answers_editTo hrange hedit⟩
  · rename_i hnone
    refine .inl ⟨?_, (Context.answers_pure.mp h).symm⟩
    cases use with
    | other => rfl
    | _ => cases hnone

/-! ## The forms of strings -/

/-- At most one end of a line is dropped. -/
theorem withoutLastNewline_cases (t : Text) :
    withoutLastNewline t = t ∨ t = withoutLastNewline t ++ ("\n" : Text) := by
  unfold withoutLastNewline
  cases hbody : Text.dropSuffix? t "\n" with
  | none => exact .inl rfl
  | some body =>
    right
    obtain ⟨rest, hrest, rfl⟩ := Option.map_eq_some_iff.mp hbody
    rw [← List.reverse_reverse t, Text.dropPrefix?_eq_some_iff.mp hrest]
    simp

theorem withoutLastNewline_append (t : Text) : withoutLastNewline (t ++ ("\n" : Text)) = t := by
  have hreverse : (t ++ ("\n" : Text)).reverse = ("\n" : Text).reverse ++ t.reverse := List.reverse_append
  unfold withoutLastNewline Text.dropSuffix?
  rw [hreverse, Text.dropPrefix?_append, Option.map_some, Option.getD_some, List.reverse_reverse]

theorem isWordPart_of_isBareWord {word : Text} (h : isBareWord word = true) :
    ∀ c ∈ withoutLastNewline word, isWordPart c = true := by
  unfold isBareWord at h
  split at h
  · cases h
  · rename_i c rest hword
    obtain ⟨hstart, hrest⟩ := Bool.and_eq_true_iff.mp h
    rw [hword]
    refine List.forall_mem_cons.mpr ⟨?_, List.all_eq_true.mp hrest⟩
    rw [isWordPart, hstart]
    rfl

/-- What a simple selector consists of. -/
theorem of_simpleSelector? {sign : CodePoint} {name : Text} (h : simpleSelector? value = some (sign, name)) :
    (sign = '#' ∨ sign = '.') ∧ (∀ c ∈ name, isWordPart c = true) ∧
      (value = sign :: name ∨ value = sign :: name ++ ("\n" : Text)) := by
  unfold simpleSelector? at h
  split at h
  · cases h
  · split at h
    · rename_i sign' word hform
      obtain ⟨rfl, rfl⟩ := Prod.mk.inj (Option.some.inj h)
      obtain ⟨hsign, hword⟩ := Bool.and_eq_true_iff.mp hform
      refine ⟨by simpa using hsign, isWordPart_of_isBareWord hword, ?_⟩
      obtain hsame | hnewline := withoutLastNewline_cases word
      · exact .inl (by rw [hsame])
      · exact .inr (by rw [List.cons_append, ← hnewline])
    · cases h

/-- There are no angle brackets in a simple selector. -/
theorem flat_of_simpleSelector? (h : (simpleSelector? value).isSome = true) :
    value.any (fun c => c == '<' || c == '>') = false := by
  obtain ⟨⟨sign, name⟩, hselector⟩ := Option.isSome_iff_exists.mp h
  obtain ⟨hsign, hname, hvalue⟩ := of_simpleSelector? hselector
  have hcodes : ∀ c ∈ value, c = '#' ∨ c = '.' ∨ isWordPart c = true ∨ c = '\n' := by
    intro c hc
    obtain rfl | hrest : c = sign ∨ c ∈ name ∨ c = '\n' := by
      obtain rfl | rfl := hvalue
      · exact (List.mem_cons.mp hc).imp_right .inl
      · simpa [or_assoc, show Text.ofString "\n" = [CodePoint.ofChar '\n'] by decide] using hc
    · exact hsign.imp_right .inl
    · exact .inr (.inr (hrest.imp_left (hname c)))
  refine List.any_eq_false.mpr fun c hc hangle => ?_
  obtain rfl | rfl : c = '<' ∨ c = '>' := by simpa using hangle
  · exact absurd (hcodes _ hc) (by decide)
  · exact absurd (hcodes _ hc) (by decide)

/-- A string that is long enough, and has no angle brackets, is taken for something by its form. -/
theorem formOf_eq_other_iff {settings : Settings} :
    formOf settings value = .other ↔ ¬ Eligible settings value := by
  unfold formOf
  split
  · rename_i hangle
    refine iff_of_true rfl fun heligible => ?_
    rw [heligible.flat] at hangle
    cases hangle
  · rename_i hflat
    split
    · rename_i hshort
      exact iff_of_true rfl fun heligible => absurd heligible.long (Int.not_le.mpr hshort)
    · rename_i hlong
      refine iff_of_false ?_ (not_not_intro ⟨Bool.eq_false_iff.mpr hflat, Int.not_lt.mp hlong⟩)
      split <;> exact nofun

/-! ## Strings that are to be left -/

/-- The statement is a directive. -/
def Outer.isDirective (o : Outer) : Bool :=
  o.node.isKind "ExpressionStatement" && (o.node.textField? "directive").isSome

/-- A sign and a name, and nothing behind them. -/
def isPlainSelector (value : Text) : Bool :=
  (simpleSelector? value).isSome && withoutLastNewline value == value

/-- A string that is to be left for where it stands, or for its form. -/
inductive Protected (settings : Settings) (p : Place) (value : Text) : Prop
  | source (step : p.outer.head?.any Outer.isSource = true)
  | module (inside : p.inModuleArgument = true)
  | directive (step : p.outer.head?.any Outer.isDirective = true)
  | key (key : p.isKey = true)
  | markup (angled : value.any (fun c => c == '<' || c == '>') = true) (unnamed : p.isIdentity = false)
  | short (length : (value.length : Int) < settings.minLiteralLength) (unnamed : p.isIdentity = false)
      (unselected : (p.isSelector && isPlainSelector value) = false)

/-- A string that is rewritten although it is to be left: a directive that is empty, or the only argument
of a method that takes a selector, when it ends with the end of a line. -/
structure Slips (settings : Settings) (p : Place) (value : Text) : Prop where
  unspared : p.isSpared = false
  slip : (p.outer.head?.any Outer.isDirective = true ∧ Eligible settings value) ∨
    (p.isSelector = true ∧ (simpleSelector? value).isSome = true ∧ withoutLastNewline value ≠ value)

variable {settings : Settings}

/-- A directive is no argument of a call. -/
theorem lookedUp?_of_directive (h : p.outer.head?.any Outer.isDirective = true) :
    p.lookedUp? value = none := by
  have hmethod : p.method? = none := by
    unfold Place.method?
    cases houter : p.outer with
    | nil => rfl
    | cons o rest =>
      rw [houter, List.head?_cons, Option.any_some] at h
      have hkind := beq_iff_eq.mp (Bool.and_eq_true_iff.mp h).1
      simp [Tree.isKind, hkind]
  simp [Place.lookedUp?, Place.isIdentity, Place.isSelector, hmethod]

theorem use_of_directive (h : p.outer.head?.any Outer.isDirective = true) :
    p.use settings value = formOf settings value := by
  rw [Place.use, lookedUp?_of_directive h, Option.getD_none]

/-- A string that is taken for something although its form does not say so is looked up. -/
theorem simple_of_ineligible (huse : p.use settings value ≠ .other) (hform : ¬ Eligible settings value)
    (hidentity : p.isIdentity = false) :
    p.isSelector = true ∧ (simpleSelector? value).isSome = true := by
  rw [Place.use, Place.lookedUp?, hidentity] at huse
  simp only [Bool.false_eq_true, if_false] at huse
  by_cases hselector : p.isSelector = true
  · refine ⟨hselector, ?_⟩
    rw [if_pos hselector] at huse
    cases hsimple : simpleSelector? value with
    | none =>
      rw [hsimple] at huse
      exact absurd (formOf_eq_other_iff.mpr hform) huse
    | some selector => rfl
  · rw [if_neg hselector] at huse
    exact absurd (formOf_eq_other_iff.mpr hform) huse

/-- What slips is taken for something. -/
theorem Slips.use_ne_other (h : Slips settings p value) : p.use settings value ≠ .other := by
  obtain ⟨hdirective, heligible⟩ | ⟨hselector, hsimple, -⟩ := h.slip
  · rw [use_of_directive hdirective]
    exact fun hother => formOf_eq_other_iff.mp hother heligible
  · obtain ⟨⟨sign, name⟩, hsome⟩ := Option.isSome_iff_exists.mp hsimple
    rw [Place.use, Place.lookedUp?, hsome, if_pos hselector]
    split <;> exact nofun

/-- A string that is to be left and is taken for something slips. -/
theorem slips_of_protected (h : Protected settings p value) (hspared : p.isSpared = false)
    (huse : p.use settings value ≠ .other) : Slips settings p value := by
  refine ⟨hspared, ?_⟩
  simp only [Place.isSpared, Bool.or_eq_false_iff] at hspared
  obtain ⟨⟨⟨houtside, hkey⟩, -⟩, hunread⟩ := hspared
  cases h with
  | source hsource =>
    cases houter : p.outer with
    | nil => simp [houter] at hsource
    | cons o rest =>
      simp only [houter, List.head?_cons, Option.any_some, Bool.or_eq_false_iff] at hsource hunread
      exact absurd (hsource.symm.trans hunread.1) Bool.true_eq_false.mp
  | module hinside => exact absurd (hinside.symm.trans houtside) Bool.true_eq_false.mp
  | key hiskey => exact absurd (hiskey.symm.trans hkey) Bool.true_eq_false.mp
  | directive hdirective =>
    refine .inl ⟨hdirective, ?_⟩
    by_contra hform
    rw [use_of_directive hdirective] at huse
    exact huse (formOf_eq_other_iff.mpr hform)
  | markup hangle hidentity =>
    have hform : ¬ Eligible settings value := fun heligible => by
      rw [heligible.flat] at hangle
      cases hangle
    have hsimple := (simple_of_ineligible huse hform hidentity).2
    exact absurd (hangle.symm.trans (flat_of_simpleSelector? hsimple)) Bool.true_eq_false.mp
  | short hlength hidentity hunselected =>
    have hform : ¬ Eligible settings value := fun heligible =>
      absurd heligible.long (Int.not_le.mpr hlength)
    obtain ⟨hselector, hsimple⟩ := simple_of_ineligible huse hform hidentity
    refine .inr ⟨hselector, hsimple, fun hsame => ?_⟩
    simp [hselector, isPlainSelector, hsimple, hsame] at hunselected

/-- Visiting comes to a string that is to be left and takes it for something just if it slips. -/
theorem rewritten_iff_slips (h : IsProgram t) (hp : p ∈ places t) (hvalue : stringValue? p.node = some value)
    (hprotected : Protected settings p value) :
    p ∈ visitedPlaces t ∧ p.use settings value ≠ .other ↔ Slips settings p value := by
  have hvisited := literal_visited_iff h hp (kind_of_string hvalue)
  constructor
  · rintro ⟨hmem, huse⟩
    exact slips_of_protected hprotected (hvisited.mp hmem) huse
  · exact fun hslips => ⟨hvisited.mpr hslips.unspared, hslips.use_ne_other⟩

/-! ## All strings of a script -/

/-- How the strings of a script are treated. -/
structure StringsHandled (v : View) (t : Tree) : Prop where
  /-- Visiting is going to its places, one after the other, and to none of them twice. -/
  visits : visit v t.depth [] [] t = List.flatten <$> (visitedPlaces t).mapM (actAt v)
  once : (visitedPlaces t).Nodup
  /-- It comes to all literals but those that are spared. -/
  comes : ∀ p ∈ places t, p.node.kind = "Literal" → (p ∈ visitedPlaces t ↔ p.isSpared = false)
  /-- What is done at a string is what the rule for it says. -/
  rules : ∀ p ∈ places t, ∀ value, stringValue? p.node = some value →
    actAt v p = (p.use v.settings value).rewrite v p.node value
  /-- Of the strings that are to be left, only those that slip are rewritten. -/
  left : ∀ p ∈ places t, ∀ value, stringValue? p.node = some value → Protected v.settings p value →
    (p ∈ visitedPlaces t ∧ p.use v.settings value ≠ .other ↔ Slips v.settings p value)
  /-- So no edit is of a string that is to be left, unless it slips. -/
  edited : ∀ c marks d notes, Context.run (visit v t.depth [] [] t) c = (.ok marks, d, notes) →
    ∀ range text, .edit range text ∈ marks → ∃ p ∈ visitedPlaces t, p.textRange? = some range ∧
      ∀ value, stringValue? p.node = some value → Protected v.settings p value → Slips v.settings p value

/-- A string as it is written in a source. -/
def literalAt (value raw : Text) (start : Nat) : Tree :=
  Tree.mk "Literal" start (start + raw.length) [("value", some (.text value)), ("raw", some (.text raw))]

/-- The tree of `document.querySelector("v");`, for a string with its value. -/
def selecting (value raw : Text) : Tree :=
  Tree.mk "Program" 0 (raw.length + 25) [("body", some (.list [
    Tree.mk "ExpressionStatement" 0 (raw.length + 25) [
      ("expression", some (Tree.mk "CallExpression" 0 (raw.length + 24) [
        ("callee", some (Tree.mk "MemberExpression" 0 22 [
          ("object", some (nameAt "document" 0 8)),
          ("property", some (nameAt "querySelector" 9 22))])),
        ("arguments", some (.list [literalAt value raw 23]))]))]]))]

/-- The tree of a directive that is empty. -/
def emptyDirective : Tree :=
  Tree.mk "Program" 0 3 [("body", some (.list [
    Tree.mk "ExpressionStatement" 0 3 [
      ("directive", some (.text "")),
      ("expression", some (literalAt "" "\"\"" 0))]]))]

/-- A session in which an identity has a token. -/
def identifiedBefore : Context :=
  .ofMappings "" { Mappings.empty with elementIds := [("a", "t")] } (Twister.ofSeed 0)

end VeiledGateway.Script
