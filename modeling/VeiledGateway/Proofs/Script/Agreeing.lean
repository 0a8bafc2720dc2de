/-
  Where gathering agrees with the scoping rules of the language.

  The two differ at a name if, of the scopes around it, the innermost one that is a concern of either
  is a concern of one alone.  `Astray` lists the ways in which that happens, and
  `resolve_eq_owner_iff` says that there is no other reason for which a name is not found where the
  language finds it.
-/
import VeiledGateway.Proofs.Script.Binding
import VeiledGateway.Proofs.Script.Resolving

set_option autoImplicit false

namespace VeiledGateway.Script

/-! ## The first of a list that two tests tell apart -/

/-- Two tests find the same in a list exactly if the first that passes one of them passes both. -/
theorem find?_bind_eq_iff {α β : Type} {f g : α → Bool} {key : α → Option β} {l : List α}
    (hkeys : ∀ a ∈ l, f a = true ∨ g a = true → ∃ k, key a = some k)
    (hdiffer : l.Pairwise fun a b => ∀ k, key a = some k → key b ≠ some k) :
    (l.find? f).bind key = (l.find? g).bind key ↔
      ¬ ∃ near a far, l = near ++ a :: far ∧ (∀ c ∈ near, f c = false ∧ g c = false) ∧ f a ≠ g a := by
  induction l with
  | nil => simp
  | cons a l ih =>
    obtain ⟨hhead, htail⟩ := List.pairwise_cons.mp hdiffer
    have hrest := ih (fun b hb => hkeys b (List.mem_cons_of_mem _ hb)) htail
    have hlater : ∀ {test : α → Bool} {k : β}, key a = some k → (l.find? test).bind key ≠ some k := by
      intro test k hk heq
      obtain ⟨b, hb, hkey⟩ := Option.bind_eq_some_iff.mp heq
      exact hhead b (List.mem_of_find?_eq_some hb) k hk hkey
    rw [List.find?_cons, List.find?_cons]
    by_cases hsame : f a = g a
    · cases hf : f a with
      | true =>
        rw [hf] at hsame
        rw [← hsame]
        refine iff_of_true rfl ?_
        rintro ⟨near, b, far, hsplit, hnear, hne⟩
        cases near with
        | nil =>
          obtain ⟨rfl, -⟩ := List.cons.inj hsplit
          exact hne (hf.trans hsame)
        | cons c near =>
          obtain ⟨rfl, -⟩ := List.cons.inj hsplit
          have hfalse := (hnear a List.mem_cons_self).1
          rw [hf] at hfalse
          cases hfalse
      | false =>
        rw [hf] at hsame
        rw [← hsame]
        dsimp only
        rw [hrest, not_iff_not]
        constructor
        · rintro ⟨near, b, far, rfl, hnear, hne⟩
          exact ⟨a :: near, b, far, rfl, List.forall_mem_cons.mpr ⟨⟨hf, hsame.symm⟩, hnear⟩, hne⟩
        · rintro ⟨near, b, far, hsplit, hnear, hne⟩
          cases near with
          | nil =>
            obtain ⟨rfl, -⟩ := List.cons.inj hsplit
            exact absurd (hf.trans hsame) hne
          | cons c near =>
            obtain ⟨rfl, rfl⟩ := List.cons.inj hsplit
            exact ⟨near, b, far, rfl, (List.forall_mem_cons.mp hnear).2, hne⟩
    · refine iff_of_false ?_ (not_not_intro ⟨[], a, l, rfl, fun _ hc => absurd hc List.not_mem_nil, hsame⟩)
      cases hf : f a with
      | true =>
        have hg : g a = false := by
          cases hg : g a with
          | true => exact absurd (hf.trans hg.symm) hsame
          | false => rfl
        obtain ⟨k, hk⟩ := hkeys a List.mem_cons_self (.inl hf)
        rw [hg]
        dsimp only [Option.bind_some]
        rw [hk]
        exact fun heq => hlater hk heq.symm
      | false =>
        have hg : g a = true := by
          cases hg : g a with
          | true => rfl
          | false => exact absurd (hf.trans hg.symm) hsame
        obtain ⟨k, hk⟩ := hkeys a List.mem_cons_self (.inr hg)
        rw [hg]
        dsimp only [Option.bind_some]
        rw [hk]
        exact hlater hk

/-! ## The nodes around a place -/

variable {t : Tree} {p q r : Place} {o : Outer} {name : Text} {hoists : Place → Bool} {path : Path}
  {form : Form}

theorem proper_of_mem {kids : Place → List Child} {levels : Nat} (hp : p.Proper)
    (hq : q ∈ placesFrom kids levels p) : q.Proper := by
  induction levels generalizing p with
  | zero => cases hq
  | succ levels ih =>
    obtain rfl | ⟨c, -, hq⟩ := mem_placesFrom_succ.mp hq
    · exact hp
    · exact ih (hp.inside c) hq

/-- The nodes around a place have different paths. -/
theorem pairwise_outer (hp : p ∈ places t) : p.outer.Pairwise fun a b => a.path ≠ b.path := by
  suffices h : ∀ far, far <:+ p.outer → far.Pairwise fun a b => a.path ≠ b.path from
    h p.outer (List.suffix_refl _)
  intro far
  induction far with
  | nil => exact fun _ => .nil
  | cons o far ih =>
    intro hsuffix
    refine List.pairwise_cons.mpr ⟨fun b hb heq => ?_, ih ((List.suffix_cons o far).trans hsuffix)⟩
    obtain ⟨near, houter⟩ := hsuffix
    have hplace := mem_placesFrom_of_outer hp houter.symm (Nat.zero_le _)
    have hproper : Place.Proper ⟨o.path, o.node, far⟩ :=
      proper_of_mem (p := .root t) nofun hplace
    exact absurd (congrArg List.length heq) (Nat.ne_of_gt (hproper b hb))

/-- Only a name stands at the step to the name of a function. -/
theorem kind_of_mem_namesFunction (h : IsProgram t) (hp : p ∈ places t) (ho : o ∈ p.outer)
    (hnames : o.namesFunction = true) :
    p.node.kind = "Identifier" ∧ p.outer.head? = some o := by
  suffices hall : ∀ outer : List Outer, ∀ p ∈ places t, p.outer = outer → o ∈ outer →
      p.node.kind = "Identifier" ∧ p.outer.head? = some o from hall p.outer p hp rfl ho
  intro outer
  induction outer with
  | nil => exact fun _ _ _ ho => absurd ho List.not_mem_nil
  | cons o' outer ih =>
    intro p hp houter ho
    obtain rfl | ⟨s, hs, c, hc, rfl⟩ := parent_of_mem hp
    · cases houter
    obtain ⟨rfl, rfl⟩ := List.cons.inj houter
    have hfits := (wellFormed_of_mem (p := .root t) (fun _ _ _ hc => hc) h.wellFormed hs).fits
    obtain rfl | ho := List.mem_cons.mp ho
    · exact ⟨kind_of_namesFunction hfits hc hnames, rfl⟩
    · -- names have no children, so the name of a function is not around anything
      obtain ⟨hkind, -⟩ := ih s hs rfl ho
      have hkids := hfits.children_eq_nil (by rw [hkind]; rfl)
      have hc' : c ∈ children s.node := hc
      rw [hkids] at hc'
      cases hc'

/-! ## Where declarations belong and where they are recorded -/

/-- All declarations but those of functions are recorded where they belong. -/
theorem homes_eq (hkind : r.node.kind ∈ form.kinds) (hform : form ≠ .function) :
    r.homes hoists form = (r.recordedIn form).toList := by
  have hown : isScopeKind r.node.kind = true →
      (if isScopeKind r.node.kind then some r.path else around isScopeKind r.outer).toList
        = [r.path] := fun hscope => by rw [if_pos hscope]; rfl
  have hnear : ∀ kinds : List String, (∀ kind ∈ kinds, isScopeKind kind = false) →
      r.node.kind ∈ kinds →
      (if isScopeKind r.node.kind then some r.path else around isScopeKind r.outer)
        = around isScopeKind r.outer := fun kinds hkinds hmem => by
    rw [hkinds _ hmem]
    rfl
  match form with
  | .parameter => exact (hown (mem_kinds_of_ownScope hkind (by simp))).symm
  | .ownName => exact (hown (mem_kinds_of_ownScope hkind (by simp))).symm
  | .caught => exact (hown (mem_kinds_of_ownScope hkind (by simp))).symm
  | .variable => rfl
  | .lexical => exact congrArg Option.toList (hnear _ (by decide) hkind).symm
  | .imported => exact congrArg Option.toList (hnear _ (by decide) hkind).symm
  | .function => exact absurd rfl hform

/-- What belongs to a scope is recorded there, unless it is a function in a block. -/
theorem recordedIn_of_home (hkind : r.node.kind ∈ form.kinds) (h : path ∈ r.homes hoists form) :
    r.recordedIn form = some path ∨
      form = .function ∧ standingOf r.outer ≠ .top ∧ (r.homes hoists form).head? = some path := by
  by_cases hform : form = .function
  · subst hform
    have hwhole : path ∈ (around isVariableScope r.outer).toList →
        r.recordedIn .function = some path := Option.mem_toList.mp
    cases hstanding : standingOf r.outer with
    | top =>
      simp only [Place.homes, hstanding] at h
      exact .inl (hwhole h)
    | block =>
      simp only [Place.homes, hstanding] at h ⊢
      obtain h | h := List.mem_append.mp h
      · right
        rw [Option.mem_toList.mp h]
        simp
      · split at h
        · exact .inl (hwhole h)
        · cases h
    | alone =>
      simp only [Place.homes, hstanding] at h ⊢
      obtain rfl | h := List.mem_cons.mp h
      · simp
      · split at h
        · exact .inl (hwhole h)
        · cases h
  · rw [homes_eq hkind hform] at h
    exact .inl (Option.mem_toList.mp h)

/-- What is recorded in a scope belongs there, unless it is a function in a block that the language
does not let out of the block. -/
theorem home_of_recordedIn (hoists : Place → Bool) (hkind : r.node.kind ∈ form.kinds)
    (h : r.recordedIn form = some path) :
    path ∈ r.homes hoists form ∨
      form = .function ∧ standingOf r.outer ≠ .top ∧ hoists r = false := by
  by_cases hform : form = .function
  · subst hform
    have hwhole : path ∈ (around isVariableScope r.outer).toList := Option.mem_toList.mpr h
    cases hstanding : standingOf r.outer with
    | top => exact .inl (by simpa only [Place.homes, hstanding] using hwhole)
    | block =>
      cases hhoists : hoists r with
      | true =>
        left
        simp only [Place.homes, hstanding, hhoists, if_true]
        exact List.mem_append_right _ hwhole
      | false => simp
    | alone =>
      cases hhoists : hoists r with
      | true =>
        left
        simp only [Place.homes, hstanding, hhoists, if_true]
        exact List.mem_cons_of_mem _ hwhole
      | false => simp
  · rw [homes_eq hkind hform]
    exact .inl (Option.mem_toList.mpr h)

/-- Declarations belong to nodes that open scopes. -/
theorem exists_place_of_home (hr : r ∈ places t) (hkind : r.node.kind ∈ form.kinds)
    (h : path ∈ r.homes hoists form) :
    ∃ q ∈ places t, q.path = path ∧ isScopeKind q.node.kind = true := by
  obtain hrecorded | ⟨rfl, hstanding, -⟩ := recordedIn_of_home hkind h
  · exact exists_place_of_recordedIn hr hrecorded
  · have hwhole : path ∈ (around isVariableScope r.outer).toList →
        ∃ q ∈ places t, q.path = path ∧ isScopeKind q.node.kind = true := fun hwhole =>
      exists_place_of_recordedIn hr (show r.recordedIn .function = some path from
        Option.mem_toList.mp hwhole)
    cases hcase : standingOf r.outer with
    | top => exact absurd hcase hstanding
    | block =>
      simp only [Place.homes, hcase] at h
      obtain h | h := List.mem_append.mp h
      · exact exists_place_of_around hr (Option.mem_toList.mp h)
      · split at h
        · exact hwhole h
        · cases h
    | alone =>
      simp only [Place.homes, hcase] at h
      obtain rfl | h := List.mem_cons.mp h
      · exact ⟨r, hr, rfl, mem_kinds_of_ownScope hkind (by simp)⟩
      · split at h
        · exact hwhole h
        · cases h

/-! ## Why a name is not found where the language finds it -/

/-- The ways in which a scope around a name is a concern of gathering alone, or of the language
alone. -/
inductive Astray (hoists : Place → Bool) (t : Tree) (p : Place) (name : Text) (o : Outer) : Prop
  /-- What is declared in the body of a function or in a switch is found before that is entered. -/
  | early (reference : declarationOf p.outer = none) (early : o.isEarly = true)
      (recorded : o.Records t name) (unbound : ¬ o.Binds hoists t name)
  /-- A function that is declared in a block is found outside of it. -/
  | outOfBlock (reference : declarationOf p.outer = none) (recorded : o.Records t name)
      (unbound : ¬ o.Binds hoists t name)
      (blocks : ∀ r ∈ places t, ∀ d ∈ declaredBy r.node, d.2 = name →
        r.recordedIn d.1 = some o.path →
          d.1 = .function ∧ standingOf r.outer ≠ .top ∧ hoists r = false)
  /-- A function that is declared in a block is not found in that block. -/
  | inBlock (unrecorded : ¬ o.Records t name) (found : p.FoundIn hoists t name o) (r : Place)
      (place : r ∈ places t) (declared : (.function, name) ∈ declaredBy r.node)
      (apart : standingOf r.outer ≠ .top)
      (home : (r.homes hoists .function).head? = some o.path)
  /-- The list of the arguments of a function is not found in it. -/
  | arguments (reference : declarationOf p.outer = none) (unrecorded : ¬ o.Records t name)
      (implied : o.impliesArguments name = true)
  /-- Where a name is declared, another declaration is found that is nearer than its own scope. -/
  | covered (r : Place) (form : Form) (declaration : declarationOf p.outer = some (r, form))
      (recorded : o.Records t name) (apart : (r.homes hoists form).head? ≠ some o.path)

theorem foundIn_of_reference (h : declarationOf p.outer = none) :
    p.FoundIn hoists t name o ↔ o.Binds hoists t name := by
  rw [Place.FoundIn, h]

theorem foundIn_of_declaration (h : declarationOf p.outer = some (r, form)) :
    p.FoundIn hoists t name o ↔ (r.homes hoists form).head? = some o.path := by
  rw [Place.FoundIn, h]

/-- What is recorded in a scope and cannot be seen there, is seen too early or belongs in a block. -/
theorem astray_of_recorded (href : declarationOf p.outer = none) (hrecorded : o.Records t name)
    (hunbound : ¬ o.Binds hoists t name) : Astray hoists t p name o := by
  cases hearly : o.isEarly with
  | true => exact .early href hearly hrecorded hunbound
  | false =>
    refine .outOfBlock href hrecorded hunbound fun r hr d hd hname hpath => ?_
    refine (home_of_recordedIn hoists (kind_of_declared hd) hpath).resolve_left fun hhome => ?_
    refine hunbound (.inr ⟨r, hr, d, hd, hname, hhome, ?_⟩)
    rw [Outer.sees, hrecorded.1, hearly]
    rfl

/-- What belongs to a scope and is not recorded there is a function in a block. -/
theorem astray_of_home (hunrecorded : ¬ o.Records t name) (hfound : p.FoundIn hoists t name o)
    (hr : r ∈ places t) {d : Form × Text} (hd : d ∈ declaredBy r.node) (hname : d.2 = name)
    (hhome : o.path ∈ r.homes hoists d.1)
    (hnames : r.recordedIn d.1 = some o.path → o.namesFunction = false) :
    Astray hoists t p name o := by
  obtain hrecorded | ⟨hform, hstanding, hhead⟩ := recordedIn_of_home (kind_of_declared hd) hhome
  · exact absurd ⟨hnames hrecorded, r, hr, d, hd, hname, hrecorded⟩ hunrecorded
  · refine .inBlock hunrecorded hfound r hr ?_ hstanding (hform ▸ hhead)
    rw [← hform, ← hname]
    exact hd

/-- A name binds itself. -/
theorem partBinds_of_name (h : WellFormed p.node) (hname : p.isName = true)
    (htext : p.node.name? = some name) : PartBinds name p.node := by
  have hkind : p.node.kind = "Identifier" :=
    beq_iff_eq.mp (Bool.and_eq_true_iff.mp (Bool.and_eq_true_iff.mp hname).1).1
  rw [PartBinds, if_neg (by simp [Tree.isKind, hkind])]
  exact bindsName_identifier h hkind htext

/-- The name of a function that is declared is not recorded in the scope of the function. -/
theorem namesFunction_of_recordedIn (h : IsProgram t) (hp : p ∈ places t) (ho : o ∈ p.outer)
    (hdeclaration : declarationOf p.outer = some (r, form))
    (hpath : r.recordedIn form = some o.path) : o.namesFunction = false := by
  by_contra hnot
  have hnames : o.namesFunction = true := by simpa using hnot
  obtain ⟨-, hhead⟩ := kind_of_mem_namesFunction h hp ho hnames
  obtain ⟨far, houter⟩ := List.head?_eq_some_iff.mp hhead
  obtain ⟨hkind, hstep⟩ := Bool.and_eq_true_iff.mp hnames
  have hkind := beq_iff_eq.mp hkind
  simp only [houter, declarationOf, Outer.isPattern, hkind, hstep, if_true] at hdeclaration
  cases hdeclaration
  obtain ⟨other, hother, hsame⟩ := Option.map_eq_some_iff.mp hpath
  have hdiffer := pairwise_outer hp
  rw [houter] at hdiffer
  exact (List.pairwise_cons.mp hdiffer).1 other (List.mem_of_find?_eq_some hother) hsame.symm

/-- There are no other ways. -/
theorem astray_iff (h : IsProgram t) (hp : p ∈ places t) (ho : o ∈ p.outer) (hname : p.isName = true)
    (htext : p.node.name? = some name) :
    Astray hoists t p name o ↔ ¬ (o.Records t name ↔ p.FoundIn hoists t name o) := by
  constructor
  · rintro (⟨href, -, hrecorded, hunbound⟩ | ⟨href, hrecorded, hunbound, -⟩ |
      ⟨hunrecorded, hfound, -⟩ | ⟨href, hunrecorded, himplied⟩ |
      ⟨r, form, hdeclaration, hrecorded, hapart⟩) hiff
    · exact hunbound ((foundIn_of_reference href).mp (hiff.mp hrecorded))
    · exact hunbound ((foundIn_of_reference href).mp (hiff.mp hrecorded))
    · exact hunrecorded (hiff.mpr hfound)
    · exact hunrecorded (hiff.mpr ((foundIn_of_reference href).mpr (.inl himplied)))
    · exact hapart ((foundIn_of_declaration hdeclaration).mp (hiff.mp hrecorded))
  · intro hdiffer
    cases hdeclaration : declarationOf p.outer with
    | none =>
      by_cases hrecorded : o.Records t name
      · refine astray_of_recorded hdeclaration hrecorded fun hbinds => hdiffer ?_
        exact iff_of_true hrecorded ((foundIn_of_reference hdeclaration).mpr hbinds)
      · by_cases hfound : p.FoundIn hoists t name o
        · obtain himplied | ⟨r, hr, d, hd, hdname, hhome, hsees⟩ :=
            (foundIn_of_reference hdeclaration).mp hfound
          · exact .arguments hdeclaration hrecorded himplied
          · refine astray_of_home hrecorded hfound hr hd hdname hhome fun _ => ?_
            exact (Bool.not_eq_true' _).mp (Bool.and_eq_true_iff.mp hsees).1
        · exact absurd (iff_of_false hrecorded hfound) hdiffer
    | some declaration =>
      obtain ⟨r, form⟩ := declaration
      have hfound : p.FoundIn hoists t name o ↔ (r.homes hoists form).head? = some o.path :=
        foundIn_of_declaration hdeclaration
      by_cases hrecorded : o.Records t name
      · refine .covered r form hdeclaration hrecorded fun hhead => hdiffer ?_
        exact iff_of_true hrecorded (hfound.mpr hhead)
      · by_cases hhead : (r.homes hoists form).head? = some o.path
        · have hwell := wellFormed_of_mem (p := .root t) (fun _ _ _ hc => hc) h.wellFormed hp
          obtain ⟨hr, hd⟩ := declared_of_declarationOf h hp (partBinds_of_name hwell hname htext)
            hdeclaration
          exact astray_of_home hrecorded (hfound.mpr hhead) hr hd rfl (List.mem_of_head? hhead)
            fun hpath => namesFunction_of_recordedIn h hp ho hdeclaration hpath
        · exact absurd (iff_of_false hrecorded fun hf => hhead (hfound.mp hf)) hdiffer

/-- The innermost scope around a name that is a concern of gathering or of the language is not a
concern of both. -/
def Place.Strays (hoists : Place → Bool) (t : Tree) (p : Place) (name : Text) : Prop :=
  ∃ near o far, p.outer = near ++ o :: far ∧
    (∀ c ∈ near, ¬ c.Records t name ∧ ¬ p.FoundIn hoists t name c) ∧ Astray hoists t p name o

/-! ## Whole scripts -/

variable {b : Bindings} {isModule : Bool}

/-- Where a name is recorded or found there is a scope. -/
theorem exists_frame (h : IsProgram t) (hb : Describes isModule t b) (hp : p ∈ places t)
    (ho : o ∈ p.outer) (hname : p.isName = true) (htext : p.node.name? = some name)
    (hconcern : o.Records t name ∨ p.FoundIn hoists t name o) :
    ∃ frame, b.frameAt o.path = some frame := by
  have hhome : ∀ {r : Place} {d : Form × Text}, r ∈ places t → d ∈ declaredBy r.node →
      o.path ∈ r.homes hoists d.1 → ∃ q ∈ places t, q.path = o.path ∧ isScopeKind q.node.kind = true :=
    fun hr hd hpath => exists_place_of_home hr (kind_of_declared hd) hpath
  have hframe : (∃ q ∈ places t, q.path = o.path ∧ isScopeKind q.node.kind = true) →
      ∃ frame, b.frameAt o.path = some frame := by
    rintro ⟨q, hq, hpath, hscope⟩
    obtain ⟨frame, hframe, -⟩ := framed_of_mem h hb hq hscope
    exact ⟨frame, hpath ▸ hframe⟩
  obtain ⟨-, r, hr, d, hd, -, hpath⟩ | hfound := hconcern
  · exact hframe (exists_place_of_recordedIn hr hpath)
  · cases hdeclaration : declarationOf p.outer with
    | none =>
      obtain himplied | ⟨r, hr, d, hd, -, hpath, -⟩ := (foundIn_of_reference hdeclaration).mp hfound
      · have hkind := (Bool.and_eq_true_iff.mp (Bool.and_eq_true_iff.mp himplied).1).2
        have hall : ∀ kind ∈ ["FunctionDeclaration", "FunctionExpression"],
            isScopeKind kind = true := by decide
        obtain ⟨frame, hframe, -⟩ :=
          framed_of_mem_outer h hb hp ho (hall _ (List.contains_iff_mem.mp hkind))
        exact ⟨frame, hframe⟩
      · exact hframe (hhome hr hd hpath)
    | some declaration =>
      obtain ⟨r, form⟩ := declaration
      have hwell := wellFormed_of_mem (p := .root t) (fun _ _ _ hc => hc) h.wellFormed hp
      obtain ⟨hr, hd⟩ := declared_of_declarationOf h hp (partBinds_of_name hwell hname htext)
        hdeclaration
      exact hframe (hhome hr hd (List.mem_of_head? ((foundIn_of_declaration hdeclaration).mp hfound)))

/-- The declaration of one name without a value. -/
def declarationAt (kind name : Text) (start name' stop : Nat) : Tree :=
  Tree.mk "VariableDeclaration" start stop [
    ("declarations", some (.list [
      Tree.mk "VariableDeclarator" name' (name' + name.length) [
        ("id", some (nameAt name name' (name' + name.length)))]])),
    ("kind", some (.text kind))]

/-- The tree of `var x;switch(x){case 1:let x}`. -/
def switching : Tree :=
  Tree.mk "Program" 0 29 [("body", some (.list [
    declarationAt "var" "x" 0 4 6,
    Tree.mk "SwitchStatement" 6 29 [
      ("discriminant", some (nameAt "x" 13 14)),
      ("cases", some (.list [
        Tree.mk "SwitchCase" 16 28 [
          ("test", some (Tree.mk "Literal" 21 22 [("value", some (.int 1))])),
          ("consequent", some (.list [declarationAt "let" "x" 23 27 28]))]]))]]))]

end VeiledGateway.Script
