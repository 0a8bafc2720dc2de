/-
  Linking: the paths that are given out for links lead back.

  The context writes such a path and the route takes it apart again.  Between the two the index of
  the links must follow their table, whatever is rewritten and however often the record of the
  session is read again.  A token that two paths share leads to one of them only.
-/
import VeiledGateway.LinkRoute
import VeiledGateway.Proofs.Context.Repeating
import VeiledGateway.Proofs.Session.Codec
import VeiledGateway.Proofs.Text.Prefix
import VeiledGateway.Proofs.Token.Making

set_option autoImplicit false

namespace VeiledGateway

/-! ## The index of a table -/

namespace TokenTable

/-- Whatever is indexed is an entry, and every token of an entry is indexed. -/
structure Indexed (table : TokenTable) : Prop where
  sound (original tok : Text) : table.original? tok = some original → (original, tok) ∈ table.forward
  complete (original tok : Text) : (original, tok) ∈ table.forward → (table.original? tok).isSome

variable {table : TokenTable} {original other tok value : Text}

/-- A token that only one original has leads back to it. -/
theorem Indexed.original?_of_unshared (h : table.Indexed) (hentry : (original, tok) ∈ table.forward)
    (hunshared : ∀ other, (other, tok) ∈ table.forward → other = original) :
    table.original? tok = some original := by
  obtain ⟨found, hfound⟩ := Option.isSome_iff_exists.mp (h.complete original tok hentry)
  rw [hfound, hunshared found (h.sound found tok hfound)]

/-- What is no token of an entry leads nowhere. -/
theorem Indexed.original?_of_no_token (h : table.Indexed)
    (hno : tok ∉ table.forward.map Prod.snd) : table.original? tok = none := by
  rw [Option.eq_none_iff_forall_not_mem]
  exact fun found hfound => hno (List.mem_map_of_mem (h.sound found tok hfound))

/-- An entry goes behind the others, and into the index in the place of one with its token. -/
theorem Indexed.push (h : table.Indexed) (original value : Text) :
    Indexed ⟨table.forward ++ [(original, value)], Entries.put table.reverse value original⟩ where
  sound found tok hfound := by
    rw [original?] at hfound
    by_cases htok : tok = value
    · subst htok
      rw [Entries.get?_put_self] at hfound
      obtain rfl := Option.some.inj hfound
      exact List.mem_append_right _ List.mem_cons_self
    · rw [Entries.get?_put_of_ne _ _ htok] at hfound
      exact List.mem_append_left _ (h.sound found tok hfound)
  complete found tok hentry := by
    rw [original?]
    by_cases htok : tok = value
    · subst htok
      rw [Entries.get?_put_self]
      rfl
    · rw [Entries.get?_put_of_ne _ _ htok]
      rcases List.mem_append.mp hentry with hold | hnew
      · exact h.complete found tok hold
      · exact absurd (congrArg Prod.snd (List.mem_singleton.mp hnew)) htok

/-- A table that is made of its entries is indexed. -/
theorem indexed_ofForward (forward : Entries Text) : (ofForward forward).Indexed := by
  have hfold : ∀ table : TokenTable, table.Indexed →
      Indexed ⟨table.forward ++ forward, forward.foldl
        (fun reverse entry => Entries.put reverse entry.2 entry.1) table.reverse⟩ := by
    induction forward with
    | nil =>
      intro table h
      rwa [List.append_nil]
    | cons entry rest ih =>
      intro table h
      have hpushed := ih _ (h.push entry.1 entry.2)
      rwa [List.append_assoc] at hpushed
  exact hfold ⟨[], []⟩ ⟨nofun, nofun⟩

theorem Indexed.insert (h : table.Indexed) (hnew : table.value? original = none) (value : Text) :
    (table.insert original value).Indexed := by
  rw [TokenTable.insert, Entries.put_of_get?_eq_none hnew]
  exact h.push original value

end TokenTable

/-! ## Contexts -/

namespace Context

/-- The links of a context: no path stands twice, all tokens can stand in paths, and the index
follows the table. -/
structure Linked (c : Context) : Prop where
  single : c.links.forward.Single
  clean (path tok : Text) : (path, tok) ∈ c.links.forward → Token.Clean tok
  indexed : c.links.Indexed

variable {c : Context} {settings : Settings}

theorem linked_ofMappings {m : Mappings} (hsingle : m.links.Single)
    (hclean : ∀ path tok, (path, tok) ∈ m.links → Token.Clean tok) (key : Text) (twister : Twister) :
    (ofMappings key m twister).Linked :=
  ⟨hsingle, hclean, TokenTable.indexed_ofForward m.links⟩

theorem Linked.of_links_eq {d : Context} (h : c.Linked) (hlinks : d.links = c.links) : d.Linked := by
  obtain ⟨hsingle, hclean, hindexed⟩ := h
  rw [← hlinks] at hsingle hclean hindexed
  exact ⟨hsingle, hclean, hindexed⟩

theorem Linked.answerName (h : c.Linked) (naming : Naming) (original : Text) :
    (c.answerName naming original).2.Linked := by
  rcases c.answerName_cases naming original with
    ⟨tok, -, hanswer⟩ | ⟨hnone, ⟨fault, -, hanswer⟩ | ⟨tok, htoken, hanswer⟩⟩
  · rw [hanswer]
    exact h
  · rw [hanswer]
    exact h.of_links_eq rfl
  · rw [hanswer]
    cases naming with
    | link =>
      refine ⟨h.single.put original tok, fun path value hmem => ?_, h.indexed.insert hnone tok⟩
      rcases Entries.mem_put hmem with hnew | hold
      · obtain ⟨rfl, rfl⟩ := Prod.mk.inj hnew
        exact clean_token htoken
      · exact h.clean path value hold
    | identifier => exact h.of_links_eq rfl
    | className => exact h.of_links_eq rfl
    | elementId => exact h.of_links_eq rfl

theorem Linked.layout (h : c.Linked) (text : Text) : (c.layout text).2.Linked := by
  rcases c.layout_cases text with ⟨layout, -, hlayout⟩ | ⟨-, layout, twister, -, hlayout⟩
  · rw [hlayout]
    exact h
  · rw [hlayout]
    exact h.of_links_eq rfl

theorem Linked.run {α : Type} (h : c.Linked) (p : Rewriting α) : (c.run p).2.1.Linked :=
  run_induction (I := Linked) (fun _ naming original h => h.answerName naming original)
    (fun _ text h => h.layout text) p h

/-! ## Sessions -/

/-- The context that is made of the record of this session after it was written and read, with a
challenge besides; where it cannot be written or read there is no other one. -/
def reload (c : Context) (challenge : Option Challenge) (secrets : Secrets) (twister : Twister) :
    Context :=
  match Record.write ⟨c.key, challenge, c.mappings⟩ with
  | .error _ => c
  | .ok raw =>
    match (Record.read raw secrets).1 with
    | .error _ => c
    | .ok record => record.context twister

/-- A step of a session, or its record is read again. -/
inductive Step where
  | work (work : Work)
  | reload (challenge : Option Challenge) (secrets : Secrets) (twister : Twister)

def afterStep (settings : Settings) (c : Context) : Step → Context
  | .work work => c.afterWork settings work
  | .reload challenge secrets twister => c.reload challenge secrets twister

/-- The context after all of some steps. -/
def afterSteps (settings : Settings) (c : Context) (steps : List Step) : Context :=
  steps.foldl (afterStep settings) c

/-- What every program keeps, and the record that is read again, is kept by all steps of a session. -/
theorem afterSteps_induction {I : Context → Prop}
    (hrun : ∀ (c : Context) (α : Type) (p : Rewriting α), I c → I (c.run p).2.1)
    (hreload : ∀ (c : Context) challenge secrets twister, I c → I (c.reload challenge secrets twister))
    (h : I c) (steps : List Step) : I (c.afterSteps settings steps) := by
  induction steps generalizing c with
  | nil => exact h
  | cons step rest ih =>
    refine ih ?_
    cases step with
    | work work =>
      obtain ⟨α, p, -, hwork⟩ := afterWork_eq_run settings c work
      rw [afterStep, hwork]
      exact hrun c α p h
    | reload challenge secrets twister => exact hreload c challenge secrets twister h

theorem Linked.reload (h : c.Linked) (challenge : Option Challenge) (secrets : Secrets)
    (twister : Twister) : (c.reload challenge secrets twister).Linked := by
  unfold Context.reload
  split
  · exact h
  · rename_i raw hwrite
    rw [Record.read_write hwrite secrets]
    refine linked_ofMappings (Entries.single_ofPairs _) (fun path tok hmem => ?_) _ twister
    obtain ⟨written, hwritten, heq⟩ := List.mem_map.mp (Entries.mem_of_mem_ofPairs hmem)
    obtain ⟨-, rfl⟩ := Prod.mk.inj heq
    exact h.clean written.1 written.2 hwritten

theorem Linked.afterSteps (h : c.Linked) (steps : List Step) : (c.afterSteps settings steps).Linked :=
  afterSteps_induction (I := Linked) (fun _ _ p h => h.run p) (fun _ challenge secrets twister h =>
    h.reload challenge secrets twister) h steps

end Context

/-! ## Routes -/

/-- The part of a name before its first dot. -/
def Text.stem (name : Text) : Text :=
  (Text.cutAtCode '.' name).1

theorem Text.stem_append {name : Text} (h : CodePoint.ofChar '.' ∉ name) (rest : Text) :
    Text.stem (name ++ rest) = name ++ Text.stem rest := by
  induction name with
  | nil => rfl
  | cons c name ih =>
    rw [List.mem_cons, not_or] at h
    obtain ⟨hc, hname⟩ := h
    rw [stem, List.cons_append, cutAtCode, if_neg (Ne.symm hc)]
    exact congrArg (c :: ·) (ih hname)

theorem Text.dot_not_mem_stem (name : Text) : CodePoint.ofChar '.' ∉ stem name := by
  induction name with
  | nil => exact List.not_mem_nil
  | cons c rest ih =>
    rw [stem, cutAtCode]
    split
    · exact List.not_mem_nil
    · rename_i hc
      rw [List.mem_cons, not_or]
      exact ⟨Ne.symm hc, ih⟩

/-- The names that are their own stems are those without a dot. -/
theorem Text.stem_eq_self_iff {name : Text} : stem name = name ↔ CodePoint.ofChar '.' ∉ name := by
  constructor
  · intro h
    rw [← h]
    exact dot_not_mem_stem name
  · intro h
    have hwhole := stem_append h []
    rwa [List.append_nil, show stem [] = [] from rfl, List.append_nil] at hwhole

namespace LinkRoute

variable {t name : Text}

/-- A prefix without slashes is what it is without them at its ends. -/
theorem ofPrefix_lead (h : CodePoint.ofChar '/' ∉ t) :
    (ofPrefix t).lead = CodePoint.ofChar '/' :: t ++ [CodePoint.ofChar '/'] := by
  have hdrop : ∀ t : Text, CodePoint.ofChar '/' ∉ t →
      t.dropWhile (· == CodePoint.ofChar '/') = t := by
    intro t ht
    cases t with
    | nil => rfl
    | cons c t =>
      rw [List.dropWhile_cons_of_neg]
      exact fun heq => ht (by rw [← beq_iff_eq.mp heq]; exact List.mem_cons_self)
  have htrim : Text.trimWhere (· == CodePoint.ofChar '/') t = t := by
    rw [Text.trimWhere, hdrop t h, hdrop t.reverse (by rwa [List.mem_reverse]), List.reverse_reverse]
  rw [ofPrefix, htrim]

theorem linkPath_eq_lead (settings : Settings) (h : CodePoint.ofChar '/' ∉ settings.linkPrefix)
    (name : Text) :
    Rewriting.linkPath settings name = (ofPrefix settings.linkPrefix).lead ++ name := by
  have hslash : ("/" : Text) = [CodePoint.ofChar '/'] := rfl
  rw [ofPrefix_lead h, Rewriting.linkPath, hslash]
  simp

variable {settings : Settings}

/-- The paths that have a token are those of the prefix and one name, whose stem is the token. -/
theorem token?_eq_some_iff (h : CodePoint.ofChar '/' ∉ settings.linkPrefix) {path tok : Text} :
    (ofPrefix settings.linkPrefix).token? path = some tok ↔
      tok ≠ [] ∧ ∃ name, path = Rewriting.linkPath settings name ∧ CodePoint.ofChar '/' ∉ name ∧
        Text.stem name = tok := by
  constructor
  · intro htok
    unfold token? at htok
    split at htok
    · cases htok
    · rename_i name hname
      split at htok
      · cases htok
      · rename_i hone
        dsimp only at htok
        split at htok
        · cases htok
        · rename_i hstem
          obtain rfl := Option.some.inj htok
          simp only [Bool.or_eq_true, List.contains_iff_mem, not_or] at hone
          refine ⟨fun hnil => hstem (by rw [hnil]; rfl), name, ?_, hone.2, rfl⟩
          rw [linkPath_eq_lead settings h]
          exact Text.dropPrefix?_eq_some_iff.mp hname
  · rintro ⟨hne, name, rfl, hslash, rfl⟩
    have hname : name ≠ [] := by
      rintro rfl
      exact hne rfl
    rw [token?, linkPath_eq_lead settings h, Text.dropPrefix?_append]
    have hempty : name.isEmpty = false := by rwa [List.isEmpty_eq_false_iff]
    have hone : List.contains name (CodePoint.ofChar '/') = false := by
      rwa [← Bool.not_eq_true, List.contains_iff_mem]
    have hstem : (Text.cutAtCode '.' name).1.isEmpty = false := by
      rwa [List.isEmpty_eq_false_iff]
    simp only [hempty, hone, hstem]
    rfl

end LinkRoute

/-! ## The round trip -/

namespace Context

variable {c : Context} {settings : Settings}

/-- The path that is given out for a link is that of its token. -/
theorem run_link (h : c.Linked) {path tok : Text} (hentry : (path, tok) ∈ c.links.forward) :
    c.run (Rewriting.link settings path) = (.ok (Rewriting.linkPath settings tok), c, []) := by
  have hvalue : (c.table .link).value? path = some tok := h.single.get?_of_mem hentry
  rw [Rewriting.link, run, answerName_of_value? hvalue]
  rfl

/-- In a session whose links are loaded from a record, after any steps and however often the record
is read again: the path that is given out for a link leads back to it, with any extension, as long as
no other link has its token; and a path leads nowhere whose stem is no token of a link, or that is
not of the prefix and one name. -/
theorem link_round_trip {settings : Settings} (hlead : CodePoint.ofChar '/' ∉ settings.linkPrefix)
    {record : Record} (hsingle : record.mappings.links.Single)
    (hclean : ∀ path tok, (path, tok) ∈ record.mappings.links → Token.Clean tok) (twister : Twister)
    (steps : List Step) :
    let c := (record.context twister).afterSteps settings steps
    let route := LinkRoute.ofPrefix settings.linkPrefix
    (∀ path tok, (path, tok) ∈ c.links.forward →
      (∀ other, (other, tok) ∈ c.links.forward → other = path) →
      ∃ url, c.run (Rewriting.link settings path) = (.ok url, c, []) ∧
        route.resolve url c = some path ∧
        ∀ extension, CodePoint.ofChar '/' ∉ extension →
          route.resolve (url ++ CodePoint.ofChar '.' :: extension) c = some path) ∧
    ∀ path, (∀ name, path = Rewriting.linkPath settings name → name ≠ [] →
        CodePoint.ofChar '/' ∉ name → Text.stem name ∉ c.links.forward.map Prod.snd) →
      route.resolve path c = none := by
  intro c route
  have hlinked : c.Linked := (linked_ofMappings hsingle hclean record.key twister).afterSteps steps
  constructor
  · intro path tok hentry hunshared
    obtain ⟨hne, hdot, hslash⟩ := hlinked.clean path tok hentry
    have horiginal : c.originalLink tok = some path :=
      hlinked.indexed.original?_of_unshared hentry hunshared
    -- Whatever begins with the token and goes on with a dot has the token for its stem.
    have hresolve : ∀ rest, CodePoint.ofChar '/' ∉ rest → Text.stem rest = [] →
        route.resolve (Rewriting.linkPath settings (tok ++ rest)) c = some path := by
      intro rest hrest hstem
      have htok : route.token? (Rewriting.linkPath settings (tok ++ rest)) = some tok := by
        refine (LinkRoute.token?_eq_some_iff hlead).mpr ⟨hne, _, rfl, ?_, ?_⟩
        · rw [List.mem_append, not_or]
          exact ⟨hslash, hrest⟩
        · rw [Text.stem_append hdot, hstem, List.append_nil]
      rw [LinkRoute.resolve, htok, Option.bind_some, horiginal]
    refine ⟨_, run_link hlinked hentry, ?_, fun extension hextension => ?_⟩
    · have hbare := hresolve [] List.not_mem_nil rfl
      rwa [List.append_nil] at hbare
    · rw [Rewriting.linkPath, List.append_assoc, ← Rewriting.linkPath]
      refine hresolve _ ?_ rfl
      rw [List.mem_cons, not_or]
      exact ⟨by decide, hextension⟩
  · intro path hpath
    rw [LinkRoute.resolve, Option.bind_eq_none_iff]
    intro tok htok
    obtain ⟨hne, name, hname, hslash, rfl⟩ := (LinkRoute.token?_eq_some_iff hlead).mp htok
    refine hlinked.indexed.original?_of_no_token (hpath name hname ?_ hslash)
    rintro rfl
    exact hne rfl

/-- A record with three links, two of which share a token. -/
def sharingRecord : Record where
  key := "k"
  challenge := none
  mappings := { Mappings.empty with links := [("/a.css", "ab1"), ("/b.css", "x1"), ("/c.css", "x1")] }

/-- One more link is asked for, the record is read again, and the same link is asked for. -/
def linkingSteps : List Step :=
  [.work (.link "/d.css"), .reload none Secrets.start (Twister.ofSeed 1), .work (.link "/d.css")]

/-- The context of that record after those steps. -/
def sharingContext : Context :=
  (sharingRecord.context (Twister.ofSeed 0)).afterSteps Settings.default linkingSteps

/-- Where two links share a token, the path of another one still leads back to it. -/
theorem sharing_round_trip :
    (∃ url, sharingContext.run (Rewriting.link Settings.default "/a.css") =
        (.ok url, sharingContext, []) ∧
      (LinkRoute.ofPrefix Settings.default.linkPrefix).resolve (url ++ (".min.css" : Text))
        sharingContext = some "/a.css") ∧
    (LinkRoute.ofPrefix Settings.default.linkPrefix).resolve "/o/zz.css" sharingContext = none := by
  have hclean : ∀ path tok, (path, tok) ∈ sharingRecord.mappings.links → Token.Clean tok := by
    intro path tok hmem
    simp only [sharingRecord, List.mem_cons, Prod.mk.injEq, List.not_mem_nil, or_false] at hmem
    rcases hmem with ⟨-, rfl⟩ | ⟨-, rfl⟩ | ⟨-, rfl⟩ <;> exact ⟨by decide, by decide, by decide⟩
  have hround := @link_round_trip Settings.default (by decide) sharingRecord
    (by simp only [Entries.Single, sharingRecord]; decide) hclean (Twister.ofSeed 0) linkingSteps
  rw [← sharingContext] at hround
  have hunshared : ∀ entry ∈ sharingContext.links.forward,
      entry.2 = ("ab1" : Text) → entry.1 = ("/a.css" : Text) := by decide +kernel
  have hshared : ∃ entry ∈ sharingContext.links.forward,
      entry.1 = ("/a.css" : Text) ∧ entry.2 = ("ab1" : Text) := by decide +kernel
  have hstray : ("zz" : Text) ∉ sharingContext.links.forward.map Prod.snd := by decide +kernel
  generalize sharingContext = c at hround hunshared hshared hstray ⊢
  obtain ⟨⟨path, tok⟩, hentry, rfl, rfl⟩ := hshared
  obtain ⟨url, hrun, -, hresolve⟩ := hround.1 "/a.css" "ab1" hentry
    fun other hother => hunshared (other, "ab1") hother rfl
  refine ⟨⟨url, hrun, hresolve "min.css" (by decide)⟩, hround.2 _ fun name hname _ _ => ?_⟩
  have hlead : ("/o/" : Text) ++ ("zz.css" : Text) = ("/o/" : Text) ++ name := hname
  obtain rfl := List.append_cancel_left hlead
  exact hstray

end Context

end VeiledGateway
