/-
  Addressing: what becomes of the paths that are given out for links.

  Three parts of the gateway look at a path: the tunnel takes what has its prefix, the gate leaves open
  what is its own, and the route reads a token.  A configuration is checked one setting at a time, so
  its prefix of links may be the name of the folder of the gate, or the tunnel may take what begins
  with it.  Where neither is so, and in no other case, a path that is given out comes to the route, and
  behind the gate.
-/
import Mathlib.Data.List.DropRight
import VeiledGateway.Gateway.Server
import VeiledGateway.Proofs.Context.Demanding
import VeiledGateway.Proofs.Context.Linking
import VeiledGateway.Proofs.Gateway.Run

set_option autoImplicit false

namespace VeiledGateway

/-! ## Texts -/

namespace Text

/-- A text with two names of which neither holds a slash begins in only one way with one and a slash. -/
theorem prefix_two_names_iff {before name rest : Text} (hname : CodePoint.ofChar '/' ∉ name)
    (hrest : CodePoint.ofChar '/' ∉ rest) :
    before ++ [CodePoint.ofChar '/'] <+: name ++ CodePoint.ofChar '/' :: rest ↔ before = name := by
  constructor
  · rintro ⟨after, h⟩
    rw [List.append_assoc, List.singleton_append] at h
    exact ((List.append_cons_inj_of_notMem hname hrest).mp h.symm).1.symm
  · rintro rfl
    exact ⟨rest, by rw [List.append_assoc, List.singleton_append]⟩

/-- What is left of a text without the code points of one kind at its end. -/
theorem eq_rdropWhile_iff {t rest : Text} {c : CodePoint} (h : ¬ [c] <:+ rest) :
    rest = t.rdropWhile (· == c) ↔ ∃ n, t = rest ++ List.replicate n c := by
  constructor
  · rintro rfl
    refine ⟨(t.rtakeWhile (· == c)).length, ?_⟩
    have htail : t.rtakeWhile (· == c) = List.replicate (t.rtakeWhile (· == c)).length c :=
      List.eq_replicate_iff.mpr
        ⟨rfl, fun d hd => beq_iff_eq.mp (List.mem_rtakeWhile_imp (p := (· == c)) hd)⟩
    rw [← htail, List.rdropWhile_append_rtakeWhile]
  · rintro ⟨n, rfl⟩
    induction n with
    | zero =>
      rw [List.replicate_zero, List.append_nil, eq_comm, List.rdropWhile_eq_self_iff]
      intro hne hlast
      refine h ⟨rest.dropLast, ?_⟩
      rw [← beq_iff_eq.mp hlast, List.dropLast_append_getLast]
    | succ n ih =>
      rwa [List.replicate_succ', ← List.append_assoc,
        List.rdropWhile_concat_pos (· == c) _ c (beq_self_eq_true c)]

end Text

namespace Request

theorem bytewise_append (t u : Text) : bytewise (t ++ u) = bytewise t ++ bytewise u := by
  rw [bytewise, Utf8.encodeLossy, List.flatMap_append, List.map_append]
  rfl

theorem bytewise_ne_nil {t : Text} (h : t ≠ []) : bytewise t ≠ [] := by
  obtain ⟨c, rest, rfl⟩ := List.exists_cons_of_ne_nil h
  have hcode : ∀ d : CodePoint, Utf8.encodeCode d ≠ [] := by
    intro d
    unfold Utf8.encodeCode
    dsimp only
    split_ifs <;> exact List.cons_ne_nil _ _
  rw [bytewise, Ne, List.map_eq_nil_iff, Utf8.encodeLossy, List.flatMap_cons, List.append_eq_nil_iff]
  exact fun hnil => hcode _ hnil.1

/-- No byte of a code point is a slash but that of the slash. -/
theorem slash_not_mem_encodeCode {c : CodePoint} (h : c ≠ CodePoint.ofChar '/') :
    ∀ b ∈ Utf8.encodeCode c, b.toNat ≠ 0x2F := by
  have hval : c.val ≠ 0x2F := fun hc => h (CodePoint.eq_of_val hc)
  have hlt := c.isLt
  unfold Utf8.encodeCode
  dsimp only
  split_ifs <;> simp only [List.mem_cons, List.not_mem_nil, or_false, forall_eq_or_imp, forall_eq,
    UInt8.toNat_ofNat'] <;> omega

/-- The bytes of a name are a name. -/
theorem slash_not_mem_bytewise {t : Text} (h : CodePoint.ofChar '/' ∉ t) :
    CodePoint.ofChar '/' ∉ bytewise t := by
  intro hmem
  obtain ⟨b, hb, hslash⟩ := List.mem_map.mp hmem
  obtain ⟨c, hc, hb⟩ := List.mem_flatMap.mp hb
  have hbyte : b.toNat = 0x2F := by
    have hval := congrArg CodePoint.val hslash
    rw [CodePoint.ofNat, CodePoint.ofNat?, dif_pos (by have := b.toNat_lt; omega)] at hval
    exact hval
  refine slash_not_mem_encodeCode ?_ b hb hbyte
  split
  · decide
  · rintro rfl
    exact h hc

end Request

/-! ## Paths of links -/

theorem Rewriting.linkPath_eq_cons (settings : Settings) (tok : Text) :
    linkPath settings tok =
      CodePoint.ofChar '/' :: (settings.linkPrefix ++ CodePoint.ofChar '/' :: tok) := by
  rw [linkPath, List.append_assoc, List.append_assoc]
  rfl

namespace Gateway

variable {settings : Settings} {request : Request} {tok tunnelPrefix : Text}

/-- What a request for a path that was given out for a link should meet: the tunnel does not take it,
the gate does not leave it open, and the route reads this token. -/
structure Addressed (settings : Settings) (tunnelPrefix : Text) (request : Request) (tok : Text) :
    Prop where
  stays : isTunnelled tunnelPrefix request.target = false
  gated : Admission.isOpen request.path = false
  read : (LinkRoute.ofPrefix settings.linkPrefix).token? request.path = some tok

/-- The tunnel takes the path of a token: it takes all paths, or all those of links, or this one. -/
def Diverts (settings : Settings) (tunnelPrefix tok : Text) : Prop :=
  let slash := CodePoint.ofChar '/'
  tunnelPrefix = [slash] ∨
    tunnelPrefix = slash :: Request.bytewise settings.linkPrefix ++ [slash] ∨
    ∃ n, tunnelPrefix =
      Request.bytewise (Rewriting.linkPath settings tok) ++ List.replicate n slash

/-- A prefix of links that is one name. -/
structure IsName (t : Text) : Prop where
  ne_nil : t ≠ []
  slash : CodePoint.ofChar '/' ∉ t

theorem path_of_target (h : IsName settings.linkPrefix)
    (htarget : request.target = Rewriting.linkPath settings tok) :
    request.path = Rewriting.linkPath settings tok := by
  obtain ⟨c, rest, hcons⟩ := List.exists_cons_of_ne_nil h.ne_nil
  have hc : c ≠ CodePoint.ofChar '/' := by
    rintro rfl
    exact h.slash (hcons ▸ List.mem_cons_self)
  rw [Request.path, htarget, Rewriting.linkPath_eq_cons, hcons, List.cons_append,
    List.dropWhile_cons_of_pos (by rw [beq_iff_eq]), List.dropWhile_cons_of_neg (by rwa [beq_iff_eq])]

/-- The path of a link is open just if the prefix of links is the folder of the gate. -/
theorem isOpen_linkPath (h : CodePoint.ofChar '/' ∉ settings.linkPrefix)
    (htok : CodePoint.ofChar '/' ∉ tok) :
    Admission.isOpen (Rewriting.linkPath settings tok) = true ↔
      settings.linkPrefix = "challenge" := by
  -- An open path is one name, and the path of a link is two.
  have hopen : Rewriting.linkPath settings tok ∉ Admission.openPaths := by
    intro hmem
    have hall : ∀ path ∈ Admission.openPaths, CodePoint.ofChar '/' ∉ path.tail := by decide
    refine hall _ hmem ?_
    rw [Rewriting.linkPath_eq_cons, List.tail_cons]
    exact List.mem_append_right _ List.mem_cons_self
  have hlead : Admission.openLead =
      CodePoint.ofChar '/' :: (("challenge" : Text) ++ [CodePoint.ofChar '/']) := rfl
  rw [Admission.isOpen, Bool.or_eq_true, List.contains_iff_mem, or_iff_right hopen,
    Text.startsWith_iff, hlead, Rewriting.linkPath_eq_cons, List.cons_prefix_cons,
    and_iff_right rfl, Text.prefix_two_names_iff h htok, eq_comm]

theorem token?_linkPath (h : CodePoint.ofChar '/' ∉ settings.linkPrefix) :
    (LinkRoute.ofPrefix settings.linkPrefix).token? (Rewriting.linkPath settings tok) = some tok ↔
      Token.Clean tok := by
  rw [LinkRoute.token?_eq_some_iff h]
  constructor
  · rintro ⟨hne, name, hname, hslash, hstem⟩
    rw [Rewriting.linkPath, Rewriting.linkPath] at hname
    obtain rfl := List.append_cancel_left hname
    exact ⟨hne, Text.stem_eq_self_iff.mp hstem, hslash⟩
  · rintro ⟨hne, hdot, hslash⟩
    exact ⟨hne, tok, rfl, hslash, Text.stem_eq_self_iff.mpr hdot⟩

theorem bytewise_linkPath (settings : Settings) (tok : Text) :
    Request.bytewise (Rewriting.linkPath settings tok) =
      CodePoint.ofChar '/' :: (Request.bytewise settings.linkPrefix ++
        CodePoint.ofChar '/' :: Request.bytewise tok) := by
  have hslash : Request.bytewise [CodePoint.ofChar '/'] = [CodePoint.ofChar '/'] := by decide
  have hcons : ∀ t : Text, Request.bytewise (CodePoint.ofChar '/' :: t) =
      CodePoint.ofChar '/' :: Request.bytewise t := by
    intro t
    rw [← List.singleton_append, Request.bytewise_append, hslash, List.singleton_append]
  rw [Rewriting.linkPath_eq_cons, hcons, Request.bytewise_append, hcons]

/-- Of the prefixes that begin and end with a slash, those that take the path of a link. -/
theorem isTunnelled_linkPath (hlink : CodePoint.ofChar '/' ∉ settings.linkPrefix)
    (hclean : Token.Clean tok) (hfirst : [CodePoint.ofChar '/'] <+: tunnelPrefix)
    (hlast : [CodePoint.ofChar '/'] <:+ tunnelPrefix) :
    isTunnelled tunnelPrefix (Rewriting.linkPath settings tok) = true ↔
      Diverts settings tunnelPrefix tok := by
  have hbytes := Request.slash_not_mem_bytewise hclean.slash
  -- The prefix is one slash, or the path begins with it, and then it goes as far as the second slash.
  have hlead : tunnelPrefix <+: Request.bytewise (Rewriting.linkPath settings tok) ↔
      tunnelPrefix = [CodePoint.ofChar '/'] ∨ tunnelPrefix =
        CodePoint.ofChar '/' :: Request.bytewise settings.linkPrefix ++ [CodePoint.ofChar '/'] := by
    obtain ⟨rest, rfl⟩ := hfirst
    rw [bytewise_linkPath, List.singleton_append, List.cons_prefix_cons, and_iff_right rfl]
    rcases List.eq_nil_or_concat rest with rfl | ⟨before, c, rfl⟩
    · simp
    · rw [List.concat_eq_append] at hlast ⊢
      obtain rfl : c = CodePoint.ofChar '/' := by
        obtain ⟨front, hlast⟩ := hlast
        rw [← List.append_assoc] at hlast
        exact (List.head_eq_of_cons_eq (List.append_inj_right' hlast rfl)).symm
      rw [Text.prefix_two_names_iff (Request.slash_not_mem_bytewise hlink) hbytes]
      simp
  have hend : ¬ [CodePoint.ofChar '/'] <:+ Request.bytewise (Rewriting.linkPath settings tok) := by
    intro hslash
    have htail : Request.bytewise tok <:+ Request.bytewise (Rewriting.linkPath settings tok) := by
      rw [Rewriting.linkPath, Request.bytewise_append]
      exact List.suffix_append _ _
    have hlength := List.length_pos_iff.mpr (Request.bytewise_ne_nil hclean.ne_nil)
    exact hbytes ((List.suffix_of_suffix_length_le hslash htail hlength).mem List.mem_cons_self)
  rw [isTunnelled, Bool.or_eq_true, Text.startsWith_iff, hlead, beq_iff_eq, Diverts, or_assoc]
  exact or_congr_right (or_congr_right (Text.eq_rdropWhile_iff hend))

/-- A path that was given out meets what it should just if its token can stand in a path, the prefix of
links is not the folder of the gate, and the tunnel does not take it. -/
theorem addressed_iff (hlink : IsName settings.linkPrefix)
    (hfirst : [CodePoint.ofChar '/'] <+: tunnelPrefix) (hlast : [CodePoint.ofChar '/'] <:+ tunnelPrefix)
    (htarget : request.target = Rewriting.linkPath settings tok) :
    Addressed settings tunnelPrefix request tok ↔
      Token.Clean tok ∧ settings.linkPrefix ≠ "challenge" ∧ ¬ Diverts settings tunnelPrefix tok := by
  have hpath := path_of_target hlink htarget
  constructor
  · rintro ⟨hstays, hgated, hread⟩
    rw [hpath] at hgated hread
    rw [htarget] at hstays
    have hclean := (token?_linkPath hlink.slash).mp hread
    refine ⟨hclean, fun hfolder => ?_, fun hdiverts => ?_⟩
    · rw [(isOpen_linkPath hlink.slash hclean.slash).mpr hfolder] at hgated
      cases hgated
    · rw [(isTunnelled_linkPath hlink.slash hclean hfirst hlast).mpr hdiverts] at hstays
      cases hstays
  · rintro ⟨hclean, hfolder, hdiverts⟩
    refine ⟨?_, ?_, ?_⟩
    · rw [htarget, Bool.eq_false_iff]
      exact fun htaken => hdiverts ((isTunnelled_linkPath hlink.slash hclean hfirst hlast).mp htaken)
    · rw [hpath, Bool.eq_false_iff]
      exact fun hopen => hfolder ((isOpen_linkPath hlink.slash hclean.slash).mp hopen)
    · rw [hpath]
      exact (token?_linkPath hlink.slash).mpr hclean

end Gateway

/-! ## Contexts -/

namespace Context

/-- The context of a session that began with no entries, after steps. -/
def IsOfSession (settings : Settings) (c : Context) : Prop :=
  ∃ key twister steps, c = ((Record.ofKey key).context twister).afterSteps settings steps

theorem IsOfSession.linked {settings : Settings} {c : Context} (h : c.IsOfSession settings) :
    c.Linked := by
  obtain ⟨key, twister, steps, rfl⟩ := h
  have hclean : ∀ path tok, (path, tok) ∈ Mappings.empty.links → Token.Clean tok := nofun
  exact (linked_ofMappings (m := Mappings.empty) List.nodup_nil hclean key twister).afterSteps steps

/-- A path is given out for a link exactly if it has a token or can be given one. -/
theorem link_comes_iff (settings : Settings) (c : Context) (path : Text) :
    (∃ url, (c.run (Rewriting.link settings path)).1 = .ok url) ↔ c.Grants (.name .link path) := by
  have hdemands : (Rewriting.link settings path).Demands [.name .link path] :=
    ⟨[], rfl, fun _ => rfl⟩
  rw [hdemands.comes_iff, List.forall_mem_singleton]

/-- The path that is given out for a link is that of its token. -/
theorem link_run_eq_ok {settings : Settings} {c d : Context} {path url : Text} {notes : List Note}
    (h : c.run (Rewriting.link settings path) = (.ok url, d, notes)) :
    ∃ tok, d.links.value? path = some tok ∧ url = Rewriting.linkPath settings tok := by
  rw [Rewriting.link, run] at h
  rcases c.answerName_cases .link path with
    ⟨tok, htok, hanswer⟩ | ⟨hnone, ⟨fault, -, hanswer⟩ | ⟨tok, -, hanswer⟩⟩ <;>
    rw [hanswer] at h
  · cases h
    exact ⟨tok, htok, rfl⟩
  · cases h
  · cases h
    exact ⟨tok, TokenTable.value?_insert_self _ _ _, rfl⟩

end Context

/-! ## Configurations -/

namespace Config

open Gateway (IsName Addressed Diverts)

variable {config : Config} {disk : Disk}

theorem isSegment_iff {t : Option Text} : isSegment t = true ↔ ∃ name, t = some name ∧ IsName name := by
  cases t with
  | none =>
    constructor
    · intro h
      cases h
    · rintro ⟨_, h, -⟩
      cases h
  | some name =>
    rw [isSegment, Bool.and_eq_true, Bool.not_eq_true', Bool.not_eq_true', List.isEmpty_eq_false_iff,
      ← Bool.not_eq_true, List.contains_iff_mem]
    constructor
    · rintro ⟨hne, hslash⟩
      exact ⟨name, rfl, hne, hslash⟩
    · rintro ⟨_, hname, hne, hslash⟩
      obtain rfl := Option.some.inj hname
      exact ⟨hne, hslash⟩

/-- What an accepted configuration says of its prefixes. -/
theorem prefixes_of_accepted (h : config.problems disk = .ok []) :
    (∃ name, config.linkPrefix = some name ∧ IsName name) ∧
      ∃ tunnelPrefix, config.tunnelPrefix = some tunnelPrefix ∧
        [CodePoint.ofChar '/'] <+: tunnelPrefix ∧ [CodePoint.ofChar '/'] <:+ tunnelPrefix := by
  unfold problems at h
  cases htunnel : config.tunnelPrefix with
  | none => rw [htunnel] at h; cases h
  | some tunnelPrefix =>
    rw [htunnel] at h
    cases hsite : config.hasSite disk with
    | error fault => rw [hsite] at h; cases h
    | ok site =>
      rw [hsite] at h
      have hnil := Except.ok.inj h
      simp only [List.append_eq_nil_iff, ite_eq_right_iff, List.cons_ne_nil, imp_false,
        Bool.not_eq_true, Bool.not_eq_false', Bool.or_eq_false_iff] at hnil
      obtain ⟨⟨⟨⟨⟨-, hlink⟩, hfirst, hlast⟩, -⟩, -⟩, -⟩ := hnil
      exact ⟨isSegment_iff.mp hlink, tunnelPrefix, rfl, Text.startsWith_iff.mp hfirst,
        Text.endsWith_iff.mp hlast⟩

/-- What the gateway of a configuration takes from it to tell paths apart. -/
theorem ofConfig_prefixes {gateway : Gateway} {tunnel : Option (Request → Response)}
    (h : Gateway.ofConfig config disk tunnel = .ok gateway) :
    gateway.settings = config.settings ∧
      gateway.links = LinkRoute.ofPrefix config.settings.linkPrefix ∧
      config.tunnelPrefix = some gateway.tunnelPrefix := by
  unfold Gateway.ofConfig at h
  cases hroots : config.rootPlaces disk with
  | error fault => rw [hroots] at h; cases h
  | ok roots =>
    cases hlink : config.linkPrefix with
    | none => rw [hroots, hlink] at h; cases h
    | some name =>
      cases htunnel : config.tunnelPrefix with
      | none => rw [hroots, hlink, htunnel] at h; cases h
      | some tunnelPrefix =>
        rw [hroots, hlink, htunnel] at h
        obtain rfl := Except.ok.inj h
        rw [settings, hlink]
        exact ⟨rfl, rfl, rfl⟩

/-- A configuration that nothing stands against tells by its prefixes what becomes of the paths that
are given out for links, whatever the session.  There is such a path wherever a token can be had; it is
left to the route, which reads its token, and is behind the gate, just if the token can stand in a path,
as every token does that a session makes, links do not begin with the folder of the gate, and the tunnel
does not take them. -/
theorem link_addressed_iff (haccepted : config.problems disk = .ok []) :
    ∃ name tunnelPrefix, config.linkPrefix = some name ∧ config.tunnelPrefix = some tunnelPrefix ∧
      (∀ (disk : Disk) (tunnel : Option (Request → Response)) (gateway : Gateway),
        Gateway.ofConfig config disk tunnel = .ok gateway →
          gateway.settings = config.settings ∧
          gateway.links = LinkRoute.ofPrefix config.settings.linkPrefix ∧
          gateway.tunnelPrefix = tunnelPrefix) ∧
      ∀ (c : Context) (path : Text),
        ((∃ url, (c.run (Rewriting.link config.settings path)).1 = .ok url) ↔
          c.Grants (.name .link path)) ∧
        ∀ (d : Context) (url : Text) (notes : List Note),
          c.run (Rewriting.link config.settings path) = (.ok url, d, notes) →
            ∃ tok, d.links.value? path = some tok ∧
              (c.IsOfSession config.settings → Token.Clean tok) ∧
              ∀ request : Request, request.target = url →
                (Addressed config.settings tunnelPrefix request tok ↔
                  Token.Clean tok ∧ name ≠ "challenge" ∧
                    ¬ Diverts config.settings tunnelPrefix tok) := by
  obtain ⟨⟨name, hname, hlink⟩, tunnelPrefix, htunnel, hfirst, hlast⟩ := prefixes_of_accepted haccepted
  obtain rfl : config.settings.linkPrefix = name := by
    rw [settings, hname]
    rfl
  refine ⟨_, tunnelPrefix, hname, htunnel, fun disk tunnel gateway hgateway => ?_,
    fun c path => ⟨Context.link_comes_iff config.settings c path, fun d url notes hrun => ?_⟩⟩
  · obtain ⟨hsettings, hroute, hsame⟩ := ofConfig_prefixes hgateway
    exact ⟨hsettings, hroute, Option.some.inj (hsame.symm.trans htunnel)⟩
  · obtain ⟨tok, htok, rfl⟩ := Context.link_run_eq_ok hrun
    refine ⟨tok, htok, fun hsession => ?_, fun request htarget =>
      Gateway.addressed_iff hlink hfirst hlast htarget⟩
    have hlinked := hsession.linked.run (Rewriting.link config.settings path)
    rw [hrun] at hlinked
    exact hlinked.clean path tok (Entries.mem_of_get? htok)

/-- The settings of a site, with a prefix of links. -/
def ofLinkPrefix (name : Text) : Config :=
  { Config.default with secretKey := some "s", linkPrefix := some name }

/-- A disk where the site is a directory. -/
def siteDisk : Disk :=
  ⟨[(["site"], .directory)], []⟩

/-- The session that has a key and nothing else. -/
def firstContext : Context :=
  (Record.ofKey "k").context (Twister.ofSeed 0)

/-- What that session gives out for one path. -/
def firstLink (name : Text) : Option Text :=
  (firstContext.run (Rewriting.link (ofLinkPrefix name).settings "/a.css")).1.toOption

/-- With the prefix of links that holds where none is set, a path that is given out comes to the route,
and behind the gate. -/
theorem plain_link_addressed :
    (ofLinkPrefix Defaults.linkPrefix).problems siteDisk = .ok [] ∧
      ∃ url tok, firstLink Defaults.linkPrefix = some url ∧
        Addressed (ofLinkPrefix Defaults.linkPrefix).settings Defaults.tunnelPrefix
          (Gateway.getRequest url) tok := by
  have haccepted : (ofLinkPrefix Defaults.linkPrefix).problems siteDisk = .ok [] := rfl
  obtain ⟨name, tunnelPrefix, hname, htunnel, -, hlinks⟩ := link_addressed_iff haccepted
  obtain rfl : Defaults.linkPrefix = name := Option.some.inj hname
  obtain rfl : Defaults.tunnelPrefix = tunnelPrefix := Option.some.inj htunnel
  have hgiven : firstLink Defaults.linkPrefix = some "/o/dtf0cb2819e3" := by decide +kernel
  rw [firstLink] at hgiven ⊢
  rcases hrun : firstContext.run
    (Rewriting.link (ofLinkPrefix Defaults.linkPrefix).settings "/a.css") with ⟨outcome, d, notes⟩
  rw [hrun] at hgiven
  cases outcome with
  | error fault => cases hgiven
  | ok url =>
    obtain ⟨tok, -, hclean, haddressed⟩ := (hlinks firstContext _).2 d url notes hrun
    refine ⟨haccepted, url, tok, rfl, (haddressed _ rfl).mpr
      ⟨hclean ⟨"k", Twister.ofSeed 0, [], rfl⟩, by decide, ?_⟩⟩
    rintro (hall | hfolder | ⟨n, hone⟩)
    · cases hall
    · cases hfolder
    · rw [Gateway.bytewise_linkPath] at hone
      cases hone

/-- Nothing stands against links that begin as the folder of the gate, or as what goes to the tunnel:
the path of a link is open to all in the one case, and in the other the tunnel takes it. -/
theorem accepted_links_lost :
    ((ofLinkPrefix "challenge").problems siteDisk = .ok [] ∧
      (ofLinkPrefix "b").problems siteDisk = .ok []) ∧
    (firstLink "challenge").map Admission.isOpen = some true ∧
    (firstLink "b").map (Gateway.isTunnelled Defaults.tunnelPrefix) = some true := by
  exact ⟨⟨rfl, rfl⟩, by decide +kernel, by decide +kernel⟩

end Config

end VeiledGateway
