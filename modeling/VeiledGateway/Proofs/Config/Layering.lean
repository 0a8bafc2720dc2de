/-
  Layering: where the value of a setting comes from.

  A value is brought into the form of the value that is held for its setting when it comes, and that
  may have come from the file just before.  But a value that is brought into a form has that form, so
  every setting keeps the form of its default, whatever the file has put there.  With that, each
  setting is found in its variable, or else in its entry in the file, or else it is the default.
-/
import VeiledGateway.Config.Source
import VeiledGateway.Proofs.Text.Entries
import VeiledGateway.Proofs.Yaml.Keys

set_option autoImplicit false

namespace VeiledGateway

/-! ## Names -/

namespace Setting

theorem mem_all (s : Setting) : s ∈ all := by
  cases s <;> decide

theorem ofName?_name (s : Setting) : ofName? s.name = some s := by
  cases s <;> decide

theorem ofName?_eq_some {t : Text} {s : Setting} : ofName? t = some s ↔ t = s.name := by
  constructor
  · intro h
    have hname := List.find?_some h
    exact (beq_iff_eq.mp hname).symm
  · rintro rfl
    exact ofName?_name s

theorem name_injective {s other : Setting} (h : s.name = other.name) : s = other :=
  Option.some.inj ((ofName?_name s).symm.trans (ofName?_eq_some.mpr h))

theorem nodup_all : all.Nodup := by
  decide

end Setting

namespace Config

/-! ## Forms -/

/-- The forms that values of settings have. -/
inductive Form where
  | text
  | whole
  | list
  | path
deriving DecidableEq

def Held.form : Held → Form
  | .text _ => .text
  | .whole _ => .whole
  | .list _ => .list
  | .path _ => .path

/-- A value for a setting, brought into the form of the setting's default. -/
def coerced (s : Setting) (d : Datum) : Except Fault Held :=
  (default.held s).refit d

variable {config config' : Config} {s other : Setting}

/-- Into what form a value is brought is told by the form of what is held. -/
theorem Held.refit_of_form {held default : Held} (h : held.form = default.form) (d : Datum) :
    held.refit d = default.refit d := by
  cases held <;> cases default <;> first | rfl | cases h

/-- A value that has been brought into a form has it. -/
theorem Held.form_of_refit {held new : Held} {d : Datum} (h : held.refit d = .ok new) :
    new.form = held.form := by
  cases held with
  | text t => exact Except.ok.inj h ▸ rfl
  | whole i =>
    obtain ⟨value, -, h⟩ := Outcome.bind_eq_ok.mp h
    exact Except.ok.inj h ▸ rfl
  | list ts =>
    obtain ⟨value, -, h⟩ := Outcome.bind_eq_ok.mp h
    exact Except.ok.inj h ▸ rfl
  | path t =>
    obtain ⟨value, -, h⟩ := Outcome.bind_eq_ok.mp h
    exact Except.ok.inj h ▸ rfl

theorem form_held (config : Config) (s : Setting) : (config.held s).form = (default.held s).form := by
  cases s <;> rfl

/-- What a configuration holds for a setting brings any other value into the form of the default. -/
theorem refit_held (config : Config) (s : Setting) (d : Datum) : (config.held s).refit d = coerced s d :=
  Held.refit_of_form (config.form_held s) d

theorem held_hold_self (config : Config) {held : Held} (h : held.form = (default.held s).form) :
    (config.hold s held).held s = held := by
  cases s <;> cases held <;> first | rfl | cases h

theorem held_hold_of_ne (config : Config) (held : Held) (h : other ≠ s) :
    (config.hold s held).held other = config.held other := by
  cases s <;> cases held <;> cases other <;> first | rfl | exact absurd rfl h

/-! ## One source -/

/-- A value that is taken over is held for its setting, and nothing else changes. -/
theorem held_set {d : Datum} (h : config.set s d = .ok config') :
    coerced s d = .ok (config'.held s) ∧ ∀ other, other ≠ s → config'.held other = config.held other := by
  obtain ⟨held, hrefit, h⟩ := Outcome.bind_eq_ok.mp h
  obtain rfl := Outcome.pure_eq_ok.mp h
  have hform : held.form = (default.held s).form :=
    (Held.form_of_refit hrefit).trans (config.form_held s)
  rw [refit_held] at hrefit
  exact ⟨by rw [held_hold_self config hform, hrefit], fun other => held_hold_of_ne config held⟩

theorem set_comes_iff {d : Datum} :
    (∃ config', config.set s d = .ok config') ↔ ∃ held, coerced s d = .ok held := by
  constructor
  · rintro ⟨config', h⟩
    exact ⟨_, (held_set h).1⟩
  · rintro ⟨held, h⟩
    rw [← config.refit_held] at h
    exact ⟨config.hold s held, Outcome.bind_eq_ok.mpr ⟨held, h, rfl⟩⟩

theorem result_apply_known (config : Config) (s : Setting) (d : Datum) (rest : Given) :
    (config.apply ((.text s.name, d) :: rest)).1 =
      config.set s d >>= fun config => (config.apply rest).1 := by
  rw [apply]
  dsimp only
  rw [Setting.ofName?_name]
  dsimp only
  split
  · rename_i fault hset
    rw [hset]
    rfl
  · rename_i next hset
    rw [hset]
    rfl

theorem result_apply_unknown (config : Config) {key : Datum} (hkey : ∀ s : Setting, key ≠ .text s.name)
    (d : Datum) (rest : Given) : (config.apply ((key, d) :: rest)).1 = (config.apply rest).1 := by
  rw [apply.eq_def]
  dsimp only
  split
  · rfl
  · rename_i s hs
    split at hs
    · exact absurd (congrArg Datum.text (Setting.ofName?_eq_some.mp hs)) (hkey s)
    · cases hs

/-- All that is given is taken over exactly if each value has the form of its setting. -/
theorem apply_comes_iff {given : Given} :
    (∃ config', (config.apply given).1 = .ok config') ↔
      ∀ (s : Setting) (d : Datum), (.text s.name, d) ∈ given → ∃ held, coerced s d = .ok held := by
  induction given generalizing config with
  | nil => exact iff_of_true ⟨config, rfl⟩ nofun
  | cons entry rest ih =>
    obtain ⟨key, value⟩ := entry
    by_cases hkey : ∃ s : Setting, key = .text s.name
    · obtain ⟨s, rfl⟩ := hkey
      rw [result_apply_known]
      constructor
      · rintro ⟨config', h⟩ other d hmem
        obtain ⟨next, hset, hrest⟩ := Outcome.bind_eq_ok.mp h
        rcases List.mem_cons.mp hmem with heq | hmem
        · obtain ⟨hname, rfl⟩ := Prod.mk.inj heq
          obtain rfl := Setting.name_injective (Datum.text.inj hname)
          exact ⟨_, (held_set hset).1⟩
        · exact ih.mp ⟨config', hrest⟩ other d hmem
      · intro h
        obtain ⟨next, hset⟩ := set_comes_iff.mpr (h s value List.mem_cons_self)
        obtain ⟨config', hrest⟩ := ih.mpr fun other d hmem => h other d (List.mem_cons_of_mem _ hmem)
        exact ⟨config', Outcome.bind_eq_ok.mpr ⟨next, hset, hrest⟩⟩
    · push Not at hkey
      rw [result_apply_unknown config hkey, ih]
      refine forall_congr' fun s => forall_congr' fun d => imp_congr_left ?_
      rw [List.mem_cons, or_iff_right]
      exact fun heq => hkey s (Prod.mk.inj heq).1.symm

/-- After all that is given has been taken over, a setting holds the value under its name, or what it
held if there is none. -/
theorem held_apply {given : Given} (hsingle : Datum.SingleKeys given)
    (h : (config.apply given).1 = .ok config') (s : Setting) :
    (∀ d, (.text s.name, d) ∈ given → coerced s d = .ok (config'.held s)) ∧
      ((∀ d, (.text s.name, d) ∉ given) → config'.held s = config.held s) := by
  induction given generalizing config with
  | nil => exact ⟨nofun, fun _ => Except.ok.inj h ▸ rfl⟩
  | cons entry rest ih =>
    obtain ⟨key, value⟩ := entry
    have hrest : Datum.SingleKeys rest := hsingle.sublist ((List.sublist_cons_self _ rest).filterMap _)
    by_cases hkey : ∃ s : Setting, key = .text s.name
    · obtain ⟨first, rfl⟩ := hkey
      rw [result_apply_known] at h
      obtain ⟨next, hset, h⟩ := Outcome.bind_eq_ok.mp h
      obtain ⟨hheld, hothers⟩ := held_set hset
      obtain ⟨hentry, hnone⟩ := ih hrest h
      by_cases hfirst : s = first
      · subst hfirst
        have hlast : ∀ d, (.text s.name, d) ∉ rest := fun d hmem =>
          (List.nodup_cons.mp hsingle).1 (Datum.mem_textKeys.mpr ⟨d, hmem⟩)
        refine ⟨fun d hmem => ?_, fun habsent => absurd List.mem_cons_self (habsent value)⟩
        rcases List.mem_cons.mp hmem with heq | hmem
        · rw [(Prod.mk.inj heq).2, hnone hlast]
          exact hheld
        · exact absurd hmem (hlast d)
      · refine ⟨fun d hmem => hentry d ?_, fun habsent => ?_⟩
        · rcases List.mem_cons.mp hmem with heq | hmem
          · exact absurd (Setting.name_injective (Datum.text.inj (Prod.mk.inj heq).1)) hfirst
          · exact hmem
        · rw [hnone fun d hmem => habsent d (List.mem_cons_of_mem _ hmem), hothers s hfirst]
    · push Not at hkey
      rw [result_apply_unknown config hkey] at h
      obtain ⟨hentry, hnone⟩ := ih hrest h
      refine ⟨fun d hmem => hentry d ?_, fun habsent =>
        hnone fun d hmem => habsent d (List.mem_cons_of_mem _ hmem)⟩
      rcases List.mem_cons.mp hmem with heq | hmem
      · exact absurd (Prod.mk.inj heq).1.symm (hkey s)
      · exact hmem

/-! ## The two sources -/

/-- What the chosen file gives; without a file nothing is given. -/
def fileGiven (disk : Disk) (environment : Entries Text) (file : Option Text) : Except Fault Given :=
  match chosenFile file environment with
  | none => .ok []
  | some (_, path) => readGiven disk path

/-- The value that a file gives a setting. -/
def filed? (given : Given) (s : Setting) : Option Datum :=
  (given.find? fun entry => entry.1.textKey? = some s.name).map Prod.snd

/-- The variable of a setting, if it is set and not empty. -/
def environmentText? (environment : Entries Text) (s : Setting) : Option Text :=
  (Entries.get? environment (variableOf s)).filter fun t => !t.isEmpty

theorem singleKeys_of_fileGiven {disk : Disk} {environment : Entries Text} {file : Option Text}
    {given : Given} (h : fileGiven disk environment file = .ok given) : Datum.SingleKeys given := by
  unfold fileGiven at h
  split at h
  · obtain rfl := Except.ok.inj h
    exact List.nodup_nil
  · obtain ⟨t, -, h⟩ := Outcome.bind_eq_ok.mp h
    obtain ⟨d, hread, h⟩ := Outcome.bind_eq_ok.mp h
    rcases hdocument : Yaml.read t with fault | document
    · rw [hdocument] at hread
      cases hread
    · rw [hdocument] at hread
      obtain rfl := Except.ok.inj hread
      split at h
      · obtain rfl := Outcome.pure_eq_ok.mp h
        exact Yaml.singleKeys_of_read hdocument
      · split at h
        · cases h
        · obtain rfl := Outcome.pure_eq_ok.mp h
          exact List.nodup_nil

theorem filed?_eq_none {given : Given} :
    filed? given s = none ↔ ∀ d, (.text s.name, d) ∉ given := by
  rw [filed?, Option.map_eq_none_iff, List.find?_eq_none]
  constructor
  · intro h d hmem
    exact h _ hmem (decide_eq_true (Datum.textKey?_eq_some.mpr rfl))
  · rintro h ⟨key, d⟩ hmem hkey
    obtain rfl := Datum.textKey?_eq_some.mp (of_decide_eq_true hkey)
    exact h d hmem

theorem mem_of_filed? {given : Given} {d : Datum} (h : filed? given s = some d) :
    (.text s.name, d) ∈ given := by
  obtain ⟨⟨key, value⟩, hfound, rfl⟩ := Option.map_eq_some_iff.mp h
  have hkey := List.find?_some hfound
  obtain rfl := Datum.textKey?_eq_some.mp (of_decide_eq_true hkey)
  exact List.mem_of_find?_eq_some hfound

theorem filed?_eq_some {given : Given} (h : Datum.SingleKeys given) {d : Datum} :
    filed? given s = some d ↔ (.text s.name, d) ∈ given := by
  refine ⟨mem_of_filed?, fun hmem => ?_⟩
  cases hentry : filed? given s with
  | none => exact absurd hmem (filed?_eq_none.mp hentry d)
  | some value => exact congrArg some (h.unique (mem_of_filed? hentry) hmem)

theorem environmentGiven_eq (environment : Entries Text) :
    environmentGiven environment = Setting.all.filterMap fun s =>
      (environmentText? environment s).map fun t => (.text s.name, .text t) := by
  refine congrArg (fun f => List.filterMap f Setting.all) (funext fun s => ?_)
  rw [environmentText?]
  cases Entries.get? environment (variableOf s) with
  | none => rfl
  | some t =>
    rw [Option.filter_some]
    cases hempty : t.isEmpty <;> simp only [hempty] <;> rfl

theorem mem_environmentGiven {environment : Entries Text} {d : Datum} :
    (.text s.name, d) ∈ environmentGiven environment ↔
      ∃ t, environmentText? environment s = some t ∧ d = .text t := by
  rw [environmentGiven_eq, List.mem_filterMap]
  constructor
  · rintro ⟨other, -, hother⟩
    obtain ⟨t, htext, heq⟩ := Option.map_eq_some_iff.mp hother
    obtain ⟨hname, rfl⟩ := Prod.mk.inj heq
    obtain rfl := Setting.name_injective (Datum.text.inj hname)
    exact ⟨t, htext, rfl⟩
  · rintro ⟨t, htext, rfl⟩
    exact ⟨s, s.mem_all, Option.map_eq_some_iff.mpr ⟨t, htext, rfl⟩⟩

theorem singleKeys_environmentGiven (environment : Entries Text) :
    Datum.SingleKeys (environmentGiven environment) := by
  rw [Datum.SingleKeys, Datum.textKeys, environmentGiven_eq, List.filterMap_filterMap]
  refine Setting.nodup_all.filterMap fun s other name hs hother => ?_
  obtain ⟨entry, hentry, hname⟩ := Option.bind_eq_some_iff.mp hs
  obtain ⟨t, -, rfl⟩ := Option.map_eq_some_iff.mp hentry
  obtain ⟨entry, hentry, hother⟩ := Option.bind_eq_some_iff.mp hother
  obtain ⟨t', -, rfl⟩ := Option.map_eq_some_iff.mp hentry
  exact Setting.name_injective ((Option.some.inj hname).trans (Option.some.inj hother).symm)

/-! ## Loading -/

/-- What a setting should hold: its variable, else its entry in the file, else its default. -/
def layered (environment : Entries Text) (given : Given) (s : Setting) : Except Fault Held :=
  match environmentText? environment s, filed? given s with
  | some t, _ => coerced s (.text t)
  | none, some d => coerced s d
  | none, none => .ok (default.held s)

/-- What is held for a setting after a secret has been drawn, if none was held. -/
def secured (secrets : Secrets) (s : Setting) (held : Held) : Held :=
  match s, held with
  | .secretKey, .text t =>
    if (t.getD []).isEmpty then .text (some (secrets.hex secretBytes).1) else .text t
  | _, _ => held

/-- All that the sources give has the form of its setting. -/
structure Coercible (environment : Entries Text) (given : Given) : Prop where
  file (s : Setting) (d : Datum) : (.text s.name, d) ∈ given → ∃ held, coerced s d = .ok held
  environment (s : Setting) (t : Text) : environmentText? environment s = some t →
    ∃ held, coerced s (.text t) = .ok held

section Loading

variable {disk : Disk} {environment : Entries Text} {file : Option Text} {given : Given}

theorem held_withSecret (config : Config) (secrets : Secrets) (s : Setting) :
    (config.withSecret secrets).1.held s = secured secrets s (config.held s) := by
  unfold withSecret
  split
  · rename_i hempty
    cases s with
    | secretKey => exact (if_pos hempty).symm
    | _ => rfl
  · rename_i hsome
    cases s with
    | secretKey => exact (if_neg hsome).symm
    | _ => rfl

theorem result_fromFile (hgiven : fileGiven disk environment file = .ok given) (config : Config) :
    (fromFile disk config (chosenFile file environment)).1 = (config.apply given).1 := by
  unfold fileGiven at hgiven
  unfold fromFile
  generalize chosenFile file environment = chosen at hgiven ⊢
  rcases chosen with _ | ⟨told, path⟩
  · obtain rfl := Except.ok.inj hgiven
    rfl
  · dsimp only at hgiven
    simp only [hgiven]
    rcases config.apply given with ⟨fault | config, events⟩ <;> rfl

/-- The file is taken over first, then the environment, and then a secret is drawn if none is held. -/
theorem result_load (hgiven : fileGiven disk environment file = .ok given) (secrets : Secrets) :
    (load disk environment file secrets).result = (do
      let config ← (default.apply given).1
      let config ← (config.apply (environmentGiven environment)).1
      return (config.withSecret secrets).1) := by
  rw [← result_fromFile hgiven, load]
  rcases fromFile disk default (chosenFile file environment) with ⟨fault | config, events⟩
  · rfl
  · simp only [bind, Except.bind]
    rcases config.apply (environmentGiven environment) with ⟨fault | config, more⟩ <;> rfl

theorem load_eq_ok (hgiven : fileGiven disk environment file = .ok given) {secrets : Secrets} :
    (load disk environment file secrets).result = .ok config ↔
      ∃ middle last, (default.apply given).1 = .ok middle ∧
        (middle.apply (environmentGiven environment)).1 = .ok last ∧
        (last.withSecret secrets).1 = config := by
  rw [result_load hgiven, Outcome.bind_eq_ok]
  refine exists_congr fun middle => ?_
  rw [exists_and_left, Outcome.bind_eq_ok]
  simp only [Outcome.pure_eq_ok]

/-- Loading succeeds exactly if all that the sources give has the form of its setting. -/
theorem load_comes_iff (hgiven : fileGiven disk environment file = .ok given) (secrets : Secrets) :
    (∃ config, (load disk environment file secrets).result = .ok config) ↔
      Coercible environment given := by
  constructor
  · rintro ⟨config, hload⟩
    obtain ⟨middle, last, hfile, henvironment, -⟩ := (load_eq_ok hgiven).mp hload
    refine ⟨fun s d hmem => apply_comes_iff.mp ⟨middle, hfile⟩ s d hmem, fun s t htext => ?_⟩
    exact apply_comes_iff.mp ⟨last, henvironment⟩ s (.text t) (mem_environmentGiven.mpr ⟨t, htext, rfl⟩)
  · rintro ⟨hfile, henvironment⟩
    obtain ⟨middle, hmiddle⟩ := apply_comes_iff.mpr hfile
    have hlast : ∃ last, (middle.apply (environmentGiven environment)).1 = .ok last := by
      refine apply_comes_iff.mpr fun s d hmem => ?_
      obtain ⟨t, htext, rfl⟩ := mem_environmentGiven.mp hmem
      exact henvironment s t htext
    obtain ⟨last, hlast⟩ := hlast
    exact ⟨_, (load_eq_ok hgiven).mpr ⟨middle, last, hmiddle, hlast, rfl⟩⟩

/-- What is held after loading comes from the layer that counts. -/
theorem held_load (hgiven : fileGiven disk environment file = .ok given) {secrets : Secrets}
    (hload : (load disk environment file secrets).result = .ok config) (s : Setting) :
    ∃ held, layered environment given s = .ok held ∧ config.held s = secured secrets s held := by
  obtain ⟨middle, last, hfile, henvironment, rfl⟩ := (load_eq_ok hgiven).mp hload
  refine ⟨last.held s, ?_, last.held_withSecret secrets s⟩
  have hsingle := singleKeys_of_fileGiven hgiven
  obtain ⟨hentry, hdefault⟩ := held_apply hsingle hfile s
  obtain ⟨htext, hmiddle⟩ := held_apply (singleKeys_environmentGiven environment) henvironment s
  rw [layered]
  cases hvariable : environmentText? environment s with
  | some t => exact htext (.text t) (mem_environmentGiven.mpr ⟨t, hvariable, rfl⟩)
  | none =>
    rw [hmiddle fun d hmem => by
      obtain ⟨t, hsome, -⟩ := mem_environmentGiven.mp hmem
      rw [hvariable] at hsome
      cases hsome]
    cases hfound : filed? given s with
    | some d => exact hentry d (mem_of_filed? hfound)
    | none => exact congrArg Except.ok (hdefault (filed?_eq_none.mp hfound)).symm

/-- What counts for a setting is its variable and what stands under its name. -/
theorem layered_congr {environment' : Entries Text} {given' : Given} (hsingle : Datum.SingleKeys given)
    (hsingle' : Datum.SingleKeys given')
    (htext : environmentText? environment s = environmentText? environment' s)
    (hentries : ∀ d, (.text s.name, d) ∈ given ↔ (.text s.name, d) ∈ given') :
    layered environment given s = layered environment' given' s := by
  have hentry : filed? given s = filed? given' s :=
    Option.ext fun d => by
      rw [filed?_eq_some hsingle, filed?_eq_some hsingle', hentries]
  rw [layered, layered, htext, hentry]

theorem secured_of_ne (secrets : Secrets) (h : s ≠ .secretKey) (held : Held) :
    secured secrets s held = held := by
  cases s with
  | secretKey => exact absurd rfl h
  | _ => rfl

theorem secured_congr {secrets secrets' : Secrets} (h : s = .secretKey → secrets = secrets')
    (held : Held) : secured secrets s held = secured secrets' s held := by
  by_cases hs : s = .secretKey
  · rw [h hs]
  · rw [secured_of_ne secrets hs, secured_of_ne secrets' hs]

end Loading

/-- A disk with a file in which a setting, a name of none, and a setting without a value stand. -/
def settingsDisk : Disk :=
  ⟨[([("c" : Text)], .file
    ("difficulty: 3\nport: 1\nsession_backend: null".toList.map fun c => UInt8.ofNat c.toNat))], []⟩

def settingsEnvironment : Entries Text :=
  [("CLOAKGATE_DIFFICULTY", "5"), ("CLOAKGATE_REDIS_URL", "")]

/-- What is given there. -/
def settingsGiven : Given :=
  (fileGiven settingsDisk settingsEnvironment (some "c")).toOption.getD []

theorem fileGiven_settings :
    fileGiven settingsDisk settingsEnvironment (some "c") = .ok settingsGiven := by
  have hcomes : (fileGiven settingsDisk settingsEnvironment (some "c")).toBool = true := by
    decide +kernel
  unfold settingsGiven
  cases hgiven : fileGiven settingsDisk settingsEnvironment (some "c") with
  | error fault =>
    rw [hgiven] at hcomes
    cases hcomes
  | ok given => rfl

end Config

end VeiledGateway
