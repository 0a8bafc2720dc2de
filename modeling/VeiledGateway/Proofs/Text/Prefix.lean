/-
  Prefixes: `dropPrefix?`, `startsWith`, `endsWith` and `cutAtCode` in terms of appending.
-/
import VeiledGateway.Text.Search

set_option autoImplicit false

namespace VeiledGateway.Text

theorem dropPrefix?_eq_some_iff {t lead rest : Text} :
    dropPrefix? t lead = some rest ↔ t = lead ++ rest := by
  induction lead generalizing t with
  | nil => cases t <;> simp [dropPrefix?]
  | cons d lead ih =>
    cases t with
    | nil => simp [dropPrefix?]
    | cons c t =>
      by_cases h : c = d
      · simp [dropPrefix?, h, ih]
      · simp [dropPrefix?, h]

theorem dropPrefix?_append (lead rest : Text) : dropPrefix? (lead ++ rest) lead = some rest :=
  dropPrefix?_eq_some_iff.mpr rfl

/-- A text starts with another if that is a prefix of it. -/
theorem startsWith_iff {t lead : Text} : startsWith t lead = true ↔ lead <+: t := by
  rw [startsWith, Option.isSome_iff_exists]
  constructor
  · rintro ⟨rest, h⟩
    exact ⟨rest, (dropPrefix?_eq_some_iff.mp h).symm⟩
  · rintro ⟨rest, rfl⟩
    exact ⟨rest, dropPrefix?_append lead rest⟩

/-- A text ends with another if that is a suffix of it. -/
theorem endsWith_iff {t tail : Text} : endsWith t tail = true ↔ tail <:+ t := by
  rw [endsWith, startsWith_iff, List.reverse_prefix]

theorem cutAtCode_eq_some_iff {c : CodePoint} {t lead rest : Text} :
    cutAtCode c t = (lead, some rest) ↔ t = lead ++ c :: rest ∧ c ∉ lead := by
  induction t generalizing lead with
  | nil => simp [cutAtCode]
  | cons d t ih =>
    rw [cutAtCode]
    split
    · rename_i hd
      subst hd
      constructor
      · intro h
        obtain ⟨rfl, hrest⟩ := Prod.mk.inj h
        obtain rfl := Option.some.inj hrest
        exact ⟨rfl, List.not_mem_nil⟩
      · rintro ⟨h, hlead⟩
        cases lead with
        | nil => rw [(List.cons.inj h).2]
        | cons e lead =>
          obtain rfl := (List.cons.inj h).1
          exact absurd List.mem_cons_self hlead
    · rename_i hd
      constructor
      · intro h
        obtain ⟨rfl, hrest⟩ := Prod.mk.inj h
        obtain ⟨ht, hlead⟩ := ih.mp (Prod.ext rfl hrest)
        exact ⟨congrArg (List.cons d) ht, by simp [Ne.symm hd, hlead]⟩
      · rintro ⟨h, hlead⟩
        cases lead with
        | nil => exact absurd (List.cons.inj h).1 hd
        | cons e lead =>
          obtain ⟨rfl, ht⟩ := List.cons.inj h
          have hcut := ih.mpr ⟨ht, fun hmem => hlead (List.mem_cons_of_mem _ hmem)⟩
          rw [hcut]

/-- What stands before the first `c` and behind it is determined. -/
theorem eq_of_first_eq {c : CodePoint} {lead lead' rest rest' : Text}
    (h : lead ++ c :: rest = lead' ++ c :: rest') (hlead : c ∉ lead) (hlead' : c ∉ lead') :
    lead = lead' ∧ rest = rest' := by
  have hcut : cutAtCode c (lead ++ c :: rest) = (lead, some rest) :=
    cutAtCode_eq_some_iff.mpr ⟨rfl, hlead⟩
  rw [cutAtCode_eq_some_iff.mpr ⟨h, hlead'⟩] at hcut
  obtain ⟨hsame, hrest⟩ := Prod.mk.inj hcut
  exact ⟨hsame.symm, (Option.some.inj hrest).symm⟩

/-- What stands before the last `c` and behind it is determined. -/
theorem eq_of_last_eq {c : CodePoint} {lead lead' rest rest' : Text}
    (h : lead ++ c :: rest = lead' ++ c :: rest') (hrest : c ∉ rest) (hrest' : c ∉ rest') :
    lead = lead' ∧ rest = rest' := by
  have hreverse := congrArg List.reverse h
  simp only [List.reverse_append, List.reverse_cons, List.append_assoc, List.singleton_append] at hreverse
  obtain ⟨hends, hleads⟩ := eq_of_first_eq hreverse (by rwa [List.mem_reverse]) (by rwa [List.mem_reverse])
  exact ⟨List.reverse_inj.mp hleads, List.reverse_inj.mp hends⟩

end VeiledGateway.Text
