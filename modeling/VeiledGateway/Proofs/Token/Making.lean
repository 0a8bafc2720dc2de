/-
  Making: what a token is made from, and what it looks like.

  The category, the original and the key are digested with colons between them, and an original may
  have colons of its own.  No category has one, and no key that is drawn for a session; so the first
  colon and the last one tell the parts from one another, and tokens of different originals have the
  same digits only where the digests of two different strings of bytes begin alike.
-/
import Mathlib.Data.List.Basic
import Mathlib.Data.Nat.Digits.Defs
import VeiledGateway.Proofs.Number.Digits
import VeiledGateway.Proofs.Text.Encoding
import VeiledGateway.Proofs.Text.Prefix
import VeiledGateway.Session.Record

set_option autoImplicit false

namespace VeiledGateway

/-! ## Digests -/

namespace Text

theorem length_hex {n width : Nat} (hpos : 0 < width) (h : n < 16 ^ width) :
    (hex n width).length = width := by
  have hdigits := Nat.toDigits_length 16 n width hpos h
  rw [hex, List.length_append, List.length_replicate, List.length_map]
  omega

/-- A text of digits to the base sixteen has an encoding. -/
theorem plain_of_mem_hex {t : Text} (h : ∀ c ∈ t, c ∈ ("0123456789abcdef" : Text)) : t.Plain := by
  have hall : ∀ c ∈ ("0123456789abcdef" : Text), c.isSurrogate = false := by decide
  exact fun c hc => hall c (h c hc)

theorem plain_hex (n width : Nat) : (hex n width).Plain :=
  plain_of_mem_hex (mem_hex n width)

end Text

namespace Sha256

theorem mem_hexDigest (bytes : List UInt8) : ∀ c ∈ hexDigest bytes, c ∈ ("0123456789abcdef" : Text) := by
  intro c hc
  obtain ⟨word, -, hword⟩ := List.mem_flatMap.mp hc
  exact Text.mem_hex _ _ c hword

theorem length_hexDigest (bytes : List UInt8) : (hexDigest bytes).length = 64 := by
  have hword (word : UInt32) : (Text.hex word.toNat 8).length = 8 :=
    Text.length_hex (by decide) word.toNat_lt
  rw [hexDigest, digest, Words.toList, List.length_flatMap]
  simp only [hword, List.map_cons, List.map_nil]
  rfl

end Sha256

/-! ## Parts of tokens -/

namespace Token

/-- A token that can stand in a path: it is not empty, and neither a dot nor a slash is in it. -/
structure Clean (tok : Text) : Prop where
  ne_nil : tok ≠ []
  dot : CodePoint.ofChar '.' ∉ tok
  slash : CodePoint.ofChar '/' ∉ tok

/-- The code points of tokens. -/
def isMark (c : CodePoint) : Bool :=
  c.isAsciiDigit || c.isAsciiLower

theorem isMark_bounds {c : CodePoint} (h : isMark c = true) : 0x30 ≤ c.val ∧ c.val ≤ 0x7A := by
  simp only [isMark, CodePoint.isAsciiDigit, CodePoint.isAsciiLower, Bool.or_eq_true, Bool.and_eq_true,
    decide_eq_true_eq] at h
  omega

/-- A token as they are made: a small letter, and then digits and small letters. -/
inductive Marked : Text → Prop
  | mk {c : CodePoint} {rest : Text} (hc : c.isAsciiLower = true) (hrest : ∀ d ∈ rest, isMark d = true) :
    Marked (c :: rest)

theorem Marked.marks {tok : Text} (h : Marked tok) : ∀ c ∈ tok, isMark c = true := by
  obtain ⟨hc, hrest⟩ := h
  refine List.forall_mem_cons.mpr ⟨?_, hrest⟩
  rw [isMark, hc, Bool.or_true]

theorem Marked.plain {tok : Text} (h : Marked tok) : tok.Plain := by
  intro c hc
  have hbounds := isMark_bounds (h.marks c hc)
  refine Bool.eq_false_iff.mpr fun hhalf => ?_
  have hlow : 0xD800 ≤ c.val := of_decide_eq_true (Bool.and_eq_true_iff.mp hhalf).1
  omega

theorem Marked.clean {tok : Text} (h : Marked tok) : Clean tok where
  ne_nil := by
    cases h
    exact List.cons_ne_nil _ _
  dot hdot := by cases h.marks _ hdot
  slash hslash := by cases h.marks _ hslash

theorem isMark_of_mem_hex {c : CodePoint} (h : c ∈ ("0123456789abcdef" : Text)) : isMark c = true := by
  have hall : ∀ d ∈ ("0123456789abcdef" : Text), isMark d = true := by decide
  exact hall c h

theorem isMark_hex (n width : Nat) : ∀ c ∈ Text.hex n width, isMark c = true :=
  fun c hc => isMark_of_mem_hex (Text.mem_hex n width c hc)

theorem isAsciiLower_letter (c : CodePoint) : (letter c).isAsciiLower = true := by
  have hall : ∀ n < 26, (CodePoint.ofNat (0x61 + n)).isAsciiLower = true := by decide
  exact hall (c.val % 26) (Nat.mod_lt _ (by decide))

theorem isAsciiLower_lead (key : Text) : ∀ c ∈ lead key, c.isAsciiLower = true := by
  intro c hc
  obtain ⟨d, -, rfl⟩ := List.mem_map.mp hc
  exact isAsciiLower_letter d

theorem length_lead (key : Text) : (lead key).length = prefixLength := by
  rw [lead, List.length_map, List.length_append, List.length_replicate, List.length_take]
  omega

/-- The digits of the token that is made from these bytes. -/
def digits (bytes : List UInt8) : Text :=
  (Sha256.hexDigest bytes).take digestLength

theorem mem_digits (bytes : List UInt8) : ∀ c ∈ digits bytes, c ∈ ("0123456789abcdef" : Text) :=
  fun c hc => Sha256.mem_hexDigest bytes c (List.mem_of_mem_take hc)

theorem length_digits (bytes : List UInt8) : (digits bytes).length = digestLength := by
  rw [digits, List.length_take, Sha256.length_hexDigest]
  rfl

end Token

/-! ## Tokens -/

open Token in
/-- There is a token just if there are bytes to digest, and then it is the letters of the key with the
digits of the digest behind them. -/
theorem token_eq_ok_iff {category : Category} {original key tok : Text} :
    token category original key = .ok tok ↔
      ∃ bytes, Utf8.encode (material category.name original key) = .ok bytes ∧
        tok = lead key ++ digits bytes := by
  rw [token, ofParts]
  cases Utf8.encode (material category.name original key) with
  | error fault => exact iff_of_false nofun nofun
  | ok bytes =>
    constructor
    · intro h
      exact ⟨bytes, rfl, (Except.ok.inj h).symm⟩
    · rintro ⟨_, hbytes, rfl⟩
      rw [← Except.ok.inj hbytes]
      rfl

theorem plain_material_iff (category : Category) {original key : Text} :
    (Token.material category.name original key).Plain ↔ original.Plain ∧ key.Plain := by
  have hcategory : category.name.Plain := by cases category <;> decide
  have hcolon : Text.Plain (":" : Text) := by decide
  simp only [Token.material, Text.Plain, List.forall_mem_append] at hcategory hcolon ⊢
  exact ⟨fun h => ⟨h.1.1.2, h.2⟩, fun h => ⟨⟨⟨⟨hcategory, hcolon⟩, h.1⟩, hcolon⟩, h.2⟩⟩

/-- There is a token for a name exactly if the name and the key are plain. -/
theorem exists_token_iff (category : Category) {original key : Text} :
    (∃ tok, token category original key = .ok tok) ↔ original.Plain ∧ key.Plain := by
  rw [← plain_material_iff category, ← Utf8.exists_encode_iff]
  constructor
  · rintro ⟨tok, h⟩
    obtain ⟨bytes, hbytes, -⟩ := token_eq_ok_iff.mp h
    exact ⟨bytes, hbytes⟩
  · rintro ⟨bytes, hbytes⟩
    exact ⟨_, token_eq_ok_iff.mpr ⟨bytes, hbytes, rfl⟩⟩

theorem marked_token {category : Category} {original key tok : Text}
    (h : token category original key = .ok tok) : Token.Marked tok := by
  obtain ⟨bytes, -, rfl⟩ := token_eq_ok_iff.mp h
  have hletters := Token.isAsciiLower_lead key
  obtain ⟨a, b, hlead⟩ := List.length_eq_two.mp (Token.length_lead key)
  rw [hlead] at hletters ⊢
  refine .mk (hletters a List.mem_cons_self) fun d hd => ?_
  rcases List.mem_cons.mp hd with rfl | hdigit
  · rw [Token.isMark, hletters d (List.mem_cons_of_mem a List.mem_cons_self), Bool.or_true]
  · exact Token.isMark_of_mem_hex (Token.mem_digits bytes d hdigit)

/-- Every token that is made can stand in a path. -/
theorem clean_token {category : Category} {original key tok : Text}
    (h : token category original key = .ok tok) : Token.Clean tok :=
  (marked_token h).clean

/-- A name that has a token is plain, and so is the token. -/
theorem plain_of_token {category : Category} {original key tok : Text}
    (h : token category original key = .ok tok) : original.Plain ∧ tok.Plain :=
  ⟨((exists_token_iff category).mp ⟨tok, h⟩).1, (marked_token h).plain⟩

/-! ## Sources of tokens -/

namespace Category

theorem colon_not_mem_name (category : Category) : CodePoint.ofChar ':' ∉ category.name := by
  cases category <;> decide

theorem eq_of_name_eq {a b : Category} (h : a.name = b.name) : a = b := by
  revert h
  cases a <;> cases b <;> decide

end Category

namespace Token

/-- What a token is made from. -/
@[ext]
structure Source where
  category : Category
  original : Text
  key : Text
deriving DecidableEq

namespace Source

def token (s : Source) : Except Utf8.EncodeFault Text :=
  VeiledGateway.token s.category s.original s.key

def material (s : Source) : Text :=
  Token.material s.category.name s.original s.key

/-- The bytes that are digested. -/
def bytes (s : Source) : Except Utf8.EncodeFault (List UInt8) :=
  Utf8.encode s.material

variable {s s' : Source}

theorem material_eq (s : Source) :
    s.material = s.category.name ++ CodePoint.ofChar ':' :: (s.original ++ CodePoint.ofChar ':' :: s.key) := by
  simp only [material, Token.material, List.append_assoc]
  rfl

/-- The first colon ends the category, and the last one the original. -/
theorem eq_of_material (hs : CodePoint.ofChar ':' ∉ s.key) (hs' : CodePoint.ofChar ':' ∉ s'.key)
    (h : s.material = s'.material) : s = s' := by
  rw [material_eq, material_eq] at h
  obtain ⟨hcategory, hrest⟩ := Text.eq_of_first_eq h s.category.colon_not_mem_name s'.category.colon_not_mem_name
  obtain ⟨horiginal, hkey⟩ := Text.eq_of_last_eq hrest hs hs'
  exact Source.ext (Category.eq_of_name_eq hcategory) horiginal hkey

-- A colon in the key could as well end the original.
example : material ⟨.elementId, "a:b", "c"⟩ = material ⟨.elementId, "a", "b:c"⟩ := by decide

/-- The bytes that are digested tell what a token is made from. -/
theorem eq_of_bytes (hs : CodePoint.ofChar ':' ∉ s.key) (hs' : CodePoint.ofChar ':' ∉ s'.key)
    {bytes : List UInt8} (h : s.bytes = .ok bytes) (h' : s'.bytes = .ok bytes) : s = s' :=
  eq_of_material hs hs' (Utf8.eq_of_encode h h')

end Source

/-- Two letters, and ten digits to the base sixteen. -/
structure Shaped (tok : Text) : Prop where
  length : tok.length = 12
  letters : ∀ c ∈ tok.take 2, c.isAsciiLower = true
  digits : ∀ c ∈ tok.drop 2, c ∈ ("0123456789abcdef" : Text)

theorem take_lead_append (key rest : Text) : (lead key ++ rest).take 2 = lead key :=
  List.take_left' (length_lead key)

theorem drop_lead_append (key rest : Text) : (lead key ++ rest).drop 2 = rest :=
  List.drop_left' (length_lead key)

theorem shaped_lead_append (key : Text) (bytes : List UInt8) : Shaped (lead key ++ digits bytes) where
  length := by
    rw [List.length_append, length_lead, length_digits]
    rfl
  letters := by
    rw [take_lead_append]
    exact isAsciiLower_lead key
  digits := by
    rw [drop_lead_append]
    exact mem_digits bytes

/-- The keys that are drawn for sessions have no colon. -/
theorem colon_not_mem_key (secrets : Secrets) : CodePoint.ofChar ':' ∉ (Record.draw secrets).1.key := by
  intro hmem
  have hdigit : CodePoint.ofChar ':' ∈ ("0123456789abcdef" : Text) := Text.mem_hex _ _ _ hmem
  revert hdigit
  decide

/-- Where original and key are made of scalar values there are bytes to digest, and a token of two
letters and the first ten digits of the digest.  If the keys have no colon, as no key has that is
drawn, the bytes tell what the token is made from; so two tokens that are made from different parts
have the same ten digits only where the digests of two different strings of bytes begin with them. -/
theorem tokens_namespaced :
    (∀ s : Source, s.original.IsScalar → s.key.IsScalar →
      ∃ bytes tok, s.bytes = .ok bytes ∧ s.token = .ok tok ∧ Shaped tok ∧
        tok.drop 2 = (Sha256.hexDigest bytes).take 10) ∧
    (∀ secrets : Secrets, CodePoint.ofChar ':' ∉ (Record.draw secrets).1.key) ∧
    (∀ s s' : Source, CodePoint.ofChar ':' ∉ s.key → CodePoint.ofChar ':' ∉ s'.key →
      ∀ bytes, s.bytes = .ok bytes → s'.bytes = .ok bytes → s = s') ∧
    ∀ s s' : Source, CodePoint.ofChar ':' ∉ s.key → CodePoint.ofChar ':' ∉ s'.key → s ≠ s' →
      ∀ tok tok', s.token = .ok tok → s'.token = .ok tok' → tok.drop 2 = tok'.drop 2 →
        ∃ bytes bytes', s.bytes = .ok bytes ∧ s'.bytes = .ok bytes' ∧ bytes ≠ bytes' ∧
          (Sha256.hexDigest bytes).take 10 = (Sha256.hexDigest bytes').take 10 := by
  refine ⟨fun s horiginal hkey => ?_, colon_not_mem_key, fun s s' hs hs' bytes => Source.eq_of_bytes hs hs',
    fun s s' hs hs' hne tok tok' htok htok' hsame => ?_⟩
  · obtain ⟨tok, htok⟩ := (exists_token_iff s.category).mpr
      ⟨Text.isScalar_iff_plain.mp horiginal, Text.isScalar_iff_plain.mp hkey⟩
    obtain ⟨bytes, hbytes, rfl⟩ := token_eq_ok_iff.mp htok
    exact ⟨bytes, _, hbytes, htok, shaped_lead_append s.key bytes, drop_lead_append _ _⟩
  · obtain ⟨bytes, hbytes, rfl⟩ := token_eq_ok_iff.mp htok
    obtain ⟨bytes', hbytes', rfl⟩ := token_eq_ok_iff.mp htok'
    rw [drop_lead_append, drop_lead_append] at hsame
    refine ⟨bytes, bytes', hbytes, hbytes', ?_, hsame⟩
    rintro rfl
    exact hne (Source.eq_of_bytes hs hs' hbytes hbytes')

/-- Two originals, with a colon in each, whose digests begin alike. -/
def collidingId : Source := ⟨.elementId, "a:172957", "0123456789abcdef0123456789abcdef"⟩

def collidingClass : Source := ⟨.className, "a:579294", "0123456789abcdef0123456789abcdef"⟩

/-- The token they share shows that the shortened digest does not keep their bytes apart.  With a key
that is a single colon there is a token too. -/
theorem shared_token_collides :
    (collidingId.token = .ok "wx4a38904a72" ∧ collidingClass.token = .ok "wx4a38904a72" ∧
      ∃ bytes bytes', collidingId.bytes = .ok bytes ∧ collidingClass.bytes = .ok bytes' ∧ bytes ≠ bytes' ∧
        (Sha256.hexDigest bytes).take 10 = (Sha256.hexDigest bytes').take 10) ∧
    ∃ tok, Source.token ⟨.link, "/a:b", ":"⟩ = .ok tok ∧ Shaped tok := by
  have hid : collidingId.token = .ok "wx4a38904a72" := by decide +kernel
  have hclass : collidingClass.token = .ok "wx4a38904a72" := by decide +kernel
  have hcollision := tokens_namespaced.2.2.2 collidingId collidingClass (by decide) (by decide) (by decide)
    _ _ hid hclass rfl
  obtain ⟨-, tok, -, htok, hshaped, -⟩ := tokens_namespaced.1 ⟨.link, "/a:b", ":"⟩ (by decide) (by decide)
  exact ⟨⟨hid, hclass, hcollision⟩, tok, htok, hshaped⟩

end Token

end VeiledGateway
