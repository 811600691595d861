/-
  RelatedFilter.Proofs.Text.Octets

  Text by its octets in UTF-8.  Texts are compared by code points, and storage
  that holds them as octets compares octets: both orders are the same
  (`octets_lt_octets_iff`).

  A character takes a leading octet and up to three trailing ones, each of them
  with six of its bits.  Of two characters that take as many octets the first
  difference decides, and one that takes more of them starts with a greater one.
-/
import RelatedFilter.Relationship
import Mathlib.Algebra.Group.Nat.Defs

namespace RelatedFilter.Text

/-- The octets of a text in UTF-8. -/
def octets (s : String) : List UInt8 := s.toUTF8.data.toList

theorem octets_eq_flatMap (s : String) : octets s = s.toList.flatMap String.utf8EncodeChar := by
  rw [octets, String.toUTF8_eq_toByteArray, ← String.utf8Encode_toList, List.utf8Encode,
    List.toList_data_toByteArray]

theorem octets_append (s t : String) : octets (s ++ t) = octets s ++ octets t := by
  simp only [octets_eq_flatMap, String.toList_append, List.flatMap_append]

theorem octets_ofList (chars : List Char) :
    octets (String.ofList chars) = chars.flatMap String.utf8EncodeChar := by
  rw [octets_eq_flatMap, String.toList_ofList]

/-- The octets of an array from an index on, behind those that were passed. -/
theorem toList_loop_eq (bs : ByteArray) (i : Nat) (passed : List UInt8) :
    ByteArray.toList.loop bs i passed = passed.reverse ++ bs.data.toList.drop i := by
  fun_induction ByteArray.toList.loop bs i passed with
  | case1 i passed hlt ih =>
    have hi : i < bs.data.toList.length := hlt
    have hget : bs.get! i = bs.data.toList[i] := getElem!_pos bs.data i hlt
    rw [ih, List.drop_eq_getElem_cons hi, hget]
    simp
  | case2 i passed hge =>
    have hlength : bs.data.toList.length ≤ i := Nat.le_of_not_lt hge
    rw [List.drop_eq_nil_of_le hlength, List.append_nil]

theorem toList_byteArray (bs : ByteArray) : bs.toList = bs.data.toList := by
  rw [ByteArray.toList, toList_loop_eq]
  rfl

theorem toList_toUTF8 (s : String) : s.toUTF8.toList = octets s :=
  toList_byteArray _

/-- Octets are text if they are the octets of a text. -/
theorem fromUTF8?_eq_some_iff {os : List UInt8} {s : String} :
    String.fromUTF8? ⟨os.toArray⟩ = some s ↔ os = octets s := by
  constructor
  · intro h
    rw [String.fromUTF8?] at h
    split at h
    · cases h
      rfl
    · cases h
  · rintro rfl
    exact dif_pos s.isValidUTF8

/-! ## The octets of a character -/

/-- How many octets follow the leading one of a code point. -/
def trailingCount (v : Nat) : Nat :=
  if v ≤ 127 then 0 else if v ≤ 2047 then 1 else if v ≤ 65535 then 2 else 3

/-- What a leading octet is marked with if `count` octets follow. -/
def leadingMark (count : Nat) : Nat :=
  match count with
  | 0 => 0
  | 1 => 192
  | 2 => 224
  | _ => 240

/-- The leading octet: the highest bits of a code point under the mark. -/
def leading (v : Nat) : Nat :=
  v / 64 ^ trailingCount v + leadingMark (trailingCount v)

/-- The `count` octets for the lowest bits of a code point. -/
def trailing (v : Nat) : Nat → List UInt8
  | 0 => []
  | count + 1 => UInt8.ofNat (v / 64 ^ count % 64 + 128) :: trailing v count

theorem toNat_lt (c : Char) : c.toNat < 1114112 := by
  rcases c.valid with h | ⟨-, h⟩ <;> simp only [Char.toNat] <;> omega

theorem utf8EncodeChar_eq (c : Char) :
    String.utf8EncodeChar c
      = UInt8.ofNat (leading c.toNat) :: trailing c.toNat (trailingCount c.toNat) := by
  have hbound := toNat_lt c
  simp only [String.utf8EncodeChar, Char.toNat_val, leading, trailingCount]
  -- the masks of the leading octet leave the bits of a code point as they are
  split
  · simp [trailing, leadingMark]
  · split
    · rw [Nat.mod_eq_of_lt (by omega : c.toNat / 64 < 32)]
      simp [trailing, leadingMark]
    · split
      · rw [Nat.mod_eq_of_lt (by omega : c.toNat / 4096 < 16)]
        simp [trailing, leadingMark]
      · rw [Nat.mod_eq_of_lt (by omega : c.toNat / 262144 < 8)]
        simp [trailing, leadingMark]

/-- How the leading octets lie for each number of octets to follow. -/
theorem leading_cases (v : Nat) :
    trailingCount v = 0 ∧ v ≤ 127 ∧ leading v = v ∨
      trailingCount v = 1 ∧ 127 < v ∧ v ≤ 2047 ∧ leading v = v / 64 + 192 ∨
      trailingCount v = 2 ∧ 2047 < v ∧ v ≤ 65535 ∧ leading v = v / 4096 + 224 ∨
      trailingCount v = 3 ∧ 65535 < v ∧ leading v = v / 262144 + 240 := by
  by_cases h0 : v ≤ 127
  · simp [leading, leadingMark, trailingCount, h0]
  · by_cases h1 : v ≤ 2047
    · simp [leading, leadingMark, trailingCount, h0, h1]
      omega
    · by_cases h2 : v ≤ 65535
      · simp [leading, leadingMark, trailingCount, h0, h1, h2]
        omega
      · simp [leading, leadingMark, trailingCount, h0, h1, h2]
        omega

theorem le_of_mem_trailing {v count : Nat} {b : UInt8} (hb : b ∈ trailing v count) :
    128 ≤ b.toNat := by
  induction count with
  | zero => cases hb
  | succ count ih =>
    rw [trailing, List.mem_cons] at hb
    rcases hb with rfl | hb
    · rw [UInt8.toNat_ofNat']
      omega
    · exact ih hb

/-- No octet of another character is that of an ASCII character. -/
theorem le_of_mem_utf8EncodeChar {c : Char} (h : 128 ≤ c.toNat) {b : UInt8}
    (hb : b ∈ String.utf8EncodeChar c) : 128 ≤ b.toNat := by
  rw [utf8EncodeChar_eq, List.mem_cons] at hb
  rcases hb with rfl | hb
  · have hcases := leading_cases c.toNat
    have hbound := toNat_lt c
    rw [UInt8.toNat_ofNat']
    omega
  · exact le_of_mem_trailing hb

/-! ## The order -/

/-- Where two texts of octets differ for the first time, the smaller octet decides. -/
theorem ofNat_cons_lt {a b : Nat} {s t : List UInt8} (hb : b < 256)
    (h : a < b ∨ a = b ∧ s < t) : UInt8.ofNat a :: s < UInt8.ofNat b :: t := by
  rw [List.cons_lt_cons_iff]
  rcases h with hlt | ⟨rfl, hrest⟩
  · have ha : a < 256 := by omega
    exact .inl ((UInt8.ofNat_lt_iff_lt ha hb).mpr hlt)
  · exact .inr ⟨rfl, hrest⟩

/-- Code points that agree above the bits of their trailing octets are told apart by
    these octets. -/
theorem trailing_lt {v w : Nat} (h : v < w) (s t : List UInt8) (count : Nat)
    (heq : v / 64 ^ count = w / 64 ^ count) :
    trailing v count ++ s < trailing w count ++ t := by
  induction count with
  | zero => simp at heq; omega
  | succ count ih =>
    simp only [trailing, List.cons_append]
    have hhigh : v / 64 ^ count / 64 = w / 64 ^ count / 64 := by
      rwa [Nat.div_div_eq_div_mul, Nat.div_div_eq_div_mul, ← Nat.pow_succ]
    have hle : v / 64 ^ count ≤ w / 64 ^ count := Nat.div_le_div_right (Nat.le_of_lt h)
    apply ofNat_cons_lt (by omega)
    by_cases hdigit : v / 64 ^ count = w / 64 ^ count
    · exact .inr ⟨by rw [hdigit], ih hdigit⟩
    · exact .inl (by omega)

/-- With more octets to follow, the leading one is greater. -/
theorem leading_lt {v w : Nat} (h : v < w) (hne : trailingCount v ≠ trailingCount w) :
    leading v < leading w := by
  have hv := leading_cases v
  have hw := leading_cases w
  omega

/-- A smaller character has the smaller octets, whatever follows them. -/
theorem utf8EncodeChar_lt {c d : Char} (h : c < d) (s t : List UInt8) :
    String.utf8EncodeChar c ++ s < String.utf8EncodeChar d ++ t := by
  have hlt : c.toNat < d.toNat := h
  have hbound : leading d.toNat < 256 := by
    have hd := toNat_lt d
    have hcases := leading_cases d.toNat
    omega
  rw [utf8EncodeChar_eq, utf8EncodeChar_eq, List.cons_append, List.cons_append]
  apply ofNat_cons_lt hbound
  by_cases hcount : trailingCount c.toNat = trailingCount d.toNat
  · simp only [leading, hcount]
    have hle : c.toNat / 64 ^ trailingCount d.toNat ≤ d.toNat / 64 ^ trailingCount d.toNat :=
      Nat.div_le_div_right (Nat.le_of_lt hlt)
    rcases Nat.lt_or_eq_of_le hle with hhigh | hhigh
    · exact .inl (by omega)
    · exact .inr ⟨by rw [hhigh], trailing_lt hlt s t _ hhigh⟩
  · exact .inl (leading_lt hlt hcount)

/-- The first difference between two texts is the first one between their octets. -/
theorem flatMap_utf8EncodeChar_lt {cs ds : List Char} (h : List.Lex (· < ·) cs ds) :
    cs.flatMap String.utf8EncodeChar < ds.flatMap String.utf8EncodeChar := by
  induction h with
  | @nil d ds =>
    rw [List.flatMap_nil, List.flatMap_cons]
    cases hoctets : String.utf8EncodeChar d with
    | nil => exact absurd hoctets String.utf8EncodeChar_ne_nil
    | cons x xs => exact List.nil_lt_cons _ _
  | @rel c cs d ds hlt =>
    rw [List.flatMap_cons, List.flatMap_cons]
    exact utf8EncodeChar_lt hlt _ _
  | @cons c cs ds hrest ih =>
    rw [List.flatMap_cons, List.flatMap_cons]
    exact List.append_left_lt ih

theorem octets_lt_octets {s t : String} (h : s < t) : octets s < octets t := by
  rw [octets_eq_flatMap, octets_eq_flatMap]
  exact flatMap_utf8EncodeChar_lt (String.lt_iff.mp h)

/-- The order of texts is the order of their octets. -/
theorem octets_lt_octets_iff {s t : String} : octets s < octets t ↔ s < t := by
  refine ⟨fun h => ?_, octets_lt_octets⟩
  rcases Relationship.Key.text_trichotomy s t with hlt | rfl | hgt
  · exact hlt
  · exact absurd h (List.lt_irrefl _)
  · exact absurd h (List.lt_asymm (octets_lt_octets hgt))

/-- A text is told by its octets. -/
theorem octets_inj {s t : String} : octets s = octets t ↔ s = t := by
  refine ⟨fun h => ?_, fun h => by rw [h]⟩
  rcases Relationship.Key.text_trichotomy s t with hlt | heq | hgt
  · exact absurd (octets_lt_octets_iff.mpr hlt) (h ▸ List.lt_irrefl _)
  · exact heq
  · exact absurd (octets_lt_octets_iff.mpr hgt) (h ▸ List.lt_irrefl _)

end RelatedFilter.Text
