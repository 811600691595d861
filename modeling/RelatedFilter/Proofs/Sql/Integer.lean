/-
  RelatedFilter.Proofs.Sql.Integer

  Strings that look like integers.  The spellings of an integer are given by a
  grammar: at most one sign, and one or more digits, with as many zeros in front
  as one likes.  A string that spells an integer of 64 bits, signed or unsigned,
  becomes the number in its shortest spelling, and every other string stays the
  text that it is (`integers_are_recognised`).

  To ask for the grammar first and for the range afterwards is the same as to read
  a signed word and, if there is none, an unsigned one, digit by digit with a check
  at each (`integer?_eq_read?`): on its way to an integer of the range the reader
  meets no integer outside it.
-/
import RelatedFilter.Proofs.Sql.Literal
import Mathlib

namespace RelatedFilter.Sql

/-! ## Spellings -/

/-- One or more ASCII digits. -/
structure IsDigits (digits : List Char) : Prop where
  nonempty : digits ≠ []
  plain : ∀ c ∈ digits, c.isDigit = true

/-- The number that digits stand for. -/
def magnitude (digits : List Char) : Nat :=
  Nat.ofDigitChars 10 digits 0

/-- The spellings of an integer. -/
inductive Spells : List Char → Int → Prop
  | bare {digits : List Char} (h : IsDigits digits) : Spells digits (magnitude digits)
  | plus {digits : List Char} (h : IsDigits digits) : Spells ('+' :: digits) (magnitude digits)
  | minus {digits : List Char} (h : IsDigits digits) : Spells ('-' :: digits) (-magnitude digits)

/-- Whether a minus sign stands in front, and what stands behind the sign. -/
def splitSign : List Char → Bool × List Char
  | '-' :: digits => (true, digits)
  | '+' :: digits => (false, digits)
  | digits => (false, digits)

/-- A number, or the one opposite to it. -/
def withSign (negative : Bool) (n : Nat) : Int :=
  if negative then -n else n

@[simp] theorem withSign_false (n : Nat) : withSign false n = n := rfl

@[simp] theorem withSign_true (n : Nat) : withSign true n = -n := rfl

theorem isDigits_iff {digits : List Char} :
    IsDigits digits ↔ (digits.isEmpty || !digits.all Char.isDigit) = false := by
  simp only [Bool.or_eq_false_iff, List.isEmpty_eq_false_iff, Bool.not_eq_false', List.all_eq_true]
  exact ⟨fun h => ⟨h.nonempty, h.plain⟩, fun h => ⟨h.1, h.2⟩⟩

/-- A sign is no digit, so digits are not taken for a sign and digits behind it. -/
theorem splitSign_of_isDigits {digits : List Char} (h : IsDigits digits) :
    splitSign digits = (false, digits) := by
  unfold splitSign
  split
  · exact absurd (h.plain '-' List.mem_cons_self) (by decide)
  · exact absurd (h.plain '+' List.mem_cons_self) (by decide)
  · rfl

theorem spells_iff {text : List Char} {z : Int} :
    Spells text z ↔
      IsDigits (splitSign text).2 ∧ z = withSign (splitSign text).1 (magnitude (splitSign text).2) := by
  constructor
  · intro h
    cases h with
    | bare h =>
      rw [splitSign_of_isDigits h]
      exact ⟨h, rfl⟩
    | plus h => exact ⟨h, rfl⟩
    | minus h => exact ⟨h, rfl⟩
  · rintro ⟨h, rfl⟩
    unfold splitSign at h ⊢
    split at h
    · exact .minus h
    · exact .plus h
    · exact .bare h

/-- A text spells one integer at most. -/
theorem Spells.unique {text : List Char} {y z : Int} (hy : Spells text y) (hz : Spells text z) :
    y = z := by
  rw [(spells_iff.mp hy).2, (spells_iff.mp hz).2]

/-! ## The shortest spelling -/

/-- More digits make no number smaller. -/
theorem le_ofDigitChars (n : Nat) (digits : List Char) : n ≤ Nat.ofDigitChars 10 digits n := by
  induction digits generalizing n with
  | nil => exact Nat.le_refl n
  | cons c rest ih =>
    rw [Nat.ofDigitChars_cons]
    have hrest := ih (10 * n + (c.toNat - '0'.toNat))
    omega

theorem ofDigitChars_lt {digits : List Char} (h : ∀ c ∈ digits, c.isDigit = true) (n : Nat) :
    Nat.ofDigitChars 10 digits n < 10 ^ digits.length * (n + 1) := by
  induction digits generalizing n with
  | nil => simp
  | cons c rest ih =>
    obtain ⟨hc, hrest⟩ := List.forall_mem_cons.mp h
    have hdigit : c.toNat - '0'.toNat ≤ 9 := by
      simp only [Char.isDigit, Bool.and_eq_true, decide_eq_true_eq, UInt32.le_iff_toNat_le] at hc
      have hnine : c.toNat ≤ 57 := hc.2
      have hzero : '0'.toNat = 48 := rfl
      omega
    rw [Nat.ofDigitChars_cons, List.length_cons]
    calc Nat.ofDigitChars 10 rest (10 * n + (c.toNat - '0'.toNat))
        < 10 ^ rest.length * (10 * n + (c.toNat - '0'.toNat) + 1) := ih hrest _
      _ ≤ 10 ^ rest.length * (10 * (n + 1)) := Nat.mul_le_mul_left _ (by omega)
      _ = 10 ^ (rest.length + 1) * (n + 1) := by ring

/-- The decimal of a number has no more digits than any that stand for it. -/
theorem length_repr_magnitude_le {digits : List Char} (h : IsDigits digits) :
    (magnitude digits).repr.toList.length ≤ digits.length := by
  have hpos : 0 < digits.length := List.length_pos_iff.mpr h.nonempty
  have hlt : magnitude digits < 10 ^ digits.length := by
    have hbound := ofDigitChars_lt h.plain 0
    rwa [Nat.zero_add, Nat.mul_one] at hbound
  rw [Nat.toList_repr]
  exact Nat.toDigits_length 10 _ _ hpos hlt

theorem toList_toString_natCast (n : Nat) : (toString (n : Int)).toList = n.repr.toList := rfl

theorem isDigits_repr (n : Nat) : IsDigits n.repr.toList := by
  refine ⟨?_, fun c hc => isDigit_of_mem_repr hc⟩
  rw [Nat.toList_repr]
  exact Nat.toDigits_ne_nil

theorem magnitude_repr (n : Nat) : magnitude n.repr.toList = n := by
  rw [magnitude, Nat.toList_repr]
  exact Nat.ofDigitChars_ten_toDigits

/-- The decimal of an integer is one of its spellings. -/
theorem spells_toString (z : Int) : Spells (toString z).toList z := by
  cases z with
  | ofNat n =>
    have hbare := Spells.bare (isDigits_repr n)
    rwa [magnitude_repr] at hbare
  | negSucc n =>
    have hminus := Spells.minus (isDigits_repr (n + 1))
    rwa [magnitude_repr, ← toList_toString_negSucc] at hminus

/-- No spelling is shorter: it would lack a digit, and signs and zeros in front
    only make it longer. -/
theorem length_toString_le {text : List Char} {z : Int} (h : Spells text z) :
    (toString z).toList.length ≤ text.length := by
  cases h with
  | bare h => exact length_repr_magnitude_le h
  | @plus digits h =>
    have hdigits := length_repr_magnitude_le h
    rw [toList_toString_natCast, List.length_cons]
    omega
  | @minus digits h =>
    have hdigits := length_repr_magnitude_le h
    cases hn : magnitude digits with
    | zero =>
      -- zero has no sign
      rw [hn] at hdigits
      show (Nat.repr 0).toList.length ≤ digits.length + 1
      omega
    | succ n =>
      rw [hn] at hdigits
      have hneg : (-((n + 1 : Nat) : Int)) = Int.negSucc n := rfl
      rw [hneg, toList_toString_negSucc, List.length_cons, List.length_cons]
      omega

/-! ## Integers of 64 bits -/

/-- An integer that a signed or an unsigned word of 64 bits can hold. -/
def IsWord (z : Int) : Prop :=
  -2 ^ 63 ≤ z ∧ z ≤ 2 ^ 64 - 1

instance (z : Int) : Decidable (IsWord z) := inferInstanceAs (Decidable (_ ∧ _))

theorem integer?_eq_splitSign (text : List Char) :
    integer? text =
      if (splitSign text).2.isEmpty || !(splitSign text).2.all Char.isDigit then none
      else if IsWord (withSign (splitSign text).1 (magnitude (splitSign text).2))
        then some (withSign (splitSign text).1 (magnitude (splitSign text).2)) else none := by
  fun_cases splitSign text with
  | case1 digits => rfl
  | case2 digits => rfl
  | case3 _ hminus hplus =>
    unfold integer?
    split
    rename_i negative digits hsign
    split at hsign
    · exact absurd rfl (hminus _)
    · exact absurd rfl (hplus _)
    · cases hsign
      rfl

theorem integer?_eq_some_iff {text : List Char} {z : Int} :
    integer? text = some z ↔ Spells text z ∧ IsWord z := by
  rw [integer?_eq_splitSign, spells_iff, isDigits_iff]
  cases ((splitSign text).2.isEmpty || !(splitSign text).2.all Char.isDigit) with
  | true => simp
  | false =>
    simp only [Bool.false_eq_true, if_false, Option.ite_none_right_eq_some, Option.some.injEq,
      true_and]
    constructor
    · rintro ⟨hword, rfl⟩
      exact ⟨rfl, hword⟩
    · rintro ⟨rfl, hword⟩
      exact ⟨hword, rfl⟩

/-! ## Words read digit by digit -/

/-- The integers that a machine word can hold. -/
structure WordRange where
  low : Int
  high : Int
deriving DecidableEq, Repr

namespace WordRange

/-- Words of 64 bits with a sign. -/
def signed : WordRange := ⟨-2 ^ 63, 2 ^ 63 - 1⟩

/-- Words of 64 bits without a sign. -/
def unsigned : WordRange := ⟨0, 2 ^ 64 - 1⟩

def Holds (w : WordRange) (z : Int) : Prop :=
  w.low ≤ z ∧ z ≤ w.high

instance (w : WordRange) (z : Int) : Decidable (w.Holds z) := inferInstanceAs (Decidable (_ ∧ _))

/-- Puts digits behind those of an integer, away from zero.  There is no result if
    a product or a sum on the way is not in the range. -/
def extend? (w : WordRange) (negative : Bool) : Int → List Char → Option Int
  | z, [] => some z
  | z, c :: rest =>
    let digit : Int := (c.toNat - '0'.toNat : Nat)
    let next := if negative then 10 * z - digit else 10 * z + digit
    if c.isDigit ∧ w.Holds (10 * z) ∧ w.Holds next then w.extend? negative next rest else none

/-- The word that a text spells.  A minus sign is for words that can be negative. -/
def read? (w : WordRange) (text : List Char) : Option Int :=
  let (negative, digits) := splitSign text
  if digits = [] ∨ (negative ∧ 0 ≤ w.low) then none else w.extend? negative 0 digits

variable {w : WordRange}

/-- What lies between zero and an integer of the range is in the range. -/
theorem Holds.of_le {negative : Bool} {m n : Nat} (h : w.Holds (withSign negative n))
    (hzero : w.Holds 0) (hmn : m ≤ n) : w.Holds (withSign negative m) := by
  obtain ⟨hlow, hhigh⟩ := hzero
  obtain ⟨hlow', hhigh'⟩ := h
  cases negative with
  | false =>
    rw [withSign_false] at *
    exact ⟨by omega, by omega⟩
  | true =>
    rw [withSign_true] at *
    exact ⟨by omega, by omega⟩

/-- The checks at each digit come to one check at the end. -/
theorem extend?_eq_some_iff (hzero : w.Holds 0) {negative : Bool} {digits : List Char} {n : Nat}
    {z : Int} (hn : w.Holds (withSign negative n)) :
    w.extend? negative (withSign negative n) digits = some z ↔
      (∀ c ∈ digits, c.isDigit = true) ∧ z = withSign negative (Nat.ofDigitChars 10 digits n)
        ∧ w.Holds z := by
  induction digits generalizing n with
  | nil =>
    rw [extend?, Option.some.injEq, Nat.ofDigitChars_nil]
    constructor
    · rintro rfl
      exact ⟨nofun, rfl, hn⟩
    · rintro ⟨-, rfl, -⟩
      rfl
  | cons c rest ih =>
    have hproduct : 10 * withSign negative n = withSign negative (10 * n) := by
      cases negative <;> simp
    have hsum : (if negative then 10 * withSign negative n - ((c.toNat - '0'.toNat : Nat) : Int)
        else 10 * withSign negative n + ((c.toNat - '0'.toNat : Nat) : Int))
          = withSign negative (10 * n + (c.toNat - '0'.toNat)) := by
      cases negative with
      | false => simp
      | true =>
        simp only [if_true, withSign_true]
        push_cast
        ring
    rw [extend?]
    simp only [hsum]
    rw [hproduct, Nat.ofDigitChars_cons, List.forall_mem_cons]
    constructor
    · intro h
      rw [Option.ite_none_right_eq_some] at h
      obtain ⟨⟨hdigit, -, hnext⟩, h⟩ := h
      obtain ⟨hrest, hz, hholds⟩ := (ih hnext).mp h
      exact ⟨⟨hdigit, hrest⟩, hz, hholds⟩
    · rintro ⟨⟨hdigit, hrest⟩, rfl, hholds⟩
      -- every integer on the way lies between zero and the one that is read
      have hnext : w.Holds (withSign negative (10 * n + (c.toNat - '0'.toNat))) :=
        hholds.of_le hzero (le_ofDigitChars _ rest)
      have hten : w.Holds (withSign negative (10 * n)) := hnext.of_le hzero (Nat.le_add_right _ _)
      rw [if_pos ⟨hdigit, hten, hnext⟩]
      exact (ih hnext).mpr ⟨hrest, rfl, hholds⟩

/-- A word is read from the spellings of the integers that it can hold. -/
theorem read?_eq_some_iff (hzero : w.Holds 0) {text : List Char} {z : Int} :
    w.read? text = some z ↔
      Spells text z ∧ w.Holds z ∧ ((splitSign text).1 = true → w.low < 0) := by
  have hstart : withSign (splitSign text).1 0 = 0 := by cases (splitSign text).1 <;> rfl
  have hextend : w.extend? (splitSign text).1 (withSign (splitSign text).1 0) (splitSign text).2
      = some z ↔ _ := extend?_eq_some_iff hzero (by rw [hstart]; exact hzero)
  rw [hstart] at hextend
  rw [read?, spells_iff]
  simp only [Option.ite_none_left_eq_some, not_or, not_and, not_le, hextend]
  constructor
  · rintro ⟨⟨hne, hsign⟩, hdigits, hz, hholds⟩
    exact ⟨⟨⟨hne, hdigits⟩, hz⟩, hholds, hsign⟩
  · rintro ⟨⟨⟨hne, hdigits⟩, hz⟩, hholds, hsign⟩
    exact ⟨⟨hne, hsign⟩, hdigits, hz, hholds⟩

theorem signed_read?_eq_some_iff {text : List Char} {z : Int} :
    signed.read? text = some z ↔ Spells text z ∧ signed.Holds z := by
  have hlow : signed.low < 0 := by decide
  rw [read?_eq_some_iff (by decide)]
  simp [hlow]

/-- No spelling with a minus sign is that of an unsigned word, not even one of zero. -/
theorem unsigned_read?_eq_some_iff {text : List Char} {z : Int} :
    unsigned.read? text = some z ↔
      Spells text z ∧ unsigned.Holds z ∧ (splitSign text).1 = false := by
  have hlow : ¬ unsigned.low < 0 := by decide
  rw [read?_eq_some_iff (by decide)]
  simp [hlow]

end WordRange

open WordRange in
/-- Between the integers of signed words and those of unsigned words there is no gap. -/
theorem integer?_eq_read? (text : List Char) :
    integer? text = (signed.read? text).or (unsigned.read? text) := by
  refine Option.ext fun z => ?_
  rw [integer?_eq_some_iff, Option.or_eq_some_iff, signed_read?_eq_some_iff,
    unsigned_read?_eq_some_iff]
  constructor
  · rintro ⟨hspells, hlow, hhigh⟩
    by_cases hsigned : z ≤ 2 ^ 63 - 1
    · exact .inl ⟨hspells, hlow, hsigned⟩
    · -- above the signed words there is no minus sign
      have hsign : (splitSign text).1 = false := by
        rw [Bool.eq_false_iff]
        intro hminus
        have hz := (spells_iff.mp hspells).2
        rw [hminus, withSign_true] at hz
        omega
      have hnone : signed.read? text = none := by
        rw [Option.eq_none_iff_forall_ne_some]
        intro y hy
        obtain ⟨hy, -, hsmall⟩ := signed_read?_eq_some_iff.mp hy
        exact hsigned (hspells.unique hy ▸ hsmall)
      exact .inr ⟨hnone, hspells, ⟨by show (0 : Int) ≤ z; omega, hhigh⟩, hsign⟩
  · rintro (⟨hspells, hlow, hhigh⟩ | ⟨-, hspells, ⟨hlow, hhigh⟩, -⟩)
    · refine ⟨hspells, hlow, ?_⟩
      have hmax : signed.high = 2 ^ 63 - 1 := rfl
      omega
    · refine ⟨hspells, ?_, hhigh⟩
      have hmin : unsigned.low = 0 := rfl
      omega

/-! ## Literals -/

/-- The string spells an integer of 64 bits. -/
def Denotes (s : String) (z : Int) : Prop :=
  Spells s.toList z ∧ IsWord z

theorem ofString_eq_number {s : String} {z : Int} (h : Denotes s z) :
    Literal.ofString s = .number (toString z) := by
  rw [Literal.ofString, integer?_eq_some_iff.mpr h]

theorem ofString_eq_text {s : String} (h : ∀ z, ¬ Denotes s z) :
    Literal.ofString s = .text s := by
  have hnone : integer? s.toList = none := by
    rw [Option.eq_none_iff_forall_ne_some]
    intro z hz
    exact h z (integer?_eq_some_iff.mp hz)
  rw [Literal.ofString, hnone]

theorem denotes_toString {z : Int} (h : IsWord z) : Denotes (toString z) z :=
  ⟨spells_toString z, h⟩

/-- How a string that denotes an integer is written. -/
structure WrittenAs (s : String) (z : Int) : Prop where
  literal : Literal.ofJson (.string s) = .number (toString z)
  /-- As the number itself is. -/
  bare : (Literal.ofJson (.string s)).sql = (Literal.ofJson (.number (.integer z))).sql
  /-- In the shortest of all spellings. -/
  shortest : Spells (toString z).toList z ∧
    ∀ text, Spells text z → (toString z).toList.length ≤ text.length
  /-- What is written gives the same literal again. -/
  stable : Literal.ofJson (.string (Literal.ofJson (.string s)).sql) = Literal.ofJson (.string s)
  /-- Strings are written alike exactly if they denote the same integer. -/
  alike : ∀ t y, Denotes t y →
    ((Literal.ofJson (.string t)).sql = (Literal.ofJson (.string s)).sql ↔ y = z)

theorem writtenAs_of_denotes {s : String} {z : Int} (h : Denotes s z) : WrittenAs s z := by
  have hs : Literal.ofJson (.string s) = .number (toString z) := ofString_eq_number h
  refine ⟨hs, ?bare, ⟨spells_toString z, fun _ => length_toString_le⟩, ?stable, ?alike⟩
  case bare => rw [hs]; rfl
  case stable =>
    rw [hs]
    exact ofString_eq_number (denotes_toString h.2)
  case alike =>
    intro t y ht
    have htext : Literal.ofJson (.string t) = .number (toString y) := ofString_eq_number ht
    rw [hs, htext]
    show y.repr = z.repr ↔ y = z
    exact Int.repr_inj

open WordRange in
/-- A string is a number exactly if it spells an integer of 64 bits; with or without
    a sign, the words agree on what it spells. -/
theorem integers_are_recognised (s : String) :
    (∀ z, Denotes s z → WrittenAs s z)
      ∧ ((∀ z, ¬ Denotes s z) → Literal.ofJson (.string s) = .text s)
      ∧ integer? s.toList = (signed.read? s.toList).or (unsigned.read? s.toList)
      ∧ ∀ y z, signed.read? s.toList = some y → unsigned.read? s.toList = some z → y = z := by
  refine ⟨fun z => writtenAs_of_denotes, ofString_eq_text, integer?_eq_read? _, ?_⟩
  intro y z hy hz
  exact (signed_read?_eq_some_iff.mp hy).1.unique (unsigned_read?_eq_some_iff.mp hz).1

/-- Behind the last signed word come unsigned ones; zero needs no sign, and behind
    the last unsigned word there is only text. -/
theorem integers_are_recognised_at_bounds :
    WrittenAs "+0018446744073709551615" (2 ^ 64 - 1) ∧ WrittenAs "-0" 0
      ∧ Literal.ofJson (.string "18446744073709551616") = .text "18446744073709551616" := by
  have hmax : Denotes "+0018446744073709551615" (2 ^ 64 - 1) :=
    ⟨spells_iff.mpr ⟨isDigits_iff.mpr (by decide +kernel), by decide +kernel⟩, by decide +kernel⟩
  have hzero : Denotes "-0" 0 :=
    ⟨spells_iff.mpr ⟨isDigits_iff.mpr (by decide +kernel), by decide +kernel⟩, by decide +kernel⟩
  have hover : ∀ z, ¬ Denotes "18446744073709551616" z := by
    rintro z ⟨hspells, hword⟩
    have hz : z = 2 ^ 64 := (spells_iff.mp hspells).2.trans (by decide +kernel)
    rw [hz] at hword
    exact absurd hword (by decide +kernel)
  exact ⟨(integers_are_recognised _).1 _ hmax, (integers_are_recognised _).1 _ hzero,
    (integers_are_recognised _).2.1 hover⟩

end RelatedFilter.Sql
