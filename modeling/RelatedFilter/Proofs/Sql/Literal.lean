/-
  RelatedFilter.Proofs.Sql.Literal

  The SQL text of a literal is one token, from which the literal can be read
  back.  For numbers this says that their text is a numeral: a digit or a sign
  comes first, and nothing but digits, points, exponents and signs follows,
  whatever the bits of a double are.
-/
import RelatedFilter.Proofs.Decimal.Shortest
import RelatedFilter.Proofs.Sql.Syntax

namespace RelatedFilter.Sql

/-! ## The text of numbers -/

theorem isNumeralChar_of_isDigit {c : Char} (h : c.isDigit = true) : isNumeralChar c = true := by
  simp [isNumeralChar, h]

theorem isDigit_of_mem_repr {n : Nat} {c : Char} (h : c ∈ n.repr.toList) : c.isDigit = true := by
  rw [Nat.toList_repr] at h
  exact Nat.isDigit_of_mem_toDigits (by decide) (by decide) h

/-- Digits make a numeral. -/
theorem IsNumeral.of_digits {digits : List Char} (hne : digits ≠ [])
    (h : ∀ c ∈ digits, c.isDigit = true) : IsNumeral digits := by
  obtain ⟨c, rest, rfl⟩ := List.exists_cons_of_ne_nil hne
  refine ⟨by simp [isBareStart, h c List.mem_cons_self], ?_⟩
  rw [List.all_eq_true]
  exact fun d hd => isNumeralChar_of_isDigit (h d hd)

/-- A sign may stand in front of a numeral. -/
theorem IsNumeral.signed {digits : List Char} (h : IsNumeral digits) (negative : Bool) :
    IsNumeral ((if negative then ['-'] else []) ++ digits) := by
  cases negative with
  | false => exact h
  | true => exact ⟨rfl, by simpa [show isNumeralChar '-' = true from rfl] using h.plain⟩

/-- More characters of numerals may stand behind a numeral. -/
theorem IsNumeral.append {digits more : List Char} (h : IsNumeral digits)
    (hmore : ∀ c ∈ more, isNumeralChar c = true) : IsNumeral (digits ++ more) := by
  obtain ⟨hfirst, hplain⟩ := h
  cases digits with
  | nil => simp at hfirst
  | cons c rest =>
    refine ⟨hfirst, ?_⟩
    rw [List.all_append, hplain, List.all_eq_true.mpr hmore]
    rfl

theorem isNumeral_repr_nat (n : Nat) : IsNumeral n.repr.toList :=
  .of_digits (by rw [Nat.toList_repr]; exact Nat.toDigits_ne_nil) fun _ => isDigit_of_mem_repr

theorem toList_toString_negSucc (n : Nat) :
    (toString (Int.negSucc n)).toList = '-' :: (n + 1).repr.toList := by
  show ("-" ++ (n + 1).repr).toList = _
  simp

theorem isNumeral_toString_int (z : Int) : IsNumeral (toString z).toList := by
  cases z with
  | ofNat n => exact isNumeral_repr_nat n
  | negSucc n =>
    rw [toList_toString_negSucc]
    exact (isNumeral_repr_nat (n + 1)).signed true

/-- The positional form starts with a digit: a zero is put in front of a point
    that comes first. -/
theorem isNumeral_positional {digits : List Char} (point : Int)
    (h : ∀ c ∈ digits, c.isDigit = true) : IsNumeral (positional digits point) := by
  have hdigits : ∀ c ∈ digits, isNumeralChar c = true := fun c hc =>
    isNumeralChar_of_isDigit (h c hc)
  have hzeros : ∀ n : Nat, ∀ c ∈ List.replicate n '0', c.isDigit = true := by
    intro n c hc
    rw [List.eq_of_mem_replicate hc]
    rfl
  unfold positional
  split
  · -- all digits stand behind the point
    have hfirst : IsNumeral ['0', '.'] := ⟨rfl, rfl⟩
    have hleading := hfirst.append fun c hc =>
      isNumeralChar_of_isDigit (hzeros (-point).toNat c hc)
    exact hleading.append hdigits
  · split
    · -- all digits stand in front of the point
      have hpoint : ∀ c ∈ ['.', '0'], isNumeralChar c = true := by
        simp only [List.forall_mem_cons]
        exact ⟨rfl, rfl, nofun⟩
      refine IsNumeral.append (.of_digits ?_ fun c hc => ?_) hpoint
      · rw [← List.length_pos_iff, List.length_append, List.length_replicate]
        omega
      · exact (List.mem_append.mp hc).elim (h c) (hzeros _ c)
    · -- the point stands among the digits
      refine IsNumeral.append (.of_digits ?_ fun c hc => h c (List.mem_of_mem_take hc))
        fun c hc => ?_
      · rw [← List.length_pos_iff, List.length_take]
        omega
      · rcases List.mem_cons.mp hc with rfl | hc
        · rfl
        · exact hdigits c (List.mem_of_mem_drop hc)

/-- The form with an exponent starts with the first digit. -/
theorem isNumeral_exponential {digits : List Char} (point : Int) (hne : digits ≠ [])
    (h : ∀ c ∈ digits, c.isDigit = true) : IsNumeral (exponential digits point) := by
  obtain ⟨d, rest, rfl⟩ := List.exists_cons_of_ne_nil hne
  have hdigits : ∀ c ∈ rest, isNumeralChar c = true := fun c hc =>
    isNumeralChar_of_isDigit (h c (List.mem_cons_of_mem _ hc))
  have hfirst : IsNumeral [d] := .of_digits (by simp) (by simpa using h d List.mem_cons_self)
  have hexponent : ∀ c ∈ 'e' :: (if point - 1 < 0 then '-' else '+')
      :: (toString (point - 1).natAbs).toList, isNumeralChar c = true := by
    intro c hc
    simp only [List.mem_cons] at hc
    rcases hc with rfl | rfl | hc
    · rfl
    · split <;> rfl
    · exact isNumeralChar_of_isDigit (isDigit_of_mem_repr hc)
  cases rest with
  | nil => exact hfirst.append hexponent
  | cons e more =>
    have hfraction : ∀ c ∈ '.' :: e :: more, isNumeralChar c = true := by
      intro c hc
      rcases List.mem_cons.mp hc with rfl | hc
      · rfl
      · exact hdigits c hc
    exact (hfirst.append hfraction).append hexponent

theorem isNumeral_text_real (x : Binary64) : IsNumeral x.text.toList := by
  simp only [Binary64.text, String.toList_ofList]
  refine IsNumeral.signed ?_ _
  split
  · exact ⟨rfl, rfl⟩
  · rename_i hzero
    have hdigits : ∀ c ∈ (Decimal.shortest x).digits, c.isDigit = true := fun _ =>
      Decimal.shortest_digits_isDigit
    have hne := Decimal.shortest_digits_ne_nil (x := x) (by simpa using hzero)
    split
    · exact isNumeral_positional _ hdigits
    · exact isNumeral_exponential _ hne hdigits

theorem isNumeral_text (n : Number) : IsNumeral n.text.toList := by
  cases n with
  | integer z => exact isNumeral_toString_int z
  | real x => exact isNumeral_text_real x

/-! ## Literals as tokens -/

namespace Literal

/-- The token of a literal. -/
def token : Literal → Token
  | .number digits => .numeral digits
  | .text content => .text content
  | .null => .word "NULL"

/-- The literal without its content. -/
def erased : Literal → Literal
  | .number _ => .number ""
  | .text _ => .text ""
  | .null => .null

theorem chars_token (l : Literal) : l.token.chars = l.sql.toList := by
  cases l <;> rfl

theorem literal?_token (l : Literal) : l.token.literal? = some l := by
  cases l <;> rfl

/-- The literal of a value is one plain token. -/
theorem plain_token_ofJson (value : Json) : (ofJson value).token.Plain := by
  cases value with
  | null => exact ⟨by decide, by decide, Or.inl (by decide)⟩
  | bool b => cases b <;> exact ⟨by decide, by decide⟩
  | number n => exact isNumeral_text n
  | string s =>
    simp only [ofJson, ofString]
    split
    · exact isNumeral_toString_int _
    · trivial
  | array items => trivial
  | object fields => trivial

end Literal
end RelatedFilter.Sql
