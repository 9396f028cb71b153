import FrameBridge.Text.Ascii
import FrameBridge.Text.Blank

/-!
# ASCII characters and numerals

ASCII letters and digits are one byte each and are not white space.  A numeral
is one or more decimal digits, perhaps behind a plus sign; the digits of a
number are a numeral of it.
-/

namespace FrameBridge
namespace Text

section Characters

variable {c : Char}

theorem isAlpha_iff :
    c.isAlpha = true ↔ (65 ≤ c.toNat ∧ c.toNat ≤ 90) ∨ (97 ≤ c.toNat ∧ c.toNat ≤ 122) := by
  have hranges :
      c.isAlpha =
        (decide (65 ≤ c.val ∧ c.val ≤ 90) || decide (97 ≤ c.val) && decide (c.val ≤ 122)) :=
    rfl
  rw [hranges, Bool.or_eq_true, Bool.and_eq_true, decide_eq_true_iff, decide_eq_true_iff,
    decide_eq_true_iff]
  exact Iff.rfl

theorem isDigit_iff :
    c.isDigit = true ↔ 48 ≤ c.toNat ∧ c.toNat ≤ 57 := by
  simp only [Char.isDigit, Bool.and_eq_true, decide_eq_true_eq]
  exact Iff.rfl

/-- The code point of an ASCII letter or digit is in one of three ranges. -/
theorem toNat_of_isAlphanum
    (h : c.isAlphanum = true) :
    (48 ≤ c.toNat ∧ c.toNat ≤ 57) ∨
      (65 ≤ c.toNat ∧ c.toNat ≤ 90) ∨
      (97 ≤ c.toNat ∧ c.toNat ≤ 122) := by
  rcases Bool.or_eq_true_iff.mp h with halpha | hdigit
  · exact Or.inr (isAlpha_iff.mp halpha)
  · exact Or.inl (isDigit_iff.mp hdigit)

/-- Letters and digits are no white space. -/
theorem isBlank_of_isAlphanum
    (h : c.isAlphanum = true) :
    isBlank c = false := by
  have hrange := toNat_of_isAlphanum h
  simp only [isBlank, inRanges, blankRanges, List.any_cons, List.any_nil, Bool.or_false,
    Bool.or_eq_false_iff, Bool.and_eq_false_iff, decide_eq_false_iff_not]
  omega

theorem isAlphanum_of_isDigit
    (h : c.isDigit = true) :
    c.isAlphanum = true :=
  Bool.or_eq_true_iff.mpr (Or.inr h)

/-- A hexadecimal digit is a letter or a digit. -/
theorem isAlphanum_of_hexValue
    (h : (hexValue c).isSome = true) :
    c.isAlphanum = true := by
  have hle : ∀ {x y : Char}, x ≤ y ↔ x.toNat ≤ y.toNat := Iff.rfl
  simp only [Char.isAlphanum, Bool.or_eq_true, isAlpha_iff]
  simp only [hexValue, Bool.and_eq_true, decide_eq_true_eq, hle, Char.reduceToNat] at h
  split at h
  · rename_i hdigit
    exact Or.inr hdigit
  · split at h
    · exact Or.inl (by omega)
    · split at h
      · exact Or.inl (by omega)
      · cases h

end Characters

section Numerals

/-- A text is one or more decimal digits that stand for a number, perhaps behind
a plus sign. -/
def IsNumeral (cs : List Char) (n : Nat) : Prop :=
  ∃ digits,
    (cs = digits ∨ cs = '+' :: digits) ∧
    digits ≠ [] ∧
    (∀ c ∈ digits, c.isDigit = true) ∧
    Nat.ofDigitChars 10 digits 0 = n

variable {cs : List Char} {n : Nat}

/-- A decimal number is a text of digits, one at least. -/
theorem decimal?_eq_some_iff :
    decimal? cs = some n ↔
      cs ≠ [] ∧ (∀ c ∈ cs, c.isDigit = true) ∧ Nat.ofDigitChars 10 cs 0 = n := by
  simp only [decimal?, Option.ite_none_right_eq_some, List.all_eq_true, and_assoc,
    Option.some.injEq]

/-- The texts that have a value are the numerals. -/
theorem natural?_eq_some_iff :
    natural? cs = some n ↔ IsNumeral cs n := by
  rw [natural?, decimal?_eq_some_iff]
  constructor
  · rintro ⟨hne, hdigits, hvalue⟩
    refine ⟨_, ?_, hne, hdigits, hvalue⟩
    split
    · rename_i hplus
      obtain ⟨rest, rfl⟩ := List.head?_eq_some_iff.mp hplus
      exact Or.inr rfl
    · exact Or.inl rfl
  · rintro ⟨digits, hcs | hcs, hne, hdigits, hvalue⟩
    · subst hcs
      have hplus : cs.head? ≠ some '+' := by
        intro hplus
        have hdigit := hdigits '+' (List.mem_of_head? hplus)
        exact absurd hdigit (by decide)
      rw [if_neg hplus]
      exact ⟨hne, hdigits, hvalue⟩
    · subst hcs
      exact ⟨hne, hdigits, hvalue⟩

/-- A numeral has no character other than digits and the plus sign. -/
theorem IsNumeral.notMem
    {c : Char}
    (h : IsNumeral cs n)
    (hdigit : c.isDigit = false)
    (hplus : c ≠ '+') :
    c ∉ cs := by
  obtain ⟨digits, hcs, -, hdigits, -⟩ := h
  have hno : c ∉ digits := by
    intro hc
    rw [hdigits c hc] at hdigit
    cases hdigit
  rcases hcs with rfl | rfl
  · exact hno
  · simpa [hplus] using hno

/-- The decimal digits of a number are a numeral of it. -/
theorem isNumeral_toDigits
    (n : Nat) :
    IsNumeral (Nat.toDigits 10 n) n :=
  ⟨_, Or.inl rfl, Nat.toDigits_ne_nil,
    fun _ hc => Nat.isDigit_of_mem_toDigits (by decide) (by decide) hc,
    Nat.ofDigitChars_ten_toDigits⟩

end Numerals

end Text
end FrameBridge
