import FrameBridge.Proofs.Text.Ascii
import FrameBridge.Proofs.Text.Trim

/-!
# Letter case

Folding the case of a text changes ASCII letters only, and leaves them letters.
So digits, marks and white space are where they were: a text can be folded
before or after white space is removed from its ends, and it is a numeral or
has a mark exactly if the folded text is or has.

Two texts have the same letters if they are equal once they are folded.
-/

namespace FrameBridge
namespace Text

/-- The texts are equal up to the case of ASCII letters. -/
def SameLetters (s s' : String) : Prop :=
  foldCase s.toList = foldCase s'.toList

/-- The text in lower case. -/
def lower (s : String) : String :=
  String.ofList (foldCase s.toList)

section Characters

variable {a c : Char}

/-- The lower-case letters of ASCII lie 32 places behind the upper-case ones. -/
theorem toNat_toLower
    (c : Char) :
    c.toLower.toNat = if 65 ≤ c.toNat ∧ c.toNat ≤ 90 then c.toNat + 32 else c.toNat := by
  unfold Char.toLower
  split
  · rename_i hupper
    have hrange : 65 ≤ c.toNat ∧ c.toNat ≤ 90 := hupper
    have hsum : (c.val + ('a'.val - 'A'.val)).toNat = (c.toNat + 32) % 2 ^ 32 :=
      UInt32.toNat_add c.val 32
    rw [if_pos hrange]
    exact hsum.trans (Nat.mod_eq_of_lt (by omega))
  · rename_i hother
    exact (if_neg hother).symm

theorem toLower_cases
    (c : Char) :
    c.toLower = c ∨
      (65 ≤ c.toNat ∧ c.toNat ≤ 90) ∧ c.toLower.toNat = c.toNat + 32 := by
  by_cases hupper : 65 ≤ c.toNat ∧ c.toNat ≤ 90
  · exact Or.inr ⟨hupper, by rw [toNat_toLower, if_pos hupper]⟩
  · exact Or.inl (Char.toNat_inj.mp (by rw [toNat_toLower, if_neg hupper]))

/-- Only a character that is no letter is folded to it. -/
theorem toLower_eq_iff
    (ha : a.isAlpha = false) :
    c.toLower = a ↔ c = a := by
  rw [Bool.eq_false_iff, Ne, isAlpha_iff] at ha
  rcases toLower_cases c with hsame | ⟨hupper, hlower⟩
  · rw [hsame]
  · rw [← Char.toNat_inj, ← Char.toNat_inj, hlower]
    omega

@[simp] theorem isAlphanum_toLower
    (c : Char) :
    c.toLower.isAlphanum = c.isAlphanum := by
  rcases toLower_cases c with hsame | ⟨hupper, hlower⟩
  · rw [hsame]
  · have hletter : c.isAlpha = true := isAlpha_iff.mpr (Or.inl hupper)
    have hfolded : c.toLower.isAlpha = true := isAlpha_iff.mpr (by omega)
    rw [Char.isAlphanum, Char.isAlphanum, hletter, hfolded, Bool.true_or, Bool.true_or]

@[simp] theorem isBlank_toLower
    (c : Char) :
    isBlank c.toLower = isBlank c := by
  rcases toLower_cases c with hsame | ⟨hupper, -⟩
  · rw [hsame]
  · have hletter : c.isAlphanum = true :=
      Bool.or_eq_true_iff.mpr (Or.inl (isAlpha_iff.mpr (Or.inl hupper)))
    rw [isBlank_of_isAlphanum hletter,
      isBlank_of_isAlphanum ((isAlphanum_toLower c).trans hletter)]

@[simp] theorem hexValue_toLower
    (c : Char) :
    hexValue c.toLower = hexValue c := by
  rcases toLower_cases c with hsame | ⟨hupper, hlower⟩
  · rw [hsame]
  · have hle : ∀ {x y : Char}, x ≤ y ↔ x.toNat ≤ y.toNat := Iff.rfl
    simp only [hexValue, Bool.and_eq_true, decide_eq_true_eq, isDigit_iff, hle, hlower,
      Char.reduceToNat]
    by_cases hhex : c.toNat ≤ 70
    · rw [if_neg (by omega), if_pos (by omega), if_neg (by omega), if_neg (by omega),
        if_pos (by omega)]
      congr 1
    · rw [if_neg (by omega), if_neg (by omega), if_neg (by omega), if_neg (by omega),
        if_neg (by omega), if_neg (by omega)]

@[simp] theorem digitValue_toLower
    (base : Nat) (c : Char) :
    digitValue base c.toLower = digitValue base c := by
  rw [digitValue, digitValue, hexValue_toLower]

end Characters

section Texts

variable {a : Char} {cs ds : List Char} {n : Nat} {s s' : String}

@[simp] theorem foldCase_nil :
    foldCase [] = [] := rfl

@[simp] theorem foldCase_cons
    (c : Char) (cs : List Char) :
    foldCase (c :: cs) = c.toLower :: foldCase cs := rfl

@[simp] theorem foldCase_append
    (cs ds : List Char) :
    foldCase (cs ++ ds) = foldCase cs ++ foldCase ds :=
  List.map_append

@[simp] theorem length_foldCase
    (cs : List Char) :
    (foldCase cs).length = cs.length :=
  List.length_map _

@[simp] theorem foldCase_eq_nil_iff :
    foldCase cs = [] ↔ cs = [] :=
  List.map_eq_nil_iff

@[simp] theorem toList_lower
    (s : String) :
    (lower s).toList = foldCase s.toList :=
  String.toList_ofList

/-- Two texts have the same letters exactly if they agree in lower case. -/
theorem lower_eq_lower_iff :
    lower s = lower s' ↔ SameLetters s s' := by
  rw [← String.toList_inj, toList_lower, toList_lower, SameLetters]

theorem equalFold_eq_true_iff :
    equalFold cs ds = true ↔ foldCase cs = foldCase ds :=
  beq_iff_eq

/-- Characters that are no letters stay where they are. -/
theorem mem_foldCase_iff
    (ha : a.isAlpha = false) :
    a ∈ foldCase cs ↔ a ∈ cs := by
  simp [foldCase, toLower_eq_iff ha]

theorem head?_foldCase_iff
    (ha : a.isAlpha = false) :
    (foldCase cs).head? = some a ↔ cs.head? = some a := by
  simp [foldCase, List.head?_map, Option.map_eq_some_iff, toLower_eq_iff ha]

/-- Only a text without letters is folded to it. -/
theorem foldCase_eq_iff
    (hds : ∀ c ∈ ds, c.isAlpha = false) :
    foldCase cs = ds ↔ cs = ds := by
  induction cs generalizing ds with
  | nil =>
      simp
  | cons c cs ih =>
      cases ds with
      | nil =>
          simp
      | cons d ds =>
          have hd := hds d List.mem_cons_self
          have hrest := ih fun x hx => hds x (List.mem_cons_of_mem d hx)
          rw [foldCase_cons, List.cons.injEq, List.cons.injEq, toLower_eq_iff hd, hrest]

/-- There are no letters in a numeral. -/
theorem isNumeral_foldCase_iff :
    IsNumeral (foldCase cs) n ↔ IsNumeral cs n := by
  have hletterless :
      ∀ {digits : List Char}, (∀ c ∈ digits, c.isDigit = true) →
        (foldCase cs = digits ∨ foldCase cs = '+' :: digits ↔
          cs = digits ∨ cs = '+' :: digits) := by
    intro digits hdigits
    have hdigit : ∀ c ∈ digits, c.isAlpha = false := by
      intro c hc
      have hrange := isDigit_iff.mp (hdigits c hc)
      rw [Bool.eq_false_iff, Ne, isAlpha_iff]
      omega
    have hsigned : ∀ c ∈ '+' :: digits, c.isAlpha = false :=
      List.forall_mem_cons.mpr ⟨by decide, hdigit⟩
    rw [foldCase_eq_iff hdigit, foldCase_eq_iff hsigned]
  constructor
  · rintro ⟨digits, hcs, hne, hdigits, hvalue⟩
    exact ⟨digits, (hletterless hdigits).mp hcs, hne, hdigits, hvalue⟩
  · rintro ⟨digits, hcs, hne, hdigits, hvalue⟩
    exact ⟨digits, (hletterless hdigits).mpr hcs, hne, hdigits, hvalue⟩

/-- What is cut off at the ends does not depend on letter case, if the class of the
characters does not. -/
theorem stripBoth_foldCase
    {inClass : Char → Bool}
    (hclass : ∀ c, inClass c.toLower = inClass c)
    (cs : List Char) :
    stripBoth inClass (foldCase cs) = foldCase (stripBoth inClass cs) := by
  have hcomp : inClass ∘ Char.toLower = inClass := funext hclass
  rw [foldCase, stripBoth_map, hcomp, foldCase]

@[simp] theorem trim_foldCase
    (cs : List Char) :
    trim (foldCase cs) = foldCase (trim cs) :=
  stripBoth_foldCase isBlank_toLower cs

end Texts

end Text
end FrameBridge
