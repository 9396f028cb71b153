import FrameBridge.Http.Header
import FrameBridge.Proofs.Text.Utf8
import Mathlib.Data.List.Basic

/-!
# Header values as texts

A value is a text if all its bytes are printable ASCII characters or tabs.  Its
characters have the code points of the bytes, so that the bytes of the text are
those of the value.
-/

namespace FrameBridge

namespace Text

variable {b c : UInt8}

@[simp] theorem toNat_ofNat_toNat
    (b : UInt8) :
    (Char.ofNat b.toNat).toNat = b.toNat := by
  have hb : b.toNat < 0x100 := b.toNat_lt
  have hvalid : b.toNat.isValidChar := Or.inl (by omega)
  rw [Char.ofNat, dif_pos hvalid]
  rfl

theorem charOfByte_injective :
    Function.Injective fun b : UInt8 => Char.ofNat b.toNat := by
  intro b c hsame
  have hcodes := congrArg Char.toNat hsame
  rw [toNat_ofNat_toNat, toNat_ofNat_toNat] at hcodes
  exact UInt8.toNat_inj.mp hcodes

end Text

namespace Header

/-- Every byte of a value is a printable ASCII character or a tab. -/
def Printable (value : List UInt8) : Prop :=
  ∀ b ∈ value, b = 9 ∨ 32 ≤ b ∧ b ≤ 126

instance (value : List UInt8) : Decidable (Printable value) :=
  List.decidableBAll (fun b => b = 9 ∨ 32 ≤ b ∧ b ≤ 126) value

variable {b : UInt8} {value front back : List UInt8} {text : List Char}

/-- The bytes of a tab, a space and the visible characters of ASCII. -/
theorem isPrintable_iff :
    isPrintable b = true ↔ b = 9 ∨ 32 ≤ b ∧ b ≤ 126 := by
  have hlast : b < 127 ↔ b ≤ 126 := by
    rw [UInt8.lt_iff_toNat_lt, UInt8.le_iff_toNat_le]
    exact Nat.lt_succ_iff
  simp [isPrintable, hlast]

theorem toNat_lt_of_printable
    (hprintable : Printable value)
    (hmem : b ∈ value) :
    b.toNat < 0x80 := by
  rcases hprintable b hmem with rfl | ⟨-, hlast⟩
  · decide
  · exact Nat.lt_succ_of_le (Nat.le_trans (UInt8.le_iff_toNat_le.mp hlast) (by decide))

theorem printable_append :
    Printable (front ++ back) ↔ Printable front ∧ Printable back :=
  List.forall_mem_append

/-- A value is a text if all bytes can be shown, and these are its characters. -/
theorem textOf_eq_some :
    textOf value = some text ↔ Printable value ∧ Text.charsOfBytes value = text := by
  rw [textOf, Option.ite_none_right_eq_some, Option.some_inj, List.all_eq_true]
  simp only [isPrintable_iff, Printable]

/-- Printable bytes are the encoding of the text they make. -/
theorem encode_charsOfBytes
    (hprintable : Printable value) :
    Utf8.encode (Text.charsOfBytes value) = value := by
  rw [Utf8.encode, Text.charsOfBytes, List.flatMap_map]
  have hone :
      ∀ b ∈ value, Utf8.encodeChar (Char.ofNat b.toNat) = [b] := by
    intro b hmem
    have hsmall := toNat_lt_of_printable hprintable hmem
    rw [Utf8.encodeChar_of_ascii (by rwa [Text.toNat_ofNat_toNat]), Text.toNat_ofNat_toNat,
      UInt8.ofNat_toNat]
  rw [List.flatMap_congr hone, List.flatMap_singleton']

/-- The bytes of the text of a value are those of the value. -/
theorem textOf_eq_some_iff :
    textOf value = some text ↔ Printable value ∧ value = Utf8.encode text := by
  rw [textOf_eq_some]
  refine and_congr_right fun hprintable => ?_
  constructor
  · rintro rfl
    exact (encode_charsOfBytes hprintable).symm
  · intro hvalue
    rw [← Utf8.encode_inj, encode_charsOfBytes hprintable]
    exact hvalue

end Header

namespace Headers

variable {headers front back : Headers} {name : String} {value : List UInt8}

theorem mem_getAll :
    value ∈ headers.getAll name ↔ ⟨name, value⟩ ∈ headers := by
  simp only [getAll, List.mem_map, List.mem_filter, beq_iff_eq]
  constructor
  · rintro ⟨⟨_, _⟩, ⟨hmem, rfl⟩, rfl⟩
    exact hmem
  · intro hmem
    exact ⟨⟨name, value⟩, ⟨hmem, rfl⟩, rfl⟩

theorem getAll_eq_nil_iff :
    headers.getAll name = [] ↔ ∀ h ∈ headers, h.name ≠ name := by
  simp [getAll]

/-- Lines that follow others do not change what these give. -/
theorem getAll_append :
    getAll (front ++ back) name = front.getAll name ++ back.getAll name := by
  simp [getAll]

theorem getAll_cons
    (h : Header) :
    getAll (h :: headers) name = (if h.name = name then [h.value] else []) ++ headers.getAll name := by
  by_cases hname : h.name = name
  · simp [getAll, hname]
  · simp [getAll, hname]

/-- The first line with a name is the one that has no such line before it. -/
theorem get?_eq_some_iff :
    headers.get? name = some value ↔
      ∃ front back, headers = front ++ ⟨name, value⟩ :: back ∧ ∀ h ∈ front, h.name ≠ name := by
  constructor
  · intro hfirst
    induction headers with
    | nil =>
        cases hfirst
    | cons h headers ih =>
        by_cases hname : h.name = name
        · rw [get?, getAll_cons, if_pos hname] at hfirst
          cases hfirst
          cases hname
          exact ⟨[], headers, rfl, nofun⟩
        · rw [get?, getAll_cons, if_neg hname] at hfirst
          obtain ⟨front, back, rfl, hfront⟩ := ih hfirst
          exact ⟨h :: front, back, rfl, List.forall_mem_cons.mpr ⟨hname, hfront⟩⟩
  · rintro ⟨front, back, rfl, hfront⟩
    rw [get?, getAll_append, getAll_eq_nil_iff.mpr hfront, getAll_cons, if_pos rfl]
    rfl

end Headers
end FrameBridge
