import FrameBridge.Proofs.Text.Utf8
import FrameBridge.Server.Bearer

/-!
# Which keys open

What is gathered byte by byte has a bit exactly if it had it before or the keys
differ in it in some place.  The places cannot tell a key from one that it
begins, nor padding from bytes that are missing, but the lengths can: the
difference of two keys is zero exactly if the keys are equal.  Different keys
have different bytes, so a request is authorized exactly if it shows the
expected key.
-/

namespace FrameBridge
namespace Bearer

section Comparison

variable {diff : UInt8} {expected provided : List UInt8}

/-- In some place of the expected key the bytes differ in a bit, with padding
for what the provided key is too short to have. -/
def DifferIn (expected provided : List UInt8) (n : Nat) : Prop :=
  ∃ (i : Nat) (b : UInt8),
    expected[i]? = some b ∧ (b ^^^ provided[i]?.getD padding).toNat.testBit n = true

/-- A place is gathered alike whether or not the provided key reaches it. -/
theorem gather_cons
    {b : UInt8} :
    gather diff (b :: expected) provided =
      gather (diff ||| (b ^^^ provided.head?.getD padding)) expected provided.tail := by
  cases provided with
  | nil =>
      rfl
  | cons c provided =>
      rfl

/-- The keys differ in a bit of the first place, or of one of the others. -/
theorem differIn_cons
    {b : UInt8} {n : Nat} :
    DifferIn (b :: expected) provided n ↔
      (b ^^^ provided.head?.getD padding).toNat.testBit n = true ∨
        DifferIn expected provided.tail n := by
  rw [DifferIn, ← Nat.or_exists_add_one]
  simp [DifferIn, List.head?_eq_getElem?]

/-- Bits that were gathered stay, so that differences never cancel. -/
theorem testBit_gather_iff
    {n : Nat} :
    (gather diff expected provided).toNat.testBit n = true ↔
      diff.toNat.testBit n = true ∨ DifferIn expected provided n := by
  induction expected generalizing diff provided with
  | nil =>
      simp [gather, DifferIn]
  | cons b expected ih =>
      rw [gather_cons, ih, differIn_cons, UInt8.toNat_or, Nat.testBit_or, Bool.or_eq_true,
        or_assoc]

theorem cons_eq_padding_iff
    {b : UInt8} :
    (∃ n, b :: expected = List.replicate n padding) ↔
      b = padding ∧ ∃ n, expected = List.replicate n padding := by
  rw [← Nat.or_exists_add_one]
  simp [List.replicate_succ]

/-- The places cannot tell a key from a longer one that it begins, nor from one
that only lacks bytes of padding. -/
theorem gather_eq_zero_iff :
    gather diff expected provided = 0 ↔
      diff = 0 ∧
        (expected <+: provided ∨ ∃ n, expected = provided ++ List.replicate n padding) := by
  induction expected generalizing diff provided with
  | nil =>
      simp [gather]
  | cons b expected ih =>
      rw [gather_cons, ih, UInt8.or_eq_zero_iff, UInt8.xor_eq_zero_iff, and_assoc]
      cases provided with
      | nil =>
          -- what begins the empty key is padding without a byte
          have hnil : expected = [] → ∃ n, expected = List.replicate n padding :=
            fun hempty => ⟨0, hempty⟩
          simp [cons_eq_padding_iff, or_iff_right_of_imp hnil]
      | cons c provided =>
          simp [List.cons_prefix_cons, and_or_left]

/-- A difference in length is gathered first, and never made up for. -/
theorem sameKey_iff :
    sameKey expected provided = true ↔ expected = provided := by
  rw [sameKey, beq_iff_eq, gather_eq_zero_iff]
  constructor
  · rintro ⟨hflag, hplaces⟩
    have hlength : expected.length = provided.length := by
      simpa using hflag
    obtain hprefix | ⟨n, rfl⟩ := hplaces
    · exact hprefix.eq_of_length hlength
    · have hn : n = 0 := by
        simpa using hlength
      rw [hn, List.replicate_zero, List.append_nil]
  · rintro rfl
    exact ⟨if_pos rfl, .inl List.prefix_rfl⟩

/-- Keys compare as equal exactly if they are equal.  What was gathered has
every bit in which some place differs, and no other, so differences do not
cancel.  The places alone are passed exactly by a longer key and by one that
lacks nothing but padding: these are refused for their length. -/
theorem padded_comparison_exact
    (expected provided : List UInt8) :
    (sameKey expected provided = true ↔ expected = provided) ∧
    (∀ diff n,
      (gather diff expected provided).toNat.testBit n = true ↔
        diff.toNat.testBit n = true ∨ DifferIn expected provided n) ∧
    (∀ diff,
      gather diff expected provided = 0 ↔
        diff = 0 ∧
          (expected <+: provided ∨ ∃ n, expected = provided ++ List.replicate n padding)) := by
  refine ⟨sameKey_iff, ?_, ?_⟩
  · intro diff n
    exact testBit_gather_iff
  · intro diff
    exact gather_eq_zero_iff

/-- The last byte of the expected key is the padding itself. -/
example :
    gather 0 [0x6b, 0xff] [0x6b] = 0 ∧ sameKey [0x6b, 0xff] [0x6b] = false := by
  decide

end Comparison

section Requests

variable {key : String} {headers : Headers}

/-- A key authorizes exactly the requests that show it. -/
theorem authorizes_iff :
    authorizes key headers = true ↔ providedKey? headers = some key.toList := by
  unfold authorizes
  cases hprovided : providedKey? headers with
  | none =>
      simp
  | some provided =>
      have hsame :
          sameKey (Utf8.encodeString key) (Utf8.encode provided) = true ↔
            provided = key.toList := by
        rw [sameKey_iff, Utf8.encodeString, Utf8.encode_inj, eq_comm]
      simpa using hsame

/-- The key is what stands behind the scheme in the first line. -/
theorem providedKey?_eq_some_iff
    {provided : List Char} :
    providedKey? headers = some provided ↔
      headers.text? "authorization" = some (scheme ++ provided) := by
  rw [providedKey?]
  cases headers.text? "authorization" with
  | none =>
      simp
  | some text =>
      rw [Option.bind_eq_bind, Option.bind_some, Option.ite_none_right_eq_some,
        List.isPrefixOf_iff_prefix, Option.some_inj, Option.some_inj]
      constructor
      · rintro ⟨⟨rest, rfl⟩, hrest⟩
        rw [← hrest, List.drop_left]
      · rintro rfl
        exact ⟨List.prefix_append scheme provided, List.drop_left⟩

/-- The first line alone decides which key a request shows. -/
theorem providedKey?_of_first
    {value : List UInt8} {provided : List Char}
    (hfirst : headers.get? "authorization" = some value)
    (htext : Header.textOf value = some (scheme ++ provided)) :
    providedKey? headers = some provided := by
  rw [providedKey?_eq_some_iff, Headers.text?, hfirst]
  exact htext

end Requests

end Bearer
end FrameBridge
