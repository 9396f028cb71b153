import FrameBridge.Http.Query
import FrameBridge.Proofs.Text.Split
import FrameBridge.Proofs.Text.Utf8

/-!
# Pairs of a query

A name and a value whose escapes stand for the bytes of two texts are read as
these texts.

A text can be encoded in many ways, since a byte that could stand for itself may
also be escaped.  `Encodes` has all of them, and each is undone by the decoding.
-/

namespace FrameBridge
namespace Query

section Decoding

variable {bytes part name value : List UInt8} {s t : String}

theorem decode_of_bytes
    (hbytes : decodeBytes bytes = Utf8.encodeString s) :
    decode bytes = s := by
  rw [decode, hbytes, Utf8.encodeString, Utf8.decodeLossy_encode, String.ofList_toList]

theorem decodePair_of_split
    (hsplit : Text.splitFirst equals part = some (name, value))
    (hname : decodeBytes name = Utf8.encodeString s)
    (hvalue : decodeBytes value = Utf8.encodeString t) :
    decodePair part = (s, t) := by
  simp only [decodePair, hsplit, decode_of_bytes hname, decode_of_bytes hvalue]

end Decoding

section Encoding

/-- Bytes are encoded as others.  Each byte stands for itself or is escaped, and
a space can be a plus sign. -/
inductive Encodes : List UInt8 → List UInt8 → Prop
  | nil :
      Encodes [] []
  | plain
      {b : UInt8} {bytes encoded : List UInt8}
      (hpercent : b ≠ percent)
      (hplus : b ≠ plus)
      (hampersand : b ≠ ampersand)
      (hrest : Encodes bytes encoded) :
      Encodes (b :: bytes) (b :: encoded)
  | space
      {bytes encoded : List UInt8}
      (hrest : Encodes bytes encoded) :
      Encodes (0x20 :: bytes) (plus :: encoded)
  | escape
      {b high low : UInt8} {bytes encoded : List UInt8}
      (hhigh : Text.hexValue (Char.ofNat high.toNat) = some (b.toNat / 16))
      (hlow : Text.hexValue (Char.ofNat low.toNat) = some (b.toNat % 16))
      (hrest : Encodes bytes encoded) :
      Encodes (b :: bytes) (percent :: high :: low :: encoded)

variable {b high low : UInt8} {bytes encoded rest : List UInt8}

theorem decodeBytes_cons_of_ne
    (hpercent : b ≠ percent) :
    decodeBytes (b :: rest) = unescaped b :: decodeBytes rest := by
  cases rest with
  | nil =>
      rfl
  | cons high rest =>
      cases rest with
      | nil =>
          rfl
      | cons low rest =>
          simp only [decodeBytes, escaped, if_neg hpercent]

/-- Two hexadecimal digits behind a percent sign stand for one byte. -/
theorem decodeBytes_escape
    (hhigh : Text.hexValue (Char.ofNat high.toNat) = some (b.toNat / 16))
    (hlow : Text.hexValue (Char.ofNat low.toNat) = some (b.toNat % 16)) :
    decodeBytes (percent :: high :: low :: rest) = b :: decodeBytes rest := by
  have hbyte : UInt8.ofNat (b.toNat / 16 * 16 + b.toNat % 16) = b := by
    rw [Nat.div_add_mod', UInt8.ofNat_toNat]
  have hescaped : escaped percent high low = some b := by
    rw [escaped, if_pos rfl, hhigh, hlow]
    exact congrArg some hbyte
  simp only [decodeBytes, hescaped]

/-- However bytes were encoded, the decoding gives them back. -/
theorem Encodes.decodeBytes_eq
    (h : Encodes bytes encoded) :
    decodeBytes encoded = bytes := by
  induction h with
  | nil =>
      rfl
  | plain hpercent hplus hampersand hrest ih =>
      rw [decodeBytes_cons_of_ne hpercent, unescaped, if_neg hplus, ih]
  | space hrest ih =>
      rw [decodeBytes_cons_of_ne (by decide), unescaped, if_pos rfl, ih]
  | escape hhigh hlow hrest ih =>
      rw [decodeBytes_escape hhigh hlow, ih]

/-- The digits of an escape do not divide pairs. -/
theorem ne_ampersand_of_hexValue
    {n : Nat}
    (hdigit : Text.hexValue (Char.ofNat b.toNat) = some n) :
    b ≠ ampersand := by
  rintro rfl
  cases hdigit

/-- Encoded bytes are in one part of a query. -/
theorem Encodes.ampersand_notMem
    (h : Encodes bytes encoded) :
    ampersand ∉ encoded := by
  induction h with
  | nil =>
      exact List.not_mem_nil
  | plain hpercent hplus hampersand hrest ih =>
      exact List.not_mem_cons_of_ne_of_not_mem hampersand.symm ih
  | space hrest ih =>
      exact List.not_mem_cons_of_ne_of_not_mem (by decide) ih
  | escape hhigh hlow hrest ih =>
      rw [List.mem_cons, List.mem_cons, List.mem_cons, not_or, not_or, not_or]
      exact ⟨by decide, (ne_ampersand_of_hexValue hhigh).symm,
        (ne_ampersand_of_hexValue hlow).symm, ih⟩

end Encoding

section Parts

variable {parts before after : List (List UInt8)} {part : List UInt8}

/-- The pairs of parts that were joined. -/
theorem pairs_intercalate
    (hparts : ∀ part ∈ parts, ampersand ∉ part)
    (hne : parts ≠ []) :
    pairs ([ampersand].intercalate parts) = (parts.filter (· ≠ [])).map decodePair := by
  rw [pairs, Text.splitAll_intercalate hparts hne]

/-- A name that is in one part only is in one pair only. -/
theorem countP_pairs_le_one
    {name : String}
    (hparts : ∀ other ∈ before ++ part :: after, ampersand ∉ other)
    (hothers : ∀ other ∈ before ++ after, (decodePair other).1 ≠ name) :
    (pairs ([ampersand].intercalate (before ++ part :: after))).countP (·.1 == name) ≤ 1 := by
  have hnone :
      ∀ others : List (List UInt8), others ⊆ before ++ after →
        ((others.filter (· ≠ [])).map decodePair).countP (·.1 == name) = 0 := by
    intro others hsub
    rw [List.countP_eq_zero]
    intro pair hpair
    obtain ⟨other, hother, rfl⟩ := List.mem_map.mp hpair
    simpa using hothers other (hsub (List.mem_of_mem_filter hother))
  have hone : (([part].filter (· ≠ [])).map decodePair).countP (·.1 == name) ≤ 1 :=
    calc
      _ ≤ (([part].filter (· ≠ [])).map decodePair).length := List.countP_le_length
      _ = ([part].filter (· ≠ [])).length := List.length_map _
      _ ≤ 1 := List.length_filter_le _ _
  rw [pairs_intercalate hparts (by simp), List.append_cons, List.filter_append,
    List.filter_append, List.map_append, List.map_append, List.countP_append,
    List.countP_append, hnone before (List.subset_append_left _ _),
    hnone after (List.subset_append_right _ _)]
  omega

end Parts

end Query
end FrameBridge
