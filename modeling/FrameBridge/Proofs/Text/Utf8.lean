import FrameBridge.Text.Utf8

/-!
# Reading what was written in UTF-8

The bytes of a character are read as that character, whatever follows them.
So the strict reading gives back every text that was written, and no two texts
have the same bytes.  ASCII characters stand in a text where their bytes do.
-/

namespace FrameBridge
namespace Utf8

section Reading

theorem toNat_ofNat_byte
    {n : Nat}
    (hn : n < 0x100) :
    (UInt8.ofNat n).toNat = n :=
  UInt8.toNat_ofNat_of_lt' hn

/-- A continuation byte within its range adds its six bits. -/
theorem readTail_cons
    {low high b : Nat} (more code : Nat) (bytes : List UInt8)
    (hlow : low ≤ b) (hhigh : b ≤ high) (hb : b < 0x100) :
    readTail (more + 1) low high code (UInt8.ofNat b :: bytes) =
      readTail more 0x80 0xbf (code * 0x40 + (b - 0x80)) bytes := by
  have hbyte := toNat_ofNat_byte hb
  have hrange :
      (decide (low ≤ (UInt8.ofNat b).toNat) && decide ((UInt8.ofNat b).toNat ≤ high)) = true := by
    simp [hbyte, hlow, hhigh]
  rw [readTail, if_pos hrange, hbyte]

/-- The last six bits of a code point are a continuation byte. -/
theorem readTail_last
    (n : Nat) {code : Nat} (bytes : List UInt8)
    (hcode : code = n / 0x40) :
    readTail 1 0x80 0xbf code (UInt8.ofNat (0x80 + n % 0x40) :: bytes) =
      ⟨some n, bytes⟩ := by
  have hbits : code * 0x40 + (0x80 + n % 0x40 - 0x80) = n := by
    omega
  rw [readTail_cons 0 code bytes (by omega) (by omega) (by omega), hbits]
  rfl

end Reading

section Leads

variable {n : Nat}

theorem lead_one
    (hn : n < 0x80) :
    lead (UInt8.ofNat n) = some ⟨0, 0x80, 0xbf, n⟩ := by
  rw [lead, toNat_ofNat_byte (by omega)]
  exact if_pos hn

theorem lead_two
    (hlow : 0x80 ≤ n) (hhigh : n < 0x800) :
    lead (UInt8.ofNat (0xc0 + n / 0x40)) = some ⟨1, 0x80, 0xbf, n / 0x40⟩ := by
  have hbits : 0xc0 + n / 0x40 - 0xc0 = n / 0x40 := by
    omega
  rw [lead, toNat_ofNat_byte (by omega)]
  simp only [hbits]
  rw [if_neg (by omega), if_neg (by omega), if_pos (by omega)]

/-- Overlong forms and surrogates are left out by the range of the second
byte. -/
theorem lead_three
    (hlow : 0x800 ≤ n) (hhigh : n < 0x10000)
    (hvalid : n < 0xd800 ∨ 0xdfff < n) :
    ∃ low high,
      lead (UInt8.ofNat (0xe0 + n / 0x1000)) = some ⟨2, low, high, n / 0x1000⟩ ∧
      low ≤ 0x80 + n / 0x40 % 0x40 ∧
      0x80 + n / 0x40 % 0x40 ≤ high := by
  have hbits : 0xe0 + n / 0x1000 - 0xe0 = n / 0x1000 := by
    omega
  rw [lead, toNat_ofNat_byte (by omega)]
  simp only [hbits]
  rw [if_neg (by omega), if_neg (by omega), if_neg (by omega)]
  by_cases hfirst : n / 0x1000 = 0
  · rw [if_pos (by omega)]
    exact ⟨0xa0, 0xbf, by rw [hfirst], by omega, by omega⟩
  · rw [if_neg (by omega)]
    by_cases hsurrogate : n / 0x1000 = 0xd
    · rw [if_pos (by omega)]
      exact ⟨0x80, 0x9f, by rw [hsurrogate], by omega, by omega⟩
    · rw [if_neg (by omega), if_pos (by omega)]
      exact ⟨0x80, 0xbf, rfl, by omega, by omega⟩

/-- Overlong forms and numbers that are no code point are left out by the range
of the second byte. -/
theorem lead_four
    (hlow : 0x10000 ≤ n) (hhigh : n < 0x110000) :
    ∃ low high,
      lead (UInt8.ofNat (0xf0 + n / 0x40000)) = some ⟨3, low, high, n / 0x40000⟩ ∧
      low ≤ 0x80 + n / 0x1000 % 0x40 ∧
      0x80 + n / 0x1000 % 0x40 ≤ high := by
  have hbits : 0xf0 + n / 0x40000 - 0xf0 = n / 0x40000 := by
    omega
  rw [lead, toNat_ofNat_byte (by omega)]
  simp only [hbits]
  rw [if_neg (by omega), if_neg (by omega), if_neg (by omega), if_neg (by omega),
    if_neg (by omega), if_neg (by omega)]
  by_cases hfirst : n / 0x40000 = 0
  · rw [if_pos (by omega)]
    exact ⟨0x90, 0xbf, by rw [hfirst], by omega, by omega⟩
  · rw [if_neg (by omega)]
    by_cases hlast : n / 0x40000 = 4
    · rw [if_neg (by omega), if_pos (by omega)]
      exact ⟨0x80, 0x8f, by rw [hlast], by omega, by omega⟩
    · rw [if_pos (by omega)]
      exact ⟨0x80, 0xbf, rfl, by omega, by omega⟩

end Leads

section Characters

/-- The bytes of a character are one piece. -/
theorem readPieces_encodeChar
    (c : Char) (bytes : List UInt8) :
    readPieces (encodeChar c ++ bytes) = some c :: readPieces bytes := by
  have hpiece :
      ∀ b rest, readPiece b rest = ⟨some c.toNat, bytes⟩ →
        readPieces (b :: rest) = some c :: readPieces bytes := by
    intro b rest hread
    rw [readPieces, hread]
    exact congrArg (some · :: readPieces bytes) (Char.ofNat_toNat c)
  have hvalid : c.toNat < 0xd800 ∨ 0xdfff < c.toNat ∧ c.toNat < 0x110000 := c.valid
  unfold encodeChar
  generalize c.toNat = n at hpiece hvalid
  dsimp only
  by_cases hone : n < 0x80
  · rw [if_pos hone]
    refine hpiece _ _ ?_
    rw [readPiece, lead_one hone]
    rfl
  rw [if_neg hone]
  by_cases htwo : n < 0x800
  · rw [if_pos htwo]
    refine hpiece _ _ ?_
    rw [readPiece, lead_two (by omega) htwo]
    exact readTail_last n bytes rfl
  rw [if_neg htwo]
  by_cases hthree : n < 0x10000
  · rw [if_pos hthree]
    obtain ⟨low, high, hlead, hlow, hhigh⟩ := lead_three (n := n) (by omega) hthree (by omega)
    refine hpiece _ _ ?_
    rw [readPiece, hlead]
    have hcode : n / 0x1000 * 0x40 + (0x80 + n / 0x40 % 0x40 - 0x80) = n / 0x40 := by
      omega
    refine (readTail_cons 1 _ _ hlow hhigh (by omega)).trans ?_
    exact readTail_last n bytes hcode
  · rw [if_neg hthree]
    obtain ⟨low, high, hlead, hlow, hhigh⟩ := lead_four (n := n) (by omega) (by omega)
    refine hpiece _ _ ?_
    rw [readPiece, hlead]
    have hcode :
        (n / 0x40000 * 0x40 + (0x80 + n / 0x1000 % 0x40 - 0x80)) * 0x40 +
            (0x80 + n / 0x40 % 0x40 - 0x80) =
          n / 0x40 := by
      omega
    refine (readTail_cons 2 _ _ hlow hhigh (by omega)).trans ?_
    refine (readTail_cons 1 _ _ (by omega) (by omega) (by omega)).trans ?_
    exact readTail_last n bytes hcode

end Characters

section Ascii

variable {c a : Char} {cs : List Char}

/-- Outside ASCII, every byte of a character has its highest bit set. -/
theorem le_toNat_of_mem_encodeChar
    {b : UInt8}
    (hc : 0x80 ≤ c.toNat)
    (hmem : b ∈ encodeChar c) :
    0x80 ≤ b.toNat := by
  have hvalid : c.toNat < 0xd800 ∨ 0xdfff < c.toNat ∧ c.toNat < 0x110000 := c.valid
  obtain ⟨k, hlow, hhigh, rfl⟩ : ∃ k, 0x80 ≤ k ∧ k < 0x100 ∧ b = UInt8.ofNat k := by
    unfold encodeChar at hmem
    dsimp only at hmem
    rw [if_neg (by omega)] at hmem
    split at hmem
    · simp only [List.mem_cons, List.not_mem_nil, or_false] at hmem
      rcases hmem with rfl | rfl <;> exact ⟨_, by omega, by omega, rfl⟩
    · split at hmem
      · simp only [List.mem_cons, List.not_mem_nil, or_false] at hmem
        rcases hmem with rfl | rfl | rfl <;> exact ⟨_, by omega, by omega, rfl⟩
      · simp only [List.mem_cons, List.not_mem_nil, or_false] at hmem
        rcases hmem with rfl | rfl | rfl | rfl <;> exact ⟨_, by omega, by omega, rfl⟩
  rw [toNat_ofNat_byte hhigh]
  exact hlow

theorem eq_of_mem_encodeChar
    (ha : a.toNat < 0x80)
    (hmem : UInt8.ofNat a.toNat ∈ encodeChar c) :
    a = c := by
  have hbyte := toNat_ofNat_byte (n := a.toNat) (by omega)
  by_cases hc : c.toNat < 0x80
  · have hone : encodeChar c = [UInt8.ofNat c.toNat] := if_pos hc
    rw [hone, List.mem_singleton] at hmem
    rw [hmem, toNat_ofNat_byte (by omega)] at hbyte
    exact Char.toNat_inj.mp hbyte.symm
  · have hhigh := le_toNat_of_mem_encodeChar (by omega) hmem
    omega

/-- A byte of ASCII in a text is there for its character. -/
theorem mem_of_mem_encode
    (ha : a.toNat < 0x80)
    (hmem : UInt8.ofNat a.toNat ∈ encode cs) :
    a ∈ cs := by
  obtain ⟨c, hc, hbyte⟩ := List.mem_flatMap.mp hmem
  rw [eq_of_mem_encodeChar ha hbyte]
  exact hc

end Ascii

section Neighbours

variable {a b : Char} {cs : List Char}

theorem encodeChar_of_ascii
    (ha : a.toNat < 0x80) :
    encodeChar a = [UInt8.ofNat a.toNat] :=
  if_pos ha

theorem encode_cons
    (c : Char) (cs : List Char) :
    encode (c :: cs) = encodeChar c ++ encode cs :=
  List.flatMap_cons

theorem encodeChar_ne_nil
    (c : Char) :
    encodeChar c ≠ [] := by
  unfold encodeChar
  dsimp only
  split
  · exact List.cons_ne_nil _ _
  · split
    · exact List.cons_ne_nil _ _
    · split <;> exact List.cons_ne_nil _ _

/-- A text begins with a character of ASCII exactly if its bytes begin with the byte. -/
theorem head?_encode
    (ha : a.toNat < 0x80) :
    (encode cs).head? = some (UInt8.ofNat a.toNat) ↔ cs.head? = some a := by
  cases cs with
  | nil =>
      simp [encode]
  | cons c cs =>
      obtain ⟨x, bytes, hbytes⟩ := List.exists_cons_of_ne_nil (encodeChar_ne_nil c)
      rw [encode_cons, hbytes, List.cons_append, List.head?_cons, List.head?_cons,
        Option.some_inj, Option.some_inj]
      constructor
      · rintro rfl
        refine (eq_of_mem_encodeChar ha ?_).symm
        rw [hbytes]
        exact List.mem_cons_self
      · rintro rfl
        rw [encodeChar_of_ascii ha] at hbytes
        cases hbytes
        rfl

theorem pair_infix_append
    {x y : UInt8} {bytes rest : List UInt8}
    (hx : x ∉ bytes) :
    [x, y] <:+: bytes ++ rest ↔ [x, y] <:+: rest := by
  induction bytes with
  | nil =>
      rfl
  | cons z bytes ih =>
      rw [List.mem_cons, not_or] at hx
      rw [List.cons_append, List.infix_cons_iff, List.cons_prefix_cons, ih hx.2]
      simp [hx.1]

/-- Two ASCII characters are neighbours exactly if their bytes are. -/
theorem pair_infix_encode
    (ha : a.toNat < 0x80) (hb : b.toNat < 0x80) :
    [UInt8.ofNat a.toNat, UInt8.ofNat b.toNat] <:+: encode cs ↔ [a, b] <:+: cs := by
  induction cs with
  | nil =>
      simp [encode]
  | cons c cs ih =>
      rw [encode_cons, List.infix_cons_iff, List.cons_prefix_cons,
        List.singleton_prefix_iff_head?_eq_some, ← head?_encode hb, ← ih]
      by_cases hc : a = c
      · subst hc
        rw [encodeChar_of_ascii ha, List.singleton_append, List.infix_cons_iff,
          List.cons_prefix_cons, List.singleton_prefix_iff_head?_eq_some]
        simp
      · rw [pair_infix_append fun hmem => hc (eq_of_mem_encodeChar ha hmem)]
        simp [hc]

end Neighbours

section Texts

variable (cs ds : List Char)

/-- Reading the bytes of a text gives its characters, and no ill-formed piece. -/
theorem readPieces_encode :
    readPieces (encode cs) = cs.map some := by
  induction cs with
  | nil =>
      simp [encode, readPieces]
  | cons c cs ih =>
      rw [encode_cons, readPieces_encodeChar, ih, List.map_cons]

/-- The strict reading gives back what was written. -/
@[simp] theorem decode?_encode :
    decode? (encode cs) = some cs := by
  rw [decode?, readPieces_encode]
  induction cs with
  | nil =>
      rfl
  | cons c cs ih =>
      simp [ih]

/-- The lossy reading loses nothing of what was written. -/
@[simp] theorem decodeLossy_encode :
    decodeLossy (encode cs) = cs := by
  rw [decodeLossy, readPieces_encode, List.map_map]
  exact List.map_id cs

variable {cs ds}

/-- No two texts have the same bytes. -/
theorem encode_inj :
    encode cs = encode ds ↔ cs = ds := by
  constructor
  · intro heq
    have hread := congrArg decode? heq
    rw [decode?_encode, decode?_encode] at hread
    exact Option.some.inj hread
  · exact congrArg encode

theorem encodeString_inj
    {s t : String} :
    encodeString s = encodeString t ↔ s = t := by
  rw [encodeString, encodeString, encode_inj, String.toList_inj]

/-- A text of ASCII characters has one byte for each of them. -/
theorem size_of_ascii
    (hascii : ∀ c ∈ cs, c.toNat < 0x80) :
    size cs = cs.length := by
  induction cs with
  | nil =>
      rfl
  | cons c cs ih =>
      have hrest := ih fun a ha => hascii a (List.mem_cons_of_mem c ha)
      have hc := encodeChar_of_ascii (hascii c List.mem_cons_self)
      calc
        size (c :: cs) = (encodeChar c).length + size cs := by
          simp [size, encode_cons]
        _ = (c :: cs).length := by
          rw [hc, hrest, List.length_singleton, List.length_cons, Nat.add_comm]

end Texts

end Utf8
end FrameBridge
