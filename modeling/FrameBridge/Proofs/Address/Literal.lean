import FrameBridge.Address.IPv6
import Mathlib.Data.List.TakeWhile

/-!
# The characters of an IPv6 address

Reading an address takes characters off the start of a text: hexadecimal digits,
colons and points.  A text that is an address from one end to the other has no
other characters, and it has at least two colons: a name with a port behind it
is no address.
-/

namespace FrameBridge
namespace Address

/-- A character that a written address can have. -/
def IsLiteralChar (c : Char) : Prop :=
  (Text.hexValue c).isSome = true ∨ c = ':' ∨ c = '.'

/-- What is left of a text, once some characters of an address are taken off its
start. -/
def Leaves (cs rest : List Char) : Prop :=
  ∃ taken, cs = taken ++ rest ∧ ∀ c ∈ taken, IsLiteralChar c

section Leaves

variable {cs rest left : List Char}

theorem Leaves.refl
    (cs : List Char) :
    Leaves cs cs :=
  ⟨[], rfl, by simp⟩

theorem Leaves.trans
    (h : Leaves cs rest)
    (hrest : Leaves rest left) :
    Leaves cs left := by
  obtain ⟨taken, rfl, hall⟩ := h
  obtain ⟨more, rfl, hmore⟩ := hrest
  refine ⟨taken ++ more, by simp, fun c hc => ?_⟩
  rcases List.mem_append.mp hc with hc | hc
  · exact hall c hc
  · exact hmore c hc

/-- What is left has no more of a character than there was. -/
theorem Leaves.count_le
    (h : Leaves cs rest) (c : Char) :
    rest.count c ≤ cs.count c := by
  obtain ⟨taken, rfl, -⟩ := h
  rw [List.count_append]
  exact Nat.le_add_left _ _

/-- A text of which nothing is left has no other characters. -/
theorem Leaves.isLiteralChar
    (h : Leaves cs []) :
    ∀ c ∈ cs, IsLiteralChar c := by
  obtain ⟨taken, rfl, hall⟩ := h
  simpa using hall

end Leaves

section Readers

variable {cs rest : List Char}

theorem leaves_spanDigits
    (base : Nat) (cs : List Char) :
    Leaves cs (spanDigits base cs).2 := by
  refine
    ⟨cs.takeWhile fun c => (Text.digitValue base c).isSome,
      List.takeWhile_append_dropWhile.symm, fun c hc => Or.inl ?_⟩
  have hdigit : (Text.digitValue base c).isSome = true := by
    simpa using List.mem_takeWhile_imp hc
  obtain ⟨value, hvalue⟩ := Option.isSome_iff_exists.mp hdigit
  rw [(Option.filter_eq_some_iff.mp hvalue).1]
  rfl

theorem eq_cons_of_readChar
    {c : Char}
    (hread : readChar c cs = some rest) :
    cs = c :: rest := by
  cases cs with
  | nil =>
      cases hread
  | cons head tail =>
      simp only [readChar, Option.ite_none_right_eq_some, Option.some.injEq] at hread
      rw [hread.1, hread.2]

theorem leaves_readChar
    {c : Char}
    (hc : IsLiteralChar c)
    (hread : readChar c cs = some rest) :
    Leaves cs rest :=
  ⟨[c], eq_cons_of_readChar hread, by simpa using hc⟩

theorem leaves_readOctet
    {octet : UInt8}
    (hread : readOctet cs = some (octet, rest)) :
    Leaves cs rest := by
  simp only [readOctet, Option.ite_none_left_eq_some, Option.ite_none_right_eq_some,
    Option.some.injEq, Prod.mk.injEq] at hread
  obtain ⟨-, -, -, rfl⟩ := hread
  exact leaves_spanDigits 10 cs

end Readers
end Address

open Address

theorem IPv4.leaves_read
    {cs rest : List Char} {ip : IPv4}
    (hread : IPv4.read cs = some (ip, rest)) :
    Leaves cs rest := by
  have hpoint : IsLiteralChar '.' := Or.inr (Or.inr rfl)
  simp only [IPv4.read, Option.bind_eq_bind, Option.bind_eq_some_iff, Prod.exists] at hread
  obtain ⟨a, cs₁, ha, cs₂, hb, b, cs₃, hb', cs₄, hc, c, cs₅, hc', cs₆, hd, d, cs₇, hd', h⟩ := hread
  cases h
  exact
    (leaves_readOctet ha).trans <| (leaves_readChar hpoint hb).trans <|
      (leaves_readOctet hb').trans <| (leaves_readChar hpoint hc).trans <|
      (leaves_readOctet hc').trans <| (leaves_readChar hpoint hd).trans <|
      leaves_readOctet hd'

namespace IPv6

section Groups

variable {cs rest : List Char}

theorem isLiteralChar_colon :
    IsLiteralChar ':' :=
  Or.inr (Or.inl rfl)

theorem leaves_readGroup
    {group : UInt16}
    (hread : readGroup cs = some (group, rest)) :
    Leaves cs rest := by
  simp only [readGroup, Option.ite_none_left_eq_some, Option.some.injEq,
    Prod.mk.injEq] at hread
  obtain ⟨-, -, rfl⟩ := hread
  exact leaves_spanDigits 16 cs

theorem leaves_readSeparated
    {α : Type} {item : List Char → Option (α × List Char)} {first : Bool} {value : α}
    (hitem : ∀ {cs rest value}, item cs = some (value, rest) → Leaves cs rest)
    (hread : readSeparated first item cs = some (value, rest)) :
    Leaves cs rest := by
  cases first with
  | true =>
      exact hitem hread
  | false =>
      obtain ⟨left, hcolon, hrest⟩ := Option.bind_eq_some_iff.mp hread
      exact (leaves_readChar isLiteralChar_colon hcolon).trans (hitem hrest)

/-- However many groups there is room for, they take a beginning of the text. -/
theorem leaves_readGroups
    (room : Nat) (first : Bool) (cs : List Char) :
    Leaves cs (readGroups room first cs).rest := by
  induction room generalizing first cs with
  | zero =>
      exact Leaves.refl cs
  | succ room ih =>
      unfold readGroups
      split
      · rename_i ip rest hread
        split at hread
        · cases hread
        · exact leaves_readSeparated IPv4.leaves_read hread
      · split
        · exact Leaves.refl cs
        · rename_i group rest hread
          exact (leaves_readSeparated leaves_readGroup hread).trans (ih false rest)

/-- What is read behind a mark leaves one mark less. -/
theorem count_readSeparated
    {α : Type} {item : List Char → Option (α × List Char)} {first : Bool} {value : α}
    (hitem : ∀ {cs rest value}, item cs = some (value, rest) → Leaves cs rest)
    (hread : readSeparated first item cs = some (value, rest)) :
    rest.count ':' + (if first then 0 else 1) ≤ cs.count ':' := by
  cases first with
  | true =>
      exact (hitem hread).count_le ':'
  | false =>
      obtain ⟨left, hcolon, hrest⟩ := Option.bind_eq_some_iff.mp hread
      have hless := (hitem hrest).count_le ':'
      rw [eq_cons_of_readChar hcolon, List.count_cons_self]
      exact Nat.succ_le_succ hless

/-- There is a colon before every group but the first, and an IPv4 address is two
groups. -/
theorem count_readGroups
    (room : Nat) (first : Bool) (cs : List Char) :
    (readGroups room first cs).groups.length + (readGroups room first cs).rest.count ':' +
        (if first then 0 else 1) ≤
      cs.count ':' + 2 := by
  have hmark : (if first then 0 else 1) ≤ 1 := by
    split <;> omega
  induction room generalizing first cs with
  | zero =>
      simp only [readGroups, List.length_nil]
      omega
  | succ room ih =>
      unfold readGroups
      split
      · rename_i ip rest hread
        split at hread
        · cases hread
        · have hless := count_readSeparated IPv4.leaves_read hread
          simp only [IPv4.toGroups, List.length_cons, List.length_nil]
          omega
      · split
        · simp only [List.length_nil]
          omega
        · rename_i group rest hread
          have hless := count_readSeparated leaves_readGroup hread
          have hmore := ih false rest (Nat.le_refl 1)
          simp only [Bool.false_eq_true, if_false] at hmore
          simp only [List.length_cons]
          omega

/-- What an address leaves of a text, and that there are two colons in it. -/
theorem leaves_read
    {ip : IPv6}
    (hread : IPv6.read cs = some (ip, rest)) :
    Leaves cs rest ∧ 2 ≤ cs.count ':' := by
  have hhead := leaves_readGroups 8 true cs
  simp only [IPv6.read] at hread
  split at hread
  · rename_i height
    simp only [Option.bind_eq_bind, Option.bind_eq_some_iff] at hread
    obtain ⟨_, -, h⟩ := hread
    cases h
    have hcount := count_readGroups 8 true cs
    rw [height] at hcount
    exact ⟨hhead, by omega⟩
  · split at hread
    · cases hread
    · simp only [Option.bind_eq_bind, Option.bind_eq_some_iff] at hread
      obtain ⟨rest₁, hfirst, rest₂, hsecond, _, -, h⟩ := hread
      cases h
      refine ⟨?_, ?_⟩
      · exact
          hhead.trans <| (leaves_readChar isLiteralChar_colon hfirst).trans <|
            (leaves_readChar isLiteralChar_colon hsecond).trans <|
            leaves_readGroups _ true rest₂
      · refine Nat.le_trans ?_ (hhead.count_le ':')
        rw [eq_cons_of_readChar hfirst, eq_cons_of_readChar hsecond]
        simp

end Groups

section Literals

variable {cs : List Char}

/-- An address is a whole text of the characters that one can have, and has two
colons at least. -/
theorem leaves_of_parse?
    (hparse : (parse? cs).isSome = true) :
    Leaves cs [] ∧ 2 ≤ cs.count ':' := by
  unfold parse? at hparse
  split at hparse
  · rename_i ip hread
    exact leaves_read hread
  · cases hparse

/-- A written address has hexadecimal digits, colons and points only. -/
theorem isLiteralChar_of_parse?
    (hparse : (parse? cs).isSome = true) :
    ∀ c ∈ cs, IsLiteralChar c :=
  (leaves_of_parse? hparse).1.isLiteralChar

/-- A written address has at least two colons. -/
theorem two_le_count_of_parse?
    (hparse : (parse? cs).isSome = true) :
    2 ≤ cs.count ':' :=
  (leaves_of_parse? hparse).2

/-- No text without a colon is an IPv6 address. -/
theorem colon_mem_of_parse?
    (hparse : (parse? cs).isSome = true) :
    ':' ∈ cs :=
  List.count_pos_iff.mp (Nat.lt_of_lt_of_le Nat.zero_lt_two (two_le_count_of_parse? hparse))

end Literals

end IPv6
end FrameBridge
