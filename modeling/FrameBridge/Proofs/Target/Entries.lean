import FrameBridge.Proofs.Target.LetterCase
import FrameBridge.Proofs.Text.Trim

/-!
# Entries of a list of allowed targets

An entry is accepted if it is a target, which it then stands for, or a host,
which stands for all its ports.  No text is both, since a host with a colon is an
IPv6 address and has another one.

A target is compared with an entry in another way: brackets around an entry that
is no target are taken off, and what is left is not checked.  For accepted
entries this follows the meaning (`matchesEntry_iff_admits`).  The other entries
that some target matches are the hosts in brackets
(`honoured_but_refused_iff`).
-/

namespace FrameBridge
namespace Target

open Text

/-- What an entry can stand for. -/
inductive EntryMeaning where
  | target (allowed : Target)
  | host (name : String)

/-- An entry stands for something. -/
inductive Means (entry : String) : EntryMeaning → Prop
  | target
      {allowed : Target}
      (hparse : parse entry = .ok allowed) :
      Means entry (.target allowed)
  | host
      (hhost : checkHost entry = .ok ()) :
      Means entry (.host entry)

/-- The target is one of those that are stood for. -/
def EntryMeaning.Admits : EntryMeaning → Target → Prop
  | .target allowed, t => Text.SameLetters allowed.host t.host ∧ allowed.port = t.port
  | .host name, t => Text.SameLetters name t.host

/-- Some target that can be put together matches the entry. -/
def Honoured (entry : String) : Prop :=
  ∃ host port t, ofParts host port = .ok t ∧ t.matchesEntry entry = true

/-- The entry is a text with brackets at one of its ends or both. -/
def InBrackets (entry host : String) : Prop :=
  ∃ front back,
    entry.toList = front ++ host.toList ++ back ∧
    front ++ back ≠ [] ∧
    ∀ c ∈ front ++ back, isBracket c = true

section Hosts

variable {host entry : String} {c : Char} {t : Target}

/-- A valid host has no characters but these. -/
theorem mem_of_checkHost
    (hok : checkHost host = .ok ())
    (hc : c ∈ host.toList) :
    c.isAlphanum = true ∨ c = '.' ∨ c = '-' ∨ c = '_' ∨ c = ':' := by
  rcases checkHost_eq_ok_iff.mp hok with hname | haddress
  · rcases hname.chars c hc with halnum | hmark | hmark | hmark <;> simp [*]
  · rcases IPv6.isLiteralChar_of_parse? haddress c hc with hhex | hmark | hmark
    · exact Or.inl (isAlphanum_of_hexValue hhex)
    · simp [hmark]
    · simp [hmark]

theorem isBracket_of_checkHost
    (hok : checkHost host = .ok ())
    (hc : c ∈ host.toList) :
    isBracket c = false := by
  rcases mem_of_checkHost hok hc with halnum | rfl | rfl | rfl | rfl
  · have hrange := toNat_of_isAlphanum halnum
    simp only [isBracket, Bool.or_eq_false_iff, beq_eq_false_iff_ne]
    refine ⟨?_, ?_⟩ <;> rintro rfl <;> exact absurd hrange (by decide)
  all_goals decide

theorem isBlank_of_checkHost
    (hok : checkHost host = .ok ())
    (hc : c ∈ host.toList) :
    isBlank c = false := by
  rcases mem_of_checkHost hok hc with halnum | rfl | rfl | rfl | rfl
  · exact isBlank_of_isAlphanum halnum
  all_goals decide

theorem toList_ne_nil_of_checkHost
    (hok : checkHost host = .ok ()) :
    host.toList ≠ [] := by
  rcases checkHost_eq_ok_iff.mp hok with hname | haddress
  · exact hname.ne_nil
  · exact List.ne_nil_of_mem (IPv6.colon_mem_of_parse? haddress)

/-- A host has no colon or at least two. -/
theorem count_ne_one_of_checkHost
    (hok : checkHost host = .ok ()) :
    host.toList.count ':' ≠ 1 := by
  rcases checkHost_eq_ok_iff.mp hok with hname | haddress
  · rw [List.count_eq_zero.mpr (hname.notMem (by decide))]
    decide
  · have htwo := IPv6.two_le_count_of_parse? haddress
    omega

/-- Brackets around a host are taken off, and nothing else. -/
theorem stripBoth_inBrackets
    {front back : List Char}
    (hok : checkHost host = .ok ())
    (hbrackets : ∀ c ∈ front ++ back, isBracket c = true) :
    stripBoth isBracket (front ++ host.toList ++ back) = host.toList :=
  stripBoth_append isBracket host.toList
    (fun c hc => hbrackets c (List.mem_append_left back hc))
    (fun c hc => hbrackets c (List.mem_append_right front hc))
    (toList_ne_nil_of_checkHost hok)
    (fun _ hc => isBracket_of_checkHost hok (List.mem_of_head? hc))
    (fun _ hc => isBracket_of_checkHost hok (List.mem_of_getLast? hc))

theorem isBracket_of_isPort
    {port : List Char} {n : Nat}
    (hport : IsPort port n)
    (hc : c ∈ port) :
    isBracket c = false := by
  simp only [isBracket, Bool.or_eq_false_iff, beq_eq_false_iff_ne]
  refine ⟨?_, ?_⟩ <;> rintro rfl
  · exact hport.numeral.notMem (by decide) (by decide) hc
  · exact hport.numeral.notMem (by decide) (by decide) hc

/-- What is inside the outer brackets of a target still has a bracket. -/
theorem stripBoth_bracketed
    {address port : List Char} {n : Nat}
    (haddress : (IPv6.parse? address).isSome = true)
    (hport : IsPort port n) :
    stripBoth isBracket ('[' :: address ++ ']' :: ':' :: port) =
      address ++ ']' :: ':' :: port := by
  have hne : address ≠ [] := List.ne_nil_of_mem (IPv6.colon_mem_of_parse? haddress)
  have hhost : checkHost (String.ofList address) = .ok () :=
    checkHost_eq_ok_iff.mpr (Or.inr (by rwa [String.toList_ofList]))
  have hinner : ['['] ++ (address ++ ']' :: ':' :: port) ++ [] =
      '[' :: address ++ ']' :: ':' :: port := by
    simp
  rw [← hinner]
  refine stripBoth_append isBracket _ (by simp [isBracket]) (by simp) (by simp) ?_ ?_
  · intro c hc
    rw [List.head?_append_of_ne_nil _ hne] at hc
    refine isBracket_of_checkHost hhost ?_
    rw [String.toList_ofList]
    exact List.mem_of_head? hc
  · intro c hc
    rw [List.getLast?_append_of_ne_nil _ (by simp),
      List.getLast?_cons_of_ne_nil (by simp)] at hc
    rcases List.mem_cons.mp (List.mem_of_getLast? hc) with rfl | hmem
    · decide
    · exact isBracket_of_isPort hport hmem

/-- No target is written as a host, in brackets or without. -/
theorem not_written_of_checkHost
    {front back : List Char}
    (hok : checkHost host = .ok ())
    (hbrackets : ∀ c ∈ front ++ back, isBracket c = true) :
    ¬ Written (front ++ host.toList ++ back) t := by
  have hstrip := stripBoth_inBrackets hok hbrackets
  have hcount : (front ++ host.toList ++ back).count ':' = host.toList.count ':' := by
    have hcolon : (front ++ back).count ':' = 0 :=
      List.count_eq_zero.mpr fun hmem => absurd (hbrackets _ hmem) (by decide)
    rw [List.count_append] at hcolon
    rw [List.count_append, List.count_append]
    omega
  generalize front ++ host.toList ++ back = text at hstrip hcount
  rintro (⟨hname, hport⟩ | ⟨haddress, hport⟩)
  · -- one colon, which a host cannot have
    refine count_ne_one_of_checkHost hok ?_
    rw [← hcount, List.count_append, List.count_cons_self,
      List.count_eq_zero.mpr (hname.notMem (by decide)),
      List.count_eq_zero.mpr hport.colon]
  · rw [stripBoth_bracketed haddress hport] at hstrip
    have hclose : ']' ∈ host.toList := by
      rw [← hstrip]
      simp
    exact absurd (isBracket_of_checkHost hok hclose) (by decide)

/-- A host in brackets, or without, is not read as a target. -/
theorem parse_of_checkHost
    {front back : List Char}
    (hentry : entry.toList = front ++ host.toList ++ back)
    (hok : checkHost host = .ok ())
    (hbrackets : ∀ c ∈ front ++ back, isBracket c = true) :
    ∃ e, parse entry = .error e := by
  cases hparse : parse entry with
  | error e =>
      exact ⟨e, rfl⟩
  | ok t =>
      have htrim : trim entry.toList = entry.toList := by
        refine stripBoth_of_forall isBlank _ fun c hc => ?_
        rw [hentry, List.append_assoc, List.mem_append, List.mem_append] at hc
        have hbracket : isBracket c = true → isBlank c = false := by
          intro hc
          rcases (Bool.or_eq_true_iff.mp hc) with hc | hc <;>
            rw [beq_iff_eq.mp hc] <;> decide
        rcases hc with hc | hc | hc
        · exact hbracket (hbrackets c (List.mem_append_left back hc))
        · exact isBlank_of_checkHost hok hc
        · exact hbracket (hbrackets c (List.mem_append_right front hc))
      have hwritten := written_of_parse hparse
      rw [htrim, hentry] at hwritten
      exact absurd hwritten (not_written_of_checkHost hok hbrackets)

end Hosts

section Meanings

variable {entry : String} {t : Target} {meaning other : EntryMeaning}

/-- A host is no target. -/
theorem parse_error_of_checkHost
    (hok : checkHost entry = .ok ()) :
    ∃ e, parse entry = .error e := by
  have hentry : entry.toList = [] ++ entry.toList ++ [] := by
    simp
  exact parse_of_checkHost hentry hok (by simp)

/-- Exactly those entries are accepted that stand for something. -/
theorem checkEntry_eq_ok_iff :
    checkEntry entry = .ok () ↔ ∃ meaning, Means entry meaning := by
  unfold checkEntry
  cases hparse : parse entry with
  | ok allowed =>
      simp only [true_iff]
      exact ⟨_, .target hparse⟩
  | error e =>
      constructor
      · intro hok
        exact ⟨_, .host hok⟩
      · rintro ⟨_, hread | hok⟩
        · rw [hparse] at hread
          cases hread
        · exact hok

/-- No entry stands for two things. -/
theorem Means.unique
    (h : Means entry meaning)
    (hother : Means entry other) :
    other = meaning := by
  cases h with
  | target hparse =>
      cases hother with
      | target hparse' =>
          rw [hparse] at hparse'
          cases hparse'
          rfl
      | host hok =>
          obtain ⟨e, herror⟩ := parse_error_of_checkHost hok
          rw [hparse] at herror
          cases herror
  | host hok =>
      cases hother with
      | target hparse =>
          obtain ⟨e, herror⟩ := parse_error_of_checkHost hok
          rw [hparse] at herror
          cases herror
      | host =>
          rfl

/-- A target is compared with what is left of the entry without its brackets, but
a host has none. -/
theorem matchesEntry_iff_admits
    (h : Means entry meaning) :
    t.matchesEntry entry = true ↔ meaning.Admits t := by
  cases h with
  | target hparse =>
      rw [matchesEntry_of_parse hparse]
      constructor
      · intro hsame
        exact ⟨hsame.host, hsame.port⟩
      · rintro ⟨hhost, hport⟩
        exact ⟨hhost, hport⟩
  | host hok =>
      obtain ⟨e, herror⟩ := parse_error_of_checkHost hok
      have hstrip : stripBoth isBracket entry.toList = entry.toList :=
        stripBoth_of_forall isBracket _ fun _ hc => isBracket_of_checkHost hok hc
      rw [matchesEntry_of_error herror, hstrip]
      rfl

end Meanings

section Honoured

variable {entry host : String} {t : Target}

theorem honoured_of_wellFormed
    (hwell : t.WellFormed)
    (hmatches : t.matchesEntry entry = true) :
    Honoured entry :=
  ⟨t.host, t.port, t, ofParts_eq_ok_iff.mpr ⟨rfl, hwell⟩, hmatches⟩

theorem wellFormed_of_checkHost
    (hok : checkHost host = .ok ()) :
    WellFormed ⟨host, 1⟩ := by
  have hport : (1 : UInt16) ≠ 0 := by
    decide
  exact ⟨hok, hport⟩

/-- A target matches itself, and a host matches the target with any port. -/
theorem honoured_of_means
    {meaning : EntryMeaning}
    (h : Means entry meaning) :
    Honoured entry := by
  cases h with
  | @target allowed hparse =>
      refine honoured_of_wellFormed (wellFormed_of_parse hparse) ?_
      exact (matchesEntry_of_parse hparse).mpr ⟨rfl, rfl⟩
  | host hok =>
      refine honoured_of_wellFormed (wellFormed_of_checkHost hok) ?_
      exact (matchesEntry_iff_admits (.host hok)).mpr rfl

/-- A valid host in brackets matches some target, but is refused as an entry. -/
theorem honoured_of_inBrackets
    (hok : checkHost host = .ok ())
    (hbrackets : InBrackets entry host) :
    Honoured entry ∧ checkEntry entry ≠ .ok () := by
  obtain ⟨front, back, hentry, hne, hall⟩ := hbrackets
  obtain ⟨e, herror⟩ := parse_of_checkHost hentry hok hall
  constructor
  · refine honoured_of_wellFormed (wellFormed_of_checkHost hok) ?_
    rw [matchesEntry_of_error herror, hentry, stripBoth_inBrackets hok hall]
  · rw [Ne, checkEntry_eq_ok_iff]
    rintro ⟨_, hparse | hbare⟩
    · rw [herror] at hparse
      cases hparse
    · obtain ⟨c, hc⟩ := List.exists_mem_of_ne_nil _ hne
      have hmem : c ∈ entry.toList := by
        rw [hentry]
        rcases List.mem_append.mp hc with hc | hc <;> simp [hc]
      have hbracket := hall c hc
      rw [isBracket_of_checkHost hbare hmem] at hbracket
      cases hbracket

/-- An entry that matches some target and is refused is a valid host in brackets. -/
theorem inBrackets_of_honoured
    (hhonoured : Honoured entry)
    (hrefused : checkEntry entry ≠ .ok ()) :
    ∃ host, checkHost host = .ok () ∧ InBrackets entry host := by
  obtain ⟨name, port, t, hparts, hmatches⟩ := hhonoured
  obtain ⟨-, hwell⟩ := ofParts_eq_ok_iff.mp hparts
  rw [Ne, checkEntry_eq_ok_iff, not_exists] at hrefused
  cases hparse : parse entry with
  | ok allowed =>
      exact absurd (.target hparse) (hrefused _)
  | error e =>
      rw [matchesEntry_of_error hparse] at hmatches
      have hok : checkHost (String.ofList (stripBoth isBracket entry.toList)) = .ok () := by
        refine checkHost_of_sameLetters ?_ hwell.host
        rw [Text.SameLetters, String.toList_ofList]
        exact hmatches.symm
      obtain ⟨front, back, hentry, hall⟩ := exists_eq_append_stripBoth isBracket entry.toList
      refine ⟨_, hok, front, back, ?_, ?_, hall⟩
      · rwa [String.toList_ofList]
      · -- with no bracket to take off, the entry would be a host
        intro hnil
        obtain ⟨rfl, rfl⟩ := List.append_eq_nil_iff.mp hnil
        rw [List.nil_append, List.append_nil] at hentry
        rw [← hentry, String.ofList_toList] at hok
        exact hrefused _ (.host hok)

/-- Every entry that is accepted is matched by some target.  The entries that are
matched by some target but refused are the hosts in brackets, and no others. -/
theorem honoured_but_refused_iff
    (entry : String) :
    (checkEntry entry = .ok () → Honoured entry) ∧
    (Honoured entry ∧ checkEntry entry ≠ .ok () ↔
      ∃ host, checkHost host = .ok () ∧ InBrackets entry host) := by
  constructor
  · intro hok
    obtain ⟨meaning, hmeans⟩ := checkEntry_eq_ok_iff.mp hok
    exact honoured_of_means hmeans
  · constructor
    · rintro ⟨hhonoured, hrefused⟩
      exact inBrackets_of_honoured hhonoured hrefused
    · rintro ⟨host, hok, hbrackets⟩
      exact honoured_of_inBrackets hok hbrackets

/-- An address is accepted without brackets only, but is matched with them too. -/
theorem honoured_but_refused_iff_address :
    Honoured "::1" ∧
      Honoured "[::1]" ∧
      checkEntry "[::1]" ≠ .ok () := by
  have hok : checkHost "::1" = .ok () := by
    decide
  have hbrackets : InBrackets "[::1]" "::1" :=
    ⟨['['], [']'], by decide, by decide, by simp [isBracket]⟩
  have hbare := (honoured_but_refused_iff "::1").1 (by decide)
  have hbracketed := (honoured_but_refused_iff "[::1]").2.mpr ⟨"::1", hok, hbrackets⟩
  exact ⟨hbare, hbracketed⟩

/-- It does not hold that the entries which are accepted are those which are
matched by some target. -/
theorem accepted_ne_honoured :
    ¬ ∀ entry, checkEntry entry = .ok () ↔ Honoured entry := by
  intro hagree
  have hparts : ofParts "::1" 22 = .ok ⟨"::1", 22⟩ := by
    decide
  have hmatches : matchesEntry ⟨"::1", 22⟩ "[::1]" = true := by
    decide
  have haccepted := (hagree "[::1]").mpr ⟨"::1", 22, _, hparts, hmatches⟩
  have hrefused : checkEntry "[::1]" = .error (.invalidHost "[::1]") := by
    decide
  rw [hrefused] at haccepted
  cases haccepted

end Honoured

end Target
end FrameBridge
