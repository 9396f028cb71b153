import FrameBridge.Address.IPv6
import FrameBridge.Proofs.Text.LetterCase

/-!
# Letter case in IPv6 addresses

The letter case of hexadecimal digits does not count: an address is read from a
folded text exactly if it is read from the text itself.  Each reader reads the
same from both and leaves the rest of the one as the folded rest of the other.
-/

namespace FrameBridge
namespace Address

open Text

/-- The reader takes no notice of letter case. -/
def FoldsCase {α : Type} (read : List Char → Option (α × List Char)) : Prop :=
  ∀ cs, read (foldCase cs) = (read cs).map (Prod.map id foldCase)

section Readers

/-- Digits of either case are read alike, and the rest keeps its letters. -/
theorem spanDigits_foldCase
    (base : Nat) (cs : List Char) :
    spanDigits base (foldCase cs) =
      ((spanDigits base cs).1, foldCase (spanDigits base cs).2) := by
  have hdigit :
      (fun c => (digitValue base c).isSome) ∘ Char.toLower =
        fun c => (digitValue base c).isSome := by
    funext c
    simp
  have hvalue : digitValue base ∘ Char.toLower = digitValue base := by
    funext c
    simp
  simp only [spanDigits, foldCase, List.takeWhile_map, List.dropWhile_map, hdigit,
    List.filterMap_map, hvalue]

/-- A mark that is no letter is found where it was. -/
theorem readChar_foldCase
    {mark : Char}
    (hmark : mark.isAlpha = false) (cs : List Char) :
    readChar mark (foldCase cs) = (readChar mark cs).map foldCase := by
  cases cs with
  | nil =>
      rfl
  | cons c cs =>
      by_cases hc : c = mark
      · simp [readChar, toLower_eq_iff hmark, hc]
      · simp [readChar, toLower_eq_iff hmark, hc]

theorem foldsCase_readOctet :
    FoldsCase readOctet := by
  intro cs
  simp only [readOctet, spanDigits_foldCase]
  split
  · rfl
  · split <;> rfl

variable {α β : Type} {read : List Char → Option (α × List Char)}
  {next : α → List Char → Option (β × List Char)}

theorem FoldsCase.pure
    (value : α) :
    FoldsCase fun cs => some (value, cs) :=
  fun _ => rfl

/-- What is read first does not depend on letter case, so what is read next does
not either. -/
theorem FoldsCase.bind
    (h : FoldsCase read)
    (hnext : ∀ value, FoldsCase (next value)) :
    FoldsCase fun cs => read cs >>= fun p => next p.1 p.2 := by
  intro cs
  simp only [h cs]
  cases read cs with
  | none =>
      rfl
  | some p =>
      exact hnext p.1 p.2

/-- A reader may begin with a mark that is no letter. -/
theorem FoldsCase.after
    {mark : Char}
    (hmark : mark.isAlpha = false)
    (h : FoldsCase read) :
    FoldsCase fun cs => readChar mark cs >>= read := by
  intro cs
  simp only [readChar_foldCase hmark]
  cases readChar mark cs with
  | none =>
      rfl
  | some rest =>
      exact h rest

end Readers
end Address

open Address Text

theorem IPv4.foldsCase_read :
    FoldsCase IPv4.read := by
  have hpoint : '.'.isAlpha = false := by
    decide
  exact
    foldsCase_readOctet.bind fun a =>
      .after hpoint <| foldsCase_readOctet.bind fun b =>
      .after hpoint <| foldsCase_readOctet.bind fun c =>
      .after hpoint <| foldsCase_readOctet.bind fun d =>
      .pure (⟨a, b, c, d⟩ : IPv4)

namespace IPv6

theorem foldsCase_readGroup :
    FoldsCase readGroup := by
  intro cs
  simp only [readGroup, spanDigits_foldCase]
  split <;> rfl

/-- An item may have a colon in front. -/
theorem foldsCase_readSeparated
    {α : Type} {item : List Char → Option (α × List Char)}
    (first : Bool)
    (hitem : FoldsCase item) :
    FoldsCase (readSeparated first item) := by
  cases first with
  | true =>
      exact hitem
  | false =>
      exact .after (by decide) hitem

/-- The same groups are read, and the rest is folded. -/
theorem readGroups_foldCase
    (room : Nat) (first : Bool) (cs : List Char) :
    readGroups room first (foldCase cs) =
      { readGroups room first cs with rest := foldCase (readGroups room first cs).rest } := by
  induction room generalizing first cs with
  | zero =>
      rfl
  | succ room ih =>
      have hgroup := foldsCase_readSeparated first foldsCase_readGroup cs
      have haddress :
          (if room = 0 then none else readSeparated first IPv4.read (foldCase cs)) =
            (if room = 0 then none else readSeparated first IPv4.read cs).map
              (Prod.map id foldCase) := by
        split
        · rfl
        · exact foldsCase_readSeparated first IPv4.foldsCase_read cs
      unfold readGroups
      rw [haddress, hgroup]
      cases (if room = 0 then none else readSeparated first IPv4.read cs) with
      | some address =>
          rfl
      | none =>
          cases readSeparated first readGroup cs with
          | none =>
              rfl
          | some group =>
              simp [ih]

/-- What follows the groups at the start of an address. -/
theorem foldsCase_tail
    (head : List UInt16) (room : Nat) :
    FoldsCase fun cs => do
      let rest ← readChar ':' cs
      let rest ← readChar ':' rest
      let tail := readGroups room true rest
      let ip ← ofEnds? head tail.groups
      return (ip, tail.rest) := by
  have hcolon : ':'.isAlpha = false := by
    decide
  refine .after hcolon (.after hcolon fun rest => ?_)
  simp only [readGroups_foldCase]
  cases ofEnds? head (readGroups room true rest).groups <;> rfl

theorem foldsCase_read :
    FoldsCase IPv6.read := by
  intro cs
  simp only [IPv6.read, readGroups_foldCase]
  split
  · cases ofEnds? (readGroups 8 true cs).groups [] <;> rfl
  · split
    · rfl
    · exact foldsCase_tail _ _ _

/-- A text and the folded text are the same address, or none. -/
theorem parse?_foldCase
    (cs : List Char) :
    parse? (foldCase cs) = parse? cs := by
  rw [parse?, parse?, foldsCase_read]
  cases hread : IPv6.read cs with
  | none =>
      rfl
  | some p =>
      obtain ⟨ip, rest⟩ := p
      cases rest <;> rfl

end IPv6
end FrameBridge
