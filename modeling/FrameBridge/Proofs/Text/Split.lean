import FrameBridge.Text.Split
import Mathlib.Data.List.Infix

/-!
# The parts of a list

What can be said of the parts between separators without cutting the list.  A
list is cut at its first separator if there is none in the part before it, and
at its last separator if there is none in the part behind it.  Of the parts
between all separators, one other than the first begins with an element exactly
if the element stands right behind a separator.
-/

namespace FrameBridge
namespace Text

variable {α : Type} [DecidableEq α] {sep c : α} {l part : List α} {parts : List (List α)}

section Cut

variable {front back : List α}

theorem splitFirst_eq_none_iff :
    splitFirst sep l = none ↔ sep ∉ l := by
  induction l with
  | nil =>
      simp [splitFirst]
  | cons a rest ih =>
      by_cases ha : a = sep
      · simp [splitFirst, ha]
      · simp [splitFirst, ha, ih, Ne.symm ha]

/-- The first separator is the one with none in front. -/
theorem splitFirst_append
    (hfront : sep ∉ front) :
    splitFirst sep (front ++ sep :: back) = some (front, back) := by
  induction front with
  | nil =>
      simp [splitFirst]
  | cons a front ih =>
      rw [List.mem_cons, not_or] at hfront
      simp [splitFirst, Ne.symm hfront.1, ih hfront.2]

theorem splitLast_eq_none_iff :
    splitLast sep l = none ↔ sep ∉ l := by
  induction l with
  | nil =>
      simp [splitLast]
  | cons a rest ih =>
      cases hrest : splitLast sep rest with
      | some cut =>
          have hmem : sep ∈ rest := by
            by_contra hno
            rw [ih.mpr hno] at hrest
            cases hrest
          simp [splitLast, hrest, hmem]
      | none =>
          have hno := ih.mp hrest
          by_cases ha : a = sep
          · simp [splitLast, hrest, ha]
          · simp [splitLast, hrest, ha, hno, Ne.symm ha]

/-- The last separator is the one with none behind it. -/
theorem splitLast_append
    (hback : sep ∉ back) :
    splitLast sep (front ++ sep :: back) = some (front, back) := by
  induction front with
  | nil =>
      simp [splitLast, splitLast_eq_none_iff.mpr hback]
  | cons a front ih =>
      simp [splitLast, ih]

omit [DecidableEq α] in
/-- An element of a list has a last place in it. -/
theorem eq_append_cons_last_of_mem
    (hsep : sep ∈ l) :
    ∃ front back, l = front ++ sep :: back ∧ sep ∉ back := by
  obtain ⟨front, back, hl, hfront⟩ :=
    List.eq_append_cons_of_mem (List.mem_reverse.mpr hsep)
  refine ⟨back.reverse, front.reverse, ?_, by simpa using hfront⟩
  simpa using congrArg List.reverse hl

end Cut

theorem splitAll_ne_nil
    (sep : α) (l : List α) :
    splitAll sep l ≠ [] := by
  cases l with
  | nil =>
      exact List.cons_ne_nil _ _
  | cons a rest =>
      rw [splitAll]
      split
      · exact List.cons_ne_nil _ _
      · split <;> exact List.cons_ne_nil _ _

theorem splitAll_cons_self
    (hsplit : splitAll sep l = part :: parts) :
    splitAll sep (sep :: l) = [] :: part :: parts := by
  simp only [splitAll, hsplit, if_true]

theorem splitAll_cons_of_ne
    (hne : c ≠ sep)
    (hsplit : splitAll sep l = part :: parts) :
    splitAll sep (c :: l) = (c :: part) :: parts := by
  simp only [splitAll, hsplit, if_neg hne]

/-- The parts between all separators are those of the library. -/
theorem splitAll_eq_splitOn :
    splitAll sep l = l.splitOn sep := by
  induction l with
  | nil =>
      rfl
  | cons a rest ih =>
      obtain ⟨part, parts, hrest⟩ := List.exists_cons_of_ne_nil (splitAll_ne_nil sep rest)
      rw [hrest] at ih
      rw [List.splitOn, List.splitOnP_cons_eq_if_modifyHead, ← List.splitOn, ← ih]
      by_cases ha : a = sep
      · rw [ha, splitAll_cons_self hrest]
        simp
      · rw [splitAll_cons_of_ne ha hrest]
        simp [ha]

/-- Parts without a separator come back from the text that they were joined to. -/
theorem splitAll_intercalate
    (hparts : ∀ part ∈ parts, sep ∉ part)
    (hne : parts ≠ []) :
    splitAll sep ([sep].intercalate parts) = parts := by
  rw [splitAll_eq_splitOn, List.splitOn_intercalate sep hparts hne]

/-- Different elements stay different, so that the parts of the image are the images
of the parts. -/
theorem splitAll_map
    {β : Type} [DecidableEq β] {f : α → β}
    (sep : α)
    (hf : Function.Injective f) :
    splitAll (f sep) (l.map f) = (splitAll sep l).map (List.map f) := by
  induction l with
  | nil =>
      rfl
  | cons a rest ih =>
      obtain ⟨part, parts, hrest⟩ := List.exists_cons_of_ne_nil (splitAll_ne_nil sep rest)
      rw [hrest, List.map_cons] at ih
      by_cases ha : a = sep
      · rw [ha, splitAll_cons_self hrest, List.map_cons, splitAll_cons_self ih]
        rfl
      · rw [splitAll_cons_of_ne ha hrest, List.map_cons,
          splitAll_cons_of_ne (mt (fun heq => hf heq) ha) ih]
        rfl

/-- Joining lists with the separator joins their parts. -/
theorem splitOn_intercalate_flatMap
    (hne : parts ≠ []) :
    ([sep].intercalate parts).splitOn sep = parts.flatMap (List.splitOn sep) := by
  induction parts with
  | nil =>
      exact absurd rfl hne
  | cons part parts ih =>
      by_cases hnil : parts = []
      · subst hnil
        simp
      · rw [List.intercalate_cons_of_ne_nil hnil, List.flatMap_cons, ← ih hnil,
          List.append_assoc]
        exact List.splitOnP_append_cons part _ (beq_self_eq_true sep)

theorem head?_first_part
    (hne : c ≠ sep)
    (hsplit : splitAll sep l = part :: parts) :
    part.head? = some c ↔ l.head? = some c := by
  cases l with
  | nil =>
      cases hsplit
      rfl
  | cons a rest =>
      obtain ⟨p, ps, hrest⟩ := List.exists_cons_of_ne_nil (splitAll_ne_nil sep rest)
      by_cases ha : a = sep
      · subst ha
        rw [splitAll_cons_self hrest] at hsplit
        cases hsplit
        simp [Ne.symm hne]
      · rw [splitAll_cons_of_ne ha hrest] at hsplit
        cases hsplit
        rfl

theorem head?_other_part
    (hne : c ≠ sep)
    (hsplit : splitAll sep l = part :: parts) :
    (∃ other ∈ parts, other.head? = some c) ↔ [sep, c] <:+: l := by
  induction l generalizing part parts with
  | nil =>
      cases hsplit
      simp
  | cons a rest ih =>
      obtain ⟨p, ps, hrest⟩ := List.exists_cons_of_ne_nil (splitAll_ne_nil sep rest)
      rw [List.infix_cons_iff, List.cons_prefix_cons, ← ih hrest]
      by_cases ha : a = sep
      · subst ha
        rw [splitAll_cons_self hrest] at hsplit
        cases hsplit
        rw [List.exists_mem_cons_iff, head?_first_part hne hrest,
          List.singleton_prefix_iff_head?_eq_some]
        simp
      · rw [splitAll_cons_of_ne ha hrest] at hsplit
        cases hsplit
        simp [Ne.symm ha]

/-- A part begins with a character where the text does, or where the character
follows a separator. -/
theorem exists_part_iff
    (hne : c ≠ sep) :
    (∃ part ∈ splitAll sep l, part.head? = some c) ↔
      l.head? = some c ∨ [sep, c] <:+: l := by
  obtain ⟨part, parts, hsplit⟩ := List.exists_cons_of_ne_nil (splitAll_ne_nil sep l)
  rw [hsplit, List.exists_mem_cons_iff, head?_first_part hne hsplit,
    head?_other_part hne hsplit]

end Text
end FrameBridge
