import Mathlib.Data.List.DropRight
import FrameBridge.Target

/-!
# Removing white space

Removing white space from both ends of a text a second time changes nothing,
and leaves nothing of a text that is white space only.  A target can therefore
be read before or after white space was removed.
-/

namespace FrameBridge

namespace Text

section Strip

variable {α : Type} (inClass : α → Bool) (l : List α)

theorem stripBoth_eq_rdropWhile :
    stripBoth inClass l = (l.dropWhile inClass).rdropWhile inClass := rfl

/-- Nothing is left in front that could be cut off. -/
theorem dropWhile_stripBoth :
    (stripBoth inClass l).dropWhile inClass = stripBoth inClass l := by
  rw [List.dropWhile_eq_self_iff]
  intro hpos hhead
  have hprefix : stripBoth inClass l <+: l.dropWhile inClass :=
    List.rdropWhile_prefix inClass (l.dropWhile inClass)
  have hpos' : 0 < (l.dropWhile inClass).length :=
    Nat.lt_of_lt_of_le hpos hprefix.length_le
  have hsame : (stripBoth inClass l)[0] = (l.dropWhile inClass)[0] :=
    hprefix.getElem hpos
  rw [hsame] at hhead
  exact List.dropWhile_get_zero_not inClass l hpos' hhead

@[simp] theorem stripBoth_stripBoth :
    stripBoth inClass (stripBoth inClass l) = stripBoth inClass l := by
  rw [stripBoth_eq_rdropWhile, dropWhile_stripBoth, stripBoth_eq_rdropWhile,
    List.rdropWhile_idempotent]

/-- Everything is cut off exactly if all of it is of the class. -/
theorem stripBoth_eq_nil_iff :
    stripBoth inClass l = [] ↔ ∀ c ∈ l, inClass c = true := by
  rw [stripBoth_eq_rdropWhile, List.rdropWhile_eq_nil_iff]
  constructor
  · intro hrest
    rw [← List.takeWhile_append_dropWhile (p := inClass) (l := l)]
    intro c hc
    rcases List.mem_append.mp hc with hc | hc
    · exact List.mem_takeWhile_imp hc
    · exact hrest c hc
  · intro hall c hc
    exact hall c ((List.dropWhile_suffix inClass).subset hc)

/-- What is removed is at the ends of the list. -/
theorem exists_eq_append_stripBoth :
    ∃ front back,
      l = front ++ stripBoth inClass l ++ back ∧ ∀ c ∈ front ++ back, inClass c = true := by
  have hsplit :=
    List.takeWhile_append_dropWhile (p := inClass) (l := (l.dropWhile inClass).reverse)
  have hrest := congrArg List.reverse hsplit
  rw [List.reverse_append, List.reverse_reverse] at hrest
  refine
    ⟨l.takeWhile inClass, ((l.dropWhile inClass).reverse.takeWhile inClass).reverse, ?_, ?_⟩
  · rw [stripBoth, List.append_assoc, hrest, List.takeWhile_append_dropWhile]
  · intro c hc
    rcases List.mem_append.mp hc with hc | hc
    · exact List.mem_takeWhile_imp hc
    · exact List.mem_takeWhile_imp (List.mem_reverse.mp hc)

theorem dropWhile_of_head
    (hhead : ∀ c, l.head? = some c → inClass c = false) :
    l.dropWhile inClass = l := by
  cases l with
  | nil =>
      rfl
  | cons c l =>
      rw [List.dropWhile_cons_of_neg]
      rw [hhead c rfl]
      exact Bool.false_ne_true

/-- Nothing but what surrounds a list is removed, if both of its ends are outside
the class. -/
theorem stripBoth_append
    {front back : List α}
    (hfront : ∀ c ∈ front, inClass c = true)
    (hback : ∀ c ∈ back, inClass c = true)
    (hne : l ≠ [])
    (hhead : ∀ c, l.head? = some c → inClass c = false)
    (hlast : ∀ c, l.getLast? = some c → inClass c = false) :
    stripBoth inClass (front ++ l ++ back) = l := by
  have hdrop : (front ++ l ++ back).dropWhile inClass = l ++ back := by
    rw [List.append_assoc, List.dropWhile_append_of_pos hfront]
    refine dropWhile_of_head _ _ fun c hc => hhead c ?_
    rwa [List.head?_append_of_ne_nil _ hne] at hc
  have hback' : ∀ c ∈ back.reverse, inClass c = true :=
    fun c hc => hback c (List.mem_reverse.mp hc)
  have hlast' : l.reverse.dropWhile inClass = l.reverse := by
    refine dropWhile_of_head _ _ fun c hc => hlast c ?_
    rwa [List.head?_reverse] at hc
  rw [stripBoth, hdrop, List.reverse_append, List.dropWhile_append_of_pos hback', hlast',
    List.reverse_reverse]

/-- A list is left as it is if both of its ends are outside the class. -/
theorem stripBoth_eq_self
    (hhead : ∀ c, l.head? = some c → inClass c = false)
    (hlast : ∀ c, l.getLast? = some c → inClass c = false) :
    stripBoth inClass l = l := by
  by_cases hne : l = []
  · rw [hne]
    rfl
  · have hnothing : ∀ c ∈ ([] : List α), inClass c = true :=
      fun c hc => absurd hc List.not_mem_nil
    simpa using stripBoth_append inClass l hnothing hnothing hne hhead hlast

theorem stripBoth_of_forall
    (hall : ∀ c ∈ l, inClass c = false) :
    stripBoth inClass l = l :=
  stripBoth_eq_self inClass l
    (fun c hc => hall c (List.mem_of_head? hc))
    (fun c hc => hall c (List.mem_of_getLast? hc))

variable {inClass l} in
theorem dropWhile_congr
    {other : α → Bool}
    (hsame : ∀ c ∈ l, inClass c = other c) :
    l.dropWhile inClass = l.dropWhile other := by
  induction l with
  | nil =>
      rfl
  | cons c l ih =>
      rw [List.dropWhile_cons, List.dropWhile_cons, hsame c List.mem_cons_self,
        ih fun d hd => hsame d (List.mem_cons_of_mem c hd)]

variable {inClass l} in
/-- Only which elements of the list are in the class matters. -/
theorem stripBoth_congr
    {other : α → Bool}
    (hsame : ∀ c ∈ l, inClass c = other c) :
    stripBoth inClass l = stripBoth other l := by
  rw [stripBoth, stripBoth, dropWhile_congr hsame]
  refine congrArg List.reverse (dropWhile_congr fun c hc => hsame c ?_)
  exact (List.dropWhile_suffix other).subset (List.mem_reverse.mp hc)

/-- Cutting off commutes with a map, if the class is taken along. -/
theorem stripBoth_map
    {β : Type} (f : α → β) (inClass : β → Bool) :
    stripBoth inClass (l.map f) = (stripBoth (inClass ∘ f) l).map f := by
  simp only [stripBoth, List.dropWhile_map, ← List.map_reverse]

/-- Elements of the class around a list are removed with those at its ends. -/
theorem stripBoth_absorb
    {front back : List α}
    (hfront : ∀ c ∈ front, inClass c = true)
    (hback : ∀ c ∈ back, inClass c = true) :
    stripBoth inClass (front ++ l ++ back) = stripBoth inClass l := by
  have hback' : ∀ c ∈ back.reverse, inClass c = true :=
    fun c hc => hback c (List.mem_reverse.mp hc)
  rw [stripBoth, List.append_assoc, List.dropWhile_append_of_pos hfront, List.dropWhile_append]
  split
  · rename_i hempty
    rw [stripBoth, List.isEmpty_iff.mp hempty, List.dropWhile_eq_nil_iff.mpr hback]
  · rw [List.reverse_append, List.dropWhile_append_of_pos hback', stripBoth]

end Strip

/-- The text is white space only. -/
def IsBlankText (s : String) : Prop :=
  ∀ c ∈ s.toList, isBlank c = true

@[simp] theorem toList_trimString
    (s : String) :
    (trimString s).toList = trim s.toList := by
  simp [trimString]

/-- Nothing is left of a text exactly if it is white space only. -/
theorem trimString_eq_empty_iff
    {s : String} :
    trimString s = "" ↔ IsBlankText s := by
  rw [← String.toList_inj, toList_trimString]
  exact stripBoth_eq_nil_iff isBlank s.toList

end Text

/-- White space around a target does not matter. -/
theorem Target.parse_trimString
    (s : String) :
    Target.parse (Text.trimString s) = Target.parse s := by
  have hsame : Text.trim (Text.trimString s).toList = Text.trim s.toList := by
    rw [Text.toList_trimString]
    exact Text.stripBoth_stripBoth Text.isBlank s.toList
  simp only [Target.parse, hsame]

end FrameBridge
