/-!
# Cutting lists at a separator

Texts and byte strings are cut in three ways: at the first occurrence of a
separator, at its last occurrence, and at every occurrence.  The separator
belongs to none of the parts.  A list can also be stripped, at both ends, of
the elements of a class.
-/

namespace FrameBridge
namespace Text

section Split

variable {α : Type} [DecidableEq α]

/-- Cuts a list at the first occurrence of a separator. -/
def splitFirst (sep : α) :
    List α → Option (List α × List α)
  | [] => none
  | c :: rest =>
      if c = sep then
        some ([], rest)
      else
        (splitFirst sep rest).map fun (front, back) => (c :: front, back)

/-- Cuts a list at the last occurrence of a separator. -/
def splitLast (sep : α) :
    List α → Option (List α × List α)
  | [] => none
  | c :: rest =>
      match splitLast sep rest with
      | some (front, back) => some (c :: front, back)
      | none => if c = sep then some ([], rest) else none

/--
Cuts a list at every occurrence of a separator.  There is always one part
more than there are separators.
-/
def splitAll (sep : α) :
    List α → List (List α)
  | [] => [[]]
  | c :: rest =>
      match splitAll sep rest with
      | [] => [[]]
      | part :: parts =>
          if c = sep then [] :: part :: parts else (c :: part) :: parts

/-- The first list occurs in the second without gaps. -/
def occursIn (part : List α) : List α → Bool
  | [] => part.isEmpty
  | c :: rest => part.isPrefixOf (c :: rest) || occursIn part rest

end Split

section Strip

variable {α : Type}

/-- Removes the elements of a class from both ends of a list. -/
def stripBoth (inClass : α → Bool) (l : List α) : List α :=
  ((l.dropWhile inClass).reverse.dropWhile inClass).reverse

end Strip

end Text
end FrameBridge
