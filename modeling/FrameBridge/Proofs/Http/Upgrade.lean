import FrameBridge.Http.Upgrade
import FrameBridge.Proofs.Http.Header
import FrameBridge.Proofs.Text.LetterCase
import FrameBridge.Proofs.Text.Split

/-!
# Upgrade lines are one list

A request asks for the protocol if one of the elements of its printable
`Upgrade` lines names it.  What an element names does not depend on its letter
case or on the spaces and tabs around it (`bare`), and a line that is put
together from printable parts offers what one of the parts offers
(`offers_intercalate`).  So it does not matter in which order the lines stand,
how they are written, and into how many lines the elements are divided.
-/

namespace FrameBridge
namespace Http

/-- What stands between the elements of a line. -/
def comma : UInt8 := 44

/-- A space or a tab. -/
def isPad (b : UInt8) : Bool :=
  b == 32 || b == 9

/-- The lower-case letter of an ASCII letter. -/
def lowerByte (b : UInt8) : UInt8 :=
  if 65 ≤ b ∧ b ≤ 90 then b + 32 else b

/-- The bytes of the name of the protocol. -/
def protocolName : List UInt8 :=
  Utf8.encodeString "websocket"

/-- An element is the name in some letter case, with spaces and tabs around it. -/
def Names (element : List UInt8) : Prop :=
  ∃ left core right,
    element = left ++ core ++ right ∧
    (∀ b ∈ left ++ right, isPad b = true) ∧
    core.map lowerByte = protocolName

/-- Two elements differ at most in letter case and in the spaces and tabs around
them. -/
def Restyled (element element' : List UInt8) : Prop :=
  ∃ left core right left' core' right',
    element = left ++ core ++ right ∧
    element' = left' ++ core' ++ right' ∧
    (∀ b ∈ (left ++ right) ++ (left' ++ right'), isPad b = true) ∧
    core.map lowerByte = core'.map lowerByte

/-- The elements of two lines differ at most in this way. -/
def RestyledLine (line line' : List UInt8) : Prop :=
  List.Forall₂ Restyled (line.splitOn comma) (line'.splitOn comma)

/-- A line is printable and has an element that names the protocol. -/
def Offers (line : List UInt8) : Prop :=
  Header.Printable line ∧ ∃ element ∈ line.splitOn comma, Names element

section Bytes

variable {b : UInt8}

theorem toNat_lowerByte
    (b : UInt8) :
    (lowerByte b).toNat = if 65 ≤ b.toNat ∧ b.toNat ≤ 90 then b.toNat + 32 else b.toNat := by
  have hrange : 65 ≤ b ∧ b ≤ 90 ↔ 65 ≤ b.toNat ∧ b.toNat ≤ 90 := by
    simp only [UInt8.le_iff_toNat_le, UInt8.reduceToNat]
  by_cases hupper : 65 ≤ b.toNat ∧ b.toNat ≤ 90
  · rw [lowerByte, if_pos (hrange.mpr hupper), if_pos hupper, UInt8.toNat_add]
    exact Nat.mod_eq_of_lt (by simp only [UInt8.reduceToNat]; omega)
  · rw [lowerByte, if_neg (mt hrange.mp hupper), if_neg hupper]

theorem isPad_iff :
    isPad b = true ↔ b.toNat = 32 ∨ b.toNat = 9 := by
  simp [isPad, ← UInt8.toNat_inj]

theorem shown_iff :
    (b = 9 ∨ 32 ≤ b ∧ b ≤ 126) ↔ b.toNat = 9 ∨ 32 ≤ b.toNat ∧ b.toNat ≤ 126 := by
  simp only [← UInt8.toNat_inj, UInt8.le_iff_toNat_le, UInt8.reduceToNat]

/-- Letter case makes no space of a byte, and none of a space. -/
theorem isPad_lowerByte
    (b : UInt8) :
    isPad (lowerByte b) = isPad b := by
  rw [Bool.eq_iff_iff, isPad_iff, isPad_iff, toNat_lowerByte]
  split <;> omega

theorem shown_lowerByte :
    (lowerByte b = 9 ∨ 32 ≤ lowerByte b ∧ lowerByte b ≤ 126) ↔ b = 9 ∨ 32 ≤ b ∧ b ≤ 126 := by
  rw [shown_iff, shown_iff, toNat_lowerByte]
  split <;> omega

/-- The characters of the bytes are folded like the bytes. -/
theorem charOfByte_lowerByte
    (b : UInt8) :
    Char.ofNat (lowerByte b).toNat = (Char.ofNat b.toNat).toLower := by
  rw [← Char.toNat_inj, Text.toNat_toLower, Text.toNat_ofNat_toNat, Text.toNat_ofNat_toNat,
    toNat_lowerByte]

/-- A printable character is white space only if it is a space or a tab. -/
theorem isBlank_charOfByte
    (hshown : b = 9 ∨ 32 ≤ b ∧ b ≤ 126) :
    Text.isBlank (Char.ofNat b.toNat) = isPad b := by
  rw [shown_iff] at hshown
  rw [Bool.eq_iff_iff, isPad_iff]
  simp only [Text.isBlank, Text.inRanges, Text.blankRanges, Text.toNat_ofNat_toNat,
    List.any_cons, List.any_nil, Bool.or_false, Bool.or_eq_true, Bool.and_eq_true,
    decide_eq_true_eq]
  omega

end Bytes

section Elements

variable {element element' left core right : List UInt8}

/-- An element without the spaces and tabs around it, in lower case. -/
def bare (element : List UInt8) : List UInt8 :=
  (Text.stripBoth isPad element).map lowerByte

theorem bare_eq_stripBoth :
    bare element = Text.stripBoth isPad (element.map lowerByte) := by
  have hcomp : isPad ∘ lowerByte = isPad := funext isPad_lowerByte
  rw [bare, Text.stripBoth_map, hcomp]

/-- Spaces and tabs at the ends of an element do not matter. -/
theorem bare_absorb
    (hpads : ∀ b ∈ left ++ right, isPad b = true) :
    bare (left ++ core ++ right) = bare core := by
  rw [List.forall_mem_append] at hpads
  rw [bare, Text.stripBoth_absorb isPad core hpads.1 hpads.2, bare]

/-- An element names the protocol exactly if the name is all that is left of it. -/
theorem names_iff_bare :
    Names element ↔ bare element = protocolName := by
  constructor
  · rintro ⟨left, core, right, rfl, hpads, hcore⟩
    rw [bare_absorb hpads, bare_eq_stripBoth, hcore]
    decide
  · intro hbare
    obtain ⟨left, right, helement, hpads⟩ := Text.exists_eq_append_stripBoth isPad element
    exact ⟨left, _, right, helement, hpads, hbare⟩

/-- Restyling keeps the letters, up to their case. -/
theorem Restyled.bare_eq
    (hrestyled : Restyled element element') :
    bare element = bare element' := by
  obtain ⟨left, core, right, left', core', right', rfl, rfl, hpads, hcore⟩ := hrestyled
  rw [List.forall_mem_append] at hpads
  rw [bare_absorb hpads.1, bare_absorb hpads.2, bare_eq_stripBoth, bare_eq_stripBoth, hcore]

theorem printable_of_pads
    (hpads : ∀ b ∈ left, isPad b = true) :
    Header.Printable left := by
  intro b hmem
  have hpad := isPad_iff.mp (hpads b hmem)
  rw [shown_iff]
  omega

theorem printable_map_lowerByte :
    Header.Printable (core.map lowerByte) ↔ Header.Printable core := by
  simp only [Header.Printable, List.forall_mem_map, shown_lowerByte]

theorem Restyled.printable_iff
    (hrestyled : Restyled element element') :
    Header.Printable element ↔ Header.Printable element' := by
  obtain ⟨left, core, right, left', core', right', rfl, rfl, hpads, hcore⟩ := hrestyled
  simp only [List.forall_mem_append] at hpads
  obtain ⟨⟨hleft, hright⟩, hleft', hright'⟩ := hpads
  simp only [Header.printable_append, printable_of_pads hleft, printable_of_pads hright,
    printable_of_pads hleft', printable_of_pads hright', true_and, and_true]
  rw [← printable_map_lowerByte, hcore, printable_map_lowerByte]

/-- What the program makes of an element is what the element names. -/
theorem namesWebSocket_iff
    (hprintable : Header.Printable element) :
    namesWebSocket (Text.charsOfBytes element) = true ↔ Names element := by
  have htrim :
      Text.trim (Text.charsOfBytes element) =
        Text.charsOfBytes (Text.stripBoth isPad element) := by
    rw [Text.trim, Text.charsOfBytes, Text.stripBoth_map]
    exact congrArg _
      (Text.stripBoth_congr fun b hmem => isBlank_charOfByte (hprintable b hmem))
  have hfold :
      ∀ bytes : List UInt8,
        Text.foldCase (Text.charsOfBytes bytes) = Text.charsOfBytes (bytes.map lowerByte) := by
    intro bytes
    simp only [Text.foldCase, Text.charsOfBytes, List.map_map]
    exact List.map_congr_left fun b _ => (charOfByte_lowerByte b).symm
  have hname :
      Text.foldCase "websocket".toList = Text.charsOfBytes protocolName := by
    decide
  rw [namesWebSocket, Text.equalFold_eq_true_iff, htrim, hfold, hname, names_iff_bare, bare]
  exact (List.map_injective_iff.mpr Text.charOfByte_injective).eq_iff

end Elements

section Lines

variable {line line' front back : List UInt8} {parts : List (List UInt8)}

/-- A line is divided at the same places as its text. -/
theorem splitAll_charsOfBytes
    (line : List UInt8) :
    Text.splitAll ',' (Text.charsOfBytes line) =
      (line.splitOn comma).map Text.charsOfBytes := by
  rw [← Text.splitAll_eq_splitOn]
  exact Text.splitAll_map comma Text.charOfByte_injective

theorem printable_intercalate :
    Header.Printable ([comma].intercalate parts) ↔ ∀ part ∈ parts, Header.Printable part := by
  have hcomma : Header.Printable [comma] := by
    simp [Header.Printable, comma]
  induction parts with
  | nil =>
      simp [Header.Printable]
  | cons part parts ih =>
      by_cases hnil : parts = []
      · subst hnil
        simp
      · rw [List.intercalate_cons_of_ne_nil hnil, Header.printable_append,
          Header.printable_append, List.forall_mem_cons]
        exact and_congr (and_iff_left hcomma) ih

/-- Commas can be shown, so a line is printable exactly if its elements are. -/
theorem printable_iff_elements
    (line : List UInt8) :
    Header.Printable line ↔ ∀ element ∈ line.splitOn comma, Header.Printable element := by
  rw [← printable_intercalate, List.intercalate_splitOn]

/-- The check of a line looks at its elements, if it is printable at all. -/
theorem lineNamesWebSocket_iff :
    lineNamesWebSocket line = true ↔ Offers line := by
  by_cases hprintable : Header.Printable line
  · have htext := Header.textOf_eq_some.mpr ⟨hprintable, rfl⟩
    have helements := (printable_iff_elements line).mp hprintable
    simp only [lineNamesWebSocket, htext, splitAll_charsOfBytes, List.any_map, List.any_eq_true,
      Function.comp_apply]
    constructor
    · rintro ⟨element, hmem, hnames⟩
      exact ⟨hprintable, element, hmem, (namesWebSocket_iff (helements element hmem)).mp hnames⟩
    · rintro ⟨-, element, hmem, hnames⟩
      exact ⟨element, hmem, (namesWebSocket_iff (helements element hmem)).mpr hnames⟩
  · have hnone : Header.textOf line = none := by
      cases htext : Header.textOf line with
      | none =>
          rfl
      | some text =>
          exact absurd (Header.textOf_eq_some.mp htext).1 hprintable
    simp [lineNamesWebSocket, hnone, Offers, hprintable]

/-- A line that is written in another way offers the same. -/
theorem RestyledLine.offers_iff
    (hrestyled : RestyledLine line line') :
    Offers line ↔ Offers line' := by
  rw [Offers, Offers, printable_iff_elements line, printable_iff_elements line']
  rw [RestyledLine] at hrestyled
  generalize line.splitOn comma = elements at hrestyled ⊢
  generalize line'.splitOn comma = elements' at hrestyled ⊢
  refine and_congr ?_ ?_
  · induction hrestyled with
    | nil =>
        exact Iff.rfl
    | cons hhead _ ih =>
        rw [List.forall_mem_cons, List.forall_mem_cons, hhead.printable_iff, ih]
  · induction hrestyled with
    | nil =>
        exact Iff.rfl
    | cons hhead _ ih =>
        rw [List.exists_mem_cons_iff, List.exists_mem_cons_iff, names_iff_bare, names_iff_bare,
          hhead.bare_eq, ih]

/-- A line that is put together from printable parts offers what one of them
offers. -/
theorem offers_intercalate
    (hprintable : ∀ part ∈ parts, Header.Printable part) :
    Offers ([comma].intercalate parts) ↔ ∃ part ∈ parts, Offers part := by
  by_cases hnil : parts = []
  · subst hnil
    refine iff_of_false ?_ (by simp)
    rintro ⟨-, element, hmem, hnames⟩
    have hempty : element = [] := by
      simpa using hmem
    rw [hempty, names_iff_bare] at hnames
    exact absurd hnames (by decide)
  · rw [Offers, Text.splitOn_intercalate_flatMap hnil, printable_intercalate]
    constructor
    · rintro ⟨-, element, hmem, hnames⟩
      obtain ⟨part, hpart, helement⟩ := List.mem_flatMap.mp hmem
      exact ⟨part, hpart, hprintable part hpart, element, helement, hnames⟩
    · rintro ⟨part, hpart, -, element, helement, hnames⟩
      exact ⟨hprintable, element, List.mem_flatMap.mpr ⟨part, hpart, helement⟩, hnames⟩

end Lines

section Requests

variable {headers headers' front back : Headers} {h : Header}

/-- The `Upgrade` lines of a request, in order. -/
def upgradeLines (headers : Headers) : List (List UInt8) :=
  headers.getAll "upgrade"

/-- One line that offers the protocol is enough. -/
theorem isUpgrade_iff :
    isUpgrade headers = true ↔ ∃ line ∈ upgradeLines headers, Offers line := by
  simp only [isUpgrade, List.any_eq_true, lineNamesWebSocket_iff, upgradeLines]

theorem isUpgrade_congr
    (hsame :
      (∃ line ∈ upgradeLines headers, Offers line) ↔
        ∃ line ∈ upgradeLines headers', Offers line) :
    isUpgrade headers = isUpgrade headers' := by
  rw [Bool.eq_iff_iff, isUpgrade_iff, isUpgrade_iff]
  exact hsame

/-- The order of the lines does not matter to the check. -/
theorem isUpgrade_of_perm
    (hperm : (upgradeLines headers).Perm (upgradeLines headers')) :
    isUpgrade headers = isUpgrade headers' :=
  isUpgrade_congr (exists_congr fun _ => and_congr_left fun _ => hperm.mem_iff)

/-- A line with another name is no `Upgrade` line, wherever it stands. -/
theorem upgradeLines_insert
    (hother : h.name ≠ "upgrade") :
    upgradeLines (front ++ h :: back) = upgradeLines (front ++ back) := by
  simp only [upgradeLines, Headers.getAll_append, Headers.getAll_cons, if_neg hother,
    List.nil_append]

/-- Letter case, spaces and tabs do not matter to the check. -/
theorem isUpgrade_of_restyled
    (hrestyled : List.Forall₂ RestyledLine (upgradeLines headers) (upgradeLines headers')) :
    isUpgrade headers = isUpgrade headers' := by
  refine isUpgrade_congr ?_
  generalize upgradeLines headers = lines at hrestyled ⊢
  generalize upgradeLines headers' = lines' at hrestyled ⊢
  induction hrestyled with
  | nil =>
      exact Iff.rfl
  | cons hhead _ ih =>
      rw [List.exists_mem_cons_iff, List.exists_mem_cons_iff, hhead.offers_iff, ih]

/-- It does not matter whether printable parts are lines of their own or one line. -/
theorem isUpgrade_of_joined
    {before parts after : List (List UInt8)}
    (hprintable : ∀ part ∈ parts, Header.Printable part)
    (hparts : upgradeLines headers = before ++ parts ++ after)
    (hjoined : upgradeLines headers' = before ++ [comma].intercalate parts :: after) :
    isUpgrade headers = isUpgrade headers' := by
  refine isUpgrade_congr ?_
  rw [hparts, hjoined, List.append_assoc]
  simp only [List.mem_append, List.mem_cons, or_and_right, exists_or, exists_eq_left,
    offers_intercalate hprintable]

/-- A request asks for the protocol exactly if one of its printable `Upgrade` lines
has an element that names it.  The order of these lines does not matter, nor do
other lines, letter case and blanks around elements, nor, for printable lines,
how the elements are divided among them.  No further line can take the answer
back. -/
theorem upgrade_lines_are_one_list :
    (∀ headers,
      isUpgrade headers = true ↔
        ∃ line, ⟨"upgrade", line⟩ ∈ headers ∧
          (∀ b ∈ line, b = 9 ∨ 32 ≤ b ∧ b ≤ 126) ∧
          ∃ element ∈ line.splitOn comma, Names element) ∧
    (∀ headers headers', (upgradeLines headers).Perm (upgradeLines headers') →
      isUpgrade headers = isUpgrade headers') ∧
    (∀ (front back : Headers) (h : Header), h.name ≠ "upgrade" →
      isUpgrade (front ++ h :: back) = isUpgrade (front ++ back)) ∧
    (∀ headers headers',
      List.Forall₂ RestyledLine (upgradeLines headers) (upgradeLines headers') →
      isUpgrade headers = isUpgrade headers') ∧
    (∀ headers headers' before parts after,
      (∀ part ∈ parts, Header.Printable part) →
      upgradeLines headers = before ++ parts ++ after →
      upgradeLines headers' = before ++ [comma].intercalate parts :: after →
      isUpgrade headers = isUpgrade headers') ∧
    (∀ (front back : Headers) (h : Header), isUpgrade (front ++ back) = true →
      isUpgrade (front ++ h :: back) = true) := by
  refine
    ⟨fun headers => ?_, fun _ _ => isUpgrade_of_perm, fun front back h hother => ?_,
      fun _ _ => isUpgrade_of_restyled, fun _ _ _ _ _ => isUpgrade_of_joined,
      fun front back h hupgrade => ?_⟩
  · rw [isUpgrade_iff]
    exact exists_congr fun line => and_congr_left fun _ => Headers.mem_getAll
  · exact isUpgrade_of_perm (List.Perm.of_eq (upgradeLines_insert hother))
  · obtain ⟨line, hmem, hoffers⟩ := isUpgrade_iff.mp hupgrade
    refine isUpgrade_iff.mpr ⟨line, ?_, hoffers⟩
    rw [upgradeLines, Headers.getAll_append, Headers.getAll_cons]
    rw [upgradeLines, Headers.getAll_append] at hmem
    rcases List.mem_append.mp hmem with hmem | hmem
    · exact List.mem_append_left _ hmem
    · exact List.mem_append_right _ (List.mem_append_right _ hmem)

/-- The second line offers two protocols, and the first one cannot be read. -/
def offered : Headers :=
  [⟨"upgrade", [0xff]⟩, ⟨"upgrade", Utf8.encodeString "h2c,\t WebSocket"⟩]

/-- The same with a line for each protocol, and other lines between. -/
def divided : Headers :=
  [⟨"upgrade", Utf8.encodeString "h2c"⟩, ⟨"host", []⟩,
   ⟨"upgrade", Utf8.encodeString "\t WebSocket"⟩, ⟨"upgrade", [0xff]⟩]

theorem upgrade_lines_are_one_list_divided :
    isUpgrade offered = true ∧ isUpgrade divided = true := by
  obtain ⟨hnames, hperm, -, -, hjoined, -⟩ := upgrade_lines_are_one_list
  have hprintable : Header.Printable (Utf8.encodeString "h2c,\t WebSocket") := by decide
  have hoffered : isUpgrade offered = true :=
    (hnames offered).mpr
      ⟨Utf8.encodeString "h2c,\t WebSocket", by decide, hprintable,
        Utf8.encodeString "\t WebSocket", by decide,
        [9, 32], Utf8.encodeString "WebSocket", [], by decide, List.all_eq_true.mp rfl,
        by decide⟩
  have hdivided :=
    hjoined divided offered.reverse [] [Utf8.encodeString "h2c", Utf8.encodeString "\t WebSocket"]
      [[0xff]] (by decide) (by decide) (by decide)
  have hreverse := hperm offered.reverse offered (by decide)
  exact ⟨hoffered, (hdivided.trans hreverse).trans hoffered⟩

end Requests

end Http
end FrameBridge
