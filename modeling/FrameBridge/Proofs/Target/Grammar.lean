import FrameBridge.Proofs.Address.Literal
import FrameBridge.Proofs.Text.Ascii
import FrameBridge.Proofs.Text.Split
import FrameBridge.Proofs.Text.Utf8
import FrameBridge.Target

/-!
# The texts that are targets

A target is written as a name, a colon and a port, or as an IPv6 address in
brackets, a colon and a port.  White space around it does not count.  Every
other text has the first fault that applies, in the order in which the text is
cut and checked.

`Cut` says how a text falls apart into a valid host and what should be its port,
`Fault` why it does not, or why the port is none.  The proof shows that reading
a text that meets the conditions gives that result, and that every text meets
the conditions of some result.
-/

namespace FrameBridge
namespace Target

/-- A host name, or an IPv4 address: up to 253 ASCII letters, digits and three marks,
of which only an underscore can come first. -/
structure IsName (host : List Char) : Prop where
  size_pos : 1 ≤ Utf8.size host
  size_le : Utf8.size host ≤ 253
  chars : ∀ c ∈ host, c.isAlphanum = true ∨ c = '.' ∨ c = '-' ∨ c = '_'
  start : ∀ c, host.head? = some c → c ≠ '.' ∧ c ≠ '-'

/-- A port: decimal digits of a value from 1 to 65535, perhaps behind a plus
sign. -/
structure IsPort (text : List Char) (n : Nat) : Prop where
  numeral : Text.IsNumeral text n
  pos : 1 ≤ n
  le : n ≤ 65535

/-- A text falls apart into a valid host and what stands in place of the port. -/
inductive Cut : List Char → List Char → List Char → Prop
  | plain
      {host port : List Char}
      (hname : IsName host)
      (hport : ':' ∉ port) :
      Cut (host ++ ':' :: port) host port
  | bracketed
      {host port : List Char}
      (hhost : (IPv6.parse? host).isSome = true) :
      Cut ('[' :: host ++ ']' :: ':' :: port) host port

/-- The texts of a target, without white space around them. -/
inductive Written : List Char → Target → Prop
  | plain
      {host port : List Char} {n : Nat}
      (hname : IsName host)
      (hport : IsPort port n) :
      Written (host ++ ':' :: port) ⟨String.ofList host, UInt16.ofNat n⟩
  | bracketed
      {host port : List Char} {n : Nat}
      (hhost : (IPv6.parse? host).isSome = true)
      (hport : IsPort port n) :
      Written ('[' :: host ++ ']' :: ':' :: port)
        ⟨String.ofList host, UInt16.ofNat n⟩

/-- The first fault of a text without white space around it. -/
inductive Fault : List Char → TargetError → Prop
  | empty :
      Fault [] .empty
  | unclosed
      {rest : List Char}
      (hclose : ']' ∉ rest) :
      Fault ('[' :: rest) (.invalidHost (String.ofList ('[' :: rest)))
  | portless
      {host tail : List Char}
      (hclose : ']' ∉ host)
      (htail : tail.head? ≠ some ':') :
      Fault ('[' :: host ++ ']' :: tail) .missingPort
  | badLiteral
      {host port : List Char}
      (hclose : ']' ∉ host)
      (hhost : IPv6.parse? host = none) :
      Fault ('[' :: host ++ ']' :: ':' :: port) (.invalidHost (String.ofList host))
  | colonless
      {text : List Char}
      (hne : text ≠ [])
      (hopen : text.head? ≠ some '[')
      (hcolon : ':' ∉ text) :
      Fault text .missingPort
  | ambiguous
      {host port : List Char}
      (hopen : host.head? ≠ some '[')
      (hhost : ':' ∈ host)
      (hport : ':' ∉ port) :
      Fault (host ++ ':' :: port) (.invalidHost (String.ofList host))
  | hostless
      {port : List Char}
      (hport : ':' ∉ port) :
      Fault (':' :: port) .emptyHost
  | badName
      {host port : List Char}
      (hne : host ≠ [])
      (hopen : host.head? ≠ some '[')
      (hhost : ':' ∉ host)
      (hport : ':' ∉ port)
      (hname : ¬ IsName host) :
      Fault (host ++ ':' :: port) (.invalidHost (String.ofList host))
  | badPort
      {text host port : List Char}
      (hcut : Cut text host port)
      (hport : ∀ n, ¬ IsPort port n) :
      Fault text (.invalidPort (String.ofList port))

section Hosts

variable {host : List Char} {c : Char}

/-- A name has no character of another kind. -/
theorem IsName.notMem
    (h : IsName host)
    (hc : isHostChar c = false) :
    c ∉ host := by
  intro hmem
  have hchar := h.chars c hmem
  simp only [isHostChar, Text.isAsciiAlnum, Bool.or_eq_false_iff, beq_eq_false_iff_ne]
    at hc
  obtain ⟨⟨⟨halnum, hpoint⟩, hhyphen⟩, hunderscore⟩ := hc
  simp [halnum, hpoint, hhyphen, hunderscore] at hchar

theorem IsName.ne_nil
    (h : IsName host) :
    host ≠ [] := by
  rintro rfl
  exact absurd h.size_pos (by decide)

theorem isHostChar_iff :
    isHostChar c = true ↔ c.isAlphanum = true ∨ c = '.' ∨ c = '-' ∨ c = '_' := by
  simp [isHostChar, Text.isAsciiAlnum, or_assoc]

/-- A text of characters of a name has one byte for each of them. -/
theorem size_of_isHostChar
    (hall : ∀ c ∈ host, isHostChar c = true) :
    Utf8.size host = host.length := by
  refine Utf8.size_of_ascii fun c hc => ?_
  rcases isHostChar_iff.mp (hall c hc) with halnum | rfl | rfl | rfl
  · have := Text.toNat_of_isAlphanum halnum
    omega
  all_goals decide

/-- What is checked of a host without a colon is that it is a name.  The check
counts characters, and only a text with other characters has more bytes. -/
theorem isHostName_iff
    (hne : host ≠ []) :
    isHostName host = true ↔ IsName host := by
  simp only [isHostName, Bool.and_eq_true, decide_eq_true_eq, bne_iff_ne,
    List.all_eq_true]
  constructor
  · rintro ⟨⟨⟨hlength, hpoint⟩, hhyphen⟩, hall⟩
    have hsize := size_of_isHostChar hall
    refine ⟨?_, ?_, fun c hc => isHostChar_iff.mp (hall c hc), fun c hc => ?_⟩
    · rw [hsize]
      exact List.length_pos_iff.mpr hne
    · rw [hsize]
      exact hlength
    · rw [hc] at hpoint hhyphen
      exact ⟨by simpa using hpoint, by simpa using hhyphen⟩
  · rintro ⟨-, hsize, hchars, hstart⟩
    have hall : ∀ c ∈ host, isHostChar c = true :=
      fun c hc => isHostChar_iff.mpr (hchars c hc)
    rw [size_of_isHostChar hall] at hsize
    exact ⟨⟨⟨hsize, fun h => (hstart _ h).1 rfl⟩, fun h => (hstart _ h).2 rfl⟩, hall⟩

theorem checkHost_of_isName
    (h : IsName host) :
    checkHost (String.ofList host) = .ok () := by
  have hcolon : ':' ∉ host := h.notMem (by decide)
  simp [checkHost, h.ne_nil, hcolon, (isHostName_iff h.ne_nil).mpr h]

/-- A host without a colon that is no name is refused with its text. -/
theorem checkHost_of_not_isName
    (hne : host ≠ [])
    (hcolon : ':' ∉ host)
    (h : ¬ IsName host) :
    checkHost (String.ofList host) = .error (.invalidHost (String.ofList host)) := by
  have hname : isHostName host = false := by
    rw [← Bool.not_eq_true, isHostName_iff hne]
    exact h
  simp [checkHost, hne, hcolon, hname]

end Hosts

section Ports

variable {text : List Char} {n : Nat}

theorem parsePort_of_isPort
    (h : IsPort text n) :
    parsePort text = .ok (UInt16.ofNat n) := by
  have hpos := h.pos
  have hle := h.le
  simp only [parsePort, Text.natural?_eq_some_iff.mpr h.numeral]
  rw [if_pos (by omega)]

theorem parsePort_of_not_isPort
    (h : ∀ n, ¬ IsPort text n) :
    parsePort text = .error (.invalidPort (String.ofList text)) := by
  unfold parsePort
  split
  · rename_i n hvalue
    rw [if_neg]
    rintro ⟨hpos, hlt⟩
    exact h n ⟨Text.natural?_eq_some_iff.mp hvalue, hpos, by omega⟩
  · rfl

/-- There is no colon in a port. -/
theorem IsPort.colon
    (h : IsPort text n) :
    ':' ∉ text :=
  h.numeral.notMem (by decide) (by decide)

end Ports

section Cutting

variable {text host port : List Char}

theorem splitHostPort_bracket
    {rest : List Char} :
    splitHostPort ('[' :: rest) = splitBracketed ('[' :: rest) rest := rfl

theorem splitHostPort_plain
    (hne : text ≠ [])
    (hopen : text.head? ≠ some '[') :
    splitHostPort text = splitPlain text := by
  unfold splitHostPort
  split
  · exact absurd rfl hne
  · exact absurd rfl hopen
  · rfl

/-- A text with a colon that does not start with a bracket is cut at the last
colon. -/
theorem splitHostPort_colon
    (hopen : host.head? ≠ some '[')
    (hport : ':' ∉ port) :
    splitHostPort (host ++ ':' :: port) =
      if ':' ∈ host then
        .error (.invalidHost (String.ofList host))
      else do
        checkHost (String.ofList host)
        return (host, port) := by
  have hstart : (host ++ ':' :: port).head? ≠ some '[' := by
    cases host with
    | nil => simp
    | cons c rest => simpa using hopen
  rw [splitHostPort_plain (by simp) hstart, splitPlain, Text.splitLast_append hport]

/-- An address in brackets has no closing bracket. -/
theorem close_notMem_of_parse?
    (hhost : (IPv6.parse? host).isSome = true) :
    ']' ∉ host := by
  intro hmem
  rcases IPv6.isLiteralChar_of_parse? hhost _ hmem with hdigit | hcolon | hpoint
  · exact absurd hdigit (by decide)
  · exact absurd hcolon (by decide)
  · exact absurd hpoint (by decide)

theorem IsName.open_ne_head
    (h : IsName host) :
    host.head? ≠ some '[' := by
  intro hhead
  exact h.notMem (by decide : isHostChar '[' = false) (List.mem_of_head? hhead)

/-- A text that falls apart is cut there. -/
theorem Cut.splitHostPort
    (h : Cut text host port) :
    splitHostPort text = .ok (host, port) := by
  cases h with
  | plain hname hport =>
      rw [splitHostPort_colon hname.open_ne_head hport,
        if_neg (hname.notMem (by decide)), checkHost_of_isName hname]
      rfl
  | bracketed hhost =>
      have hclose := close_notMem_of_parse? hhost
      rw [List.cons_append, splitHostPort_bracket, splitBracketed,
        Text.splitFirst_append hclose]
      exact if_pos hhost

end Cutting

section Reading

variable {s : String} {text : List Char} {t : Target} {e : TargetError}

/-- A valid host and a port make a target. -/
theorem parse_of_cut
    {host port : List Char} {n : Nat}
    (htext : Text.trim s.toList = text)
    (hcut : Cut text host port)
    (hport : IsPort port n) :
    parse s = .ok ⟨String.ofList host, UInt16.ofNat n⟩ := by
  rw [parse, htext, hcut.splitHostPort]
  simp only [bind, Except.bind, parsePort_of_isPort hport]
  rfl

theorem parse_of_splitHostPort_error
    (htext : Text.trim s.toList = text)
    (hsplit : splitHostPort text = .error e) :
    parse s = .error e := by
  rw [parse, htext, hsplit]
  rfl

/-- A written target is read. -/
theorem Written.parse
    (htext : Text.trim s.toList = text)
    (h : Written text t) :
    parse s = .ok t := by
  cases h with
  | plain hname hport =>
      exact parse_of_cut htext (.plain hname hport.colon) hport
  | bracketed hhost hport =>
      exact parse_of_cut htext (.bracketed hhost) hport

/-- A text with a fault is refused for it. -/
theorem Fault.parse
    (htext : Text.trim s.toList = text)
    (h : Fault text e) :
    parse s = .error e := by
  cases h with
  | empty =>
      exact parse_of_splitHostPort_error htext rfl
  | unclosed hclose =>
      refine parse_of_splitHostPort_error htext ?_
      rw [splitHostPort_bracket, splitBracketed, Text.splitFirst_eq_none_iff.mpr hclose]
  | @portless host tail hclose htail =>
      refine parse_of_splitHostPort_error htext ?_
      rw [List.cons_append, splitHostPort_bracket, splitBracketed,
        Text.splitFirst_append hclose]
      dsimp only
      split
      · exact absurd rfl htail
      · rfl
  | badLiteral hclose hhost =>
      refine parse_of_splitHostPort_error htext ?_
      rw [List.cons_append, splitHostPort_bracket, splitBracketed,
        Text.splitFirst_append hclose]
      simp [hhost]
  | colonless hne hopen hcolon =>
      refine parse_of_splitHostPort_error htext ?_
      rw [splitHostPort_plain hne hopen, splitPlain,
        Text.splitLast_eq_none_iff.mpr hcolon]
  | ambiguous hopen hhost hport =>
      refine parse_of_splitHostPort_error htext ?_
      rw [splitHostPort_colon hopen hport, if_pos hhost]
  | @hostless port hport =>
      refine parse_of_splitHostPort_error htext ?_
      have hcut :
          splitHostPort ([] ++ ':' :: port) = _ :=
        splitHostPort_colon (by simp) hport
      simpa [checkHost, bind, Except.bind] using hcut
  | badName hne hopen hhost hport hname =>
      refine parse_of_splitHostPort_error htext ?_
      rw [splitHostPort_colon hopen hport, if_neg hhost,
        checkHost_of_not_isName hne hhost hname]
      rfl
  | badPort hcut hport =>
      rw [Target.parse, htext, hcut.splitHostPort]
      simp only [bind, Except.bind, parsePort_of_not_isPort hport]

/-- Every text falls apart or has a fault. -/
theorem cut_or_fault
    (text : List Char) :
    (∃ host port, Cut text host port) ∨ ∃ e, Fault text e := by
  by_cases hne : text = []
  · subst hne
    exact Or.inr ⟨_, .empty⟩
  by_cases hopen : text.head? = some '['
  · obtain ⟨rest, rfl⟩ := List.head?_eq_some_iff.mp hopen
    by_cases hmem : ']' ∈ rest
    · obtain ⟨host, tail, rfl, hclose⟩ := List.eq_append_cons_of_mem hmem
      by_cases htail : tail.head? = some ':'
      · obtain ⟨port, rfl⟩ := List.head?_eq_some_iff.mp htail
        cases hhost : IPv6.parse? host with
        | none =>
            exact Or.inr ⟨_, .badLiteral hclose hhost⟩
        | some ip =>
            exact Or.inl ⟨host, port, .bracketed (by rw [hhost]; rfl)⟩
      · exact Or.inr ⟨_, .portless hclose htail⟩
    · exact Or.inr ⟨_, .unclosed hmem⟩
  by_cases hcolon : ':' ∈ text
  · obtain ⟨host, port, rfl, hport⟩ := Text.eq_append_cons_last_of_mem hcolon
    by_cases hnil : host = []
    · subst hnil
      exact Or.inr ⟨_, .hostless hport⟩
    have hstart : host.head? ≠ some '[' := by
      rwa [List.head?_append_of_ne_nil _ hnil] at hopen
    by_cases hhost : ':' ∈ host
    · exact Or.inr ⟨_, .ambiguous hstart hhost hport⟩
    by_cases hname : IsName host
    · exact Or.inl ⟨host, port, .plain hname hport⟩
    · exact Or.inr ⟨_, .badName hnil hstart hhost hport hname⟩
  · exact Or.inr ⟨_, .colonless hne hopen hcolon⟩

/-- Every text is a written target or has a fault. -/
theorem written_or_fault
    (text : List Char) :
    (∃ t, Written text t) ∨ ∃ e, Fault text e := by
  rcases cut_or_fault text with ⟨host, port, hcut⟩ | hfault
  · by_cases hport : ∃ n, IsPort port n
    · obtain ⟨n, hport⟩ := hport
      cases hcut with
      | plain hname hcolon =>
          exact Or.inl ⟨_, .plain hname hport⟩
      | bracketed hhost =>
          exact Or.inl ⟨_, .bracketed hhost hport⟩
    · exact Or.inr ⟨_, .badPort hcut (not_exists.mp hport)⟩
  · exact Or.inr hfault

/-- Only a written target is read as one. -/
theorem written_of_parse
    (hparse : Target.parse s = .ok t) :
    Written (Text.trim s.toList) t := by
  rcases written_or_fault (Text.trim s.toList) with ⟨u, hwritten⟩ | ⟨e, hfault⟩
  · rw [hwritten.parse rfl] at hparse
    cases hparse
    exact hwritten
  · rw [hfault.parse rfl] at hparse
    cases hparse

/-- A text is refused only for a fault that it has. -/
theorem fault_of_parse
    (hparse : Target.parse s = .error e) :
    Fault (Text.trim s.toList) e := by
  rcases written_or_fault (Text.trim s.toList) with ⟨t, hwritten⟩ | ⟨u, hfault⟩
  · rw [hwritten.parse rfl] at hparse
    cases hparse
  · rw [hfault.parse rfl] at hparse
    cases hparse
    exact hfault

/--
A text is read as a target exactly if it is one of its written forms, up to white
space at both ends; and it is refused for a reason exactly if that is its first
fault.
-/
theorem parse_accepts_grammar
    (s : String) :
    (∀ t, Target.parse s = .ok t ↔ Written (Text.trim s.toList) t) ∧
    (∀ e, Target.parse s = .error e ↔ Fault (Text.trim s.toList) e) := by
  constructor
  · intro t
    exact ⟨written_of_parse, Written.parse rfl⟩
  · intro e
    exact ⟨fault_of_parse, Fault.parse rfl⟩

/-- An IPv6 address without brackets is cut at its last colon. -/
example :
    parse "::1:80" = .error (.invalidHost "::1") := by
  decide

end Reading

end Target
end FrameBridge
