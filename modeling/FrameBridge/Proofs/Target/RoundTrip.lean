import FrameBridge.Proofs.Target.Grammar
import FrameBridge.Proofs.Text.Trim

/-!
# Reading and writing targets

The targets that can be read from some text, those that can be put together from
a host and a port, and those with a valid host and a port other than zero are
the same.  Each of them is read back from its written form, so that different
targets are written differently.

The written form has brackets if there is a colon in the host, and the reading
asks for an IPv6 address in brackets.  These agree because a name has no colon
and an address has one.
-/

namespace FrameBridge
namespace Target

/-- The host is valid, and the port is not zero. -/
structure WellFormed (t : Target) : Prop where
  host : checkHost t.host = .ok ()
  port : t.port ≠ 0

section Parts

variable {host : String} {port : UInt16} {t : Target}

/-- A host is valid exactly if it is a name or an IPv6 address. -/
theorem checkHost_eq_ok_iff :
    checkHost host = .ok () ↔
      IsName host.toList ∨ (IPv6.parse? host.toList).isSome = true := by
  constructor
  · intro hok
    unfold checkHost at hok
    split at hok
    · cases hok
    · rename_i hne
      split at hok
      · split at hok
        · rename_i haddress
          exact Or.inr haddress
        · cases hok
      · split at hok
        · rename_i hname
          exact Or.inl ((isHostName_iff hne).mp hname)
        · cases hok
  · rintro (hname | haddress)
    · have hok := checkHost_of_isName hname
      rwa [String.ofList_toList] at hok
    · have hcolon := IPv6.colon_mem_of_parse? haddress
      have hne : host.toList ≠ [] := List.ne_nil_of_mem hcolon
      simp [checkHost, hne, hcolon, haddress]

/-- A target is put together from its host and port exactly if they are valid. -/
theorem ofParts_eq_ok_iff :
    ofParts host port = .ok t ↔ t = ⟨host, port⟩ ∧ t.WellFormed := by
  constructor
  · intro hok
    unfold ofParts at hok
    cases hhost : checkHost host with
    | error e =>
        rw [hhost] at hok
        cases hok
    | ok value =>
        rw [hhost] at hok
        by_cases hport : port = 0
        · simp [hport, bind, Except.bind, throw, throwThe, MonadExceptOf.throw] at hok
        · simp only [bind, Except.bind, if_neg hport, pure, Except.pure,
            Except.ok.injEq] at hok
          subst hok
          exact ⟨rfl, hhost, hport⟩
  · rintro ⟨rfl, hhost, hport⟩
    simp only at hhost hport
    simp [ofParts, hhost, hport, bind, Except.bind, pure, Except.pure]

end Parts

section Forms

variable {t : Target} {text : List Char}

/-- A value of sixteen bits that is not zero is a port that is not zero. -/
theorem IsPort.ne_zero
    {n : Nat}
    (h : IsPort text n) :
    UInt16.ofNat n ≠ 0 := by
  have hpos := h.pos
  have hle := h.le
  intro hzero
  have hlt : n < UInt16.size := by
    rw [UInt16.size]
    omega
  have hvalue := congrArg UInt16.toNat hzero
  rw [UInt16.toNat_ofNat_of_lt' hlt, UInt16.toNat_zero] at hvalue
  omega

/-- What is written is a valid host with a port other than zero. -/
theorem Written.wellFormed
    (h : Written text t) :
    t.WellFormed := by
  cases h with
  | plain hname hport =>
      exact ⟨checkHost_of_isName hname, hport.ne_zero⟩
  | bracketed hhost hport =>
      refine ⟨checkHost_eq_ok_iff.mpr (Or.inr ?_), hport.ne_zero⟩
      rwa [String.toList_ofList]

/-- The digits of a port other than zero are that port. -/
theorem isPort_toDigits
    {port : UInt16}
    (hport : port ≠ 0) :
    IsPort (Nat.toDigits 10 port.toNat) port.toNat := by
  have hlt := port.toNat_lt
  refine ⟨Text.isNumeral_toDigits _, Nat.pos_of_ne_zero fun hzero => hport ?_, by omega⟩
  exact UInt16.toNat_inj.mp hzero

/-- The written form of a target is one of those that are read as it. -/
theorem written_render
    (h : t.WellFormed) :
    Written t.render.toList t := by
  have hport := isPort_toDigits h.port
  rcases checkHost_eq_ok_iff.mp h.host with hname | haddress
  · have hcolon : ':' ∉ t.host.toList := hname.notMem (by decide)
    have hwritten := Written.plain hname hport
    rw [String.ofList_toList, UInt16.ofNat_toNat] at hwritten
    simpa [render, hcolon] using hwritten
  · have hcolon := IPv6.colon_mem_of_parse? haddress
    have hwritten := Written.bracketed haddress hport
    rw [String.ofList_toList, UInt16.ofNat_toNat] at hwritten
    simpa [render, hcolon] using hwritten

/-- There is no white space at the start of the written form. -/
theorem isBlank_head_render
    {c : Char}
    (h : t.WellFormed)
    (hc : t.render.toList.head? = some c) :
    Text.isBlank c = false := by
  rcases checkHost_eq_ok_iff.mp h.host with hname | haddress
  · have hcolon : ':' ∉ t.host.toList := hname.notMem (by decide)
    have hhead : t.host.toList.head? = some c := by
      simp only [render, if_neg hcolon, String.toList_ofList] at hc
      rwa [List.head?_append_of_ne_nil _ hname.ne_nil] at hc
    obtain ⟨hpoint, hhyphen⟩ := hname.start c hhead
    rcases hname.chars c (List.mem_of_head? hhead) with halnum | hmark | hmark | rfl
    · exact Text.isBlank_of_isAlphanum halnum
    · exact absurd hmark hpoint
    · exact absurd hmark hhyphen
    · decide
  · have hcolon := IPv6.colon_mem_of_parse? haddress
    simp only [render, if_pos hcolon, String.toList_ofList, List.cons_append,
      List.head?_cons, Option.some.injEq] at hc
    subst hc
    decide

/-- There is no white space at the end of the written form. -/
theorem isBlank_last_render
    {c : Char}
    (hc : t.render.toList.getLast? = some c) :
    Text.isBlank c = false := by
  have hne : Nat.toDigits 10 t.port.toNat ≠ [] := Nat.toDigits_ne_nil
  have hlast : (Nat.toDigits 10 t.port.toNat).getLast? = some c := by
    simp only [render, String.toList_ofList] at hc
    rwa [List.getLast?_append_of_ne_nil _ (List.cons_ne_nil _ _),
      List.getLast?_cons_of_ne_nil hne] at hc
  have hdigit :=
    Nat.isDigit_of_mem_toDigits (by decide) (by decide) (List.mem_of_getLast? hlast)
  exact Text.isBlank_of_isAlphanum (Text.isAlphanum_of_isDigit hdigit)

/-- The written form of a target has no white space around it. -/
theorem trim_render
    (h : t.WellFormed) :
    Text.trim t.render.toList = t.render.toList :=
  Text.stripBoth_eq_self _ _ (fun _ => isBlank_head_render h) fun _ => isBlank_last_render

end Forms

section Inverse

variable {s : String} {t u : Target}

/-- All targets that are read are well formed. -/
theorem wellFormed_of_parse
    (h : parse s = .ok t) :
    t.WellFormed :=
  (written_of_parse h).wellFormed

/-- A target is read back from its written form. -/
theorem parse_render
    (h : t.WellFormed) :
    parse t.render = .ok t :=
  (written_render h).parse (trim_render h)

/--
Reading and writing targets are inverse:

* the targets that are read from some text, those that are put together from some
  host and port, and those with a valid host and a port other than zero are the
  same;
* each of these is read back from its written form and put together again from
  its parts, and no two of them are written in the same way;
* a text that is read as a target can be replaced by the written form, which is
  read as the same target and is written in the same way again.
-/
theorem parse_render_inverse :
    (∀ t, (∃ s, parse s = .ok t) ↔ t.WellFormed) ∧
    (∀ t, (∃ host port, ofParts host port = .ok t) ↔ t.WellFormed) ∧
    (∀ t : Target, t.WellFormed →
      parse t.render = .ok t ∧ ofParts t.host t.port = .ok t) ∧
    (∀ t u : Target, t.WellFormed → u.WellFormed → t.render = u.render → t = u) ∧
    (∀ s t, parse s = .ok t →
      parse t.render = .ok t ∧
      ∀ u, parse t.render = .ok u → u.render = t.render) := by
  refine ⟨?_, ?_, ?_, ?_, ?_⟩
  · intro t
    constructor
    · rintro ⟨s, hparse⟩
      exact wellFormed_of_parse hparse
    · intro h
      exact ⟨t.render, parse_render h⟩
  · intro t
    constructor
    · rintro ⟨host, port, hok⟩
      exact (ofParts_eq_ok_iff.mp hok).2
    · intro h
      exact ⟨t.host, t.port, ofParts_eq_ok_iff.mpr ⟨rfl, h⟩⟩
  · intro t h
    exact ⟨parse_render h, ofParts_eq_ok_iff.mpr ⟨rfl, h⟩⟩
  · intro t u ht hu heq
    have hread := parse_render ht
    rw [heq, parse_render hu] at hread
    cases hread
    rfl
  · intro s t hparse
    have hback := parse_render (wellFormed_of_parse hparse)
    refine ⟨hback, fun u hu => ?_⟩
    rw [hback] at hu
    cases hu
    rfl

/-- An address in brackets, with blanks around it and more in front of the port
than there has to be, is written without these. -/
theorem parse_render_inverse_padded :
    parse " [2001:db8::1]:+00443 " = .ok ⟨"2001:db8::1", 443⟩ ∧
      render ⟨"2001:db8::1", 443⟩ = "[2001:db8::1]:443" ∧
      parse "[2001:db8::1]:443" = .ok ⟨"2001:db8::1", 443⟩ ∧
      ofParts "2001:db8::1" 443 = .ok ⟨"2001:db8::1", 443⟩ := by
  have hparse : parse " [2001:db8::1]:+00443 " = .ok ⟨"2001:db8::1", 443⟩ := by
    decide
  have hrender : render ⟨"2001:db8::1", 443⟩ = "[2001:db8::1]:443" := by
    decide
  obtain ⟨hread, -, hparts, -, hagain⟩ := parse_render_inverse
  have hwell := (hread ⟨"2001:db8::1", 443⟩).mp ⟨_, hparse⟩
  have hback := (hagain _ _ hparse).1
  rw [hrender] at hback
  exact ⟨hparse, hrender, hback, (hparts _ hwell).2⟩

end Inverse

end Target
end FrameBridge
