import FrameBridge.Proofs.Address.LetterCase
import FrameBridge.Proofs.Target.RoundTrip

/-!
# Letter case in targets

Texts with the same letters are targets with the same letters, or both are none.
All that the grammar asks of a text is kept when its letters are folded: a target
stays one (`Written.fold`), and a text with a fault still has one (`Fault.fold`).
As every text is either, the converses follow.
-/

namespace FrameBridge
namespace Target

open Text

/-- The targets have the same port, and hosts with the same letters. -/
structure SameLetters (t u : Target) : Prop where
  host : Text.SameLetters t.host u.host
  port : t.port = u.port

/-- The target with its host in lower case. -/
def fold (t : Target) : Target :=
  ⟨lower t.host, t.port⟩

section Hosts

variable {host : List Char} {name : String}

theorem isHostChar_toLower
    (c : Char) :
    isHostChar c.toLower = isHostChar c := by
  have hmark : ∀ mark : Char, mark.isAlpha = false → (c.toLower == mark) = (c == mark) := by
    intro mark hmark
    rw [Bool.eq_iff_iff, beq_iff_eq, beq_iff_eq, toLower_eq_iff hmark]
  rw [isHostChar, isHostChar, isAsciiAlnum, isAsciiAlnum, isAlphanum_toLower,
    hmark '.' (by decide), hmark '-' (by decide), hmark '_' (by decide)]

theorem isHostName_foldCase_iff :
    isHostName (foldCase host) = true ↔ isHostName host = true := by
  have hpoint : (foldCase host).head? = some '.' ↔ host.head? = some '.' :=
    head?_foldCase_iff (by decide)
  have hhyphen : (foldCase host).head? = some '-' ↔ host.head? = some '-' :=
    head?_foldCase_iff (by decide)
  have hchars : (foldCase host).all isHostChar = host.all isHostChar := by
    rw [foldCase, List.all_map]
    exact congrArg host.all (funext isHostChar_toLower)
  simp only [isHostName, Bool.and_eq_true, decide_eq_true_eq, bne_iff_ne, Ne,
    length_foldCase, hpoint, hhyphen, hchars]

theorem isName_foldCase_iff :
    IsName (foldCase host) ↔ IsName host := by
  by_cases hne : host = []
  · rw [hne, foldCase_nil]
  · rw [← isHostName_iff hne, ← isHostName_iff (mt foldCase_eq_nil_iff.mp hne),
      isHostName_foldCase_iff]

theorem checkHost_of_sameLetters
    {name' : String}
    (hsame : Text.SameLetters name name')
    (hok : checkHost name = .ok ()) :
    checkHost name' = .ok () := by
  rw [checkHost_eq_ok_iff, ← isName_foldCase_iff, ← IPv6.parse?_foldCase] at hok ⊢
  rwa [← hsame]

end Hosts

section Texts

variable {text host port : List Char} {n : Nat} {t : Target} {e : TargetError}

theorem isPort_foldCase_iff :
    IsPort (foldCase port) n ↔ IsPort port n := by
  constructor
  · rintro ⟨hnumeral, hpos, hle⟩
    exact ⟨isNumeral_foldCase_iff.mp hnumeral, hpos, hle⟩
  · rintro ⟨hnumeral, hpos, hle⟩
    exact ⟨isNumeral_foldCase_iff.mpr hnumeral, hpos, hle⟩

theorem Cut.fold
    (h : Cut text host port) :
    Cut (foldCase text) (foldCase host) (foldCase port) := by
  cases h with
  | plain hname hport =>
      rw [foldCase_append, foldCase_cons]
      refine .plain (isName_foldCase_iff.mpr hname) ?_
      rwa [mem_foldCase_iff (by decide)]
  | bracketed hhost =>
      rw [List.cons_append, foldCase_cons, foldCase_append]
      refine .bracketed ?_
      rwa [IPv6.parse?_foldCase]

theorem Written.fold
    (h : Written text t) :
    Written (foldCase text) t.fold := by
  cases h with
  | @plain host port n hname hport =>
      have hwritten := Written.plain (isName_foldCase_iff.mpr hname) (isPort_foldCase_iff.mpr hport)
      simpa [Target.fold, lower] using hwritten
  | @bracketed host port n hhost hport =>
      have hhost' : (IPv6.parse? (foldCase host)).isSome = true := by
        rwa [IPv6.parse?_foldCase]
      have hwritten := Written.bracketed hhost' (isPort_foldCase_iff.mpr hport)
      simpa [Target.fold, lower] using hwritten

/-- A text with a fault has one in lower case as well. -/
theorem Fault.fold
    (h : Fault text e) :
    ∃ e', Fault (foldCase text) e' := by
  have hmem :
      ∀ {mark : Char} {cs : List Char}, mark.isAlpha = false →
        mark ∉ cs → mark ∉ foldCase cs :=
    fun hmark => mt (mem_foldCase_iff hmark).mp
  have hhead :
      ∀ {mark : Char} {cs : List Char}, mark.isAlpha = false →
        cs.head? ≠ some mark → (foldCase cs).head? ≠ some mark :=
    fun hmark => mt (head?_foldCase_iff hmark).mp
  cases h with
  | empty =>
      exact ⟨_, .empty⟩
  | unclosed hclose =>
      exact ⟨_, .unclosed (hmem (by decide) hclose)⟩
  | portless hclose htail =>
      rw [List.cons_append, foldCase_cons, foldCase_append]
      exact ⟨_, .portless (hmem (by decide) hclose) (hhead (by decide) htail)⟩
  | badLiteral hclose hhost =>
      rw [List.cons_append, foldCase_cons, foldCase_append]
      refine ⟨_, .badLiteral (hmem (by decide) hclose) ?_⟩
      rwa [IPv6.parse?_foldCase]
  | colonless hne hopen hcolon =>
      exact
        ⟨_, .colonless (mt foldCase_eq_nil_iff.mp hne) (hhead (by decide) hopen)
          (hmem (by decide) hcolon)⟩
  | ambiguous hopen hhost hport =>
      rw [foldCase_append, foldCase_cons]
      refine ⟨_, .ambiguous (hhead (by decide) hopen) ?_ (hmem (by decide) hport)⟩
      rwa [mem_foldCase_iff (by decide)]
  | hostless hport =>
      exact ⟨_, .hostless (hmem (by decide) hport)⟩
  | badName hne hopen hhost hport hname =>
      rw [foldCase_append, foldCase_cons]
      exact
        ⟨_, .badName (mt foldCase_eq_nil_iff.mp hne) (hhead (by decide) hopen)
          (hmem (by decide) hhost) (hmem (by decide) hport)
          (mt isName_foldCase_iff.mp hname)⟩
  | badPort hcut hport =>
      exact ⟨_, .badPort hcut.fold fun n => mt isPort_foldCase_iff.mp (hport n)⟩

end Texts

section Reading

variable {s s' : String} {t t' : Target} {e : TargetError}

theorem trim_lower
    (s : String) :
    trim (lower s).toList = foldCase (trim s.toList) := by
  rw [toList_lower, trim_foldCase]

/-- The target of a text in lower case has its host in lower case. -/
theorem parse_lower
    (hparse : parse s = .ok t) :
    parse (lower s) = .ok t.fold :=
  (written_of_parse hparse).fold.parse (trim_lower s)

/-- No text becomes a target by its letter case. -/
theorem parse_lower_error
    (hparse : parse s = .error e) :
    ∃ e', parse (lower s) = .error e' := by
  obtain ⟨e', hfault⟩ := (fault_of_parse hparse).fold
  exact ⟨e', hfault.parse (trim_lower s)⟩

/-- A text with the same letters is read as a target with the same letters. -/
theorem parse_of_sameLetters
    (hsame : Text.SameLetters s s')
    (hparse : parse s = .ok t) :
    ∃ t', parse s' = .ok t' ∧ t.SameLetters t' := by
  have hlower := parse_lower hparse
  rw [lower_eq_lower_iff.mpr hsame] at hlower
  cases hparse' : parse s' with
  | error e =>
      obtain ⟨e', herror⟩ := parse_lower_error hparse'
      rw [herror] at hlower
      cases hlower
  | ok t' =>
      rw [parse_lower hparse'] at hlower
      injection hlower with hfold
      injection hfold with hhost hport
      exact ⟨t', rfl, lower_eq_lower_iff.mp hhost.symm, hport.symm⟩

/-- An entry with a port matches its target, up to letter case. -/
theorem matchesEntry_of_parse
    {entry : String} {allowed : Target}
    (hparse : parse entry = .ok allowed) :
    t.matchesEntry entry = true ↔ allowed.SameLetters t := by
  simp only [matchesEntry, hparse, Bool.and_eq_true, beq_iff_eq, equalFold_eq_true_iff]
  constructor
  · rintro ⟨hhost, hport⟩
    exact ⟨hhost, hport⟩
  · rintro ⟨hhost, hport⟩
    exact ⟨hhost, hport⟩

/-- Any other entry matches hosts, and brackets around it do not matter. -/
theorem matchesEntry_of_error
    {entry : String}
    (hparse : parse entry = .error e) :
    t.matchesEntry entry = true ↔
      foldCase (stripBoth isBracket entry.toList) = foldCase t.host.toList := by
  simp only [matchesEntry, hparse, equalFold_eq_true_iff]

theorem isBracket_toLower
    (c : Char) :
    isBracket c.toLower = isBracket c := by
  rw [Bool.eq_iff_iff]
  simp [isBracket, toLower_eq_iff (a := '[') (by decide), toLower_eq_iff (a := ']') (by decide)]

/-- Letter case does not count, neither that of the target nor that of the
entry. -/
theorem matchesEntry_of_sameLetters
    {entry entry' : String}
    (htarget : t.SameLetters t')
    (hentry : Text.SameLetters entry entry')
    (hmatches : t.matchesEntry entry = true) :
    t'.matchesEntry entry' = true := by
  cases hparse : parse entry with
  | ok allowed =>
      obtain ⟨allowed', hparse', hallowed⟩ := parse_of_sameLetters hentry hparse
      obtain ⟨hhost, hport⟩ := (matchesEntry_of_parse hparse).mp hmatches
      refine (matchesEntry_of_parse hparse').mpr ⟨?_, ?_⟩
      · exact hallowed.host.symm.trans (hhost.trans htarget.host)
      · exact hallowed.port.symm.trans (hport.trans htarget.port)
  | error e =>
      cases hparse' : parse entry' with
      | ok allowed' =>
          obtain ⟨allowed, hparsed, -⟩ := parse_of_sameLetters hentry.symm hparse'
          rw [hparse] at hparsed
          cases hparsed
      | error e' =>
          rw [matchesEntry_of_error hparse] at hmatches
          rw [matchesEntry_of_error hparse']
          calc
            foldCase (stripBoth isBracket entry'.toList)
                = stripBoth isBracket (foldCase entry'.toList) :=
              (stripBoth_foldCase isBracket_toLower _).symm
            _ = stripBoth isBracket (foldCase entry.toList) := by rw [hentry]
            _ = foldCase (stripBoth isBracket entry.toList) :=
              stripBoth_foldCase isBracket_toLower _
            _ = foldCase t.host.toList := hmatches
            _ = foldCase t'.host.toList := htarget.host

end Reading

end Target
end FrameBridge
