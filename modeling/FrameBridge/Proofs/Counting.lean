import FrameBridge.Metrics

/-!
# Counting under fixed names

Adding to a metric changes the value of that metric and of no other.  The gauge
of live sessions is set apart from the counters.  It is a binary fraction, and
stands for the number of sessions itself as long as this has room in the
significand.
-/

namespace FrameBridge

namespace Binary64

section WholeNumbers

variable {n : Nat}

theorem nearestWhole_one
    (n : Nat) :
    nearestWhole n 1 = n := by
  simp [nearestWhole, Nat.mod_one]

/-- The exponent of a whole number is the place of its highest bit. -/
theorem floorLog_one
    (hpos : n ≠ 0) :
    floorLog n 1 = n.log2 := by
  have hone : Nat.log2 1 = 0 := by
    decide
  simp [floorLog, hone, Nat.log2_self_le hpos]

/-- The significand of a number that has room in it: the number, moved up to the
highest place. -/
theorem significand_bounds
    (hpos : n ≠ 0)
    (hlog : n.log2 ≤ 52) :
    2 ^ 52 ≤ n * 2 ^ (52 - n.log2) ∧ n * 2 ^ (52 - n.log2) < 2 ^ 53 := by
  have hlow : 2 ^ n.log2 * 2 ^ (52 - n.log2) = 2 ^ 52 := by
    rw [← Nat.pow_add, Nat.add_sub_cancel' hlog]
  have hhigh : 2 ^ (n.log2 + 1) * 2 ^ (52 - n.log2) = 2 ^ 53 := by
    rw [← Nat.pow_add]
    congr 1
    omega
  rw [← hlow, ← hhigh]
  exact
    ⟨Nat.mul_le_mul_right _ (Nat.log2_self_le hpos),
      Nat.mul_lt_mul_of_pos_right Nat.lt_log2_self (Nat.two_pow_pos _)⟩

/-- A number of at most 53 bits is written in full: the place of its highest bit
becomes the exponent, and the other bits stand behind it. -/
theorem magnitude_ofNat
    (hpos : n ≠ 0)
    (hlog : n.log2 ≤ 52) :
    (ofNat n).magnitude = (n.log2 + 1022) * 2 ^ 52 + n * 2 ^ (52 - n.log2) := by
  have hbounds := significand_bounds hpos hlog
  have hunit : max leastUnit ((n.log2 : Int) - 52) = n.log2 - 52 :=
    Int.max_eq_right (by unfold leastUnit; omega)
  have hexponent : ((n.log2 : Int) - 52 - leastUnit).toNat = n.log2 + 1022 := by
    unfold leastUnit
    omega
  have hfinite : (n.log2 + 1022) * 2 ^ 52 + n * 2 ^ (52 - n.log2) ≤ infinity := by
    unfold infinity
    omega
  refine Eq.trans ?_ (Nat.min_eq_right hfinite)
  rw [ofNat, magnitudeOfRatio, if_neg hpos, floorLog_one hpos]
  dsimp only
  rw [hunit, hexponent]
  cases hplaces : 52 - n.log2 with
  | zero =>
      have hzero : (n.log2 : Int) - 52 = .ofNat 0 := by
        simp only [Int.ofNat_eq_natCast]
        omega
      simp only [hzero, nearestWhole_one, Nat.pow_zero, Nat.mul_one]
  | succ k =>
      have hbelow : (n.log2 : Int) - 52 = .negSucc k := by
        omega
      simp only [hbelow, nearestWhole_one]

/-- The bits of a significand under an exponent are read as they were put
together. -/
theorem ofBits_of_significand
    {exponent significand : Nat}
    (hexponent : exponent ≤ 52)
    (hlow : 2 ^ 52 ≤ significand)
    (hhigh : significand < 2 ^ 53) :
    let interval := Decimal.Interval.ofBits ((exponent + 1022) * 2 ^ 52 + significand)
    interval.middle = 4 * significand ∧ interval.denominator = 2 ^ (54 - exponent) := by
  have hpower :
      ((exponent + 1022) * 2 ^ 52 + significand) / 2 ^ 52 % 2 ^ 11 = exponent + 1023 := by
    omega
  have hfraction :
      ((exponent + 1022) * 2 ^ 52 + significand) % 2 ^ 52 = significand - 2 ^ 52 := by
    omega
  have hscale : exponent + 1023 - 1077 = 0 := by
    omega
  have hmax : max (exponent + 1023) 1 = exponent + 1023 :=
    Nat.max_eq_left (by omega)
  have hplaces : 1077 - (exponent + 1023) = 54 - exponent :=
    Nat.add_sub_add_right 54 1023 exponent
  simp only [Decimal.Interval.ofBits, hpower, hfraction, hmax, hscale, hplaces]
  rw [if_neg (Nat.succ_ne_zero _), Nat.add_sub_cancel' hlow, Nat.pow_zero, Nat.mul_one]
  exact ⟨rfl, trivial⟩

/-- A number that has room in a significand is its own binary fraction. -/
theorem wholePart_ofNat
    (hsmall : n < 2 ^ 53) :
    (ofNat n).wholePart = n := by
  by_cases hpos : n = 0
  · have hzero : (ofNat n).magnitude = 0 :=
      if_pos hpos
    simp only [wholePart, hzero, Decimal.Interval.ofBits, Nat.zero_div, Nat.zero_mod,
      reduceIte, Nat.mul_zero, Nat.zero_mul]
    exact hpos.symm
  · have hlog : n.log2 ≤ 52 :=
      Nat.le_of_lt_succ ((Nat.log2_lt hpos).mpr hsmall)
    obtain ⟨hlow, hhigh⟩ := significand_bounds hpos hlog
    obtain ⟨hmiddle, hdenominator⟩ := ofBits_of_significand hlog hlow hhigh
    have hwhole : 4 * (n * 2 ^ (52 - n.log2)) = n * 2 ^ (54 - n.log2) := by
      have hplaces : 54 - n.log2 = 52 - n.log2 + 2 := by
        omega
      rw [hplaces, Nat.pow_add, ← Nat.mul_assoc n, Nat.mul_comm 4]
    rw [wholePart, magnitude_ofNat hpos hlog]
    simp only [hmiddle, hdenominator, hwhole]
    exact Nat.mul_div_cancel _ (Nat.two_pow_pos _)

end WholeNumbers
end Binary64

namespace Metrics

variable {m k : Metric} {change : UInt64 → UInt64}

theorem lookup_alter_self
    (entries : List (Metric × UInt64)) :
    (alter m change entries).lookup m =
      some (change ((entries.lookup m).getD 0)) := by
  induction entries with
  | nil =>
      simp [alter]
  | cons entry rest ih =>
      obtain ⟨name, n⟩ := entry
      by_cases hname : name = m
      · subst hname
        simp [alter]
      · have hne : (m == name) = false := by
          simpa using fun h : m = name => hname h.symm
        simp [alter, if_neg hname, List.lookup_cons, hne, ih]

theorem lookup_alter_of_ne
    (entries : List (Metric × UInt64))
    (hne : m ≠ k) :
    (alter m change entries).lookup k = entries.lookup k := by
  have hkm : (k == m) = false := by
    simpa using fun h : k = m => hne h.symm
  induction entries with
  | nil =>
      simp [alter, List.lookup_cons, hkm]
  | cons entry rest ih =>
      obtain ⟨name, n⟩ := entry
      by_cases hname : name = m
      · subst hname
        simp [alter, List.lookup_cons, hkm]
      · simp [alter, if_neg hname, List.lookup_cons, ih]

@[simp] theorem value_add_self
    (metrics : Metrics) (n : UInt64) :
    (metrics.add m n).value m = metrics.value m + n := by
  simp [value, get?, add, lookup_alter_self]

/-- Counting one thing leaves the counters of all others alone. -/
theorem value_add_of_ne
    (metrics : Metrics) (n : UInt64)
    (hne : m ≠ k) :
    (metrics.add m n).value k = metrics.value k := by
  simp [value, get?, add, lookup_alter_of_ne _ hne]

@[simp] theorem value_setSessionsActive
    (metrics : Metrics) (count : Nat) :
    (metrics.setSessionsActive count).value m = metrics.value m := rfl

end Metrics
end FrameBridge
