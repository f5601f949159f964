import CrateDdl.Proofs.Equality
import Mathlib.NumberTheory.Padics.PadicVal.Basic
import Mathlib.Tactic.FieldSimp

/-!
# One form for every number

The form of an exact number depends on nothing but the rational number that it is
(`ofScaled_eq_ofRat`): the powers of two and of five are its valuations, and what is left of it is
in lowest terms. The number can be read off its form (`toRat_ofRat`), so two numbers have one form
just if they are equal, whatever fraction and powers each was given by.
-/

set_option autoImplicit false

namespace CrateDdl.Number

/-! ## Splitting off factors -/

theorem splitFactor_rest_not_dvd {p : Nat} (hp : 2 ≤ p) (limit : Nat) {n : Nat} (h : n ≠ 0)
    (hlimit : n < 2 ^ limit) : ¬ p ∣ (splitFactor p limit n).2 := by
  induction limit generalizing n with
  | zero => omega
  | succ limit ih =>
    rw [splitFactor]
    split
    · rename_i hmod
      have hdvd : p ∣ n := Nat.dvd_of_mod_eq_zero hmod
      have hpos : 0 < n / p := Nat.div_pos (Nat.le_of_dvd (by omega) hdvd) (by omega)
      -- A division by `p` takes off at least the one bit that the limit goes down by.
      have hhalf : n / p ≤ n / 2 := Nat.div_le_div_left hp (by decide)
      exact ih (by omega) (by omega)
    · rename_i hmod
      intro hdvd
      exact hmod (Nat.mod_eq_zero_of_dvd hdvd)

/-- The factors two and then five of a number, and what is left without them. -/
theorem splitFactor_two_five {m : Nat} (h : m ≠ 0) :
    ∃ twos odd fives rest, splitFactor 2 (m.log2 + 1) m = (twos, odd) ∧
      splitFactor 5 (odd.log2 + 1) odd = (fives, rest) ∧ m = 2 ^ twos * 5 ^ fives * rest ∧
      ¬ 2 ∣ rest ∧ ¬ 5 ∣ rest := by
  have hm := pow_mul_splitFactor 2 (m.log2 + 1) m
  have htwo := splitFactor_rest_not_dvd (le_refl 2) _ h Nat.lt_log2_self
  have hodd := splitFactor_rest_ne_zero 2 (m.log2 + 1) h
  generalize splitFactor 2 (m.log2 + 1) m = s at hm htwo hodd
  obtain ⟨twos, odd⟩ := s
  have hm' := pow_mul_splitFactor 5 (odd.log2 + 1) odd
  have hfive := splitFactor_rest_not_dvd (p := 5) (by decide) _ hodd Nat.lt_log2_self
  generalize hs : splitFactor 5 (odd.log2 + 1) odd = s at hm' hfive
  obtain ⟨fives, rest⟩ := s
  refine ⟨twos, odd, fives, rest, rfl, hs, ?_, fun hdvd => htwo ?_, hfive⟩
  · rw [← hm, ← hm', Nat.mul_assoc]
    rfl
  · rw [← hm']
    exact Dvd.dvd.mul_left hdvd _

/-! ## The number of a form -/

theorem ne_zero_of_not_dvd {p : Nat} {a : Int} (h : ¬ (p : Int) ∣ a) : (a : ℚ) ≠ 0 := by
  intro ha
  exact h (Int.cast_eq_zero.1 ha ▸ dvd_zero _)

theorem padicValRat_scaled {p q : Nat} [hp : Fact p.Prime] [hq : Fact q.Prime] (hpq : p ≠ q)
    {a : Int} {b : Nat} (ha : ¬ (p : Int) ∣ a) (hb : ¬ p ∣ b) (s t : Int) :
    padicValRat p (a / b * p ^ s * q ^ t) = s := by
  have ha0 : (a : ℚ) ≠ 0 := ne_zero_of_not_dvd ha
  have hb0 : (b : ℚ) ≠ 0 := ne_zero_of_not_dvd (a := b) (Int.natCast_dvd_natCast.not.2 hb)
  have hp0 : (p : ℚ) ≠ 0 := Nat.cast_ne_zero.2 hp.1.ne_zero
  have hq0 : (q : ℚ) ≠ 0 := Nat.cast_ne_zero.2 hq.1.ne_zero
  have hab : padicValRat p (a / b) = 0 := by
    rw [padicValRat.div ha0 hb0, padicValRat.of_int, padicValInt.eq_zero_of_not_dvd ha,
      padicValRat.of_nat, padicValNat.eq_zero_of_not_dvd hb]
    rfl
  have hp1 : padicValRat p (p ^ s) = s := by
    rw [padicValRat.zpow, padicValRat.self hp.1.one_lt, mul_one]
  have hq1 : padicValRat p (q ^ t) = 0 := by
    rw [padicValRat.zpow, padicValRat.of_nat, padicValNat_primes hpq, Nat.cast_zero, mul_zero]
  have hdiv := div_ne_zero ha0 hb0
  have hps := zpow_ne_zero s hp0
  rw [padicValRat.mul (mul_ne_zero hdiv hps) (zpow_ne_zero t hq0), padicValRat.mul hdiv hps, hab,
    hp1, hq1, zero_add, add_zero]

namespace Exact

/-- The number of a form. -/
def toRat (x : Exact) : ℚ := x.numerator / x.denominator * 2 ^ x.twos * 5 ^ x.fives

/-- The form of a number, by its valuations. -/
def ofRat (q : ℚ) : Exact :=
  let twos := padicValRat 2 q
  let fives := padicValRat 5 q
  let rest := q / 5 ^ fives / 2 ^ twos
  ⟨rest.num, rest.den, twos, fives⟩

theorem toRat_ofRat (q : ℚ) : (ofRat q).toRat = q := by
  have h2 : (2 : ℚ) ^ padicValRat 2 q ≠ 0 := zpow_ne_zero _ two_ne_zero
  have h5 : (5 : ℚ) ^ padicValRat 5 q ≠ 0 := zpow_ne_zero _ (by norm_num)
  simp only [toRat, ofRat]
  rw [Rat.num_div_den, div_mul_cancel₀ _ h2, div_mul_cancel₀ _ h5]

theorem ofRat_injective : Function.Injective ofRat :=
  Function.LeftInverse.injective toRat_ofRat

theorem ofRat_zero : ofRat 0 = zero := by
  simp [ofRat, zero]

/-- A form in lowest terms is that of its number. -/
theorem ofRat_toRat {x : Exact} (hcop : x.numerator.natAbs.Coprime x.denominator)
    (h2 : ¬ (2 : Int) ∣ x.numerator) (h2' : ¬ 2 ∣ x.denominator)
    (h5 : ¬ (5 : Int) ∣ x.numerator) (h5' : ¬ 5 ∣ x.denominator) : ofRat x.toRat = x := by
  obtain ⟨a, b, s, t⟩ := x
  have : Fact (Nat.Prime 5) := ⟨Nat.prime_five⟩
  have htwos : padicValRat 2 (a / b * 2 ^ s * 5 ^ t) = s :=
    padicValRat_scaled (by decide) h2 h2' s t
  have hfives : padicValRat 5 (a / b * 2 ^ s * 5 ^ t) = t := by
    rw [mul_right_comm]
    exact padicValRat_scaled (by decide) h5 h5' t s
  have hpos : 0 < (b : Int) := by
    have : b ≠ 0 := fun hb => h2' (hb ▸ dvd_zero 2)
    omega
  have hrest : (a / b * 2 ^ s * 5 ^ t : ℚ) / 5 ^ t / 2 ^ s = (a : ℚ) / (b : Int) := by
    have hs : (2 : ℚ) ^ s ≠ 0 := zpow_ne_zero _ two_ne_zero
    have ht : (5 : ℚ) ^ t ≠ 0 := zpow_ne_zero _ (by norm_num)
    rw [mul_div_cancel_right₀ _ ht, mul_div_cancel_right₀ _ hs, Int.cast_natCast]
  simp only [ofRat, toRat, htwos, hfives, hrest]
  rw [Rat.num_div_eq_of_coprime hpos hcop, Int.natCast_inj.1 (Rat.den_div_eq_of_coprime hpos hcop)]

theorem ofRat_sign_mul {n : Int} (hn : n ≠ 0) {a b : Nat} (hcop : a.Coprime b)
    (ha : ¬ 2 ∣ a ∧ ¬ 5 ∣ a) (hb : ¬ 2 ∣ b ∧ ¬ 5 ∣ b) (twos fives : Int) :
    ofRat (toRat ⟨n.sign * a, b, twos, fives⟩) = ⟨n.sign * a, b, twos, fives⟩ := by
  have habs : (n.sign * a).natAbs = a := by
    rw [Int.natAbs_mul, Int.natAbs_sign_of_ne_zero hn, Int.natAbs_natCast, Nat.one_mul]
  refine ofRat_toRat ?_ (fun h => ha.1 ?_) hb.1 (fun h => ha.2 ?_) hb.2
  · rwa [habs]
  · rw [← habs]
    exact Int.natCast_dvd.1 h
  · rw [← habs]
    exact Int.natCast_dvd.1 h

/-- What numerator and denominator have in common, and their factors two and five, may stand
anywhere. -/
theorem toRat_split {n : Int} {d a b common n₂ n₅ d₂ d₅ : Nat} (hb : b ≠ 0) (hcommon : common ≠ 0)
    (hn : n.natAbs = 2 ^ n₂ * 5 ^ n₅ * (a * common)) (hd : d = 2 ^ d₂ * 5 ^ d₅ * (b * common))
    (twos fives : Int) :
    toRat ⟨n.sign * a, b, twos + n₂ - d₂, fives + n₅ - d₅⟩ = n / d * 2 ^ twos * 5 ^ fives := by
  have hn' : (n : ℚ) = n.sign * (2 ^ n₂ * 5 ^ n₅ * (a * common)) := by
    calc (n : ℚ) = (n.sign * n.natAbs : Int) := by rw [Int.sign_mul_natAbs]
      _ = n.sign * (2 ^ n₂ * 5 ^ n₅ * (a * common)) := by
        rw [hn]
        push_cast
        rfl
  have hb' : (b : ℚ) ≠ 0 := Nat.cast_ne_zero.2 hb
  have hcommon' : (common : ℚ) ≠ 0 := Nat.cast_ne_zero.2 hcommon
  rw [toRat, hn', hd, zpow_sub₀ two_ne_zero, zpow_add₀ two_ne_zero, zpow_sub₀ (by norm_num),
    zpow_add₀ (by norm_num)]
  simp only [zpow_natCast]
  push_cast
  field_simp

/-- The form of the number that a fraction and powers of two and five give. -/
theorem ofScaled_eq_ofRat (n : Int) {d : Nat} (hd : d ≠ 0) (twos fives : Int) :
    ofScaled n d twos fives = ofRat (n / d * 2 ^ twos * 5 ^ fives) := by
  by_cases hn : n = 0
  · rw [ofScaled, if_pos hn, hn]
    simp [ofRat_zero]
  · obtain ⟨n₂, nOdd, n₅, n', hn₂, hn₅, hnumerator, hn'⟩ :=
      splitFactor_two_five (Int.natAbs_ne_zero.2 hn)
    obtain ⟨d₂, dOdd, d₅, d', hd₂, hd₅, hdenominator, hd'⟩ := splitFactor_two_five hd
    have hpos : 0 < n'.gcd d' :=
      Nat.gcd_pos_of_pos_left _ (Nat.pos_of_ne_zero fun h => hn'.1 (h ▸ dvd_zero 2))
    have hcop := Nat.coprime_div_gcd_div_gcd hpos
    have ha : n' / n'.gcd d' * n'.gcd d' = n' := Nat.div_mul_cancel (Nat.gcd_dvd_left ..)
    have hb : d' / n'.gcd d' * n'.gcd d' = d' := Nat.div_mul_cancel (Nat.gcd_dvd_right ..)
    simp only [ofScaled, if_neg hn, hn₂, hn₅, hd₂, hd₅]
    -- What is left of numerator and denominator is `a * common` and `b * common`.
    generalize n' / n'.gcd d' = a at *
    generalize d' / n'.gcd d' = b at *
    generalize n'.gcd d' = common at *
    subst ha hb
    have hleft {p k l : Nat} (h : ¬ p ∣ k * l) : ¬ p ∣ k := fun hk => h (hk.mul_right l)
    have hb₀ : b ≠ 0 := fun h => hleft hd'.1 (h ▸ dvd_zero 2)
    rw [← ofRat_sign_mul hn hcop ⟨hleft hn'.1, hleft hn'.2⟩ ⟨hleft hd'.1, hleft hd'.2⟩,
      toRat_split hb₀ hpos.ne' hnumerator hdenominator]

end Exact

end CrateDdl.Number
