import Mathlib.Algebra.Ring.Int.Defs
import Mathlib.Data.Nat.Dist
import StyleChain.Proofs.Number.Widening

/-!
# Rounding takes the nearest number

Rounding a quotient to a format drops the low bits that a significand cannot hold and rounds what is
left to a natural (`Format.nearest`). That this finds the nearest number of all, a half going to the
even one, is shown in three steps. What is left is rounded to the nearest natural
(`nearestEven_roundHalfEven`). The numbers of a format are of two sorts, seen from the quotient:
multiples of the last bit that is kept, among which the nearest natural finds the nearest, and
numbers below all significands of full length, which are further away (`units_eq_mul_or_lt`,
`nearestEven_rounded`). And what lies beyond the largest number is rounded to infinity, as if
infinity were the next number (`Format.dist_nearest_le`).

So a number that is taken over into another format becomes the nearest one there
(`Binary.dist_convert_le`), and an integer that has no more bits than a significand is represented
as it is (`Binary.worth_ofInt`).
-/

namespace StyleChain

/-- No value is nearer to `x` than that of `r`, and where another is as near, `r` is even. -/
structure NearestEven (value : Nat → Nat) (x r : Nat) : Prop where
  dist_le : ∀ n, Nat.dist (value r) x ≤ Nat.dist (value n) x
  even_of_dist_eq : ∀ n, n ≠ r → Nat.dist (value n) x = Nat.dist (value r) x → r % 2 = 0

/-! ### Rounding to naturals -/

/-- Rounding moves a quotient by a half at most, and by a half to even naturals only. -/
theorem dist_roundHalfEven_le_half (num : Nat) {den : Nat} (h : 0 < den) :
    2 * Nat.dist (roundHalfEven num den * den) num ≤ den ∧
      (2 * Nat.dist (roundHalfEven num den * den) num = den → roundHalfEven num den % 2 = 0) := by
  have hdiv : num / den * den + num % den = num := Nat.div_add_mod' num den
  have hmod : num % den < den := Nat.mod_lt num h
  simp only [roundHalfEven, Nat.dist]
  split
  · omega
  · rw [Nat.succ_mul (num / den)]
    omega

/-- Other multiples of the denominator are at least that much away. -/
theorem le_dist_mul {n r : Nat} (h : n ≠ r) (den : Nat) : den ≤ Nat.dist (n * den) (r * den) := by
  have hpos : 0 < Nat.dist n r := Nat.pos_of_ne_zero (mt Nat.eq_of_dist_eq_zero h)
  rw [Nat.dist_mul_right]
  exact Nat.le_mul_of_pos_left den hpos

theorem nearestEven_roundHalfEven (num : Nat) {den : Nat} (h : 0 < den) :
    NearestEven (· * den) num (roundHalfEven num den) := by
  obtain ⟨hhalf, heven⟩ := dist_roundHalfEven_le_half num h
  have hother : ∀ n, n ≠ roundHalfEven num den →
      den ≤ Nat.dist (n * den) num + Nat.dist (roundHalfEven num den * den) num := fun n hne => by
    rw [Nat.dist_comm (roundHalfEven num den * den)]
    exact (le_dist_mul hne den).trans (Nat.dist.triangle_inequality _ _ _)
  refine ⟨fun n => ?_, fun n hne heq => heven ?_⟩
  · by_cases hne : n = roundHalfEven num den
    · rw [hne]
    · have := hother n hne
      omega
  · have := hother n hne
    omega

namespace Format

variable {f : Format}

/-! ### The numbers of a format -/

theorem units_zero (f : Format) : f.units 0 = 0 := by simp [units]

/-- A value that ends in a lower bit lies below all significands of full length. -/
theorem IsSignificand.lt_of_lt {k s n : Nat} (h : f.IsSignificand k s) (hk : k < n) :
    s * 2 ^ k < 2 ^ f.fractionBits * 2 ^ n :=
  calc s * 2 ^ k
    _ < 2 ^ (f.fractionBits + 1) * 2 ^ k := Nat.mul_lt_mul_of_pos_right h.lt (Nat.two_pow_pos k)
    _ = 2 ^ f.fractionBits * 2 ^ (k + 1) := by rw [← Nat.pow_add, ← Nat.pow_add]; congr 1; omega
    _ ≤ 2 ^ f.fractionBits * 2 ^ n := Nat.mul_le_mul_left _ (Nat.pow_le_pow_right Nat.two_pos hk)

/-- Magnitudes are in the order of what they are worth. -/
theorem units_strictMono (f : Format) : StrictMono f.units := by
  intro m n hmn
  obtain ⟨k, s, rfl, hs⟩ := f.exists_isSignificand m
  obtain ⟨k', s', rfl, hs'⟩ := f.exists_isSignificand n
  rw [hs.units_eq, hs'.units_eq]
  rcases Nat.lt_trichotomy k k' with hk | rfl | hk
  · have hlong : 2 ^ f.fractionBits ≤ s' := hs'.eq_zero_or_le.resolve_left (Nat.ne_zero_of_lt hk)
    exact (hs.lt_of_lt hk).trans_le (Nat.mul_le_mul_right _ hlong)
  · exact Nat.mul_lt_mul_of_pos_right (Nat.lt_of_add_lt_add_left hmn) (Nat.two_pow_pos k)
  · -- the larger exponent with a significand of full length makes the larger magnitude
    have hlong : 2 ^ f.fractionBits ≤ s := hs.eq_zero_or_le.resolve_left (Nat.ne_zero_of_lt hk)
    have hle : (k' + 1) * 2 ^ f.fractionBits ≤ k * 2 ^ f.fractionBits := Nat.mul_le_mul_right _ hk
    have hlt : s' < 2 ^ f.fractionBits * 2 := by rw [← Nat.pow_succ]; exact hs'.lt
    rw [Nat.succ_mul k'] at hle
    omega

/-- A value is a multiple of the last bit that is kept, or lies below all significands of full
length that end in this bit. -/
theorem units_eq_mul_or_lt (f : Format) (m k : Nat) :
    (∃ n, f.units m = n * 2 ^ k) ∨ k ≠ 0 ∧ f.units m < 2 ^ f.fractionBits * 2 ^ k := by
  obtain ⟨j, s, rfl, hs⟩ := f.exists_isSignificand m
  rw [hs.units_eq]
  rcases Nat.lt_or_ge j k with hj | hj
  · exact .inr ⟨Nat.ne_zero_of_lt hj, hs.lt_of_lt hj⟩
  · refine .inl ⟨s * 2 ^ (j - k), ?_⟩
    rw [Nat.mul_assoc, ← Nat.pow_add, Nat.sub_add_cancel hj]

/-- A significand may round up to the next power of two, and the magnitude is right still. -/
theorem units_eq_of_le {k s : Nat} (hle : s ≤ 2 ^ (f.fractionBits + 1))
    (hlong : k = 0 ∨ 2 ^ f.fractionBits ≤ s) :
    f.units (k * 2 ^ f.fractionBits + s) = s * 2 ^ k := by
  rcases Nat.lt_or_eq_of_le hle with hlt | rfl
  · exact IsSignificand.units_eq ⟨hlt, hlong⟩
  · have hnext : f.IsSignificand (k + 1) (2 ^ f.fractionBits) :=
      ⟨Nat.pow_lt_pow_succ Nat.one_lt_two, .inr (Nat.le_refl _)⟩
    have hm : k * 2 ^ f.fractionBits + 2 ^ (f.fractionBits + 1) =
        (k + 1) * 2 ^ f.fractionBits + 2 ^ f.fractionBits := by
      rw [Nat.succ_mul k, Nat.pow_succ]
      omega
    rw [hm, hnext.units_eq, Nat.pow_succ, Nat.pow_succ, Nat.mul_assoc, Nat.mul_comm (2 ^ k)]

/-! ### Rounding to a format -/

/-- As many bits are dropped as the significand cannot hold. -/
theorem lt_and_le_of_dropped (f : Format) (n : Nat) :
    n < 2 ^ (f.fractionBits + 1) * 2 ^ f.dropped n ∧
      (f.dropped n = 0 ∨ 2 ^ f.fractionBits * 2 ^ f.dropped n ≤ n) := by
  rw [← Nat.pow_add, ← Nat.pow_add, dropped]
  constructor
  · exact Nat.lt_log2_self.trans_le (Nat.pow_le_pow_right Nat.two_pos (by omega))
  · rcases Nat.lt_or_ge f.fractionBits n.log2 with hlt | hge
    · have hne : n ≠ 0 := by
        rintro rfl
        simp at hlt
      rw [Nat.add_sub_cancel' hlt.le]
      exact .inr (Nat.log2_self_le hne)
    · exact .inl (Nat.sub_eq_zero_of_le hge)

/-- What is left of a quotient is rounded to a significand, or to the power of two above. -/
theorem roundHalfEven_le_and_le {x den k : Nat} (hk : f.dropped (x / den) = k) :
    roundHalfEven x (den * 2 ^ k) ≤ 2 ^ (f.fractionBits + 1) ∧
      (k = 0 ∨ 2 ^ f.fractionBits ≤ roundHalfEven x (den * 2 ^ k)) := by
  obtain ⟨hlt, hle⟩ := f.lt_and_le_of_dropped (x / den)
  rw [hk] at hlt hle
  have hquotient : x / (den * 2 ^ k) < 2 ^ (f.fractionBits + 1) := by
    rw [← Nat.div_div_eq_div_mul]
    exact (Nat.div_lt_iff_lt_mul (Nat.two_pow_pos k)).mpr hlt
  have hround : x / (den * 2 ^ k) ≤ roundHalfEven x (den * 2 ^ k) ∧
      roundHalfEven x (den * 2 ^ k) ≤ x / (den * 2 ^ k) + 1 := by
    simp only [roundHalfEven]
    split <;> omega
  refine ⟨hround.2.trans hquotient, hle.imp_right fun hlong => le_trans ?_ hround.1⟩
  rw [← Nat.div_div_eq_div_mul]
  exact (Nat.le_div_iff_mul_le (Nat.two_pow_pos k)).mpr hlong

/-- Were there no largest number, rounding would find the nearest one. -/
theorem nearestEven_rounded (hfraction : 0 < f.fractionBits) {x den k : Nat} (h : 0 < den)
    (hk : f.dropped (x / den) = k) :
    NearestEven (f.units · * den) x
      (k * 2 ^ f.fractionBits + roundHalfEven x (den * 2 ^ k)) := by
  have hden : 0 < den * 2 ^ k := Nat.mul_pos h (Nat.two_pow_pos k)
  obtain ⟨hle, hlong⟩ := roundHalfEven_le_and_le hk
  obtain ⟨hnearest, heven⟩ := nearestEven_roundHalfEven x hden
  generalize roundHalfEven x (den * 2 ^ k) = s at *
  have hunits : f.units (k * 2 ^ f.fractionBits + s) = s * 2 ^ k := units_eq_of_le hle hlong
  have hmul : ∀ n, n * 2 ^ k * den = n * (den * 2 ^ k) := fun n => by
    rw [Nat.mul_assoc, Nat.mul_comm (2 ^ k)]
  -- any other magnitude is worth another multiple of the last bit kept, or is further away
  have hother : ∀ n, n ≠ k * 2 ^ f.fractionBits + s →
      (∃ j ≠ s, f.units n * den = j * (den * 2 ^ k)) ∨
        Nat.dist (s * (den * 2 ^ k)) x < Nat.dist (f.units n * den) x := by
    intro n hne
    obtain ⟨j, hj⟩ | ⟨hpos, hlt⟩ := f.units_eq_mul_or_lt n k
    · refine .inl ⟨j, ?_, by rw [hj, hmul]⟩
      rintro rfl
      exact hne (f.units_strictMono.injective (hj.trans hunits.symm))
    · have hfirst := hnearest (2 ^ f.fractionBits)
      have hx : 2 ^ f.fractionBits * 2 ^ k * den ≤ x := by
        rw [← hk] at hpos ⊢
        exact (Nat.le_div_iff_mul_le h).mp ((f.lt_and_le_of_dropped _).2.resolve_left hpos)
      have hbelow := Nat.mul_lt_mul_of_pos_right hlt h
      rw [hmul] at hx hbelow
      unfold Nat.dist at *
      omega
  refine ⟨fun n => ?_, fun n hne heq => ?_⟩
  · rw [hunits, hmul]
    by_cases hne : n = k * 2 ^ f.fractionBits + s
    · rw [hne, hunits, hmul]
    · obtain ⟨j, -, hj⟩ | hlt := hother n hne
      · rw [hj]
        exact hnearest j
      · exact hlt.le
  · rw [hunits, hmul] at heq
    obtain ⟨j, hjs, hj⟩ | hlt := hother n hne
    · have hs : s % 2 = 0 := heven j hjs (hj ▸ heq)
      have hexponent : k * 2 ^ f.fractionBits % 2 = 0 := by
        rw [← Nat.two_pow_pred_mul_two hfraction, ← Nat.mul_assoc, Nat.mul_mod_left]
      omega
    · exact absurd heq hlt.ne'

/-- **Rounding takes the nearest number.** No magnitude up to infinity is worth a value nearer to
the quotient than the one that is rounded to, and where another is as near, the even one is. -/
theorem dist_nearest_le (hfraction : 0 < f.fractionBits) (num : Nat) {den n : Nat} (h : 0 < den)
    (hn : n ≤ f.infinity) :
    Nat.dist (f.units (f.nearest num den) * den) (num * 2 ^ f.unitBits) ≤
        Nat.dist (f.units n * den) (num * 2 ^ f.unitBits) ∧
      (n ≠ f.nearest num den →
        Nat.dist (f.units n * den) (num * 2 ^ f.unitBits) =
          Nat.dist (f.units (f.nearest num den) * den) (num * 2 ^ f.unitBits) →
        f.nearest num den % 2 = 0) := by
  have hrounded := nearestEven_rounded hfraction (x := num * 2 ^ f.unitBits) h rfl
  rw [nearest]
  generalize f.dropped (num * 2 ^ f.unitBits / den) * 2 ^ f.fractionBits + roundHalfEven _ _ = m
    at *
  generalize num * 2 ^ f.unitBits = x at *
  rcases Nat.lt_or_ge f.infinity m with hm | hm
  · -- what would be rounded past infinity lies beyond it, so nothing below is nearer
    have hbeyond : f.units f.infinity * den < f.units m * den :=
      Nat.mul_lt_mul_of_pos_right (f.units_strictMono hm) h
    have hx : f.units f.infinity * den ≤ x := by
      have := hrounded.dist_le f.infinity
      unfold Nat.dist at this
      omega
    rw [Nat.min_eq_left hm.le]
    rcases Nat.lt_or_eq_of_le hn with hlt | rfl
    · have hless : f.units n * den < f.units f.infinity * den :=
        Nat.mul_lt_mul_of_pos_right (f.units_strictMono hlt) h
      unfold Nat.dist
      omega
    · exact ⟨Nat.le_refl _, fun hne => absurd rfl hne⟩
  · rw [Nat.min_eq_right hm]
    exact ⟨hrounded.dist_le n, hrounded.even_of_dist_eq n⟩

theorem nearest_le_infinity (f : Format) (num den : Nat) : f.nearest num den ≤ f.infinity :=
  Nat.min_le_left _ _

end Format

namespace Binary

variable {f g : Format}

/-! ### What numbers are worth -/

/-- A natural under a sign. -/
def signed (negative : Bool) (n : Nat) : Int := if negative then -n else n

theorem signed_mul_two_pow (negative : Bool) (n k : Nat) :
    signed negative n * 2 ^ k = signed negative (n * 2 ^ k) := by
  cases negative <;> simp [signed]

/-- What is nearer without a sign is nearer under it, if it is no further away than zero. -/
theorem natAbs_signed_sub_le {a b x : Nat} (hle : Nat.dist a x ≤ Nat.dist b x)
    (hzero : Nat.dist a x ≤ Nat.dist 0 x) (s t : Bool) :
    (signed s a - signed s x).natAbs ≤ (signed t b - signed s x).natAbs := by
  unfold Nat.dist at hle hzero
  cases s <;> cases t <;> simp only [signed, if_true, Bool.false_eq_true, if_false] <;> omega

/-- What a number is worth in units of its format. -/
def worth (x : Binary f) : Int := signed x.negative (f.units x.magnitude)

theorem worth_ofMagnitude {negative : Bool} {m : Nat} (h : m ≤ f.infinity) :
    (ofMagnitude f negative m).worth = signed negative (f.units m) := by
  have hlt : m < 2 ^ f.magnitudeBits := h.trans_lt f.infinity_lt
  rw [worth, negative_ofMagnitude hlt, magnitude_ofMagnitude hlt]

/-- An integer that has no more bits than a significand is represented as it is. -/
theorem worth_ofInt {i : Int} (hi : i.natAbs < 2 ^ (f.fractionBits + 1))
    (hbits : f.unitBits + 3 ≤ 2 ^ f.exponentBits) :
    (ofInt f i).isNaN = false ∧ (ofInt f i).isInfinite = false ∧
      (ofInt f i).worth = i * 2 ^ f.unitBits := by
  obtain ⟨m, hm, hunits⟩ := f.exists_units_eq hi hbits
  have hnearest : f.nearest i.natAbs 1 = m :=
    Format.nearest_eq_of_exact hm.le Nat.one_pos (by rw [hunits, Nat.mul_one])
  have hmagnitude : (ofInt f i).magnitude = m := by
    rw [ofInt, ofRatio, hnearest, magnitude_ofMagnitude (hm.trans f.infinity_lt)]
  refine ⟨?_, ?_, ?_⟩
  · rw [isNaN, hmagnitude, decide_eq_false (Nat.lt_asymm hm)]
  · rw [isInfinite, hmagnitude, decide_eq_false hm.ne]
  · rw [ofInt, ofRatio, hnearest, worth_ofMagnitude hm.le, hunits]
    by_cases hneg : i < 0
    · have habs : (i.natAbs : Int) = -i := Int.ofNat_natAbs_of_nonpos (Int.le_of_lt hneg)
      simp [signed, hneg, habs]
    · have habs : (i.natAbs : Int) = i := Int.natAbs_of_nonneg (Int.not_lt.mp hneg)
      simp [signed, hneg, habs]

/-- One is worth one. -/
theorem worth_one (hbits : f.unitBits + 3 ≤ 2 ^ f.exponentBits) :
    (one f).worth = 2 ^ f.unitBits := by
  have hone : (1 : Int).natAbs < 2 ^ (f.fractionBits + 1) := Nat.one_lt_two_pow (by omega)
  rw [one, (worth_ofInt hone hbits).2.2, Int.one_mul]

/-- **Taking a number over takes the nearest one.** No number of the other format is worth a value
nearer to that of a finite number than the one it becomes, whatever their signs. -/
theorem dist_convert_le {x : Binary f} (hfraction : 0 < g.fractionBits)
    (hx : x.magnitude < f.infinity) {y : Binary g} (hy : y.isNaN = false) :
    ((x.convert g).worth * 2 ^ f.unitBits - x.worth * 2 ^ g.unitBits).natAbs ≤
      (y.worth * 2 ^ f.unitBits - x.worth * 2 ^ g.unitBits).natAbs := by
  have hle : y.magnitude ≤ g.infinity := Nat.le_of_not_lt (of_decide_eq_false hy)
  have hnearest : ∀ {n}, n ≤ g.infinity → _ := fun hn =>
    (g.dist_nearest_le hfraction (f.units x.magnitude) (Nat.two_pow_pos f.unitBits) hn).1
  have hsame := hnearest hle
  have hzero := hnearest (Nat.zero_le g.infinity)
  rw [g.units_zero, Nat.zero_mul] at hzero
  rw [convert_of_lt_infinity hx, worth_ofMagnitude (g.nearest_le_infinity _ _), worth, worth]
  simp only [signed_mul_two_pow]
  exact natAbs_signed_sub_le hsame hzero _ _

/-- An integer that is represented as it is and taken over becomes the number nearest to it. -/
theorem dist_convert_ofInt_le {i : Int} (hi : i.natAbs < 2 ^ (f.fractionBits + 1))
    (hbits : f.unitBits + 3 ≤ 2 ^ f.exponentBits) (hfraction : 0 < g.fractionBits) {y : Binary g}
    (hy : y.isNaN = false) :
    (((ofInt f i).convert g).worth - i * 2 ^ g.unitBits).natAbs ≤
      (y.worth - i * 2 ^ g.unitBits).natAbs := by
  obtain ⟨hnan, hinfinite, hworth⟩ := worth_ofInt hi hbits
  have hfinite : (ofInt f i).magnitude < f.infinity :=
    Nat.lt_of_le_of_ne (Nat.le_of_not_lt (of_decide_eq_false hnan)) (of_decide_eq_false hinfinite)
  have hle := dist_convert_le hfraction hfinite hy
  -- the unit of the first format is a factor of both sides
  have hunit : ∀ z : Int, z * 2 ^ f.unitBits - i * 2 ^ f.unitBits * 2 ^ g.unitBits =
      (z - i * 2 ^ g.unitBits) * 2 ^ f.unitBits := fun z => by
    rw [Int.sub_mul, Int.mul_right_comm]
  rw [hworth, hunit, hunit, Int.natAbs_mul, Int.natAbs_mul] at hle
  refine Nat.le_of_mul_le_mul_right hle (Int.natAbs_pos.mpr ?_)
  exact (Int.pow_pos (by decide)).ne'

/-- A wider format has a number worth as much. -/
theorem worth_convert {x : Binary f} (h : f.Embeds g) (hx : x.magnitude < f.infinity) :
    (x.convert g).worth * 2 ^ f.unitBits = x.worth * 2 ^ g.unitBits := by
  obtain ⟨n, hn, hunits⟩ := h.exists_units_eq hx
  rw [convert_eq_ofMagnitude hx hn hunits, worth_ofMagnitude hn.le, worth, signed_mul_two_pow,
    signed_mul_two_pow, hunits]

end Binary

end StyleChain
