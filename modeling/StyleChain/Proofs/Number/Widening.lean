import StyleChain.Number.Binary

/-!
# Numbers in a wider format

A format with at least as many fraction bits and exponent bits as another holds every number of it,
so taking a number over into the wider format and back gives the number itself, bit by bit
(`Binary.convert_convert`), with the exception of what is not a number, which may come back as
another such value.

A value of `s * 2 ^ k` units is encoded by the magnitude `k * 2 ^ fractionBits + s`, provided that
`s` has the full length of a significand or no bit is dropped (`IsSignificand`). Every magnitude is
of this form, and for such a magnitude `units` and `nearest` are inverse to each other: where the
value asked for is exact, rounding finds the magnitude that is worth it (`nearest_eq_of_exact`). So
all that has to be shown of the wider format is that it has a magnitude worth as much, and there a
significand that is too short for its exponent is doubled until it is not (`exists_units_eq`).
-/

namespace StyleChain

namespace Format

variable {f g : Format}

/-! ### Significands -/

/-- With `k` low bits dropped, `s` is what is left: short only if there was nothing to drop. -/
structure IsSignificand (f : Format) (k s : Nat) : Prop where
  lt : s < 2 ^ (f.fractionBits + 1)
  eq_zero_or_le : k = 0 ∨ 2 ^ f.fractionBits ≤ s

/-- Every magnitude holds a significand. -/
theorem exists_isSignificand (f : Format) (m : Nat) :
    ∃ k s, m = k * 2 ^ f.fractionBits + s ∧ f.IsSignificand k s := by
  have hpos : 0 < 2 ^ f.fractionBits := Nat.two_pow_pos _
  have hlt : m % 2 ^ f.fractionBits < 2 ^ f.fractionBits := Nat.mod_lt m hpos
  have hm : 2 ^ f.fractionBits * (m / 2 ^ f.fractionBits) + m % 2 ^ f.fractionBits = m :=
    Nat.div_add_mod m _
  have hpow : 2 ^ (f.fractionBits + 1) = 2 ^ f.fractionBits * 2 := Nat.pow_succ 2 _
  cases he : m / 2 ^ f.fractionBits with
  | zero =>
    refine ⟨0, m, by omega, ?_, .inl rfl⟩
    rw [he] at hm
    omega
  | succ e =>
    refine ⟨e, 2 ^ f.fractionBits + m % 2 ^ f.fractionBits, ?_, by omega, .inr (by omega)⟩
    rw [he, Nat.mul_succ, Nat.mul_comm] at hm
    omega

namespace IsSignificand

variable {k s : Nat}

theorem units_eq (h : f.IsSignificand k s) : f.units (k * 2 ^ f.fractionBits + s) = s * 2 ^ k := by
  have hpos : 0 < 2 ^ f.fractionBits := Nat.two_pow_pos _
  have hpow : 2 ^ (f.fractionBits + 1) = 2 ^ f.fractionBits * 2 := Nat.pow_succ 2 _
  have hlt := h.lt
  by_cases hs : 2 ^ f.fractionBits ≤ s
  · -- the leading bit of the significand is what makes the exponent field one larger
    obtain ⟨r, rfl⟩ := Nat.exists_eq_add_of_le hs
    have hr : r < 2 ^ f.fractionBits := by omega
    have hm : k * 2 ^ f.fractionBits + (2 ^ f.fractionBits + r) =
        2 ^ f.fractionBits * (k + 1) + r := by
      rw [Nat.mul_succ, Nat.mul_comm]
      omega
    simp only [units, hm, Nat.mul_add_div hpos, Nat.mul_add_mod, Nat.div_eq_of_lt hr,
      Nat.mod_eq_of_lt hr, Nat.add_zero]
  · obtain rfl : k = 0 := h.eq_zero_or_le.resolve_right hs
    have hs : s < 2 ^ f.fractionBits := Nat.lt_of_not_le hs
    simp [units, Nat.div_eq_of_lt hs, Nat.mod_eq_of_lt hs]

theorem dropped_eq (h : f.IsSignificand k s) : f.dropped (s * 2 ^ k) = k := by
  have hlt := h.lt
  by_cases hs : 2 ^ f.fractionBits ≤ s
  · have hpos : 0 < s * 2 ^ k :=
      Nat.mul_pos (Nat.lt_of_lt_of_le (Nat.two_pow_pos _) hs) (Nat.two_pow_pos k)
    have hlog : (s * 2 ^ k).log2 = f.fractionBits + k := by
      rw [Nat.log2_eq_iff (Nat.ne_of_gt hpos), Nat.add_right_comm, Nat.pow_add, Nat.pow_add 2 _ k]
      exact ⟨Nat.mul_le_mul_right _ hs, Nat.mul_lt_mul_of_pos_right hlt (Nat.two_pow_pos k)⟩
    rw [dropped, hlog, Nat.add_sub_cancel_left]
  · obtain rfl : k = 0 := h.eq_zero_or_le.resolve_right hs
    have hlog : s.log2 ≤ f.fractionBits := by
      by_cases h0 : s = 0
      · rw [h0, Nat.log2_zero]
        exact Nat.zero_le _
      · exact Nat.le_of_lt_succ ((Nat.log2_lt h0).mpr hlt)
    rw [dropped, Nat.pow_zero, Nat.mul_one, Nat.sub_eq_zero_of_le hlog]

/-- The exponents of finite values. -/
theorem add_three_le (h : f.IsSignificand k s) (hbits : 1 < f.exponentBits)
    (hm : k * 2 ^ f.fractionBits + s < f.infinity) : k + 3 ≤ 2 ^ f.exponentBits := by
  rcases h.eq_zero_or_le with rfl | hs
  · have hfour : 2 ^ 2 ≤ 2 ^ f.exponentBits := Nat.pow_le_pow_right (by decide) hbits
    omega
  · have hlt : (k + 1) * 2 ^ f.fractionBits < (2 ^ f.exponentBits - 1) * 2 ^ f.fractionBits := by
      rw [Nat.succ_mul]
      exact Nat.lt_of_le_of_lt (Nat.add_le_add_left hs _) hm
    have hk := Nat.lt_of_mul_lt_mul_right hlt
    omega

end IsSignificand

/-! ### Rounding what is exact -/

/-- Nothing is rounded where a magnitude is worth exactly what is asked for. -/
theorem nearest_eq_of_exact {m num den : Nat} (hm : m ≤ f.infinity) (hden : 0 < den)
    (h : num * 2 ^ f.unitBits = f.units m * den) : f.nearest num den = m := by
  obtain ⟨k, s, rfl, hs⟩ := f.exists_isSignificand m
  rw [hs.units_eq] at h
  have hround : roundHalfEven (s * 2 ^ k * den) (den * 2 ^ k) = s := by
    rw [Nat.mul_assoc, Nat.mul_comm (2 ^ k)]
    exact roundHalfEven_mul_right (Nat.mul_pos hden (Nat.two_pow_pos k))
  simp only [nearest, h, Nat.mul_div_cancel _ hden, hs.dropped_eq, hround]
  exact Nat.min_eq_right hm

/-- A number that is not too large and has no more bits than a significand has its magnitude. -/
theorem exists_units_eq {k s : Nat} (hs : s < 2 ^ (f.fractionBits + 1))
    (hk : k + 3 ≤ 2 ^ f.exponentBits) : ∃ m < f.infinity, f.units m = s * 2 ^ k := by
  have hpow : 2 ^ (f.fractionBits + 1) = 2 ^ f.fractionBits * 2 := Nat.pow_succ 2 _
  -- the induction lowers the exponent as long as the significand is short
  induction k generalizing s with
  | zero =>
    have h : f.IsSignificand 0 s := ⟨hs, .inl rfl⟩
    refine ⟨0 * 2 ^ f.fractionBits + s, ?_, h.units_eq⟩
    have hlt : 2 * 2 ^ f.fractionBits ≤ f.infinity := Nat.mul_le_mul_right _ (by omega)
    omega
  | succ k ih =>
    by_cases hlong : 2 ^ f.fractionBits ≤ s
    · have h : f.IsSignificand (k + 1) s := ⟨hs, .inr hlong⟩
      refine ⟨(k + 1) * 2 ^ f.fractionBits + s, ?_, h.units_eq⟩
      have hle : (k + 1 + 2) * 2 ^ f.fractionBits ≤ f.infinity :=
        Nat.mul_le_mul_right _ (by omega)
      rw [Nat.add_mul] at hle
      omega
    · have hdouble : s * 2 < 2 ^ (f.fractionBits + 1) := by omega
      obtain ⟨m, hm, hunits⟩ := ih hdouble (by omega)
      refine ⟨m, hm, ?_⟩
      rw [hunits, Nat.pow_succ', Nat.mul_assoc]

/-! ### Wider formats -/

/-- Every number of `f` is a number of `g`. -/
structure Embeds (f g : Format) : Prop where
  fractionBits_le : f.fractionBits ≤ g.fractionBits
  exponentBits_le : f.exponentBits ≤ g.exponentBits
  one_lt : 1 < f.exponentBits

theorem single_embeds_double : Embeds .single .double := ⟨by decide, by decide, by decide⟩

/-- The wider format has a magnitude for every finite value of the other. -/
theorem Embeds.exists_units_eq (h : Embeds f g) {m : Nat} (hm : m < f.infinity) :
    ∃ n < g.infinity, g.units n * 2 ^ f.unitBits = f.units m * 2 ^ g.unitBits := by
  obtain ⟨k, s, rfl, hs⟩ := f.exists_isSignificand m
  have hk : k + 3 ≤ 2 ^ f.exponentBits := hs.add_three_le h.one_lt hm
  have hpos : 0 < f.exponentBits := Nat.lt_of_succ_lt h.one_lt
  have hf : 2 ^ (f.exponentBits - 1) * 2 = 2 ^ f.exponentBits := Nat.two_pow_pred_mul_two hpos
  have hg : 2 ^ (g.exponentBits - 1) * 2 = 2 ^ g.exponentBits :=
    Nat.two_pow_pred_mul_two (Nat.lt_of_lt_of_le hpos h.exponentBits_le)
  have hfg : 2 ^ (f.exponentBits - 1) ≤ 2 ^ (g.exponentBits - 1) :=
    Nat.pow_le_pow_right (by decide) (Nat.sub_le_sub_right h.exponentBits_le 1)
  have htwo : 2 ^ 1 ≤ 2 ^ (f.exponentBits - 1) :=
    Nat.pow_le_pow_right (by decide) (Nat.le_sub_of_add_le h.one_lt)
  have hfraction := h.fractionBits_le
  -- the significand is made as long as `g` has it, and the exponent counts from the unit of `g`
  have hs' : s * 2 ^ (g.fractionBits - f.fractionBits) < 2 ^ (g.fractionBits + 1) := by
    have hlen : f.fractionBits + 1 + (g.fractionBits - f.fractionBits) = g.fractionBits + 1 := by
      omega
    rw [← hlen, Nat.pow_add]
    exact Nat.mul_lt_mul_of_pos_right hs.lt (Nat.two_pow_pos _)
  obtain ⟨n, hn, hunits⟩ := g.exists_units_eq hs'
    (show k + (2 ^ (g.exponentBits - 1) - 2 ^ (f.exponentBits - 1)) + 3 ≤ _ by omega)
  refine ⟨n, hn, ?_⟩
  rw [hunits, hs.units_eq]
  simp only [Nat.mul_assoc, ← Nat.pow_add]
  congr 2
  unfold unitBits
  omega

end Format

namespace Binary

variable {f g : Format} {x : Binary f}

/-- A finite value keeps its sign, and its magnitude is rounded. -/
theorem convert_of_lt_infinity (hx : x.magnitude < f.infinity) (g : Format) :
    x.convert g =
      ofMagnitude g x.negative (g.nearest (f.units x.magnitude) (2 ^ f.unitBits)) := by
  have hnan : x.isNaN = false := decide_eq_false (Nat.lt_asymm hx)
  have hinfinite : x.isInfinite = false := decide_eq_false (Nat.ne_of_lt hx)
  rw [convert, hnan, hinfinite, if_neg Bool.false_ne_true, if_neg Bool.false_ne_true, ofRatio]

/-- Taking a number over where the other format has a magnitude that is worth as much. -/
theorem convert_eq_ofMagnitude {n : Nat} (hx : x.magnitude < f.infinity) (hn : n < g.infinity)
    (h : g.units n * 2 ^ f.unitBits = f.units x.magnitude * 2 ^ g.unitBits) :
    x.convert g = ofMagnitude g x.negative n := by
  rw [convert_of_lt_infinity hx,
    Format.nearest_eq_of_exact (Nat.le_of_lt hn) (Nat.two_pow_pos _) h.symm]

theorem convert_infinity (negative : Bool) :
    (infinity f negative).convert g = infinity g negative := by
  have hmagnitude : (infinity f negative).magnitude = f.infinity :=
    magnitude_ofMagnitude f.infinity_lt
  have hnegative : (infinity f negative).negative = negative :=
    negative_ofMagnitude f.infinity_lt
  have hnan : (infinity f negative).isNaN = false := by
    rw [isNaN, hmagnitude, decide_eq_false (Nat.lt_irrefl _)]
  have hinfinite : (infinity f negative).isInfinite = true := by
    rw [isInfinite, hmagnitude, decide_eq_true rfl]
  rw [convert, hnan, hinfinite, if_neg Bool.false_ne_true, if_pos rfl, hnegative]

/-- **Widening loses nothing.** A number that is taken over into a wider format and rounded back is
the number that it was. -/
theorem convert_convert (h : f.Embeds g) (hx : x.isNaN = false) :
    (x.convert g).convert f = x := by
  have hle : x.magnitude ≤ f.infinity := Nat.le_of_not_lt (of_decide_eq_false hx)
  rcases Nat.lt_or_eq_of_le hle with hlt | heq
  · obtain ⟨n, hn, hunits⟩ := h.exists_units_eq hlt
    have hn' : n < 2 ^ g.magnitudeBits := Nat.lt_trans hn g.infinity_lt
    rw [convert_eq_ofMagnitude hlt hn hunits]
    have hmagnitude : (ofMagnitude g x.negative n).magnitude = n := magnitude_ofMagnitude hn'
    have hnegative : (ofMagnitude g x.negative n).negative = x.negative := negative_ofMagnitude hn'
    rw [convert_eq_ofMagnitude (hmagnitude.symm ▸ hn) hlt (hmagnitude.symm ▸ hunits.symm),
      hnegative, ofMagnitude_magnitude]
  · have hinfinity : x = infinity f x.negative := by
      rw [infinity, ← heq, ofMagnitude_magnitude]
    rw [hinfinity, convert_infinity, convert_infinity]

/-- What is not a number stays none in the 64-bit format. -/
theorem isNaN_convert_double (hx : x.isNaN = true) : (x.convert .double).isNaN = true := by
  rw [convert, if_pos hx]
  decide

end Binary

end StyleChain
