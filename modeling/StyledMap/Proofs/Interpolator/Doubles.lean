import StyledMap.Proofs.Double.Powers
import StyledMap.Proofs.Interpolator.Brackets

/-! # Interpolators of doubles

Between two stops an interpolator of numbers mixes their outputs. The position it mixes at is in
`[0, 1]` or no number, and a mix at a part of the way is a number again, of the size of both outputs.
So an output is a number unless the position of the input is lost.

* `Color.isNaN_mix`, `Color.isBounded_mix` and `Color.isNaN_mix_eq_false`: the mixes of doubles.
* `Interpolator.IsModerate`: increasing stops with numbers of moderate size.
* `Interpolator.IsLost`: an input without a position between its neighbours.
* `Curve.IsOutput` and `exists_isOutput`: what the curve of the stops gives at an input.
-/

set_option autoImplicit false

namespace StyledMap

open Double DoublePowers

/-! ## Mixes -/

theorem isBounded_million {y : Float} (hlow : -1000000 ≤ y) (hhigh : y ≤ 1000000) :
    IsBounded y (10 ^ 6) := by
  have hmillion : (Exact.ofDouble 1000000 : ℚ) = 10 ^ 6 := by
    rw [Exact.ofDouble_of_fraction rfl rfl (show _ = (1000000 * 2 ^ 33, 2 ^ 33) by decide)]
    norm_num
  have hneg : (Exact.ofDouble (-1000000) : ℚ) = -Exact.ofDouble 1000000 :=
    ofDouble_eq_neg (by decide) (by decide) (by decide)
  have hy := isFinite_of_le_of_le (by decide) (by decide) hlow hhigh
  have hlow := ofDouble_le_ofDouble (by decide) hy hlow
  have hhigh := ofDouble_le_ofDouble hy (by decide) hhigh
  rw [hneg, hmillion] at hlow
  rw [hmillion] at hhigh
  exact ⟨hy, abs_le.2 ⟨hlow, hhigh⟩⟩

variable [Powers Float]

namespace Color

variable {x t y : Float}

theorem isNaN_mix (h : x.isNaN = true ∨ t.isNaN = true ∨ y.isNaN = true) :
    (mix x t y).isNaN = true := by
  change (x + t * (y - x)).isNaN = true
  obtain hx | ht | hy := h
  · exact isNaN_add_of (.inl hx)
  · exact isNaN_add_of (.inr (isNaN_mul_of (.inl ht)))
  · exact isNaN_add_of (.inr (isNaN_mul_of (.inr (isNaN_sub_of (.inl hy)))))

theorem isBounded_mix (ht : IsPart t) (hx : IsBounded x (10 ^ 6)) (hy : IsBounded y (10 ^ 6)) :
    IsBounded (mix x t y) (3 * 10 ^ 6) := by
  have htwo : (Exact.ofDouble 2000000 : ℚ) = 2 * 10 ^ 6 := by
    rw [Exact.ofDouble_of_fraction rfl rfl (show _ = (2000000 * 2 ^ 32, 2 ^ 32) by decide)]
    norm_num
  have hthree : (Exact.ofDouble 3000000 : ℚ) = 3 * 10 ^ 6 := by
    rw [Exact.ofDouble_of_fraction rfl rfl (show _ = (3000000 * 2 ^ 31, 2 ^ 31) by decide)]
    norm_num
  have hway : IsBounded (y - x) (Exact.ofDouble 2000000) :=
    isBounded_sub hy hx (by decide) (by rw [htwo]; norm_num)
  have hpart := isBounded_mul ht hway (by decide)
  have hsum : IsBounded (x + t * (y - x)) (Exact.ofDouble 3000000) :=
    isBounded_add hx hpart (by decide) (by rw [htwo, hthree]; norm_num)
  rw [hthree] at hsum
  exact hsum

/-- Two finite doubles mix to a number, if their difference is finite. -/
theorem isNaN_mix_eq_false (ht : IsPart t) (hx : x.isFinite = true) (hy : y.isFinite = true)
    (h : x = y ∨ IsBounded x (2 ^ 960) ∨ IsBounded y (2 ^ 960)) : (mix x t y).isNaN = false := by
  have hway : (y - x).isFinite = true := by
    have hnearest := isNearest_sub hy hx
    obtain rfl | hbounded | hbounded := h
    · refine hnearest.isFinite hx ?_
      rw [sub_self, abs_zero]
      exact abs_nonneg _
    · exact isFinite_of_isNearest_sub hy hbounded hnearest (abs_sub _ _)
    · refine isFinite_of_isNearest_sub hx hbounded hnearest ?_
      rw [abs_sub_comm]
      exact abs_sub _ _
  exact (isNearest_add hx (isFinite_part_mul ht hway)).isNaN

end Color

/-! ## Stops -/

namespace Interpolator

/-- Increasing finite positions, and numbers of at most a million. -/
structure IsModerate (stops : List (Float × Json)) : Prop where
  increasing : Increasing stops
  isFinite : ∀ stop ∈ stops, stop.1.isFinite = true
  output : ∀ stop ∈ stops, ∃ y, stop.2.asFloat? = some y ∧ -1000000 ≤ y ∧ y ≤ 1000000

instance (stops : List (Float × Json)) : Decidable (IsModerate stops) :=
  have : Decidable (Increasing stops) :=
    inferInstanceAs (Decidable (stops.Pairwise fun s t => s.1 < t.1))
  decidable_of_iff (Increasing stops ∧ (∀ stop ∈ stops, stop.1.isFinite = true) ∧
      ∀ stop ∈ stops, ∃ y ∈ stop.2.asFloat?, -1000000 ≤ y ∧ y ≤ 1000000)
    ⟨fun h => ⟨h.1, h.2.1, h.2.2⟩, fun h => ⟨h.increasing, h.isFinite, h.output⟩⟩

/-- An input lies between two neighbours, and its position between them is lost. -/
def IsLost (scale : Scale Float) (positions : List Float) (x : Float) : Prop :=
  ∃ (k : ℕ) (a b : Float), positions[k]? = some a ∧ positions[k + 1]? = some b ∧ a ≤ x ∧ x < b ∧
    scale.Loses a x b

variable {stops : List (Float × Json)}

theorem IsModerate.exists_number (h : IsModerate stops) {stop : Float × Json} (hs : stop ∈ stops) :
    ∃ n : Number, stop.2 = .number n ∧ IsBounded n.toFloat (10 ^ 6) := by
  obtain ⟨y, hy, hlow, hhigh⟩ := h.output stop hs
  cases hj : stop.2 with
  | number n =>
    rw [hj] at hy
    obtain rfl := Option.some.inj hy
    exact ⟨n, rfl, isBounded_million hlow hhigh⟩
  | _ => simp [hj, Json.asFloat?] at hy

theorem IsModerate.kind (h : IsModerate stops) :
    ∀ stop ∈ stops, StopKind.ofJson Float stop.2 = .number := by
  intro stop hs
  obtain ⟨n, hn, -⟩ := h.exists_number hs
  rw [hn]
  rfl

theorem IsModerate.exists_output (h : IsModerate stops) {k : ℕ} {stop : Float × Json}
    (hk : stops[k]? = some stop) :
    ∃ y, Value.ofJson true stop.2 = .number y ∧ IsBounded y (10 ^ 6) := by
  obtain ⟨n, hn, hbounded⟩ := h.exists_number (List.mem_of_getElem? hk)
  rw [hn]
  exact ⟨n.toFloat, rfl, hbounded⟩

end Interpolator

/-! ## Lost positions -/

namespace Interpolator

variable {scale : Scale Float} {positions : List Float} {x : Float}

theorem not_isLost_of_length_le (h : positions.length ≤ 1) : ¬ IsLost scale positions x := by
  rintro ⟨k, a, b, -, hb, -⟩
  obtain ⟨hk, -⟩ := List.getElem?_eq_some_iff.1 hb
  omega

theorem locate?_of_isLost (hinc : positions.Pairwise (· < ·)) (h : IsLost scale positions x) :
    ∃ (k : ℕ) (a b : Float), locate? x positions = some (.between k (k + 1)) ∧
      positions[k]? = some a ∧ positions[k + 1]? = some b ∧ a ≤ x ∧ x < b ∧ scale.Loses a x b := by
  obtain ⟨k, a, b, ha, hb, hax, hxb, hloses⟩ := h
  refine ⟨k, a, b, ?_, ha, hb, hax, hxb, hloses⟩
  have hnext (next : Float) (hn : positions[k + 1]? = some next) : x < next := by
    obtain rfl := Option.some.inj (hb.symm.trans hn)
    exact hxb
  rw [locate?_of_not_lt hinc ha (Double.not_lt_of_le hax)
    (fun q hq => not_lt_of_lt_of_le hq hax) hnext, placeOf,
    if_pos (List.getElem?_eq_some_iff.1 hb).1]

theorem not_isLost_of_at (hinc : positions.Pairwise (· < ·)) {k : ℕ}
    (hp : locate? x positions = some (.at k)) : ¬ IsLost scale positions x := by
  intro h
  obtain ⟨m, a, b, hm, -⟩ := locate?_of_isLost hinc h
  rw [hp] at hm
  exact Place.noConfusion (Option.some.inj hm)

/-- Between two neighbours an input has a position that is part of the way, unless it is lost. -/
theorem position_between [Lawful] {base : Float} (hbase : base.isFinite = true) (hpos : 0 < base)
    (hinc : positions.Pairwise (· < ·)) (hfinite : ∀ p ∈ positions, p.isFinite = true)
    (hx : x.isNaN = false) {k : ℕ} {a b : Float}
    (hp : locate? x positions = some (.between k (k + 1))) (ha : positions[k]? = some a)
    (hb : positions[k + 1]? = some b) :
    (IsLost (Scale.ofBase base) positions x →
        ((Scale.ofBase base).position a x b).isNaN = true) ∧
      (¬ IsLost (Scale.ofBase base) positions x →
        IsPart ((Scale.ofBase base).position a x b)) := by
  obtain ⟨-, a', b', ha', hb', hnot, hxb⟩ := locate?_between hp
  obtain rfl := Option.some.inj (ha.symm.trans ha')
  obtain rfl := Option.some.inj (hb.symm.trans hb')
  have hfa := hfinite a (List.mem_of_getElem? ha)
  have hax : a ≤ x := by
    by_contra h
    exact hnot ((not_le_iff (isNaN_of_isFinite hfa) hx).1 h)
  constructor
  · intro h
    obtain ⟨m, c, d, hm, hc, hd, -, -, hloses⟩ := locate?_of_isLost hinc h
    obtain ⟨rfl, -⟩ := Place.between.inj (Option.some.inj (hp.symm.trans hm))
    obtain rfl := Option.some.inj (ha.symm.trans hc)
    obtain rfl := Option.some.inj (hb.symm.trans hd)
    exact Scale.isNaN_position hbase hpos hfa hax hxb hloses
  · intro h
    exact Scale.isPart_position hbase hpos hfa hax hxb
      fun hloses => h ⟨k, a, b, ha, hb, hax, hxb, hloses⟩

end Interpolator

/-! ## Outputs -/

namespace Curve

open Interpolator

/-- What stops give at an input: the default if there are none, no number if the position of the
input is lost, and otherwise a number of moderate size. -/
inductive IsOutput (scale : Scale Float) (stops : List (Float × Json)) (default : Value Float)
    (x : Float) : Value Float → Prop
  | default (h : stops = []) : IsOutput scale stops default x default
  | lost (y : Float) (h : IsLost scale (stops.map Prod.fst) x) (hy : y.isNaN = true) :
      IsOutput scale stops default x (.number y)
  | kept (y : Float) (h : ¬ IsLost scale (stops.map Prod.fst) x)
      (hy : IsBounded y (3 * 10 ^ 6)) : IsOutput scale stops default x (.number y)

variable [Lawful] {stops : List (Float × Json)} {base x : Float} (hm : IsModerate stops)
  (hbase : base.isFinite = true) (hpos : 0 < base) (hx : x.isFinite = true)

include hm hbase hpos hx

theorem exists_isOutput_of_ofStops? (hlen : 2 ≤ stops.length) (default : Value Float)
    {i : Interpolator Float} (hi : ofStops? stops base = some i) :
    ∃ v, i.evaluate? x = some v ∧ IsOutput (Scale.ofBase base) stops default x v := by
  obtain ⟨v, hv, hplaced⟩ := exists_placed hlen (.inl rfl) hm.kind hi x
  refine ⟨v, hv, ?_⟩
  have hinc : (stops.map Prod.fst).Pairwise (· < ·) := List.pairwise_map.2 hm.increasing
  cases hplaced with
  | «at» k stop hp hs hv =>
    obtain ⟨y, hy, hbounded⟩ := hm.exists_output hs
    rw [hv, hy]
    exact .kept y (not_isLost_of_at hinc hp) (hbounded.mono (by norm_num))
  | between k low high hp hl hh hv =>
    obtain ⟨y, hy, hlow⟩ := hm.exists_output hl
    obtain ⟨z, hz, hhigh⟩ := hm.exists_output hh
    have hfinite : ∀ p ∈ stops.map Prod.fst, p.isFinite = true := by
      intro p hp
      obtain ⟨stop, hs, rfl⟩ := List.mem_map.1 hp
      exact hm.isFinite stop hs
    obtain ⟨hnan, hpart⟩ := position_between hbase hpos hinc hfinite (isNaN_of_isFinite hx) hp
      (getElem?_positions hl) (getElem?_positions hh)
    rw [hv, hy, hz]
    by_cases hlost : IsLost (Scale.ofBase base) (stops.map Prod.fst) x
    · exact .lost _ hlost (Color.isNaN_mix (.inr (.inl (hnan hlost))))
    · exact .kept _ hlost (Color.isBounded_mix (hpart hlost) hlow hhigh)

/-- The curve of moderate stops has an output at every finite input. -/
theorem exists_isOutput (colors : Bool) (default : Value Float) :
    ∃ v, (ofNumericStops colors base .exponential stops).atZoom? x default = some v ∧
      IsOutput (Scale.ofBase base) stops default x v := by
  match stops with
  | [] => exact ⟨default, rfl, .default rfl⟩
  | [stop] =>
    obtain ⟨n, hn, hbounded⟩ := hm.exists_number List.mem_cons_self
    refine ⟨.number n.toFloat, ?_, .kept _ (not_isLost_of_length_le le_rfl) ?_⟩
    · rw [ofNumericStops, hn]
      rfl
    · exact hbounded.mono (by norm_num)
  | first :: second :: rest =>
    have hlen : 2 ≤ (first :: second :: rest).length := by simp
    have hi : ofStops? (first :: second :: rest) base = some _ := ofStops?_eq_some hlen hm.kind
    obtain ⟨v, hv, hout⟩ := exists_isOutput_of_ofStops? hm hbase hpos hx hlen default hi
    refine ⟨v, ?_, hout⟩
    rw [ofNumericStops, interpolatorOf?, hi]
    · exact hv
    · simp
    · simp

end Curve

end StyledMap
