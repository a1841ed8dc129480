import StyledMap.Proofs.Interpolator.Brackets

/-! # Interpolators that rise or fall

In exact arithmetic an interpolator of numbers at increasing positions rises with its input when the
numbers do not fall from one stop to the next, and falls with it when they do not rise. Two inputs
between the same stops compare as their positions do. Any other two have a stop in between, and the
outputs of the stops compare with both.

* `BracketedNumber`: a bracketed output that is a number.
* `le_of_lt_position` and `le_of_position_le`: how an output compares with those of the stops.
* `bracketedNumber_mono`: how two outputs compare.
* `BracketedNumber.neg`: outputs with the other sign, by which what falls is led back to what rises.
* `exists_monotone`: both statements for the stops that are declared.
-/

set_option autoImplicit false

namespace StyledMap.Interpolator

/-! ## Lists in order -/

section

variable {K : Type}

/-- Stops with numbers as JSON has them. -/
def numberStops (stops : List (K × Number)) : List (K × Json) :=
  stops.map fun stop => (stop.1, .number stop.2)

theorem length_numberStops (stops : List (K × Number)) :
    (numberStops stops).length = stops.length :=
  List.length_map _

variable [LinearOrder K] {positions values : List K}

theorem index_lt (hp : positions.Pairwise (· < ·)) {m k : ℕ} {p q : K}
    (hm : positions[m]? = some p) (hk : positions[k]? = some q) (h : p < q) : m < k := by
  obtain ⟨hlm, rfl⟩ := List.getElem?_eq_some_iff.1 hm
  obtain ⟨hlk, rfl⟩ := List.getElem?_eq_some_iff.1 hk
  by_contra hle
  rcases Nat.lt_or_eq_of_le (Nat.le_of_not_lt hle) with hlt | rfl
  · exact lt_asymm h (List.pairwise_iff_getElem.1 hp k m hlk hlm hlt)
  · exact lt_irrefl _ h

theorem value_le_value (hv : values.Pairwise (· ≤ ·)) {m k : ℕ} {u w : K}
    (hm : values[m]? = some u) (hk : values[k]? = some w) (h : m ≤ k) : u ≤ w := by
  obtain ⟨hlm, rfl⟩ := List.getElem?_eq_some_iff.1 hm
  obtain ⟨hlk, rfl⟩ := List.getElem?_eq_some_iff.1 hk
  rcases Nat.lt_or_eq_of_le h with hlt | rfl
  · exact List.pairwise_iff_getElem.1 hv m k hlm hlk hlt
  · exact le_rfl

end

open Exact

variable {K : Type} [Field K] [LinearOrder K] [FloorRing K] [Powers K]

/-! ## Numbers -/

/-- The number at an input is that of an end, or the blend of those of two neighbours that bracket
the input. -/
inductive BracketedNumber (scale : Scale K) (positions values : List K) (x y : K) : Prop
  | first (p : K) (hp : positions[0]? = some p) (hx : x < p) (hv : values[0]? = some y)
  | last (hx : ∀ p ∈ positions, p ≤ x) (hv : values[values.length - 1]? = some y)
  | between (k : ℕ) (a b low high : K) (ha : positions[k]? = some a)
      (hb : positions[k + 1]? = some b) (hl : values[k]? = some low)
      (hh : values[k + 1]? = some high) (hax : a ≤ x) (hxb : x < b)
      (ht : scale.position a x b ∈ Set.Icc (0 : K) 1)
      (hv : y = Color.mix low (scale.position a x b) high)

variable {scale : Scale K} {positions values : List K} {x x' y y' : K}

theorem Bracketed.exists_number {v : Value K}
    (h : Bracketed scale positions (values.map Value.number) x v) :
    ∃ y, v = .number y ∧ BracketedNumber scale positions values x y := by
  have hread {k : ℕ} {w : Value K} (hw : (values.map Value.number)[k]? = some w) :
      ∃ u, values[k]? = some u ∧ .number u = w := by
    rw [List.getElem?_map] at hw
    exact Option.map_eq_some_iff.1 hw
  cases h with
  | first p hp hx hv =>
    obtain ⟨y, hy, rfl⟩ := hread hv
    exact ⟨y, rfl, .first p hp hx hy⟩
  | last hx hv =>
    rw [List.getLast?_eq_getElem?, List.length_map] at hv
    obtain ⟨y, hy, rfl⟩ := hread hv
    exact ⟨y, rfl, .last hx hy⟩
  | between k a b low high ha hb hl hh hax hxb hm hv hbetween =>
    obtain ⟨l, hlow, rfl⟩ := hread hl
    obtain ⟨u, hhigh, rfl⟩ := hread hh
    exact ⟨_, hv, .between k a b l u ha hb hlow hhigh hax hxb
      (Set.Ico_subset_Icc_self hm.position_mem) rfl⟩

theorem mix_neg (low t high : K) : Color.mix (-low) t (-high) = -Color.mix low t high := by
  have h : -low + t * (-high - -low) = -(low + t * (high - low)) := by ring
  exact h

theorem BracketedNumber.neg (h : BracketedNumber scale positions values x y) :
    BracketedNumber scale positions (values.map (- ·)) x (-y) := by
  have hread {k : ℕ} {u : K} (hu : values[k]? = some u) :
      (values.map (- ·))[k]? = some (-u) := by
    rw [List.getElem?_map, hu, Option.map_some]
  cases h with
  | first p hp hx hv => exact .first p hp hx (hread hv)
  | last hx hv =>
    refine .last hx ?_
    rw [List.length_map]
    exact hread hv
  | between k a b low high ha hb hl hh hax hxb ht hv =>
    refine .between k a b (-low) (-high) ha hb (hread hl) (hread hh) hax hxb ht ?_
    rw [mix_neg, hv]

/-! ## Numbers that do not fall -/

section

variable [IsStrictOrderedRing K]

theorem mix_mono {low high t t' : K} (h : low ≤ high) (ht : t ≤ t') :
    Color.mix low t high ≤ Color.mix low t' high := by
  have hmix : low + t * (high - low) ≤ low + t' * (high - low) :=
    add_le_add_right (mul_le_mul_of_nonneg_right ht (sub_nonneg.2 h)) low
  exact hmix

theorem mix_mem_Icc {low high t : K} (h : low ≤ high) (ht : t ∈ Set.Icc (0 : K) 1) :
    Color.mix low t high ∈ Set.Icc low high :=
  Color.add_mul_sub_mem ⟨le_rfl, h⟩ ⟨h, le_rfl⟩ ht

section

variable (hp : positions.Pairwise (· < ·)) (hv : values.Pairwise (· ≤ ·))

include hp hv

/-- Below a stop the output is at most that of the stop. -/
theorem le_of_lt_position (h : BracketedNumber scale positions values x y) {m : ℕ} {p w : K}
    (hm : positions[m]? = some p) (hw : values[m]? = some w) (hx : x < p) : y ≤ w := by
  cases h with
  | first q hq hxq hy => exact value_le_value hv hy hw (Nat.zero_le m)
  | last hlast hy => exact absurd hx (not_lt.2 (hlast p (List.mem_of_getElem? hm)))
  | between k a b low high ha hb hl hh hax hxb ht hy =>
    have hkm : k < m := index_lt hp ha hm (hax.trans_lt hx)
    rw [hy]
    exact (mix_mem_Icc (value_le_value hv hl hh (Nat.le_succ k)) ht).2.trans
      (value_le_value hv hh hw hkm)

/-- From a stop on the output is at least that of the stop. -/
theorem le_of_position_le (h : BracketedNumber scale positions values x y) {m : ℕ} {p w : K}
    (hm : positions[m]? = some p) (hw : values[m]? = some w) (hx : p ≤ x) : w ≤ y := by
  cases h with
  | first q hq hxq hy =>
    have hlt : m < 0 := index_lt hp hm hq (hx.trans_lt hxq)
    exact absurd hlt (Nat.not_lt_zero m)
  | last hlast hy =>
    obtain ⟨hlen, -⟩ := List.getElem?_eq_some_iff.1 hw
    exact value_le_value hv hw hy (Nat.le_sub_one_of_lt hlen)
  | between k a b low high ha hb hl hh hax hxb ht hy =>
    have hmk : m < k + 1 := index_lt hp hm hb (hx.trans_lt hxb)
    rw [hy]
    exact (value_le_value hv hw hl (Nat.le_of_lt_succ hmk)).trans
      (mix_mem_Icc (value_le_value hv hl hh (Nat.le_succ k)) ht).1

end

/-- The outputs at two inputs are in the order of the inputs. -/
theorem bracketedNumber_mono (hp : positions.Pairwise (· < ·)) (hv : values.Pairwise (· ≤ ·))
    (hlen : values.length = positions.length)
    (hscale : ∀ a x x' b, a < b → x ≤ x' → scale.position a x b ≤ scale.position a x' b)
    (hx : BracketedNumber scale positions values x y)
    (hx' : BracketedNumber scale positions values x' y') (hle : x ≤ x') : y ≤ y' := by
  have hvalue {m : ℕ} {p : K} (hm : positions[m]? = some p) : ∃ w, values[m]? = some w := by
    obtain ⟨hlt, -⟩ := List.getElem?_eq_some_iff.1 hm
    exact ⟨_, List.getElem?_eq_getElem (hlen ▸ hlt)⟩
  -- A stop above the first input and not above the second comes between the outputs.
  have hstop {m : ℕ} {p : K} (hm : positions[m]? = some p) (hxp : x < p) (hpx : p ≤ x') :
      y ≤ y' := by
    obtain ⟨w, hw⟩ := hvalue hm
    exact (le_of_lt_position hp hv hx hm hw hxp).trans (le_of_position_le hp hv hx' hm hw hpx)
  cases hx with
  | first p hfirst hxp hy =>
    rcases lt_or_ge x' p with hlt | hge
    · cases hx' with
      | first q hq hx'q hy' => exact (Option.some.inj (hy.symm.trans hy')).le
      | last hlast hy' => exact absurd hlt (not_lt.2 (hlast p (List.mem_of_getElem? hfirst)))
      | between k a b low high ha hb hl hh hax hxb ht hy' =>
        exact absurd (index_lt hp ha hfirst (hax.trans_lt hlt)) (Nat.not_lt_zero k)
    · exact hstop hfirst hxp hge
  | last hlast hy =>
    cases hx' with
    | first q hq hx'q hy' =>
      have hqx := hlast q (List.mem_of_getElem? hq)
      exact absurd (hqx.trans hle) (not_le.2 hx'q)
    | last hlast' hy' => exact (Option.some.inj (hy.symm.trans hy')).le
    | between k a b low high ha hb hl hh hax hxb ht hy' =>
      have hbx := hlast b (List.mem_of_getElem? hb)
      exact absurd (hbx.trans hle) (not_le.2 hxb)
  | between k a b low high ha hb hl hh hax hxb ht hy =>
    rcases lt_or_ge x' b with hlt | hge
    · cases hx' with
      | first q hq hx'q hy' =>
        exact absurd (index_lt hp ha hq ((hax.trans hle).trans_lt hx'q)) (Nat.not_lt_zero k)
      | last hlast' hy' => exact absurd hlt (not_lt.2 (hlast' b (List.mem_of_getElem? hb)))
      | between k' a' b' low' high' ha' hb' hl' hh' hax' hxb' ht' hy' =>
        have hkk : k < k' + 1 := index_lt hp ha hb' ((hax.trans hle).trans_lt hxb')
        have hkk' : k' < k + 1 := index_lt hp ha' hb (hax'.trans_lt hlt)
        obtain rfl : k = k' := by omega
        obtain rfl := Option.some.inj (ha.symm.trans ha')
        obtain rfl := Option.some.inj (hb.symm.trans hb')
        obtain rfl := Option.some.inj (hl.symm.trans hl')
        obtain rfl := Option.some.inj (hh.symm.trans hh')
        rw [hy, hy']
        exact mix_mono (value_le_value hv hl hh (Nat.le_succ k))
          (hscale a x x' b (hax.trans_lt hxb) hle)
    · exact hstop hb hxb hge

end

/-! ## Declared numbers -/

def outputOf (stop : K × Number) : K :=
  Arith.ofDouble stop.2.toFloat

theorem ofJson_of_mem_numberStops (stops : List (K × Number)) :
    ∀ stop ∈ numberStops stops, StopKind.ofJson K stop.2 = .number := by
  intro stop hs
  obtain ⟨s, -, rfl⟩ := List.mem_map.1 hs
  rfl

theorem outputsOf_numberStops (stops : List (K × Number)) :
    outputsOf (numberStops stops) = (stops.map outputOf).map Value.number := by
  simp [outputsOf, numberStops, outputOf, Value.ofJson]

variable [IsStrictOrderedRing K] [LawfulPowers K] {stops : List (K × Number)} {base : K}

theorem exists_bracketedNumber (hbase : 0 < base) (hlen : 2 ≤ stops.length) {i : Interpolator K}
    (hi : ofStops? (numberStops stops) base = some i) (x : K) :
    ∃ y, i.evaluate? x = some (.number y) ∧
      BracketedNumber (Scale.ofBase base) (stops.map Prod.fst) (stops.map outputOf) x y := by
  rw [← length_numberStops] at hlen
  have hpositions : (numberStops stops).map Prod.fst = stops.map Prod.fst := by
    rw [numberStops, List.map_map]
    rfl
  obtain ⟨v, hv, hbracketed⟩ := exists_bracketed hbase hlen (.inl rfl) (ofJson_of_mem_numberStops stops) hi x
  rw [hpositions, outputsOf_numberStops] at hbracketed
  obtain ⟨y, rfl, hy⟩ := hbracketed.exists_number
  exact ⟨y, hv, hy⟩

/-- Stops with numbers at increasing positions make a function of all inputs. It is monotone if the
numbers never fall from stop to stop, and antitone if they never rise. -/
theorem exists_monotone (hbase : 0 < base) (hlen : 2 ≤ stops.length) (hinc : Increasing stops) :
    ∃ i g, ofStops? (numberStops stops) base = some i ∧
      (∀ x, i.evaluate? x = some (.number (g x))) ∧
      (stops.Pairwise (fun s t => outputOf s ≤ outputOf t) → Monotone g) ∧
      (stops.Pairwise (fun s t => outputOf t ≤ outputOf s) → Antitone g) := by
  obtain ⟨i, hi⟩ : ∃ i, ofStops? (numberStops stops) base = some i :=
    ⟨_, ofStops?_eq_some (length_numberStops stops ▸ hlen) (ofJson_of_mem_numberStops stops)⟩
  choose g hg hbracketed using exists_bracketedNumber hbase hlen hi
  have hp : (stops.map Prod.fst).Pairwise (· < ·) := List.pairwise_map.2 hinc
  have hscale (a x x' b : K) (hab : a < b) (hle : x ≤ x') :
      (Scale.ofBase base).position a x b ≤ (Scale.ofBase base).position a x' b :=
    Scale.position_mono hbase hab hle
  refine ⟨i, g, hi, hg, fun hrise x x' hle => ?_, fun hfall x x' hle => ?_⟩
  · exact bracketedNumber_mono hp (List.pairwise_map.2 hrise) (by simp) hscale (hbracketed x)
      (hbracketed x') hle
  · have hneg : ((stops.map outputOf).map (- ·)).Pairwise (· ≤ ·) := by
      rw [List.pairwise_map, List.pairwise_map]
      exact hfall.imp fun h => neg_le_neg h
    exact neg_le_neg_iff.1 (bracketedNumber_mono hp hneg (by simp) hscale (hbracketed x).neg
      (hbracketed x').neg hle)

/-! ### Rising stops -/

noncomputable def risingStops : List (ℝ × Number) :=
  [((5 : ℕ), .natural 1), ((10 : ℕ), .natural 2), ((18 : ℕ), .natural 8)]

theorem map_outputOf_risingStops : risingStops.map outputOf = [1, 2, 8] := by
  have hone : outputOf (((5 : ℕ) : ℝ), .natural 1) = 1 := by
    rw [outputOf]
    exact (ofDouble_of_fraction rfl rfl (show _ = (2 ^ 52, 2 ^ 52) by decide)).trans (by norm_num)
  have htwo : outputOf (((10 : ℕ) : ℝ), .natural 2) = 2 := by
    rw [outputOf]
    exact (ofDouble_of_fraction rfl rfl (show _ = (2 ^ 52, 2 ^ 51) by decide)).trans (by norm_num)
  have height : outputOf (((18 : ℕ) : ℝ), .natural 8) = 8 := by
    rw [outputOf]
    exact (ofDouble_of_fraction rfl rfl (show _ = (2 ^ 52, 2 ^ 49) by decide)).trans (by norm_num)
  simp only [risingStops, List.map_cons, List.map_nil, hone, htwo, height]

theorem exists_monotone_rising :
    (0 : ℝ) < 1.5 ∧ 2 ≤ risingStops.length ∧ Increasing risingStops ∧
      risingStops.Pairwise (fun s t => outputOf s ≤ outputOf t) ∧
      ∃ i g, ofStops? (numberStops risingStops) (1.5 : ℝ) = some i ∧
        (∀ x, i.evaluate? x = some (.number (g x))) ∧ Monotone g := by
  have hbase : (0 : ℝ) < 1.5 := by norm_num
  have hlen : 2 ≤ risingStops.length := by simp [risingStops]
  have hinc : Increasing risingStops := by
    rw [Increasing, ← List.pairwise_map (f := Prod.fst) (R := (· < ·))]
    norm_num [risingStops]
  have hrise : risingStops.Pairwise (fun s t => outputOf s ≤ outputOf t) := by
    rw [← List.pairwise_map (f := outputOf) (R := (· ≤ ·)), map_outputOf_risingStops]
    norm_num
  obtain ⟨i, g, hi, hg, hmono, -⟩ := exists_monotone hbase hlen hinc
  exact ⟨hbase, hlen, hinc, hrise, i, g, hi, hg, hmono hrise⟩

end StyledMap.Interpolator
