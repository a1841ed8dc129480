import StyledMap.Proofs.Color.Channels
import StyledMap.Proofs.Evaluator.ZoomStops
import StyledMap.Proofs.Scale

/-! # Interpolators between their stops

The first position above an input is found by a search that asks for no order. Still the position
before it is not above the input, so that the two bracket it, whatever the order of the positions and
however often one is repeated. In exact arithmetic the position between the two is then in `[0, 1)`
and the output lies between theirs.

* `Value.channel?` and `Value.IsBetween`: what lying between means for numbers and for colors.
* `ofStops?_eq_some`: what stops of one type are read as.
* `Interpolator.Placed`: where the output at an input comes from, in any arithmetic.
* `Interpolator.Bracketed`: the same in exact arithmetic, where the output lies between two others.
* `evaluate?_bracketed`: numbers and colors are bracketed at every input.
-/

set_option autoImplicit false

namespace StyledMap

/-! ## Lying between two values -/

/-- A number, or a channel of a color. -/
inductive Channel
  | number
  | red
  | green
  | blue
  | alpha

namespace Value

section

variable {K : Type} [LinearOrder K]

def channel? (v : Value K) (channel : Channel) : Option K :=
  match channel, v with
  | .number, number x => some x
  | .red, color c => some c.red
  | .green, color c => some c.green
  | .blue, color c => some c.blue
  | .alpha, color c => some c.alpha
  | _, _ => none

/-- A value has the channels of two others, and each of its channels lies between theirs. -/
def IsBetween (v low high : Value K) : Prop :=
  ∀ channel, match low.channel? channel, v.channel? channel, high.channel? channel with
    | some x, some y, some z => y ∈ Set.uIcc x z
    | none, none, none => True
    | _, _, _ => False

theorem IsBetween.mem {v low high : Value K} (h : v.IsBetween low high) {channel : Channel}
    {lo hi y : K} (hlow : ∀ x ∈ low.channel? channel, x ∈ Set.Icc lo hi)
    (hhigh : ∀ z ∈ high.channel? channel, z ∈ Set.Icc lo hi) (hy : v.channel? channel = some y) :
    y ∈ Set.Icc lo hi := by
  have hbetween := h channel
  rw [hy] at hbetween
  cases hx : low.channel? channel with
  | none => simp [hx] at hbetween
  | some x =>
    cases hz : high.channel? channel with
    | none => simp [hx, hz] at hbetween
    | some z =>
      rw [hx, hz] at hbetween
      exact Set.uIcc_subset_Icc (hlow x hx) (hhigh z hz) hbetween

end

open Exact

variable {K : Type} [Field K] [LinearOrder K] [FloorRing K] [IsStrictOrderedRing K] [Powers K]

theorem mix_mem_uIcc (x y : K) {t : K} (ht : t ∈ Set.Icc (0 : K) 1) :
    Color.mix x t y ∈ Set.uIcc x y :=
  Color.add_mul_sub_mem Set.left_mem_uIcc Set.right_mem_uIcc ht

theorem isBetween_blend_number (x y : K) {t : K} (ht : t ∈ Set.Icc (0 : K) 1) :
    ((number x).blend t (number y)).IsBetween (number x) (number y) := by
  intro channel
  cases channel with
  | number => exact mix_mem_uIcc x y ht
  | red | green | blue | alpha => trivial

theorem isBetween_blend_color (c d : Color K) {t : K} (ht : t ∈ Set.Icc (0 : K) 1) :
    ((color c).blend t (color d)).IsBetween (color c) (color d) := by
  intro channel
  cases channel with
  | number => trivial
  | red => exact mix_mem_uIcc c.red d.red ht
  | green => exact mix_mem_uIcc c.green d.green ht
  | blue => exact mix_mem_uIcc c.blue d.blue ht
  | alpha => exact mix_mem_uIcc c.alpha d.alpha ht

end Value

/-! ## Outputs of one type -/

/-- Numbers and colors are the outputs that blend. -/
def StopKind.Blends (kind : StopKind) : Prop :=
  kind = .number ∨ kind = .color

theorem Value.exists_number_of_kind {α : Type} [Arith α] {j : Json}
    (h : StopKind.ofJson α j = .number) : ∃ n : Number, j = .number n := by
  have hfloat := Outputs.isSome_asFloat? h
  cases j with
  | number n => exact ⟨n, rfl⟩
  | _ => simp [Json.asFloat?] at hfloat

namespace Outputs

variable {α : Type} [Arith α] {kind : StopKind} {stops : List (α × Json)}

theorem get?_ofStops_of_blends (hkind : kind.Blends)
    (h : ∀ stop ∈ stops, StopKind.ofJson α stop.2 = kind) {k : Nat} {stop : α × Json}
    (hk : stops[k]? = some stop) :
    (ofStops kind stops).get? k = some (Value.ofJson true stop.2) := by
  rw [get?_ofStops h hk]
  obtain rfl | rfl := hkind
  · have hstop := h stop (List.mem_of_getElem? hk)
    rw [Value.ofJson_of_kind (by simp [hstop]) true]
    rfl
  · rfl

theorem blend?_of_get? {outputs : Outputs α} (hvalues : ∀ vs, outputs ≠ values vs)
    {lower upper : Nat} {below above : Value α} (hl : outputs.get? lower = some below)
    (hu : outputs.get? upper = some above) (t : α) :
    outputs.blend? lower t upper = some (below.blend t above) := by
  cases outputs with
  | numbers xs =>
    obtain ⟨x, hx, rfl⟩ := Option.map_eq_some_iff.1 hl
    obtain ⟨y, hy, rfl⟩ := Option.map_eq_some_iff.1 hu
    rw [blend?, hx, hy]
    rfl
  | colors cs =>
    obtain ⟨c, hc, rfl⟩ := Option.map_eq_some_iff.1 hl
    obtain ⟨d, hd, rfl⟩ := Option.map_eq_some_iff.1 hu
    rw [blend?, hc, hd]
    rfl
  | values vs => exact absurd rfl (hvalues vs)

theorem ofStops_ne_values (hkind : kind.Blends) (vs : List (Value α)) :
    ofStops kind stops ≠ values vs := by
  obtain rfl | rfl := hkind <;> simp [ofStops]

end Outputs

/-! ## Interpolators -/

namespace Interpolator

theorem getElem?_positions {β γ : Type} {stops : List (β × γ)} {k : Nat} {stop : β × γ}
    (hk : stops[k]? = some stop) : (stops.map Prod.fst)[k]? = some stop.1 := by
  rw [List.getElem?_map, hk, Option.map_some]

section

variable {α : Type} [Arith α] {kind : StopKind} {stops : List (α × Json)} {base : α}

theorem ofStops?_eq_some (hlen : 2 ≤ stops.length)
    (h : ∀ stop ∈ stops, StopKind.ofJson α stop.2 = kind) :
    ofStops? stops base =
      some ⟨scaleOf kind base, stops.map Prod.fst, Outputs.ofStops kind stops⟩ := by
  match stops with
  | first :: second :: rest =>
    have hfirst := h first List.mem_cons_self
    have hall : (first :: second :: rest).all (fun stop =>
        StopKind.ofJson α stop.2 == kind) = true := by
      rw [List.all_eq_true]
      exact fun stop hs => beq_iff_eq.2 (h stop hs)
    rw [ofStops?]
    simp only [hfirst, hall, if_true]

theorem scaleOf_eq (hkind : kind.Blends) (base : α) : scaleOf kind base = Scale.ofBase base := by
  obtain rfl | rfl := hkind <;> rfl

/-- Between two stops an interpolator that blends gives the blend of their outputs. -/
theorem between?_eq_blend {i : Interpolator α} (hscale : i.scale ≠ .step)
    (hvalues : ∀ vs, i.outputs ≠ .values vs) {lower upper : Nat} {a b : α} {below above : Value α}
    (ha : i.positions[lower]? = some a) (hb : i.positions[upper]? = some b)
    (hl : i.outputs.get? lower = some below) (hu : i.outputs.get? upper = some above) (x : α) :
    i.between? lower x upper = some (below.blend (i.scale.position a x b) above) := by
  have hblend := Outputs.blend?_of_get? hvalues hl hu (i.scale.position a x b)
  simp only [between?, ha, hb]
  cases hs : i.scale with
  | step => exact absurd hs hscale
  | linear => rw [hs] at hblend; exact hblend
  | exponential base => rw [hs] at hblend; exact hblend

/-- The value at an input is the output at its place: that of an end, or the blend of those of two
neighbours. -/
inductive Placed (scale : Scale α) (stops : List (α × Json)) (x : α) (v : Value α) : Prop
  | at (k : Nat) (stop : α × Json) (hp : locate? x (stops.map Prod.fst) = some (.at k))
      (hs : stops[k]? = some stop) (hv : v = Value.ofJson true stop.2)
  | between (k : Nat) (low high : α × Json)
      (hp : locate? x (stops.map Prod.fst) = some (.between k (k + 1)))
      (hl : stops[k]? = some low) (hh : stops[k + 1]? = some high)
      (hv : v = (Value.ofJson true low.2).blend (scale.position low.1 x high.1)
        (Value.ofJson true high.2))

theorem exists_placed (hlen : 2 ≤ stops.length) (hkind : kind.Blends)
    (h : ∀ stop ∈ stops, StopKind.ofJson α stop.2 = kind) {i : Interpolator α}
    (hi : ofStops? stops base = some i) (x : α) :
    ∃ v, i.evaluate? x = some v ∧ Placed (Scale.ofBase base) stops x v := by
  rw [ofStops?_eq_some hlen h, scaleOf_eq hkind] at hi
  obtain rfl := Option.some.inj hi
  rw [evaluate?]
  simp only
  cases hp : locate? x (stops.map Prod.fst) with
  | none =>
    have hnil := locate?_eq_none.1 hp
    simp [List.map_eq_nil_iff.1 hnil] at hlen
  | some place =>
    have hwithin := isWithin_of_locate? hp
    rw [List.length_map] at hwithin
    cases place with
    | «at» k =>
      have hk := List.getElem?_eq_getElem (show k < stops.length from hwithin)
      exact ⟨_, Outputs.get?_ofStops_of_blends hkind h hk, .at k _ hp hk rfl⟩
    | between lower upper =>
      obtain ⟨rfl, -⟩ := locate?_between hp
      have hl := List.getElem?_eq_getElem (show lower < stops.length from hwithin.1)
      have hh := List.getElem?_eq_getElem (show lower + 1 < stops.length from hwithin.2)
      exact ⟨_, between?_eq_blend (Scale.ofBase_ne_step base) (Outputs.ofStops_ne_values hkind)
        (getElem?_positions hl) (getElem?_positions hh) (Outputs.get?_ofStops_of_blends hkind h hl)
        (Outputs.get?_ofStops_of_blends hkind h hh) x, .between lower _ _ hp hl hh rfl⟩

end

open Exact

variable {K : Type} [Field K] [LinearOrder K] [FloorRing K] [Powers K]

/-- The output at an input is that of the first stop, below it; that of the last, if no position is
above the input; or it lies between those of two neighbours that bracket the input. -/
inductive Bracketed (scale : Scale K) (positions : List K) (outputs : List (Value K)) (x : K)
    (v : Value K) : Prop
  | first (p : K) (hp : positions[0]? = some p) (hx : x < p) (hv : outputs[0]? = some v)
  | last (hx : ∀ p ∈ positions, p ≤ x) (hv : outputs.getLast? = some v)
  | between (k : ℕ) (a b : K) (low high : Value K) (ha : positions[k]? = some a)
      (hb : positions[k + 1]? = some b) (hl : outputs[k]? = some low)
      (hh : outputs[k + 1]? = some high) (hax : a ≤ x) (hxb : x < b)
      (hm : scale.IsMeasured a x b) (hv : v = low.blend (scale.position a x b) high)
      (hbetween : v.IsBetween low high)

/-- The outputs of stops, as the type of the outputs asks. -/
def outputsOf (stops : List (K × Json)) : List (Value K) :=
  stops.map fun stop => Value.ofJson true stop.2

/-- Bounds on the outputs of all stops are bounds on the output at an input. -/
theorem Bracketed.mem {scale : Scale K} {positions : List K} {outputs : List (Value K)} {x : K}
    {v : Value K} (h : Bracketed scale positions outputs x v) {channel : Channel} {lo hi : K}
    (hb : ∀ w ∈ outputs, ∀ y ∈ w.channel? channel, y ∈ Set.Icc lo hi) :
    ∀ y ∈ v.channel? channel, y ∈ Set.Icc lo hi := by
  intro y hy
  cases h with
  | first p hp hx hv => exact hb v (List.mem_of_getElem? hv) y hy
  | last hx hv => exact hb v (List.mem_of_getLast? hv) y hy
  | between k a b low high ha hb' hl hh hax hxb hm hv hbetween =>
    exact hbetween.mem (hb low (List.mem_of_getElem? hl)) (hb high (List.mem_of_getElem? hh)) hy

variable [IsStrictOrderedRing K] {kind : StopKind}

/-- Two outputs of a type that blends lie apart in their channels only. -/
theorem isBetween_blend_of_kind (hkind : kind.Blends) {j j' : Json}
    (hj : StopKind.ofJson K j = kind) (hj' : StopKind.ofJson K j' = kind) {t : K}
    (ht : t ∈ Set.Icc (0 : K) 1) :
    ((Value.ofJson true j).blend t (Value.ofJson true j')).IsBetween (Value.ofJson true j)
      (Value.ofJson true j') := by
  obtain rfl | rfl := hkind
  · obtain ⟨n, rfl⟩ := Value.exists_number_of_kind hj
    obtain ⟨n', rfl⟩ := Value.exists_number_of_kind hj'
    exact Value.isBetween_blend_number _ _ ht
  · obtain ⟨_, c, _, -, hc⟩ := Value.exists_color_of_kind hj
    obtain ⟨_, d, _, -, hd⟩ := Value.exists_color_of_kind hj'
    rw [hc, hd]
    exact Value.isBetween_blend_color c d ht

variable [LawfulPowers K] {stops : List (K × Json)} {base : K}

theorem exists_bracketed (hbase : 0 < base) (hlen : 2 ≤ stops.length) (hkind : kind.Blends)
    (h : ∀ stop ∈ stops, StopKind.ofJson K stop.2 = kind) {i : Interpolator K}
    (hi : ofStops? stops base = some i) (x : K) :
    ∃ v, i.evaluate? x = some v ∧
      Bracketed (Scale.ofBase base) (stops.map Prod.fst) (outputsOf stops) x v := by
  have houtput {k : ℕ} {stop : K × Json} (hk : stops[k]? = some stop) :
      (outputsOf stops)[k]? = some (Value.ofJson true stop.2) := by
    rw [outputsOf, List.getElem?_map, hk, Option.map_some]
  obtain ⟨v, hv, hplaced⟩ := exists_placed hlen hkind h hi x
  refine ⟨v, hv, ?_⟩
  cases hplaced with
  | «at» k stop hp hs hv =>
    rw [hv]
    obtain ⟨rfl, p, hfirst, hx⟩ | ⟨hlast, hx⟩ := locate?_at hp
    · exact .first p hfirst hx (houtput hs)
    · refine .last (fun p hp => not_lt.1 (hx p hp)) ?_
      have hlength : (outputsOf stops).length = k + 1 := by
        rw [outputsOf, List.length_map, hlast, List.length_map]
      rw [List.getLast?_eq_getElem?, hlength, Nat.add_sub_cancel]
      exact houtput hs
  | between k low high hp hl hh hv =>
    obtain ⟨-, a, b, ha, hb, hax, hxb⟩ := locate?_between hp
    obtain rfl := Option.some.inj ((getElem?_positions hl).symm.trans ha)
    obtain rfl := Option.some.inj ((getElem?_positions hh).symm.trans hb)
    have hm := Scale.isMeasured_of_mem hbase (not_lt.1 hax) hxb
    refine .between k _ _ _ _ ha hb (houtput hl) (houtput hh) (not_lt.1 hax) hxb hm hv ?_
    rw [hv]
    exact isBetween_blend_of_kind hkind (h low (List.mem_of_getElem? hl))
      (h high (List.mem_of_getElem? hh)) (Set.Ico_subset_Icc_self hm.position_mem)

/-- Stops with numbers, or with colors, in any order have an output at every input: an end's, or one
between those of the two stops that bracket the input. So it lies between the least and the greatest
of all outputs, channel by channel. -/
theorem evaluate?_bracketed (hbase : 0 < base) (hlen : 2 ≤ stops.length) (hkind : kind.Blends)
    (h : ∀ stop ∈ stops, StopKind.ofJson K stop.2 = kind) :
    ∃ i, ofStops? stops base = some i ∧ ∀ x, ∃ v, i.evaluate? x = some v ∧
      Bracketed (Scale.ofBase base) (stops.map Prod.fst) (outputsOf stops) x v ∧
      ∀ channel lo hi, (∀ w ∈ outputsOf stops, ∀ y ∈ w.channel? channel, y ∈ Set.Icc lo hi) →
        ∀ y ∈ v.channel? channel, y ∈ Set.Icc lo hi := by
  refine ⟨_, ofStops?_eq_some hlen h, fun x => ?_⟩
  obtain ⟨v, hv, hbracketed⟩ :=
    exists_bracketed hbase hlen hkind h (ofStops?_eq_some hlen h) x
  exact ⟨v, hv, hbracketed, fun _ _ _ hb => hbracketed.mem hb⟩

/-! ### Stops out of order -/

/-- One position stands twice, and the last one is below it. -/
noncomputable def unsortedStops : List (ℝ × Json) :=
  [(0, Json.natural 1), ((10 : ℕ), Json.natural 5), ((10 : ℕ), Json.natural 2),
    ((4 : ℕ), Json.natural 8)]

theorem outputsOf_unsortedStops :
    outputsOf unsortedStops = [.number 1, .number 5, .number 2, .number 8] := by
  have hone : (ofDouble (1 : UInt64).toFloat : ℝ) = 1 := by
    rw [ofDouble_of_fraction rfl rfl (show _ = (2 ^ 52, 2 ^ 52) by decide)]
    norm_num
  have hfive : (ofDouble (5 : UInt64).toFloat : ℝ) = 5 := by
    rw [ofDouble_of_fraction rfl rfl (show _ = (5 * 2 ^ 50, 2 ^ 50) by decide)]
    norm_num
  have htwo : (ofDouble (2 : UInt64).toFloat : ℝ) = 2 := by
    rw [ofDouble_of_fraction rfl rfl (show _ = (2 ^ 52, 2 ^ 51) by decide)]
    norm_num
  have height : (ofDouble (8 : UInt64).toFloat : ℝ) = 8 := by
    rw [ofDouble_of_fraction rfl rfl (show _ = (2 ^ 52, 2 ^ 49) by decide)]
    norm_num
  calc outputsOf unsortedStops
      = [.number (ofDouble (1 : UInt64).toFloat), .number (ofDouble (5 : UInt64).toFloat),
          .number (ofDouble (2 : UInt64).toFloat), .number (ofDouble (8 : UInt64).toFloat)] := rfl
    _ = _ := by rw [hone, hfive, htwo, height]

/-- The input five falls between the first two of the stops, and so does its output. -/
theorem evaluate?_bracketed_unsorted :
    (0 : ℝ) < 2 ∧ 2 ≤ unsortedStops.length ∧
      (∀ stop ∈ unsortedStops, StopKind.ofJson ℝ stop.2 = .number) ∧
      ∃ i, ofStops? unsortedStops (2 : ℝ) = some i ∧
        ∃ v, i.evaluate? 5 = some v ∧ v.IsBetween (.number 1) (.number 5) ∧
          ∀ y ∈ v.channel? .number, y ∈ Set.Icc 1 8 := by
  have hlen : 2 ≤ unsortedStops.length := by simp [unsortedStops]
  have hkind : ∀ stop ∈ unsortedStops, StopKind.ofJson ℝ stop.2 = .number := by
    simp [unsortedStops, Json.natural, StopKind.ofJson]
  obtain ⟨i, hi, h⟩ := evaluate?_bracketed two_pos hlen (.inl rfl) hkind
  obtain ⟨v, hv, hbracketed, hbounds⟩ := h 5
  refine ⟨two_pos, hlen, hkind, i, hi, v, hv, ?_, hbounds .number 1 8 ?_⟩
  · rw [outputsOf_unsortedStops] at hbracketed
    cases hbracketed with
    | first p hp hx =>
      obtain rfl : 0 = p := Option.some.inj hp
      norm_num at hx
    | last hx =>
      have := hx 10 (by simp [unsortedStops])
      norm_num at this
    | between k a b low high ha hb hl hh hax hxb hm hv hbetween =>
      rcases k with _ | _ | _ | _ | k
      · obtain rfl := Option.some.inj hl
        obtain rfl := Option.some.inj hh
        exact hbetween
      · obtain rfl : 10 = a := Option.some.inj ha
        norm_num at hax
      · obtain rfl : 10 = a := Option.some.inj ha
        norm_num at hax
      · simp [unsortedStops] at hb
      · simp [unsortedStops] at ha
  · rw [outputsOf_unsortedStops]
    norm_num [Value.channel?]

end Interpolator

end StyledMap
