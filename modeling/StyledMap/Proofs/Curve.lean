import StyledMap.Curve

/-! # Curves and feature values that are no numbers

A function that interpolates has no output for a feature value that is no number. What it gives in
place of one depends on how many of its stops have a numeric input: with one of them its curve is
constant, and a constant does not look at the value.

* `onlyOutput?`: the output of the only stop with a numeric input.
* `substitute`: what a list of stops gives in place of an output.
* `lookup_of_not_number`: the curve of the stops gives that.
-/

set_option autoImplicit false

namespace StyledMap.Curve

/-- The output of the only stop with a numeric input, if there is just one. -/
def onlyOutput? (stops : List (Json × Json)) : Option Json :=
  match stops.filter fun stop => stop.1.isNumber with
  | [stop] => some stop.2
  | _ => none

theorem onlyOutput?_eq_none {stops : List (Json × Json)}
    (h : stops.countP (fun stop => stop.1.isNumber) ≠ 1) : onlyOutput? stops = none := by
  rw [List.countP_eq_length_filter] at h
  unfold onlyOutput?
  split
  · next stop hs =>
    rw [hs] at h
    exact absurd rfl h
  · rfl

variable {α : Type} [Arith α] {colors : Bool} {base : α} {kind : FunctionKind}
  {stops : List (Json × Json)} {input : Option Json} {default : Value α}

/-- What stops give for a feature value that is no number. -/
def substitute (colors : Bool) (default : Value α) (stops : List (Json × Json))
    (input : Option Json) : Value α :=
  match input with
  | some _ => ((onlyOutput? stops).map (Value.ofJson colors)).getD default
  | none => default

theorem substitute_eq_default (h : input = none ∨ onlyOutput? stops = none) :
    substitute colors default stops input = default := by
  cases input with
  | none => rfl
  | some value =>
    have hn : onlyOutput? stops = none := h.resolve_left (by simp)
    rw [substitute, hn, Option.map_none, Option.getD_none]

theorem substitute_eq_output {output : Json} (hi : input.isSome = true)
    (h : onlyOutput? stops = some output) :
    substitute colors default stops input = Value.ofJson colors output := by
  cases input with
  | none => simp at hi
  | some value => rw [substitute, h, Option.map_some, Option.getD_some]

/-! ## Curves -/

theorem lookup_fallback (input : Option Json) (default : Value α) :
    (fallback : Curve α).lookup input default = default := by
  cases input <;> rfl

theorem lookup_interpolated (hv : ∀ v ∈ input, v.isNumber = false) (i : Interpolator α)
    (default : Value α) : (interpolated i).lookup input default = default := by
  match input with
  | none => rfl
  | some (.number n) => exact absurd (hv _ rfl) (by simp [Json.isNumber])
  | some .null | some (.bool _) | some (.string _) | some (.array _) | some (.object _) => rfl

/-- Stops with other inputs are left out. -/
theorem numericStops_filter :
    (numericStops (stops.filter fun stop => stop.1.isNumber) : List (α × Json)) =
      numericStops stops := by
  rw [numericStops, numericStops, List.filterMap_filter]
  congr 1
  funext stop
  cases stop.1 <;> rfl

theorem exists_numericStops_cons {stop : Json × Json} (h : stop.1.isNumber = true)
    (stops : List (Json × Json)) :
    ∃ x : α, numericStops (stop :: stops) = (x, stop.2) :: numericStops stops := by
  obtain ⟨input, output⟩ := stop
  cases input with
  | number n => exact ⟨_, rfl⟩
  | _ => simp [Json.isNumber] at h

/-- At least two numeric stops have no constant for a curve. -/
theorem lookup_ofNumericStops (hv : ∀ v ∈ input, v.isNumber = false) (first second : α × Json)
    (rest : List (α × Json)) :
    (ofNumericStops colors base kind (first :: second :: rest)).lookup input default = default := by
  rw [ofNumericStops]
  · split
    · exact lookup_fallback _ _
    · exact lookup_interpolated hv _ _
  · simp
  · simp

/-- A curve that interpolates gives the substitute for a value that is no number. -/
theorem lookup_of_not_number (hk : kind.isNumeric = true)
    (hv : ∀ v ∈ input, v.isNumber = false) :
    (ofStops colors base kind stops).lookup input default =
      substitute colors default stops input := by
  have hcurve : ofStops colors base kind stops =
      ofNumericStops colors base kind (numericStops stops) := by
    cases kind <;> first | rfl | simp [FunctionKind.isNumeric] at hk
  have hnumeric : ∀ stop ∈ stops.filter (fun stop => stop.1.isNumber), stop.1.isNumber = true :=
    fun stop hs => (List.mem_filter.1 hs).2
  rw [hcurve, ← numericStops_filter]
  rcases hs : stops.filter (fun stop => stop.1.isNumber) with _ | ⟨first, _ | ⟨second, rest⟩⟩
  · have hnone : onlyOutput? stops = none := by rw [onlyOutput?, hs]
    rw [hs, substitute_eq_default (.inr hnone)]
    exact lookup_fallback input default
  · have honly : onlyOutput? stops = some first.2 := by rw [onlyOutput?, hs]
    obtain ⟨x, hx⟩ := exists_numericStops_cons (α := α) (hnumeric first (by simp [hs])) []
    rw [hs, hx]
    cases input with
    | none => rfl
    | some value =>
      rw [substitute_eq_output rfl honly]
      rfl
  · have hnone : onlyOutput? stops = none := by rw [onlyOutput?, hs]
    obtain ⟨x, hx⟩ := exists_numericStops_cons (α := α) (hnumeric first (by simp [hs]))
      (second :: rest)
    obtain ⟨y, hy⟩ := exists_numericStops_cons (α := α) (hnumeric second (by simp [hs])) rest
    rw [hs, hx, hy, substitute_eq_default (.inr hnone)]
    exact lookup_ofNumericStops hv _ _ _

end StyledMap.Curve
