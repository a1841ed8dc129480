import Mathlib.Data.List.Forall2
import StyledMap.Fault
import StyledMap.Proofs.Reading

/-! # Results that are gathered

* `FaultChoice.gather_eq_ok`: results are gathered when there is no fault among them, whatever the
  choice.
* `FaultChoice.mem_of_gather_eq_error` and `FaultChoice.exists_gather_eq_error`: what is reported is
  one of the faults, and it may be any of them.
-/

set_option autoImplicit false

namespace StyledMap.FaultChoice

variable {α β : Type} {results : List (Except Fault β)} {fault : Fault} {choice : FaultChoice}

/-! ## Values -/

theorem gather_cons_ok (choice : FaultChoice) (b : β) (results : List (Except Fault β)) :
    choice.gather (.ok b :: results) = (choice.gather results).map (b :: ·) := by
  have hfaults : (Except.ok b :: results).filterMap fault? = results.filterMap fault? := rfl
  rw [gather, gather, hfaults]
  cases results.filterMap fault? <;> rfl

theorem gather_cons_error (choice : FaultChoice) (results : List (Except Fault β)) :
    ∃ reported, choice.gather (.error fault :: results) = .error reported :=
  ⟨choice.pick fault (results.filterMap fault?), rfl⟩

theorem gather_eq_ok {f : α → Except Fault β} {xs : List α} {ys : List β} :
    choice.gather (xs.map f) = .ok ys ↔ List.Forall₂ (fun x y => f x = .ok y) xs ys := by
  induction xs generalizing ys with
  | nil =>
    have hnil : choice.gather ([].map f) = .ok [] := rfl
    rw [hnil, List.forall₂_nil_left_iff, Except.ok.injEq, eq_comm]
  | cons x xs ih =>
    rw [List.map_cons, List.forall₂_cons_left_iff]
    cases hx : f x with
    | error fault =>
      obtain ⟨reported, hreported⟩ := gather_cons_error choice (xs.map f)
      rw [hreported]
      simp
    | ok y =>
      rw [gather_cons_ok, Reading.map_eq_ok]
      constructor
      · rintro ⟨zs, hzs, rfl⟩
        exact ⟨y, zs, rfl, ih.1 hzs, rfl⟩
      · rintro ⟨z, zs, hz, hzs, rfl⟩
        exact ⟨zs, ih.2 hzs, by rw [Except.ok.inj hz]⟩

/-! ## Faults -/

theorem mem_filterMap_fault? : fault ∈ results.filterMap fault? ↔ .error fault ∈ results := by
  rw [List.mem_filterMap]
  constructor
  · rintro ⟨result, hresult, h⟩
    cases result with
    | ok b => cases h
    | error other => exact Option.some.inj h ▸ hresult
  · intro h
    exact ⟨_, h, rfl⟩

theorem mem_of_gather_eq_error (h : choice.gather results = .error fault) :
    .error fault ∈ results := by
  rw [gather] at h
  split at h
  · cases h
  · next first rest hfaults =>
    rw [← mem_filterMap_fault?, hfaults, ← Except.error.inj h]
    exact choice.mem first rest

/-- Each of the faults is reported for some choice. -/
theorem exists_gather_eq_error (h : .error fault ∈ results) :
    ∃ choice : FaultChoice, choice.gather results = .error fault := by
  obtain ⟨i, hi⟩ := List.mem_iff_getElem?.1 (mem_filterMap_fault?.2 h)
  refine ⟨ofIndex i, ?_⟩
  rw [gather]
  split
  · next hfaults => simp [hfaults] at hi
  · next first rest hfaults =>
    rw [hfaults] at hi
    have hpick : (ofIndex i).pick first rest = fault := by
      simp only [ofIndex, hi, Option.getD_some]
    rw [hpick]

theorem exists_gather_map_eq_error {f : α → Except Fault β} {xs : List α} :
    (∃ choice : FaultChoice, choice.gather (xs.map f) = .error fault) ↔
      ∃ x ∈ xs, f x = .error fault := by
  rw [← List.mem_map]
  exact ⟨fun ⟨_, h⟩ => mem_of_gather_eq_error h, exists_gather_eq_error⟩

end StyledMap.FaultChoice
