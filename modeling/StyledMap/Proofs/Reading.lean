import Mathlib.Data.List.Forall2
import Mathlib.Data.List.Nodup

/-! # Readings that succeed

A reading is a computation in `Except` or `Option`. The lemmas say when a reading that is made of
others succeeds, and with what, and which part it is that fails.
-/

set_option autoImplicit false

namespace StyledMap.Reading

variable {ε ε' α β : Type}

theorem pure_eq_ok {a b : α} : (pure a : Except ε α) = .ok b ↔ a = b := by
  simp [pure, Except.pure]

theorem bind_eq_ok {x : Except ε α} {f : α → Except ε β} {b : β} :
    x >>= f = .ok b ↔ ∃ a, x = .ok a ∧ f a = .ok b := by
  cases x <;> simp [bind, Except.bind]

theorem map_eq_ok {x : Except ε α} {f : α → β} {b : β} :
    x.map f = .ok b ↔ ∃ a, x = .ok a ∧ f a = b := by
  cases x <;> simp [Except.map]

theorem mapError_eq_ok {g : ε → ε'} {x : Except ε α} {a : α} :
    x.mapError g = .ok a ↔ x = .ok a := by
  cases x with
  | error fault => simp [Except.mapError]
  | ok b => simp [Except.mapError]

theorem bind_eq_error {x : Except ε α} {f : α → Except ε β} {fault : ε} :
    x >>= f = .error fault ↔ x = .error fault ∨ ∃ a, x = .ok a ∧ f a = .error fault := by
  cases x <;> simp [bind, Except.bind]

theorem map_eq_error {x : Except ε α} {f : α → β} {fault : ε} :
    x.map f = .error fault ↔ x = .error fault := by
  cases x <;> simp [Except.map]

theorem mapError_eq_error {g : ε → ε'} {x : Except ε α} {fault : ε'} :
    x.mapError g = .error fault ↔ ∃ cause, x = .error cause ∧ g cause = fault := by
  cases x <;> simp [Except.mapError]

theorem mapM_eq_ok {f : α → Except ε β} {xs : List α} {ys : List β} :
    xs.mapM f = .ok ys ↔ List.Forall₂ (fun x y => f x = .ok y) xs ys := by
  induction xs generalizing ys with
  | nil => cases ys <;> simp [pure, Except.pure]
  | cons x xs ih =>
    rw [List.mapM_cons, bind_eq_ok]
    constructor
    · rintro ⟨y, hy, hys⟩
      obtain ⟨zs, hzs, h⟩ := bind_eq_ok.1 hys
      obtain rfl : y :: zs = ys := by simpa [pure, Except.pure] using h
      exact .cons hy (ih.1 hzs)
    · intro h
      cases h with
      | cons hy hys => exact ⟨_, hy, bind_eq_ok.2 ⟨_, ih.2 hys, rfl⟩⟩

theorem mapM_isOk {f : α → Except ε β} {xs : List α} :
    (∃ ys, xs.mapM f = .ok ys) ↔ ∀ x ∈ xs, ∃ y, f x = .ok y := by
  induction xs with
  | nil => exact iff_of_true ⟨[], rfl⟩ (by simp)
  | cons x xs ih =>
    rw [List.forall_mem_cons, ← ih]
    constructor
    · rintro ⟨_, h⟩
      cases mapM_eq_ok.1 h with
      | cons hy hys => exact ⟨⟨_, hy⟩, ⟨_, mapM_eq_ok.2 hys⟩⟩
    · rintro ⟨⟨y, hy⟩, ⟨ys, hys⟩⟩
      exact ⟨y :: ys, mapM_eq_ok.2 (.cons hy (mapM_eq_ok.1 hys))⟩

theorem exists_mem_of_mapM_eq_error {f : α → Except ε β} {xs : List α} {fault : ε}
    (h : xs.mapM f = .error fault) : ∃ x ∈ xs, f x = .error fault := by
  induction xs with
  | nil => simp [pure, Except.pure] at h
  | cons x xs ih =>
    rw [List.mapM_cons, bind_eq_error] at h
    obtain h | ⟨y, -, h⟩ := h
    · exact ⟨x, List.mem_cons_self, h⟩
    · obtain h | ⟨ys, -, h⟩ := bind_eq_error.1 h
      · obtain ⟨z, hz, hf⟩ := ih h
        exact ⟨z, List.mem_cons_of_mem _ hz, hf⟩
      · simp [pure, Except.pure] at h

theorem mapM_eq_some {f : α → Option β} {xs : List α} {ys : List β} :
    xs.mapM f = some ys ↔ List.Forall₂ (fun x y => f x = some y) xs ys := by
  induction xs generalizing ys with
  | nil => cases ys <;> simp
  | cons x xs ih =>
    rw [List.mapM_cons, Option.bind_eq_bind, Option.bind_eq_some_iff]
    constructor
    · rintro ⟨y, hy, hys⟩
      obtain ⟨zs, hzs, h⟩ := Option.bind_eq_some_iff.1 hys
      obtain rfl : y :: zs = ys := Option.some.inj h
      exact .cons hy (ih.1 hzs)
    · intro h
      cases h with
      | cons hy hys => exact ⟨_, hy, Option.bind_eq_some_iff.2 ⟨_, ih.2 hys, rfl⟩⟩

theorem exists_mapM {f : α → Option β} {xs : List α} :
    (∃ ys, xs.mapM f = some ys) ↔ ∀ x ∈ xs, ∃ y, f x = some y := by
  induction xs with
  | nil => exact iff_of_true ⟨[], rfl⟩ (by simp)
  | cons x xs ih =>
    rw [List.forall_mem_cons, ← ih]
    constructor
    · rintro ⟨_, h⟩
      cases mapM_eq_some.1 h with
      | cons hy hys => exact ⟨⟨_, hy⟩, ⟨_, mapM_eq_some.2 hys⟩⟩
    · rintro ⟨⟨y, hy⟩, ⟨ys, hys⟩⟩
      exact ⟨y :: ys, mapM_eq_some.2 (.cons hy (mapM_eq_some.1 hys))⟩

theorem forM_eq_ok {f : α → Except ε Unit} {xs : List α} :
    xs.forM f = .ok () ↔ ∀ x ∈ xs, f x = .ok () := by
  induction xs with
  | nil => simp [pure, Except.pure]
  | cons x xs ih =>
    change f x >>= (fun _ => xs.forM f) = .ok () ↔ _
    rw [bind_eq_ok, List.forall_mem_cons, ih]
    exact ⟨fun ⟨_, h, hs⟩ => ⟨h, hs⟩, fun ⟨h, hs⟩ => ⟨(), h, hs⟩⟩

/-- What holds of everything that is read holds of the items of a list that is read. -/
theorem forall_mem_of_forall₂ {R : α → β → Prop} {P : β → Prop} {xs : List α} {ys : List β}
    (h : List.Forall₂ R xs ys) (hp : ∀ x y, R x y → P y) : ∀ y ∈ ys, P y := by
  induction h with
  | nil => simp
  | cons hr _ ih => exact List.forall_mem_cons.2 ⟨hp _ _ hr, ih⟩

theorem forall₂_of_mem_right {R S : α → β → Prop} {xs : List α} {ys : List β}
    (h : List.Forall₂ R xs ys) (hs : ∀ x y, y ∈ ys → R x y → S x y) : List.Forall₂ S xs ys := by
  obtain ⟨hlength, hzip⟩ := List.forall₂_iff_zip.1 h
  exact List.forall₂_iff_zip.2
    ⟨hlength, fun hm => hs _ _ (List.of_mem_zip hm).2 (hzip hm)⟩

/-- Lists are mapped to the same when what is related is. -/
theorem map_eq_map_of_forall₂ {γ : Type} {R : α → β → Prop} {f : α → γ} {g : β → γ} {xs : List α}
    {ys : List β} (h : List.Forall₂ R xs ys) (hfg : ∀ x ∈ xs, ∀ y, R x y → f x = g y) :
    xs.map f = ys.map g := by
  induction h with
  | nil => rfl
  | cons hr _ ih =>
    obtain ⟨hhead, htail⟩ := List.forall_mem_cons.1 hfg
    exact congrArg₂ List.cons (hhead _ hr) (ih htail)

/-- The first items of two lists that pass a test stand at the same place, when what is related
passes both tests or neither. -/
theorem exists_find?_of_forall₂ {R : α → β → Prop} {p : α → Bool} {q : β → Bool} {xs : List α}
    {ys : List β} {x : α} (h : List.Forall₂ R xs ys) (hpq : ∀ x y, R x y → p x = q y)
    (hx : xs.find? p = some x) : ∃ y, ys.find? q = some y ∧ R x y := by
  induction h with
  | nil => simp at hx
  | @cons head other xs ys hr _ ih =>
    cases hp : p head with
    | true =>
      rw [List.find?_cons_of_pos hp] at hx
      obtain rfl := Option.some.inj hx
      exact ⟨other, List.find?_cons_of_pos (hpq _ _ hr ▸ hp), hr⟩
    | false =>
      rw [List.find?_cons_of_neg (by simp [hp])] at hx
      obtain ⟨y, hy, hry⟩ := ih hx
      have hq : q other = false := hpq _ _ hr ▸ hp
      exact ⟨y, by rw [List.find?_cons_of_neg (by simp [hq]), hy], hry⟩

/-- Where no two items share a key, an item is found under its own. -/
theorem find?_eq_some_of_nodup {f : α → String} {xs : List α} (h : (xs.map f).Nodup) {key : String}
    {x : α} : xs.find? (fun y => f y == key) = some x ↔ x ∈ xs ∧ f x = key := by
  constructor
  · intro hx
    have hkey : (f x == key) = true := List.find?_some (p := fun y => f y == key) hx
    exact ⟨List.mem_of_find?_eq_some hx, beq_iff_eq.1 hkey⟩
  · rintro ⟨hx, rfl⟩
    have hsome : (xs.find? fun y => f y == f x).isSome :=
      List.find?_isSome.2 ⟨x, hx, beq_self_eq_true _⟩
    obtain ⟨y, hy⟩ := Option.isSome_iff_exists.1 hsome
    have hkey : (f y == f x) = true := List.find?_some (p := fun z => f z == f x) hy
    rw [hy, List.inj_on_of_nodup_map h (List.mem_of_find?_eq_some hy) hx (beq_iff_eq.1 hkey)]

end StyledMap.Reading
