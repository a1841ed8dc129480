import StyledMap.Proofs.Link.Session

/-! # Tasks that wait at the same time

Loading asks for many resources at once and goes on with each answer as it comes. A task is what is
left to do for one of them.

* `Task`: a result, or a request and what to do with its answer.
* `Step` and `StepOne`: an answer comes for a task, and for one task of a list, whichever it is.
* `result` and `requests`: what a task ends with and what it still asks for, when every answer is
  that of the resources.
* `pending?` and `Answer`: the request that a task waits for, and its answer.
* `results_of_stepOne`: no answer changes what the tasks of a list end with, so the order in which
  answers come does not matter.
* `exists_stepOne`: as long as some task has no value an answer can come.
-/

set_option autoImplicit false

namespace StyledMap

/-- What is left to do: nothing, or to wait for the answer to a request. -/
inductive Task (β : Type)
  | done (value : β)
  | json (url : String) (next : Except LinkFault Json → Task β)
  | image (url : String) (next : Except LinkFault Raster → Task β)

namespace Task

variable {β γ : Type} {r : Resources} {q : Request}

def map (f : β → γ) : Task β → Task γ
  | done b => done (f b)
  | json url next => json url fun answer => (next answer).map f
  | image url next => image url fun answer => (next answer).map f

def value? : Task β → Option β
  | done b => some b
  | _ => none

/-- What a task ends with. -/
def result (r : Resources) : Task β → β
  | done b => b
  | json url next => (next (r.json url)).result r
  | image url next => (next (r.image url)).result r

/-- What a task asks for, in order. -/
def requests (r : Resources) : Task β → List Request
  | done _ => []
  | json url next => .json url :: (next (r.json url)).requests r
  | image url next => .image url :: (next (r.image url)).requests r

inductive Step (r : Resources) : Task β → Task β → Prop
  | json (url : String) (next : Except LinkFault Json → Task β) :
    Step r (.json url next) (next (r.json url))
  | image (url : String) (next : Except LinkFault Raster → Task β) :
    Step r (.image url next) (next (r.image url))

inductive StepOne (r : Resources) : List (Task β) → List (Task β) → Prop
  | head {t t' : Task β} (ts : List (Task β)) : Step r t t' → StepOne r (t :: ts) (t' :: ts)
  | tail (t : Task β) {ts ts' : List (Task β)} :
    StepOne r ts ts' → StepOne r (t :: ts) (t :: ts')

/-- The request that a task waits for. -/
def pending? : Task β → Option Request
  | done _ => none
  | json url _ => some (.json url)
  | image url _ => some (.image url)

/-- A request is answered, and the task that waited for it goes on. -/
def Answer (r : Resources) (q : Request) (t t' : Task β) : Prop :=
  t.pending? = some q ∧ Step r t t'

/-! ## One task -/

theorem result_map (f : β → γ) (t : Task β) : (t.map f).result r = f (t.result r) := by
  induction t with
  | done b => rfl
  | json url next ih => exact ih (r.json url)
  | image url next ih => exact ih (r.image url)

theorem requests_map (f : β → γ) (t : Task β) : (t.map f).requests r = t.requests r := by
  induction t with
  | done b => rfl
  | json url next ih => exact congrArg (.json url :: ·) (ih (r.json url))
  | image url next ih => exact congrArg (.image url :: ·) (ih (r.image url))

theorem result_of_value? {t : Task β} {b : β} (h : t.value? = some b) : t.result r = b := by
  cases t with
  | done c => exact Option.some.inj h
  | json url next => cases h
  | image url next => cases h

theorem result_of_step {t t' : Task β} (h : Step r t t') : t'.result r = t.result r := by
  cases h with
  | json url next => rfl
  | image url next => rfl

theorem pending?_map (f : β → γ) (t : Task β) : (t.map f).pending? = t.pending? := by
  cases t <;> rfl

theorem requests_of_value? {t : Task β} {b : β} (h : t.value? = some b) : t.requests r = [] := by
  cases t with
  | done c => rfl
  | json url next => cases h
  | image url next => cases h

theorem requests_of_answer {t t' : Task β} (h : Answer r q t t') :
    t.requests r = q :: t'.requests r := by
  obtain ⟨hq, hstep⟩ := h
  cases hstep with
  | json url next => rw [← Option.some.inj hq, requests]
  | image url next => rw [← Option.some.inj hq, requests]

theorem answer_of_step {t t' : Task β} (h : Step r t t') : ∃ q, Answer r q t t' := by
  cases h with
  | json url next => exact ⟨.json url, rfl, .json url next⟩
  | image url next => exact ⟨.image url, rfl, .image url next⟩

theorem exists_step {t : Task β} (h : t.value? = none) : ∃ t', Step r t t' := by
  cases t with
  | done b => cases h
  | json url next => exact ⟨_, .json url next⟩
  | image url next => exact ⟨_, .image url next⟩

/-! ## Lists of tasks -/

theorem results_of_values? {ts : List (Task β)} {bs : List β} (h : ts.mapM value? = some bs) :
    ts.map (result r) = bs := by
  induction ts generalizing bs with
  | nil =>
    rw [List.mapM_nil] at h
    exact Option.some.inj h
  | cons t ts ih =>
    rw [List.mapM_cons, Option.bind_eq_bind, Option.bind_eq_some_iff] at h
    obtain ⟨b, hb, h⟩ := h
    obtain ⟨bs', hbs, h⟩ := Option.bind_eq_some_iff.1 h
    rw [List.map_cons, result_of_value? hb, ih hbs]
    exact Option.some.inj h

theorem results_of_stepOne {ts ts' : List (Task β)} (h : StepOne r ts ts') :
    ts'.map (result r) = ts.map (result r) := by
  induction h with
  | head ts ht => rw [List.map_cons, List.map_cons, result_of_step ht]
  | tail t _ ih => rw [List.map_cons, List.map_cons, ih]

/-- A step of a list is a step of one of its tasks. -/
theorem exists_of_stepOne {ts ts' : List (Task β)} (h : StepOne r ts ts') :
    ∃ before t t' after, ts = before ++ t :: after ∧ ts' = before ++ t' :: after ∧
      Step r t t' := by
  induction h with
  | @head t t' ts ht => exact ⟨[], t, t', ts, rfl, rfl, ht⟩
  | tail s _ ih =>
    obtain ⟨before, t, t', after, rfl, rfl, ht⟩ := ih
    exact ⟨s :: before, t, t', after, rfl, rfl, ht⟩

theorem requests_of_values? {ts : List (Task β)} {bs : List β} (h : ts.mapM value? = some bs) :
    ts.flatMap (requests r) = [] := by
  induction ts generalizing bs with
  | nil => rfl
  | cons t ts ih =>
    rw [List.mapM_cons, Option.bind_eq_bind, Option.bind_eq_some_iff] at h
    obtain ⟨b, hb, h⟩ := h
    obtain ⟨bs', hbs, -⟩ := Option.bind_eq_some_iff.1 h
    rw [List.flatMap_cons, requests_of_value? hb, ih hbs, List.append_nil]

theorem exists_stepOne {ts : List (Task β)} (h : ts.mapM value? = none) :
    ∃ ts', StepOne r ts ts' := by
  induction ts with
  | nil => simp at h
  | cons t ts ih =>
    cases ht : t.value? with
    | none =>
      obtain ⟨t', hstep⟩ := exists_step (r := r) ht
      exact ⟨_, .head ts hstep⟩
    | some b =>
      cases hts : ts.mapM value? with
      | none =>
        obtain ⟨ts', hstep⟩ := ih hts
        exact ⟨_, .tail t hstep⟩
      | some bs => simp [List.mapM_cons, ht, hts] at h

end Task

end StyledMap
