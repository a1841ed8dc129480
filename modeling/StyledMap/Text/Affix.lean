/-! # Texts at the ends of texts

* `after?` is what follows a text at the front, and `before?` what precedes one at the end.
* `after?_eq_some` and `before?_eq_some` say that each is the other part of an append.
-/

set_option autoImplicit false

namespace StyledMap.Text

/-- What follows `start` in a text that begins with it. -/
def after? : List Char → List Char → Option (List Char)
  | [], cs => some cs
  | _ :: _, [] => none
  | s :: start, c :: cs => if s = c then after? start cs else none

/-- What precedes `stop` in a text that ends with it. -/
def before? (stop cs : List Char) : Option (List Char) :=
  (after? stop.reverse cs.reverse).map List.reverse

/-- What follows `start` in a string that begins with it. -/
def afterString? (start text : String) : Option String :=
  (after? start.toList text.toList).map String.ofList

/-- A text goes on after `start` exactly when it is `start` and the rest. -/
theorem after?_eq_some {start cs rest : List Char} :
    after? start cs = some rest ↔ cs = start ++ rest := by
  induction start generalizing cs with
  | nil => simp [after?]
  | cons s start ih =>
    cases cs with
    | nil => simp [after?]
    | cons c cs =>
      by_cases h : s = c
      · simp [after?, h, ih]
      · simp [after?, h, Ne.symm h]

/-- A text leads up to `stop` exactly when it is the rest and `stop`. -/
theorem before?_eq_some {stop cs rest : List Char} :
    before? stop cs = some rest ↔ cs = rest ++ stop := by
  unfold before?
  constructor
  · intro h
    obtain ⟨r, hr, hrest⟩ := Option.map_eq_some_iff.mp h
    rw [after?_eq_some] at hr
    rw [← List.reverse_reverse cs, hr, ← hrest]
    simp
  · rintro rfl
    refine Option.map_eq_some_iff.mpr ⟨rest.reverse, ?_, List.reverse_reverse rest⟩
    rw [after?_eq_some, List.reverse_append]

end StyledMap.Text
