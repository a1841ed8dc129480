import StyledMap.Text.Blank

/-! # Words and the gaps around them

A text splits into the words that it spells. It does not matter which separators stand between the
words, nor which stand around them.

* `IsGap` and `IsWord`: texts of separators only, and texts of one character at least that have no
  separator.
* `Spaced` and `Spells`: words one after another with a gap between each and the next.
* `words_of_spells` and `words_eq_iff`: a text is split into the words that it spells, and into no
  others.
* `words_intercalate`: what is joined by a separator is split there again.
* `words_map` and `trimBlanks_map`: a change of characters that keeps separators, or blanks,
  commutes with splitting, or trimming.
* `dropEnd_append` and `dropEnd_append_replicate`: what is dropped from the end of a text.
* `trimBlanks_append`: blanks around a text are trimmed.
-/

set_option autoImplicit false

namespace StyledMap.Text

/-! ## What a text spells -/

/-- A text of separators only, which may be empty. -/
def IsGap (separator : Char → Bool) (gap : List Char) : Prop :=
  ∀ c ∈ gap, separator c = true

/-- A text that is not empty and has no separator. -/
structure IsWord (separator : Char → Bool) (word : List Char) : Prop where
  ne_nil : word ≠ []
  apart : ∀ c ∈ word, separator c = false

/-- Words with a gap after each of them. Only the last word may do without. -/
inductive Spaced (separator : Char → Bool) : List (List Char) → List Char → Prop
  | nil : Spaced separator [] []
  | cons {word gap text : List Char} {words : List (List Char)} :
    IsWord separator word → IsGap separator gap → (words ≠ [] → gap ≠ []) →
    Spaced separator words text → Spaced separator (word :: words) (word ++ (gap ++ text))

/-- Words in a row in a text, with gaps between them and perhaps around them. -/
def Spells (separator : Char → Bool) (words : List (List Char)) (text : List Char) : Prop :=
  ∃ gap rest, IsGap separator gap ∧ Spaced separator words rest ∧ text = gap ++ rest

section

variable {separator : Char → Bool}

theorem isGap_nil : IsGap separator [] := by
  simp [IsGap]

theorem IsGap.cons {c : Char} {gap : List Char} (hc : separator c = true)
    (h : IsGap separator gap) : IsGap separator (c :: gap) := by
  intro d hd
  obtain rfl | hd := List.mem_cons.1 hd
  · exact hc
  · exact h d hd

theorem Spaced.eq_nil {text : List Char} (h : Spaced separator [] text) : text = [] := by
  cases h
  rfl

/-! ## Splitting -/

theorem wordsFrom_append {word : List Char} (h : ∀ c ∈ word, separator c = false)
    (started rest : List Char) :
    wordsFrom separator started (word ++ rest) =
      wordsFrom separator (word.reverse ++ started) rest := by
  induction word generalizing started with
  | nil => rfl
  | cons c word ih =>
    have hc : separator c = false := h c List.mem_cons_self
    have hrest := ih (fun d hd => h d (List.mem_cons_of_mem c hd)) (c :: started)
    rw [List.cons_append, wordsFrom, hc, if_neg (by decide), hrest]
    simp

/-- Nothing has begun where a gap is passed over. -/
theorem words_gap_append {gap : List Char} (h : IsGap separator gap) (rest : List Char) :
    words separator (gap ++ rest) = words separator rest := by
  induction gap with
  | nil => rfl
  | cons c gap ih =>
    have hc : separator c = true := h c List.mem_cons_self
    have hrest := ih fun d hd => h d (List.mem_cons_of_mem c hd)
    rw [List.cons_append, words, wordsFrom, hc, if_pos rfl]
    exact hrest

theorem wordsFrom_gap_append {gap : List Char} (h : IsGap separator gap) (hne : gap ≠ [])
    (started rest : List Char) :
    wordsFrom separator started (gap ++ rest) = endPiece started (words separator rest) := by
  cases gap with
  | nil => exact absurd rfl hne
  | cons c gap =>
    have hc : separator c = true := h c List.mem_cons_self
    have hrest := words_gap_append (fun d hd => h d (List.mem_cons_of_mem c hd)) rest
    rw [List.cons_append, wordsFrom, hc, if_pos rfl, ← words, hrest]

/-- A word ends at the gap after it, or with the text. -/
theorem words_word_append {word gap rest : List Char} (hw : IsWord separator word)
    (hg : IsGap separator gap) (hne : rest ≠ [] → gap ≠ []) :
    words separator (word ++ (gap ++ rest)) = word :: words separator rest := by
  have hend (pieces : List (List Char)) : endPiece (word.reverse ++ []) pieces = word :: pieces := by
    simp [endPiece, hw.ne_nil]
  rw [words, wordsFrom_append hw.apart]
  by_cases hgap : gap = []
  · have hrest : rest = [] := Classical.not_not.1 fun h => hne h hgap
    subst hgap hrest
    exact hend []
  · rw [wordsFrom_gap_append hg hgap, hend]

theorem words_of_spaced {pieces : List (List Char)} {text : List Char}
    (h : Spaced separator pieces text) : words separator text = pieces := by
  induction h with
  | nil => rfl
  | @cons word gap text pieces hw hg hne hrest ih =>
    have hgap : text ≠ [] → gap ≠ [] := by
      intro htext
      apply hne
      rintro rfl
      exact htext hrest.eq_nil
    rw [words_word_append hw hg hgap, ih]

theorem words_of_spells {pieces : List (List Char)} {text : List Char}
    (h : Spells separator pieces text) : words separator text = pieces := by
  obtain ⟨gap, rest, hg, hrest, rfl⟩ := h
  rw [words_gap_append hg, words_of_spaced hrest]

/-- What has begun is a word, unless it is empty. -/
theorem spells_endPiece {started gap rest : List Char} {pieces : List (List Char)}
    (h : ∀ c ∈ started, separator c = false) (hg : IsGap separator gap)
    (hne : pieces ≠ [] → gap ≠ []) (hrest : Spaced separator pieces rest) :
    Spells separator (endPiece started pieces) (started.reverse ++ (gap ++ rest)) := by
  rw [endPiece]
  by_cases hempty : started = []
  · subst hempty
    exact ⟨gap, rest, hg, hrest, rfl⟩
  · have hword : IsWord separator started.reverse :=
      ⟨by simpa using hempty, fun c hc => h c (List.mem_reverse.1 hc)⟩
    rw [if_neg (by simpa using hempty)]
    exact ⟨[], _, isGap_nil, .cons hword hg hne hrest, rfl⟩

theorem spells_wordsFrom (started text : List Char) (h : ∀ c ∈ started, separator c = false) :
    Spells separator (wordsFrom separator started text) (started.reverse ++ text) := by
  induction text generalizing started with
  | nil => exact spells_endPiece h isGap_nil (by simp) .nil
  | cons c text ih =>
    by_cases hc : separator c = true
    · obtain ⟨gap, rest, hgap, hrest, htext⟩ := ih [] (by simp)
      have hend := spells_endPiece h (hgap.cons hc) (by simp) hrest
      rw [List.cons_append, ← htext] at hend
      rw [wordsFrom, if_pos hc]
      exact hend
    · have hlonger : ∀ d ∈ c :: started, separator d = false := by
        intro d hd
        obtain rfl | hd := List.mem_cons.1 hd
        · exact Bool.eq_false_iff.2 hc
        · exact h d hd
      have hrest := ih (c :: started) hlonger
      rw [List.reverse_cons, List.append_assoc, List.singleton_append] at hrest
      rw [wordsFrom, if_neg hc]
      exact hrest

/-- A text is split exactly into the words that it spells. -/
theorem words_eq_iff {pieces : List (List Char)} {text : List Char} :
    words separator text = pieces ↔ Spells separator pieces text := by
  constructor
  · rintro rfl
    exact spells_wordsFrom [] text (by simp)
  · exact words_of_spells

theorem spaced_intercalate {s : Char} (hs : separator s = true) {pieces : List (List Char)}
    (h : ∀ piece ∈ pieces, IsWord separator piece) :
    Spaced separator pieces ([s].intercalate pieces) := by
  induction pieces with
  | nil => exact .nil
  | cons piece pieces ih =>
    have hpiece := h piece List.mem_cons_self
    have hrest := ih fun p hp => h p (List.mem_cons_of_mem piece hp)
    cases pieces with
    | nil =>
      have hlast := Spaced.cons hpiece isGap_nil (by simp) .nil
      simpa using hlast
    | cons next pieces =>
      rw [List.intercalate_cons_cons, List.append_assoc]
      exact .cons hpiece (isGap_nil.cons hs) (by simp) hrest

/-- What is joined by a separator is split there again. -/
theorem words_intercalate {s : Char} (hs : separator s = true) {pieces : List (List Char)}
    (h : ∀ piece ∈ pieces, IsWord separator piece) :
    words separator ([s].intercalate pieces) = pieces :=
  words_of_spaced (spaced_intercalate hs h)

end

/-! ## Changed characters -/

section

variable {separator : Char → Bool} {f : Char → Char} (hf : ∀ c, separator (f c) = separator c)

include hf

theorem wordsFrom_map (started cs : List Char) :
    wordsFrom separator (started.map f) (cs.map f) =
      (wordsFrom separator started cs).map (List.map f) := by
  have hend (piece : List Char) (pieces : List (List Char)) :
      endPiece (piece.map f) (pieces.map (List.map f)) =
        (endPiece piece pieces).map (List.map f) := by
    cases piece <;> simp [endPiece]
  induction cs generalizing started with
  | nil => exact hend started []
  | cons c cs ih =>
    by_cases hc : separator c = true
    · have hrest := ih []
      rw [List.map_nil] at hrest
      rw [List.map_cons, wordsFrom, wordsFrom, hf, if_pos hc, if_pos hc, hrest, hend]
    · have hrest := ih (c :: started)
      rw [List.map_cons] at hrest
      rw [List.map_cons, wordsFrom, wordsFrom, hf, if_neg hc, if_neg hc, hrest]

theorem words_map (cs : List Char) :
    words separator (cs.map f) = (words separator cs).map (List.map f) :=
  wordsFrom_map hf [] cs

end

/-! ## Trimming -/

theorem dropEnd_map {p : Char → Bool} {f : Char → Char} (hf : ∀ c, p (f c) = p c)
    (cs : List Char) : dropEnd p (cs.map f) = (dropEnd p cs).map f := by
  have hp : p ∘ f = p := funext hf
  rw [dropEnd, ← List.map_reverse, List.dropWhile_map, hp, ← List.map_reverse, dropEnd]

theorem trimBlanks_map {f : Char → Char} (hf : ∀ c, isBlank (f c) = isBlank c) (cs : List Char) :
    trimBlanks (cs.map f) = (trimBlanks cs).map f := by
  have hp : isBlank ∘ f = isBlank := funext hf
  rw [trimBlanks, List.dropWhile_map, hp, dropEnd_map hf, trimBlanks]

theorem dropEnd_append {p : Char → Bool} {back : List Char} (h : IsGap p back) (cs : List Char) :
    dropEnd p (cs ++ back) = dropEnd p cs := by
  have hback : ∀ c ∈ back.reverse, p c = true := fun c hc => h c (List.mem_reverse.1 hc)
  rw [dropEnd, List.reverse_append, List.dropWhile_append_of_pos hback, dropEnd]

/-- What is dropped is one character repeated. -/
theorem dropEnd_append_replicate (c : Char) (cs : List Char) :
    ∃ k, cs = dropEnd (· = c) cs ++ List.replicate k c := by
  have hsame : ∀ d ∈ cs.reverse.takeWhile (· = c), d = c := by
    intro d hd
    have hall : (cs.reverse.takeWhile (· = c)).all (· = c) = true := List.all_takeWhile
    exact of_decide_eq_true (List.all_eq_true.1 hall d hd)
  have hsplit : cs.reverse.takeWhile (· = c) ++ cs.reverse.dropWhile (· = c) = cs.reverse :=
    List.takeWhile_append_dropWhile
  refine ⟨(cs.reverse.takeWhile (· = c)).length, ?_⟩
  have hrow := List.eq_replicate_of_mem hsame
  rw [hrow] at hsplit
  have hback := congrArg List.reverse hsplit
  rw [List.reverse_append, List.reverse_replicate, List.reverse_reverse] at hback
  exact hback.symm

/-- Blanks around a text are trimmed. -/
theorem trimBlanks_append {front back : List Char} (hf : IsGap isBlank front)
    (hb : IsGap isBlank back) (cs : List Char) :
    trimBlanks (front ++ cs ++ back) = trimBlanks cs := by
  rw [trimBlanks, List.append_assoc, List.dropWhile_append_of_pos hf, List.dropWhile_append]
  -- A text of blanks only leaves nothing, and then those behind it count as in front.
  by_cases hempty : (cs.dropWhile isBlank).isEmpty = true
  · have hback : (back ++ []).dropWhile isBlank = [] := List.dropWhile_append_of_pos hb
    rw [List.append_nil] at hback
    rw [if_pos hempty, hback, trimBlanks, List.isEmpty_iff.1 hempty]
  · rw [if_neg hempty, dropEnd_append hb, trimBlanks]

theorem trimBlanks_of_forall {cs : List Char} (h : ∀ c ∈ cs, isBlank c = false) :
    trimBlanks cs = cs := by
  have hdrop : ∀ ds : List Char, (∀ c ∈ ds, isBlank c = false) → ds.dropWhile isBlank = ds := by
    intro ds hds
    cases ds with
    | nil => rfl
    | cons d ds => exact List.dropWhile_cons_of_neg (by simp [hds d List.mem_cons_self])
  have hback := hdrop cs.reverse fun c hc => h c (List.mem_reverse.1 hc)
  rw [trimBlanks, hdrop cs h, dropEnd, hback, List.reverse_reverse]

end StyledMap.Text
