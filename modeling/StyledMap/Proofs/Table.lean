import StyledMap.Table

/-! # Entries of tables

* `IsSorted`: the entries are in the order of their keys, each key once.
* `mem_insert` and `mem_extend`: where the entries of a larger table come from.
* `get?_extend`: what is found after entries were added; the last entry of a key counts.
* `IsSorted.extend` and `isSorted_ofList`: tables that are made by insertion are sorted.
* `IsSorted.eq_of_get?`: sorted tables in which the same is found are equal.
* `without_extend`: entries that are added under dropped names leave no trace.
* `revised` and `IsSorted.get?_revised`: entries that are dropped or changed by their keys.
-/

set_option autoImplicit false

namespace StyledMap.Table

variable {β γ : Type}

/-- The entries are in the order of their keys, each key once. -/
def IsSorted (table : Table β) : Prop :=
  table.keys.Pairwise (· < ·)

instance (table : Table β) : Decidable table.IsSorted :=
  inferInstanceAs (Decidable (table.keys.Pairwise (· < ·)))

theorem keys_cons (k : String) (v : β) (rest : Table β) :
    keys ((k, v) :: rest) = k :: keys rest := rfl

theorem mem_insert {table : Table β} {key : String} {value : β} {entry : String × β}
    (h : entry ∈ table.insert key value) : entry = (key, value) ∨ entry ∈ table := by
  induction table with
  | nil => exact .inl (List.mem_singleton.1 h)
  | cons first rest ih =>
    obtain ⟨k, v⟩ := first
    unfold insert at h
    split at h
    · rcases List.mem_cons.1 h with h | h
      · exact .inl h
      · exact .inr (List.mem_cons_of_mem _ h)
    · split at h
      · rcases List.mem_cons.1 h with h | h
        · exact .inl h
        · exact .inr h
      · rcases List.mem_cons.1 h with rfl | h
        · exact .inr List.mem_cons_self
        · exact (ih h).imp_right (List.mem_cons_of_mem _)

theorem extend_cons (table : Table β) (entry : String × β) (entries : List (String × β)) :
    table.extend (entry :: entries) = (table.insert entry.1 entry.2).extend entries := rfl

theorem mem_extend {table : Table β} {entries : List (String × β)} {entry : String × β}
    (h : entry ∈ table.extend entries) : entry ∈ entries ∨ entry ∈ table := by
  induction entries generalizing table with
  | nil => exact .inr h
  | cons first rest ih =>
    rw [extend_cons] at h
    rcases ih h with h | h
    · exact .inl (List.mem_cons_of_mem _ h)
    · rcases mem_insert h with rfl | h
      · exact .inl List.mem_cons_self
      · exact .inr h

/-- Of several entries of a key the last one counts, and entries come before the table. -/
theorem get?_extend (table : Table β) (entries : List (String × β)) (key : String) :
    (table.extend entries).get? key = (entries.reverse.lookup key).or (table.get? key) := by
  induction entries generalizing table with
  | nil => rfl
  | cons entry entries ih =>
    rw [extend_cons, ih, get?_insert, List.reverse_cons, List.lookup_append]
    by_cases h : key = entry.1
    · rw [if_pos h, Option.or_assoc, List.lookup_cons, beq_iff_eq.2 h]
      rfl
    · rw [if_neg h, Option.or_assoc, List.lookup_cons, beq_eq_false_iff_ne.2 h]
      rfl

theorem lookup_eq_some {entries : List (String × β)} {key : String} {value : β}
    (h : ∀ entry ∈ entries, entry.1 = key → entry.2 = value) (hm : key ∈ entries.map Prod.fst) :
    entries.lookup key = some value := by
  induction entries with
  | nil => simp at hm
  | cons entry entries ih =>
    obtain ⟨hv, hvs⟩ := List.forall_mem_cons.1 h
    rw [List.lookup_cons]
    cases hk : key == entry.1 with
    | true => exact congrArg some (hv (beq_iff_eq.1 hk).symm)
    | false =>
      refine ih hvs ?_
      rw [List.map_cons, List.mem_cons] at hm
      exact hm.resolve_left (beq_eq_false_iff_ne.1 hk)

theorem mem_of_get? {table : Table β} {key : String} {value : β}
    (h : table.get? key = some value) : (key, value) ∈ table := by
  induction table with
  | nil => simp [get?_nil] at h
  | cons entry rest ih =>
    obtain ⟨k, v⟩ := entry
    rw [get?_cons] at h
    split at h
    · next hk =>
      rw [hk, Option.some.inj h]
      exact List.mem_cons_self
    · exact List.mem_cons_of_mem _ (ih h)

theorem mem_keys_of_get? {table : Table β} {key : String} {value : β}
    (h : table.get? key = some value) : key ∈ table.keys :=
  List.mem_map_of_mem (mem_of_get? h)

theorem mem_keys_without {table : Table β} {names : List String} {key : String}
    (h : key ∈ (table.without names).keys) : key ∉ names := by
  obtain ⟨entry, he, rfl⟩ := List.mem_map.1 h
  simpa using (List.mem_filter.1 he).2

/-- A value that every added entry of a key has is found under it. -/
theorem get?_extend_of_forall {table : Table β} {entries : List (String × β)} {key : String}
    {value : β} (h : ∀ entry ∈ entries, entry.1 = key → entry.2 = value)
    (hm : key ∈ entries.map Prod.fst) : (table.extend entries).get? key = some value := by
  have hl : entries.reverse.lookup key = some value := by
    refine lookup_eq_some (fun entry he => h entry (List.mem_reverse.1 he)) ?_
    rw [List.map_reverse, List.mem_reverse]
    exact hm
  rw [get?_extend, hl]
  rfl

theorem get?_eq_none_iff {table : Table β} {key : String} :
    table.get? key = none ↔ key ∉ table.keys := by
  induction table with
  | nil => simp [get?_nil, keys]
  | cons entry rest ih =>
    obtain ⟨k, v⟩ := entry
    rw [get?_cons, keys_cons, List.mem_cons, not_or]
    by_cases h : key = k
    · simp [h]
    · simp [h, ih]

theorem mem_keys_iff {table : Table β} {key : String} :
    key ∈ table.keys ↔ (table.get? key).isSome = true := by
  cases h : table.get? key with
  | none => simpa using get?_eq_none_iff.1 h
  | some value => simpa using mem_keys_of_get? h

theorem exists_get?_of_mem_keys {table : Table β} {key : String} (h : key ∈ table.keys) :
    ∃ value, table.get? key = some value :=
  Option.isSome_iff_exists.1 (mem_keys_iff.1 h)

/-- Where a key has one value only, it does not matter from which end it is looked for. -/
theorem lookup_reverse_of_forall {table : Table β} {key : String}
    (h : ∀ entry ∈ table, ∀ other ∈ table, entry.1 = key → other.1 = key → entry.2 = other.2) :
    table.reverse.lookup key = table.get? key := by
  by_cases hm : key ∈ table.keys
  · obtain ⟨other, ho, hk⟩ := List.mem_map.1 hm
    have hall : ∀ entry ∈ table, entry.1 = key → entry.2 = other.2 :=
      fun entry he hek => h entry he other ho hek hk
    have hrev : table.reverse.lookup key = some other.2 := by
      refine lookup_eq_some (fun entry he => hall entry (List.mem_reverse.1 he)) ?_
      rwa [List.map_reverse, List.mem_reverse]
    rw [hrev, get?, lookup_eq_some hall hm]
  · rw [get?_eq_none_iff.2 hm, List.lookup_eq_none_iff]
    intro entry he
    refine bne_iff_ne.2 fun heq => hm ?_
    rw [heq]
    exact List.mem_map_of_mem (List.mem_reverse.1 he)

/-! ## Sorted tables -/

theorem IsSorted.insert {table : Table β} (h : table.IsSorted) (key : String) (value : β) :
    (table.insert key value).IsSorted := by
  induction table with
  | nil => exact List.pairwise_singleton _ _
  | cons entry rest ih =>
    obtain ⟨k, v⟩ := entry
    obtain ⟨hk, hrest⟩ := List.pairwise_cons.1 h
    unfold Table.insert
    split
    · next heq =>
      subst heq
      exact h
    · next hne =>
      split
      · next hlt =>
        refine List.pairwise_cons.2 ⟨fun j hj => ?_, h⟩
        rcases List.mem_cons.1 hj with rfl | hj
        · exact hlt
        · exact String.lt_trans hlt (hk j hj)
      · next hge =>
        refine List.pairwise_cons.2 ⟨fun j hj => ?_, ih hrest⟩
        obtain ⟨entry, he, rfl⟩ := List.mem_map.1 hj
        rcases mem_insert he with rfl | he
        · exact Std.lt_of_le_of_ne (String.not_lt.1 hge) (Ne.symm hne)
        · exact hk _ (List.mem_map_of_mem he)

theorem IsSorted.extend {table : Table β} (h : table.IsSorted) (entries : List (String × β)) :
    (table.extend entries).IsSorted := by
  induction entries generalizing table with
  | nil => exact h
  | cons entry entries ih => exact ih (h.insert entry.1 entry.2)

theorem isSorted_ofList (entries : List (String × β)) : IsSorted (ofList entries) := by
  have hnil : IsSorted ([] : Table β) := List.Pairwise.nil
  exact hnil.extend entries

theorem IsSorted.without {table : Table β} (h : table.IsSorted) (names : List String) :
    (table.without names).IsSorted :=
  h.sublist (List.filter_sublist.map _)

theorem keys_mapValues (f : β → γ) (table : Table β) : (table.mapValues f).keys = table.keys := by
  rw [keys, mapValues, List.map_map]
  rfl

theorem IsSorted.mapValues {table : Table β} (h : table.IsSorted) (f : β → γ) :
    (table.mapValues f).IsSorted := by
  rw [IsSorted, keys_mapValues]
  exact h

theorem IsSorted.get?_head {k : String} {v : β} {rest : Table β}
    (h : IsSorted ((k, v) :: rest)) {key : String} (hlt : key < k) :
    get? ((k, v) :: rest) key = none := by
  refine get?_eq_none_iff.2 fun hm => ?_
  rcases List.mem_cons.1 hm with rfl | hm
  · exact String.lt_irrefl _ hlt
  · exact String.lt_asymm hlt (List.rel_of_pairwise_cons h hm)

theorem IsSorted.get?_tail {k : String} {v : β} {rest : Table β}
    (h : IsSorted ((k, v) :: rest)) : get? rest k = none :=
  get?_eq_none_iff.2 fun hm => String.lt_irrefl k (List.rel_of_pairwise_cons h hm)

/-- A sorted table has a key once, so each of its entries is found. -/
theorem IsSorted.get?_of_mem {table : Table β} (h : table.IsSorted) {entry : String × β}
    (he : entry ∈ table) : table.get? entry.1 = some entry.2 := by
  induction table with
  | nil => simp at he
  | cons first rest ih =>
    obtain ⟨k, v⟩ := first
    rw [get?_cons]
    rcases List.mem_cons.1 he with rfl | hrest
    · rw [if_pos rfl]
    · have hk : entry.1 ≠ k := by
        rintro rfl
        exact get?_eq_none_iff.1 h.get?_tail (List.mem_map_of_mem hrest)
      rw [if_neg hk, ih h.of_cons hrest]

/-- Sorted tables in which the same is found are equal. -/
theorem IsSorted.eq_of_get? {table other : Table β} (ht : table.IsSorted) (ho : other.IsSorted)
    (h : ∀ key, table.get? key = other.get? key) : table = other := by
  induction table generalizing other with
  | nil =>
    cases other with
    | nil => rfl
    | cons entry rest =>
      obtain ⟨k, v⟩ := entry
      simpa [get?_nil, get?_cons] using h k
  | cons entry rest ih =>
    obtain ⟨k, v⟩ := entry
    cases other with
    | nil => simpa [get?_nil, get?_cons] using h k
    | cons entry rest' =>
      obtain ⟨j, w⟩ := entry
      -- A first key that were smaller would not be found in the other table.
      obtain rfl : k = j := by
        rcases Std.lt_trichotomy k j with hlt | heq | hlt
        · simpa [get?_cons, ho.get?_head hlt] using h k
        · exact heq
        · simpa [get?_cons, ht.get?_head hlt] using h j
      have hv : v = w := by simpa [get?_cons] using h k
      have hrest : rest = rest' := by
        refine ih ht.of_cons ho.of_cons fun key => ?_
        by_cases hk : key = k
        · rw [hk, ht.get?_tail, ho.get?_tail]
        · simpa [get?_cons, hk] using h key
      rw [hv, hrest]

/-- A sorted table has a key once, so it does not matter from which end it is looked for. -/
theorem IsSorted.lookup_reverse {table : Table β} (h : table.IsSorted) (key : String) :
    table.reverse.lookup key = table.get? key := by
  refine lookup_reverse_of_forall fun entry he other ho hentry hother => ?_
  have hget : table.get? key = some entry.2 := hentry ▸ h.get?_of_mem he
  have hget' : table.get? key = some other.2 := hother ▸ h.get?_of_mem ho
  exact Option.some.inj (hget.symm.trans hget')

/-! ## Dropped names -/

theorem without_cons (k : String) (v : β) (rest : Table β) (names : List String) :
    without ((k, v) :: rest) names =
      if k ∈ names then rest.without names else (k, v) :: rest.without names := by
  unfold without
  rw [List.filter_cons]
  by_cases h : k ∈ names <;> simp [h]

theorem get?_without (table : Table β) (names : List String) (key : String) :
    (table.without names).get? key = if key ∈ names then none else table.get? key := by
  induction table with
  | nil => simp [without, get?_nil]
  | cons entry rest ih =>
    obtain ⟨k, v⟩ := entry
    rw [without_cons, get?_cons]
    by_cases hk : k ∈ names
    · by_cases hkey : key = k
      · rw [if_pos hk, ih, hkey, if_pos hk, if_pos hk]
      · rw [if_pos hk, ih, if_neg hkey]
    · rw [if_neg hk, get?_cons, ih]
      by_cases hkey : key = k
      · rw [if_pos hkey, hkey, if_neg hk, if_pos rfl]
      · rw [if_neg hkey, if_neg hkey]

theorem without_insert {key : String} {names : List String} (h : key ∈ names) (table : Table β)
    (value : β) : (table.insert key value).without names = table.without names := by
  induction table with
  | nil =>
    rw [insert, without_cons, if_pos h]
  | cons entry rest ih =>
    obtain ⟨k, v⟩ := entry
    unfold insert
    split
    · next heq => rw [without_cons, without_cons, if_pos h, if_pos (heq ▸ h)]
    · split
      · rw [without_cons, if_pos h]
      · rw [without_cons, without_cons, ih]

/-- Entries that are added under dropped names leave no trace. -/
theorem without_extend {entries : List (String × β)} {names : List String}
    (h : ∀ entry ∈ entries, entry.1 ∈ names) (table : Table β) :
    (table.extend entries).without names = table.without names := by
  induction entries generalizing table with
  | nil => rfl
  | cons entry entries ih =>
    obtain ⟨hname, hnames⟩ := List.forall_mem_cons.1 h
    rw [extend_cons, ih hnames, without_insert hname]

theorem without_eq_self {table : Table β} {names : List String}
    (h : ∀ name ∈ names, name ∉ table.keys) : table.without names = table := by
  refine List.filter_eq_self.2 fun entry he => ?_
  have hn : entry.1 ∉ names := fun hn => h _ hn (List.mem_map_of_mem he)
  simpa using hn

theorem without_eq_nil_iff {table : Table β} {names : List String} :
    table.without names = [] ↔ ∀ key ∈ table.keys, key ∈ names := by
  simp [without, keys, List.filter_eq_nil_iff]

/-! ## Revised entries -/

/-- The entries that a revision keeps, as it leaves them; it knows the key of each. -/
def revised (revise : String → β → Option γ) (table : Table β) : Table γ :=
  table.filterMap fun entry => (revise entry.1 entry.2).map fun value => (entry.1, value)

theorem revised_cons (revise : String → β → Option γ) (k : String) (v : β) (rest : Table β) :
    revised revise ((k, v) :: rest) =
      match revise k v with
      | none => revised revise rest
      | some w => (k, w) :: revised revise rest := by
  unfold revised
  rw [List.filterMap_cons]
  cases revise k v <;> rfl

theorem keys_revised_sublist (revise : String → β → Option γ) (table : Table β) :
    (table.revised revise).keys.Sublist table.keys := by
  induction table with
  | nil => exact .slnil
  | cons entry rest ih =>
    obtain ⟨k, v⟩ := entry
    rw [revised_cons]
    cases revise k v with
    | none => exact ih.cons k
    | some w => exact ih.cons_cons k

theorem IsSorted.revised {table : Table β} (h : table.IsSorted)
    (revise : String → β → Option γ) : (table.revised revise).IsSorted :=
  h.sublist (keys_revised_sublist revise table)

/-- A sorted table has a key once, so what is found under it is revised, or was dropped. -/
theorem IsSorted.get?_revised {table : Table β} (h : table.IsSorted)
    (revise : String → β → Option γ) (key : String) :
    (table.revised revise).get? key = (table.get? key).bind (revise key) := by
  induction table with
  | nil => rfl
  | cons entry rest ih =>
    obtain ⟨k, v⟩ := entry
    rw [revised_cons, get?_cons]
    by_cases hk : key = k
    · subst hk
      rw [if_pos rfl, Option.bind_some]
      cases hrevise : revise key v with
      | none => rw [ih h.of_cons, h.get?_tail, Option.bind_none]
      | some w => rw [get?_cons, if_pos rfl]
    · rw [if_neg hk]
      cases revise k v with
      | none => exact ih h.of_cons
      | some w => rw [get?_cons, if_neg hk, ih h.of_cons]

end StyledMap.Table
