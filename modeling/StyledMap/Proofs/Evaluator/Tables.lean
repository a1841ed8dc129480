import StyledMap.Evaluator
import StyledMap.Proofs.Declaration.Grammar
import StyledMap.Proofs.Table

/-! # Tables of evaluators

The properties of a layer are those that have a default and those that are declared. Each is
compiled from its own declared value and its own default.

* `compile_isOk` and `compile_eq_error`: only the declared value decides whether a property compiles.
* `compileAll_eq`: a table is compiled name by name.
* `compileAll_isOk` and `exists_of_compileAll_eq_error`: a table compiles when every declared value
  is read, and else has the fault of one of them. Defaults have no say.
* `Synthesizes`: a table has an evaluator for each name, compiled from what stands under this name.
* `Synthesizes.get?_congr`: nothing under another name counts.
-/

set_option autoImplicit false

namespace StyledMap

/-! ## Declared values -/

namespace Declaration

/-- The declared values of a table are all read. -/
def AreRead (declared : Table Json) : Prop :=
  ∀ entry ∈ declared, ∃ d, ofJson entry.1 entry.2 = .ok d

end Declaration

namespace Evaluator

variable {α : Type} [Arith α]

section

variable {name : String} {declared default : Option Json}

theorem compile_isOk : (∃ e : Evaluator α, compile name declared default = .ok e) ↔
    ∀ value ∈ declared, ∃ d, Declaration.ofJson name value = .ok d := by
  cases declared with
  | none => exact iff_of_true ⟨_, rfl⟩ (by simp)
  | some value =>
    constructor
    · rintro ⟨e, h⟩ _ ⟨⟩
      obtain ⟨d, hd, -⟩ := Reading.map_eq_ok.1 h
      exact ⟨d, hd⟩
    · intro h
      obtain ⟨d, hd⟩ := h value rfl
      exact ⟨_, Reading.map_eq_ok.2 ⟨d, hd, rfl⟩⟩

theorem compile_eq_error {fault : Fault} :
    (compile name declared default : Except Fault (Evaluator α)) = .error fault ↔
      ∃ value ∈ declared, Declaration.ofJson name value = .error fault := by
  cases declared with
  | none => simp [compile]
  | some value => simp [compile, Reading.map_eq_error]

end

/-! ## Compiling by names -/

/-- Compiles the property of a name in two tables. -/
def compileNamed (declared defaults : Table Json) (name : String) :
    Except Fault (String × Evaluator α) :=
  (compile name (declared.get? name) (defaults.get? name)).map fun e => (name, e)

/-- The names of two tables, those with a default first. -/
def names (declared defaults : Table Json) : List String :=
  defaults.keys ++ (declared.without defaults.keys).keys

variable {declared defaults : Table Json}

theorem mapM_compileNamed_cons (name : String) (rest : List String) :
    ((name :: rest).mapM (compileNamed declared defaults) :
      Except Fault (List (String × Evaluator α))) =
        match compile name (declared.get? name) (defaults.get? name) with
        | .error fault => .error fault
        | .ok e => (rest.mapM (compileNamed declared defaults)).map ((name, e) :: ·) := by
  rw [List.mapM_cons, compileNamed]
  cases (compile name (declared.get? name) (defaults.get? name) :
      Except Fault (Evaluator α)) with
  | error fault => rfl
  | ok e => cases rest.mapM (compileNamed (α := α) declared defaults) <;> rfl

theorem compileDefaults_eq {entries : Table Json}
    (h : ∀ entry ∈ entries, defaults.get? entry.1 = some entry.2) :
    (compileDefaults declared entries : Except Fault (List (String × Evaluator α))) =
      entries.keys.mapM (compileNamed declared defaults) := by
  induction entries with
  | nil => rfl
  | cons entry rest ih =>
    obtain ⟨name, value⟩ := entry
    obtain ⟨hvalue, hrest⟩ := List.forall_mem_cons.1 h
    rw [Table.keys_cons, mapM_compileNamed_cons, hvalue, ← ih hrest]
    rfl

theorem compileDeclared_eq {entries : Table Json}
    (h : ∀ entry ∈ entries, declared.get? entry.1 = some entry.2 ∧ defaults.get? entry.1 = none) :
    (compileDeclared entries : Except Fault (List (String × Evaluator α))) =
      entries.keys.mapM (compileNamed declared defaults) := by
  induction entries with
  | nil => rfl
  | cons entry rest ih =>
    obtain ⟨name, value⟩ := entry
    obtain ⟨⟨hvalue, hnone⟩, hrest⟩ := List.forall_mem_cons.1 h
    rw [Table.keys_cons, mapM_compileNamed_cons, hvalue, hnone, ← ih hrest]
    rfl

theorem mem_names {name : String} :
    name ∈ names declared defaults ↔ name ∈ defaults.keys ∨ name ∈ declared.keys := by
  rw [names, List.mem_append, @Table.mem_keys_iff _ (declared.without defaults.keys),
    Table.get?_without]
  by_cases h : name ∈ defaults.keys
  · simp [h]
  · rw [if_neg h, ← Table.mem_keys_iff]

theorem compileAll_eq {declared : Option (Table Json)} (hs : Table.IsSorted (declared.getD []))
    (hd : defaults.IsSorted) :
    (compileAll declared defaults : Except Fault (Table (Evaluator α))) =
      ((names (declared.getD []) defaults).mapM
        (compileNamed (declared.getD []) defaults)).map Table.ofList := by
  have hknown : (compileDefaults (declared.getD []) defaults :
      Except Fault (List (String × Evaluator α))) =
        defaults.keys.mapM (compileNamed (declared.getD []) defaults) :=
    compileDefaults_eq fun _ he => hd.get?_of_mem he
  have hothers : (compileDeclared (Table.without (declared.getD []) defaults.keys) :
      Except Fault (List (String × Evaluator α))) =
        (Table.without (declared.getD []) defaults.keys).keys.mapM
          (compileNamed (declared.getD []) defaults) := by
    -- Names with a default were dropped, so what is left is found without one.
    refine compileDeclared_eq fun entry he => ⟨?_, ?_⟩
    · exact hs.get?_of_mem (List.mem_of_mem_filter he)
    · exact Table.get?_eq_none_iff.2 (Table.mem_keys_without (List.mem_map_of_mem he))
  rw [compileAll, hknown, hothers, names, List.mapM_append]
  cases defaults.keys.mapM (compileNamed (α := α) (declared.getD []) defaults) with
  | error fault => rfl
  | ok known =>
    cases (Table.without (declared.getD []) defaults.keys).keys.mapM
        (compileNamed (α := α) (declared.getD []) defaults) <;> rfl

theorem compileNamed_eq_ok {name : String} {entry : String × Evaluator α} :
    compileNamed declared defaults name = .ok entry ↔
      entry.1 = name ∧ compile name (declared.get? name) (defaults.get? name) = .ok entry.2 := by
  rw [compileNamed, Reading.map_eq_ok]
  constructor
  · rintro ⟨e, he, rfl⟩
    exact ⟨rfl, he⟩
  · rintro ⟨rfl, he⟩
    exact ⟨entry.2, he, rfl⟩

theorem compileNamed_eq_error {name : String} {fault : Fault} (hs : declared.IsSorted) :
    (compileNamed declared defaults name : Except Fault (String × Evaluator α)) = .error fault ↔
      ∃ value, (name, value) ∈ declared ∧ Declaration.ofJson name value = .error fault := by
  rw [compileNamed, Reading.map_eq_error, compile_eq_error]
  refine exists_congr fun value => and_congr_left fun _ => ?_
  exact ⟨Table.mem_of_get?, fun h => hs.get?_of_mem h⟩

section

variable {declared : Option (Table Json)} (hs : Table.IsSorted (declared.getD []))
  (hd : defaults.IsSorted)

include hs hd

theorem exists_of_compileAll_eq_error {fault : Fault}
    (h : (compileAll declared defaults : Except Fault (Table (Evaluator α))) = .error fault) :
    ∃ name value cause, (name, value) ∈ declared.getD [] ∧
      Declaration.ofJson name value = .error (.malformedFunction name cause) ∧
      fault = .malformedFunction name cause := by
  rw [compileAll_eq hs hd, Reading.map_eq_error] at h
  obtain ⟨name, -, hname⟩ := Reading.exists_mem_of_mapM_eq_error h
  obtain ⟨value, hmem, hfault⟩ := (compileNamed_eq_error hs).1 hname
  obtain ⟨cause, rfl⟩ := Declaration.exists_cause_of_ofJson hfault
  exact ⟨name, value, cause, hmem, hfault, rfl⟩

theorem compileAll_isOk :
    (∃ table : Table (Evaluator α), compileAll declared defaults = .ok table) ↔
      Declaration.AreRead (declared.getD []) := by
  constructor
  · rintro ⟨table, h⟩ ⟨name, value⟩ hmem
    rw [compileAll_eq hs hd] at h
    obtain ⟨entries, hentries, -⟩ := Reading.map_eq_ok.1 h
    have hname : name ∈ names (declared.getD []) defaults :=
      mem_names.2 (.inr (List.mem_map_of_mem hmem))
    obtain ⟨entry, he⟩ := Reading.mapM_isOk.1 ⟨entries, hentries⟩ name hname
    have hcompile := (compileNamed_eq_ok.1 he).2
    exact compile_isOk.1 ⟨entry.2, hcompile⟩ value (hs.get?_of_mem hmem)
  · intro h
    cases hc : (compileAll declared defaults : Except Fault (Table (Evaluator α))) with
    | ok table => exact ⟨table, rfl⟩
    | error fault =>
      obtain ⟨name, value, cause, hmem, hfault, -⟩ := exists_of_compileAll_eq_error hs hd hc
      obtain ⟨d, hread⟩ := h _ hmem
      rw [hread] at hfault
      simp at hfault

end

/-! ## What a table has -/

theorem isSorted_of_compileAll {declared : Option (Table Json)} {table : Table (Evaluator α)}
    (h : compileAll declared defaults = .ok table) : table.IsSorted := by
  obtain ⟨known, -, h⟩ := Reading.bind_eq_ok.1 h
  obtain ⟨others, -, h⟩ := Reading.bind_eq_ok.1 h
  obtain rfl := Reading.pure_eq_ok.1 h
  exact Table.isSorted_ofList _

/-- A table has an evaluator for each name of two tables and for no other, and each is compiled from
what stands under its name. -/
structure Synthesizes (declared defaults : Table Json) (table : Table (Evaluator α)) : Prop where
  sorted : table.IsSorted
  mem_keys : ∀ name, name ∈ table.keys ↔ name ∈ defaults.keys ∨ name ∈ declared.keys
  compiled : ∀ name e, table.get? name = some e →
    compile name (declared.get? name) (defaults.get? name) = .ok e

theorem synthesizes_ofList {entries : List (String × Evaluator α)}
    (h : (names declared defaults).mapM (compileNamed declared defaults) = .ok entries) :
    Synthesizes declared defaults (Table.ofList entries) := by
  have hall := Reading.mapM_eq_ok.1 h
  have hfst : entries.map Prod.fst = names declared defaults := by
    have hmap := Reading.map_eq_map_of_forall₂ (f := id) (g := Prod.fst) hall
      fun _ _ _ he => (compileNamed_eq_ok.1 he).1.symm
    rw [← hmap, List.map_id]
  have hcompiled : ∀ entry ∈ entries,
      compile entry.1 (declared.get? entry.1) (defaults.get? entry.1) = .ok entry.2 := by
    refine Reading.forall_mem_of_forall₂ hall fun name entry he => ?_
    obtain ⟨rfl, hcompile⟩ := compileNamed_eq_ok.1 he
    exact hcompile
  refine ⟨Table.isSorted_ofList entries, fun name => ?_, fun name e he => ?_⟩
  · rw [← mem_names, ← hfst]
    constructor
    · intro hk
      obtain ⟨entry, he, rfl⟩ := List.mem_map.1 hk
      obtain hm | hm := Table.mem_extend he
      · exact List.mem_map_of_mem hm
      · simp at hm
    · intro hm
      obtain ⟨entry, he, rfl⟩ := List.mem_map.1 hm
      -- Entries of one name were compiled from the same two values, so they are the same.
      have hsame : ∀ other ∈ entries, other.1 = entry.1 → other.2 = entry.2 := by
        intro other ho heq
        have hother := hcompiled other ho
        rw [heq, hcompiled entry he] at hother
        exact (Except.ok.inj hother).symm
      have hget : (Table.ofList entries).get? entry.1 = some entry.2 :=
        Table.get?_extend_of_forall hsame hm
      exact Table.mem_keys_of_get? hget
  · obtain hm | hm := Table.mem_extend (Table.mem_of_get? he)
    · exact hcompiled _ hm
    · simp at hm

theorem synthesizes_of_compileAll {declared : Option (Table Json)} {table : Table (Evaluator α)}
    (hs : Table.IsSorted (declared.getD [])) (hd : defaults.IsSorted)
    (h : compileAll declared defaults = .ok table) :
    Synthesizes (declared.getD []) defaults table := by
  rw [compileAll_eq hs hd] at h
  obtain ⟨entries, hentries, rfl⟩ := Reading.map_eq_ok.1 h
  exact synthesizes_ofList hentries

/-- What two tables have under a name is the same, when the same is declared under it and the same is
its default. -/
theorem Synthesizes.get?_congr {declared' defaults' : Table Json}
    {table table' : Table (Evaluator α)} {name : String} (h : Synthesizes declared defaults table)
    (h' : Synthesizes declared' defaults' table')
    (hdeclared : declared.get? name = declared'.get? name)
    (hdefault : defaults.get? name = defaults'.get? name) : table.get? name = table'.get? name := by
  have hkeys : name ∈ table.keys ↔ name ∈ table'.keys := by
    rw [h.mem_keys, h'.mem_keys, Table.mem_keys_iff, Table.mem_keys_iff, Table.mem_keys_iff,
      Table.mem_keys_iff, hdeclared, hdefault]
  cases hg : table.get? name with
  | none =>
    have hn := Table.get?_eq_none_iff.1 hg
    exact (Table.get?_eq_none_iff.2 fun hm => hn (hkeys.2 hm)).symm
  | some e =>
    obtain ⟨e', he'⟩ := Table.exists_get?_of_mem_keys (hkeys.1 (Table.mem_keys_of_get? hg))
    have he := h.compiled name e hg
    rw [hdeclared, hdefault, h'.compiled name e' he'] at he
    rw [he', Except.ok.inj he]

end Evaluator

end StyledMap
