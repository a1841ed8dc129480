/-! # Tables keyed by strings

* `Table β` lists its entries in the order of their keys, each key once.
* `get?` looks a key up; `insert` adds or replaces an entry and keeps the order.
* `ofList` inserts entries from the front, so the last entry of a key stays.
* `get?_insert` and `get?_mapValues` say what an insertion and a map do to what is found.

Strings are ordered by code point, which is the order of their UTF-8 bytes.
-/

set_option autoImplicit false

namespace StyledMap

/-- Entries in the order of their keys. -/
abbrev Table (β : Type) := List (String × β)

namespace Table

variable {β γ : Type}

def get? (table : Table β) (key : String) : Option β :=
  table.lookup key

def contains (table : Table β) (key : String) : Bool :=
  (table.get? key).isSome

/-- The keys in order. -/
def keys (table : Table β) : List String :=
  table.map Prod.fst

/-- Gives a key a value, in place of any it has. -/
def insert (key : String) (value : β) : Table β → Table β
  | [] => [(key, value)]
  | (k, v) :: rest =>
    if key = k then (key, value) :: rest
    else if key < k then (key, value) :: (k, v) :: rest
    else (k, v) :: insert key value rest

/-- The table of a list of entries; the last entry of a key stays. -/
def ofList (entries : List (String × β)) : Table β :=
  entries.foldl (fun table entry => insert entry.1 entry.2 table) []

/-- Adds entries in front-to-back order, in place of those with the same keys. -/
def extend (table : Table β) (entries : List (String × β)) : Table β :=
  entries.foldl (fun table entry => insert entry.1 entry.2 table) table

/-- The entries whose keys are not in a list. -/
def without (table : Table β) (names : List String) : Table β :=
  table.filter fun entry => !names.contains entry.1

def mapValues (f : β → γ) (table : Table β) : Table γ :=
  table.map fun entry => (entry.1, f entry.2)

/-! ## What is found -/

theorem get?_nil (key : String) : get? ([] : Table β) key = none := rfl

theorem get?_cons (key k : String) (v : β) (rest : Table β) :
    get? ((k, v) :: rest) key = if key = k then some v else get? rest key := by
  unfold get?
  by_cases h : key = k
  · simp [h]
  · have hb : (key == k) = false := by simp [h]
    simp [List.lookup_cons, hb, h]

/-- An inserted value is found under its key, and every other key keeps what it had. -/
theorem get?_insert (table : Table β) (key k : String) (value : β) :
    (table.insert key value).get? k = if k = key then some value else table.get? k := by
  induction table with
  | nil => simp [insert, get?_cons, get?_nil]
  | cons entry rest ih =>
    obtain ⟨j, v⟩ := entry
    unfold insert
    split
    · next h => subst h; by_cases hk : k = key <;> simp [get?_cons, hk]
    · split
      · simp [get?_cons]
      · next h _ =>
        rw [get?_cons, get?_cons, ih]
        by_cases hk : k = key
        · subst hk; simp [h]
        · simp [hk]

/-- Mapped values are found under the same keys. -/
theorem get?_mapValues (f : β → γ) (table : Table β) (key : String) :
    (table.mapValues f).get? key = (table.get? key).map f := by
  induction table with
  | nil => rfl
  | cons entry rest ih =>
    obtain ⟨k, v⟩ := entry
    show get? ((k, f v) :: mapValues f rest) key = _
    rw [get?_cons, get?_cons, ih]
    split <;> rfl

end Table

end StyledMap
