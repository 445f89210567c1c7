/-!
# Maps that keep their order

Names with values, in the order in which the names were first set.  Setting a name that is there
keeps its place, and removing one closes the gap.

* `Entries.get?`, `Entries.set`, `Entries.erase` : the operations on a list of entries.
* `OrderedMap` : a list of entries in which no name stands twice.
* `OrderedMap.get?_set`, `OrderedMap.get?_erase` : what a map holds after each operation.
-/

namespace FormatChain

/-! ## Lists of entries -/

namespace Entries

variable {α : Type}

/-- The value of a name. -/
def get? (name : String) : List (String × α) → Option α
  | [] => none
  | entry :: rest => if entry.1 = name then some entry.2 else get? name rest

/-- Gives a name a value: in its place if it is there, at the end otherwise. -/
def set (name : String) (value : α) : List (String × α) → List (String × α)
  | [] => [(name, value)]
  | entry :: rest =>
    if entry.1 = name then (name, value) :: rest else entry :: set name value rest

/-- Removes a name. -/
def erase (name : String) : List (String × α) → List (String × α)
  | [] => []
  | entry :: rest => if entry.1 = name then rest else entry :: erase name rest

/-- The names, in order. -/
def names (entries : List (String × α)) : List String :=
  entries.map Prod.fst

theorem mem_names_set {name other : String} {value : α} {entries : List (String × α)} :
    other ∈ names (set name value entries) ↔ other = name ∨ other ∈ names entries := by
  induction entries with
  | nil => simp [set, names]
  | cons entry rest ih =>
    by_cases h : entry.1 = name
    · simp only [set, h, if_true, names, List.map_cons, List.mem_cons]
      constructor
      · rintro (rfl | h') <;> simp_all
      · rintro (rfl | rfl | h') <;> simp_all
    · simp only [set, h, if_false, names, List.map_cons, List.mem_cons]
      have := ih
      simp only [names] at this
      rw [this]
      constructor
      · rintro (rfl | rfl | h') <;> simp_all
      · rintro (rfl | rfl | h') <;> simp_all

theorem nodup_set {name : String} {value : α} {entries : List (String × α)}
    (h : (names entries).Nodup) : (names (set name value entries)).Nodup := by
  induction entries with
  | nil => simp [set, names]
  | cons entry rest ih =>
    simp only [names, List.map_cons, List.nodup_cons] at h
    by_cases hn : entry.1 = name
    · simp only [set, hn, if_true, names, List.map_cons, List.nodup_cons]
      exact ⟨hn ▸ h.1, h.2⟩
    · simp only [set, hn, if_false, names, List.map_cons, List.nodup_cons]
      refine ⟨fun hm => ?_, ih h.2⟩
      rcases mem_names_set.1 hm with h' | h'
      · exact hn h'
      · exact h.1 h'

theorem mem_of_mem_names_erase {name other : String} {entries : List (String × α)}
    (h : other ∈ names (erase name entries)) : other ∈ names entries := by
  induction entries with
  | nil => simp [erase, names] at h
  | cons entry rest ih =>
    by_cases hn : entry.1 = name
    · simp only [erase, hn, if_true] at h
      exact List.mem_cons_of_mem _ h
    · simp only [erase, hn, if_false, names, List.map_cons, List.mem_cons] at h
      rcases h with rfl | h
      · simp [names]
      · exact List.mem_cons_of_mem _ (ih h)

theorem nodup_erase {name : String} {entries : List (String × α)}
    (h : (names entries).Nodup) : (names (erase name entries)).Nodup := by
  induction entries with
  | nil => simp [erase, names]
  | cons entry rest ih =>
    simp only [names, List.map_cons, List.nodup_cons] at h
    by_cases hn : entry.1 = name
    · simp only [erase, hn, if_true]
      exact h.2
    · simp only [erase, hn, if_false, names, List.map_cons, List.nodup_cons]
      exact ⟨fun hm => h.1 (mem_of_mem_names_erase hm), ih h.2⟩

theorem get?_set (name other : String) (value : α) (entries : List (String × α)) :
    get? other (set name value entries) = if name = other then some value else get? other entries := by
  induction entries with
  | nil => simp [set, get?]
  | cons entry rest ih =>
    by_cases hn : entry.1 = name
    · by_cases ho : name = other <;> simp [set, get?, hn, ho]
    · simp only [set, hn, if_false, get?, ih]
      by_cases ho : name = other
      · have : entry.1 ≠ other := fun h => hn (h.trans ho.symm)
        simp [ho, this]
      · simp [ho]

theorem get?_eq_none_iff {name : String} {entries : List (String × α)} :
    get? name entries = none ↔ name ∉ names entries := by
  induction entries with
  | nil => simp [get?, names]
  | cons entry rest ih =>
    by_cases hn : entry.1 = name
    · simp [get?, names, hn]
    · have : ¬ name = entry.1 := fun h => hn h.symm
      simp only [get?, hn, if_false, ih, names, List.map_cons, List.mem_cons, this, false_or]

theorem get?_erase (name other : String) {entries : List (String × α)}
    (h : (names entries).Nodup) :
    get? other (erase name entries) = if name = other then none else get? other entries := by
  induction entries with
  | nil => simp [erase, get?]
  | cons entry rest ih =>
    simp only [names, List.map_cons, List.nodup_cons] at h
    by_cases hn : entry.1 = name
    · by_cases ho : name = other
      · have : get? other rest = none := get?_eq_none_iff.2 (by rw [← ho, ← hn]; exact h.1)
        simp [erase, hn, ho, this]
      · simp [erase, get?, hn, ho]
    · simp only [erase, hn, if_false, get?, ih h.2]
      by_cases ho : name = other
      · have : entry.1 ≠ other := fun h' => hn (h'.trans ho.symm)
        simp [ho, this]
      · simp [ho]

end Entries

/-! ## Maps -/

/-- Names with values in order, no name twice. -/
structure OrderedMap (α : Type) where
  /-- The entries, in order. -/
  entries : List (String × α)
  /-- No name stands twice. -/
  nodup : (Entries.names entries).Nodup

namespace OrderedMap

variable {α : Type}

/-- The map without entries. -/
def empty : OrderedMap α := ⟨[], List.nodup_nil⟩

instance : Inhabited (OrderedMap α) := ⟨empty⟩

instance [Repr α] : Repr (OrderedMap α) := ⟨fun m n => reprPrec m.entries n⟩

/-- The value of a name. -/
def get? (m : OrderedMap α) (name : String) : Option α :=
  Entries.get? name m.entries

/-- Gives a name a value. -/
def set (m : OrderedMap α) (name : String) (value : α) : OrderedMap α :=
  ⟨Entries.set name value m.entries, Entries.nodup_set m.nodup⟩

/-- Removes a name. -/
def erase (m : OrderedMap α) (name : String) : OrderedMap α :=
  ⟨Entries.erase name m.entries, Entries.nodup_erase m.nodup⟩

/-- The names, in order. -/
def names (m : OrderedMap α) : List String :=
  Entries.names m.entries

/-- The map that arises by setting the entries one after the other. -/
def ofEntries (entries : List (String × α)) : OrderedMap α :=
  entries.foldl (fun m entry => m.set entry.1 entry.2) empty

/-- Whether there are no entries. -/
def isEmpty (m : OrderedMap α) : Bool :=
  m.entries.isEmpty

theorem ext_entries {m n : OrderedMap α} (h : m.entries = n.entries) : m = n := by
  cases m; cases n; cases h; rfl

@[simp]
theorem get?_empty (name : String) : (empty : OrderedMap α).get? name = none := rfl

/-- After setting a name it has the value, and no other name has changed. -/
theorem get?_set (m : OrderedMap α) (name other : String) (value : α) :
    (m.set name value).get? other = if name = other then some value else m.get? other :=
  Entries.get?_set name other value m.entries

/-- After removing a name it has no value, and no other name has changed. -/
theorem get?_erase (m : OrderedMap α) (name other : String) :
    (m.erase name).get? other = if name = other then none else m.get? other :=
  Entries.get?_erase name other m.nodup

end OrderedMap

end FormatChain
