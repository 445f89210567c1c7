import FormatChain.OrderedMap
import Mathlib.Data.List.Induction

/-!
# What is in an ordered map

Setting and removing names in a map that keeps its order, as far as the order goes, and lists of
names of which only the first occurrences are kept.

* `eraseDups_concat` : a name at the end of a list counts if it has not been met.
* `Entries.get?_append`, `Entries.get?_map_name` : the value of a name in some entries.
* `OrderedMap.set_set`, `OrderedMap.set_get`, `OrderedMap.erase_set` : the laws of maps.
* `OrderedMap.names_set`, `OrderedMap.names_erase` : the names, in order, after each operation.
* `OrderedMap.get?_foldl_set` : what a map holds after several entries were set.
-/

namespace FormatChain

/-! ## Lists without repetitions -/

theorem eraseDups_concat (items : List String) (item : String) :
    (items ++ [item]).eraseDups =
      if item ∈ items then items.eraseDups else items.eraseDups ++ [item] := by
  rw [List.eraseDups_append]
  split
  · next h => simp [List.removeAll, h]
  · next h => simp [List.removeAll, h, List.eraseDups_cons]

theorem eraseDups_filter (keep : String → Bool) (items : List String) :
    (items.filter keep).eraseDups = items.eraseDups.filter keep := by
  induction items using List.reverseRecOn with
  | nil => rfl
  | append_singleton items item ih =>
    rw [List.filter_append, eraseDups_concat]
    cases hkeep : keep item with
    | false =>
      rw [List.filter_cons_of_neg (by simp [hkeep]), List.filter_nil, List.append_nil, ih]
      split
      · rfl
      · simp [hkeep]
    | true =>
      rw [List.filter_cons_of_pos hkeep, List.filter_nil, eraseDups_concat, ih]
      by_cases hmem : item ∈ items
      · simp [hmem, hkeep]
      · simp [hmem, hkeep]

/-- Of items behind others, those count that are not among the others. -/
theorem eraseDups_append_filter (items others : List String) :
    (items ++ others).eraseDups =
      items.eraseDups ++ others.eraseDups.filter (· ∉ items.eraseDups) := by
  rw [List.eraseDups_append, List.removeAll, eraseDups_filter]
  refine congrArg (items.eraseDups ++ ·) (List.filter_congr fun item _ => ?_)
  simp

theorem nodup_eraseDups (items : List String) : items.eraseDups.Nodup := by
  induction items using List.reverseRecOn with
  | nil => exact List.nodup_nil
  | append_singleton items item ih =>
    rw [eraseDups_concat]
    split
    · exact ih
    · next hmem => 
      rw [List.nodup_append]
      refine ⟨ih, List.nodup_cons.2 ⟨List.not_mem_nil, List.nodup_nil⟩, ?_⟩
      rintro a ha b hb rfl
      rw [List.mem_singleton] at hb
      exact hmem (hb ▸ List.mem_eraseDups.1 ha)

variable {α : Type}

/-! ## Lists of entries -/

namespace Entries

theorem get?_append (name : String) (entries others : List (String × α)) :
    get? name (entries ++ others) = (get? name entries).or (get? name others) := by
  induction entries with
  | nil => rfl
  | cons entry rest ih =>
    by_cases h : entry.1 = name
    · simp [get?, h]
    · simp [get?, h, ih]

/-- Renaming all names in a way that leads to no other name at that place is of no consequence. -/
theorem get?_map_name {f : String → String} {name : String}
    (hf : ∀ other, f other = f name → other = name) (entries : List (String × α)) :
    get? (f name) (entries.map fun entry => (f entry.1, entry.2)) = get? name entries := by
  induction entries with
  | nil => rfl
  | cons entry rest ih =>
    by_cases h : entry.1 = name
    · simp [get?, h]
    · have hne : f entry.1 ≠ f name := fun heq => h (hf _ heq)
      simp [get?, h, hne, ih]

theorem mem_of_get? {name : String} {value : α} {entries : List (String × α)}
    (h : get? name entries = some value) : (name, value) ∈ entries := by
  induction entries with
  | nil => simp [get?] at h
  | cons entry rest ih =>
    by_cases hn : entry.1 = name
    · simp only [get?, hn, if_true, Option.some.injEq] at h
      rw [← hn, ← h]
      exact List.mem_cons_self
    · simp only [get?, hn, if_false] at h
      exact List.mem_cons_of_mem _ (ih h)

theorem get?_of_mem {name : String} {value : α} {entries : List (String × α)}
    (hnodup : (names entries).Nodup) (h : (name, value) ∈ entries) :
    get? name entries = some value := by
  induction entries with
  | nil => exact absurd h List.not_mem_nil
  | cons entry rest ih =>
    obtain ⟨hfirst, hrest⟩ := List.nodup_cons.1 hnodup
    rcases List.mem_cons.1 h with rfl | hmem
    · rw [get?, if_pos rfl]
    · have hne : entry.1 ≠ name := fun heq => hfirst (heq ▸ List.mem_map_of_mem hmem)
      rw [get?, if_neg hne, ih hrest hmem]

theorem set_set (name : String) (value value' : α) (entries : List (String × α)) :
    set name value' (set name value entries) = set name value' entries := by
  induction entries with
  | nil => simp [set]
  | cons entry rest ih =>
    by_cases h : entry.1 = name
    · simp [set, h]
    · simp [set, h, ih]

theorem set_get {name : String} {value : α} {entries : List (String × α)}
    (h : get? name entries = some value) : set name value entries = entries := by
  induction entries with
  | nil => simp [get?] at h
  | cons entry rest ih =>
    obtain ⟨other, found⟩ := entry
    by_cases hn : other = name
    · simp only [get?, hn, if_true, Option.some.injEq] at h
      simp [set, hn, h]
    · simp only [get?, hn, if_false] at h
      simp [set, hn, ih h]

theorem erase_set (name : String) (value : α) (entries : List (String × α)) :
    erase name (set name value entries) = erase name entries := by
  induction entries with
  | nil => simp [set, erase]
  | cons entry rest ih =>
    by_cases h : entry.1 = name
    · simp [set, erase, h]
    · simp [set, erase, h, ih]

theorem erase_of_get?_eq_none {name : String} {entries : List (String × α)}
    (h : get? name entries = none) : erase name entries = entries := by
  induction entries with
  | nil => rfl
  | cons entry rest ih =>
    by_cases hn : entry.1 = name
    · simp [get?, hn] at h
    · simp only [get?, hn, if_false] at h
      simp [erase, hn, ih h]

theorem names_erase {name : String} {entries : List (String × α)}
    (h : (names entries).Nodup) :
    names (erase name entries) = (names entries).filter (· != name) := by
  induction entries with
  | nil => rfl
  | cons entry rest ih =>
    obtain ⟨hfirst, hrest⟩ := List.nodup_cons.1 h
    by_cases hn : entry.1 = name
    · have hothers : (names rest).filter (· != name) = names rest := by
        refine List.filter_eq_self.2 fun other hother => ?_
        simpa using fun heq : other = name => hfirst (hn ▸ heq ▸ hother)
      rw [erase, if_pos hn]
      simp only [names, List.map_cons, hn, bne_self_eq_false, Bool.false_eq_true,
        not_false_eq_true, List.filter_cons_of_neg]
      exact hothers.symm
    · rw [erase, if_neg hn]
      simp only [names, List.map_cons] at ih ⊢
      rw [ih hrest, List.filter_cons_of_pos (by simpa using hn)]

theorem mem_set {name : String} {value : α} {entry : String × α} {entries : List (String × α)}
    (h : entry ∈ set name value entries) : entry = (name, value) ∨ entry ∈ entries := by
  induction entries with
  | nil => exact .inl (List.mem_singleton.1 h)
  | cons first rest ih =>
    by_cases hn : first.1 = name
    · rw [set, if_pos hn] at h
      rcases List.mem_cons.1 h with rfl | hmem
      · exact .inl rfl
      · exact .inr (List.mem_cons_of_mem _ hmem)
    · rw [set, if_neg hn] at h
      rcases List.mem_cons.1 h with rfl | hmem
      · exact .inr List.mem_cons_self
      · exact (ih hmem).imp_right (List.mem_cons_of_mem _)

/-- A name keeps its place, or comes to stand at the end. -/
theorem names_set (name : String) (value : α) (entries : List (String × α)) :
    names (set name value entries) =
      if name ∈ names entries then names entries else names entries ++ [name] := by
  induction entries with
  | nil => rfl
  | cons entry rest ih =>
    by_cases hn : entry.1 = name
    · rw [set, if_pos hn, if_pos (hn ▸ List.mem_cons_self)]
      simp [names, hn]
    · have hmem : name ∈ names (entry :: rest) ↔ name ∈ names rest := by
        simp [names, Ne.symm hn]
      have hstep : names (set name value (entry :: rest)) =
          entry.1 :: names (set name value rest) := by
        rw [set, if_neg hn]
        rfl
      rw [hstep, ih]
      by_cases hrest : name ∈ names rest
      · rw [if_pos hrest, if_pos (hmem.2 hrest)]
        rfl
      · rw [if_neg hrest, if_neg fun h => hrest (hmem.1 h)]
        rfl

/-- A new name comes to stand at the end. -/
theorem set_of_not_mem {name : String} {value : α} {entries : List (String × α)}
    (h : name ∉ names entries) : set name value entries = entries ++ [(name, value)] := by
  induction entries with
  | nil => rfl
  | cons entry rest ih =>
    obtain ⟨hfirst, hrest⟩ := not_or.1 fun hor => h (List.mem_cons.2 hor)
    rw [set, if_neg (Ne.symm hfirst), ih hrest, List.cons_append]

end Entries

/-! ## Maps -/

namespace OrderedMap

variable {m : OrderedMap α} {name : String}

/-- The second of two values wins. -/
theorem set_set (m : OrderedMap α) (name : String) (value value' : α) :
    (m.set name value).set name value' = m.set name value' :=
  ext_entries (Entries.set_set name value value' m.entries)

/-- Giving a name the value that it has changes nothing. -/
theorem set_get {value : α} (h : m.get? name = some value) : m.set name value = m :=
  ext_entries (Entries.set_get h)

theorem erase_set (m : OrderedMap α) (name : String) (value : α) :
    (m.set name value).erase name = m.erase name :=
  ext_entries (Entries.erase_set name value m.entries)

theorem erase_of_get?_eq_none (h : m.get? name = none) : m.erase name = m :=
  ext_entries (Entries.erase_of_get?_eq_none h)

theorem names_erase (m : OrderedMap α) (name : String) :
    (m.erase name).names = m.names.filter (· != name) :=
  Entries.names_erase m.nodup

theorem names_set (m : OrderedMap α) (name : String) (value : α) :
    (m.set name value).names = if name ∈ m.names then m.names else m.names ++ [name] :=
  Entries.names_set name value m.entries

theorem mem_entries_iff {value : α} :
    (name, value) ∈ m.entries ↔ m.get? name = some value :=
  ⟨Entries.get?_of_mem m.nodup, Entries.mem_of_get?⟩

theorem mem_names_iff : name ∈ m.names ↔ ∃ value, m.get? name = some value := by
  rw [← Option.isSome_iff_exists, ← not_iff_not, Option.not_isSome_iff_eq_none]
  exact Entries.get?_eq_none_iff.symm

theorem isEmpty_set (m : OrderedMap α) (name : String) (value : α) :
    (m.set name value).isEmpty = false := by
  rw [isEmpty, List.isEmpty_eq_false_iff]
  intro hempty
  have hget := get?_set m name name value
  rw [if_pos rfl, get?, hempty] at hget
  exact absurd hget (by simp [Entries.get?])

/-- Of entries that are set one after the other, in which no name stands twice, every one counts. -/
theorem get?_foldl_set {entries : List (String × α)} (hnodup : (Entries.names entries).Nodup)
    (m : OrderedMap α) (name : String) :
    (entries.foldl (fun m entry => m.set entry.1 entry.2) m).get? name =
      (Entries.get? name entries).or (m.get? name) := by
  induction entries generalizing m with
  | nil => rfl
  | cons entry rest ih =>
    obtain ⟨hfirst, hrest⟩ := List.nodup_cons.1 hnodup
    rw [List.foldl_cons, ih hrest, get?_set]
    by_cases hn : entry.1 = name
    · have hnone : Entries.get? name rest = none := Entries.get?_eq_none_iff.2 (hn ▸ hfirst)
      rw [hnone, if_pos hn, Entries.get?, if_pos hn]
      rfl
    · rw [if_neg hn, Entries.get?, if_neg hn]

end OrderedMap

end FormatChain
