/-!
# Records of languages

* `Record` : languages in the order in which they were recorded, none twice.
* `Record.insert`, `Record.erase` : recording a language, and dropping it.
-/

namespace FormatChain.Conflict

/-- Languages in order, none twice. -/
structure Record where
  /-- The languages. -/
  languages : List String
  /-- None stands twice. -/
  nodup : languages.Nodup
  deriving Repr, DecidableEq

namespace Record

/-- The record without languages. -/
def empty : Record := ⟨[], List.nodup_nil⟩

instance : Inhabited Record := ⟨empty⟩

/-- Whether a language is recorded. -/
def contains (r : Record) (language : String) : Bool := r.languages.contains language

/-- Records a language, after those that are recorded. -/
def insert (r : Record) (language : String) : Record :=
  if h : language ∈ r.languages then r
  else
    ⟨r.languages ++ [language], List.nodup_append.2
      ⟨r.nodup, List.nodup_cons.2 ⟨List.not_mem_nil, List.nodup_nil⟩, fun a ha b hb => by
        rw [List.mem_singleton] at hb
        exact fun hab => h (hb ▸ hab ▸ ha)⟩⟩

/-- Drops a language. -/
def erase (r : Record) (language : String) : Record :=
  ⟨r.languages.filter (· != language), r.nodup.filter _⟩

/-- After recording a language it is recorded, and so are those that were before. -/
theorem mem_insert {r : Record} {language other : String} :
    other ∈ (r.insert language).languages ↔ other ∈ r.languages ∨ other = language := by
  unfold insert
  split
  · constructor
    · exact Or.inl
    · rintro (h | rfl)
      · exact h
      · assumption
  · simp

/-- After dropping a language the others are recorded. -/
theorem mem_erase {r : Record} {language other : String} :
    other ∈ (r.erase language).languages ↔ other ∈ r.languages ∧ other ≠ language := by
  simp [erase]

end Record

end FormatChain.Conflict
