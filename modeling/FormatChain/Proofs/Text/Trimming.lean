import FormatChain.Text.Characters
import Mathlib.Data.List.Basic
import Mathlib.Data.List.TakeWhile

/-!
# White space at the ends of a text

Characters without the white space at their ends are the one part of them that has white space
around it only, and none at its own ends.

* `Text.exists_around_trimmed` : the characters are this part with white space around it.
* `Text.dropBlankEnd_around` : there is no other such part.
-/

namespace FormatChain.Text

variable {c : Char} {chars left core right : List Char}

theorem mem_of_mem_dropBlankEnd (h : c ∈ dropBlankEnd chars) : c ∈ chars := by
  rw [dropBlankEnd, List.mem_reverse] at h
  exact List.mem_reverse.1 ((List.dropWhile_sublist _).mem h)

theorem head?_dropWhile_isBlank (h : (chars.dropWhile isBlank).head? = some c) :
    isBlank c = false := by
  have hnot := List.head?_dropWhile_not isBlank chars
  rw [h] at hnot
  exact hnot

theorem dropWhile_isBlank_of_head? (h : ∀ c, chars.head? = some c → isBlank c = false) :
    chars.dropWhile isBlank = chars := by
  cases chars with
  | nil => rfl
  | cons c rest =>
    have hc : ¬ isBlank c = true := by
      rw [h c rfl]
      exact Bool.false_ne_true
    exact List.dropWhile_cons_of_neg hc

/-- Characters that are all white space, except for the last one, are none at all. -/
theorem eq_nil_of_dropWhile_isBlank (hlast : ∀ c, chars.getLast? = some c → isBlank c = false)
    (h : chars.dropWhile isBlank = []) : chars = [] := by
  by_contra hne
  have hblank := List.dropWhile_eq_nil_iff.1 h _ (List.getLast_mem hne)
  have hfull := hlast _ (List.getLast?_eq_some_getLast hne)
  exact Bool.false_ne_true (hfull.symm.trans hblank)

/-- The last character of the second part is that of the whole. -/
theorem isBlank_getLast?_of_append
    (h : ∀ c, (left ++ right).getLast? = some c → isBlank c = false) :
    ∀ c, right.getLast? = some c → isBlank c = false := by
  intro c hc
  apply h c
  rw [List.getLast?_append, hc]
  rfl

theorem dropBlankEnd_append (hright : ∀ c ∈ right, isBlank c = true)
    (hcore : ∀ c, core.getLast? = some c → isBlank c = false) :
    dropBlankEnd (core ++ right) = core := by
  have hreverse : ∀ c, core.reverse.head? = some c → isBlank c = false := by
    intro c hc
    rw [List.head?_reverse] at hc
    exact hcore c hc
  rw [dropBlankEnd, List.reverse_append,
    List.dropWhile_append_of_pos fun c hc => hright c (List.mem_reverse.1 hc),
    dropWhile_isBlank_of_head? hreverse, List.reverse_reverse]

/-- What falls away at the ends is white space. -/
theorem exists_around_trimmed (chars : List Char) :
    ∃ left right, (∀ c ∈ left, isBlank c = true) ∧ (∀ c ∈ right, isBlank c = true) ∧
      chars = left ++ dropBlankEnd (chars.dropWhile isBlank) ++ right := by
  let rest := chars.dropWhile isBlank
  refine ⟨chars.takeWhile isBlank, (rest.reverse.takeWhile isBlank).reverse, ?_, ?_, ?_⟩
  · exact fun c hc => List.mem_takeWhile_imp hc
  · exact fun c hc => List.mem_takeWhile_imp (List.mem_reverse.1 hc)
  · have hrest : rest = dropBlankEnd rest ++ (rest.reverse.takeWhile isBlank).reverse := by
      rw [dropBlankEnd, ← List.reverse_append, List.takeWhile_append_dropWhile,
        List.reverse_reverse]
    calc chars = chars.takeWhile isBlank ++ rest := List.takeWhile_append_dropWhile.symm
      _ = chars.takeWhile isBlank ++
          (dropBlankEnd rest ++ (rest.reverse.takeWhile isBlank).reverse) := by rw [← hrest]
      _ = chars.takeWhile isBlank ++ dropBlankEnd rest ++
          (rest.reverse.takeWhile isBlank).reverse := (List.append_assoc _ _ _).symm

/-- White space around characters falls away, and nothing else if they have none at their ends. -/
theorem dropBlankEnd_around (hleft : ∀ c ∈ left, isBlank c = true)
    (hright : ∀ c ∈ right, isBlank c = true)
    (hhead : ∀ c, core.head? = some c → isBlank c = false)
    (hlast : ∀ c, core.getLast? = some c → isBlank c = false) :
    dropBlankEnd ((left ++ core ++ right).dropWhile isBlank) = core := by
  rw [List.append_assoc, List.dropWhile_append_of_pos hleft]
  by_cases hempty : core = []
  · rw [hempty, List.nil_append, List.dropWhile_eq_nil_iff.2 hright]
    rfl
  · have hkept : (core ++ right).dropWhile isBlank = core ++ right := by
      apply dropWhile_isBlank_of_head?
      intro c hc
      rw [List.head?_append_of_ne_nil _ hempty] at hc
      exact hhead c hc
    rw [hkept, dropBlankEnd_append hright hlast]

end FormatChain.Text
