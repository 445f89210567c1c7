import FormatChain.Text.Lowercase

/-!
# Small letters

The lower-case form of a text consists of small characters, that is, of those which lower-casing
leaves as they are.  Folding the case of ASCII letters alone leads to the lower-case form as well if
a text has no other capitals, and only then.

* `CaseRun.HasCapital`, `CaseRun.avoids` : the capitals of a run, and that the small letters of
  another one are not among them.
* `IsSmall`, `isSmall_lowerChar` : the characters that are their own small letters, and that small
  letters are such ones.
* `isSmall_of_mem_lowerAfter` : a lower-case form has no other characters.
* `HasAsciiCapitals`, `lowerAfter_eq_map_asciiLower` : texts of which only ASCII letters change.
* `equalsIgnoringAsciiCase_toLowercase_iff` : which texts differ from a lower-case form at most in
  the case of ASCII letters.
-/

namespace FormatChain.Text

/-! ## Runs of capitals -/

namespace CaseRun

/-- The character of a number is a capital of the run. -/
def HasCapital (run : CaseRun) (n : Nat) : Prop :=
  run.first ≤ n ∧ n ≤ run.last ∧ (n - run.first) % run.step = 0

instance (run : CaseRun) (n : Nat) : Decidable (run.HasCapital n) :=
  inferInstanceAs (Decidable (_ ∧ _ ∧ _))

/-- The number of the first small letter. -/
def firstSmall (run : CaseRun) : Nat := Int.toNat (run.first + run.distance)

/-- The number of the last small letter. -/
def lastSmall (run : CaseRun) : Nat := Int.toNat (run.last + run.distance)

/-- The numbers of the small letters belong to characters. -/
def isValid (run : CaseRun) : Bool :=
  decide (0 ≤ run.first + run.distance) &&
    (run.lastSmall.blt 0xd800 || Nat.blt 0xdfff run.firstSmall && run.lastSmall.blt 0x110000)

/-- The small letters of a run are no capitals of another one: they lie before, behind or between
them. -/
def avoids (run other : CaseRun) : Bool :=
  run.lastSmall.blt other.first || other.last.blt run.firstSmall ||
    other.step == 2 && (run.step == 2 || run.first == run.last) &&
      (run.firstSmall + other.first) % 2 == 1

variable {run other : CaseRun} {n : Nat}

theorem not_hasCapital_of_avoids (hvalid : run.isValid = true) (h : run.avoids other = true)
    (hn : run.HasCapital n) : ¬ other.HasCapital (Int.toNat (n + run.distance)) := by
  rw [isValid, Bool.and_eq_true, decide_eq_true_iff] at hvalid
  have hpos := hvalid.1
  simp only [avoids, Bool.or_eq_true, Bool.and_eq_true, Nat.blt_eq, beq_iff_eq, firstSmall,
    lastSmall, or_assoc, and_assoc] at h
  obtain ⟨hfirst, hlast, hstep⟩ := hn
  rintro ⟨hfirst', hlast', hstep'⟩
  rcases h with hbefore | hbehind | ⟨hother, hrun, hodd⟩
  · omega
  · omega
  · rw [hother] at hstep'
    rcases hrun with hrun | hsingle
    · rw [hrun] at hstep
      omega
    · omega

theorem toNat_smallLetter (h : run.isValid = true) (hn : run.HasCapital n) :
    (Char.ofNat (Int.toNat (n + run.distance))).toNat = Int.toNat (n + run.distance) := by
  have hvalid : (Int.toNat (n + run.distance)).isValidChar := by
    simp only [isValid, Bool.and_eq_true, Bool.or_eq_true, Nat.blt_eq, decide_eq_true_iff,
      firstSmall, lastSmall] at h
    obtain ⟨hfirst, hlast, -⟩ := hn
    rw [Nat.isValidChar]
    omega
  rw [Char.ofNat, dif_pos hvalid]
  rfl

end CaseRun

/-- The capital I with a dot above, whose lower-case form has two characters. -/
def dottedCapital : CaseRun := ⟨0x130, 0x130, 1, 0⟩

/-- No small letter of the table is a capital. -/
theorem caseRuns_avoid : (caseRuns.all fun run =>
    run.isValid && (dottedCapital :: caseRuns).all run.avoids) = true := by
  decide +kernel

/-! ## Small characters -/

/-- The character is its own lower-case form wherever it stands. -/
def IsSmall (c : Char) : Prop :=
  ∀ run ∈ dottedCapital :: caseRuns, ¬ run.HasCapital c.toNat

instance (c : Char) : Decidable (IsSmall c) :=
  inferInstanceAs (Decidable (∀ run ∈ dottedCapital :: caseRuns, ¬ run.HasCapital c.toNat))

theorem find?_covering_eq_none_iff {c : Char} :
    (caseRuns.find? fun run => run.first ≤ c.toNat && c.toNat ≤ run.last &&
        (c.toNat - run.first) % run.step == 0) = none ↔
      ∀ run ∈ caseRuns, ¬ run.HasCapital c.toNat := by
  simp [CaseRun.HasCapital]

theorem lowerChar_of_small {c : Char} (h : IsSmall c) : lowerChar c = c := by
  have hnone := find?_covering_eq_none_iff.2 fun run hrun => h run (List.mem_cons_of_mem _ hrun)
  simp only [lowerChar, hnone]

/-- The two characters that are lowered in a way of their own are not small. -/
theorem ne_of_small {c : Char} (h : IsSmall c) : c ≠ 'Σ' ∧ c ≠ 'İ' := by
  have hcapitals : ¬ IsSmall 'Σ' ∧ ¬ IsSmall 'İ' := by decide +kernel
  refine ⟨?_, ?_⟩
  · rintro rfl
    exact hcapitals.1 h
  · rintro rfl
    exact hcapitals.2 h

/-- **The small letter of a character is small.** -/
theorem isSmall_lowerChar {c : Char} (h : c ≠ 'İ') : IsSmall (lowerChar c) := by
  rw [lowerChar]
  split
  · next run hfound =>
    have hmem := List.mem_of_find?_eq_some hfound
    have hcapital : run.HasCapital c.toNat := by
      simpa [CaseRun.HasCapital, and_assoc] using List.find?_some hfound
    have havoid := List.all_eq_true.1 caseRuns_avoid run hmem
    rw [Bool.and_eq_true, List.all_eq_true] at havoid
    intro other hother
    rw [CaseRun.toNat_smallLetter havoid.1 hcapital]
    exact CaseRun.not_hasCapital_of_avoids havoid.1 (havoid.2 other hother) hcapital
  · next hnone =>
    refine List.forall_mem_cons.2 ⟨fun hdotted => h ?_, find?_covering_eq_none_iff.1 hnone⟩
    have hnumber : c.toNat = 'İ'.toNat := by
      have hrange : 0x130 ≤ c.toNat ∧ c.toNat ≤ 0x130 ∧ _ := hdotted
      exact Nat.le_antisymm hrange.2.1 hrange.1
    exact Char.toNat_inj.1 hnumber

/-- **A lower-case form has small characters only.** -/
theorem isSmall_of_mem_lowerAfter {before chars : List Char} :
    ∀ c ∈ lowerAfter before chars, IsSmall c := by
  -- what the two characters come to that are lowered in a way of their own
  have hsigma : IsSmall 'ς' ∧ IsSmall 'σ' := by decide +kernel
  have hdotted : IsSmall 'i' ∧ IsSmall (Char.ofNat 0x307) := by decide +kernel
  induction chars generalizing before with
  | nil => exact fun c hc => absurd hc List.not_mem_nil
  | cons first after ih =>
    intro c hc
    rw [lowerAfter] at hc
    rcases List.mem_append.1 hc with hlowered | hafter
    · split at hlowered
      · split at hlowered
        · exact List.mem_singleton.1 hlowered ▸ hsigma.1
        · exact List.mem_singleton.1 hlowered ▸ hsigma.2
      · split at hlowered
        · exact List.forall_mem_cons.2 ⟨hdotted.1, List.forall_mem_singleton.2 hdotted.2⟩ c hlowered
        · next hother => exact List.mem_singleton.1 hlowered ▸ isSmall_lowerChar hother
    · exact ih c hafter

/-! ## ASCII capitals -/

/-- The capitals of ASCII, which come first in the table. -/
def asciiCapitals : CaseRun := ⟨0x41, 0x5a, 1, 32⟩

/-- The character is one of the letters from A to Z. -/
def IsAsciiCapital (c : Char) : Prop := 'A' ≤ c ∧ c ≤ 'Z'

instance (c : Char) : Decidable (IsAsciiCapital c) := inferInstanceAs (Decidable (_ ∧ _))

/-- The text has no capitals but those of ASCII. -/
def HasAsciiCapitals (text : String) : Prop := ∀ c ∈ text.toList, IsSmall c ∨ IsAsciiCapital c

instance (text : String) : Decidable (HasAsciiCapitals text) :=
  decidable_of_iff ((text.toList.all fun c => IsSmall c ∨ IsAsciiCapital c) = true)
    (by simp only [List.all_eq_true, decide_eq_true_iff, HasAsciiCapitals])

theorem caseRuns_eq_cons : caseRuns = asciiCapitals :: caseRuns.tail := rfl

theorem hasCapital_asciiCapitals_iff {c : Char} :
    asciiCapitals.HasCapital c.toNat ↔ IsAsciiCapital c := by
  have hcapital : IsAsciiCapital c ↔ 65 ≤ c.toNat ∧ c.toNat ≤ 90 := Iff.rfl
  simp only [hcapital, CaseRun.HasCapital, asciiCapitals]
  omega

theorem asciiLower_of_capital {c : Char} (h : IsAsciiCapital c) :
    asciiLower c = Char.ofNat (c.toNat + 32) := if_pos h

theorem asciiLower_of_not_capital {c : Char} (h : ¬ IsAsciiCapital c) : asciiLower c = c := if_neg h

theorem asciiLower_of_small {c : Char} (h : IsSmall c) : asciiLower c = c := by
  have hmem : asciiCapitals ∈ caseRuns := caseRuns_eq_cons ▸ List.mem_cons_self
  have hother := h asciiCapitals (List.mem_cons_of_mem _ hmem)
  exact asciiLower_of_not_capital fun hcapital => hother (hasCapital_asciiCapitals_iff.2 hcapital)

theorem lowerChar_of_asciiCapital {c : Char} (h : IsAsciiCapital c) :
    lowerChar c = asciiLower c := by
  have hfound : (caseRuns.find? fun run => run.first ≤ c.toNat && c.toNat ≤ run.last &&
      (c.toNat - run.first) % run.step == 0) = some asciiCapitals := by
    rw [caseRuns_eq_cons]
    refine List.find?_cons_of_pos ?_
    simpa [CaseRun.HasCapital, and_assoc] using hasCapital_asciiCapitals_iff.2 h
  rw [asciiLower_of_capital h]
  simp only [lowerChar, hfound]
  rfl

/-- An ASCII capital is neither of the characters that are lowered in a way of their own. -/
theorem ne_of_asciiCapital {c : Char} (h : IsAsciiCapital c) : c ≠ 'Σ' ∧ c ≠ 'İ' := by
  refine ⟨?_, ?_⟩
  · rintro rfl
    exact absurd h (by decide)
  · rintro rfl
    exact absurd h (by decide)

/-- **Where there are no other capitals**, only ASCII letters change. -/
theorem lowerAfter_eq_map_asciiLower {chars : List Char}
    (h : ∀ c ∈ chars, IsSmall c ∨ IsAsciiCapital c) (before : List Char) :
    lowerAfter before chars = chars.map asciiLower := by
  induction chars generalizing before with
  | nil => rfl
  | cons c after ih =>
    obtain ⟨hfirst, hafter⟩ := List.forall_mem_cons.1 h
    have hplain : (c ≠ 'Σ' ∧ c ≠ 'İ') ∧ lowerChar c = asciiLower c := by
      rcases hfirst with hsmall | hcapital
      · exact ⟨ne_of_small hsmall, by rw [lowerChar_of_small hsmall, asciiLower_of_small hsmall]⟩
      · exact ⟨ne_of_asciiCapital hcapital, lowerChar_of_asciiCapital hcapital⟩
    rw [lowerAfter, if_neg hplain.1.1, if_neg hplain.1.2, hplain.2, ih hafter, List.map_cons,
      List.singleton_append]

theorem map_asciiLower_of_small {chars : List Char} (h : ∀ c ∈ chars, IsSmall c) :
    chars.map asciiLower = chars := by
  rw [List.map_congr_left fun c hc => asciiLower_of_small (h c hc), List.map_id']

/-- A text that becomes small when ASCII letters are lowered has no other capitals. -/
theorem hasAsciiCapitals_of_map {text : String}
    (h : ∀ c ∈ text.toList.map asciiLower, IsSmall c) : HasAsciiCapitals text := by
  intro c hc
  by_cases hcapital : IsAsciiCapital c
  · exact .inr hcapital
  · have hsmall := h _ (List.mem_map_of_mem hc)
    rw [asciiLower_of_not_capital hcapital] at hsmall
    exact .inl hsmall

/-- **A text differs from a lower-case form at most in the case of ASCII letters** if and only if
that is its own lower-case form and it has no capitals but those of ASCII. -/
theorem equalsIgnoringAsciiCase_toLowercase_iff {text other : String} :
    equalsIgnoringAsciiCase text (toLowercase other) = true ↔
      toLowercase text = toLowercase other ∧ HasAsciiCapitals text := by
  have hsmall : ∀ c ∈ lowerAfter [] other.toList, IsSmall c := isSmall_of_mem_lowerAfter
  rw [equalsIgnoringAsciiCase, beq_iff_eq, toLowercase, toLowercase, String.toList_ofList,
    map_asciiLower_of_small hsmall, String.ofList_inj]
  constructor
  · intro heq
    have hcapitals : HasAsciiCapitals text := hasAsciiCapitals_of_map (heq ▸ hsmall)
    exact ⟨(lowerAfter_eq_map_asciiLower hcapitals []).trans heq, hcapitals⟩
  · rintro ⟨heq, hcapitals⟩
    exact (lowerAfter_eq_map_asciiLower hcapitals []).symm.trans heq

end FormatChain.Text
