import FormatChain.Disk.Machine
import FormatChain.Proofs.Text.Utf8

/-!
# A file holds what was written to it

Storing a text in a file, or where nothing is yet, does not change where paths lead, except that the
path now leads to the file.  So a text that was written is read under the same path, and can be
written over.

* `Disk.Stores` : a disk is another one with a text stored in it.
* `Disk.Stores.find_of_locateTarget` : a path leads to the file that was stored where it leads.
* `Disk.overwrite_of_locateTarget`, `Disk.openText_putBytes` : writing succeeds, and what was
  written is read.
-/

namespace FormatChain

open FormatChain.Text

namespace Path

@[simp]
theorem same_refl (p : Path) : p.same p = true := by simp [same]

end Path

namespace Disk

variable {d d' : Disk} {p q place : Path}

/-! ## The tree after storing a text -/

/-- The disk is another one with a text stored under a path, as far as finding files goes. -/
structure Stores (d : Disk) (place : Path) (d' : Disk) : Prop where
  /-- The text is stored. -/
  files : ∃ text, d'.files = store place text d.files
  /-- The directories are the same. -/
  directories : d'.directories = d.directories
  /-- The links are the same. -/
  links : d'.links = d.links

theorem Stores.hasFile (h : Stores d place d') (q : Path) :
    d'.hasFile q = (place.same q || d.hasFile q) := by
  obtain ⟨text, hfiles⟩ := h.files
  simp only [Disk.hasFile, Disk.text?, hfiles, lookup_store]
  cases place.same q <;> simp

theorem Stores.link? (h : Stores d place d') (q : Path) : d'.link? q = d.link? q := by
  simp only [Disk.link?, h.links]

theorem any_store_of_lookup {text : String} {files : List (Path × String)} (f : Path → Bool)
    (h : (lookup place files).isSome) :
    (store place text files).any (fun file => f file.1) = files.any fun file => f file.1 := by
  induction files with
  | nil => simp [lookup] at h
  | cons file rest ih =>
    by_cases hs : file.1.same place
    · simp [store, hs]
    · rw [lookup, if_neg hs] at h
      simp [store, hs, ih h]

theorem any_store_of_lookup_none {text : String} {files : List (Path × String)} (f : Path → Bool)
    (h : lookup place files = none) :
    (store place text files).any (fun file => f file.1) =
      (files.any (fun file => f file.1) || f place) := by
  induction files with
  | nil => simp [store]
  | cons file rest ih =>
    by_cases hs : file.1.same place
    · simp [lookup, hs] at h
    · rw [lookup, if_neg hs] at h
      simp [store, hs, ih h, Bool.or_assoc]

/-- Storing a text where a file is makes no path a directory. -/
theorem Stores.isDirectory_of_hasFile (h : Stores d place d') (hf : d.hasFile place = true)
    (q : Path) : d'.isDirectory q = d.isDirectory q := by
  obtain ⟨text, hfiles⟩ := h.files
  simp only [Disk.isDirectory, hfiles, h.directories, h.links]
  rw [any_store_of_lookup (fun p => p.isWithin q && !p.same q) hf]

/-- Storing a text where nothing is makes only the paths around it directories. -/
theorem Stores.isDirectory_of_vacant (h : Stores d place d') (hf : d.hasFile place = false)
    (q : Path) :
    d'.isDirectory q = (d.isDirectory q || place.isWithin q && !place.same q) := by
  obtain ⟨text, hfiles⟩ := h.files
  have hnone : lookup place d.files = none := by
    simpa [Disk.hasFile, Disk.text?] using hf
  simp only [Disk.isDirectory, hfiles, h.directories, h.links]
  rw [any_store_of_lookup_none (fun p => p.isWithin q && !p.same q) hnone]
  simp only [Bool.or_assoc, Bool.or_comm, Bool.or_left_comm]

theorem Stores.isDirectory_mono (h : Stores d place d') {q : Path}
    (hq : d.isDirectory q = true) : d'.isDirectory q = true := by
  cases hf : d.hasFile place with
  | true => rw [h.isDirectory_of_hasFile hf, hq]
  | false => rw [h.isDirectory_of_vacant hf, hq, Bool.true_or]

theorem lookup_congr (h : p.same q = true) (files : List (Path × String)) :
    lookup q files = lookup p files := by
  have heq (r : Path) : r.same q = r.same p := by
    simp only [Path.same, beq_iff_eq] at h ⊢
    rw [h]
  induction files with
  | nil => rfl
  | cons file rest ih => simp only [lookup, heq, ih]

theorem Stores.hasFile_of_hasFile (h : Stores d place d') (hf : d.hasFile place = true)
    (q : Path) : d'.hasFile q = d.hasFile q := by
  rw [h.hasFile]
  cases hq : place.same q with
  | false => rfl
  | true =>
    rw [Disk.hasFile, Disk.text?, lookup_congr hq]
    exact hf.symm

/-! ## Paths lead to the same file -/

/-- Where a path leads depends on the links, directories and files alone. -/
theorem follow_congr (toTheEnd : Bool) (hl : ∀ q, d'.link? q = d.link? q)
    (hd : ∀ q, d'.isDirectory q = d.isDirectory q) (hf : ∀ q, d'.hasFile q = d.hasFile q)
    (steps : Nat) (dir : Path) (components : List PathComponent) :
    d'.follow toTheEnd steps dir components = d.follow toTheEnd steps dir components := by
  induction steps generalizing dir components with
  | zero => simp only [follow]
  | succ steps ih =>
    cases components with
    | nil => simp only [follow]
    | cons component rest =>
      cases component with
      | root => simp only [follow, ih]
      | here => simp only [follow, ih]
      | up => simp only [follow, ih]
      | name chars => simp only [follow, hl, hd, hf, ih]

/-- A path that leads to a place where nothing is leads to a file once a text is stored there. -/
theorem Stores.follow_vacant (h : Stores d place d') {steps : Nat} {dir : Path}
    {components : List PathComponent}
    (hv : d.follow true steps dir components = .ok (.vacant place)) :
    d'.follow true steps dir components = .ok (.file place) := by
  -- The way goes on at the root, in place, upwards, at a link or in a directory (cases 3, 4, 5, 8
  -- and 9), or ends at a place where nothing is (case 12).
  fun_induction d.follow true steps dir components with
  | case3 _ _ _ ih | case4 _ _ _ ih | case5 _ _ _ ih => simpa only [follow] using ih hv
  | case8 _ _ _ _ _ _ hshort _ hlink hend ih =>
    rw [follow, if_neg hshort, h.link?, hlink]
    exact (if_neg hend).trans (ih hv)
  | case9 _ _ _ _ _ _ hshort hlink hdir ih =>
    rw [follow, if_neg hshort, h.link?, hlink]
    exact (if_pos (h.isDirectory_mono hdir)).trans (ih hv)
  | case12 _ _ _ _ _ next hshort hlink hdir hfile hend =>
    obtain rfl : next = place := Place.vacant.inj (Except.ok.inj hv)
    rw [follow, if_neg hshort, h.link?, hlink]
    have hdir' : ¬ d'.isDirectory next = true := by
      simp [h.isDirectory_of_vacant (Bool.eq_false_iff.2 hfile), hdir]
    have hfile' : d'.hasFile next = true := by simp [h.hasFile]
    exact (if_neg hdir').trans ((if_pos hfile').trans (if_pos hend))
  | _ => cases hv

/-- A path that leads to a file leads to one that is there. -/
theorem hasFile_of_follow {steps : Nat} {dir : Path} {components : List PathComponent}
    (hv : d.follow true steps dir components = .ok (.file place)) : d.hasFile place = true := by
  -- The way ends at a file in case 10; in case 7, at a link that is not to be followed.
  fun_induction d.follow true steps dir components with
  | case3 _ _ _ ih | case4 _ _ _ ih | case5 _ _ _ ih => exact ih hv
  | case7 _ _ _ _ _ _ _ _ _ hend => exact absurd hend (by simp)
  | case8 _ _ _ _ _ _ _ _ _ _ ih => exact ih hv
  | case9 _ _ _ _ _ _ _ _ _ ih => exact ih hv
  | case10 _ _ _ _ _ found _ _ _ hfile =>
    obtain rfl : found = place := Place.file.inj (Except.ok.inj hv)
    exact hfile
  | _ => cases hv

/-- The place that a path leads to when a text is to be written there: a file, or nothing yet. -/
theorem find_of_locateTarget {cwd : Path} (h : d.locateTarget cwd p = .ok place) :
    p.asksForDirectory = false ∧
      (d.find cwd p = .ok (.file place) ∨ d.find cwd p = .ok (.vacant place)) := by
  simp only [locateTarget, bind, Except.bind] at h
  cases hfind : d.find cwd p with
  | error e => simp [hfind] at h
  | ok found =>
    simp only [hfind] at h
    cases found with
    | directory q => simp [throw, throwThe, MonadExceptOf.throw] at h
    | file q =>
      simp only [pure, Except.pure, Except.ok.injEq] at h
      subst h
      refine ⟨?_, Or.inl rfl⟩
      cases hasks : p.asksForDirectory with
      | false => rfl
      | true =>
        simp only [find, search, hasks] at hfind
        split at hfind
        · exact absurd hfind (by simp)
        · split at hfind
          · exact absurd hfind (by simp)
          · next hne => exact absurd hfind (hne q)
    | vacant q =>
      cases hasks : p.asksForDirectory with
      | true => simp [hasks, throw, throwThe, MonadExceptOf.throw] at h
      | false =>
        simp only [hasks, pure, Except.pure, Bool.false_eq_true, if_false, Except.ok.injEq] at h
        subst h
        exact ⟨rfl, Or.inr rfl⟩

theorem find_eq_follow {cwd : Path} (hasks : p.asksForDirectory = false)
    (hfault : p.fault? = none) :
    d.find cwd p =
      d.follow true ((linkLimit + 1) * ((cwd.join p).components.length + 1)) Path.root
        (cwd.join p).components := by
  simp only [find, search, hfault, hasks, Bool.or_false, Bool.false_eq_true, if_false]
  split <;> simp_all

/-- **A path leads to the file that was stored where it leads.** -/
theorem Stores.find_of_locateTarget (h : Stores d place d') {cwd : Path}
    (hp : d.locateTarget cwd p = .ok place) : d'.find cwd p = .ok (.file place) := by
  obtain ⟨hasks, hfind⟩ := Disk.find_of_locateTarget hp
  cases hfault : p.fault? with
  | some e => simp [find, search, hfault] at hfind
  | none =>
    rw [find_eq_follow hasks hfault] at hfind ⊢
    rcases hfind with hfile | hvacant
    · have hf := hasFile_of_follow hfile
      rw [follow_congr true h.link? (h.isDirectory_of_hasFile hf) (h.hasFile_of_hasFile hf), hfile]
    · exact h.follow_vacant hvacant

theorem Stores.locateTarget (h : Stores d place d') {cwd : Path}
    (hp : d.locateTarget cwd p = .ok place) : d'.locateTarget cwd p = .ok place := by
  simp only [Disk.locateTarget, h.find_of_locateTarget hp]
  rfl

theorem Stores.locate (h : Stores d place d') {cwd : Path}
    (hp : d.locateTarget cwd p = .ok place) : d'.locate cwd p = .ok place := by
  simp only [Disk.locate, h.find_of_locateTarget hp]
  rfl

/-! ## Writing and reading -/

/-- A path at which a file keeps what is written to it: it is none of the devices that swallow
everything. -/
def Keeps (place : Path) : Prop := ∀ device ∈ devices, place.same device = false

theorem putBytes_encodeUtf8 (hk : Keeps place) (text : String) :
    d.putBytes place (encodeUtf8 text) =
      { (d.put place text).markUnreadable place false with
        bytes := d.bytes.filter fun entry => !entry.1.same place } := by
  have hdevice : ¬ devices.contains place = true := fun hc => by
    have hsame := hk place (List.contains_iff_mem.1 hc)
    rw [Path.same_refl] at hsame
    exact absurd hsame (by simp)
  rw [putBytes, if_neg hdevice, decodeUtf8_encodeUtf8]

theorem stores_putBytes (hk : Keeps place) (text : String) :
    Stores d place (d.putBytes place (encodeUtf8 text)) := by
  rw [putBytes_encodeUtf8 hk]
  exact ⟨⟨text, rfl⟩, rfl, rfl⟩

/-- Writing a text succeeds wherever a path leads to a place for it. -/
theorem overwrite_of_locateTarget {cwd : Path} (hk : Keeps place)
    (hp : d.locateTarget cwd p = .ok place) (text : String) :
    d.overwrite cwd p text = .ok (d.putBytes place (encodeUtf8 text)) := by
  have hfull : place.same ⟨"/dev/full"⟩ = false := hk _ (by simp [devices])
  simp only [overwrite, overwriteBytes, hp, bind, Except.bind, hfull, Bool.false_and,
    Bool.false_eq_true, if_false]
  rfl

/-- A text can only be written where a path leads to a place for it. -/
theorem locateTarget_of_overwrite {cwd : Path} {text : String}
    (h : d.overwrite cwd p text = .ok d') : ∃ place, d.locateTarget cwd p = .ok place := by
  cases hp : d.locateTarget cwd p with
  | ok place => exact ⟨place, rfl⟩
  | error e => simp [overwrite, overwriteBytes, hp, bind, Except.bind] at h

theorem openText_of_locate {cwd : Path} {text : String} (hp : d.locate cwd p = .ok place)
    (hr : d.isUnreadable place = false) (ht : d.text? place = some text) :
    d.openText cwd p = .ok text := by
  simp only [openText, hp, bind, Except.bind, hr, Bool.false_eq_true, if_false, ht]
  rfl

/-- **What was written is read.** -/
theorem openText_putBytes {cwd : Path} (hk : Keeps place)
    (hp : d.locateTarget cwd p = .ok place) (text : String) :
    (d.putBytes place (encodeUtf8 text)).openText cwd p = .ok text := by
  refine openText_of_locate ((stores_putBytes hk text).locate hp) ?_ ?_
  · rw [putBytes_encodeUtf8 hk]
    simp [markUnreadable, isUnreadable]
  · rw [putBytes_encodeUtf8 hk]
    exact (text?_put d place place text).trans (if_pos (Path.same_refl place))

end Disk

end FormatChain
