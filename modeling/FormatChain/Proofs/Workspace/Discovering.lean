import FormatChain.Proofs.Path.Around
import FormatChain.Workspace.Load

/-!
# Where the settings of a folder are found

The settings of a folder are looked for in the directories around a document, from the innermost one
outwards, until the root of the workspace is met.  So they come from the deepest directory strictly
between the root and the document that has a settings file.  The one exception is a document that is
the root itself: the root is not around it, so it is never met, and the settings of any directory
around the workspace are taken for those of a folder in it.

* `Settings.IsBetween` : a directory lies strictly between the root and the document.
* `Settings.IsSearched` : a directory is looked into.
* `Settings.IsNearest` : a settings file is that of the deepest directory of some that has one.
* `Settings.folderSettings?_eq_some_iff` : what is found is the nearest in what is searched.
* `Workspace.discover_folder` : what is found, and when it comes from inside the workspace.
-/

namespace FormatChain

namespace Settings

variable {root document file : Path} {isThere : Path → Bool}

/-- A settings file is in the directory `.chainfmt` of its directory. -/
theorem components_settingsFile (dir : Path) :
    (settingsFile dir).components =
      dir.components ++ [.name ".chainfmt".toList, .name "settings.json".toList] := by
  have hdirectory : Path.componentOf? ".chainfmt".toList = some (.name ".chainfmt".toList) := by
    decide
  have hfile : Path.componentOf? "settings.json".toList = some (.name "settings.json".toList) := by
    decide
  rw [settingsFile, Path.components_join (by decide) (by decide) hfile,
    Path.components_join (by decide) (by decide) hdirectory, List.append_assoc]
  rfl

/-- The directory lies strictly between the root of the workspace and the document. -/
def IsBetween (root document dir : Path) : Prop :=
  dir ∈ document.directories ∧ dir.IsBelow root

/-- The directory is looked into: it lies between the root and the document, or the document is the
root and the directory lies around it. -/
def IsSearched (root document dir : Path) : Prop :=
  dir ∈ document.directories ∧ (dir.IsBelow root ∨ document.same root = true)

/-- The file is the settings file of a directory among some, it is there, and no directory among
them that is deeper has one. -/
def IsNearest (isThere : Path → Bool) (among : Path → Prop) (file : Path) : Prop :=
  ∃ dir, among dir ∧ isThere (settingsFile dir) = true ∧ file = settingsFile dir ∧
    ∀ other, among other → isThere (settingsFile other) = true → other = dir ∨ dir.IsBelow other

/-- Directories lie between for every list of components that does. -/
theorem exists_isBetween {components : List PathComponent}
    (hroot : root.components <+: components) (hbelow : components ≠ root.components)
    (hdocument : components <+: document.components) (habove : components ≠ document.components) :
    ∃ dir, IsBetween root document dir ∧ dir.components = components := by
  have hnonempty : components ≠ [] := by
    rintro rfl
    exact hbelow (List.prefix_nil.1 hroot).symm
  obtain ⟨dir, hdir, rfl⟩ := Path.exists_mem_directories hnonempty hdocument habove
  exact ⟨dir, ⟨hdir, hroot, hbelow⟩, rfl⟩

/-- What is searched is searched for a document inside the workspace only. -/
theorem IsSearched.isWithin {dir : Path} (h : IsSearched root document dir) :
    document.isWithin root = true := by
  rw [Path.isWithin, List.isPrefixOf_iff_prefix]
  rcases h.2 with hbelow | hsame
  · exact hbelow.1.trans (Path.isBelow_of_mem_directories h.1).1
  · rw [Path.same, beq_iff_eq] at hsame
    exact hsame ▸ List.prefix_rfl

/-- The directories that are looked into, innermost first. -/
def searched (root document : Path) : List Path :=
  if document.isWithin root then document.directories.takeWhile fun dir => !dir.same root else []

theorem mem_searched {dir : Path} :
    dir ∈ searched root document ↔ IsSearched root document dir := by
  by_cases hwithin : document.isWithin root = true
  · rw [searched, if_pos hwithin, IsSearched]
    by_cases hsame : document.same root = true
    · rw [Path.takeWhile_directories_of_same hsame]
      simp [hsame]
    · have hbelow : document.IsBelow root :=
        ⟨List.isPrefixOf_iff_prefix.1 hwithin, Path.same_eq_false_iff.1 (by simpa using hsame)⟩
      rw [Path.mem_takeWhile_directories hbelow]
      simp [hsame]
  · rw [searched, if_neg hwithin]
    exact iff_of_false List.not_mem_nil fun h => hwithin h.isWithin

theorem pairwise_searched (root document : Path) :
    (searched root document).Pairwise Path.IsBelow := by
  rw [searched]
  split
  · exact (Path.pairwise_directories document).sublist (List.takeWhile_sublist _)
  · exact List.Pairwise.nil

theorem folderSettings?_eq (isThere : Path → Bool) (root document : Path) :
    folderSettings? isThere root document =
      ((searched root document).find? fun dir => isThere (settingsFile dir)).map settingsFile := by
  rw [folderSettings?, searched]
  split
  · rw [List.find?_map]
    rfl
  · rfl

/-- The first element of a list that passes a test, if every element comes before the ones it is
related to. -/
theorem find?_eq_some_iff_of_pairwise {α : Type} {r : α → α → Prop} (hirrefl : ∀ a, ¬ r a a)
    (htrans : ∀ a b c, r a b → r b c → r a c) {passes : α → Bool} {elements : List α}
    (hpairwise : elements.Pairwise r) {a : α} :
    elements.find? passes = some a ↔ a ∈ elements ∧ passes a = true ∧
      ∀ b ∈ elements, passes b = true → b = a ∨ r a b := by
  induction elements with
  | nil => simp
  | cons first rest ih =>
    obtain ⟨hfirst, hrest⟩ := List.pairwise_cons.1 hpairwise
    rw [List.find?_cons]
    cases hpasses : passes first with
    | true =>
      rw [Option.some.injEq]
      constructor
      · rintro rfl
        refine ⟨List.mem_cons_self, hpasses, fun b hb _ => ?_⟩
        rcases List.mem_cons.1 hb with rfl | hb
        · exact .inl rfl
        · exact .inr (hfirst b hb)
      · rintro ⟨ha, -, hnearest⟩
        rcases List.mem_cons.1 ha with rfl | ha
        · rfl
        · rcases hnearest first List.mem_cons_self hpasses with heq | hbefore
          · exact heq
          · exact absurd (htrans _ _ _ hbefore (hfirst a ha)) (hirrefl a)
    | false =>
      rw [ih hrest]
      constructor
      · rintro ⟨ha, hpasses', hnearest⟩
        refine ⟨List.mem_cons_of_mem _ ha, hpasses', fun b hb hb' => ?_⟩
        rcases List.mem_cons.1 hb with rfl | hb
        · exact absurd hb' (by simp [hpasses])
        · exact hnearest b hb hb'
      · rintro ⟨ha, hpasses', hnearest⟩
        rcases List.mem_cons.1 ha with rfl | ha
        · exact absurd hpasses' (by simp [hpasses])
        · exact ⟨ha, hpasses', fun b hb => hnearest b (List.mem_cons_of_mem _ hb)⟩

/-- **What is found** is the nearest settings file in the directories that are looked into. -/
theorem folderSettings?_eq_some_iff :
    folderSettings? isThere root document = some file ↔
      IsNearest isThere (IsSearched root document) file := by
  rw [folderSettings?_eq, Option.map_eq_some_iff]
  refine exists_congr fun dir => ?_
  rw [find?_eq_some_iff_of_pairwise (fun _ h => h.2 rfl) (fun _ _ _ h h' => h.trans h')
    (pairwise_searched root document), mem_searched]
  simp only [mem_searched]
  constructor
  · rintro ⟨⟨hsearched, hthere, hnearest⟩, rfl⟩
    exact ⟨hsearched, hthere, rfl, hnearest⟩
  · rintro ⟨hsearched, hthere, rfl, hnearest⟩
    exact ⟨⟨hsearched, hthere, hnearest⟩, rfl⟩

theorem folderSettings?_eq_none_iff :
    folderSettings? isThere root document = none ↔
      ∀ dir, IsSearched root document dir → isThere (settingsFile dir) = false := by
  rw [folderSettings?_eq, Option.map_eq_none_iff, List.find?_eq_none]
  simp only [mem_searched, Bool.not_eq_true]

/-- Between the root and the document, and nowhere else, is looked if they differ. -/
theorem isSearched_iff_isBetween (h : document.same root = false) {dir : Path} :
    IsSearched root document dir ↔ IsBetween root document dir := by
  simp [IsSearched, IsBetween, h]

/-- Nothing lies between the root and itself. -/
theorem not_isBetween_of_same (h : document.same root = true) {dir : Path} :
    ¬ IsBetween root document dir := by
  rintro ⟨hdir, hbelow⟩
  rw [Path.same, beq_iff_eq] at h
  exact ((Path.isBelow_of_mem_directories hdir).trans hbelow).2 h

end Settings

namespace Workspace

open Settings (settingsFile IsBetween IsSearched IsNearest)

/-- **The settings of a folder** are those of the deepest directory, among those looked into, that
has a settings file, and there are none if no directory has one.  They come from strictly between
the root of the workspace and the document, where a directory lies for every list of components that
does, unless the document is the root and some directory around the workspace has settings. -/
theorem discover_folder (root document : Path) (s : Session) :
    let folder := (discover root (some document) s).1.folder
    (∀ file, folder = some file ↔ IsNearest s.pathExists (IsSearched root document) file) ∧
      (folder = none ↔
        ∀ dir, IsSearched root document dir → s.pathExists (settingsFile dir) = false) ∧
      ((∀ file, folder = some file ↔ IsNearest s.pathExists (IsBetween root document) file) ↔
        ¬ (document.same root = true ∧
          ∃ dir ∈ document.directories, s.pathExists (settingsFile dir) = true)) ∧
      (∀ components, root.components <+: components → components ≠ root.components →
        components <+: document.components → components ≠ document.components →
        ∃ dir, IsBetween root document dir ∧ dir.components = components) ∧
      ∀ dir, (settingsFile dir).components =
        dir.components ++ [.name ".chainfmt".toList, .name "settings.json".toList] := by
  intro folder
  have hfolder : folder = Settings.folderSettings? s.pathExists root document := rfl
  have hsome : ∀ file, folder = some file ↔
      IsNearest s.pathExists (IsSearched root document) file :=
    fun file => Settings.folderSettings?_eq_some_iff
  have hnone : folder = none ↔
      ∀ dir, IsSearched root document dir → s.pathExists (settingsFile dir) = false :=
    Settings.folderSettings?_eq_none_iff
  refine ⟨hsome, hnone, ?_, fun components => Settings.exists_isBetween,
    Settings.components_settingsFile⟩
  clear_value folder
  constructor
  · rintro hbetween ⟨hsame, dir, hdir, hthere⟩
    cases hfound : folder with
    | none =>
      have := hnone.1 hfound dir ⟨hdir, .inr hsame⟩
      exact absurd hthere (by simp [this])
    | some file =>
      obtain ⟨other, hother, -⟩ := (hbetween file).1 hfound
      exact Settings.not_isBetween_of_same hsame hother
  · intro hinside file
    rw [hsome]
    cases hsame : document.same root with
    | false =>
      have hamong : IsSearched root document = IsBetween root document :=
        funext fun dir => propext (Settings.isSearched_iff_isBetween hsame)
      rw [hamong]
    | true =>
      refine iff_of_false ?_ ?_
      · rintro ⟨dir, hsearched, hthere, -⟩
        exact hinside ⟨hsame, dir, hsearched.1, hthere⟩
      · rintro ⟨dir, hdir, -⟩
        exact Settings.not_isBetween_of_same hsame hdir

/-- The workspace `/project` itself, given as a document, has its settings from the directory around
it, although nothing lies between the workspace and itself. -/
theorem discover_folder_leaves_workspace :
    let s : Session :=
      { disk := .ofFiles [(⟨"/.chainfmt/settings.json"⟩, "\x7b\x7d")], outside := some {} }
    let root : Path := ⟨"/project"⟩
    let folder := (discover root (some root) s).1.folder
    folder = some ⟨"/.chainfmt/settings.json"⟩ ∧
      (∀ dir, ¬ IsBetween root root dir) ∧
      ¬ ∀ file, folder = some file ↔ IsNearest s.pathExists (IsBetween root root) file := by
  intro s root folder
  have hsame : root.same root = true := by decide
  obtain ⟨-, -, hinside, -⟩ := discover_folder root root s
  refine ⟨by decide +kernel, fun dir => Settings.not_isBetween_of_same hsame, fun hbetween => ?_⟩
  exact hinside.1 hbetween ⟨hsame, ⟨"/"⟩, by decide +kernel, by decide +kernel⟩

end Workspace

end FormatChain
