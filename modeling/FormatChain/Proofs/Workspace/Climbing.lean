import FormatChain.Proofs.Path.Leading
import FormatChain.Proofs.Workspace.Discovering

/-!
# Settings beyond the workspace

Whether a document is in the workspace is asked of its components as they are written, two dots
being a component like any other.  So the directories that are looked into all start with the
components of the root, but by two dots they can lead out of the workspace, to the settings of
another project, and they can lead to the root, whose settings are then those of a folder too.

* `Settings.LeadsAway` : the settings that are found come from a directory that leads away from the
  workspace.
* `Workspace.discover_folder_leads_below_iff` : the settings of a folder come from a place below the
  workspace exactly if they do not lead away, and so they do for a document that has only names
  after the root.
-/

namespace FormatChain

namespace Settings

/-- Among the directories between the root and the document, the deepest one that has a settings
file is reached by a way that does not come back below the root. -/
def LeadsAway (isThere : Path → Bool) (root document : Path) : Prop :=
  ∃ dir, IsBetween root document dir ∧ isThere (settingsFile dir) = true ∧
    (∀ other, IsBetween root document other → isThere (settingsFile other) = true →
      other = dir ∨ dir.IsBelow other) ∧
    ¬ dir.ComesBack root

variable {root document dir other : Path} {isThere : Path → Bool}

/-- The settings file of a directory tells which one it is. -/
theorem components_eq_of_settingsFile (h : settingsFile dir = settingsFile other) :
    dir.components = other.components := by
  have hcomponents := congrArg Path.components h
  rw [components_settingsFile, components_settingsFile] at hcomponents
  exact List.append_cancel_right hcomponents

/-- A document starts with the components of the root if a directory lies between them. -/
theorem IsBetween.isWithin (h : IsBetween root document dir) : document.isWithin root = true :=
  IsSearched.isWithin ⟨h.1, .inl h.2⟩

/-- What is found leads below the root unless it leads away. -/
theorem leadsBelow_iff_not_leadsAway (hroot : .up ∉ root.components) {folder : Option Path}
    (hfolder : ∀ file, folder = some file ↔ IsNearest isThere (IsBetween root document) file) :
    (∀ dir, folder = some (settingsFile dir) → dir.LeadsBelow root) ↔
      ¬ LeadsAway isThere root document := by
  constructor
  · rintro hbelow ⟨dir, hbetween, hthere, hnearest, haway⟩
    have hfound : folder = some (settingsFile dir) :=
      (hfolder _).2 ⟨dir, hbetween, hthere, rfl, hnearest⟩
    exact haway ((Path.leadsBelow_iff_comesBack hroot hbetween.2.1).1 (hbelow dir hfound))
  · intro haway dir hfound
    obtain ⟨found, hbetween, hthere, hfile, hnearest⟩ := (hfolder _).1 hfound
    rw [Path.leadsBelow_congr (components_eq_of_settingsFile hfile)]
    by_contra hleads
    refine haway ⟨found, hbetween, hthere, hnearest, fun hback => hleads ?_⟩
    exact (Path.leadsBelow_iff_comesBack hroot hbetween.2.1).2 hback

/-- Only names lead from the root to what lies between if only names lead to the document. -/
theorem IsBetween.names (h : IsBetween root document dir)
    (hnames : ∀ component ∈ document.components.drop root.components.length,
      ∃ text, component = .name text) :
    ∀ component ∈ dir.components.drop root.components.length, ∃ text, component = .name text := by
  obtain ⟨further, hfurther⟩ := (Path.isBelow_of_mem_directories h.1).1
  intro component hmem
  refine hnames component ?_
  rw [← hfurther, List.drop_append_of_le_length h.2.length_lt.le]
  exact List.mem_append_left _ hmem

end Settings

namespace Workspace

open Settings (settingsFile IsBetween IsNearest LeadsAway)

/-- **Settings of a folder may lead away.**  For a document other than the root they are those of
the deepest directory between the root and the document, by components, that has a settings file.
That directory leads below the root unless the settings lead away; a document that leads elsewhere
has no settings of a folder unless some directory that lies between has them; and all is well if
only names follow the root in the document. -/
theorem discover_folder_leads_below_iff {root : Path} {argument : String} {s : Session}
    (hroot : .up ∉ root.components) (hother : (resolvePath argument s).1.same root = false) :
    let document := (resolvePath argument s).1
    let folder := (discover root (some document) s).1.folder
    (∀ file, folder = some file ↔ IsNearest s.pathExists (IsBetween root document) file) ∧
      ((∀ dir, folder = some (settingsFile dir) → dir.LeadsBelow root) ↔
        ¬ LeadsAway s.pathExists root document) ∧
      (document.LeadsBelow root ∨ folder = none ↔ document.ComesBack root ∨
        ∀ dir, IsBetween root document dir → s.pathExists (settingsFile dir) = false) ∧
      ((∀ component ∈ document.components.drop root.components.length,
          ∃ text, component = .name text) →
        ¬ LeadsAway s.pathExists root document ∧ (document.LeadsBelow root ∨ folder = none)) := by
  intro document folder
  have hamong : Settings.IsSearched root document = IsBetween root document :=
    funext fun dir => propext (Settings.isSearched_iff_isBetween hother)
  have hsome : ∀ file, folder = some file ↔
      IsNearest s.pathExists (IsBetween root document) file := by
    intro file
    rw [← hamong]
    exact Settings.folderSettings?_eq_some_iff
  have hnone : folder = none ↔
      ∀ dir, IsBetween root document dir → s.pathExists (settingsFile dir) = false := by
    rw [← hamong]
    exact Settings.folderSettings?_eq_none_iff
  refine ⟨hsome, Settings.leadsBelow_iff_not_leadsAway hroot hsome, ?_, fun hnames => ⟨?_, ?_⟩⟩
  · by_cases hwithin : document.isWithin root = true
    · have hprefix := List.isPrefixOf_iff_prefix.1 hwithin
      rw [Path.leadsBelow_iff_comesBack hroot hprefix, hnone]
    · have hnothing : ∀ dir, IsBetween root document dir →
          s.pathExists (settingsFile dir) = false :=
        fun dir hdir => absurd hdir.isWithin hwithin
      exact iff_of_true (.inr (hnone.2 hnothing)) (.inr hnothing)
  · rintro ⟨dir, hbetween, -, -, haway⟩
    have hbelow := Path.leadsBelow_of_names hbetween.2 hroot (hbetween.names hnames)
    exact haway ((Path.leadsBelow_iff_comesBack hroot hbetween.2.1).1 hbelow)
  · by_cases hwithin : document.isWithin root = true
    · have hbelow : document.IsBelow root :=
        ⟨List.isPrefixOf_iff_prefix.1 hwithin, Path.same_eq_false_iff.1 hother⟩
      exact .inl (Path.leadsBelow_of_names hbelow hroot hnames)
    · exact .inr (hnone.2 fun dir hdir => absurd hdir.isWithin hwithin)

/-- From `/project` the document `../other/a.rs` has its settings from `/other`, which is not in the
workspace, and the document is not there either. -/
theorem discover_folder_leads_to_other_project :
    let s : Session :=
      { disk := .ofFiles [(⟨"/project/../other/.chainfmt/settings.json"⟩, "\x7b\x7d")]
        outside := some {}
        cwd := ⟨"/project"⟩ }
    let root : Path := ⟨"/project"⟩
    let document := (resolvePath "../other/a.rs" s).1
    let dir : Path := ⟨"/project/../other"⟩
    .up ∉ root.components ∧ document.same root = false ∧
      (discover root (some document) s).1.folder = some (settingsFile dir) ∧
      dir.destination = [.root, .name "other".toList] ∧ ¬ dir.LeadsBelow root ∧
      ¬ document.LeadsBelow root ∧ LeadsAway s.pathExists root document := by
  intro s root document dir
  have hroot : .up ∉ root.components := by decide
  have hother : document.same root = false := by decide
  have hfolder : (discover root (some document) s).1.folder = some (settingsFile dir) := by
    decide +kernel
  have hdir : ¬ dir.LeadsBelow root := by decide
  obtain ⟨-, hleads, -⟩ := discover_folder_leads_below_iff hroot hother
  refine ⟨hroot, hother, hfolder, by decide, hdir, by decide, ?_⟩
  by_contra haway
  exact hdir (hleads.2 haway dir hfolder)

end Workspace

end FormatChain
