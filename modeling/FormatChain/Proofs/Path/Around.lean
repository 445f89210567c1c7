import FormatChain.Path
import Mathlib.Data.List.Basic
import Mathlib.Data.List.TakeWhile

/-!
# The directories around a path

A path is a text, and what it names is a list of components.  Here the text is put in its place:
taking a path's directory takes away its last component, whatever slashes and dots the text has, and
the directories around a path are, innermost first, the prefixes of its components.

* `Path.componentsOf_append_slash` : the components before and after a slash.
* `Path.components_parent` : the components of the directory that holds a path.
* `Path.components_join` : the components of a name in a directory.
* `Path.IsBelow` : a path lies strictly below another one.
* `Path.exists_mem_ancestors` : the directories around a path are all there.
* `Path.mem_takeWhile_ancestorsUpTo` : those that are met before a given one lie below it.
-/

namespace FormatChain

namespace Path

/-! ## Texts between slashes -/

theorem splitAtSlashes_ne_nil (chars : List Char) : splitAtSlashes chars ≠ [] := by
  cases chars with
  | nil => simp [splitAtSlashes]
  | cons c rest =>
    rw [splitAtSlashes]
    split
    · simp
    · split <;> simp

theorem splitAtSlashes_append_slash (before after : List Char) :
    splitAtSlashes (before ++ '/' :: after) = splitAtSlashes before ++ splitAtSlashes after := by
  induction before with
  | nil => simp [splitAtSlashes]
  | cons c rest ih =>
    rw [List.cons_append, splitAtSlashes, splitAtSlashes, ih]
    split
    · rfl
    · cases hparts : splitAtSlashes rest with
      | nil => exact absurd hparts (splitAtSlashes_ne_nil rest)
      | cons part parts => rfl

theorem splitAtSlashes_of_not_mem {chars : List Char} (h : '/' ∉ chars) :
    splitAtSlashes chars = [chars] := by
  induction chars with
  | nil => rfl
  | cons c rest ih =>
    obtain ⟨hc, hrest⟩ := not_or.1 (fun hor => h (List.mem_cons.2 hor))
    rw [splitAtSlashes, if_neg (Ne.symm hc), ih hrest]

/-! ## Components -/

/-- The components before and after a slash are those of the text up to the slash, and what the
texts after it stand for. -/
theorem componentsOf_append_slash (before after : List Char) :
    componentsOf (before ++ '/' :: after) =
      componentsOf (before ++ ['/']) ++ (splitAtSlashes after).filterMap componentOf? := by
  have hfirst (rest : List Char) :
      (splitAtSlashes before ++ splitAtSlashes rest).head? = (splitAtSlashes before).head? :=
    List.head?_append_of_ne_nil _ (splitAtSlashes_ne_nil before)
  have hstart (rest : List Char) : (before ++ '/' :: rest).head? = (before ++ ['/']).head? := by
    cases before <;> rfl
  simp only [componentsOf, splitAtSlashes_append_slash, hfirst, hstart after,
    List.filterMap_append, List.append_assoc]
  rfl

/-- A slash at the end of a text adds nothing, unless it is all of it. -/
theorem componentsOf_concat_slash {chars : List Char} (h : chars ≠ []) :
    componentsOf (chars ++ ['/']) = componentsOf chars := by
  have hfirst : (splitAtSlashes chars ++ [[]]).head? = (splitAtSlashes chars).head? :=
    List.head?_append_of_ne_nil _ (splitAtSlashes_ne_nil chars)
  have hstart : (chars ++ ['/']).head? = chars.head? := List.head?_append_of_ne_nil _ h
  simp only [componentsOf, splitAtSlashes_append_slash, splitAtSlashes, hfirst, hstart,
    List.filterMap_append]
  simp [componentOf?]

theorem componentsOf_append_name {chars name : List Char} (hslash : '/' ∉ name)
    {component : PathComponent} (hname : componentOf? name = some component) :
    componentsOf (chars ++ '/' :: name) = componentsOf (chars ++ ['/']) ++ [component] := by
  rw [componentsOf_append_slash, splitAtSlashes_of_not_mem hslash]
  simp [hname]

/-- A text without slashes has one component, if it is not empty. -/
theorem length_componentsOf_of_not_mem {chars : List Char} (hslash : '/' ∉ chars)
    (hempty : chars ≠ []) : (componentsOf chars).length = 1 := by
  have hstart : chars.head? ≠ some '/' := fun h => hslash (List.mem_of_head? h)
  rw [componentsOf, splitAtSlashes_of_not_mem hslash, if_neg hstart]
  by_cases hdot : chars = ['.']
  · simp [hdot, componentOf?]
  · by_cases hup : chars = ['.', '.']
    · simp [hup, componentOf?]
    · simp [hdot, hup, hempty, componentOf?]

/-- Only the start of a path is its root. -/
theorem componentsOf_eq_of_getLast? {chars : List Char}
    (h : (componentsOf chars).getLast? = some .root) : componentsOf chars = [.root] := by
  have hnamed : PathComponent.root ∉ (splitAtSlashes chars).filterMap componentOf? := by
    rw [List.mem_filterMap]
    rintro ⟨part, -, hpart⟩
    rw [componentOf?] at hpart
    split at hpart
    · exact absurd hpart (by simp)
    · split at hpart <;> exact absurd hpart (by simp)
  cases hlast : ((splitAtSlashes chars).filterMap componentOf?).getLast? with
  | some component =>
    rw [componentsOf, List.getLast?_append, hlast] at h
    obtain rfl : component = .root := by simpa using h
    exact absurd (List.mem_of_getLast? hlast) hnamed
  | none =>
    rw [componentsOf, List.getLast?_eq_none_iff.1 hlast, List.append_nil] at h ⊢
    split
    · rfl
    · next hstart =>
      rw [if_neg hstart] at h
      split at h <;> exact absurd h (by simp)

/-! ## The directory that holds a path -/

/-- Dropping slashes and single dots at the end changes no component. -/
theorem componentsOf_dropTrailing (chars : List Char) :
    componentsOf (dropTrailing chars).reverse = componentsOf chars.reverse := by
  fun_induction dropTrailing chars with
  | case1 rest hempty => rw [List.isEmpty_iff.1 hempty]
  | case2 rest hempty ih =>
    rw [List.isEmpty_iff] at hempty
    rw [ih, List.reverse_cons, componentsOf_concat_slash (by simpa using hempty)]
  | case3 => rfl
  | case4 rest hempty => rw [List.isEmpty_iff.1 hempty]; rfl
  | case5 rest hempty ih =>
    rw [List.isEmpty_iff] at hempty
    have hdot : (splitAtSlashes ['.']).filterMap componentOf? = [] := rfl
    rw [ih, List.reverse_cons, List.reverse_cons, List.append_assoc]
    change _ = componentsOf (rest.reverse ++ '/' :: ['.'])
    rw [componentsOf_append_slash, hdot, List.append_nil,
      componentsOf_concat_slash (by simpa using hempty)]
  | case6 => rfl

/-- What is left then is empty, a single slash or dot, or ends in a name. -/
theorem dropTrailing_cases (chars : List Char) :
    dropTrailing chars = [] ∨ dropTrailing chars = ['/'] ∨ dropTrailing chars = ['.'] ∨
      ∃ last rest, dropTrailing chars = last :: rest ∧ last ≠ '/' ∧
        (last = '.' → ∃ c others, rest = c :: others ∧ c ≠ '/') := by
  fun_induction dropTrailing chars with
  | case1 => exact .inr (.inl rfl)
  | case2 rest hempty ih => exact ih
  | case3 => exact .inr (.inr (.inl rfl))
  | case4 => exact .inr (.inl rfl)
  | case5 rest hempty ih => exact ih
  | case6 chars hslash hdot hdotted =>
    cases chars with
    | nil => exact .inl rfl
    | cons last rest =>
      refine .inr (.inr (.inr ⟨last, rest, rfl, ?_, ?_⟩))
      · rintro rfl
        exact hslash rest rfl
      · rintro rfl
        cases rest with
        | nil => exact absurd rfl hdot
        | cons c others =>
          refine ⟨c, others, rfl, ?_⟩
          rintro rfl
          exact hdotted others rfl

/-- Between slashes, all but nothing and a single dot is a component. -/
theorem exists_componentOf? {chars : List Char} (hne : chars ≠ []) (hdot : chars ≠ ['.']) :
    ∃ component, componentOf? chars = some component := by
  by_cases hup : chars = ['.', '.']
  · exact ⟨.up, by rw [hup]; rfl⟩
  · exact ⟨.name chars, by rw [componentOf?, if_neg (not_or.2 ⟨hne, hdot⟩), if_neg hup]⟩

/-- Cutting off the name at the end of a text cuts off its last component. -/
theorem componentsOf_dropName {last : Char} {rest : List Char} (hlast : last ≠ '/')
    (hdot : last = '.' → ∃ c others, rest = c :: others ∧ c ≠ '/') :
    componentsOf ((last :: rest).dropWhile (· != '/')).reverse =
      (componentsOf (last :: rest).reverse).dropLast := by
  have hsplit := (List.takeWhile_append_dropWhile (p := (· != '/')) (l := last :: rest)).symm
  have hslash : '/' ∉ ((last :: rest).takeWhile (· != '/')).reverse := by
    intro hmem
    have := List.mem_takeWhile_imp (List.mem_reverse.1 hmem)
    simp at this
  have hname : ∃ c others, (last :: rest).takeWhile (· != '/') = c :: others ∧
      (c = '.' → others ≠ []) := by
    refine ⟨last, rest.takeWhile (· != '/'), by simp [hlast], fun heq => ?_⟩
    obtain ⟨c, others, rfl, hc⟩ := hdot heq
    simp [hc]
  generalize (last :: rest).takeWhile (· != '/') = name at hsplit hslash hname
  obtain ⟨c, others, rfl, hothers⟩ := hname
  cases hbefore : (last :: rest).dropWhile (· != '/') with
  | nil =>
    rw [hbefore, List.append_nil] at hsplit
    rw [hsplit]
    have hlength := length_componentsOf_of_not_mem hslash (by simp)
    obtain ⟨component, hone⟩ := List.length_eq_one_iff.1 hlength
    rw [hone]
    rfl
  | cons slash before =>
    obtain rfl : slash = '/' := by
      have := List.head?_dropWhile_not (· != '/') (last :: rest)
      rw [hbefore] at this
      simpa using this
    rw [hbefore] at hsplit
    rw [hsplit, List.reverse_append, List.reverse_cons, List.append_assoc]
    change _ = (componentsOf (before.reverse ++ '/' :: (c :: others).reverse)).dropLast
    have hdot' : (c :: others).reverse ≠ ['.'] := by
      intro heq
      obtain ⟨rfl, rfl⟩ := List.cons.inj (List.reverse_eq_iff.1 heq)
      exact hothers rfl rfl
    obtain ⟨component, hcomponent⟩ := exists_componentOf? (by simp) hdot'
    rw [componentsOf_append_name hslash hcomponent, List.dropLast_concat]

/-- **The directory that holds a path** has the components of the path but the last. -/
theorem components_parent {p dir : Path} (h : p.parent? = some dir) :
    dir.components = p.components.dropLast := by
  have hkept : componentsOf (dropTrailing p.text.toList.reverse).reverse = p.components := by
    rw [componentsOf_dropTrailing, List.reverse_reverse]
    rfl
  rw [parent?] at h
  split at h
  · exact absurd h (by simp)
  · exact absurd h (by simp)
  · next component hroot hlast =>
    rw [← Option.some.inj h, ← hkept, components, String.toList_ofList, componentsOf_dropTrailing]
    rw [← hkept] at hlast
    rcases dropTrailing_cases p.text.toList.reverse with hnil | hslash | hdot | hname
    · rw [hnil] at hlast
      exact absurd hlast (by simp [componentsOf, splitAtSlashes, componentOf?])
    · rw [hslash] at hlast
      exact absurd (Option.some.inj hlast).symm hroot
    · rw [hdot]
      rfl
    · obtain ⟨last, rest, heq, hlast, hdotted⟩ := hname
      rw [heq]
      exact componentsOf_dropName hlast hdotted

/-- Only the empty path and the root have no directory around them. -/
theorem components_of_parent?_eq_none {p : Path} (h : p.parent? = none) :
    p.components = [] ∨ p.components = [.root] := by
  rw [parent?] at h
  split at h
  · next hlast => exact .inl (List.getLast?_eq_none_iff.1 hlast)
  · next hlast => exact .inr (componentsOf_eq_of_getLast? hlast)
  · exact absurd h (by simp)

/-! ## Names in a directory -/

/-- **A name in a directory** comes after the components of the directory. -/
theorem components_join {dir : Path} {name : String} {component : PathComponent}
    (hslash : '/' ∉ name.toList) (hdot : name.toList ≠ ['.'])
    (hname : componentOf? name.toList = some component) :
    (dir.join ⟨name⟩).components = dir.components ++ [component] := by
  have hrelative : (⟨name⟩ : Path).isAbsolute = false := by
    refine beq_eq_false_iff_ne.2 fun hhead => hslash (List.mem_of_head? hhead)
  have hone : componentsOf name.toList = [component] := by
    have hstart : name.toList.head? ≠ some '/' := fun hhead => hslash (List.mem_of_head? hhead)
    rw [componentsOf, splitAtSlashes_of_not_mem hslash, if_neg hstart]
    simp [hdot, hname]
  rw [join, if_neg (by simp [hrelative]), components, components]
  split
  · next hplace =>
    rcases (Bool.or_eq_true _ _).mp hplace with hempty | hlast
    · obtain rfl : dir = ⟨""⟩ := by
        rw [String.isEmpty_iff] at hempty
        exact congrArg Path.mk hempty
      exact (congrArg componentsOf (by simp)).trans hone
    · obtain ⟨before, hbefore⟩ := List.getLast?_eq_some_iff.1 (beq_iff_eq.1 hlast)
      have hchars : (dir.text ++ name).toList = before ++ '/' :: name.toList := by
        rw [String.toList_append, hbefore, List.append_assoc]
        rfl
      rw [hchars, hbefore, componentsOf_append_name hslash hname]
  · next hplace =>
    have hnonempty : dir.text.toList ≠ [] := by
      intro hnil
      refine hplace ?_
      rw [String.toList_eq_nil_iff.1 hnil]
      rfl
    have hchars : (dir.text ++ "/" ++ name).toList = dir.text.toList ++ '/' :: name.toList := by
      simp
    rw [hchars, componentsOf_append_name hslash hname, componentsOf_concat_slash hnonempty]

/-! ## The directories around a path -/

/-- The path lies strictly below the other one. -/
def IsBelow (p outer : Path) : Prop :=
  outer.components <+: p.components ∧ p.components ≠ outer.components

instance (p outer : Path) : Decidable (p.IsBelow outer) := inferInstanceAs (Decidable (_ ∧ _))

theorem IsBelow.length_lt {p outer : Path} (h : p.IsBelow outer) :
    outer.components.length < p.components.length :=
  h.1.length_le.lt_of_ne fun hlength => h.2 (h.1.eq_of_length hlength).symm

theorem IsBelow.trans {p q r : Path} (h : p.IsBelow q) (h' : q.IsBelow r) : p.IsBelow r :=
  ⟨h'.1.trans h.1, fun heq => absurd (heq ▸ h.length_lt) (Nat.lt_asymm h'.length_lt)⟩

variable {p dir outer : Path} {steps : Nat}

theorem prefix_dropLast {α : Type} {before whole : List α} (h : before <+: whole)
    (hne : before ≠ whole) : before <+: whole.dropLast := by
  rcases List.eq_nil_or_concat' whole with rfl | ⟨init, last, rfl⟩
  · exact absurd (List.prefix_nil.1 h) hne
  · rw [List.dropLast_concat]
    exact (List.prefix_concat_iff.1 h).resolve_left hne

/-- What holds a path lies above it. -/
theorem isBelow_parent (h : p.parent? = some dir) : p.IsBelow dir := by
  have hnonempty : p.components ≠ [] := by
    intro hempty
    rw [parent?, hempty] at h
    exact absurd h (by simp)
  rw [IsBelow, components_parent h]
  refine ⟨List.dropLast_prefix _, fun heq => ?_⟩
  have hlength := congrArg List.length heq
  rw [List.length_dropLast] at hlength
  have := List.length_pos_iff.2 hnonempty
  omega

theorem ancestorsUpTo_of_parent (h : p.parent? = some dir) (steps : Nat) :
    p.ancestorsUpTo (steps + 1) = p :: dir.ancestorsUpTo steps := by
  rw [ancestorsUpTo, h]

theorem ancestorsUpTo_of_none (h : p.parent? = none) (steps : Nat) :
    p.ancestorsUpTo steps = [p] := by
  cases steps with
  | zero => rfl
  | succ steps => rw [ancestorsUpTo, h]

theorem prefix_of_mem_ancestorsUpTo (h : dir ∈ p.ancestorsUpTo steps) :
    dir.components <+: p.components := by
  induction steps generalizing p with
  | zero => exact List.mem_singleton.1 h ▸ List.prefix_rfl
  | succ steps ih =>
    cases hparent : p.parent? with
    | none =>
      rw [ancestorsUpTo_of_none hparent] at h
      exact List.mem_singleton.1 h ▸ List.prefix_rfl
    | some parent =>
      rw [ancestorsUpTo_of_parent hparent] at h
      rcases List.mem_cons.1 h with rfl | h
      · exact List.prefix_rfl
      · exact (ih h).trans (isBelow_parent hparent).1

/-- Each of the directories around a path lies below the ones after it. -/
theorem pairwise_ancestorsUpTo (p : Path) (steps : Nat) :
    (p.ancestorsUpTo steps).Pairwise IsBelow := by
  induction steps generalizing p with
  | zero => exact List.pairwise_singleton _ p
  | succ steps ih =>
    cases hparent : p.parent? with
    | none =>
      rw [ancestorsUpTo_of_none hparent]
      exact List.pairwise_singleton _ p
    | some parent =>
      rw [ancestorsUpTo_of_parent hparent]
      refine List.pairwise_cons.2 ⟨fun dir hdir => ?_, ih parent⟩
      have hbelow := isBelow_parent hparent
      refine ⟨(prefix_of_mem_ancestorsUpTo hdir).trans hbelow.1, fun heq => ?_⟩
      have hlength := (prefix_of_mem_ancestorsUpTo hdir).length_le
      have := hbelow.length_lt
      rw [heq] at this
      omega

/-- **The directories around a path are all there**: one for each prefix of its components, except
that an absolute path has none without components. -/
theorem exists_mem_ancestorsUpTo {components : List PathComponent} (hnonempty : components ≠ [])
    (hstarts : components <+: p.components)
    (hsteps : p.components.length ≤ steps + components.length) :
    ∃ dir ∈ p.ancestorsUpTo steps, dir.components = components := by
  induction steps generalizing p with
  | zero =>
    exact ⟨p, List.mem_singleton_self p, (hstarts.eq_of_length_le (by omega)).symm⟩
  | succ steps ih =>
    by_cases heq : components = p.components
    · refine ⟨p, ?_, heq.symm⟩
      rw [ancestorsUpTo]
      split <;> exact List.mem_cons_self
    · have hshorter := prefix_dropLast hstarts heq
      cases hparent : p.parent? with
      | none =>
        -- Nothing but the path itself is left.
        rcases components_of_parent?_eq_none hparent with hcomponents | hcomponents
        · rw [hcomponents] at hstarts
          exact absurd (List.prefix_nil.1 hstarts) hnonempty
        · rw [hcomponents] at hshorter
          exact absurd (List.prefix_nil.1 hshorter) hnonempty
      | some parent =>
        rw [← components_parent hparent] at hshorter
        have hlength := congrArg List.length (components_parent hparent)
        rw [List.length_dropLast] at hlength
        obtain ⟨dir, hdir, hcomponents⟩ := ih hshorter (by omega)
        rw [ancestorsUpTo_of_parent hparent]
        exact ⟨dir, List.mem_cons_of_mem _ hdir, hcomponents⟩

theorem same_eq_false_iff {p q : Path} : p.same q = false ↔ p.components ≠ q.components := by
  rw [same, beq_eq_false_iff_ne]

/-- A path is met before another one that lies around it or is the same, and then what is met in the
rest. -/
theorem mem_takeWhile_cons {rest : List Path} (h : outer.components <+: p.components)
    (hrest : ∀ q ∈ rest, q.components <+: p.components)
    (ih : p.components ≠ outer.components →
      (dir ∈ rest.takeWhile (fun q => !q.same outer) ↔ dir ∈ rest ∧ dir.IsBelow outer)) :
    dir ∈ (p :: rest).takeWhile (fun q => !q.same outer) ↔
      dir ∈ p :: rest ∧ dir.IsBelow outer := by
  by_cases heq : p.components = outer.components
  · have hnone : (p :: rest).takeWhile (fun q => !q.same outer) = [] := by
      simp [same, heq]
    rw [hnone]
    refine iff_of_false List.not_mem_nil ?_
    rintro ⟨hmem, hbelow⟩
    have hstarts : dir.components <+: p.components := by
      rcases List.mem_cons.1 hmem with rfl | hmem
      · exact List.prefix_rfl
      · exact hrest dir hmem
    have := hbelow.length_lt
    have := hstarts.length_le
    rw [heq] at this
    omega
  · have hfirst : (p :: rest).takeWhile (fun q => !q.same outer) =
        p :: rest.takeWhile (fun q => !q.same outer) := by
      rw [List.takeWhile_cons_of_pos (by simp [same_eq_false_iff.2 heq])]
    rw [hfirst, List.mem_cons, List.mem_cons, ih heq, or_and_right]
    refine or_congr_left ⟨?_, And.left⟩
    rintro rfl
    exact ⟨rfl, h, heq⟩

/-- **Those that are met before a path around them** lie below it. -/
theorem mem_takeWhile_ancestorsUpTo (h : outer.components <+: p.components) :
    dir ∈ (p.ancestorsUpTo steps).takeWhile (fun q => !q.same outer) ↔
      dir ∈ p.ancestorsUpTo steps ∧ dir.IsBelow outer := by
  induction steps generalizing p with
  | zero => exact mem_takeWhile_cons h (fun _ hq => absurd hq List.not_mem_nil) fun _ => by simp
  | succ steps ih =>
    cases hparent : p.parent? with
    | none =>
      rw [ancestorsUpTo_of_none hparent]
      exact mem_takeWhile_cons h (fun _ hq => absurd hq List.not_mem_nil) fun _ => by simp
    | some parent =>
      rw [ancestorsUpTo_of_parent hparent]
      refine mem_takeWhile_cons h (fun q hq => ?_) fun hne => ih ?_
      · exact (prefix_of_mem_ancestorsUpTo hq).trans (isBelow_parent hparent).1
      · rw [components_parent hparent]
        exact prefix_dropLast h (Ne.symm hne)

/-! ## The directories strictly around a path -/

/-- The directories strictly around a path, innermost first. -/
def directories (p : Path) : List Path := p.ancestors.drop 1

theorem ancestors_eq (p : Path) : p.ancestors = p :: p.directories := by
  rw [directories, ancestors]
  cases p.components.length with
  | zero => rfl
  | succ steps =>
    rw [ancestorsUpTo]
    split <;> rfl

theorem pairwise_directories (p : Path) : p.directories.Pairwise IsBelow := by
  have h := pairwise_ancestorsUpTo p p.components.length
  rw [← ancestors, ancestors_eq] at h
  exact (List.pairwise_cons.1 h).2

/-- A path lies strictly below the directories around it. -/
theorem isBelow_of_mem_directories (h : dir ∈ p.directories) : p.IsBelow dir := by
  have hpairwise := pairwise_ancestorsUpTo p p.components.length
  rw [← ancestors, ancestors_eq] at hpairwise
  exact (List.pairwise_cons.1 hpairwise).1 dir h

/-- **The directories strictly around a path** are all there, one for each shorter prefix of its
components. -/
theorem exists_mem_directories {components : List PathComponent} (hnonempty : components ≠ [])
    (hstarts : components <+: p.components) (hne : components ≠ p.components) :
    ∃ dir ∈ p.directories, dir.components = components := by
  have henough : p.components.length ≤ p.components.length + components.length := by omega
  obtain ⟨dir, hdir, hcomponents⟩ := exists_mem_ancestorsUpTo hnonempty hstarts henough
  rw [← ancestors, ancestors_eq] at hdir
  rcases List.mem_cons.1 hdir with rfl | hdir
  · exact absurd hcomponents.symm hne
  · exact ⟨dir, hdir, hcomponents⟩

/-- The directories that are met before one that is strictly around the path lie below it. -/
theorem mem_takeWhile_directories (h : p.IsBelow outer) :
    dir ∈ p.directories.takeWhile (fun q => !q.same outer) ↔
      dir ∈ p.directories ∧ dir.IsBelow outer := by
  have hall : dir ∈ (p.ancestorsUpTo p.components.length).takeWhile (fun q => !q.same outer) ↔
      dir ∈ p.ancestorsUpTo p.components.length ∧ dir.IsBelow outer :=
    mem_takeWhile_ancestorsUpTo h.1
  rw [← ancestors, ancestors_eq,
    List.takeWhile_cons_of_pos (by simp [same_eq_false_iff.2 h.2])] at hall
  constructor
  · intro hmem
    have hdir := (List.takeWhile_sublist _).mem hmem
    exact ⟨hdir, (hall.1 (List.mem_cons_of_mem _ hmem)).2⟩
  · rintro ⟨hmem, hbelow⟩
    rcases List.mem_cons.1 (hall.2 ⟨List.mem_cons_of_mem _ hmem, hbelow⟩) with rfl | htaken
    · exact absurd rfl (isBelow_of_mem_directories hmem).2
    · exact htaken

/-- If the path is looked for among the directories around it, all of them are met. -/
theorem takeWhile_directories_of_same (h : p.same outer = true) :
    p.directories.takeWhile (fun q => !q.same outer) = p.directories := by
  refine List.takeWhile_eq_self_iff.2 fun dir hdir => ?_
  have hbelow := isBelow_of_mem_directories hdir
  rw [same, beq_iff_eq] at h
  rw [same_eq_false_iff.2 (h ▸ Ne.symm hbelow.2)]
  rfl

end Path

end FormatChain
