import FormatChain.Proofs.Path.Around
import Mathlib.Data.List.Induction

/-!
# Where a path leads

As long as paths are compared, two dots are a component like any other.  Where a path leads is
another question: two dots take back the name before them, and go further up if there is none, but
not beyond the root.  So a path that starts with all components of another one may lead out of it,
and may also come back.

* `Path.destination` : where a path leads.
* `Path.Way`, `Path.wayOf` : how far some components go up in all, and by which names they come down
  from there.
* `Path.foldl_advance` : going on by components is going on by their way.
* `Path.LeadsBelow` : a path leads to a place strictly below the one that another path leads to.
* `Path.ComesBack` : the way from one path to another one comes down below where it started.
* `Path.leadsBelow_iff_comesBack` : these are the same.
-/

namespace FormatChain

namespace Path

/-! ## The components of a path, one by one -/

/-- A component that can stand anywhere in a path. -/
def IsStep (component : PathComponent) : Prop :=
  component = .up ∨ ∃ text, component = .name text

theorem isStep_of_componentOf? {part : List Char} {component : PathComponent}
    (h : componentOf? part = some component) : IsStep component := by
  unfold componentOf? at h
  split at h
  · exact absurd h (by simp)
  · split at h
    · exact .inl (Option.some.inj h).symm
    · exact .inr ⟨part, (Option.some.inj h).symm⟩

/-- After its first component a path has nothing but names and two dots. -/
theorem isStep_of_mem_tail {p : Path} {component : PathComponent}
    (h : component ∈ p.components.tail) : IsStep component := by
  have hparts : ∀ c ∈ (splitAtSlashes p.text.toList).filterMap componentOf?, IsStep c := by
    intro c hc
    obtain ⟨part, -, hpart⟩ := List.mem_filterMap.1 hc
    exact isStep_of_componentOf? hpart
  unfold components componentsOf at h
  dsimp only at h
  split at h
  · exact hparts component h
  · split at h
    · exact hparts component h
    · exact hparts component (List.mem_of_mem_tail h)

theorem IsStep.ne_root {component : PathComponent} (h : IsStep component) : component ≠ .root := by
  rcases h with rfl | ⟨text, rfl⟩ <;> simp

/-! ## Going on from a place -/

/-- The place that is reached from a place by one component. -/
def advance (place : List PathComponent) : PathComponent → List PathComponent
  | .here => place
  | .up =>
    match place.getLast? with
    | some (.name _) => place.dropLast
    | some .root => place
    | _ => place ++ [.up]
  | component => place ++ [component]

/-- Where a path leads: its components without dots, two dots taken back together with the name
before them. -/
def destination (p : Path) : List PathComponent := p.components.foldl advance []

/-- How far some components go up in all, and the names by which they come down from there. -/
structure Way where
  /-- How far they go up. -/
  climbs : Nat
  /-- The names by which they come down, outermost first. -/
  names : List (List Char)
  deriving DecidableEq

/-- The way with one more component. -/
def Way.add (way : Way) : PathComponent → Way
  | .name text => { way with names := way.names ++ [text] }
  | .up =>
    if way.names = [] then { way with climbs := way.climbs + 1 }
    else { way with names := way.names.dropLast }
  | _ => way

/-- The way of some components. -/
def wayOf (components : List PathComponent) : Way := components.foldl Way.add ⟨0, []⟩

theorem wayOf_concat (components : List PathComponent) (last : PathComponent) :
    wayOf (components ++ [last]) = (wayOf components).add last :=
  List.foldl_concat ..

/-- The place reached by going up so far. -/
def climb (place : List PathComponent) : Nat → List PathComponent
  | 0 => place
  | steps + 1 => advance (climb place steps) .up

theorem advance_up_of_name (place : List PathComponent) (text : List Char) :
    advance (place ++ [.name text]) .up = place := by
  simp [advance]

/-- **Going on by components** is going up as far as they do and coming down by their names. -/
theorem foldl_advance {rest : List PathComponent} (h : .root ∉ rest) (place : List PathComponent) :
    rest.foldl advance place =
      climb place (wayOf rest).climbs ++ (wayOf rest).names.map .name := by
  induction rest using List.reverseRecOn with
  | nil => simp [wayOf, climb]
  | append_singleton rest component ih =>
    have hrest : .root ∉ rest := fun hmem => h (List.mem_append_left _ hmem)
    rw [List.foldl_concat, ih hrest, wayOf_concat]
    cases component with
    | root => exact absurd (List.mem_append_right _ (List.mem_singleton_self _)) h
    | here => rfl
    | name text => simp [advance, Way.add]
    | up =>
      rcases List.eq_nil_or_concat' (wayOf rest).names with hnames | ⟨names, last, hnames⟩
      · simp [Way.add, hnames, climb]
      · have hdown : advance (climb place (wayOf rest).climbs ++ (names ++ [last]).map .name) .up =
            climb place (wayOf rest).climbs ++ names.map .name := by
          rw [List.map_append, ← List.append_assoc]
          exact advance_up_of_name _ last
        simp only [Way.add, hnames, hdown]
        simp

/-- Going up by no more than there are names takes back as many of them. -/
theorem climb_of_le {top : List PathComponent} {names : List (List Char)} {steps : Nat}
    (h : steps ≤ names.length) :
    climb (top ++ names.map .name) steps =
      top ++ (names.take (names.length - steps)).map .name := by
  induction steps with
  | zero => simp [climb]
  | succ steps ih =>
    have hlast : names.take (names.length - steps) =
        names.take (names.length - (steps + 1)) ++ [names[names.length - (steps + 1)]] := by
      rw [List.take_append_getElem]
      congr 1
      omega
    rw [climb, ih (by omega), hlast, List.map_append, ← List.append_assoc]
    exact advance_up_of_name _ _

/-- Nothing lies above the root. -/
theorem climb_root (steps : Nat) : climb [.root] steps = [.root] := by
  induction steps with
  | zero => rfl
  | succ steps ih =>
    rw [climb, ih]
    rfl

theorem climb_nil (steps : Nat) : climb [] steps = List.replicate steps .up := by
  induction steps with
  | zero => rfl
  | succ steps ih =>
    rw [climb, ih, List.replicate_succ']
    cases steps with
    | zero => rfl
    | succ steps => simp [advance, List.replicate_succ']

theorem climb_add (place : List PathComponent) (steps more : Nat) :
    climb place (steps + more) = climb (climb place steps) more := by
  induction more with
  | zero => rfl
  | succ more ih =>
    rw [← Nat.add_assoc, climb, ih]
    rfl

/-- Going up by more than there are names goes on from above them. -/
theorem climb_of_ge {top : List PathComponent} {names : List (List Char)} {steps : Nat}
    (h : names.length ≤ steps) :
    climb (top ++ names.map .name) steps = climb top (steps - names.length) := by
  obtain ⟨more, rfl⟩ := Nat.exists_eq_add_of_le h
  have hnames : climb (top ++ names.map .name) names.length =
      top ++ (names.take (names.length - names.length)).map .name := climb_of_le (Nat.le_refl _)
  rw [climb_add, hnames, Nat.add_sub_cancel_left]
  simp

/-! ## Paths without two dots -/

/-- The names among some components. -/
def namesOf (components : List PathComponent) : List (List Char) :=
  components.filterMap fun
    | .name text => some text
    | _ => none

theorem namesOf_map_name (names : List (List Char)) : namesOf (names.map .name) = names := by
  induction names with
  | nil => rfl
  | cons name rest ih =>
    change name :: namesOf (rest.map .name) = name :: rest
    rw [ih]

theorem eq_map_name {components : List PathComponent}
    (h : ∀ component ∈ components, ∃ text, component = .name text) :
    components = (namesOf components).map .name := by
  induction components with
  | nil => rfl
  | cons component rest ih =>
    obtain ⟨text, rfl⟩ := h _ List.mem_cons_self
    have hrest := ih fun c hc => h c (List.mem_cons_of_mem _ hc)
    change PathComponent.name text :: rest = .name text :: (namesOf rest).map .name
    rw [← hrest]

/-- By names alone one comes down. -/
theorem wayOf_map_name (names : List (List Char)) : wayOf (names.map .name) = ⟨0, names⟩ := by
  induction names using List.reverseRecOn with
  | nil => rfl
  | append_singleton names name ih =>
    rw [List.map_append, List.map_singleton, wayOf_concat, ih]
    rfl

/-- A path without two dots leads to its names, from the root if it starts there. -/
theorem destination_of_not_mem_up {p : Path} (h : .up ∉ p.components) :
    p.destination =
      (if p.components.head? = some .root then [.root] else []) ++
        (namesOf p.components).map .name := by
  have hnames : ∀ component ∈ p.components.tail, ∃ text, component = .name text := by
    intro component hmem
    rcases isStep_of_mem_tail hmem with rfl | hname
    · exact absurd (List.mem_of_mem_tail hmem) h
    · exact hname
  have hdown (place : List PathComponent) : p.components.tail.foldl advance place =
      place ++ (namesOf p.components.tail).map .name := by
    have hway := wayOf_map_name (namesOf p.components.tail)
    rw [← eq_map_name hnames] at hway
    have hroot : .root ∉ p.components.tail := fun hmem => (isStep_of_mem_tail hmem).ne_root rfl
    rw [foldl_advance hroot, hway]
    rfl
  unfold destination
  generalize p.components = components at hdown h ⊢
  cases components with
  | nil => rfl
  | cons first rest =>
    rw [List.foldl_cons]
    refine (hdown _).trans ?_
    cases first with
    | root => rfl
    | here => rfl
    | name text => rfl
    | up => exact absurd List.mem_cons_self h

/-! ## Below a place -/

/-- The path leads to a place strictly below the one that the other path leads to. -/
def LeadsBelow (p outer : Path) : Prop :=
  ∃ names : List (List Char), names ≠ [] ∧ p.destination = outer.destination ++ names.map .name

/-- The names by which it would lead there are those that its destination has further. -/
theorem leadsBelow_iff {p outer : Path} :
    p.LeadsBelow outer ↔
      namesOf (p.destination.drop outer.destination.length) ≠ [] ∧
        p.destination = outer.destination ++
          (namesOf (p.destination.drop outer.destination.length)).map .name := by
  constructor
  · rintro ⟨names, hnonempty, heq⟩
    have hnames : namesOf (p.destination.drop outer.destination.length) = names := by
      rw [heq, List.drop_left, namesOf_map_name]
    rw [hnames]
    exact ⟨hnonempty, heq⟩
  · rintro ⟨hnonempty, heq⟩
    exact ⟨_, hnonempty, heq⟩

instance (p outer : Path) : Decidable (p.LeadsBelow outer) :=
  decidable_of_iff _ leadsBelow_iff.symm

/-- Where a path leads is a matter of its components. -/
theorem leadsBelow_congr {p q outer : Path} (h : p.components = q.components) :
    p.LeadsBelow outer ↔ q.LeadsBelow outer := by
  unfold LeadsBelow destination
  rw [h]

/-- The way from one path to another one comes down below where it started: it goes up no further
than it can, down again by the names that it took back, and then by further names. -/
def ComesBack (p outer : Path) : Prop :=
  let rest := p.components.drop outer.components.length
  let left := namesOf outer.components
  let way := wayOf rest
  .root ∉ rest ∧ (way.climbs ≤ left.length ∨ outer.components.head? = some .root) ∧
    ∃ names, names ≠ [] ∧ way.names = left.drop (left.length - way.climbs) ++ names

/-- The root is where a path leads only if the path starts there. -/
theorem root_mem_foldl_advance {place components : List PathComponent} :
    .root ∈ components.foldl advance place ↔ .root ∈ place ∨ .root ∈ components := by
  induction components generalizing place with
  | nil => simp
  | cons component rest ih =>
    rw [List.foldl_cons, ih, List.mem_cons, ← or_assoc]
    refine or_congr_left ?_
    cases component with
    | root => simp [advance]
    | here => simp [advance]
    | name text => simp [advance]
    | up =>
      rcases List.eq_nil_or_concat' place with rfl | ⟨outer, last, rfl⟩
      · simp [advance]
      · cases last <;> simp [advance]

theorem map_name_injective : Function.Injective (List.map PathComponent.name) :=
  List.map_injective_iff.2 fun _ _ h => PathComponent.name.inj h

/-- Going up by no more than there are names, and down again, ends below if one comes down by the
names taken back and some more. -/
theorem climb_append_eq_iff_of_le {top : List PathComponent} {left down names : List (List Char)}
    {steps : Nat} (h : steps ≤ left.length) :
    climb (top ++ left.map .name) steps ++ down.map .name =
        top ++ left.map .name ++ names.map .name ↔
      down = left.drop (left.length - steps) ++ names := by
  have hsplit : left.take (left.length - steps) ++ (left.drop (left.length - steps) ++ names) =
      left ++ names := by
    rw [← List.append_assoc, List.take_append_drop]
  rw [climb_of_le h, List.append_assoc, List.append_assoc, List.append_cancel_left_eq,
    ← List.map_append, ← List.map_append, map_name_injective.eq_iff, ← hsplit,
    List.append_cancel_left_eq]

/-- Going up to the root, it is all names that one has to come down by again. -/
theorem climb_append_eq_iff_of_root {left down names : List (List Char)} {steps : Nat}
    (h : left.length ≤ steps) :
    climb ([.root] ++ left.map .name) steps ++ down.map .name =
        [.root] ++ left.map .name ++ names.map .name ↔
      down = left ++ names := by
  rw [climb_of_ge h, climb_root, List.append_assoc, List.append_cancel_left_eq,
    ← List.map_append, map_name_injective.eq_iff]

/-- Going up by more than there are names, from nowhere, leaves two dots at the start. -/
theorem climb_append_ne {left down names : List (List Char)} {steps : Nat}
    (h : left.length < steps) :
    climb (left.map .name) steps ++ down.map .name ≠ left.map .name ++ names.map .name := by
  intro heq
  have hclimb : climb (left.map .name) steps = List.replicate (steps - left.length) .up := by
    have htop : climb ([] ++ left.map .name) steps = climb [] (steps - left.length) :=
      climb_of_ge h.le
    rw [← climb_nil, ← htop, List.nil_append]
  have hmem : PathComponent.up ∈ left.map .name ++ names.map .name := by
    rw [← heq, hclimb]
    exact List.mem_append_left _ (List.mem_replicate.2 ⟨by omega, rfl⟩)
  simp at hmem

/-- A path does not lead below a relative one if it starts again at the root. -/
theorem not_leadsBelow_of_root_mem {p outer : Path} {rest : List PathComponent}
    (hrest : outer.components ++ rest = p.components) (hroot : .root ∈ rest) :
    ¬ p.LeadsBelow outer := by
  have hempty : outer.components = [] := by
    cases hcomponents : outer.components with
    | nil => rfl
    | cons first others =>
      have hmem : .root ∈ p.components.tail := by
        rw [← hrest, hcomponents]
        exact List.mem_append_right _ hroot
      exact absurd rfl (isStep_of_mem_tail hmem).ne_root
  rintro ⟨names, -, heq⟩
  have hmem : .root ∈ p.destination := by
    rw [destination, ← hrest]
    exact root_mem_foldl_advance.2 (.inr (List.mem_append_right _ hroot))
  rw [heq, destination, hempty] at hmem
  simp at hmem

/-- **A path leads below one that it starts with**, if that has no two dots, exactly if the way
between them comes back. -/
theorem leadsBelow_iff_comesBack {p outer : Path} (hup : .up ∉ outer.components)
    (hstarts : outer.components <+: p.components) : p.LeadsBelow outer ↔ p.ComesBack outer := by
  obtain ⟨rest, hrest⟩ := hstarts
  have hdrop : p.components.drop outer.components.length = rest := by
    rw [← hrest, List.drop_left]
  have hdestination : p.destination = rest.foldl advance outer.destination := by
    rw [destination, ← hrest, List.foldl_append]
    rfl
  unfold ComesBack
  simp only [hdrop]
  by_cases hroot : .root ∈ rest
  · exact iff_of_false (not_leadsBelow_of_root_mem hrest hroot) fun h => h.1 hroot
  · unfold LeadsBelow
    rw [hdestination, foldl_advance hroot, destination_of_not_mem_up hup]
    simp only [hroot, not_false_eq_true, true_and]
    generalize namesOf outer.components = left
    generalize wayOf rest = way
    by_cases hfew : way.climbs ≤ left.length
    · simp only [hfew, climb_append_eq_iff_of_le hfew, true_or, true_and]
    · have hmany : left.length ≤ way.climbs := by omega
      rw [Nat.sub_eq_zero_of_le hmany, List.drop_zero]
      by_cases habsolute : outer.components.head? = some .root
      · rw [if_pos habsolute]
        simp only [habsolute, climb_append_eq_iff_of_root hmany, or_true, true_and]
      · rw [if_neg habsolute, List.nil_append]
        refine iff_of_false ?_ fun h => h.1.elim hfew habsolute
        rintro ⟨names, -, heq⟩
        exact climb_append_ne (by omega) heq

/-- A path may leave by two dots and come back. -/
example : (⟨"/project/../project/a"⟩ : Path).LeadsBelow ⟨"/project"⟩ := by decide

/-- By names alone a path leads below. -/
theorem leadsBelow_of_names {p outer : Path} (hbelow : p.IsBelow outer)
    (hup : .up ∉ outer.components)
    (hnames : ∀ component ∈ p.components.drop outer.components.length,
      ∃ text, component = .name text) : p.LeadsBelow outer := by
  rw [leadsBelow_iff_comesBack hup hbelow.1]
  have hway := wayOf_map_name (namesOf (p.components.drop outer.components.length))
  rw [← eq_map_name hnames] at hway
  refine ⟨fun hroot => ?_, ?_⟩
  · obtain ⟨text, htext⟩ := hnames _ hroot
    exact absurd htext (by simp)
  · rw [hway]
    refine ⟨.inl (Nat.zero_le _), namesOf (p.components.drop outer.components.length),
      fun hnone => ?_, by simp⟩
    have hlength := congrArg List.length (eq_map_name hnames)
    have := hbelow.length_lt
    rw [hnone, List.length_drop, List.map_nil, List.length_nil] at hlength
    omega

end Path

end FormatChain
