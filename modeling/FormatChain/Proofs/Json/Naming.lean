import FormatChain.Json.Reader
import FormatChain.Proofs.OrderedMap

/-!
# The names in a value that was read

A text may give a name twice in one mapping; the value that is read never does, in no mapping at
whatever depth.  The reader keeps this for all that is still open while it goes over the tokens.

* `Value.WellNamed` : in no mapping of the value does a name stand twice.
* `Reading.WellNamed` : nor in anything that is still open.
* `Reading.WellNamed.next` : one more token keeps this.
* `wellNamed_of_read` : the value that is read is well named.
-/

namespace FormatChain.Json

/-! ## Values -/

/-- In no mapping of the value does a name stand twice. -/
inductive Value.WellNamed : Value → Prop where
  /-- Null has no names. -/
  | null : WellNamed .null
  /-- A truth value has no names. -/
  | bool (value : Bool) : WellNamed (.bool value)
  /-- A number has no names. -/
  | number (value : Number) : WellNamed (.number value)
  /-- A text has no names. -/
  | string (value : String) : WellNamed (.string value)
  /-- The items of a sequence are well named. -/
  | array {items : List Value} (hitems : ∀ item ∈ items, WellNamed item) : WellNamed (.array items)
  /-- The names of a mapping differ, and its values are well named. -/
  | object {fields : List (String × Value)} (hnodup : (Entries.names fields).Nodup)
      (hfields : ∀ field ∈ fields, WellNamed field.2) : WellNamed (.object fields)

/-! ## What is open -/

/-- In what was read of the mapping or sequence no name stands twice. -/
def Open.WellNamed : Open → Prop
  | .object _ fields _ => (Value.object fields).WellNamed
  | .array _ items => (Value.array items).WellNamed

/-- In all that was read no name stands twice. -/
structure Reading.WellNamed (r : Reading) : Prop where
  /-- What is open is well named. -/
  stack : ∀ inner ∈ r.stack, inner.WellNamed
  /-- A value that is complete is well named. -/
  complete : ∀ value, r.expected = .nothing value → value.WellNamed

/-- A mapping stays well named when a name is given a value. -/
theorem Value.WellNamed.set {fields : List (String × Value)} {value : Value}
    (h : (Value.object fields).WellNamed) (hvalue : value.WellNamed) (name : String) :
    (Value.object (Entries.set name value fields)).WellNamed := by
  cases h with
  | object hnodup hfields =>
    refine .object (Entries.nodup_set hnodup) fun field hmem => ?_
    rcases Entries.mem_set hmem with rfl | hmem
    · exact hvalue
    · exact hfields field hmem

namespace Reading

variable {r r' : Reading} {token : Token} {index : Nat}

/-- A place where something else is expected than the end holds no complete value. -/
theorem wellNamed_of_stack (hstack : ∀ inner ∈ r.stack, inner.WellNamed)
    (hexpected : ∀ value, r.expected ≠ .nothing value) : r.WellNamed :=
  ⟨hstack, fun value h => absurd h (hexpected value)⟩

theorem wellNamed_complete (hstack : ∀ inner ∈ r.stack, inner.WellNamed) {value : Value}
    (hvalue : value.WellNamed) : (r.complete value).WellNamed := by
  unfold Reading.complete
  split
  · refine ⟨hstack, fun other h => ?_⟩
    obtain rfl := Expectation.nothing.inj h
    exact hvalue
  · next start fields name outer heq =>
    rw [heq] at hstack
    obtain ⟨hinner, houter⟩ := List.forall_mem_cons.1 hstack
    exact wellNamed_of_stack (List.forall_mem_cons.2 ⟨hinner.set hvalue name, houter⟩) (by simp)
  · next start items outer heq =>
    rw [heq] at hstack
    obtain ⟨hinner, houter⟩ := List.forall_mem_cons.1 hstack
    have hitems : (Value.array (value :: items)).WellNamed := by
      cases hinner with
      | array hitems => exact .array (List.forall_mem_cons.2 ⟨hvalue, hitems⟩)
    exact wellNamed_of_stack (List.forall_mem_cons.2 ⟨hitems, houter⟩) (by simp)

theorem wellNamed_value (hstack : ∀ inner ∈ r.stack, inner.WellNamed)
    (h : r.value token index = .ok r') : r'.WellNamed := by
  unfold Reading.value at h
  split at h
  · obtain rfl := Except.ok.inj h
    have hempty : (Value.object []).WellNamed := .object List.nodup_nil (by simp)
    exact wellNamed_of_stack (List.forall_mem_cons.2 ⟨hempty, hstack⟩) (by simp)
  · obtain rfl := Except.ok.inj h
    have hempty : (Value.array []).WellNamed := .array (by simp)
    exact wellNamed_of_stack (List.forall_mem_cons.2 ⟨hempty, hstack⟩) (by simp)
  · obtain rfl := Except.ok.inj h
    exact wellNamed_complete hstack (.string _)
  · obtain rfl := Except.ok.inj h
    exact wellNamed_complete hstack (.bool _)
  · obtain rfl := Except.ok.inj h
    exact wellNamed_complete hstack .null
  · split at h
    · obtain rfl := Except.ok.inj h
      exact wellNamed_complete hstack (.number _)
    · obtain rfl := Except.ok.inj h
      exact ⟨(wellNamed_complete hstack .null).stack, (wellNamed_complete hstack .null).complete⟩
  all_goals exact absurd h (by simp)

theorem wellNamed_name (hstack : ∀ inner ∈ r.stack, inner.WellNamed)
    (hexpected : ∀ value, r.expected ≠ .nothing value) (name : String) :
    (r.name name).WellNamed := by
  unfold Reading.name
  split
  · next start fields other outer heq =>
    rw [heq] at hstack
    obtain ⟨hinner, houter⟩ := List.forall_mem_cons.1 hstack
    exact wellNamed_of_stack (List.forall_mem_cons.2 ⟨hinner, houter⟩) (by simp)
  · exact wellNamed_of_stack hstack hexpected

theorem wellNamed_close (hstack : ∀ inner ∈ r.stack, inner.WellNamed)
    (hexpected : ∀ value, r.expected ≠ .nothing value) : r.close.WellNamed := by
  unfold Reading.close
  split
  · next start fields name outer heq =>
    rw [heq] at hstack
    obtain ⟨hinner, houter⟩ := List.forall_mem_cons.1 hstack
    exact wellNamed_complete houter hinner
  · next start items outer heq =>
    rw [heq] at hstack
    obtain ⟨hinner, houter⟩ := List.forall_mem_cons.1 hstack
    have hitems : (Value.array items.reverse).WellNamed := by
      cases hinner with
      | array hitems => exact .array fun item hmem => hitems item (List.mem_reverse.1 hmem)
    exact wellNamed_complete houter hitems
  · exact wellNamed_of_stack hstack hexpected

theorem wellNamed_member (hstack : ∀ inner ∈ r.stack, inner.WellNamed)
    (hexpected : ∀ value, r.expected ≠ .nothing value) (h : r.member token = .ok r') :
    r'.WellNamed := by
  unfold Reading.member at h
  split at h
  · obtain rfl := Except.ok.inj h
    exact wellNamed_close hstack hexpected
  · obtain rfl := Except.ok.inj h
    exact wellNamed_name hstack hexpected _
  · obtain rfl := Except.ok.inj h
    exact wellNamed_name hstack hexpected _
  · obtain rfl := Except.ok.inj h
    exact wellNamed_name hstack hexpected _
  · exact absurd h (by simp)

theorem wellNamed_element (hstack : ∀ inner ∈ r.stack, inner.WellNamed)
    (hexpected : ∀ value, r.expected ≠ .nothing value) (h : r.element token index = .ok r') :
    r'.WellNamed := by
  unfold Reading.element at h
  split at h
  · obtain rfl := Except.ok.inj h
    exact wellNamed_close hstack hexpected
  · exact wellNamed_value hstack h

/-- **One more token** leaves all that was read well named. -/
theorem WellNamed.next (hr : r.WellNamed) (h : r.next token index = .ok r') : r'.WellNamed := by
  unfold Reading.next at h
  split at h
  · exact wellNamed_value hr.stack h
  · exact wellNamed_value hr.stack h
  · next heq => exact wellNamed_member hr.stack (by simp [heq]) h
  · next heq =>
    split at h
    · obtain rfl := Except.ok.inj h
      exact wellNamed_of_stack hr.stack (by simp)
    · exact wellNamed_member hr.stack (by simp [heq]) h
  · split at h
    · obtain rfl := Except.ok.inj h
      exact wellNamed_of_stack hr.stack (by simp)
    · exact absurd h (by simp)
  · next heq => exact wellNamed_element hr.stack (by simp [heq]) h
  · next heq =>
    split at h
    · obtain rfl := Except.ok.inj h
      exact wellNamed_of_stack hr.stack (by simp)
    · exact wellNamed_element hr.stack (by simp [heq]) h
  · exact absurd h (by simp)

theorem WellNamed.finish (hr : r.WellNamed) {value : Value}
    (h : r.finish index = .ok (some value)) : value.WellNamed := by
  unfold Reading.finish at h
  split at h
  · exact absurd h (by simp)
  · next heq =>
    obtain rfl := Option.some.inj (Except.ok.inj h)
    exact hr.complete _ heq
  all_goals exact absurd h (by simp)

end Reading

/-! ## Texts -/

theorem wellNamed_of_readTokens {r : Reading} (hr : r.WellNamed) {tokens : Tokens} {value : Value}
    {tooLarge : Bool} (h : readTokens r tokens = .ok (some value, tooLarge)) :
    value.WellNamed := by
  induction tokens generalizing r with
  | finish index =>
    rw [readTokens] at h
    cases hfinish : r.finish index with
    | error e =>
      rw [hfinish] at h
      exact absurd h (by simp [Except.map])
    | ok found =>
      rw [hfinish] at h
      obtain ⟨rfl, -⟩ := Prod.mk.inj (Except.ok.inj h)
      exact hr.finish hfinish
  | fault fault index =>
    rw [readTokens] at h
    exact absurd h (by simp)
  | token token index rest ih =>
    rw [readTokens] at h
    cases hnext : r.next token index with
    | error fault =>
      rw [hnext] at h
      exact absurd h (by simp)
    | ok after =>
      rw [hnext] at h
      exact ih (hr.next hnext) h

/-- **A value that was read is well named.** -/
theorem wellNamed_of_read {text : String} {value : Value} (h : read text = .ok (some value)) :
    value.WellNamed := by
  have hstart : Reading.WellNamed ⟨[], .root, false⟩ :=
    Reading.wellNamed_of_stack (by simp) (by simp)
  unfold read at h
  dsimp only at h
  split at h
  · exact absurd h (by simp)
  · next found heq =>
    obtain rfl := Except.ok.inj h
    exact wellNamed_of_readTokens hstart heq
  · exact absurd h (by simp)

end FormatChain.Json
