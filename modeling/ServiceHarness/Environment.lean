import ServiceHarness.KeyMap

/-!
# Environments and patches

An `Environment` gives variables their values.  A `Patch` is a set of changes to be made
to an environment that is not known yet: `Patch.assign` gives a variable a value,
`Patch.withdraw` takes the variable out, and the last change of a variable counts.  The
two kinds of changes are kept apart, and no variable has both.  `Patch.applyTo` makes the
changes: first all withdrawals, then all assignments.
-/

namespace ServiceHarness

/-- The values of the variables that a process sees. -/
abbrev Environment := KeyMap String

/-- Changes to an environment: the variables that get a value and those that are taken
out. -/
structure Patch where
  /-- The values of the variables that get one. -/
  values : KeyMap String
  /-- The variables that are taken out. -/
  removed : KeyMap Unit
  /-- No variable gets a value and is taken out. -/
  exclusive : ∀ k, (values.get? k).isSome → removed.get? k = none
  deriving DecidableEq

namespace Patch

/-- The patch that changes nothing. -/
def empty : Patch where
  values := KeyMap.empty
  removed := KeyMap.empty
  exclusive := fun _ _ => rfl

instance : Inhabited Patch := ⟨empty⟩

/-- The patch that also gives `name` the value `value`. -/
def assign (p : Patch) (name value : String) : Patch where
  values := p.values.insert name value
  removed := p.removed.erase name
  exclusive := by
    intro k
    rw [KeyMap.get?_insert, KeyMap.get?_erase]
    split
    · exact fun _ => rfl
    · apply p.exclusive

/-- The patch that also takes `name` out. -/
def withdraw (p : Patch) (name : String) : Patch where
  values := p.values.erase name
  removed := p.removed.insert name ()
  exclusive := by
    intro k
    rw [KeyMap.get?_erase, KeyMap.get?_insert]
    split
    · intro h
      cases h
    · apply p.exclusive

/-- The value that the patch gives `name`, if it gives one. -/
def value? (p : Patch) (name : String) : Option String :=
  p.values.get? name

/-- Whether the patch takes `name` out. -/
def withdraws (p : Patch) (name : String) : Bool :=
  (p.removed.get? name).isSome

/-- The variables that the patch gives values, in ascending order. -/
def assigned (p : Patch) : List (String × String) :=
  p.values.entries

/-- The variables that the patch takes out, in ascending order. -/
def withdrawn (p : Patch) : List String :=
  p.removed.entries.map Prod.fst

/-- Whether the patch changes nothing. -/
def isEmpty (p : Patch) : Bool :=
  p.values.isEmpty && p.removed.isEmpty

/-- The environment after the changes: the withdrawn variables go first, then the
assigned ones get their values. -/
def applyTo (p : Patch) (env : Environment) : Environment :=
  p.assigned.foldl (fun e a => e.insert a.1 a.2)
    (p.withdrawn.foldl (fun e v => e.erase v) env)

/-- One change of a variable. -/
inductive Step where
  /-- The variable gets a value. -/
  | assign (name value : String)
  /-- The variable is taken out. -/
  | withdraw (name : String)
  deriving DecidableEq, Repr

/-- The patch with one more change. -/
def step (p : Patch) : Step → Patch
  | .assign k v => p.assign k v
  | .withdraw k => p.withdraw k

/-- The patch of the given changes, made in order. -/
def ofSteps (steps : List Step) : Patch :=
  steps.foldl step empty

theorem value?_assign (p : Patch) (k k' v : String) :
  (p.assign k v).value? k' = if k' = k then some v else p.value? k'
  := KeyMap.get?_insert p.values k k' v

theorem value?_withdraw (p : Patch) (k k' : String) :
  (p.withdraw k).value? k' = if k' = k then none else p.value? k'
  := KeyMap.get?_erase p.values k k'

theorem withdraws_assign (p : Patch) (k k' v : String) :
  (p.assign k v).withdraws k' = if k' = k then false else p.withdraws k'
  := by
  unfold withdraws assign
  rw [KeyMap.get?_erase]
  split <;> rfl

theorem withdraws_withdraw (p : Patch) (k k' : String) :
  (p.withdraw k).withdraws k' = if k' = k then true else p.withdraws k'
  := by
  unfold withdraws withdraw
  rw [KeyMap.get?_insert]
  split <;> rfl

end Patch

end ServiceHarness
