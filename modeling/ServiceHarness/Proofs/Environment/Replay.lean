import Mathlib.Data.List.Induction
import ServiceHarness.Machine.Host
import ServiceHarness.Proofs.Plan.StagePatches

/-!
# Patches and the steps that make them

The steps of a patch come in one order and are used in another: a process is begun in an environment
from which first everything is withdrawn, and then everything is assigned.  `Patch.play` makes the
steps one after the other on the environment itself, and comes to the same
(`Patch.ofSteps_amountsTo`): what a patch looks up, withdraws and assigns is what the last step of
each variable says.
-/

namespace ServiceHarness.Patch

variable {p : Patch}

/-! ### What a patch does to an environment -/

/-- A patch assigns the values that it looks up. -/
theorem mem_assigned_iff (p : Patch) (k v : String) :
  (k, v) ∈ p.assigned ↔ p.value? k = some v
  := KeyMap.mem_entries_iff p.values k v

/-- A patch takes out the variables that it withdraws. -/
theorem mem_withdrawn_iff (p : Patch) (k : String) :
  k ∈ p.withdrawn ↔ p.withdraws k = true
  := by
  rw [withdrawn, List.mem_map, withdraws, Option.isSome_iff_exists]
  constructor
  · rintro ⟨⟨_, found⟩, hmem, rfl⟩
    exact ⟨found, (KeyMap.mem_entries_iff ..).mp hmem⟩
  · rintro ⟨found, hfound⟩
    exact ⟨(k, found), (KeyMap.mem_entries_iff ..).mpr hfound, rfl⟩

/-- A patch does not withdraw a variable that it gives a value. -/
theorem withdraws_of_value? {k v : String} (h : p.value? k = some v) :
  p.withdraws k = false
  := by
  have hvalue : (p.values.get? k).isSome := Option.isSome_of_eq_some h
  rw [withdraws, p.exclusive k hvalue]
  rfl

/-- No two of the values that a patch assigns are of one variable. -/
theorem assigned_pairwise (p : Patch) :
  p.assigned.Pairwise (fun a b => a.1 ≠ b.1)
  := by
  apply p.values.ascending.imp
  intro a b hlt
  exact Std.ne_of_lt hlt

/-- A variable has the value that the patch assigns to it, or else the one that it had, unless the
patch withdraws it. -/
theorem get?_applyTo (p : Patch) (env : Environment) (k : String) :
  (p.applyTo env).get? k
    = (p.value? k).or (if p.withdraws k then none else env.get? k)
  := by
  rw [applyTo]
  cases hvalue : p.value? k with
  | some v =>
    rw [KeyMap.get?_foldl_insert_of_mem p.assigned_pairwise ((mem_assigned_iff p k v).mpr hvalue)]
    rfl
  | none =>
    have hnone : ∀ e ∈ p.assigned, e.1 ≠ k := by
      rintro ⟨_, v⟩ hmem rfl
      rw [mem_assigned_iff, hvalue] at hmem
      cases hmem
    rw [KeyMap.get?_foldl_insert_of_notMem hnone, KeyMap.get?_foldl_erase, Option.none_or]
    simp only [mem_withdrawn_iff]

/-! ### Playing steps -/

/-- The environment after a step has been made on it. -/
def Step.applyTo (env : Environment) : Step → Environment
  | .assign k v => env.insert k v
  | .withdraw k => env.erase k

/-- The environment after the steps have been made on it, one after the other. -/
def play (steps : List Step) (env : Environment) : Environment :=
  steps.foldl Step.applyTo env

/-- The last step of a variable, if it has one. -/
def lastStep (k : String) (steps : List Step) : Option Step :=
  (steps.filter fun s => s.name == k).getLast?

theorem ofSteps_concat (steps : List Step) (s : Step) :
  ofSteps (steps ++ [s]) = (ofSteps steps).step s
  := by
  rw [ofSteps, List.foldl_append]
  rfl

theorem lastStep_concat (k : String) (steps : List Step) (s : Step) :
  lastStep k (steps ++ [s]) = if s.name = k then some s else lastStep k steps
  := by
  rw [lastStep, List.filter_append]
  split
  case isTrue h =>
    rw [List.filter_cons_of_pos (by simpa using h), List.filter_nil, List.getLast?_concat]
  case isFalse h =>
    rw [List.filter_cons_of_neg (by simpa using h), List.filter_nil, List.append_nil, lastStep]

/-- One more change of a patch is one more step on the environment that the patch makes. -/
theorem applyTo_step (p : Patch) (s : Step) (env : Environment) :
  (p.step s).applyTo env = s.applyTo (p.applyTo env)
  := by
  apply KeyMap.ext_get?
  intro k'
  rw [get?_applyTo]
  cases s with
  | assign k v =>
    rw [step, value?_assign, withdraws_assign, Step.applyTo, KeyMap.get?_insert, get?_applyTo]
    split <;> rfl
  | withdraw k =>
    rw [step, value?_withdraw, withdraws_withdraw, Step.applyTo, KeyMap.get?_erase, get?_applyTo]
    split <;> rfl

/-- The patch of some steps makes the environment that the steps make one after the other. -/
theorem applyTo_ofSteps (steps : List Step) (env : Environment) :
  (ofSteps steps).applyTo env = play steps env
  := by
  induction steps using List.reverseRecOn with
  | nil => rfl
  | append_singleton steps s ih =>
    rw [ofSteps_concat, applyTo_step, ih, play, play, List.foldl_append]
    rfl

/-- The patch of some steps makes the last step of each variable, and nothing else. -/
theorem makes_lastStep (steps : List Step) (k : String) :
  match lastStep k steps with
  | some s => s.name = k ∧ (ofSteps steps).Makes s
  | none => (ofSteps steps).value? k = none ∧ (ofSteps steps).withdraws k = false
  := by
  induction steps using List.reverseRecOn with
  | nil => exact ⟨rfl, rfl⟩
  | append_singleton steps s ih =>
    rw [lastStep_concat, ofSteps_concat]
    by_cases hname : s.name = k
    · rw [if_pos hname]
      exact ⟨hname, makes_step _ s⟩
    · rw [if_neg hname]
      cases hlast : lastStep k steps with
      | some t =>
        rw [hlast] at ih
        obtain ⟨rfl, hmakes⟩ := ih
        exact ⟨rfl, hmakes.step hname⟩
      | none =>
        rw [hlast] at ih
        obtain ⟨hvalue, hwithdraws⟩ := lookup_step (p := ofSteps steps) hname
        exact ⟨hvalue.trans ih.1, hwithdraws.trans ih.2⟩

/-- A patch gives a variable the value of its last step, if that assigns one. -/
theorem value?_ofSteps (steps : List Step) (k : String) :
  (ofSteps steps).value? k =
    match lastStep k steps with
    | some (.assign _ v) => some v
    | _ => none
  := by
  have hmakes := makes_lastStep steps k
  cases hlast : lastStep k steps with
  | none =>
    rw [hlast] at hmakes
    exact hmakes.1
  | some s =>
    rw [hlast] at hmakes
    obtain ⟨rfl, hmakes⟩ := hmakes
    cases s with
    | assign k v => exact hmakes.1
    | withdraw k => exact hmakes.1

/-- A patch withdraws a variable exactly if its last step does. -/
theorem withdraws_ofSteps_iff (steps : List Step) (k : String) :
  (ofSteps steps).withdraws k = true ↔ lastStep k steps = some (.withdraw k)
  := by
  have hmakes := makes_lastStep steps k
  cases hlast : lastStep k steps with
  | none =>
    rw [hlast] at hmakes
    simp [hmakes.2]
  | some s =>
    rw [hlast] at hmakes
    obtain ⟨rfl, hmakes⟩ := hmakes
    cases s with
    | assign k v =>
      have hkept : (ofSteps steps).withdraws k = false := hmakes.2
      simp [Step.name, hkept]
    | withdraw k =>
      have hgone : (ofSteps steps).withdraws k = true := hmakes.2
      simp [Step.name, hgone]

/-! ### What a patch amounts to -/

/-- The patch does what the steps do when they are made one after the other. -/
structure AmountsTo (p : Patch) (steps : List Step) : Prop where
  /-- It does not both assign and withdraw a variable. -/
  exclusive : ∀ k v, (k, v) ∈ p.assigned → k ∉ p.withdrawn
  /-- It gives a variable the value of its last step, if that assigns one. -/
  value : ∀ k, p.value? k =
    match lastStep k steps with
    | some (.assign _ v) => some v
    | _ => none
  /-- It withdraws a variable exactly if its last step does. -/
  withdraws : ∀ k, p.withdraws k = true ↔ lastStep k steps = some (.withdraw k)
  /-- It makes the same environment of every environment. -/
  applied : ∀ env, p.applyTo env = play steps env

/-- A patch amounts to the steps that make it, and so a process that is begun with it sees the
environment of the harness as the steps change it. -/
theorem ofSteps_amountsTo (steps : List Step) :
  (ofSteps steps).AmountsTo steps
    ∧ ∀ (h : Host) (command : Command) (output : Output) (directory : String),
      (h.image ⟨command, ofSteps steps, output, directory⟩).environment
        = play steps h.environment
  := by
  constructor
  · constructor
    case exclusive =>
      intro k v hassigned hwithdrawn
      rw [mem_assigned_iff] at hassigned
      rw [mem_withdrawn_iff, withdraws_of_value? hassigned] at hwithdrawn
      cases hwithdrawn
    case value => exact value?_ofSteps steps
    case withdraws => exact withdraws_ofSteps_iff steps
    case applied => exact applyTo_ofSteps steps
  · intro h command output directory
    apply applyTo_ofSteps

end ServiceHarness.Patch
