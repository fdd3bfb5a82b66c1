import ServiceHarness.Session.Basic

/-!
# Courses

`Activity.course` is what comes of an activity that nobody interferes with, but for a limit at which
it is given up.  Without a limit an activity that hangs comes to nothing; a limit that it does not
reach does not matter (`course_of_reached`, `course_of_not_dropped`).  Where an activity may be left
before it has come to its end `Activity.Stands` says.
-/

namespace ServiceHarness.Activity

variable {σ α β : Type} {activity : Activity σ α} {limit : Option Nat} {l t t' : Nat} {s' : σ}
  {r : Except Cut α}

/-- What comes of an activity that is begun at an instant and given up at the limit, if there is one:
its outcome or how it is cut short, the state of the ports then and the instant.  Nothing comes of an
activity that hangs and is not given up. -/
def course (limit : Option Nat) : Activity σ α → Nat → Option (Except Cut α × σ × Nat)
  | .finish s outcome, t => some (.ok outcome, s, t)
  | .hang s, t => limit.map fun l => (.error .dropped, s, max t l)
  | .panic s, t => some (.error .panicked, s, t)
  | .raise rest, t => rest.course limit t
  | .pause millis s rest, t =>
    if limit.any (· < t + millis) then limit.map fun l => (.error .dropped, s, max t l)
    else rest.course limit (t + millis)

/-- Time does not go back. -/
theorem le_of_course (h : activity.course limit t = some (r, s', t')) :
  t ≤ t'
  := by
  -- where it is given up
  have hgiven : ∀ {t : Nat} {s : σ},
      limit.map (fun l => ((.error .dropped : Except Cut α), s, max t l)) = some (r, s', t') →
        t ≤ t' := by
    intro t s h
    obtain ⟨_, -, ⟨⟩⟩ := Option.map_eq_some_iff.mp h
    apply Nat.le_max_left
  induction activity generalizing t with
  | finish s outcome =>
    cases h
    apply Nat.le_refl
  | hang s => exact hgiven h
  | panic s =>
    cases h
    apply Nat.le_refl
  | raise rest ih => apply ih h
  | pause millis s rest ih =>
    rw [course] at h
    split at h
    · exact hgiven h
    · apply Nat.le_trans (Nat.le_add_right t millis)
      apply ih h

/-- What comes of an activity without a limit comes of it if the limit is no earlier. -/
theorem course_of_reached (h : activity.course none t = some (r, s', t')) (hl : t' ≤ l) :
  activity.course (some l) t = some (r, s', t')
  := by
  induction activity generalizing t with
  | finish s outcome => exact h
  | hang s => cases h
  | panic s => exact h
  | raise rest ih => apply ih h
  | pause millis s rest ih =>
    have hrest : rest.course none (t + millis) = some (r, s', t') := h
    have hle := le_of_course hrest
    rw [course, if_neg (by simp; omega)]
    apply ih hrest

/-- What comes of an activity with a limit at which it is not given up comes of it without one. -/
theorem course_of_not_dropped (h : activity.course (some l) t = some (r, s', t'))
    (hr : r ≠ .error .dropped) :
  activity.course none t = some (r, s', t')
  := by
  induction activity generalizing t with
  | finish s outcome => exact h
  | hang s =>
    cases h
    cases hr rfl
  | panic s => exact h
  | raise rest ih => apply ih h
  | pause millis s rest ih =>
    rw [course] at h
    split at h
    · cases h
      cases hr rfl
    · apply ih h

/-- An activity that is followed by another one comes to an outcome through both of them. -/
theorem course_bind {next : σ → α → Activity σ β} {b : β}
    (h : (activity.bind next).course limit t = some (.ok b, s', t')) :
  ∃ a s t₁, activity.course limit t = some (.ok a, s, t₁)
    ∧ (next s a).course limit t₁ = some (.ok b, s', t')
  := by
  induction activity generalizing t with
  | finish s a => exact ⟨a, s, t, rfl, h⟩
  | hang s =>
    obtain ⟨_, -, ⟨⟩⟩ := Option.map_eq_some_iff.mp h
  | panic s => cases h
  | raise rest ih => apply ih h
  | pause millis s rest ih =>
    rw [bind, course] at h
    rw [course]
    split at h
    · obtain ⟨_, -, ⟨⟩⟩ := Option.map_eq_some_iff.mp h
    · rename_i hlimit
      rw [if_neg hlimit]
      apply ih h

/-- The activity, begun at an instant, may be left in a state at another one: it panics there, it
hangs, or it is in the middle of a pause. -/
inductive Stands : Activity σ α → Nat → σ → Nat → Prop where
  /-- It panics. -/
  | panic (s : σ) (t : Nat) : Stands (.panic s) t s t
  /-- It hangs, at any time. -/
  | hang (s : σ) {t t' : Nat} (h : t ≤ t') : Stands (.hang s) t s t'
  /-- It pauses, and the pause is not longer than it is to be. -/
  | pause (s : σ) (rest : Activity σ α) {millis t t' : Nat} (h : t ≤ t') (h' : t' ≤ t + millis) :
    Stands (.pause millis s rest) t s t'
  /-- It has come further than the pause. -/
  | paused {s s' : σ} {rest : Activity σ α} {millis t t' : Nat}
      (h : Stands rest (t + millis) s' t') :
    Stands (.pause millis s rest) t s' t'
  /-- It has raised the signal. -/
  | raised {s : σ} {rest : Activity σ α} {t t' : Nat} (h : Stands rest t s t') :
    Stands (.raise rest) t s t'

end ServiceHarness.Activity
