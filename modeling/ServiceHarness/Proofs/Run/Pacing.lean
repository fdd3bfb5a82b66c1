import ServiceHarness.Proofs.Run.Parts

/-!
# The pace of a wait

Whatever the ports do, a wait probes the URL and nothing else, leaves an interval or more from one
probe to the next, and tells of as many attempts as it has made (`awaitReady_spaced`).
-/

namespace ServiceHarness.Run

open Session

variable {σ : Type} {c : Controls} {w : World σ}

/-- The attempts that the result of a wait tells of, if it does. -/
def told : Except WaitFault Nat → Option Nat
  | .ok attempts => some attempts
  | .error (.interrupted attempts) => some attempts
  | .error (.malformed _) => none

/-- So many probes of the URL have been made since an instant, an interval or more from each to the
next. -/
structure Paced (url : String) (interval t m : Nat) (ds : List Event) (w' : World σ) : Prop where
  /-- All of them probe the URL. -/
  probes : Trace.probes ds = List.replicate m url
  /-- The intervals between them have passed. -/
  now : t + m * interval ≤ w'.now + interval

section

variable {url : String} {interval t m : Nat} {w' w'' : World σ} {ds ds' : List Event}

/-- No probe has been made. -/
theorem Paced.none (w : World σ) (url : String) (interval : Nat) :
  Paced url interval w.now 0 [] w
  := by
  constructor
  · rfl
  · omega

/-- One probe has been made. -/
theorem Paced.one (hprobes : Trace.probes ds = [url]) (ht : t ≤ w'.now) :
  Paced url interval t 1 ds w'
  := by
  constructor
  · exact hprobes
  · omega

/-- Another probe was made before, and the interval has passed since. -/
theorem Paced.cons {t' : Nat} (h : Paced url interval t' m ds' w'')
    (hprobes : Trace.probes ds = [url]) (ht : t + interval ≤ t') :
  Paced url interval t (m + 1) (ds ++ ds') w''
  := by
  constructor
  · rw [Trace.probes_append, hprobes, h.probes]
    rfl
  · have hnow := h.now
    rw [Nat.succ_mul]
    omega

/-- So many probes fit into the time. -/
theorem Paced.le (h : Paced url interval t m ds w') (hinterval : 0 < interval) :
  m ≤ (w'.now - t) / interval + 1
  := by
  have hnow := h.now
  rw [← Nat.add_div_right _ hinterval, Nat.le_div_iff_mul_le hinterval]
  omega

end

/-- A probe is made while the signal is not raised. -/
theorem probe_made (P : Ports σ) (c : Controls) (url : String) (hraised : w.raised = false) :
  Session.Does c (race c (beginProbe P url) >>= conclude .probed) w
    (fun _ ds _ => Trace.probes ds = [url]) (fun _ ds _ => Trace.probes ds = [url])
  := by
  apply Session.Does.bind
  apply Session.Does.bind
  apply Session.does_isRaised
  rw [if_neg (by simp [hraised])]
  apply Session.Does.bind
  apply Session.Does.uncut (beginProbe_does P url hraised)
  rintro activity ds w' rfl
  apply Session.Does.mono (play_does c activity w')
  · rintro (_ | r) ds' w'' ⟨rfl, -⟩
    · apply Session.does_pure
      rfl
    · apply Session.Does.bind
      apply Session.does_record (.probed w'' r) rfl
      apply Session.does_pure
      rfl
  · rintro k ds' w'' ⟨rfl, -⟩
    rfl

/-- A wait that begins after so many attempts keeps to the interval, and tells of its attempts. -/
theorem awaitFrom_paced (P : Ports σ) (c : Controls) (url : String) (interval : Nat) :
    ∀ (patience attempts : Nat) (w : World σ), attempts ≤ attemptLimit →
      Session.Does c (awaitFrom P c url interval patience attempts) w
        (fun result ds w' => ∃ m, Paced url interval w.now m ds w'
          ∧ ∀ k ∈ told result, k = min (attempts + m) attemptLimit)
        (fun _ ds w' => ∃ m, Paced url interval w.now m ds w')
  | 0, _, w, _ => by
    apply Session.does_throw
    exact ⟨0, .none w url interval⟩
  | patience + 1, attempts, w, hattempts => by
    apply Session.Does.bind
    apply Session.does_isRaised
    split
    case isTrue =>
      apply Session.does_pure
      use 0, .none w url interval
      rintro k ⟨⟩
      omega
    case isFalse hraised =>
      rw [Bool.not_eq_true] at hraised
      apply Session.Does.bind
      apply Session.Does.mono (probe_made P c url hraised).moves
      · rintro outcome ds w' ⟨⟨hmoves, -⟩, hprobes⟩
        have hle := hmoves.now_le
        rcases outcome with _ | (reason | reason) | _
        · apply Session.does_pure
          rw [List.append_nil]
          use 1, .one hprobes hle
          rintro k ⟨⟩
          rfl
        · apply Session.Does.bind
          apply Session.Does.mono (suspend_does c (some interval) w').moves
          · rintro (_ | _) ds' w'' ⟨⟨hmoves', -⟩, rfl, hwake⟩
            · -- an interval later the wait goes on in the same way
              obtain ⟨-, d, hd, rfl, -⟩ := hwake
              cases hd
              have hlater : w.now + interval ≤ w'.now + interval := by omega
              apply Session.Does.mono (awaitFrom_paced P c url interval patience _ _
                (Nat.min_le_right _ _))
              · rintro result ds' w'' ⟨m, hpaced, htold⟩
                have hmore := hpaced.cons hprobes hlater
                use m + 1, hmore
                intro k hk
                rw [htold k hk]
                omega
              · rintro _ ds' w'' ⟨m, hpaced⟩
                have hmore := hpaced.cons hprobes hlater
                exact ⟨m + 1, hmore⟩
            · apply Session.does_pure
              rw [List.append_nil, List.append_nil]
              use 1, .one hprobes (Nat.le_trans hle hmoves'.now_le)
              rintro k ⟨⟩
              rfl
          · rintro k ds' w'' ⟨⟨hmoves', -⟩, rfl, -⟩
            rw [List.append_nil]
            exact ⟨1, .one hprobes (Nat.le_trans hle hmoves'.now_le)⟩
        · apply Session.does_pure
          rw [List.append_nil]
          use 1, .one hprobes hle
          rintro k ⟨⟩
        · apply Session.Does.bind
          apply Session.does_tell
          apply Session.does_pure
          have htelling : Trace.probes (ds ++ [.noticed (.reachable url
              (min (attempts + 1) attemptLimit))]) = [url] := by
            rw [Trace.probes_append, hprobes]
            rfl
          use 1, .one htelling hle
          rintro k ⟨⟩
          rfl
      · rintro k ds w' ⟨⟨hmoves, -⟩, hprobes⟩
        exact ⟨1, .one hprobes hmoves.now_le⟩

/-- In a wait no more probes of the URL are made than one and another for each interval. -/
structure Spaced (c : Controls) (url : String) (interval : Nat) (w w' : World σ) (m : Nat) : Prop
    where
  /-- So many are made. -/
  probes : w'.probes = w.probes ++ List.replicate m url
  /-- They fit into any time in which the wait ends or is dropped. -/
  le : ∀ t, w'.now ≤ w.now + t ∨ c.dropAt ≤ w.now + t → m ≤ t / interval + 1

theorem Paced.spaced {url : String} {interval m : Nat} {ds : List Event} {w' : World σ}
    (h : Paced url interval w.now m ds w') (hinterval : 0 < interval) (hmoves : Moves c w w')
    (hds : w'.deeds = w.deeds ++ ds) :
  Spaced c url interval w w' m
  := by
  constructor
  case probes => rw [World.probes_of_deeds hds, h.probes]
  case le =>
    intro t ht
    have hnow := hmoves.now_le_max
    apply Nat.le_trans (h.le hinterval)
    apply Nat.succ_le_succ
    apply Nat.div_le_div_right
    omega

/-- Whatever the ports do, and however a wait ends, its probes keep to the interval, and so many
attempts are told as there were probes. -/
theorem awaitReady_spaced (P : Ports σ) (c : Controls) (url : String) {interval : Nat}
    (hinterval : 0 < interval) (w : World σ) :
  Session.Ends (awaitReady P c url interval) w
    (fun result w' => ∃ m, Spaced c url interval w w' m
      ∧ ∀ k ∈ told result, k = min m attemptLimit)
    (fun _ w' => ∃ m, Spaced c url interval w w' m)
  := by
  apply Session.Ends.mono (awaitFrom_paced P c url interval (patience c) 0 w (Nat.zero_le _))
  · rintro result w' ⟨hmoves, ds, hds, m, hpaced, htold⟩
    rw [Nat.zero_add] at htold
    exact ⟨m, hpaced.spaced hinterval hmoves hds, htold⟩
  · rintro k w' ⟨hmoves, ds, hds, m, hpaced⟩
    exact ⟨m, hpaced.spaced hinterval hmoves hds⟩

end ServiceHarness.Run
