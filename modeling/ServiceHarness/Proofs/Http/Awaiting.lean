import ServiceHarness.Http.Probe
import ServiceHarness.Proofs.Run.Waiting

/-!
# Waiting over HTTP

A wait for the instance whose probes are requests over HTTP.  A `Server` says what comes of each
request and how long that takes.  Only the URL itself can fail the wait: if it is no target of a
probe, the wait ends with its first probe and nothing is requested.  Otherwise the wait goes on
after every exchange that `Refuses`, and ends with the first that does not
(`awaitReady_overHttp`).
-/

namespace ServiceHarness.Http

open Run Session

/-! ### Exchanges -/

/-- There is no last response, or its status blames someone. -/
def Exchange.Refuses (e : Exchange) : Prop :=
  (∃ reason, e = .failed reason)
    ∨ ∃ status url, e = .answered status url ∧ 400 ≤ status ∧ status < 600

/-- The last response has a status of success or of redirection. -/
def Exchange.Succeeds (e : Exchange) : Prop :=
  ∃ status url, e = .answered status url ∧ 200 ≤ status ∧ status < 400

theorem Exchange.Succeeds.not_refuses {e : Exchange} (h : e.Succeeds) :
  ¬ e.Refuses
  := by
  obtain ⟨status, url, rfl, hlow, hhigh⟩ := h
  rintro (⟨reason, ⟨⟩⟩ | ⟨_, _, ⟨⟩, hlow', hhigh'⟩)
  omega

/-- A probe is to be made again after an exchange that refuses. -/
theorem Exchange.Refuses.outcome {e : Exchange} (h : e.Refuses) :
  ∃ reason, e.outcome = .error (.notReady reason)
  := by
  obtain ⟨reason, rfl⟩ | ⟨status, url, rfl, hlow, hhigh⟩ := h
  · exact ⟨reason, rfl⟩
  · by_cases hclient : isClientError status = true
    · exact ⟨_, if_pos hclient⟩
    · have hserver : isServerError status = true := by
        simp only [isClientError, isServerError, Bool.and_eq_true, decide_eq_true_eq] at hclient ⊢
        omega
      exact ⟨_, (if_neg hclient).trans (if_pos hserver)⟩

/-- The instance is ready after any other exchange. -/
theorem Exchange.outcome_of_not_refuses {e : Exchange} (h : ¬ e.Refuses) :
  e.outcome = .ok ()
  := by
  cases e with
  | failed reason => exact absurd (.inl ⟨reason, rfl⟩) h
  | answered status url =>
    have hstatus : ¬ (400 ≤ status ∧ status < 600) := by
      intro hstatus
      exact h (.inr ⟨status, url, rfl, hstatus⟩)
    have hclient : ¬ isClientError status = true := by
      simp only [isClientError, Bool.and_eq_true, decide_eq_true_eq]
      omega
    have hserver : ¬ isServerError status = true := by
      simp only [isServerError, Bool.and_eq_true, decide_eq_true_eq]
      omega
    exact (if_neg hclient).trans (if_neg hserver)

theorem Exchange.refuses_of_notReady {e : Exchange} {reason : String}
    (h : e.outcome = .error (.notReady reason)) :
  e.Refuses
  := by
  by_contra hnot
  rw [Exchange.outcome_of_not_refuses hnot] at h
  cases h

theorem Exchange.not_refuses_of_ok {e : Exchange} (h : e.outcome = .ok ()) :
  ¬ e.Refuses
  := by
  intro hrefuses
  obtain ⟨reason, hnotReady⟩ := hrefuses.outcome
  rw [hnotReady] at h
  cases h

/-- No exchange finds the target malformed. -/
theorem Exchange.outcome_ne_malformed (e : Exchange) (reason : String) :
  e.outcome ≠ .error (.malformed reason)
  := by
  intro h
  by_cases hrefuses : e.Refuses
  · obtain ⟨reason', hnotReady⟩ := hrefuses.outcome
    rw [hnotReady] at h
    cases h
  · rw [Exchange.outcome_of_not_refuses hrefuses] at h
    cases h

theorem probe_of_target {url : String} {t : Url.Target} (h : target url = .ok t)
    (network : Network) :
  probe network url = (network t).outcome
  := by
  rw [probe, h]
  rfl

theorem probe_of_fault {url : String} {fault : ProbeFault} (h : target url = .error fault)
    (network : Network) :
  probe network url = .error fault
  := by
  rw [probe, h]
  rfl

/-! ### Servers -/

/-- What one request after the other finds. -/
structure Server where
  /-- What comes of each. -/
  network : Nat → Network
  /-- The milliseconds that it takes. -/
  took : Nat → Nat

/-- The ports that probe over HTTP.  Their state is the targets that have been requested; what else
they do is up to `rest`. -/
def Server.ports (s : Server) (rest : Ports (List Url.Target)) : Ports (List Url.Target) :=
  { rest with
    probe := fun requested _ url =>
      let outcome := probe (s.network requested.length) url
      match target url with
      | .error _ => .finish requested outcome
      | .ok t =>
        .pause (s.took requested.length) (requested ++ [t]) (.finish (requested ++ [t]) outcome) }

/-- What the probes of a wait come to if all of them request the same target. -/
def Server.probing (s : Server) (t : Url.Target) : Probing (List Url.Target) where
  took := s.took
  outcome k := (s.network k t).outcome
  state k := List.replicate k t

variable {s : Server} {rest : Ports (List Url.Target)} {c : Controls} {url : String}
  {interval : Nat} {t : Url.Target} {w : World (List Url.Target)}

/-- The probe of a target requests it. -/
theorem Server.probe_target (s : Server) (rest : Ports (List Url.Target)) (h : target url = .ok t)
    (k now : Nat) :
  (s.ports rest).probe (List.replicate k t) now url
    = .pause (s.took k) (List.replicate (k + 1) t)
      (.finish (List.replicate (k + 1) t) (s.network k t).outcome)
  := by
  simp only [Server.ports, h, probe_of_target h, List.length_replicate, List.replicate_succ']

theorem Server.occurs (s : Server) (rest : Ports (List Url.Target)) (h : target url = .ok t)
    (hw : w.ports = []) :
  (s.probing t).Occurs (s.ports rest) url interval w
  := by
  constructor
  case first => exact hw
  case probe =>
    intro k
    rw [Server.probing, Server.probe_target s rest h]
    apply Activity.Takes.pause _ _ (.finish _ _)

/-! ### Requests -/

/-- A session that lets time pass leaves the ports and the probes as they are. -/
theorem suspend_leaves (c : Controls) (millis : Option Nat) (w : World (List Url.Target)) :
  Session.Ends (suspend c millis) w (fun _ w' => w'.ports = w.ports ∧ w'.probes = w.probes)
    (fun _ w' => w'.ports = w.ports ∧ w'.probes = w.probes)
  := by
  have hports : ∀ w' : World (List Url.Target), w'.trip.ports = w'.ports := by
    intro w'
    rw [World.trip]
    split <;> rfl
  rw [Session.Ends]
  cases hraised : w.raised with
  | true =>
    rw [run_suspend_of_raised millis hraised]
    exact ⟨rfl, rfl⟩
  | false =>
    rw [run_suspend millis hraised]
    cases raisedBy c (millis.map (w.now + ·)) with
    | some u => exact ⟨hports _, World.probes_trip _⟩
    | none =>
      cases millis with
      | none => exact ⟨rfl, rfl⟩
      | some d =>
        by_cases hdrop : w.now + d ≤ c.dropAt
        · simp only [lapse, Option.map_some, if_pos hdrop]
          exact ⟨trivial, rfl⟩
        · simp only [lapse, Option.map_some, if_neg hdrop]
          exact ⟨trivial, rfl⟩

/-- After so many requests for a target the wait makes so many more, and all but the last of them
are refused. -/
structure Requests (s : Server) (t : Url.Target) (url : String) (k m : Nat)
    (w w' : World (List Url.Target)) : Prop where
  /-- Each is for the target. -/
  ports : w'.ports = List.replicate (k + m) t
  /-- There is one for each probe. -/
  probes : w'.probes = w.probes ++ List.replicate m url
  /-- After each but the last there is another. -/
  refused : ∀ j, j + 1 < m → (s.network (k + j) t).Refuses

theorem Requests.none {k : Nat} (hw : w.ports = List.replicate k t) :
  Requests s t url k 0 w w
  := by
  constructor
  case ports => exact hw
  case probes => exact (List.append_nil _).symm
  case refused =>
    intro j hj
    omega

theorem Requests.one {k : Nat} {w' : World (List Url.Target)}
    (hports : w'.ports = List.replicate (k + 1) t) (hprobes : w'.probes = w.probes ++ [url]) :
  Requests s t url k 1 w w'
  := by
  constructor
  case ports => exact hports
  case probes => exact hprobes
  case refused =>
    intro j hj
    omega

/-- A request that is refused comes before the others. -/
theorem Requests.cons {k m : Nat} {w' w'' : World (List Url.Target)}
    (h : Requests s t url (k + 1) m w' w'') (hprobes : w'.probes = w.probes ++ [url])
    (hrefuses : (s.network k t).Refuses) :
  Requests s t url k (m + 1) w w''
  := by
  constructor
  case ports => rw [h.ports, Nat.add_right_comm, Nat.add_assoc]
  case probes =>
    rw [h.probes, hprobes, List.append_assoc]
    rfl
  case refused =>
    intro j hj
    cases j with
    | zero => exact hrefuses
    | succ j =>
      rw [← Nat.add_assoc, Nat.add_right_comm]
      apply h.refused
      omega

/-- A probe requests the target once, and comes to what the server makes of the request. -/
theorem probe_requests (htarget : target url = .ok t) {k : Nat} (hw : w.ports = List.replicate k t)
    (hraised : w.raised = false) :
  Session.Ends (race c (beginProbe (s.ports rest) url) >>= conclude .probed) w
    (fun outcome w' => Requests s t url k 1 w w' ∧ ∀ o ∈ outcome, o = (s.network k t).outcome)
    (fun _ w' => Requests s t url k 1 w w')
  := by
  have hrun := Probing.run_race_beginProbe (s.ports rest) c url hraised
  rw [hw, Server.probe_target s rest htarget] at hrun
  rw [ends_bind, Session.Ends, hrun]
  change Session.Ends (play c _) _ _ _
  simp only [play, ends_bind, ends_modify]
  have hbegun : ∀ w' : World (List Url.Target), w'.ports = List.replicate (k + 1) t →
      w'.probes = (w.record (.probing url)).probes → Requests s t url k 1 w w' := by
    intro w' hports hprobes
    apply Requests.one hports
    rw [hprobes, World.probes_record]
    rfl
  apply Session.Ends.mono (suspend_leaves c _ _)
  · rintro (_ | _) w' ⟨hports, hprobes⟩
    · simp only [ends_bind, ends_modify, ends_pure, conclude]
      constructor
      · apply hbegun _ rfl
        rw [World.probes_record]
        apply Eq.trans (List.append_nil _) hprobes
      · rintro o ⟨⟩
        rfl
    · simp only [ends_pure, conclude]
      constructor
      · apply hbegun w' hports hprobes
      · rintro o ⟨⟩
  · rintro _ w' ⟨hports, hprobes⟩
    apply hbegun w' hports hprobes

/-- What the result of a wait tells of the last of so many requests after so many others. -/
def Answered (s : Server) (t : Url.Target) (k m : Nat) : Except WaitFault Nat → Prop
  | .ok _ => ∃ j, m = j + 1 ∧ ¬ (s.network (k + j) t).Refuses
  | .error (.interrupted _) => True
  | .error (.malformed _) => False

theorem Answered.cons {k m : Nat} {result : Except WaitFault Nat}
    (h : Answered s t (k + 1) m result) :
  Answered s t k (m + 1) result
  := by
  match result with
  | .ok _ =>
    obtain ⟨j, rfl, hready⟩ := h
    use j + 1, rfl
    rwa [Nat.add_right_comm] at hready
  | .error (.interrupted _) => trivial
  | .error (.malformed _) => exact h

/-- A wait that begins after so many requests for a target goes on until one is not refused. -/
theorem awaitFrom_requests (htarget : target url = .ok t) :
    ∀ (patience attempts k : Nat) (w : World (List Url.Target)), w.ports = List.replicate k t →
      Session.Ends (awaitFrom (s.ports rest) c url interval patience attempts) w
        (fun result w' => ∃ m, Requests s t url k m w w' ∧ (w.raised = false → 0 < m)
          ∧ Answered s t k m result)
        (fun _ w' => ∃ m, Requests s t url k m w w' ∧ (w.raised = false → 0 < patience → 0 < m))
  | 0, _, k, w, hw => ⟨0, .none hw, fun _ h => h⟩
  | patience + 1, attempts, k, w, hw => by
    cases hraised : w.raised with
    | true =>
      rw [Session.Ends, awaitFrom, run_ifRaised, if_pos hraised]
      refine ⟨0, .none hw, ?_, trivial⟩
      rintro ⟨⟩
    | false =>
      rw [Session.Ends, awaitFrom_calm _ c url interval patience attempts hraised]
      change Session.Ends _ w _ _
      rw [ends_bind]
      apply Session.Ends.mono (probe_requests htarget hw hraised)
      · rintro outcome w' ⟨hone, houtcome⟩
        have hprobes : w'.probes = w.probes ++ [url] := hone.probes
        rcases outcome with _ | (reason | reason) | _
        · exact ⟨1, hone, fun _ => Nat.one_pos, trivial⟩
        · have hrefuses := Exchange.refuses_of_notReady (houtcome _ rfl).symm
          have hmore : ∀ m w₁ w₂, w₁.probes = w'.probes → Requests s t url (k + 1) m w₁ w₂ →
              Requests s t url k (m + 1) w w₂ := by
            intro m w₁ w₂ hw₁ hm
            exact hm.cons (hw₁.trans hprobes) hrefuses
          rw [afterProbe, ends_bind]
          apply Session.Ends.mono (suspend_leaves c (some interval) w')
          · rintro (_ | _) w₁ ⟨hports₁, hprobes₁⟩
            · -- an interval later the wait goes on in the same way
              have hlater : w₁.ports = List.replicate (k + 1) t := hports₁.trans hone.ports
              apply Session.Ends.mono (awaitFrom_requests htarget patience _ (k + 1) w₁ hlater)
              · rintro result w₂ ⟨m, hm, -, hresult⟩
                exact ⟨m + 1, hmore m w₁ w₂ hprobes₁ hm, fun _ => Nat.succ_pos m, hresult.cons⟩
              · rintro _ w₂ ⟨m, hm, -⟩
                exact ⟨m + 1, hmore m w₁ w₂ hprobes₁ hm, fun _ _ => Nat.succ_pos m⟩
            · have hstop := hmore 0 w₁ w₁ hprobes₁ (.none (hports₁.trans hone.ports))
              exact ⟨1, hstop, fun _ => Nat.one_pos, trivial⟩
          · rintro _ w₁ ⟨hports₁, hprobes₁⟩
            have hstop := hmore 0 w₁ w₁ hprobes₁ (.none (hports₁.trans hone.ports))
            exact ⟨1, hstop, fun _ _ => Nat.one_pos⟩
        · exact absurd (houtcome _ rfl).symm (Exchange.outcome_ne_malformed _ reason)
        · have hready := Exchange.not_refuses_of_ok (houtcome _ rfl).symm
          rw [afterProbe]
          simp only [ends_bind, ends_tell, ends_pure]
          refine ⟨1, .one hone.ports ?_, fun _ => Nat.one_pos, 0, rfl, hready⟩
          apply Eq.trans (World.probes_record _ _)
          apply Eq.trans (List.append_nil _) hprobes
      · intro _ w' hone
        exact ⟨1, hone, fun _ _ => Nat.one_pos⟩

theorem awaitReady_requests (s : Server) (rest : Ports (List Url.Target)) (c : Controls)
    (interval : Nat) (htarget : target url = .ok t) (hw : w.ports = [])
    (hraised : w.raised = false) :
  Session.Ends (awaitReady (s.ports rest) c url interval) w
    (fun result w' => ∃ m, 0 < m ∧ Requests s t url 0 m w w' ∧ Answered s t 0 m result)
    (fun _ w' => ∃ m, 0 < m ∧ Requests s t url 0 m w w')
  := by
  apply Session.Ends.mono (awaitFrom_requests htarget (Run.patience c) 0 0 w hw)
  · rintro result w' ⟨m, hm, hpos, hresult⟩
    exact ⟨m, hpos hraised, hm, hresult⟩
  · rintro _ w' ⟨m, hm, hpos⟩
    exact ⟨m, hpos hraised (Nat.succ_pos _), hm⟩

/-- However a wait ends, it does not fail, and if the instance is ready the last request has shown
it. -/
theorem awaitReady_answered (s : Server) (rest : Ports (List Url.Target)) (c : Controls)
    (htarget : target url = .ok t) (hinterval : 0 < interval) (hw : w.ports = [])
    (hraised : w.raised = false) :
  ∃ m, 0 < m ∧ Requests s t url 0 m w (world ((awaitReady (s.ports rest) c url interval).run w))
    ∧ (∀ reason w',
      (awaitReady (s.ports rest) c url interval).run w ≠ .ok (.error (.malformed reason)) w')
    ∧ ∀ attempts w', (awaitReady (s.ports rest) c url interval).run w = .ok (.ok attempts) w' →
      attempts = min m attemptLimit ∧ ¬ (s.network (m - 1) t).Refuses
  := by
  have hends := awaitReady_requests s rest c interval htarget hw hraised
  have hspaced := awaitReady_spaced (s.ports rest) c url hinterval w
  rw [Session.Ends] at hends hspaced
  cases hr : (awaitReady (s.ports rest) c url interval).run w with
  | error k w' =>
    rw [hr] at hends
    obtain ⟨m, hpos, hm⟩ := hends
    refine ⟨m, hpos, hm, ?_, ?_⟩
    · rintro _ _ ⟨⟩
    · rintro _ _ ⟨⟩
  | ok result w' =>
    rw [hr] at hends hspaced
    obtain ⟨m, hpos, hm, hresult⟩ := hends
    obtain ⟨m', hm', htold⟩ := hspaced
    -- the wait has counted its probes
    have hcount := congrArg List.length (hm.probes.symm.trans hm'.probes)
    rw [List.length_append, List.length_append, List.length_replicate, List.length_replicate]
      at hcount
    obtain rfl : m = m' := by omega
    refine ⟨m, hpos, hm, ?_, ?_⟩
    · rintro reason _ ⟨⟩
      exact hresult
    · rintro attempts _ ⟨⟩
      obtain ⟨j, rfl, hready⟩ := hresult
      use htold attempts rfl
      rwa [Nat.zero_add] at hready

/-- While requests are refused and nothing ends the wait, it makes another one. -/
theorem awaitReady_retries (htarget : target url = .ok t) (hinterval : 0 < interval)
    (hw : w.ports = []) (hraised : w.raised = false) {n m : Nat}
    (hm : Requests s t url 0 m w (world ((awaitReady (s.ports rest) c url interval).run w)))
    (hrefuses : ∀ k < n, (s.network k t).Refuses)
    (hcalm : c.CalmUntil (w.now + (s.probing t).start interval n))
    (hdrop : w.now + (s.probing t).start interval n ≤ c.dropAt) :
  n < m
  := by
  obtain ⟨w', patience, hcomes, -, hrun⟩ := Probing.comes hinterval (s.occurs rest htarget hw)
    hraised n (fun k hk => (hrefuses k hk).outcome) hcalm hdrop
  have hmore : ∃ m', Requests s t url n m' w'
      (world ((awaitReady (s.ports rest) c url interval).run w)) ∧ 0 < m' := by
    rw [hrun]
    apply Session.Ends.world (p := fun w'' => ∃ m', Requests s t url n m' w' w'' ∧ 0 < m')
    apply Session.Ends.mono (awaitFrom_requests htarget (patience + 1) _ n w' hcomes.ports)
    · rintro _ w'' ⟨m', hm', hpos, -⟩
      exact ⟨m', hm', hpos hcomes.calm⟩
    · rintro _ w'' ⟨m', hm', hpos⟩
      exact ⟨m', hm', hpos hcomes.calm (Nat.succ_pos _)⟩
  obtain ⟨m', hm', hpos⟩ := hmore
  have hports := congrArg List.length (hm.ports.symm.trans hm'.ports)
  rw [List.length_replicate, List.length_replicate] at hports
  omega

/-- The first request that is not refused ends the wait, and the instance is ready. -/
theorem awaitReady_ready (s : Server) (rest : Ports (List Url.Target)) (c : Controls)
    (htarget : target url = .ok t) (hinterval : 0 < interval) (hw : w.ports = [])
    (hraised : w.raised = false) {n : Nat}
    (hrefuses : ∀ k < n, (s.network k t).Refuses) (hready : ¬ (s.network n t).Refuses)
    (hcalm : c.CalmUntil (w.now + (s.probing t).finish interval n))
    (hdrop : w.now + (s.probing t).finish interval n ≤ c.dropAt) :
  ∃ w', (awaitReady (s.ports rest) c url interval).run w = .ok (.ok (min (n + 1) attemptLimit)) w'
    ∧ w'.now = w.now + (s.probing t).finish interval n ∧ Requests s t url 0 (n + 1) w w'
  := by
  have hsettles : (s.probing t).Settles n (.ok (min (n + 1) attemptLimit)) := by
    constructor
    · intro k hk
      apply (hrefuses k hk).outcome
    · dsimp only [Server.probing]
      rw [Exchange.outcome_of_not_refuses hready]
      rfl
  obtain ⟨w', hrun, hnow, hprobes⟩ := hsettles.ends hinterval (s.occurs rest htarget hw) hraised
    hcalm hdrop
  have hends := awaitReady_requests s rest c interval htarget hw hraised
  rw [Session.Ends, hrun] at hends
  obtain ⟨m, -, hm, -⟩ := hends
  use w', hrun, hnow
  have hcount := congrArg List.length (hm.probes.symm.trans hprobes)
  rw [List.length_append, List.length_append, List.length_replicate, List.length_replicate]
    at hcount
  obtain rfl : m = n + 1 := by omega
  exact hm

/-- A wait fails because of the URL: its only probe finds it malformed, and requests nothing. -/
def FailsAtOnce (r : EStateM.Result Cut (World (List Url.Target)) (Except WaitFault Nat))
    (url : String) (w : World (List Url.Target)) (reason : String) : Prop :=
  ∃ w', r = .ok (.error (.malformed (ProbeFault.malformed reason).message)) w'
    ∧ w'.ports = w.ports ∧ w'.probes = w.probes ++ [url] ∧ w'.now = w.now

theorem awaitReady_failsAtOnce {reason : String} (h : target url = .error (.malformed reason))
    (hraised : w.raised = false) :
  FailsAtOnce ((awaitReady (s.ports rest) c url interval).run w) url w reason
  := by
  have hprobe : (s.ports rest).probe w.ports w.now url
      = .finish w.ports (.error (.malformed reason)) := by
    simp only [Server.ports, h, probe_of_fault h]
  have hrun := Probing.run_race_beginProbe (s.ports rest) c url hraised
  rw [hprobe] at hrun
  rw [FailsAtOnce, awaitReady, Run.patience, awaitFrom_calm _ c url interval _ _ hraised]
  simp only [EStateM.run_bind, hrun]
  use World.record { w.record (.probing url) with ports := w.ports }
    (.probed (.error (.malformed reason)))
  refine ⟨rfl, rfl, ?_, rfl⟩
  rw [World.probes_record]
  apply Eq.trans (List.append_nil _) (World.probes_record _ _)

/-- Only the URL itself can fail a wait over HTTP that begins before the signal.

* If the URL does not parse, or has a scheme other than `http` and `https`, the wait ends at once
  with its first probe, and nothing is requested.
* Otherwise no exchange makes it fail: each probe requests the target, and each request but the last
  is refused.  While requests are refused and the signal and the caller leave the wait alone, there
  is another one.  The first that is not refused ends the wait, at its end and with its number, or
  the largest that is told.

What `Succeeds` is not refused, but neither is a status below 200 or beyond 599. -/
theorem awaitReady_overHttp (s : Server) (rest : Ports (List Url.Target)) (c : Controls)
    (url : String) {interval : Nat} (hinterval : 0 < interval) (w : World (List Url.Target))
    (hw : w.ports = []) (hraised : w.raised = false) :
  let r := (awaitReady (s.ports rest) c url interval).run w
  (∀ fault, Url.parse url = .error fault → FailsAtOnce r url w s!"{url}: {fault.message}")
  ∧ (∀ scheme, Url.parse url = .ok (.other scheme) →
    FailsAtOnce r url w s!"unsupported scheme '{scheme}' in {url}")
  ∧ ∀ parsed t, Url.parse url = .ok (.target parsed) → t = parsed.withoutCredentials →
    (∃ m, 0 < m ∧ Requests s t url 0 m w (world r)
      ∧ (∀ reason w', r ≠ .ok (.error (.malformed reason)) w')
      ∧ (∀ attempts w', r = .ok (.ok attempts) w' →
        attempts = min m attemptLimit ∧ ¬ (s.network (m - 1) t).Refuses)
      ∧ ∀ n, (∀ k ≤ n, (s.network k t).Refuses) →
        c.CalmUntil (w.now + (s.probing t).start interval (n + 1)) →
        w.now + (s.probing t).start interval (n + 1) ≤ c.dropAt → n + 1 < m)
    ∧ ∀ n, (∀ k < n, (s.network k t).Refuses) → ¬ (s.network n t).Refuses →
      c.CalmUntil (w.now + (s.probing t).finish interval n) →
      w.now + (s.probing t).finish interval n ≤ c.dropAt →
      ∃ w', r = .ok (.ok (min (n + 1) attemptLimit)) w'
        ∧ w'.now = w.now + (s.probing t).finish interval n ∧ Requests s t url 0 (n + 1) w w'
  := by
  dsimp only
  refine ⟨?_, ?_, ?_⟩
  · intro fault hparse
    apply awaitReady_failsAtOnce _ hraised
    rw [target, hparse]
  · intro scheme hparse
    apply awaitReady_failsAtOnce _ hraised
    rw [target, hparse]
  · rintro parsed t hparse rfl
    have htarget : target url = .ok parsed.withoutCredentials := by
      rw [target, hparse]
    constructor
    · obtain ⟨m, hpos, hm, hmalformed, hready⟩ := awaitReady_answered s rest c htarget hinterval
        hw hraised
      refine ⟨m, hpos, hm, hmalformed, hready, ?_⟩
      intro n hrefuses
      apply awaitReady_retries htarget hinterval hw hraised hm
      intro k hk
      apply hrefuses k (Nat.le_of_lt_succ hk)
    · intro n hrefuses hready hcalm hdrop
      apply awaitReady_ready s rest c htarget hinterval hw hraised hrefuses hready hcalm hdrop

/-- Ports of which nothing but the probes is used. -/
def onlyProbes : Ports (List Url.Target) where
  execute s _ _ := .hang s
  launch s _ _ _ := { state := s, result := .error (.io "out of order") }
  interrupt s _ _ := { state := s, result := .error (.io "out of order") }
  probe s _ _ := .hang s

/-- The place of an instance on this host. -/
def localInstance : Url.Target where
  secure := false
  username := []
  password := []
  host := .sixteen [0, 0, 0, 0, 0, 0, 0, 1]
  port := some 7159
  path := [[]]
  query := none
  fragment := none

theorem parse_localInstance :
  Url.parse "http://[::1]:7159" = .ok (.target localInstance)
  := by
  have h : (Url.parse "http://[::1]:7159").toOption = some (.target localInstance) := by
    decide +kernel
  cases hparse : Url.parse "http://[::1]:7159" with
  | error fault =>
    rw [hparse] at h
    cases h
  | ok parsed =>
    rw [hparse] at h
    cases h
    rfl

/-- A server that is reached by the second request and ready at the third. -/
def startingServer : Server where
  network k _ :=
    if k = 0 then .failed "error sending request"
    else if k = 1 then .answered 503 "http://[::1]:7159/"
    else .answered 204 "http://[::1]:7159/"
  took k := 10 * k

/-- The third request finds the server ready. -/
theorem awaitReady_overHttp_startingServer :
  Url.parse "http://[::1]:7159" = .ok (.target localInstance)
  ∧ (∀ k < 2, (startingServer.network k localInstance).Refuses)
  ∧ (startingServer.network 2 localInstance).Succeeds
  ∧ ∃ w', (awaitReady (startingServer.ports onlyProbes) { dropAt := 5000 } "http://[::1]:7159"
        1000).run (.fresh []) = .ok (.ok 3) w'
      ∧ w'.now = 2030 ∧ w'.ports = [localInstance, localInstance, localInstance]
  := by
  have hrefuses : ∀ k < 2, (startingServer.network k localInstance).Refuses := by
    intro k hk
    match k with
    | 0 => exact .inl ⟨_, rfl⟩
    | 1 => exact .inr ⟨503, _, rfl, by decide, by decide⟩
  have hsucceeds : (startingServer.network 2 localInstance).Succeeds :=
    ⟨204, _, rfl, by decide, by decide⟩
  have hcalm : Controls.CalmUntil { dropAt := 5000 }
      (0 + (startingServer.probing localInstance).finish 1000 2) := by
    rintro u ⟨⟩
  use parse_localInstance, hrefuses, hsucceeds
  obtain ⟨w', hrun, hnow, hrequests⟩ := ((awaitReady_overHttp startingServer onlyProbes
    { dropAt := 5000 } "http://[::1]:7159" (by decide) (.fresh []) rfl rfl).2.2 localInstance
    localInstance parse_localInstance (by decide +kernel)).2 2 hrefuses hsucceeds.not_refuses hcalm
    (by decide)
  exact ⟨w', hrun, hnow, hrequests.ports⟩

/-- A server that answers with a status beyond all classes is ready, although no request to it
succeeds. -/
theorem ready_without_success :
  let s : Server := ⟨fun _ _ => .answered 600 "http://[::1]:7159/", fun _ => 0⟩
  (∀ k t, ¬ (s.network k t).Succeeds)
  ∧ ∃ w', (awaitReady (s.ports onlyProbes) { dropAt := 5000 } "http://[::1]:7159" 1000).run
      (.fresh []) = .ok (.ok 1) w'
  := by
  intro s
  constructor
  · rintro k t ⟨_, _, ⟨⟩, -, hhigh⟩
    omega
  · have hready : ¬ (s.network 0 localInstance).Refuses := by
      rintro (⟨reason, ⟨⟩⟩ | ⟨_, _, ⟨⟩, -, hhigh⟩)
      omega
    have htarget : target "http://[::1]:7159" = .ok localInstance := by
      rw [target, parse_localInstance]
      decide +kernel
    have hcalm : Controls.CalmUntil { dropAt := 5000 }
        (0 + (s.probing localInstance).finish 1000 0) := by
      rintro u ⟨⟩
    obtain ⟨w', hrun, -⟩ := awaitReady_ready s onlyProbes { dropAt := 5000 } (w := .fresh [])
      htarget (by decide) rfl rfl (fun k hk => absurd hk (Nat.not_lt_zero k)) hready hcalm
      (by decide)
    exact ⟨w', hrun⟩

end ServiceHarness.Http
