import ServiceHarness.Proofs.Run.Transcript

/-!
# The handles of a run

Whatever the ports do, and whether a run passes, fails, is dropped or panics, it interrupts the
handles that it launched, all of them and no others, each once and in the order of launching.  These
are the handles that its launcher gave and was asked to interrupt: each run leaves a transcript, and
of several runs on the same ports each begins where the one before it has left them.
-/

namespace ServiceHarness.Run

variable {σ : Type}

/-- A run interrupts what it launched. -/
theorem perform_interrupted (P : Ports σ) (c : Controls) (plan : Plan) (runId : String)
    (ports : σ) :
  Trace.interrupted (perform P c plan runId ports).world.events
    = Trace.launched (perform P c plan runId ports).world.events
  := by
  have haccounted := (perform_orderly P c plan runId ports).accounted
  rw [World.Accounted, live_perform, List.append_nil] at haccounted
  apply haccounted.symm

/-- The runs leave transcripts of what the same ports were asked, one run after the other: each
begins at its instant zero, with no handle held and in the state in which the run before it has left
the ports. -/
def InTurn (P : Ports σ) (interval : Nat) : σ → List (Result σ) → Prop
  | _, [] => True
  | ports, r :: rest =>
    Transcript P interval { ports := ports } r.world.standing
      ∧ InTurn P interval r.world.ports rest

/-- Of the runs that are performed one after the other on the same ports, each interrupts what
it launched itself, and leaves no service live; and the launches and interrupts are what the launcher
was asked, with its answers. -/
theorem performAll_interrupted (P : Ports σ) (plan : Plan) :
    ∀ (requests : List (Controls × String)) (h : Harness σ),
      (h.performAll P plan requests).length = requests.length
        ∧ InTurn P plan.interval h.ports (h.performAll P plan requests)
        ∧ ∀ r ∈ h.performAll P plan requests,
          Trace.interrupted r.world.events = Trace.launched r.world.events ∧ r.world.live = []
  | [], h => ⟨rfl, trivial, fun _ hr => by cases hr⟩
  | (c, runId) :: rest, h => by
    obtain ⟨hlength, hturn, hrest⟩ :=
      performAll_interrupted P plan rest (h.perform P c plan runId).2
    constructor
    · rw [Harness.performAll, List.length_cons, List.length_cons, hlength]
    · constructor
      · exact ⟨perform_transcribed P c plan runId h.ports, hturn⟩
      · intro r hr
        rw [Harness.performAll] at hr
        obtain rfl | hr := List.mem_cons.mp hr
        · use perform_interrupted P c plan runId h.ports
          apply live_perform
        · apply hrest r hr

end ServiceHarness.Run
