import Mathlib.Data.List.Induction
import Mathlib.Data.List.Nodup
import ServiceHarness.Launcher

/-!
# The table of a launcher

A launcher is asked to launch and to interrupt, in any order and with any handles.  Its table
holds what it has launched and was not asked to interrupt since (`Launcher.table_tracks`).  A
kernel that remembers the calls to it (`Kernel.remembering`) tells what else a request does: a
launch begins one process, and an interrupt gives up its own leader, if that is in the table,
and then signals its own group.
-/

namespace ServiceHarness

variable {κ : Type}

/-! ### Kernels that remember -/

/-- A call that changes what a launcher has of a kernel, with its answer. -/
inductive Kernel.Call where
  /-- A process was to be begun. -/
  | spawned (i : Invocation) (ownGroup : Bool) (answer : Except String Nat)
  /-- It was asked how a child has ended. -/
  | collected (pid : Nat) (ending : Option Ending)
  /-- A child was left alone. -/
  | released (pid : Nat)
  /-- A group was interrupted. -/
  | signalled (pid : Nat) (answer : GroupAnswer)

/-- The group that a call interrupts. -/
def Kernel.Call.group : Kernel.Call → Option Nat
  | .signalled pid _ => some pid
  | _ => none

/-- The kernel that remembers the calls of a launcher. -/
def Kernel.remembering (K : Kernel κ) : Kernel (κ × List Kernel.Call) where
  readClock := fun (k, calls) =>
    let (now, k) := K.readClock k
    (now, k, calls)
  spawn := fun (k, calls) i ownGroup =>
    let (answer, k) := K.spawn k i ownGroup
    (answer, k, calls ++ [.spawned i ownGroup answer])
  holds := fun (k, _) pid => K.holds k pid
  collect := fun (k, calls) pid =>
    let (ending, k) := K.collect k pid
    (ending, k, calls ++ [.collected pid ending])
  await := fun (k, calls) pid => (K.await k pid).within fun k => (k, calls)
  kill := fun (k, calls) pid => (K.kill k pid, calls)
  release := fun (k, calls) pid => (K.release k pid, calls ++ [.released pid])
  interruptGroup := fun (k, calls) pid =>
    let (answer, k) := K.interruptGroup k pid
    (answer, k, calls ++ [.signalled pid answer])

namespace Launcher

/-- The calls that a launcher has made. -/
def calls (l : Launcher (κ × List Kernel.Call)) : List Kernel.Call :=
  l.kernel.2

/-- The launcher whose kernel has forgotten the calls. -/
def plain (l : Launcher (κ × List Kernel.Call)) : Launcher κ where
  kernel := l.kernel.1
  children := l.children

/-! ### What a launch does -/

/-- The calls, the answer and the table of a launch, where `there` tells whether the process that
has begun is still there. -/
inductive Begins (service : String) (i : Invocation) (there : Nat → Bool) (children : List Nat) :
    List Kernel.Call → Except ProcessFault Handle → List Nat → Prop
  /-- A process has begun, and is in the table. -/
  | begun (pid : Nat) (h : there pid = true) :
      Begins service i there children [.spawned i true (.ok pid)] (.ok ⟨service, pid⟩)
        (pid :: children.filter (· != pid))
  /-- A process has begun and is gone before its number is told. -/
  | gone (pid : Nat) (h : there pid = false) :
      Begins service i there children [.spawned i true (.ok pid)]
        (.error (.spawn s!"{service} exited before its pid was read")) children
  /-- There is no process. -/
  | failed (reason : String) :
      Begins service i there children [.spawned i true (.error reason)]
        (.error (.spawn s!"{i.command.program}: {reason}")) children

/-- Whether a process that a launcher begins with an invocation is still there afterwards. -/
def thereAfterwards (K : Kernel κ) (l : Launcher κ) (i : Invocation) (pid : Nat) : Bool :=
  K.holds (K.spawn l.kernel i true).2 pid

theorem launch_begins (K : Kernel κ) (l : Launcher (κ × List Kernel.Call)) (service : String)
    (i : Invocation) :
  ∃ made,
    Begins service i (l.plain.thereAfterwards K i) l.children made
        (l.launch K.remembering service i).1 (l.launch K.remembering service i).2.children
      ∧ (l.launch K.remembering service i).2.calls = l.calls ++ made
  := by
  obtain ⟨⟨k, calls⟩, children⟩ := l
  rcases hspawn : K.spawn k i true with ⟨reason | pid, k'⟩
  · use [.spawned i true (.error reason)]
    simp only [launch, Kernel.start, Kernel.remembering, hspawn]
    exact ⟨.failed reason, rfl⟩
  · use [.spawned i true (.ok pid)]
    have hthere : thereAfterwards K (plain ⟨(k, calls), children⟩) i pid = K.holds k' pid := by
      rw [thereAfterwards, plain, hspawn]
    rcases hholds : K.holds k' pid
    · simp only [launch, Kernel.start, Kernel.remembering, hspawn, hholds, Bool.false_eq_true,
        if_false]
      exact ⟨.gone pid (hthere.trans hholds), rfl⟩
    · simp only [launch, Kernel.start, Kernel.remembering, hspawn, hholds, if_true]
      exact ⟨.begun pid (hthere.trans hholds), rfl⟩

theorem launch_plain (K : Kernel κ) (l : Launcher (κ × List Kernel.Call)) (service : String)
    (i : Invocation) :
  l.plain.launch K service i
    = ((l.launch K.remembering service i).1, (l.launch K.remembering service i).2.plain)
  := by
  obtain ⟨⟨k, calls⟩, children⟩ := l
  rcases hspawn : K.spawn k i true with ⟨reason | pid, k'⟩
  · simp only [launch, Kernel.start, Kernel.remembering, plain, hspawn]
  · rcases hholds : K.holds k' pid <;>
      simp only [launch, Kernel.start, Kernel.remembering, plain, hspawn, hholds,
        Bool.false_eq_true, if_true, if_false]

/-- No launch signals a group. -/
theorem Begins.filterMap_group {service : String} {i : Invocation} {there : Nat → Bool}
    {children children' : List Nat} {made : List Kernel.Call} {answer : Except ProcessFault Handle}
    (h : Begins service i there children made answer children') :
  made.filterMap Kernel.Call.group = []
  := by
  cases h with
  | begun => rfl
  | gone => rfl
  | failed => rfl

theorem Begins.nodup {service : String} {i : Invocation} {there : Nat → Bool}
    {children children' : List Nat} {made : List Kernel.Call} {answer : Except ProcessFault Handle}
    (h : Begins service i there children made answer children') (hchildren : children.Nodup) :
  children'.Nodup
  := by
  cases h with
  | begun pid =>
    apply List.Nodup.cons
    · simp
    · apply hchildren.filter
  | gone => exact hchildren
  | failed => exact hchildren

/-- A launch adds what it returns to the table, and nothing else. -/
theorem Begins.mem_iff {service : String} {i : Invocation} {there : Nat → Bool}
    {children children' : List Nat} {made : List Kernel.Call} {answer : Except ProcessFault Handle}
    (h : Begins service i there children made answer children') (pid : Nat) :
  pid ∈ children' ↔ (∃ name, answer = .ok ⟨name, pid⟩) ∨ pid ∈ children
  := by
  cases h with
  | begun pid' =>
    by_cases hpid : pid = pid'
    · simp [hpid]
    · simp [hpid, Ne.symm hpid]
  | gone => simp
  | failed => simp

/-! ### What an interrupt does -/

/-- The calls by which a leader is given up. -/
inductive GivesUp (children : List Nat) (pid : Nat) : List Kernel.Call → Prop
  /-- It has ended and is collected. -/
  | ended (h : pid ∈ children) (ending : Ending) :
      GivesUp children pid [.collected pid (some ending)]
  /-- It has not ended and is left alone. -/
  | running (h : pid ∈ children) :
      GivesUp children pid [.collected pid none, .released pid]
  /-- It is not in the table. -/
  | unknown (h : pid ∉ children) : GivesUp children pid []

/-- The calls by which a group is interrupted, and what comes of it.  The number of a group fits
into 32 bits with a sign. -/
inductive Signals (pid : Nat) : List Kernel.Call → Except ProcessFault SignalOutcome → Prop
  /-- The signal has reached the group. -/
  | delivered (h : pid < 0x80000000) :
      Signals pid [.signalled pid .delivered] (.ok .delivered)
  /-- There is no such group. -/
  | noGroup (h : pid < 0x80000000) :
      Signals pid [.signalled pid .noGroup] (.ok .alreadyExited)
  /-- The signal was refused. -/
  | refused (h : pid < 0x80000000) (reason : String) :
      Signals pid [.signalled pid (.refused reason)]
        (.error (.signal s!"SIGINT to process group {pid} failed: {reason}"))
  /-- No group can have this number. -/
  | tooLarge (h : 0x80000000 ≤ pid) :
      Signals pid [] (.error (.signal s!"pid {pid} out of range"))

theorem GivesUp.filterMap_group {children : List Nat} {pid : Nat} {given : List Kernel.Call}
    (h : GivesUp children pid given) :
  given.filterMap Kernel.Call.group = []
  := by
  cases h with
  | ended => rfl
  | running => rfl
  | unknown => rfl

theorem Signals.filterMap_group {pid : Nat} {sent : List Kernel.Call}
    {answer : Except ProcessFault SignalOutcome} (h : Signals pid sent answer) :
  sent.filterMap Kernel.Call.group = [pid].filter (· < 0x80000000)
  := by
  have hfits : pid < 0x80000000 → [pid].filter (· < 0x80000000) = [pid] := by
    intro hpid
    apply List.filter_eq_self.mpr
    intro p hp
    rw [List.mem_singleton.mp hp]
    apply decide_eq_true hpid
  cases h with
  | delivered h =>
    rw [hfits h]
    rfl
  | noGroup h =>
    rw [hfits h]
    rfl
  | refused h =>
    rw [hfits h]
    rfl
  | tooLarge h =>
    symm
    apply List.filter_eq_nil_iff.mpr
    intro p hp
    rw [List.mem_singleton.mp hp]
    apply mt of_decide_eq_true (Nat.not_lt.mpr h)

theorem letGo_children (K : Kernel κ) (l : Launcher κ) (h : Handle) :
  (l.letGo K h).2.children = l.children.filter (· != h.pid)
  := by
  unfold letGo
  by_cases hmem : l.children.contains h.pid = true
  · rw [if_pos hmem]
    rcases K.collect l.kernel h.pid with ⟨_ | ending, k⟩ <;> rfl
  · rw [if_neg hmem]
    symm
    apply List.filter_eq_self.mpr
    intro pid hpid
    rw [bne_iff_ne]
    rintro rfl
    apply hmem
    rwa [List.contains_iff_mem]

theorem letGo_givesUp (K : Kernel κ) (l : Launcher (κ × List Kernel.Call)) (h : Handle) :
  ∃ given, GivesUp l.children h.pid given
    ∧ (l.letGo K.remembering h).2.calls = l.calls ++ given
  := by
  obtain ⟨⟨k, calls⟩, children⟩ := l
  unfold letGo
  by_cases hmem : h.pid ∈ children
  · rw [if_pos (List.contains_iff_mem.mpr hmem)]
    rcases hcollect : K.collect k h.pid with ⟨_ | ending, k'⟩
    · refine ⟨_, .running hmem, ?_⟩
      simp [Kernel.remembering, hcollect, Launcher.calls]
    · refine ⟨_, .ended hmem ending, ?_⟩
      simp [Kernel.remembering, hcollect, Launcher.calls]
  · rw [if_neg (by rwa [List.contains_iff_mem])]
    refine ⟨_, .unknown hmem, ?_⟩
    rw [List.append_nil]

theorem letGo_plain (K : Kernel κ) (l : Launcher (κ × List Kernel.Call)) (h : Handle) :
  l.plain.letGo K h = ((l.letGo K.remembering h).1, (l.letGo K.remembering h).2.plain)
  := by
  obtain ⟨⟨k, calls⟩, children⟩ := l
  by_cases hmem : children.contains h.pid = true
  · rcases hcollect : K.collect k h.pid with ⟨_ | ending, k'⟩ <;>
      simp only [letGo, plain, Kernel.remembering, hmem, hcollect, if_true]
  · simp only [letGo, plain, hmem, Bool.false_eq_true, if_false]

theorem interruptGroup_signals (K : Kernel κ) (k : κ) (calls : List Kernel.Call) (pid : Nat) :
  ∃ sent, Signals pid sent (interruptGroup K.remembering (k, calls) pid).1
    ∧ (interruptGroup K.remembering (k, calls) pid).2.2 = calls ++ sent
  := by
  have hlargest : largestGroup = 0x7fffffff := by decide
  by_cases hpid : largestGroup < pid
  · use []
    rw [interruptGroup, if_pos hpid]
    exact ⟨.tooLarge (by omega), (List.append_nil calls).symm⟩
  · have hfits : pid < 0x80000000 := by omega
    use [.signalled pid (K.interruptGroup k pid).1]
    rw [interruptGroup, if_neg hpid]
    rcases hanswer : K.interruptGroup k pid with ⟨_ | _ | reason, k'⟩ <;>
      simp only [Kernel.remembering, hanswer, and_true]
    · exact .delivered hfits
    · exact .noGroup hfits
    · exact .refused hfits reason

theorem interruptGroup_plain (K : Kernel κ) (k : κ) (calls : List Kernel.Call) (pid : Nat) :
  interruptGroup K k pid
    = ((interruptGroup K.remembering (k, calls) pid).1,
      (interruptGroup K.remembering (k, calls) pid).2.1)
  := by
  unfold interruptGroup
  by_cases hpid : largestGroup < pid
  · rw [if_pos hpid, if_pos hpid]
  · rw [if_neg hpid, if_neg hpid]
    rcases hanswer : K.interruptGroup k pid with ⟨_ | _ | reason, k'⟩ <;>
      simp only [Kernel.remembering, hanswer]

/-- An interrupt takes its own leader out of the table, and nothing else. -/
theorem mem_interrupt_children (K : Kernel κ) (l : Launcher κ) (h : Handle) (pid : Nat) :
  pid ∈ (l.interrupt K h).2.children ↔ pid ∈ l.children ∧ pid ≠ h.pid
  := by
  change pid ∈ (l.letGo K h).2.children ↔ _
  rw [letGo_children, List.mem_filter, bne_iff_ne]

theorem interrupt_children_nodup (K : Kernel κ) (l : Launcher κ) (h : Handle)
    (hl : l.children.Nodup) :
  (l.interrupt K h).2.children.Nodup
  := by
  change (l.letGo K h).2.children.Nodup
  rw [letGo_children]
  apply hl.filter

/-- An interrupt gives up its leader and then signals its group. -/
theorem interrupt_signals (K : Kernel κ) (l : Launcher (κ × List Kernel.Call)) (h : Handle) :
  ∃ given sent, GivesUp l.children h.pid given
    ∧ Signals h.pid sent (l.interrupt K.remembering h).1.1
    ∧ (l.interrupt K.remembering h).2.calls = l.calls ++ given ++ sent
  := by
  obtain ⟨given, hgiven, hcalls⟩ := letGo_givesUp K l h
  obtain ⟨sent, hsent, hsentCalls⟩ := interruptGroup_signals K
    (l.letGo K.remembering h).2.kernel.1 (l.letGo K.remembering h).2.kernel.2 h.pid
  use given, sent, hgiven, hsent
  rw [← hcalls]
  exact hsentCalls

theorem interrupt_plain (K : Kernel κ) (l : Launcher (κ × List Kernel.Call)) (h : Handle) :
  l.plain.interrupt K h
    = ((l.interrupt K.remembering h).1, (l.interrupt K.remembering h).2.plain)
  := by
  have hgroup := interruptGroup_plain K (l.letGo K.remembering h).2.kernel.1
    (l.letGo K.remembering h).2.kernel.2 h.pid
  simp only [interrupt, letGo_plain]
  simp only [plain, hgroup]

/-! ### Requests -/

/-- What a launcher is asked for. -/
inductive Request where
  /-- To launch a service. -/
  | launch (service : String) (i : Invocation)
  /-- To interrupt what a handle stands for. -/
  | interrupt (h : Handle)

/-- The process that is to be interrupted. -/
def Request.interrupted : Request → Option Nat
  | .launch _ _ => none
  | .interrupt h => some h.pid

/-- What a launcher replies. -/
inductive Reply where
  /-- The service is launched, or why it is not. -/
  | launched (answer : Except ProcessFault Handle)
  /-- What the interrupt of a handle found, and what the log is told. -/
  | interrupted (h : Handle) (answer : Except ProcessFault SignalOutcome) (notices : List Notice)

/-- Serves one request. -/
def serve (K : Kernel κ) (l : Launcher κ) : Request → Reply × Launcher κ
  | .launch service i =>
    let (answer, l) := l.launch K service i
    (.launched answer, l)
  | .interrupt h =>
    let ((answer, notices), l) := l.interrupt K h
    (.interrupted h answer notices, l)

/-- Serves requests one after the other. -/
def serveAll (K : Kernel κ) (l : Launcher κ) : List Request → List Reply × Launcher κ
  | [] => ([], l)
  | r :: rest =>
    let (reply, l) := l.serve K r
    let (replies, l) := l.serveAll K rest
    (reply :: replies, l)

/-- The last request is served by what the others leave. -/
theorem serveAll_concat (K : Kernel κ) (l : Launcher κ) (requests : List Request) (r : Request) :
  l.serveAll K (requests ++ [r])
    = ((l.serveAll K requests).1 ++ [((l.serveAll K requests).2.serve K r).1],
      ((l.serveAll K requests).2.serve K r).2)
  := by
  induction requests generalizing l with
  | nil => rfl
  | cons first rest ih => simp only [List.cons_append, serveAll, ih]

/-- A kernel does not serve otherwise because it remembers. -/
theorem serve_plain (K : Kernel κ) (l : Launcher (κ × List Kernel.Call)) (r : Request) :
  l.plain.serve K r = ((l.serve K.remembering r).1, (l.serve K.remembering r).2.plain)
  := by
  cases r with
  | launch service i => rw [serve, launch_plain, serve]
  | interrupt h => rw [serve, interrupt_plain, serve]

theorem serveAll_plain (K : Kernel κ) (l : Launcher (κ × List Kernel.Call))
    (requests : List Request) :
  l.plain.serveAll K requests
    = ((l.serveAll K.remembering requests).1, (l.serveAll K.remembering requests).2.plain)
  := by
  induction requests generalizing l with
  | nil => rfl
  | cons r rest ih => simp only [serveAll, serve_plain, ih]

/-! ### The table after any requests -/

/-- A process that a launch has returned and that no later interrupt was for. -/
def Outstanding (replies : List Reply) (pid : Nat) : Prop :=
  ∃ before service after, replies = before ++ .launched (.ok ⟨service, pid⟩) :: after
    ∧ ∀ h answer notices, .interrupted h answer notices ∈ after → h.pid ≠ pid

theorem not_outstanding_nil (pid : Nat) :
  ¬ Outstanding [] pid
  := by
  rintro ⟨before, service, after, h, -⟩
  simp at h

/-- The last reply launches the process, or is not to an interrupt of it. -/
theorem outstanding_concat (replies : List Reply) (reply : Reply) (pid : Nat) :
  Outstanding (replies ++ [reply]) pid
    ↔ (∃ service, reply = .launched (.ok ⟨service, pid⟩))
      ∨ Outstanding replies pid
        ∧ ∀ h answer notices, reply = .interrupted h answer notices → h.pid ≠ pid
  := by
  constructor
  · rintro ⟨before, service, after, h, hafter⟩
    rcases List.eq_nil_or_concat' after with rfl | ⟨after, last, rfl⟩
    · left
      use service
      have hlast := congrArg List.getLast? h
      simpa using hlast
    · right
      rw [← List.cons_append, ← List.append_assoc] at h
      obtain ⟨rfl, hlast⟩ := List.append_inj' h rfl
      obtain rfl := List.singleton_inj.mp hlast
      constructor
      · use before, service, after, rfl
        intro handle answer notices hmem
        apply hafter handle answer notices (List.mem_append_left _ hmem)
      · rintro handle answer notices rfl
        apply hafter handle answer notices
        apply List.mem_append_right _ (List.mem_singleton_self _)
  · rintro (⟨service, rfl⟩ | ⟨⟨before, service, after, rfl, hafter⟩, hreply⟩)
    · use replies, service, [], rfl
      simp
    · use before, service, after ++ [reply], by simp
      intro handle answer notices hmem
      rcases List.mem_append.mp hmem with hmem | hmem
      · apply hafter handle answer notices hmem
      · apply hreply handle answer notices (List.mem_singleton.mp hmem).symm

/-- What is known of a launcher after requests: its table and the groups it has signalled. -/
structure Tracks (requests : List Request) (replies : List Reply)
    (l : Launcher (κ × List Kernel.Call)) : Prop where
  /-- The table holds what is outstanding. -/
  mem_iff (pid : Nat) : pid ∈ l.children ↔ Outstanding replies pid
  /-- It holds nothing twice. -/
  nodup : l.children.Nodup
  /-- Each interrupt has signalled its group, if there can be such a group. -/
  signalled :
    l.calls.filterMap Kernel.Call.group
      = (requests.filterMap Request.interrupted).filter (· < 0x80000000)

theorem tracks_nil (k : κ) :
  Tracks [] [] { kernel := (k, []) }
  := by
  constructor
  case mem_iff =>
    intro pid
    simp only [List.not_mem_nil, false_iff]
    apply not_outstanding_nil
  case nodup => apply List.nodup_nil
  case signalled => rfl

/-- One more request keeps the launcher on the track. -/
theorem Tracks.serve {requests : List Request} {replies : List Reply}
    {l : Launcher (κ × List Kernel.Call)} (h : Tracks requests replies l) (K : Kernel κ)
    (r : Request) :
  Tracks (requests ++ [r]) (replies ++ [(l.serve K.remembering r).1])
    (l.serve K.remembering r).2
  := by
  cases r with
  | launch service i =>
    obtain ⟨made, hmade, hcalls⟩ := launch_begins K l service i
    constructor
    case mem_iff =>
      intro pid
      rw [outstanding_concat, ← h.mem_iff]
      simp only [Launcher.serve, Reply.launched.injEq, reduceCtorEq, false_implies,
        implies_true, and_true]
      apply hmade.mem_iff
    case nodup => apply hmade.nodup h.nodup
    case signalled =>
      simp only [Launcher.serve, hcalls, List.filterMap_append, hmade.filterMap_group,
        h.signalled, List.append_nil, List.filterMap_cons, Request.interrupted,
        List.filterMap_nil]
  | interrupt handle =>
    obtain ⟨given, sent, hgiven, hsent, hcalls⟩ := interrupt_signals K l handle
    constructor
    case mem_iff =>
      intro pid
      rw [outstanding_concat, ← h.mem_iff]
      simp only [Launcher.serve, reduceCtorEq, exists_false, false_or]
      rw [mem_interrupt_children]
      constructor
      · rintro ⟨hpid, hne⟩
        use hpid
        rintro _ _ _ ⟨⟩
        exact hne.symm
      · rintro ⟨hpid, hne⟩
        exact ⟨hpid, (hne handle _ _ rfl).symm⟩
    case nodup => apply interrupt_children_nodup K.remembering l handle h.nodup
    case signalled =>
      simp only [Launcher.serve, hcalls, List.filterMap_append, hgiven.filterMap_group,
        hsent.filterMap_group, h.signalled, List.append_nil, List.filterMap_cons,
        Request.interrupted, List.filterMap_nil, List.filter_append]

theorem tracks_serveAll (K : Kernel κ) (k : κ) (requests : List Request) :
  Tracks requests (serveAll K.remembering { kernel := (k, []) } requests).1
    (serveAll K.remembering { kernel := (k, []) } requests).2
  := by
  induction requests using List.reverseRecOn with
  | nil => apply tracks_nil
  | append_singleton requests r ih =>
    rw [serveAll_concat]
    apply ih.serve

/-- After any requests the table of a launcher holds just the processes that were launched and
not interrupted since, and each interrupt has signalled its own group once, if that is a group at
all.  One more launch begins one process, which is added to the table unless it fails or the
process is gone before its number is told; one more
interrupt takes its own leader from the table, whatever comes of the signal. -/
theorem table_tracks (K : Kernel κ) (k : κ) (requests : List Request) :
  ∃ replies l,
    serveAll K.remembering { kernel := (k, []) } requests = (replies, l)
      ∧ serveAll K { kernel := k } requests = (replies, l.plain)
      ∧ Tracks requests replies l
      ∧ (∀ service i, ∃ made,
          Begins service i (l.plain.thereAfterwards K i) l.children made
            (l.launch K.remembering service i).1 (l.launch K.remembering service i).2.children
          ∧ (l.launch K.remembering service i).2.calls = l.calls ++ made)
      ∧ ∀ h : Handle,
          (∀ pid, pid ∈ (l.interrupt K.remembering h).2.children ↔ pid ∈ l.children ∧ pid ≠ h.pid)
          ∧ ∃ given sent, GivesUp l.children h.pid given
            ∧ Signals h.pid sent (l.interrupt K.remembering h).1.1
            ∧ (l.interrupt K.remembering h).2.calls = l.calls ++ given ++ sent
  := by
  use (serveAll K.remembering { kernel := (k, []) } requests).1
  use (serveAll K.remembering { kernel := (k, []) } requests).2
  refine ⟨rfl, ?_, tracks_serveAll K k requests, ?_, ?_⟩
  · apply serveAll_plain K { kernel := (k, []) } requests
  · apply launch_begins
  · intro h
    constructor
    · apply mem_interrupt_children
    · apply interrupt_signals

end Launcher

end ServiceHarness
