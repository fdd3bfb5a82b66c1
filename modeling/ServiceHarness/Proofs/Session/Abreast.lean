import ServiceHarness.Proofs.Sequential.Mirror
import ServiceHarness.Proofs.Session.Doing

/-!
# One session under two controls

A session under some controls is compared with the same session under others.  While neither the
signal is raised nor the run is dropped, the two run `World.Abreast`: they have come equally far.
Once they are `Parted`, the second begins nothing any more that the first has not begun, unless it
is the first that was disturbed.  `Session.Steady` says of a session that depends on the controls
that two runs of it which begin abreast end abreast or parted, and it goes along with the constructs
of sessions, as `Attempt.Steady` does for attempts.
-/

namespace ServiceHarness

variable {σ α β : Type} {c₀ c : Controls} {w₀ w w₀' w' : World σ}

/-! ### What was begun -/

namespace Trace

/-- The events with which calls of the executor, launches and probes begin. -/
def begun (es : List Event) : List Event :=
  es.filter Event.begins

theorem begun_append (es es' : List Event) :
  begun (es ++ es') = begun es ++ begun es'
  := List.filter_append es es'

theorem begun_calls (es : List Event) :
  begun (calls es) = begun es
  := by
  rw [begun, calls, List.filter_filter]
  congr 1
  funext e
  cases e <;> rfl

theorem begun_deeds (es : List Event) :
  begun (deeds es) = begun es
  := by
  rw [begun, deeds, List.filter_filter]
  congr 1
  funext e
  cases e <;> rfl

/-- What is launched is read off what is begun. -/
theorem launched_begun (es : List Event) :
  launched (begun es) = launched es
  := by
  apply filterMap_filter
  intro e h
  cases e with
  | launched _ _ _ => cases h
  | _ => rfl

end Trace

namespace World

/-- What was begun so far. -/
def begun (w : World σ) : List Event :=
  Trace.begun w.events

theorem begun_of_deeds {ds : List Event} (h : w'.deeds = w.deeds ++ ds) :
  w'.begun = w.begun ++ Trace.begun ds
  := by
  rw [begun, begun, ← Trace.begun_deeds, ← Trace.begun_deeds w.events, ← Trace.begun_append]
  exact congrArg Trace.begun h

theorem begun_record (w : World σ) {e : Event} (he : e.begins = false) :
  (w.record e).begun = w.begun
  := by
  rw [begun, events_record, Trace.begun_append, Trace.begun, Trace.begun,
    List.filter_cons_of_neg (by simp [he])]
  apply List.append_nil

theorem begun_of_standing (h : w₀.standing = w.standing) :
  w₀.begun = w.begun
  := by
  rw [begun, begun, ← Trace.begun_calls, ← Trace.begun_calls w.events]
  exact congrArg (fun s => Trace.begun s.calls) h

end World

/-- From a world in which the signal is raised a move begins nothing. -/
theorem Move.begun (h : Move c w w') (hraised : w.raised = true) :
  w'.begun = w.begun
  := by
  cases h with
  | tells n => apply w.begun_record rfl
  | enters p => apply World.begun_record _ rfl
  | settles s => rfl
  | executing i hcalm => simp [hraised] at hcalm
  | executed r => apply w.begun_record rfl
  | launches s i reply hcalm => simp [hraised] at hcalm
  | probing url hcalm => simp [hraised] at hcalm
  | probed r => apply w.begun_record rfl
  | interrupts first rest reply _ => apply w.begun_record rfl
  | passes t _ _ _ _ => rfl
  | raises => rw [w.trip_of_raised hraised]

theorem Moves.begun (h : Moves c w w') (hraised : w.raised = true) :
  w'.begun = w.begun
  := by
  induction h with
  | refl => rfl
  | tail hmoves hmove ih => rw [hmove.begun (Moves.raised hmoves hraised), ih]

theorem Moves.begun_grow (h : Moves c w w') :
  w.begun <+: w'.begun
  := h.events_grow.filter _

/-! ### Two worlds -/

/-- Two runs have come equally far, and the signal is raised in neither. -/
structure World.Abreast (w₀ w : World σ) : Prop where
  /-- They have come equally far. -/
  standing : w₀.standing = w.standing
  /-- The signal of the first is not raised. -/
  calm₀ : w₀.raised = false
  /-- The signal of the second is not raised. -/
  calm : w.raised = false

namespace World.Abreast

/-- The ports are in the same state. -/
theorem ports (h : w₀.Abreast w) :
  w₀.ports = w.ports
  := congrArg Standing.ports h.standing

/-- It is the same time in both. -/
theorem now (h : w₀.Abreast w) :
  w₀.now = w.now
  := congrArg Standing.now h.standing

theorem tell (h : w₀.Abreast w) (n : Notice) :
  (w₀.tell n).Abreast (w.tell n)
  := by
  use (w₀.standing_tell n).trans (h.standing.trans (w.standing_tell n).symm), h.calm₀
  apply h.calm

/-- The same part of a call is recorded. -/
theorem record (h : w₀.Abreast w) {e : Event} (he : e.isCall = true) :
  (w₀.record e).Abreast (w.record e)
  := by
  constructor
  case standing => rw [w₀.standing_record he, w.standing_record he, h.standing]
  case calm₀ => apply h.calm₀
  case calm => apply h.calm

/-- The same service is launched, with the same answer. -/
theorem launch (h : w₀.Abreast w) (s : String) (i : Invocation) (reply : Reply σ Handle) :
  (w₀.launch s i reply).Abreast (w.launch s i reply)
  := by
  constructor
  case standing => rw [w₀.standing_launch, w.standing_launch, h.standing]
  case calm₀ => apply h.calm₀
  case calm => apply h.calm

end World.Abreast

/-- The second run, which may have been cut short like the first, will begin nothing that the first
has not begun, unless the first was disturbed. -/
inductive Parted (c₀ : Controls) : Option Cut → World σ → Option Cut → World σ → Prop where
  /-- The signal of the first is raised. -/
  | disturbed {k₀ k : Option Cut} {w₀ w : World σ} (h : w₀.raised = true) : Parted c₀ k₀ w₀ k w
  /-- The first was dropped earlier. -/
  | outlived {k : Option Cut} {w₀ w : World σ} (h : c₀.dropAt < w.now) :
    Parted c₀ (some .dropped) w₀ k w
  /-- The second is over, or begins nothing any more. -/
  | ended {k₀ k : Option Cut} {w₀ w : World σ} (h : k ≠ none ∨ w.raised = true)
      (hbegun : w.begun <+: w₀.begun) :
    Parted c₀ k₀ w₀ k w

/-- Worlds stay parted while the first run goes on. -/
theorem Parted.first {k : Option Cut} (h : Parted c₀ none w₀ k w) (hmoves : Moves c₀ w₀ w₀')
    (k₀ : Option Cut) :
  Parted c₀ k₀ w₀' k w
  := by
  cases h with
  | disturbed h => apply Parted.disturbed (hmoves.raised h)
  | ended h hbegun => apply Parted.ended h (hbegun.trans hmoves.begun_grow)

/-- Worlds stay parted while the second run goes on. -/
theorem Parted.second {k₀ : Option Cut} (h : Parted c₀ k₀ w₀ none w) (hmoves : Moves c w w')
    (k : Option Cut) :
  Parted c₀ k₀ w₀ k w'
  := by
  cases h with
  | disturbed h => apply Parted.disturbed h
  | outlived h => apply Parted.outlived (Nat.lt_of_lt_of_le h hmoves.now_le)
  | ended h hbegun =>
    obtain hnone | hraised := h
    · cases hnone rfl
    · apply Parted.ended (.inr (hmoves.raised hraised))
      rw [hmoves.begun hraised]
      exact hbegun

/-- If the first run was not disturbed, and not dropped earlier, it has begun all that the second
has begun. -/
theorem Parted.ahead {k₀ k : Option Cut} (h : Parted c₀ k₀ w₀ k w) (hcalm : w₀.raised = false)
    (hdropped : k₀ = some .dropped → w.now ≤ c₀.dropAt) :
  w.begun <+: w₀.begun
  := by
  cases h with
  | disturbed hraised =>
    rw [hcalm] at hraised
    cases hraised
  | outlived hlate =>
    have hearly := hdropped rfl
    omega
  | ended _ hbegun => exact hbegun

namespace Session

/-! ### Two sessions -/

/-- The world in which a session has ended. -/
def world : EStateM.Result Cut (World σ) α → World σ
  | .ok _ w => w
  | .error _ w => w

/-- How a session was cut short, if it was. -/
def cut? : EStateM.Result Cut (World σ) α → Option Cut
  | .ok _ _ => none
  | .error k _ => some k

/-- The session gets by moves to where it ends. -/
def Roams (c : Controls) (m : Session σ α) (w : World σ) : Prop :=
  Moves c w (world (m.run w))

/-- What holds however a session ends holds of the world in which it has ended. -/
theorem Ends.world {m : Session σ α} {p : World σ → Prop}
    (h : Ends m w (fun _ w' => p w') (fun _ w' => p w')) :
  p (world (m.run w))
  := by
  rw [Ends] at h
  cases hm : m.run w with
  | ok a w' =>
    rw [hm] at h
    exact h
  | error k w' =>
    rw [hm] at h
    exact h

theorem Does.roams {m : Session σ α} {ok : α → List Event → World σ → Prop}
    {cut : Cut → List Event → World σ → Prop} (h : Does c m w ok cut) :
  Roams c m w
  := by
  have hmoves : Ends m w (fun _ w' => Moves c w w') (fun _ w' => Moves c w w') := by
    apply Ends.mono h
    · rintro _ _ ⟨hmoves, -⟩
      exact hmoves
    · rintro _ _ ⟨hmoves, -⟩
      exact hmoves
  exact hmoves.world

theorem Roams.bind {m : Session σ α} {f : α → Session σ β} (h : Roams c m w)
    (hf : ∀ a w', Roams c (f a) w') :
  Roams c (m >>= f) w
  := by
  rw [Roams] at h ⊢
  rw [EStateM.run_bind]
  cases hm : m.run w with
  | ok a w' =>
    rw [hm] at h
    apply h.trans (hf a w')
  | error k w' =>
    rw [hm] at h
    exact h

/-- Two sessions end abreast with the same outcome, or parted. -/
inductive Beside (c₀ : Controls) :
    EStateM.Result Cut (World σ) α → EStateM.Result Cut (World σ) α → Prop where
  /-- They end abreast. -/
  | abreast (a : α) {w₀ w : World σ} (h : w₀.Abreast w) : Beside c₀ (.ok a w₀) (.ok a w)
  /-- They have parted. -/
  | parted {r₀ r : EStateM.Result Cut (World σ) α}
      (h : Parted c₀ (cut? r₀) (world r₀) (cut? r) (world r)) : Beside c₀ r₀ r

/-- If the first session was not disturbed, and not dropped earlier, it has begun all that the
second has begun. -/
theorem Beside.ahead {r₀ r : EStateM.Result Cut (World σ) α} (h : Beside c₀ r₀ r)
    (hcalm : (world r₀).raised = false)
    (hdropped : cut? r₀ = some .dropped → (world r).now ≤ c₀.dropAt) :
  (world r).begun <+: (world r₀).begun
  := by
  cases h with
  | @abreast a w₀ w habreast =>
    change w.begun <+: w₀.begun
    rw [World.begun_of_standing habreast.standing]
  | parted hparted => apply hparted.ahead hcalm hdropped

/-- A session that has an outcome has got by moves to its world. -/
theorem Roams.of_ok {m : Session σ α} (h : Roams c m w) {a : α} (hrun : m.run w = .ok a w') :
  Moves c w w'
  := by
  rw [Roams, hrun] at h
  exact h

/-- What goes on in both worlds may begin abreast; where the worlds have parted, it is enough that
it is made of moves. -/
theorem Beside.bind {m₀ m : Session σ α} {f₀ f : α → Session σ β}
    (h : Beside c₀ (m₀.run w₀) (m.run w)) (hf₀ : ∀ a w', Roams c₀ (f₀ a) w')
    (hf : ∀ a w', Roams c (f a) w')
    (hrest : ∀ a w₀' w', m₀.run w₀ = .ok a w₀' → m.run w = .ok a w' → w₀'.Abreast w' →
      Beside c₀ ((f₀ a).run w₀') ((f a).run w')) :
  Beside c₀ ((m₀ >>= f₀).run w₀) ((m >>= f).run w)
  := by
  rw [EStateM.run_bind, EStateM.run_bind]
  generalize m₀.run w₀ = r₀ at h hrest ⊢
  generalize m.run w = r at h hrest ⊢
  cases h with
  | abreast a h => apply hrest a _ _ rfl rfl h
  | parted h =>
    apply Beside.parted
    cases r₀ with
    | ok a₀ w₀' =>
      cases r with
      | ok a w' => apply (h.first (hf₀ a₀ w₀') _).second (hf a w')
      | error k w' => apply h.first (hf₀ a₀ w₀')
    | error k₀ w₀' =>
      cases r with
      | ok a w' => apply h.second (hf a w')
      | error k w' => exact h

/-- A session that depends on the controls gets by moves to where it ends, and two runs of it that
begin abreast end abreast or parted. -/
structure Steady (m : Controls → Session σ α) : Prop where
  /-- It is made of moves. -/
  roams : ∀ c w, Roams c (m c) w
  /-- Two runs that begin abreast end abreast or parted. -/
  beside : ∀ c₀ c w₀ w, w₀.Orderly c₀ → w.Orderly c → w₀.Abreast w →
    Beside c₀ ((m c₀).run w₀) ((m c).run w)

theorem steady_pure (a : α) :
  Steady (fun _ => (pure a : Session σ α))
  := ⟨fun _ _ => .refl, fun _ _ _ _ _ _ h => .abreast a h⟩

theorem steady_throw (k : Cut) :
  Steady (fun _ => (throw k : Session σ α))
  := by
  constructor
  case roams => exact fun _ _ => .refl
  case beside =>
    intro c₀ c w₀ w _ _ habreast
    apply Beside.parted
    apply Parted.ended (.inl (Option.some_ne_none k))
    change w.begun <+: w₀.begun
    rw [World.begun_of_standing habreast.standing]

theorem Steady.bind {m : Controls → Session σ α} {f : Controls → α → Session σ β}
    (h : Steady m) (hf : ∀ a, Steady fun c => f c a) :
  Steady fun c => m c >>= f c
  := by
  constructor
  case roams =>
    intro c w
    apply (h.roams c w).bind
    intro a w'
    apply (hf a).roams c w'
  case beside =>
    intro c₀ c w₀ w hw₀ hw habreast
    apply (h.beside c₀ c w₀ w hw₀ hw habreast).bind
    · intro a w'
      apply (hf a).roams c₀ w'
    · intro a w'
      apply (hf a).roams c w'
    · intro a w₀' w' hrun₀ hrun habreast'
      have hmoves₀ := (h.roams c₀ w₀).of_ok hrun₀
      have hmoves := (h.roams c w).of_ok hrun
      apply (hf a).beside c₀ c w₀' w' (hmoves₀.orderly hw₀) (hmoves.orderly hw) habreast'

/-- Where one session is for a raised signal, only what the other does while it is not raised
counts. -/
theorem steady_unlessRaised {m m' : Controls → Session σ α} (hm : ∀ c w, Roams c (m c) w)
    (hroams : ∀ c w, w.raised = false → Roams c (m' c) w)
    (hbeside : ∀ c₀ c w₀ w, w₀.Orderly c₀ → w.Orderly c → w₀.Abreast w →
      Beside c₀ ((m' c₀).run w₀) ((m' c).run w)) :
  Steady fun c => (do if ← isRaised then m c else m' c)
  := by
  constructor
  case roams =>
    intro c w
    rw [Roams, run_ifRaised]
    split
    case isTrue => apply hm c w
    case isFalse hcalm => apply hroams c w (by simpa using hcalm)
  case beside =>
    intro c₀ c w₀ w hw₀ hw habreast
    rw [run_ifRaised, run_ifRaised, if_neg (by simp [habreast.calm₀]),
      if_neg (by simp [habreast.calm])]
    apply hbeside c₀ c w₀ w hw₀ hw habreast

/-! ### The constructs of sessions -/

/-- A change of the world that is a move and is the same for both. -/
theorem steady_modify {f : World σ → World σ} (hmoves : ∀ c w, Moves c w (f w))
    (hsame : ∀ w₀ w : World σ, w₀.Abreast w → (f w₀).Abreast (f w)) :
  Steady (fun _ => modify f)
  := ⟨hmoves, fun _ _ w₀ w _ _ h => .abreast () (hsame w₀ w h)⟩

theorem steady_settle (s : σ) :
  Steady (fun _ => modify fun w : World σ => { w with ports := s })
  := by
  apply steady_modify
  · intro c w
    apply Relation.ReflTransGen.single (.settles w s)
  · intro w₀ w habreast
    use congrArg (fun p => { p with ports := s }) habreast.standing, habreast.calm₀
    apply habreast.calm

theorem steady_tell (n : Notice) :
  Steady (σ := σ) (fun _ => tell n)
  := by
  apply steady_modify
  · intro c w
    apply Relation.ReflTransGen.single (.tells w n)
  · intro w₀ w habreast
    apply habreast.tell n

/-- The end of a call is recorded. -/
theorem steady_record {e : Event} (hmove : ∀ c (w : World σ), Move c w (w.record e))
    (he : e.isCall = true) :
  Steady (σ := σ) (fun _ => record e)
  := by
  apply steady_modify
  · intro c w
    apply Relation.ReflTransGen.single (hmove c w)
  · intro w₀ w habreast
    apply habreast.record he

/-- A suspension lets the same time pass in both, unless one is disturbed or dropped. -/
theorem steady_suspend (millis : Option Nat) :
  Steady (σ := σ) (fun c => suspend c millis)
  := by
  constructor
  case roams =>
    intro c w
    apply (suspend_does c millis w).roams
  case beside =>
    intro c₀ c w₀ w _ _ habreast
    -- nothing is done while time passes, so what was begun remains the same
    have hbehind : ∀ {w₀' w' : World σ}, w₀'.deeds = w₀.deeds ++ [] → w'.deeds = w.deeds ++ [] →
        w'.begun <+: w₀'.begun := by
      intro w₀' w' hds₀ hds
      rw [World.begun_of_deeds hds₀, World.begun_of_deeds hds,
        World.begun_of_standing habreast.standing]
    have hfirst := suspend_does c₀ millis w₀
    have hsecond := suspend_does c millis w
    rw [Does, Ends] at hfirst hsecond
    cases hrun₀ : (suspend c₀ millis).run w₀ with
    | ok wake₀ w₀' =>
      rw [hrun₀] at hfirst
      obtain ⟨-, _, hds₀, rfl, hwake₀⟩ := hfirst
      cases wake₀ with
      | raised => exact .parted (.disturbed hwake₀)
      | elapsed =>
        obtain ⟨-, d, rfl, rfl, -⟩ := hwake₀
        cases hrun : (suspend c (some d)).run w with
        | ok wake w' =>
          rw [hrun] at hsecond
          obtain ⟨-, _, hds, rfl, hwake⟩ := hsecond
          cases wake with
          | raised => exact .parted (.ended (.inr hwake) (hbehind hds₀ hds))
          | elapsed =>
            obtain ⟨-, _, hd, rfl, -⟩ := hwake
            cases hd
            apply Beside.abreast
            use congrArg (fun p => { p with now := p.now + d }) habreast.standing,
              habreast.calm₀
            apply habreast.calm
        | error k w' =>
          rw [hrun] at hsecond
          obtain ⟨-, _, hds, rfl, -⟩ := hsecond
          exact .parted (.ended (.inl (Option.some_ne_none k)) (hbehind hds₀ hds))
    | error k₀ w₀' =>
      rw [hrun₀] at hfirst
      obtain ⟨-, _, hds₀, rfl, ⟨rfl, hlate⟩, -⟩ := hfirst
      cases hrun : (suspend c millis).run w with
      | ok wake w' =>
        rw [hrun] at hsecond
        obtain ⟨-, _, hds, rfl, hwake⟩ := hsecond
        cases wake with
        | raised => exact .parted (.ended (.inr hwake) (hbehind hds₀ hds))
        | elapsed =>
          -- the second run goes on after the first was dropped
          obtain ⟨-, d, rfl, rfl, -⟩ := hwake
          have hlate := hlate d rfl
          rw [habreast.now] at hlate
          exact .parted (.outlived hlate)
      | error k w' =>
        rw [hrun] at hsecond
        obtain ⟨-, _, hds, rfl, -⟩ := hsecond
        exact .parted (.ended (.inl (Option.some_ne_none k)) (hbehind hds₀ hds))

/-- A port may raise the signal in one of the runs, where it has a sender. -/
theorem steady_raiseIf (b : Bool) :
  Steady (σ := σ) (fun c => modify (World.raiseIf b c))
  := by
  constructor
  case roams =>
    intro c w
    apply raiseIf_moves b c w
  case beside =>
    intro c₀ c w₀ w _ _ habreast
    change Beside c₀ (.ok () (w₀.raiseIf b c₀)) (.ok () (w.raiseIf b c))
    cases hraised₀ : (w₀.raiseIf b c₀).raised with
    | true => exact .parted (.disturbed hraised₀)
    | false =>
      rw [World.raiseIf_of_calm hraised₀]
      cases hraised : (w.raiseIf b c).raised with
      | true =>
        apply Beside.parted
        apply Parted.ended (.inr hraised)
        change (w.raiseIf b c).begun <+: w₀.begun
        rw [World.begun_of_standing (w.standing_raiseIf b c),
          World.begun_of_standing habreast.standing]
      | false =>
        rw [World.raiseIf_of_calm hraised]
        exact .abreast () habreast

/-- An activity takes the same course in both runs. -/
theorem steady_play (activity : Activity σ α) :
  Steady (fun c => play c activity)
  := by
  induction activity with
  | finish s outcome =>
    apply (steady_settle s).bind
    intro _
    apply steady_pure
  | hang s =>
    apply (steady_settle s).bind
    intro _
    apply (steady_suspend none).bind
    intro _
    apply steady_pure
  | panic s =>
    apply (steady_settle s).bind
    intro _
    apply steady_throw
  | raise rest ih =>
    apply (steady_raiseIf true).bind
    intro _
    exact ih
  | pause millis s rest ih =>
    apply (steady_settle s).bind
    intro _
    apply (steady_suspend (some millis)).bind
    intro wake
    cases wake with
    | raised => apply steady_pure
    | elapsed => exact ih

/-- A race begins the same activity in both runs, or nothing in one whose signal is raised. -/
theorem steady_race {begin : Session σ (Activity σ α)}
    (hroams : ∀ c w, w.raised = false → Roams c begin w)
    (hbeside : ∀ c₀ w₀ w, w₀.Abreast w → Beside c₀ (begin.run w₀) (begin.run w)) :
  Steady (fun c => race c begin)
  := by
  change Steady fun c => (do if ← isRaised then pure none else begin >>= play c)
  apply steady_unlessRaised
  case hm => exact fun _ _ => .refl
  case hroams =>
    intro c w hcalm
    apply (hroams c w hcalm).bind
    intro activity
    apply (steady_play activity).roams c
  case hbeside =>
    intro c₀ c w₀ w hw₀ hw habreast
    apply (hbeside c₀ w₀ w habreast).bind
    · intro activity
      apply (steady_play activity).roams c₀
    · intro activity
      apply (steady_play activity).roams c
    · intro activity w₀' w' hrun₀ hrun
      have hmoves₀ := (hroams c₀ w₀ habreast.calm₀).of_ok hrun₀
      have hmoves := (hroams c w habreast.calm).of_ok hrun
      apply (steady_play activity).beside c₀ c w₀' w' (hmoves₀.orderly hw₀) (hmoves.orderly hw)

/-- The outcome of a race is recorded in both runs. -/
theorem steady_conclude {e : α → Event} (hmove : ∀ a c (w : World σ), Move c w (w.record (e a)))
    (he : ∀ a, (e a).isCall = true) (outcome : Option α) :
  Steady (σ := σ) (fun _ => conclude e outcome)
  := by
  cases outcome with
  | none => apply steady_pure
  | some a =>
    apply (steady_record (hmove a) (he a)).bind
    intro _
    apply steady_pure

end Session

namespace Attempt

/-! ### Attempts -/

/-- An attempt ends in the world of its result, and is cut short as the result says. -/
theorem ends_result (m : Attempt σ α) (w : World σ) :
  Ends m w
    (fun _ w' => w' = Session.world (m.run.run w) ∧ Session.cut? (m.run.run w) = none)
    (fun _ w' => w' = Session.world (m.run.run w) ∧ Session.cut? (m.run.run w) = none)
    (fun k w' => w' = Session.world (m.run.run w) ∧ Session.cut? (m.run.run w) = some k)
  := by
  rw [Ends, Session.Ends]
  rcases m.run.run w with ⟨fault | a, w'⟩ | ⟨k, w'⟩
  · exact ⟨rfl, rfl⟩
  · exact ⟨rfl, rfl⟩
  · exact ⟨rfl, rfl⟩

/-- An attempt that depends on the controls is steady as a session that tells its fault. -/
def Steady (m : Controls → Attempt σ α) : Prop :=
  Session.Steady fun c => (m c).run

theorem steady_pure (a : α) :
  Steady (fun _ => (pure a : Attempt σ α))
  := Session.steady_pure (Except.ok a : Except RunFault α)

theorem steady_throw (fault : RunFault) :
  Steady (fun _ => (throw fault : Attempt σ α))
  := Session.steady_pure (Except.error fault : Except RunFault α)

theorem Steady.bind {m : Controls → Attempt σ α} {f : Controls → α → Attempt σ β}
    (h : Steady m) (hf : ∀ a, Steady fun c => f c a) :
  Steady fun c => m c >>= f c
  := by
  simp only [Steady, ExceptT.run_bind]
  apply Session.Steady.bind h
  rintro (fault | a)
  · apply Session.steady_pure
  · apply hf a

theorem steady_lift {m : Controls → Session σ α} (h : Session.Steady m) :
  Steady fun c => (liftM (m c) : Attempt σ α)
  := by
  have hrun : ∀ c, (liftM (m c) : Attempt σ α).run = m c >>= fun a => pure (.ok a) := by
    intro c
    apply ExceptT.run_lift
  simp only [Steady, hrun]
  apply h.bind
  intro _
  apply Session.steady_pure

/-- A session that cannot fail, and then an attempt. -/
theorem Steady.liftBind {m : Controls → Session σ α} {f : Controls → α → Attempt σ β}
    (h : Session.Steady m) (hf : ∀ a, Steady fun c => f c a) :
  Steady fun c => (liftM (m c) >>= f c : Attempt σ β)
  := by
  simp only [Steady, run_lift_bind]
  apply Session.Steady.bind h hf

/-- Where one attempt is for a raised signal, only what the other does while it is not raised
counts. -/
theorem steady_unlessRaised {m m' : Controls → Attempt σ α}
    (hm : ∀ c w, Session.Roams c (m c).run w)
    (hroams : ∀ c w, w.raised = false → Session.Roams c (m' c).run w)
    (hbeside : ∀ c₀ c w₀ w, w₀.Orderly c₀ → w.Orderly c → w₀.Abreast w →
      Session.Beside c₀ ((m' c₀).run.run w₀) ((m' c).run.run w)) :
  Steady fun c => (do if ← (Session.isRaised : Session σ Bool) then m c else m' c : Attempt σ α)
  := by
  have hrun : ∀ c, (do if ← (Session.isRaised : Session σ Bool) then m c else m' c :
      Attempt σ α).run = (do if ← Session.isRaised then (m c).run else (m' c).run) := by
    intro c
    apply (run_lift_bind _ _).trans
    congr
  simp only [Steady, hrun]
  apply Session.steady_unlessRaised hm hroams hbeside

theorem steady_forM {f : Controls → α → Attempt σ PUnit} (hf : ∀ a, Steady fun c => f c a) :
    ∀ l : List α, Steady fun c => l.forM (f c)
  | [] => steady_pure _
  | a :: rest => (hf a).bind fun _ => steady_forM hf rest

end Attempt

end ServiceHarness
