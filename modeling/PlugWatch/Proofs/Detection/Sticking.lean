import Mathlib.Data.List.Induction
import PlugWatch.Proofs.Calls
import PlugWatch.Proofs.Detection.Forced
/-!
# What is forced stays published

A classification may be forced on every port that counts as connected while its detection is off. Its
watch can be anywhere then: in the middle of a colour session, about to confirm a touch sensor, or moved
on by a request that came since. Whatever it was about to publish it does not, because the next tick
takes it out of detection, and there it counts as connected and publishes nothing.

## Main Definitions

* `Controller.Lifts` : the calls that end a forced classification.
* `PortState.Sticks` : detection is off, the port counts as connected and publishes a classification.

## Main Statements

* `Controller.sticks_step`, `Controller.sticks_call` : what does not end it leaves it alone.
* `Controller.forced_verdict_lasts` : a forced classification stays until some call ends it.
-/

namespace PlugWatch

namespace PortState

/-- Detection is off, the port counts as connected, and the classification is what it publishes. -/
structure Sticks (classification : Classification) (state : PortState) : Prop where
  off : state.enabled = false
  connected : state.connected = true
  verdict : state.verdict = classification

theorem Sticks.of_undisturbed {classification : Classification} {before after : PortState}
    (h : before.Sticks classification) (hsame : Undisturbed before after) :
    after.Sticks classification :=
  ⟨hsame.enabled.trans h.off, hsame.connected.trans h.connected, hsame.verdict.trans h.verdict⟩

theorem sticks_tick {classification : Classification} {state : PortState}
    (h : state.Sticks classification) (config : DetectionConfig) (port : Port) (pin1 : UInt16) :
    (state.tick config port pin1).Sticks classification := by
  obtain ⟨-, hconnected, hverdict⟩ := tick_of_off config port pin1 h.off
  exact ⟨(enabled_tick config port pin1 state).trans h.off, hconnected, hverdict.trans h.verdict⟩

end PortState

namespace Controller

variable {α ε : Type} [Converter α ε] {c : Controller α} {port : Port}
  {classification : Classification}

omit [Converter α ε] in
theorem force_iff (c : Controller α) (port : Port) (classification : Classification) :
    (c.force port classification).1 = true ↔ c.manager.mayForce port = true := by
  unfold force Manager.force?
  by_cases hmay : c.manager.mayForce port = true
  · rw [if_pos hmay]
    exact iff_of_true rfl hmay
  · rw [if_neg hmay]
    exact iff_of_false Bool.false_ne_true hmay

/-- A call ends what was forced on a port: it switches detection of the port on, enters test mode, or
forces a classification on the port, which is accepted. -/
def Lifts (c : Controller α) (port : Port) (call : Call α) : Prop :=
  call.Includes (.enable port true) ∨ call.Includes (.testMode true) ∨
    ∃ classification, call.Includes (.force port classification) ∧
      (c.force port classification).1 = true

theorem sticks_step (h : (c.portState port).Sticks classification) {step : Step α}
    (hon : step ≠ .enable port true) (htest : step ≠ .testMode true)
    (hforce : ∀ other, step ≠ .force port other) :
    ((c.step step).portState port).Sticks classification := by
  cases c.event_step step port with
  | rest hsame => exact h.of_undisturbed hsame
  | tick hstep hrunning hafter =>
    rw [hafter]
    exact PortState.sticks_tick h _ _ _
  | enable on hstep hafter =>
    cases on with
    | true => exact absurd hstep hon
    | false =>
      rw [hafter]
      exact ⟨rfl, h.connected, h.verdict⟩
  | force other hstep => exact absurd hstep (hforce other)
  | command command hstep hconnected hafter =>
    rw [hafter]
    exact ⟨h.off, h.connected, h.verdict⟩
  | restart on hstep hafter =>
    cases on with
    | true => exact absurd hstep htest
    | false =>
      rw [hafter]
      exact ⟨h.off, h.connected, h.verdict⟩

/-- A call that does not end what was forced leaves it published. -/
theorem sticks_call (h : (c.portState port).Sticks classification) {call : Call α}
    (hstays : ¬c.Lifts port call) : ((c.call call).portState port).Sticks classification := by
  refine (leadsTo_call c call).preserves
    (P := fun now => (now.portState port).Sticks classification) (fun hnow step hincludes => ?_) h
  refine sticks_step hnow ?_ ?_ ?_
  · rintro rfl
    exact hstays (.inl hincludes)
  · rintro rfl
    exact hstays (.inr (.inl hincludes))
  · -- the port may be forced all the time, so a call that forces it again is accepted
    rintro other rfl
    have hmay : c.manager.mayForce port = true :=
      (mayForce_iff c port).mpr ⟨h.off, h.connected⟩
    exact hstays (.inr (.inr ⟨other, hincludes, (force_iff c port other).mpr hmay⟩))

/-- **A forced classification sticks.** In any controller a classification is forced on a port, which is
accepted. Whatever calls follow, jobs, colour commands, raw pin accesses, leaving test mode, devices
that come and go and faults of the converter among them, the port goes on publishing the
classification, as long as none of them switches detection of the port on, enters test mode, or forces
the port again and is accepted. -/
theorem forced_verdict_lasts (hforce : (c.force port classification).1 = true)
    {calls : List (Call α)}
    (hstays : ∀ before call after, calls = before ++ call :: after →
      ¬((c.force port classification).2.calls before).Lifts port call) :
    (((c.force port classification).2.calls calls).board.inputs.get port).verdict =
      classification := by
  have hmay := (force_iff c port classification).mp hforce
  obtain ⟨hoff, hconnected⟩ := (mayForce_iff c port).mp hmay
  have hstart : ((c.force port classification).2.portState port).Sticks classification := by
    rw [portState_force_eq, if_pos ⟨rfl, hmay⟩]
    exact ⟨hoff, hconnected, rfl⟩
  suffices h : (((c.force port classification).2.calls calls).portState port).Sticks
      classification from h.verdict
  induction calls using List.reverseRecOn with
  | nil => exact hstart
  | append_singleton before call ih =>
    have hbefore := ih fun first middle rest hsplit =>
      hstays first middle (rest ++ [call]) (by rw [hsplit, List.append_assoc]; rfl)
    rw [calls_append, calls_cons, calls_nil]
    exact sticks_call hbefore (hstays before call [] rfl)

/-- The first port is connected and its detection is switched off, and a classification is forced before
the manager ticks. A colour command, the detection of another port, test mode left and half a second of
jobs do not take it away. -/
theorem forced_verdict_lasts_command :
    ∃ fresh : Controller Multiplexer,
      Controller.new {} {} { detection := { resetMs := 0, floatMs := 0, connectMs := 0 } }
          = .ok fresh ∧
        let c := fresh.steps (List.replicate 8 .manage ++ [.enable .p1 false])
        let calls := [.request .p1 0x0D, .manage,
          .writeControl (['e', '0', '1', '-', '-'].map byteOf), .testPin .off, .runUntil 500000]
        (c.force .p1 ⟨.nxtIic, .nxtIic⟩).1 = true ∧
          (((c.force .p1 ⟨.nxtIic, .nxtIic⟩).2.calls calls).board.inputs.get .p1).verdict =
            ⟨.nxtIic, .nxtIic⟩ := by
  refine ⟨_, rfl, ?_⟩
  intro c calls
  have hforce : (c.force .p1 ⟨.nxtIic, .nxtIic⟩).1 = true := by decide +kernel
  refine ⟨hforce, forced_verdict_lasts hforce fun before call after hsplit => ?_⟩
  have hmem : call ∈ calls := by simp [hsplit]
  simp only [calls, List.mem_cons, List.not_mem_nil, or_false] at hmem
  rintro (hon | htest | ⟨other, hother, -⟩)
  · rcases hmem with rfl | rfl | rfl | rfl | rfl
    · cases hon
    · cases hon
    · cases hon with
      | enable hbyte => exact absurd hbyte (by decide)
    · cases hon
    · cases hon with
      | runUntil hjob => cases hjob
  · rcases hmem with rfl | rfl | rfl | rfl | rfl
    · cases htest
    · cases htest
    · cases htest
    · cases htest
    · cases htest with
      | runUntil hjob => cases hjob
  · rcases hmem with rfl | rfl | rfl | rfl | rfl
    · cases hother
    · cases hother
    · cases hother with
      | force hbyte => cases hbyte
    · cases hother
    · cases hother with
      | runUntil hjob => cases hjob

end Controller

end PlugWatch
