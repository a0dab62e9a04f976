import PlugWatch.Proofs.Calls
import PlugWatch.Proofs.Sampling.Deposits
import PlugWatch.Proofs.Timing.Deadlines
/-!
# The range of the samples

A converter may reply any word. The sampler keeps twelve bits of it, and no other job and no request
writes a sample, so every sample of a controller stays below 4096, whatever the converter does.

## Main Definitions

* `Samples.TwelveBits` : every sample fits into twelve bits.

## Main Statements

* `SamplerScene.twelveBits_burst`, `Controller.twelveBits_step` : a burst keeps the samples in range,
  and so does every step.
* `Controller.twelveBits_calls` : the samples are in range behind any calls.
-/

namespace PlugWatch

theorem toNat_and_sampleMask_lt (reply : UInt16) : (reply &&& sampleMask).toNat < 4096 := by
  rw [UInt16.toNat_and]
  exact Nat.lt_of_le_of_lt Nat.and_le_right (by decide)

namespace Samples

/-- Every sample fits into twelve bits. -/
def TwelveBits (samples : Samples) : Prop := ∀ slot, (samples.get slot).toNat < 4096

theorem twelveBits_default : TwelveBits {} := by
  unfold TwelveBits
  decide

theorem TwelveBits.set {samples : Samples} (h : samples.TwelveBits) (slot : Slot)
    {counts : UInt16} (hcounts : counts.toNat < 4096) : (samples.set slot counts).TwelveBits := by
  intro other
  by_cases hslot : other = slot
  · subst hslot
    rwa [get_set_self]
  · rw [get_set_ne _ _ hslot]
    exact h other

end Samples

namespace Deposit

theorem counts_of_deposit? {α : Type} {delivery : Delivery α} {deposit : Deposit}
    (h : delivery.deposit? = some deposit) : deposit.counts = delivery.counts := by
  unfold Delivery.deposit? at h
  split at h <;> cases h <;> rfl

theorem twelveBits_put {readings : Readings} (h : readings.samples.TwelveBits) (deposit : Deposit)
    (hcounts : deposit.counts.toNat < 4096) : (deposit.put readings).samples.TwelveBits := by
  cases deposit with
  | sample slot counts => exact h.set slot hcounts
  | raw port color counts => exact h

end Deposit

namespace SamplerScene

variable {α ε : Type} [Converter α ε]

/-- Whatever the converter replies, what an exchange answers fits into twelve bits. -/
theorem counts_lt_of_exchange {scene after : SamplerScene α} {word counts : UInt16}
    (h : scene.exchange word = (.ok counts, after)) : counts.toNat < 4096 := by
  unfold exchange at h
  split at h
  · cases h
    exact toNat_and_sampleMask_lt _
  · cases h

theorem counts_lt_of_mem_deliveries (entries : List Entry) :
    ∀ scene : SamplerScene α, ∀ delivery ∈ deliveries entries scene,
      delivery.counts.toNat < 4096 := by
  induction entries with
  | nil =>
    intro scene delivery hmem
    cases hmem
  | cons entry rest ih =>
    intro scene delivery hmem
    rcases heq : scene.exchange (scene.sampler.requestWord entry) with ⟨fault | counts, after⟩
    · rw [deliveries_cons_error rest heq] at hmem
      cases hmem
    · have hcounts := counts_lt_of_exchange heq
      by_cases hp : entry.pause = .none
      · rw [deliveries_cons_go rest heq hp] at hmem
        rcases List.mem_cons.mp hmem with rfl | hmem
        · exact hcounts
        · exact ih _ delivery hmem
      · rw [deliveries_cons_stop rest heq hp] at hmem
        rw [List.mem_singleton.mp hmem]
        exact hcounts

/-- A burst keeps the samples in range, whether it works or not. -/
theorem twelveBits_burst {scene : SamplerScene α} (h : scene.board.samples.TwelveBits) :
    scene.burst.2.board.samples.TwelveBits := by
  have hreadings := congrArg Readings.samples (readings_burst scene)
  show scene.burst.2.board.readings.samples.TwelveBits
  rw [hreadings]
  refine List.foldlRecOn (motive := fun readings : Readings => readings.samples.TwelveBits) _ _ h ?_
  intro readings hreadings deposit hmem
  obtain ⟨delivery, hdelivery, hdeposit⟩ := List.mem_filterMap.mp hmem
  refine Deposit.twelveBits_put hreadings deposit ?_
  rw [Deposit.counts_of_deposit? hdeposit]
  exact counts_lt_of_mem_deliveries _ _ delivery hdelivery

end SamplerScene

namespace Controller

variable {α ε : Type}

theorem samples_colorTick (c : Controller α) : c.colorTick.board.samples = c.board.samples := by
  unfold colorTick
  cases c.link with
  | none => rfl
  | some link =>
    have hframe := ColorLink.stepPorts_frame Port.all (link, c.board)
    rw [← ColorLink.tick_eq] at hframe
    exact hframe.2

/-- Nothing but a burst writes samples. -/
theorem samples_step [Converter α ε] (c : Controller α) {step : Step α}
    (hstep : step ≠ .sample) : (c.step step).board.samples = c.board.samples := by
  cases step with
  | sample => exact absurd rfl hstep
  | manage => exact (frame_managerTick c).2.1
  | color => exact samples_colorTick c
  | force port classification =>
    obtain ⟨inputs, hframe⟩ := force_frame c port classification
    rw [Controller.step, hframe]
  | request port command =>
    obtain ⟨inputs, hframe⟩ := requestCommand_frame c port command
    rw [Controller.step, hframe]
  | testMode on => cases on <;> rfl
  | time clock => rfl
  | note notice => rfl
  | enable port on => rfl
  | release port => rfl
  | drive port role drive => rfl
  | driveOutput port role drive => rfl
  | plug port level sensor => rfl
  | plugOutput port level => rfl
  | convert adc => rfl

/-- Every step keeps the samples in range. -/
theorem twelveBits_step [Converter α ε] {c : Controller α} (step : Step α)
    (h : c.board.samples.TwelveBits) : (c.step step).board.samples.TwelveBits := by
  by_cases hstep : step = .sample
  · subst hstep
    have hscene : c.samplerScene.board.samples.TwelveBits := h
    exact SamplerScene.twelveBits_burst hscene
  · rwa [samples_step c hstep]

/-- **Every sample of a controller fits into twelve bits**, whatever its converter replies and
whatever is called. -/
theorem twelveBits_calls [Converter α ε] {adc : α} {board : Board} {config : Config}
    {fresh : Controller α} (hnew : Controller.new adc board config = .ok fresh)
    (hboard : board.samples = {}) (calls : List (Call α)) :
    (fresh.calls calls).board.samples.TwelveBits := by
  refine calls_preserves_of_step (P := fun c => c.board.samples.TwelveBits)
    (fun step h => twelveBits_step step h) calls ?_
  rw [(parts_of_new hnew).2.1, hboard]
  exact Samples.twelveBits_default

end Controller

end PlugWatch
