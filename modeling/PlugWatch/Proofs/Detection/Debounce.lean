import PlugWatch.Proofs.Detection.OutputTick
import PlugWatch.Proofs.Detection.InputTick
/-!
# The debounce of connect conditions

A port that waits for a plug looks at the conditions in every tick. Of what it has seen it keeps the
last set and a count. This file says that this is as good as keeping all of it: the count is full in the
tick in which the last sets that were seen, as many as the limit asks for, are for the first time one
and the same set and not empty.

## Main Definitions

* `SteadyFor` : the last sets of a history are one and the same, and not empty.
* `Debounced` : what it means that a debounce is exact.
* `Counting` : what the last set and the count say about a history.
* `Lookout` : what the wait for a plug goes by, on either side.
* `Lookout.Ticked` : what a tick can do to it while the port is released.

## Main Statements

* `Counting.see` : one more set fills the count exactly if the history has become steady.
* `PortState.connect_or_wait`, `OutputState.connect_or_wait` : what a tick does to a port that waits for
  a plug, by the history of what it has seen.
* `PortState.ticked`, `OutputState.ticked` : every tick that leaves a port released is one of those.
-/

namespace PlugWatch

/-! ## Histories of conditions -/

/-- One more item in a row: it is the item in question, and so are those in front of it. -/
theorem replicate_suffix_concat {β : Type} {n : Nat} {item last : β} {seen : List β} :
    List.replicate (n + 1) item <:+ seen ++ [last] ↔
      last = item ∧ List.replicate n item <:+ seen := by
  rw [List.replicate_succ', List.suffix_concat_iff]
  constructor
  · rintro (hnil | ⟨front, heq, hfront⟩)
    · simp at hnil
    · obtain ⟨rfl, hlast⟩ := List.append_inj' heq rfl
      exact ⟨(List.cons.inj hlast).1.symm, hfront⟩
  · rintro ⟨rfl, hseen⟩
    exact .inr ⟨_, rfl, hseen⟩

/-- The last so many sets that were seen are one and the same, and not empty. -/
def SteadyFor (n : Nat) (set : Conditions) (seen : List Conditions) : Prop :=
  set.isEmpty = false ∧ List.replicate n set <:+ seen

instance (n : Nat) (set : Conditions) (seen : List Conditions) : Decidable (SteadyFor n set seen) :=
  inferInstanceAs (Decidable (_ ∧ _))

section SteadyFor

variable {n : Nat} {set now : Conditions} {seen : List Conditions}

@[simp] theorem steadyFor_zero : SteadyFor 0 set seen ↔ set.isEmpty = false :=
  and_iff_left List.nil_suffix

@[simp] theorem not_steadyFor_nil : ¬SteadyFor (n + 1) set [] := by
  rintro ⟨-, h⟩
  exact absurd (List.suffix_nil.mp h) (by simp)

/-- One more set in a row: it is the set in question, and the sets in front of it are as well. -/
theorem steadyFor_concat :
    SteadyFor (n + 1) set (seen ++ [now]) ↔ now = set ∧ SteadyFor n set seen := by
  unfold SteadyFor
  rw [replicate_suffix_concat]
  exact and_left_comm

end SteadyFor

/-- What it means that a debounce is exact. After a history that is not steady the stay goes on. A
history that is steady for a set has just become so, and with that set the stay ends. -/
def Debounced (limit : Nat) (seen : List Conditions) (goesOn : Prop) (ends : Conditions → Prop) :
    Prop :=
  ((∀ set, ¬SteadyFor limit set seen) → goesOn) ∧
    ∀ set, SteadyFor limit set seen →
      (∀ earlier, earlier <+: seen → earlier ≠ seen → ∀ other, ¬SteadyFor limit other earlier) ∧
        ends set

/-- With nothing steady so far, one more set decides. -/
theorem Debounced.of_concat {limit : Nat} {past : List Conditions} {now : Conditions}
    {goesOn : Prop} {ends : Conditions → Prop} (hlimit : 0 < limit)
    (hpast : ∀ earlier, earlier <+: past → ∀ set, ¬SteadyFor limit set earlier)
    (h : (SteadyFor limit now (past ++ [now]) ∧ ends now) ∨
      ((∀ set, ¬SteadyFor limit set (past ++ [now])) ∧ goesOn)) :
    Debounced limit (past ++ [now]) goesOn ends := by
  refine ⟨fun hunsteady => ?_, fun set hset => ⟨fun earlier hearlier hne => ?_, ?_⟩⟩
  · rcases h with ⟨hsteady, -⟩ | ⟨-, hgoes⟩
    · exact absurd hsteady (hunsteady now)
    · exact hgoes
  · exact hpast earlier ((List.prefix_concat_iff.mp hearlier).resolve_left hne)
  · rcases h with ⟨-, hends⟩ | ⟨hunsteady, -⟩
    · -- a history that ends with a set is steady for no other one
      obtain ⟨n, rfl⟩ := Nat.exists_eq_add_one.mpr hlimit
      exact (steadyFor_concat.mp hset).1 ▸ hends
    · exact absurd hset (hunsteady set)

/-! ## The count -/

theorem toNat_recount_le (last now : Conditions) (timer : UInt16) :
    (recount last now timer).toNat ≤ timer.toNat := by
  unfold recount
  split
  · exact Nat.le_refl _
  · exact Nat.zero_le _

/-- What a watch keeps of the sets it has seen while its count was not full: the last set, and how often
in a row it has been seen. The count of an empty set means nothing. -/
structure Counting (limit : Nat) (seen : List Conditions) (last : Conditions) (timer : UInt16) :
    Prop where
  steady_iff : ∀ n set, SteadyFor (n + 1) set seen ↔
    set.isEmpty = false ∧ last = set ∧ n < timer.toNat
  early : timer.toNat < limit
  unsteady : ∀ earlier, earlier <+: seen → ∀ set, ¬SteadyFor limit set earlier

namespace Counting

variable {limit : Nat} {ticks timer : UInt16} {seen : List Conditions} {last now : Conditions}

/-- A watch that begins has seen nothing. -/
theorem start (hlimit : 0 < limit) : Counting limit [] .none 0 := by
  refine ⟨fun n set => iff_of_false not_steadyFor_nil ?_, hlimit, fun earlier hearlier set => ?_⟩
  · rintro ⟨-, -, h⟩
    exact Nat.not_lt_zero n h
  · obtain ⟨n, rfl⟩ := Nat.exists_eq_add_one.mpr hlimit
    rw [List.prefix_nil.mp hearlier]
    exact not_steadyFor_nil

/-- With one more set seen and the count still not full, nothing has become steady. -/
theorem concat (h : Counting limit seen last timer) {timer' : UInt16}
    (hsteady : ∀ n set, SteadyFor (n + 1) set (seen ++ [now]) ↔
      set.isEmpty = false ∧ now = set ∧ n < timer'.toNat)
    (hearly : timer'.toNat < limit) : Counting limit (seen ++ [now]) now timer' := by
  refine ⟨hsteady, hearly, fun earlier hearlier set => ?_⟩
  rcases List.prefix_concat_iff.mp hearlier with rfl | hearlier
  · obtain ⟨n, rfl⟩ := Nat.exists_eq_add_one.mpr (Nat.zero_lt_of_lt hearly)
    rw [hsteady]
    rintro ⟨-, -, hfull⟩
    omega
  · exact h.unsteady earlier hearlier set

theorem recount_lt (h : Counting limit seen last timer) (now : Conditions) :
    (recount last now timer).toNat < limit := by
  unfold recount
  split
  · exact h.early
  · exact Nat.zero_lt_of_lt h.early

/-- An empty set puts an end to every row. -/
theorem see_empty (h : Counting limit seen last timer) (hempty : now.isEmpty = true) :
    Counting limit (seen ++ [now]) now (recount last now timer) := by
  refine h.concat (fun n set => ?_) (h.recount_lt now)
  rw [steadyFor_concat]
  refine iff_of_false ?_ ?_
  · rintro ⟨rfl, hsome, -⟩
    rw [hempty] at hsome
    cases hsome
  · rintro ⟨hsome, rfl, -⟩
    rw [hempty] at hsome
    cases hsome

/-- The row that ends with a set: one longer than before if it is the same set again, else just one. -/
theorem steadyFor_concat_iff (h : Counting limit seen last timer) (n : Nat) (set : Conditions) :
    SteadyFor (n + 1) set (seen ++ [now]) ↔
      set.isEmpty = false ∧ now = set ∧ n < (recount last now timer).toNat + 1 := by
  rw [steadyFor_concat]
  cases n with
  | zero => simp [and_comm]
  | succ n =>
    rw [h.steady_iff]
    unfold recount
    split
    · rename_i hsame
      rw [hsame]
      constructor
      · rintro ⟨hset, hsome, -, hn⟩
        exact ⟨hsome, hset, by omega⟩
      · rintro ⟨hsome, hset, hn⟩
        exact ⟨hset, hsome, hset, by omega⟩
    · rename_i hnew
      refine iff_of_false ?_ ?_
      · rintro ⟨rfl, -, rfl, -⟩
        exact hnew rfl
      · rintro ⟨-, -, hn⟩
        exact absurd hn (by simp)

/-- **One more set fills the count exactly if the history has become steady.** -/
theorem see (h : Counting (span ticks) seen last timer) (hsome : now.isEmpty = false) :
    (ticks ≤ recount last now timer + 1 ∧ SteadyFor (span ticks) now (seen ++ [now])) ∨
      (¬ticks ≤ recount last now timer + 1 ∧
        Counting (span ticks) (seen ++ [now]) now (recount last now timer + 1)) := by
  rcases span_cases (h.recount_lt now) with ⟨hfull, hlast⟩ | ⟨hrest, hnext, hlt⟩
  · refine .inl ⟨hfull, ?_⟩
    rw [← hlast, h.steadyFor_concat_iff]
    exact ⟨hsome, rfl, Nat.lt_succ_self _⟩
  · refine .inr ⟨hrest, h.concat (fun n set => ?_) (hnext ▸ hlt)⟩
    rw [h.steadyFor_concat_iff, hnext]

end Counting

/-! ## The wait for a plug -/

/-- Whether a port is released to be watched for a plug. -/
def Stage.released : Stage → Bool
  | floatingDelay | floating => true
  | _ => false

theorem Stage.searching_of_released {stage : Stage} (h : stage.released = true) :
    stage.searching = true := by
  cases stage <;> first | rfl | cases h

/-- What the wait for a plug goes by, on a port of either side. -/
structure Lookout where
  stage : Stage
  conditions : Conditions
  timer : UInt16

/-- What a tick can do to a port that is released behind it. The conditions are what it sees. -/
inductive Lookout.Ticked (ticks : UInt16) (now : Conditions) (before after : Lookout) : Prop where
  /-- The watch begins, and nothing has been seen. -/
  | begin (hafter : after.stage = .floatingDelay) (hconditions : after.conditions = .none)
  /-- The pins settle. -/
  | settle (hbefore : before.stage = .floatingDelay) (hafter : after.stage = .floatingDelay)
      (hconditions : after.conditions = before.conditions)
  /-- The pins have settled, and the wait begins with nothing counted. -/
  | arrive (hbefore : before.stage = .floatingDelay) (hafter : after.stage = .floating)
      (hconditions : after.conditions = before.conditions) (htimer : after.timer = 0)
  /-- The port waits on, and counts what it sees. -/
  | wait (hbefore : before.stage = .floating) (hafter : after.stage = .floating)
      (hcounts : ∀ {seen}, Counting (span ticks) seen before.conditions before.timer →
        Counting (span ticks) (seen ++ [now]) after.conditions after.timer)

/-! ## Input ports -/

/-- Once conditions are acted on, the search is over. -/
theorem InputScene.stageOf_searching (conditions : Conditions) :
    (stageOf conditions).searching = false := by
  rcases stageOf_cases conditions with hprobing | hinit
  · cases hnext : stageOf conditions <;> first | rfl | (rw [hnext] at hprobing; cases hprobing)
  · rw [hinit]
    rfl

namespace PortState

/-- What the port waits by. -/
def lookout (state : PortState) : Lookout :=
  ⟨state.stage, state.watch.conditions, state.watch.timer⟩

variable (config : DetectionConfig) (port : Port) (pin1 : UInt16) {state : PortState}

/-- A tick leaves a port that waits for a plug there, or the port goes on to act on conditions. -/
theorem stage_of_floating (hon : state.enabled = true) (hstage : state.stage = .floating) :
    (state.tick config port pin1).stage = .floating ∨
      (state.tick config port pin1).stage = .connection := by
  rw [tick_floating config port pin1 hon hstage]
  dsimp only
  split
  · exact .inl hstage
  · show (if _ then Stage.connection else .floating) = .floating ∨
      (if _ then Stage.connection else .floating) = .connection
    split
    · exact .inr rfl
    · exact .inl rfl

/-- **What a tick does to an input port that waits for a plug**: it goes on if what it has seen has
become steady, and waits on if not. -/
theorem connect_or_wait (hon : state.enabled = true) (hstage : state.stage = .floating)
    {seen : List Conditions}
    (h : Counting (span config.connectTicks) seen state.watch.conditions state.watch.timer) :
    let now := state.conditionsNow config pin1
    let next := state.tick config port pin1
    next.watch.conditions = now ∧
      ((next.stage = .connection ∧ SteadyFor (span config.connectTicks) now (seen ++ [now])) ∨
        (next.stage = .floating ∧
          Counting (span config.connectTicks) (seen ++ [now]) next.watch.conditions
            next.watch.timer)) := by
  intro now next
  have hnext : next = _ := tick_floating config port pin1 hon hstage
  rw [hnext]
  dsimp only
  cases hempty : (state.conditionsNow config pin1).isEmpty with
  | true => exact ⟨rfl, .inr ⟨hstage, h.see_empty hempty⟩⟩
  | false =>
    rcases h.see hempty with ⟨hfull, hsteady⟩ | ⟨hrest, hcounting⟩
    · exact ⟨rfl, .inl ⟨if_pos hfull, hsteady⟩⟩
    · exact ⟨rfl, .inr ⟨if_neg hrest, hcounting⟩⟩

/-- A released port was released before, or its watch began just now. -/
theorem origin_of_released (h : (state.tick config port pin1).stage.released = true) :
    state.enabled = true ∧ (state.stage = .init ∨ state.stage.released = true) := by
  have hfree := Stage.engaged_of_undetected
    (Stage.undetected_of_searching (Stage.searching_of_released h))
  cases hon : state.enabled with
  | false =>
    rw [(tick_of_off config port pin1 hon).1] at h
    cases h
  | true =>
    refine ⟨rfl, ?_⟩
    cases progress_tick config port pin1 hon with
    | restart hbefore => exact .inl hbefore
    | search hbefore hafter =>
      cases hstage : state.stage with
      | floatingDelay | floating => exact .inr rfl
      | connection =>
        rw [tick_connection config port pin1 hon hstage] at h
        have hnext : (InputScene.stageOf state.watch.conditions).released = true := h
        have hsearching := Stage.searching_of_released hnext
        rw [InputScene.stageOf_searching] at hsearching
        cases hsearching
      | _ =>
        rw [hstage] at hbefore
        cases hbefore
    | identify hbefore hafter =>
      rcases hafter with hafter | hafter
      · rw [Stage.engaged_of_settled hafter] at hfree
        cases hfree
      · rw [hafter] at h
        cases h
    | suspect hbefore hafter | confirm hbefore hafter | disconnect hbefore hafter
    | resume hbefore hafter =>
      rw [hafter] at h
      cases h
    | stay hbefore hafter =>
      rcases hafter with hafter | ⟨-, hafter | hafter⟩
      · rw [hafter, hbefore] at hfree
        cases hfree
      · rw [Stage.engaged_of_inColorSession hafter] at hfree
        cases hfree
      · rw [hafter] at h
        cases h

/-- What a tick does to an input port that is released behind it. -/
theorem ticked (h : (state.tick config port pin1).stage.released = true) :
    Lookout.Ticked config.connectTicks (state.conditionsNow config pin1) state.lookout
      (state.tick config port pin1).lookout := by
  obtain ⟨hon, hinit | hreleased⟩ := origin_of_released config port pin1 h
  · rw [tick_init config port pin1 hon hinit]
    exact .begin rfl rfl
  · cases hstage : state.stage with
    | floatingDelay =>
      rw [tick_floatingDelay config port pin1 hon hstage]
      split
      · exact .arrive hstage rfl rfl rfl
      · exact .settle hstage rfl rfl
    | floating =>
      have hwaits : (state.tick config port pin1).stage = .floating := by
        rcases stage_of_floating config port pin1 hon hstage with hwaits | hleft
        · exact hwaits
        · rw [hleft] at h
          cases h
      refine .wait hstage hwaits fun hcounting => ?_
      obtain ⟨-, ⟨hleft, -⟩ | ⟨-, hcounts⟩⟩ := connect_or_wait config port pin1 hon hstage hcounting
      · rw [hleft] at h
        cases h
      · exact hcounts
    | _ =>
      rw [hstage] at hreleased
      cases hreleased

end PortState

/-! ## Output ports -/

/-- An output port that is released was released before, or its watch began just now. -/
theorem Stage.origin_of_released {before after : Stage} (hnext : after ∈ before.outputNext)
    (h : after.released = true) : before = .init ∨ before.released = true := by
  cases before with
  | init => exact .inl rfl
  | floatingDelay | floating => exact .inr rfl
  | _ =>
    simp only [Stage.outputNext, List.mem_cons, List.not_mem_nil, or_false] at hnext
    rcases hnext with rfl | rfl <;> cases h

namespace OutputState

/-- What the port waits by. -/
def lookout (state : OutputState) : Lookout :=
  ⟨state.stage, state.watch.conditions, state.watch.timer⟩

variable (config : DetectionConfig) (port : Port) (pin5 : UInt16) {state : OutputState}

/-- **What a tick does to an output port that waits for a plug**: it takes the first measurement if what
it has seen has become steady, and waits on if not. -/
theorem connect_or_wait (hstage : state.stage = .floating)
    {seen : List Conditions}
    (h : Counting (span config.connectTicks) seen state.watch.conditions state.watch.timer) :
    let now := state.conditionsNow pin5
    let next := state.tick config port pin5
    next.watch.conditions = now ∧
      ((next.stage = .waitingForPin6Low ∧ next.watch.floatMv = millivoltsOfCounts pin5 ∧
          SteadyFor (span config.connectTicks) now (seen ++ [now])) ∨
        (next.stage = .floating ∧
          Counting (span config.connectTicks) (seen ++ [now]) next.watch.conditions
            next.watch.timer)) := by
  intro now next
  have hnext : next = _ := tick_floating config port pin5 hstage
  rw [hnext]
  dsimp only
  cases hempty : (state.conditionsNow pin5).isEmpty with
  | true => exact ⟨rfl, .inr ⟨hstage, h.see_empty hempty⟩⟩
  | false =>
    rw [if_neg Bool.false_ne_true]
    rcases h.see hempty with ⟨hfull, hsteady⟩ | ⟨hrest, hcounting⟩
    · rw [if_pos (show config.connectTicks ≤ (state.see _).watch.timer + 1 from hfull)]
      exact ⟨rfl, .inl ⟨rfl, rfl, hsteady⟩⟩
    · rw [if_neg (show ¬config.connectTicks ≤ (state.see _).watch.timer + 1 from hrest)]
      exact ⟨rfl, .inr ⟨hstage, hcounting⟩⟩

/-- What a tick does to an output port that is released behind it. -/
theorem ticked (h : (state.tick config port pin5).stage.released = true) :
    Lookout.Ticked config.connectTicks (state.conditionsNow pin5) state.lookout
      (state.tick config port pin5).lookout := by
  have hnext := stage_tick config port pin5 state
  rcases Stage.origin_of_released hnext h with hinit | hreleased
  · rw [tick_init config port pin5 hinit]
    exact .begin rfl rfl
  · cases hstage : state.stage with
    | floatingDelay =>
      rw [tick_floatingDelay config port pin5 hstage]
      split
      · exact .arrive hstage rfl rfl rfl
      · exact .settle hstage hstage rfl
    | floating =>
      have hwaits : (state.tick config port pin5).stage = .floating := by
        rw [hstage] at hnext
        rcases List.mem_cons.mp hnext with hwaits | hleft
        · exact hwaits
        · rw [List.mem_singleton.mp hleft] at h
          cases h
      refine .wait hstage hwaits fun hcounting => ?_
      obtain ⟨-, ⟨hleft, -⟩ | ⟨-, hcounts⟩⟩ := connect_or_wait config port pin5 hstage hcounting
      · rw [hleft] at h
        cases h
      · exact hcounts
    | _ =>
      rw [hstage] at hreleased
      cases hreleased

end OutputState

end PlugWatch
