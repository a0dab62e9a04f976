import Mathlib.Data.List.Basic
/-!
# What has been so since

Something begins with one step of a run and ends with another, so at the end of a run it is so if some
step began it and none behind that one ended it.

## Main Definitions

* `Since` : a step of a run began something, and no step behind it ended it.

## Main Statements

* `since_concat` : what the last step of a run means for it.
-/

namespace PlugWatch

variable {σ : Type} {begins ends : List σ → σ → Prop} {run : List σ} {last : σ}

/-- A step of the run began something, and no step behind it ended it. Whether a step does either may
depend on the steps in front of it. -/
def Since (begins ends : List σ → σ → Prop) (run : List σ) : Prop :=
  ∃ before first after, run = before ++ first :: after ∧ begins before first ∧
    ∀ earlier step later, after = earlier ++ step :: later →
      ¬ends (before ++ first :: earlier) step

theorem not_since_nil : ¬Since begins ends ([] : List σ) := by
  rintro ⟨before, first, after, heq, -⟩
  exact absurd heq.symm (by simp)

/-- What is so at the end of a longer run began with its last step, or it was so before, and the last
step did not end it. -/
theorem since_concat :
    Since begins ends (run ++ [last]) ↔
      begins run last ∨ (Since begins ends run ∧ ¬ends run last) := by
  constructor
  · rintro ⟨before, first, after, heq, hbegins, hlasts⟩
    rcases List.eq_nil_or_concat' after with rfl | ⟨after, final, rfl⟩
    · obtain ⟨rfl, hlast⟩ := List.append_inj' heq rfl
      rw [List.head_eq_of_cons_eq hlast]
      exact .inl hbegins
    · have heq' : run ++ [last] = (before ++ first :: after) ++ [final] := by
        rw [heq, List.append_assoc]
        rfl
      obtain ⟨rfl, hlast⟩ := List.append_inj' heq' rfl
      obtain rfl := List.head_eq_of_cons_eq hlast
      refine .inr ⟨⟨before, first, after, rfl, hbegins, fun earlier step later hsplit => ?_⟩,
        hlasts after last [] rfl⟩
      exact hlasts earlier step (later ++ [last]) (by rw [hsplit, List.append_assoc]; rfl)
  · rintro (hbegins | ⟨⟨before, first, after, rfl, hbegins, hlasts⟩, hlast⟩)
    · exact ⟨run, last, [], rfl, hbegins, fun earlier step later hsplit =>
        absurd hsplit.symm (by simp)⟩
    · refine ⟨before, first, after ++ [last], by simp, hbegins, fun earlier step later hsplit => ?_⟩
      rcases List.eq_nil_or_concat' later with rfl | ⟨later, final, rfl⟩
      · obtain ⟨rfl, hstep⟩ := List.append_inj' hsplit rfl
        obtain rfl := List.head_eq_of_cons_eq hstep
        exact hlast
      · have hsplit' : after ++ [last] = (earlier ++ step :: later) ++ [final] := by
          rw [hsplit, List.append_assoc]
          rfl
        exact hlasts earlier step later (List.append_inj' hsplit' rfl).1

end PlugWatch
