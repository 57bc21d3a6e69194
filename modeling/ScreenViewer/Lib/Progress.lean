import Mathlib
import ScreenViewer.Lib.Runs

/-!
# Systems that come to rest

Some labels of a transition system are its own: it performs them without being asked.  When its own
steps use up a measure with values in a well-founded order, while an invariant holds, then it never
performs them forever (`Settles.not_infinite`), and if it can go on as long as it is not at rest,
then it comes to rest (`Settles.exists_run_to_rest`).
-/

namespace Transition

universe u v w

variable {S : Type u} {L : Type v} {α : Type w} [LT α]

/-- While `I` holds, the steps of the system's own keep it and use up the measure `μ`. -/
structure Settles (step : S → L → S → Prop) (I : S → Prop) (own : L → Prop) (μ : S → α) : Prop where
  keeps : ∀ {s l t}, I s → own l → step s l t → I t
  decreases : ∀ {s l t}, I s → own l → step s l t → μ t < μ s

namespace Settles

variable [WellFoundedLT α] {step : S → L → S → Prop} {I : S → Prop} {own : L → Prop} {μ : S → α}

/-- The system does not go on forever by itself. -/
theorem not_infinite (h : Settles step I own μ) {s : S} (hs : I s) :
    ¬ ∃ (f : ℕ → S) (l : ℕ → L), f 0 = s ∧ ∀ n, own (l n) ∧ step (f n) (l n) (f (n + 1)) := by
  induction hμ : μ s using WellFoundedLT.induction generalizing s with
  | ind a ih =>
    rintro ⟨f, l, rfl, hstep⟩
    obtain ⟨hown, hfirst⟩ := hstep 0
    have hlt : μ (f 1) < a := hμ ▸ h.decreases hs hown hfirst
    exact ih _ hlt (h.keeps hs hown hfirst) rfl
      ⟨fun n => f (n + 1), fun n => l (n + 1), rfl, fun n => hstep (n + 1)⟩

/-- If a system that is not at rest can go on, then it comes to rest. -/
theorem exists_run_to_rest (h : Settles step I own μ) {rest : S → Prop}
    (hprogress : ∀ s, I s → rest s ∨ ∃ l t, own l ∧ step s l t) {s : S} (hs : I s) :
    ∃ ls t, Run step s ls t ∧ (∀ l ∈ ls, own l) ∧ I t ∧ rest t := by
  induction hμ : μ s using WellFoundedLT.induction generalizing s with
  | ind a ih =>
    rcases hprogress s hs with hrest | ⟨l, t, hown, hstep⟩
    · exact ⟨[], s, Run.nil s, by simp, hs, hrest⟩
    · have hlt : μ t < a := hμ ▸ h.decreases hs hown hstep
      obtain ⟨ls, r, hrun, hls, hI, hrest⟩ := ih _ hlt (h.keeps hs hown hstep) rfl
      exact ⟨l :: ls, r, Run.cons hstep hrun, by simpa [hown] using hls, hI, hrest⟩

end Settles

end Transition
