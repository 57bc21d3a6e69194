import Mathlib

/-!
# Runs of labelled transition systems

A transition system is a relation `step : S → L → S → Prop`; `Run step s ls t` says that performing
the labels `ls` in order leads from `s` to `t`.  Runs grow at their end, so that an induction over a
run is an induction over the history of its last state.

The rules below are the ones a safety proof uses: a predicate that holds at the start and is kept by
every step holds at the end (`Run.invariant`), possibly under a condition that all labels of the run
meet (`Run.invariant_of_labels`) or with the whole history in view (`Run.invariant_with_history`).
A system whose steps all decrease a measure comes to rest (`exists_run_to_stuck`).  When the steps
of one system are matched by runs of another one, so are its runs (`Run.simulate`), and the runs of
a product are runs of its parts (`Run.project`).
-/

namespace Transition

universe u v u' v'

variable {S : Type u} {L : Type v} {step : S → L → S → Prop}

/-- `Run step s ls t`: the system moves from `s` to `t` performing the labels `ls` in order. -/
inductive Run (step : S → L → S → Prop) : S → List L → S → Prop
  | nil (s : S) : Run step s [] s
  | snoc {s t t' : S} {ls : List L} {l : L} :
      Run step s ls t → step t l t' → Run step s (ls ++ [l]) t'

namespace Run

/-- A single step is a run. -/
lemma single {s t : S} {l : L} (h : step s l t) : Run step s [l] t :=
  Run.snoc (Run.nil s) h

/-- Runs compose. -/
lemma append {s t r : S} {ls ms : List L} (h : Run step s ls t) (h' : Run step t ms r) :
    Run step s (ls ++ ms) r := by
  induction h' with
  | nil => simpa using h
  | snoc _ hstep ih =>
    rw [← List.append_assoc]
    exact Run.snoc ih hstep

/-- A run may be extended at its front. -/
lemma cons {s t r : S} {l : L} {ms : List L} (h : step s l t) (h' : Run step t ms r) :
    Run step s (l :: ms) r :=
  append (single h) h'

/-- The history rule: a predicate of the labels performed and the state reached that holds at the
start and is kept by every step holds at the end of every run. -/
theorem invariant_with_history {I : List L → S → Prop} {s t : S} {ls : List L}
    (h : Run step s ls t) (h₀ : I [] s)
    (hstep : ∀ ls t l t', Run step s ls t → I ls t → step t l t' → I (ls ++ [l]) t') : I ls t := by
  induction h with
  | nil => exact h₀
  | snoc hrun hs ih => exact hstep _ _ _ _ hrun ih hs

/-- The invariant rule: what holds at the start and is kept by every step holds in every state
reached. -/
theorem invariant {I : S → Prop} {s t : S} {ls : List L} (h : Run step s ls t) (h₀ : I s)
    (hstep : ∀ t l t', I t → step t l t' → I t') : I t :=
  h.invariant_with_history (I := fun _ t => I t) h₀
    fun _ t l t' _ hI hs => hstep t l t' hI hs

/-- The invariant rule for runs whose labels all meet a condition. -/
theorem invariant_of_labels {I : S → Prop} {P : L → Prop} {s t : S} {ls : List L}
    (h : Run step s ls t) (hP : ∀ l ∈ ls, P l) (h₀ : I s)
    (hstep : ∀ t l t', P l → I t → step t l t' → I t') : I t := by
  induction h with
  | nil => exact h₀
  | snoc _ hs ih =>
    refine hstep _ _ _ (hP _ (by simp)) (ih fun l hl => hP l ?_) hs
    exact List.mem_append_left _ hl

/-- The budget rule: labels that use up a measure, which no step increases while an invariant holds,
occur at most as often as the measure allows at the start. -/
theorem countP_add_le {I : S → Prop} {p : L → Bool} {μ : S → ℕ} {s t : S} {ls : List L}
    (h : Run step s ls t) (h₀ : I s) (hstep : ∀ t l t', I t → step t l t' → I t')
    (hμ : ∀ t l t', I t → step t l t' → (if p l then 1 else 0) + μ t' ≤ μ t) :
    ls.countP p + μ t ≤ μ s := by
  induction h with
  | nil => simp
  | snoc hrun hs ih =>
    have hlast := hμ _ _ _ (hrun.invariant h₀ hstep) hs
    rw [List.countP_append, List.countP_singleton]
    omega

/-- A run of a relation is a run of every larger one. -/
lemma mono {step' : S → L → S → Prop} {s t : S} {ls : List L} (h : Run step s ls t)
    (hle : ∀ t l t', step t l t' → step' t l t') : Run step' s ls t := by
  induction h with
  | nil => exact Run.nil _
  | snoc _ hs ih => exact Run.snoc ih (hle _ _ _ hs)

/-- The projection rule: a map of states that takes each step of one system to a step of another
one, or to none, takes its runs to runs of the other one. -/
lemma project {S' : Type u'} {L' : Type v'} {step' : S' → L' → S' → Prop} {f : S → S'}
    {g : L → Option L'} {s t : S} {ls : List L} (h : Run step s ls t)
    (hstep : ∀ t l t' l', step t l t' → g l = some l' → step' (f t) l' (f t'))
    (hnone : ∀ t l t', step t l t' → g l = none → f t' = f t) :
    Run step' (f s) (ls.filterMap g) (f t) := by
  induction h with
  | nil => exact Run.nil _
  | @snoc _ _ _ l _ hs ih =>
    rw [List.filterMap_append]
    cases hl : g l with
    | none =>
      rw [hnone _ _ _ hs hl]
      simpa [hl] using ih
    | some l' => simpa [hl] using Run.snoc ih (hstep _ _ _ _ hs hl)

/-- The simulation rule: a relation between the states of one system and the labels performed and
the state reached by another one that holds at the start, and that each step of the first system
keeps when the second one goes on suitably, holds at the end of every run of the first system. -/
theorem simulate {S' : Type u'} {L' : Type v'} {step' : S' → L' → S' → Prop}
    {R : S → List L' → S' → Prop} {s t : S} {s' : S'} {ls : List L} (h : Run step s ls t)
    (h₀ : R s [] s')
    (hstep : ∀ r es r' l q, Run step' s' es r' → R r es r' → step r l q →
      ∃ fs q', Run step' r' fs q' ∧ R q (es ++ fs) q') :
    ∃ es t', Run step' s' es t' ∧ R t es t' := by
  induction h with
  | nil => exact ⟨[], s', Run.nil s', h₀⟩
  | snoc _ hs ih =>
    obtain ⟨es, r', hrun', hR⟩ := ih
    obtain ⟨fs, q', hnext, hR'⟩ := hstep _ es r' _ _ hrun' hR hs
    exact ⟨es ++ fs, q', hrun'.append hnext, hR'⟩

end Run

/-- When each step strictly decreases a measure, a state from which no step leaves is reached. -/
theorem exists_run_to_stuck (step : S → L → S → Prop) (μ : S → ℕ)
    (hμ : ∀ s l t, step s l t → μ t < μ s) (s : S) :
    ∃ ls t, Run step s ls t ∧ ∀ l r, ¬ step t l r := by
  induction hn : μ s using Nat.strong_induction_on generalizing s with
  | _ n ih =>
    by_cases hstuck : ∀ l r, ¬ step s l r
    · exact ⟨[], s, Run.nil s, hstuck⟩
    · push Not at hstuck
      obtain ⟨l, r, hs⟩ := hstuck
      obtain ⟨ls, t, hrun, ht⟩ := ih (μ r) (hn ▸ hμ s l r hs) r rfl
      exact ⟨l :: ls, t, Run.cons hs hrun, ht⟩

end Transition
