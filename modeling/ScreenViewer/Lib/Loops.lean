import Mathlib

/-!
# Loops that write

A loop whose body may fail is a `foldlM` over the list of its iterations.  `foldlM_total` is the
invariant rule for one that does not fail, and `foldlM_foldlM` makes one loop of two nested ones.

`paintAll` is what a loop does that rewrites a place in each iteration, from the value it finds
there.  Where no place is rewritten twice, the result is known place by place: `paintAll_of_mem` and
`paintAll_of_notMem`.
-/

namespace Loop

universe u v w

variable {σ : Type u} {β : Type v} {γ : Type w}

/-- The invariant rule: a loop whose body never fails while an invariant of the iterations done
holds, and that keeps it, ends with the invariant for all iterations. -/
theorem foldlM_total {f : σ → β → Option σ} {I : List β → σ → Prop} {l : List β} {s : σ}
    (h₀ : I [] s)
    (hstep : ∀ before b after s, l = before ++ b :: after → I before s →
      ∃ t, f s b = some t ∧ I (before ++ [b]) t) :
    ∃ t, l.foldlM f s = some t ∧ I l t := by
  have key : ∀ rest before s, l = before ++ rest → I before s →
      ∃ t, rest.foldlM f s = some t ∧ I l t := by
    intro rest
    induction rest with
    | nil =>
      intro before s hl hs
      rw [List.append_nil] at hl
      exact ⟨s, rfl, hl ▸ hs⟩
    | cons b rest ih =>
      intro before s hl hs
      obtain ⟨t, ht, hI⟩ := hstep before b rest s hl hs
      obtain ⟨r, hr, hend⟩ := ih (before ++ [b]) t (by rw [hl, List.append_cons]) hI
      refine ⟨r, ?_, hend⟩
      rw [List.foldlM_cons, ht]
      exact hr
  exact key l [] s rfl h₀

/-- Two nested loops are one over the pairs. -/
theorem foldlM_foldlM (f : σ → β → γ → Option σ) (l : List β) (m : List γ) (s : σ) :
    l.foldlM (fun s b => m.foldlM (fun s c => f s b c) s) s =
      (l ×ˢ m).foldlM (fun s p => f s p.1 p.2) s := by
  induction l generalizing s with
  | nil => rfl
  | cons b l ih =>
    rw [List.foldlM_cons, List.product_cons, List.foldlM_append, List.foldlM_map]
    exact bind_congr ih

section PaintAll

variable {ι : Type u} {α : Type w} [DecidableEq ι] {target : β → ι} {paint : β → α → α}

/-- Rewrites the place of each iteration. -/
def paintAll (target : β → ι) (paint : β → α → α) (l : List β) (s : ι → α) : ι → α :=
  l.foldl (fun s b => Function.update s (target b) (paint b (s (target b)))) s

lemma paintAll_append_singleton (l : List β) (b : β) (s : ι → α) :
    paintAll target paint (l ++ [b]) s =
      Function.update (paintAll target paint l s) (target b)
        (paint b (paintAll target paint l s (target b))) := by
  rw [paintAll, List.foldl_append]
  rfl

/-- Other places keep their values. -/
theorem paintAll_of_notMem {l : List β} {s : ι → α} {i : ι} (h : i ∉ l.map target) :
    paintAll target paint l s i = s i := by
  induction l using List.reverseRecOn with
  | nil => rfl
  | append_singleton l b ih =>
    rw [List.map_append, List.mem_append, not_or] at h
    rw [paintAll_append_singleton, Function.update_of_ne, ih h.1]
    exact fun hi => h.2 (List.mem_singleton.mpr hi)

/-- A place that is rewritten once has its value from its old one. -/
theorem paintAll_of_mem {l : List β} {s : ι → α} {b : β} (hnodup : (l.map target).Nodup)
    (h : b ∈ l) : paintAll target paint l s (target b) = paint b (s (target b)) := by
  induction l using List.reverseRecOn with
  | nil => exact absurd h List.not_mem_nil
  | append_singleton l c ih =>
    rw [List.map_append, List.nodup_append] at hnodup
    obtain ⟨hl, -, hdisjoint⟩ := hnodup
    rw [paintAll_append_singleton]
    rcases List.mem_append.mp h with h | h
    · have hne : target b ≠ target c :=
        hdisjoint _ (List.mem_map_of_mem h) _ (List.mem_singleton_self _)
      rw [Function.update_of_ne hne]
      exact ih hl h
    · rw [List.mem_singleton.mp h, Function.update_self, paintAll_of_notMem]
      intro hmem
      exact hdisjoint _ hmem _ (List.mem_singleton_self _) rfl

end PaintAll

end Loop
