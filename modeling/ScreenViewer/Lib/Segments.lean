import Mathlib

/-!
# Exact reads from a segmented stream

A stream that arrives in pieces is a list of segments.  `readExactly n` collects `n` elements from
it by taking, again and again, what the first segment has to offer, as a read loop over a transport
with short reads does.  How the stream is cut does not show: the elements read are the first `n` of
the concatenation, and what is left is the rest of it.
-/

namespace Segments

universe u

variable {β : Type u}

/-- Collects exactly `n` elements from the front of a segmented stream, or none if it ends
before. -/
def readExactly : ℕ → List (List β) → Option (List β × List (List β))
  | 0, segments => some ([], segments)
  | _ + 1, [] => none
  | n + 1, segment :: segments =>
    if n + 1 ≤ segment.length then
      some (segment.take (n + 1), segment.drop (n + 1) :: segments)
    else
      (readExactly (n + 1 - segment.length) segments).map fun r => (segment ++ r.1, r.2)

/-- An exact read yields the first `n` elements of the concatenation and leaves the rest. -/
theorem readExactly_spec {n : ℕ} {segments : List (List β)} (h : n ≤ segments.flatten.length) :
    ∃ rest, readExactly n segments = some (segments.flatten.take n, rest) ∧
      rest.flatten = segments.flatten.drop n := by
  induction segments generalizing n with
  | nil =>
    obtain rfl : n = 0 := by simpa using h
    exact ⟨[], by simp [readExactly]⟩
  | cons segment segments ih =>
    cases n with
    | zero => exact ⟨segment :: segments, by simp [readExactly]⟩
    | succ n =>
      by_cases hle : n + 1 ≤ segment.length
      · refine ⟨segment.drop (n + 1) :: segments, ?_, ?_⟩
        · simp [readExactly, hle, List.take_append_of_le_length hle]
        · simp [List.drop_append_of_le_length hle]
      · have hlt : segment.length < n + 1 := not_le.mp hle
        obtain ⟨rest, hread, hrest⟩ := ih (n := n + 1 - segment.length) (by
          simp only [List.flatten_cons, List.length_append] at h
          omega)
        refine ⟨rest, ?_, ?_⟩
        · simp [readExactly, hle, hread, List.take_append, List.take_of_length_le hlt.le]
        · simp [hrest, List.drop_append, List.drop_of_length_le hlt.le]

/-- An exact read fails exactly when the stream is too short. -/
theorem readExactly_eq_none_iff {n : ℕ} {segments : List (List β)} :
    readExactly n segments = none ↔ segments.flatten.length < n := by
  constructor
  · intro h
    by_contra hle
    obtain ⟨rest, hread, -⟩ := readExactly_spec (not_lt.mp hle)
    rw [h] at hread
    cases hread
  · intro h
    induction segments generalizing n with
    | nil =>
      cases n with
      | zero => simp at h
      | succ n => rfl
    | cons segment segments ih =>
      simp only [List.flatten_cons, List.length_append] at h
      cases n with
      | zero => omega
      | succ n =>
        have hle : ¬ n + 1 ≤ segment.length := by omega
        simp [readExactly, hle, ih (n := n + 1 - segment.length) (by omega)]

/-- A successful exact read, taken apart. -/
lemma readExactly_eq_some {n : ℕ} {segments rest : List (List β)} {bs : List β}
    (h : readExactly n segments = some (bs, rest)) :
    segments.flatten = bs ++ rest.flatten ∧ bs.length = n := by
  have hle : n ≤ segments.flatten.length := by
    by_contra hlt
    rw [readExactly_eq_none_iff.mpr (not_le.mp hlt)] at h
    cases h
  obtain ⟨rest', hread, hrest⟩ := readExactly_spec hle
  rw [hread] at h
  cases h
  refine ⟨?_, List.length_take_of_le hle⟩
  rw [hrest, List.take_append_drop]

end Segments
