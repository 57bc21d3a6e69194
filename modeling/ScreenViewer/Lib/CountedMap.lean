import Mathlib

/-!
# Finite maps whose values are counted

For a finite map (`AList`) and a predicate of its values, `AList.valueCount` is the number of
entries with such a value.  Taking an entry out lowers the count by that entry's share, and putting
one under a new key raises it: with these rules a map can be one of the places among which things
are distributed.
-/

namespace AList

universe u v

variable {α : Type u} {β : Type v} [DecidableEq α]

/-- The number of entries whose value satisfies `p`. -/
def valueCount (s : AList fun _ : α => β) (p : β → Prop) [DecidablePred p] : ℕ :=
  s.entries.countP fun e => p e.2

variable {s : AList fun _ : α => β} {p : β → Prop} [DecidablePred p] {a : α} {b : β}

omit [DecidableEq α] in
/-- The empty map has no entries. -/
@[simp] lemma valueCount_empty : (∅ : AList fun _ : α => β).valueCount p = 0 := rfl

omit [DecidablePred p] in
/-- A map is the entry found under a key together with what is left when it is taken out. -/
lemma entries_perm_cons_erase (h : s.lookup a = some b) :
    s.entries.Perm (⟨a, b⟩ :: (s.erase a).entries) := by
  have hmem : a ∈ s := AList.lookup_isSome.mp (by rw [h]; rfl)
  obtain ⟨b', l₁, l₂, -, hs, herase⟩ := List.exists_of_kerase (AList.mem_keys.mp hmem)
  obtain rfl : b = b' := by
    have hb : (⟨a, b'⟩ : Sigma fun _ : α => β) ∈ s.entries := by rw [hs]; simp
    have hb' : s.lookup a = some b' := AList.mem_lookup_iff.mpr hb
    rw [h] at hb'
    exact Option.some.inj hb'
  have hentries : (s.erase a).entries = l₁ ++ l₂ := herase
  rw [hs, hentries]
  exact List.perm_middle

/-- The share of an entry that is taken out. -/
lemma valueCount_erase (h : s.lookup a = some b) :
    (s.erase a).valueCount p + (if p b then 1 else 0) = s.valueCount p := by
  rw [valueCount, valueCount, (entries_perm_cons_erase h).countP_eq, List.countP_cons]
  simp

/-- The share of an entry that is put under a new key. -/
lemma valueCount_insert (h : a ∉ s) :
    (s.insert a b).valueCount p = s.valueCount p + if p b then 1 else 0 := by
  rw [valueCount, AList.entries_insert_of_notMem h, List.countP_cons, valueCount]
  simp

/-- A value that is counted is found under some key. -/
lemma exists_lookup_of_valueCount_pos (h : 0 < s.valueCount p) :
    ∃ a b, s.lookup a = some b ∧ p b := by
  obtain ⟨⟨a, b⟩, hmem, hp⟩ := List.countP_pos_iff.mp h
  exact ⟨a, b, AList.mem_lookup_iff.mpr hmem, by simpa using hp⟩

/-- A value found under a key is counted. -/
lemma valueCount_pos (h : s.lookup a = some b) (hp : p b) : 0 < s.valueCount p :=
  List.countP_pos_iff.mpr ⟨⟨a, b⟩, AList.mem_lookup_iff.mp h, by simpa using hp⟩

/-- A value that is counted once is under one key only. -/
lemma eq_of_valueCount_le_one (h : s.valueCount p ≤ 1) {a' : α} {b' : β} (ha : s.lookup a = some b)
    (ha' : s.lookup a' = some b') (hp : p b) (hp' : p b') : a = a' := by
  by_contra hne
  have herase := valueCount_erase (p := p) ha
  have hpos : 0 < (s.erase a).valueCount p :=
    valueCount_pos ((AList.lookup_erase_ne (Ne.symm hne)).trans ha') hp'
  rw [if_pos hp] at herase
  omega

end AList
