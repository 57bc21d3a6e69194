import Mathlib
import ScreenViewer.Lib.Runs

/-!
# Matchmaking

Parties are let in, put an offer up under a key, and take the offers of others.  A party that takes
an offer is the guest of the one who made it, and that one is its host; both are then settled, and
so is a party that has left.  Putting an offer up takes down the one that was there under its key.

Every offer that is up has its maker, and hosts and guests have each other (`Inv`).  The history of
a run tells who was let in, who has made an offer and who has taken whose (`Told`), and who is
settled stays so (`settled_of_run`).
-/

namespace Matchmaking

open Transition

universe u v

variable {ι : Type u} {κ : Type v}

/-- How a party stands. -/
inductive Standing (ι : Type u)
  | stranger
  | admitted
  | offering
  | left
  | host (guest : ι)
  | guest (host : ι)
  deriving DecidableEq

/-- The standings that do not change any more. -/
def Standing.Settled : Standing ι → Prop
  | .left | .host _ | .guest _ => True
  | _ => False

/-- Who stands how, and whose offer is up under which key. -/
@[ext]
structure State (ι : Type u) (κ : Type v) where
  standing : ι → Standing ι
  offers : κ → Option ι

/-- What can happen. -/
inductive Event (ι : Type u) (κ : Type v)
  | enter (i : ι)
  | leave (i : ι)
  | offer (i : ι) (k : κ)
  | withdraw (ks : Finset κ)
  | pair (k : κ) (host guest : ι)

namespace State

/-- Nobody has come yet. -/
def init : State ι κ where
  standing _ := .stranger
  offers _ := none

section Operations

variable [DecidableEq ι] (m : State ι κ)

/-- A party stands differently. -/
def put (i : ι) (x : Standing ι) : State ι κ :=
  { m with standing := Function.update m.standing i x }

variable [DecidableEq κ]

/-- The offers under the keys are taken down, and those who made them leave. -/
def withdraw (ks : Finset κ) : State ι κ where
  standing i := if ∃ k ∈ ks, m.offers k = some i then .left else m.standing i
  offers k := if k ∈ ks then none else m.offers k

/-- An offer is put up under a key that is free. -/
def putUp (i : ι) (k : κ) : State ι κ where
  standing := Function.update m.standing i .offering
  offers := Function.update m.offers k (some i)

/-- A party puts an offer up, for the one that was there. -/
def offer (i : ι) (k : κ) : State ι κ := (m.withdraw {k}).putUp i k

/-- An offer is taken. -/
def pair (k : κ) (host guest : ι) : State ι κ where
  standing := Function.update (Function.update m.standing host (.host guest)) guest (.guest host)
  offers := Function.update m.offers k none

end Operations

end State

variable [DecidableEq ι] [DecidableEq κ]

/-- The steps of a matchmaker. -/
inductive Step : State ι κ → Event ι κ → State ι κ → Prop
  | enter (m : State ι κ) (i : ι) (h : m.standing i = .stranger) :
      Step m (.enter i) (m.put i .admitted)
  | leave (m : State ι κ) (i : ι) (h : m.standing i = .stranger ∨ m.standing i = .admitted) :
      Step m (.leave i) (m.put i .left)
  | offer (m : State ι κ) (i : ι) (k : κ) (h : m.standing i = .admitted) :
      Step m (.offer i k) (m.offer i k)
  | withdraw (m : State ι κ) (ks : Finset κ) : Step m (.withdraw ks) (m.withdraw ks)
  | pair (m : State ι κ) (k : κ) (host guest : ι) (hhost : m.offers k = some host)
      (hguest : m.standing guest = .admitted) :
      Step m (.pair k host guest) (m.pair k host guest)

/-- What holds of a matchmaker at any time. -/
structure Inv (m : State ι κ) : Prop where
  /-- An offer is up as long as the one who has made it is offering. -/
  offering_iff : ∀ i, m.standing i = .offering ↔ ∃ k, m.offers k = some i
  /-- Nobody has two offers up. -/
  key_unique : ∀ i k k', m.offers k = some i → m.offers k' = some i → k = k'
  /-- Hosts and guests have each other. -/
  host_iff : ∀ i j, m.standing i = .host j ↔ m.standing j = .guest i

/-- What the history of a matchmaker tells about it. -/
structure Told (es : List (Event ι κ)) (m : State ι κ) : Prop where
  admit_of_standing : ∀ i, m.standing i = .admitted → .enter i ∈ es
  offer_of_offers : ∀ i k, m.offers k = some i → .offer i k ∈ es
  enter_of_offer : ∀ i k, .offer i k ∈ es → .enter i ∈ es
  /-- What is taken was offered, and by somebody who had been let in. -/
  of_pair : ∀ k host guest, .pair k host guest ∈ es → .offer host k ∈ es ∧ .enter guest ∈ es
  /-- A guest has taken an offer of its host. -/
  guest_iff : ∀ host guest, m.standing guest = .guest host ↔ ∃ k, .pair k host guest ∈ es
  /-- Nobody takes two offers. -/
  pair_unique : ∀ k k' host host' guest, .pair k host guest ∈ es → .pair k' host' guest ∈ es →
    k = k'

omit [DecidableEq ι] [DecidableEq κ] in
/-- Nobody is his own guest. -/
lemma Inv.host_ne {m : State ι κ} (hi : Inv m) {i j : ι} (h : m.standing i = .host j) : i ≠ j := by
  rintro rfl
  have hguest := (hi.host_iff i i).mp h
  rw [h] at hguest
  cases hguest

section Steps

variable {m m' : State ι κ} {e : Event ι κ} {es : List (Event ι κ)}

omit [DecidableEq ι] [DecidableEq κ] in
lemma inv_init : Inv (State.init : State ι κ) := by
  constructor <;> simp [State.init]

omit [DecidableEq ι] [DecidableEq κ] in
lemma told_init : Told [] (State.init : State ι κ) := by
  constructor <;> simp [State.init]

omit [DecidableEq κ] in
/-- A party that has made no offer is let in, or leaves. -/
lemma Inv.put (hi : Inv m) {i : ι} {x : Standing ι}
    (h : m.standing i = .stranger ∨ m.standing i = .admitted) (hx : x = .admitted ∨ x = .left) :
    Inv (m.put i x) := by
  have hoffering : m.standing i ≠ .offering := by rcases h with h | h <;> simp [h]
  have hhost : ∀ j, m.standing i ≠ .host j := by rcases h with h | h <;> simp [h]
  have hguest : ∀ j, m.standing i ≠ .guest j := by rcases h with h | h <;> simp [h]
  refine ⟨fun j => ?_, hi.key_unique, fun j j' => ?_⟩
  · by_cases hj : j = i
    · subst hj
      have hnone := (not_congr (hi.offering_iff j)).mp hoffering
      have hput : (m.put j x).standing j ≠ .offering := by
        rcases hx with rfl | rfl <;> simp [State.put]
      exact iff_of_false hput hnone
    · simpa [State.put, hj] using hi.offering_iff j
  · by_cases hj : j = i <;> by_cases hj' : j' = i
    · subst hj hj'
      rcases hx with rfl | rfl <;> simp [State.put]
    · subst hj
      have hnone := (not_congr (hi.host_iff j j')).mp (hhost j')
      have hput : (m.put j x).standing j ≠ .host j' := by
        rcases hx with rfl | rfl <;> simp [State.put]
      exact iff_of_false hput (by simpa [State.put, hj'] using hnone)
    · subst hj'
      have hnone := (not_congr (hi.host_iff j j')).mpr (hguest j)
      have hput : (m.put j' x).standing j' ≠ .guest j := by
        rcases hx with rfl | rfl <;> simp [State.put]
      exact iff_of_false (by simpa [State.put, hj] using hnone) hput
    · simpa [State.put, hj, hj'] using hi.host_iff j j'

/-- Taking offers down. -/
lemma Inv.withdraw (hi : Inv m) (ks : Finset κ) : Inv (m.withdraw ks) := by
  have hsettled : ∀ i, (∃ k ∈ ks, m.offers k = some i) → m.standing i = .offering := by
    rintro i ⟨k, -, hk⟩
    exact (hi.offering_iff i).mpr ⟨k, hk⟩
  refine ⟨fun i => ?_, fun i k k' hk hk' => ?_, fun i j => ?_⟩
  · by_cases hdown : ∃ k ∈ ks, m.offers k = some i
    · obtain ⟨k, hk, hoffer⟩ := hdown
      have hstanding : (m.withdraw ks).standing i = .left := if_pos ⟨k, hk, hoffer⟩
      rw [hstanding]
      refine iff_of_false (by simp) ?_
      rintro ⟨k', hk'⟩
      by_cases hmem : k' ∈ ks
      · simp [State.withdraw, hmem] at hk'
      · have hoffer' : m.offers k' = some i := by simpa [State.withdraw, hmem] using hk'
        exact hmem (hi.key_unique i k' k hoffer' hoffer ▸ hk)
    · have hstanding : (m.withdraw ks).standing i = m.standing i := if_neg hdown
      rw [hstanding, hi.offering_iff]
      refine exists_congr fun k => ?_
      by_cases hmem : k ∈ ks
      · have hne : m.offers k ≠ some i := fun h => hdown ⟨k, hmem, h⟩
        simp [State.withdraw, hmem, hne]
      · simp [State.withdraw, hmem]
  · have hup : ∀ l, (m.withdraw ks).offers l = some i → m.offers l = some i := by
      intro l hl
      by_cases hmem : l ∈ ks <;> simp_all [State.withdraw]
    exact hi.key_unique i k k' (hup k hk) (hup k' hk')
  · have hkept : ∀ l, (∃ k ∈ ks, m.offers k = some l) → ∀ x : Standing ι, x.Settled →
        x ≠ .left → (m.withdraw ks).standing l ≠ x ∧ m.standing l ≠ x := by
      intro l hdown x hx hne
      have hoffering := hsettled l hdown
      have hstanding : (m.withdraw ks).standing l = .left := if_pos hdown
      rw [hstanding, hoffering]
      exact ⟨hne.symm, by rintro rfl; exact hx⟩
    have hsame : ∀ l, ∀ x : Standing ι, x.Settled → x ≠ .left →
        ((m.withdraw ks).standing l = x ↔ m.standing l = x) := by
      intro l x hx hne
      by_cases hdown : ∃ k ∈ ks, m.offers k = some l
      · exact iff_of_false (hkept l hdown x hx hne).1 (hkept l hdown x hx hne).2
      · have hstanding : (m.withdraw ks).standing l = m.standing l := if_neg hdown
        rw [hstanding]
    rw [hsame i (.host j) trivial (by simp), hsame j (.guest i) trivial (by simp)]
    exact hi.host_iff i j

/-- Putting an offer up. -/
lemma Inv.putUp (hi : Inv m) {i : ι} {k : κ} (h : m.standing i = .admitted)
    (hfree : m.offers k = none) : Inv (m.putUp i k) := by
  have hnone : ∀ k', m.offers k' ≠ some i := by
    intro k' hk'
    have hoffering := (hi.offering_iff i).mpr ⟨k', hk'⟩
    rw [h] at hoffering
    cases hoffering
  refine ⟨fun j => ?_, fun j l l' hl hl' => ?_, fun j j' => ?_⟩
  · by_cases hj : j = i
    · subst hj
      refine iff_of_true (by simp [State.putUp]) ⟨k, by simp [State.putUp]⟩
    · have hup : ∀ l, (m.putUp i k).offers l = some j ↔ m.offers l = some j := by
        intro l
        by_cases hl : l = k
        · subst hl
          simp [State.putUp, hfree, Ne.symm hj]
        · simp [State.putUp, hl]
      have hstanding : (m.putUp i k).standing j = m.standing j := by simp [State.putUp, hj]
      rw [hstanding, hi.offering_iff, exists_congr hup]
  · by_cases hj : j = i
    · subst hj
      have hkey : ∀ l, (m.putUp j k).offers l = some j → l = k := by
        intro l hl
        by_contra hne
        exact hnone l (by simpa [State.putUp, hne] using hl)
      rw [hkey l hl, hkey l' hl']
    · have hup : ∀ l, (m.putUp i k).offers l = some j → m.offers l = some j := by
        intro l hl
        by_cases hne : l = k
        · subst hne
          simp [State.putUp, Ne.symm hj] at hl
        · simpa [State.putUp, hne] using hl
      exact hi.key_unique j l l' (hup l hl) (hup l' hl')
  · have hhost : ∀ l x, (x ≠ .offering ∧ x ≠ .admitted) →
        ((m.putUp i k).standing l = x ↔ m.standing l = x) := by
      rintro l x ⟨hoffering, hadmitted⟩
      by_cases hl : l = i
      · subst hl
        simp [State.putUp, h, hoffering.symm, hadmitted.symm]
      · simp [State.putUp, hl]
    rw [hhost j (.host j') (by simp), hhost j' (.guest j) (by simp)]
    exact hi.host_iff j j'

/-- Taking an offer. -/
lemma Inv.pair (hi : Inv m) {k : κ} {host guest : ι} (hhost : m.offers k = some host)
    (hguest : m.standing guest = .admitted) : Inv (m.pair k host guest) := by
  have hoffering : m.standing host = .offering := (hi.offering_iff host).mpr ⟨k, hhost⟩
  have hne : host ≠ guest := by
    rintro rfl
    rw [hguest] at hoffering
    cases hoffering
  have hother : ∀ i, i ≠ host → i ≠ guest → (m.pair k host guest).standing i = m.standing i := by
    intro i h h'
    simp [State.pair, h, h']
  have hhost' : (m.pair k host guest).standing host = .host guest := by simp [State.pair, hne]
  have hguest' : (m.pair k host guest).standing guest = .guest host := by simp [State.pair]
  have hup : ∀ i, i ≠ host → ∀ l, (m.pair k host guest).offers l = some i ↔
      m.offers l = some i := by
    intro i h l
    by_cases hl : l = k
    · subst hl
      simp [State.pair, hhost, Ne.symm h]
    · simp [State.pair, hl]
  have hdown : ∀ l, (m.pair k host guest).offers l ≠ some host := by
    intro l hl
    by_cases hl' : l = k
    · subst hl'
      simp [State.pair] at hl
    · exact hl' (hi.key_unique host l k (by simpa [State.pair, hl'] using hl) hhost)
  refine ⟨fun i => ?_, fun i l l' hl hl' => ?_, fun i j => ?_⟩
  · by_cases h : i = host
    · subst h
      exact iff_of_false (by simp [hhost']) (not_exists.mpr hdown)
    · by_cases h' : i = guest
      · subst h'
        have hnone := (not_congr (hi.offering_iff i)).mp (by simp [hguest])
        refine iff_of_false (by simp [hguest']) ?_
        simpa [hup i h] using hnone
      · rw [hother i h h', hi.offering_iff, exists_congr fun l => hup i h l]
  · by_cases h : i = host
    · subst h
      exact absurd hl (hdown l)
    · exact hi.key_unique i l l' ((hup i h l).mp hl) ((hup i h l').mp hl')
  · have hold := hi.host_iff
    by_cases h : i = host
    · subst h
      rw [hhost']
      by_cases hj : j = guest
      · subst hj
        exact iff_of_true rfl hguest'
      · refine iff_of_false (by simpa using Ne.symm hj) ?_
        by_cases hj' : j = i
        · subst hj'
          simp [hhost']
        · rw [hother j hj' hj, ← hold, hoffering]
          simp
    · by_cases h' : i = guest
      · subst h'
        rw [hguest']
        refine iff_of_false (by simp) ?_
        by_cases hj : j = host
        · subst hj
          simp [hhost']
        · by_cases hj' : j = i
          · subst hj'
            simpa [hguest'] using Ne.symm h
          · rw [hother j hj hj', ← hold, hguest]
            simp
      · rw [hother i h h', hold]
        by_cases hj : j = host
        · subst hj
          simp [hhost', hoffering]
        · by_cases hj' : j = guest
          · subst hj'
            simpa [hguest, hguest'] using Ne.symm h
          · rw [hother j hj hj']

/-- Every step keeps the invariant. -/
theorem Inv.step (hi : Inv m) (h : Step m e m') : Inv m' := by
  cases h with
  | enter i h => exact hi.put (Or.inl h) (Or.inl rfl)
  | leave i h => exact hi.put h (Or.inr rfl)
  | offer i k h =>
    have hfree : (m.withdraw {k}).offers k = none := by simp [State.withdraw]
    have hadmitted : (m.withdraw {k}).standing i = .admitted := by
      have hnot : ¬ ∃ k' ∈ ({k} : Finset κ), m.offers k' = some i := by
        rintro ⟨k', -, hk'⟩
        have hoffering := (hi.offering_iff i).mpr ⟨k', hk'⟩
        rw [h] at hoffering
        cases hoffering
      exact (if_neg hnot).trans h
    exact (hi.withdraw {k}).putUp hadmitted hfree
  | withdraw ks => exact hi.withdraw ks
  | pair k host guest hhost hguest => exact hi.pair hhost hguest

/-- Whoever is settled stays as he is. -/
lemma settled_of_step (hi : Inv m) (h : Step m e m') {i : ι} (hsettled : (m.standing i).Settled) :
    m'.standing i = m.standing i := by
  have hput : ∀ {j : ι}, ¬ (m.standing j).Settled → i ≠ j := by
    rintro j hj rfl
    exact hj hsettled
  have hoffering : ∀ {k : κ} {j : ι}, m.offers k = some j → m.standing j = .offering :=
    fun {k j} hk => (hi.offering_iff j).mpr ⟨k, hk⟩
  have hwithdraw : ∀ ks, (m.withdraw ks).standing i = m.standing i := by
    intro ks
    refine if_neg ?_
    rintro ⟨k, -, hk⟩
    rw [hoffering hk] at hsettled
    exact hsettled
  cases h with
  | enter j h => exact Function.update_of_ne (hput (by simp [h, Standing.Settled])) _ _
  | leave j h =>
    refine Function.update_of_ne (hput ?_) _ _
    rcases h with h | h <;> simp [h, Standing.Settled]
  | offer j k h =>
    have hne : i ≠ j := hput (by simp [h, Standing.Settled])
    exact (Function.update_of_ne hne _ _).trans (hwithdraw {k})
  | withdraw ks => exact hwithdraw ks
  | pair k host guest hhost hguest =>
    have hne : i ≠ guest := hput (by simp [hguest, Standing.Settled])
    have hne' : i ≠ host := hput (by simp [hoffering hhost, Standing.Settled])
    exact (Function.update_of_ne hne _ _).trans (Function.update_of_ne hne' _ _)

omit [DecidableEq ι] [DecidableEq κ] in
/-- The history goes on with an event that takes no offer. -/
lemma Told.snoc (ht : Told es m) (henter : ∀ i, m'.standing i = .admitted →
      m.standing i = .admitted ∨ e = .enter i)
    (hoffer : ∀ i k, m'.offers k = some i → m.offers k = some i ∨ e = .offer i k)
    (hevent : ∀ i k, e = .offer i k → m.standing i = .admitted)
    (hpair : ∀ k host guest, e ≠ .pair k host guest)
    (hguest : ∀ i j, m'.standing i = .guest j ↔ m.standing i = .guest j) :
    Told (es ++ [e]) m' where
  admit_of_standing i h := by
    rcases henter i h with h | rfl
    · exact List.mem_append_left _ (ht.admit_of_standing i h)
    · simp
  offer_of_offers i k h := by
    rcases hoffer i k h with h | rfl
    · exact List.mem_append_left _ (ht.offer_of_offers i k h)
    · simp
  enter_of_offer i k h := by
    refine List.mem_append_left _ ?_
    rcases List.mem_append.mp h with h | h
    · exact ht.enter_of_offer i k h
    · exact ht.admit_of_standing i (hevent i k (List.mem_singleton.mp h).symm)
  of_pair k host guest h := by
    have hold : .pair k host guest ∈ es := by simpa [(hpair k host guest).symm] using h
    exact (ht.of_pair k host guest hold).imp (List.mem_append_left _) (List.mem_append_left _)
  guest_iff host guest := by
    rw [hguest, ht.guest_iff]
    refine exists_congr fun k => ?_
    simp [(hpair k host guest).symm]
  pair_unique k k' host host' guest h h' := by
    refine ht.pair_unique k k' host host' guest ?_ ?_
    · simpa [(hpair k host guest).symm] using h
    · simpa [(hpair k' host' guest).symm] using h'

/-- Every step goes on with the history. -/
theorem Told.step (ht : Told es m) (hi : Inv m) (h : Step m e m') : Told (es ++ [e]) m' := by
  have hdown : ∀ ks i x, x = Standing.admitted ∨ (∃ j, x = .guest j) →
      ((m.withdraw ks).standing i = x ↔ m.standing i = x) := by
    intro ks i x hx
    by_cases hmem : ∃ k ∈ ks, m.offers k = some i
    · have hoffering : m.standing i = .offering :=
        (hi.offering_iff i).mpr (hmem.imp fun k hk => hk.2)
      have hstanding : (m.withdraw ks).standing i = .left := if_pos hmem
      rw [hstanding, hoffering]
      rcases hx with rfl | ⟨j, rfl⟩ <;> simp
    · have hstanding : (m.withdraw ks).standing i = m.standing i := if_neg hmem
      rw [hstanding]
  have hput : ∀ i x, m.standing i = .stranger ∨ m.standing i = .admitted →
      x = .admitted ∨ x = .left → ∀ j j', (m.put i x).standing j = .guest j' ↔
        m.standing j = .guest j' := by
    intro i x h hx j j'
    by_cases hj : j = i
    · subst hj
      rcases h with h | h <;> rcases hx with rfl | rfl <;> simp [State.put, h]
    · simp [State.put, hj]
  cases h with
  | enter i h =>
    refine ht.snoc (fun j hj => ?_) (fun j k hk => Or.inl hk) (by simp) (by simp)
      (hput i _ (Or.inl h) (Or.inl rfl))
    by_cases hne : j = i
    · exact Or.inr (by rw [hne])
    · exact Or.inl (by simpa [State.put, hne] using hj)
  | leave i h =>
    refine ht.snoc (fun j hj => Or.inl ?_) (fun j k hk => Or.inl hk) (by simp) (by simp)
      (hput i _ h (Or.inr rfl))
    by_cases hne : j = i
    · subst hne
      simp [State.put] at hj
    · simpa [State.put, hne] using hj
  | offer i k h =>
    refine ht.snoc (fun j hj => Or.inl ?_) (fun j l hl => ?_) ?_ (by simp) fun j j' => ?_
    · by_cases hne : j = i
      · rwa [hne]
      · exact (hdown {k} j _ (Or.inl rfl)).mp (by simpa [State.offer, State.putUp, hne] using hj)
    · by_cases hne : l = k
      · subst hne
        have heq : i = j := by simpa [State.offer, State.putUp] using hl
        exact Or.inr (by rw [heq])
      · exact Or.inl (by simpa [State.offer, State.putUp, State.withdraw, hne] using hl)
    · intro j l heq
      cases heq
      exact h
    · by_cases hne : j = i
      · subst hne
        simp [State.offer, State.putUp, h]
      · have hstanding : (m.offer i k).standing j = (m.withdraw {k}).standing j := by
          simp [State.offer, State.putUp, hne]
        rw [hstanding]
        exact hdown {k} j _ (Or.inr ⟨j', rfl⟩)
  | withdraw ks =>
    refine ht.snoc (fun j hj => Or.inl ((hdown ks j _ (Or.inl rfl)).mp hj)) (fun j k hk => ?_)
      (by simp) (by simp) fun j j' => hdown ks j _ (Or.inr ⟨j', rfl⟩)
    by_cases hmem : k ∈ ks <;> simp_all [State.withdraw]
  | pair k host guest hhost hguest =>
    have hoffering : m.standing host = .offering := (hi.offering_iff host).mpr ⟨k, hhost⟩
    have hnew : ∀ l h, .pair l h guest ∉ es := by
      intro l h hmem
      have hold := (ht.guest_iff h guest).mpr ⟨l, hmem⟩
      rw [hguest] at hold
      cases hold
    refine ⟨fun i h => ?_, fun i l h => ?_, fun i l h => ?_, fun l h g hmem => ?_, fun h g => ?_,
      fun l l' h h' g hl hl' => ?_⟩
    · refine List.mem_append_left _ (ht.admit_of_standing i ?_)
      by_cases hi' : i = guest
      · rwa [hi']
      · by_cases hi'' : i = host
        · subst hi''
          simp [State.pair, hi'] at h
        · simpa [State.pair, hi', hi''] using h
    · refine List.mem_append_left _ (ht.offer_of_offers i l ?_)
      by_cases hl : l = k
      · subst hl
        simp [State.pair] at h
      · simpa [State.pair, hl] using h
    · exact List.mem_append_left _ (ht.enter_of_offer i l (by simpa using h))
    · rcases List.mem_append.mp hmem with hmem | hmem
      · exact (ht.of_pair l h g hmem).imp (List.mem_append_left _) (List.mem_append_left _)
      · cases List.mem_singleton.mp hmem
        exact ⟨List.mem_append_left _ (ht.offer_of_offers host k hhost),
          List.mem_append_left _ (ht.admit_of_standing guest hguest)⟩
    · by_cases hg : g = guest
      · subst hg
        simp [State.pair, hnew, eq_comm]
      · have hstanding : (m.pair k host guest).standing g = .guest h ↔ m.standing g = .guest h := by
          by_cases hg' : g = host
          · subst hg'
            simp [State.pair, hg, hoffering]
          · simp [State.pair, hg, hg']
        rw [hstanding, ht.guest_iff]
        simp [hg]
    · rcases List.mem_append.mp hl with hl | hl <;> rcases List.mem_append.mp hl' with hl' | hl'
      · exact ht.pair_unique l l' h h' g hl hl'
      · cases List.mem_singleton.mp hl'
        exact absurd hl (hnew l h)
      · cases List.mem_singleton.mp hl
        exact absurd hl' (hnew l' h')
      · cases List.mem_singleton.mp hl
        cases List.mem_singleton.mp hl'
        rfl

/-- What holds along every run. -/
theorem inv_and_told_of_run (h : Run Step (State.init : State ι κ) es m) : Inv m ∧ Told es m :=
  h.invariant_with_history (I := fun es m => Inv m ∧ Told es m) ⟨inv_init, told_init⟩
    fun _ _ _ _ _ hI hs => ⟨hI.1.step hs, hI.2.step hI.1 hs⟩

/-- Whoever is settled stays as he is for ever. -/
theorem settled_of_run (h : Run Step m es m') (hi : Inv m) {i : ι}
    (hsettled : (m.standing i).Settled) : m'.standing i = m.standing i := by
  have hboth : Inv m' ∧ m'.standing i = m.standing i := by
    refine h.invariant (I := fun t => Inv t ∧ t.standing i = m.standing i) ⟨hi, rfl⟩ ?_
    rintro t l t' ⟨hit, ht⟩ hs
    exact ⟨hit.step hs, (settled_of_step hit hs (ht ▸ hsettled)).trans ht⟩
  exact hboth.2

end Steps

end Matchmaking
