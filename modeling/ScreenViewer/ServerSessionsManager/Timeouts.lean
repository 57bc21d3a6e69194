import Mathlib
import ScreenViewer.Lib.Runs
import ScreenViewer.ServerSessionsManager.Registrations

/-!
# How old waiting streamers get

`terminateTimeoutClients` goes through the map with an iterator, reads the clock for each entry and
erases the entry or moves on.  Here a pass is as many steps, so that time goes by during it, while
registrations and claims wait for the mutex.  Each entry's time is compared with the reading at its
registration, which the system remembers apart from the map.  The readings are nanoseconds, and the
timeout is converted from seconds, which is exact as long as its nanoseconds fit in 64 bits.

`Inv` says of a pass under way which entries are behind the iterator and that they were young enough
when the pass began.  It gives the bound on every entry's age (`timely_of_run`), and that a whole
pass does to the map what `terminateTimeoutClients` does (`Ongoing.eq_terminateTimeoutClients`).
-/

namespace ScreenViewer

namespace ServerSessionsManager

/-- An iteration of the loop: the entry examined, the reading at its registration, the reading now,
and whether the entry was erased. -/
structure Examination where
  entry : Registration
  registered : Time
  now : Time
  erased : Bool

/-- The entries that were examined and kept. -/
def kept (examined : List Examination) : List Registration :=
  (examined.filter fun e => !e.erased).map Examination.entry

/-- A call of `terminateTimeoutClients`. -/
structure Pass where
  /-- The clock when the call locked `m`. -/
  start : Time
  /-- The map then (history). -/
  found : Registry
  /-- The number of entries before the iterator. -/
  it : ℕ
  /-- What the loop has done so far (history). -/
  examined : List Examination

/-- A pass erases an entry only when strictly more than a time has passed since it was
registered. -/
def Pass.NotEarly (timeout : Time) (p : Pass) : Prop :=
  ∀ e ∈ p.examined, e.erased = true → timeout < e.now - e.registered

/-- The time that the loop reads in iteration `i`. -/
def Pass.now (p : Pass) (i : ℕ) : Time := ((p.examined[i]?).map Examination.now).getD p.start

/-- The map of a running server and the clock. -/
structure Timed where
  sendersSessions : Registry
  /-- The latest reading of the clock. -/
  clock : Time
  /-- The reading at the latest registration under a code (history). -/
  registeredAt : Code → Time
  /-- The call of `terminateTimeoutClients` that holds `m`. -/
  pass : Option Pass
  /-- The calls that have returned, oldest first (history). -/
  passes : List Pass

namespace Timed

/-- Any map, at any time, with no call under way. -/
def started (sendersSessions : Registry) (clock : Time) : Timed where
  sendersSessions := sendersSessions
  clock := clock
  registeredAt code := ((sendersSessions.lookup code).map TimedClientSession.timePoint).getD clock
  pass := none
  passes := []

/-- The start of the last completed pass. -/
def lastStart (s : Timed) : Option Time := s.passes.getLast?.map Pass.start

/-- The time since the registration of the entry under a code. -/
def age (s : Timed) (code : Code) : Time := s.clock - s.registeredAt code

/-- `senders_sessions.erase(it)`. -/
def eraseAt (sendersSessions : Registry) (it : ℕ) : Registry :=
  ⟨sendersSessions.entries.eraseIdx it,
    sendersSessions.nodupKeys.sublist (List.eraseIdx_sublist ..)⟩

/-- What happens in a step. -/
inductive Label
  | tick (now : Time)
  | registerStreamer (sender : ConnId) (now : Time)
  | createBridgeWithStreamer (receiver : ConnId) (sessionCode : Code)
  | passStarts
  | examines (now : Time)
  | passEnds

/-- The steps of the server: a call that needs `m` waits until no pass is under way. -/
inductive Step (overflow : DurationOverflow) (clientTimeout : Seconds) (s : Timed) :
    Label → Timed → Prop
  | tick (now : Time) (hnow : s.clock ≤ now) :
      Step overflow clientTimeout s (.tick now) { s with clock := now }
  | registerStreamer (sender : ConnId) (now : Time) (hfree : s.pass = none) (hnow : s.clock ≤ now) :
      Step overflow clientTimeout s (.registerStreamer sender now)
        { s with
          sendersSessions := (registerStreamer s.sendersSessions sender now).2.1
          clock := now
          registeredAt := Function.update s.registeredAt sessionId now }
  | createBridgeWithStreamer (receiver : ConnId) (sessionCode : Code) (hfree : s.pass = none) :
      Step overflow clientTimeout s (.createBridgeWithStreamer receiver sessionCode)
        { s with
          sendersSessions :=
            (createBridgeWithStreamer s.sendersSessions receiver sessionCode).2.1 }
  | passStarts (hfree : s.pass = none) :
      Step overflow clientTimeout s .passStarts
        { s with
          pass := some
            { start := s.clock, found := s.sendersSessions, it := 0, examined := [] } }
  | erases (p : Pass) (entry : Registration) (now : Time) (hpass : s.pass = some p)
      (hit : s.sendersSessions.entries[p.it]? = some entry) (hnow : s.clock ≤ now)
      (helapsed : now - entry.2.timePoint > toNanoseconds overflow clientTimeout) :
      Step overflow clientTimeout s (.examines now)
        { s with
          sendersSessions := eraseAt s.sendersSessions p.it
          clock := now
          pass := some { p with
            examined := p.examined ++ [⟨entry, s.registeredAt entry.1, now, true⟩] } }
  | keeps (p : Pass) (entry : Registration) (now : Time) (hpass : s.pass = some p)
      (hit : s.sendersSessions.entries[p.it]? = some entry) (hnow : s.clock ≤ now)
      (helapsed : ¬ now - entry.2.timePoint > toNanoseconds overflow clientTimeout) :
      Step overflow clientTimeout s (.examines now)
        { s with
          clock := now
          pass := some { p with
            it := p.it + 1
            examined := p.examined ++ [⟨entry, s.registeredAt entry.1, now, false⟩] } }
  | passEnds (p : Pass) (hpass : s.pass = some p)
      (hend : s.sendersSessions.entries[p.it]? = none) :
      Step overflow clientTimeout s .passEnds { s with pass := none, passes := s.passes ++ [p] }

/-- What the clients of the cleaner rely on. -/
structure Timely (clientTimeout : Seconds) (s : Timed) : Prop where
  /-- No entry is erased early, by a pass that is completed or by one under way. -/
  not_early : ∀ p ∈ s.passes ++ s.pass.toList, p.NotEarly (clientTimeout.toInt * 1000000000)
  /-- A pass examines every entry once. -/
  examined_once : ∀ p ∈ s.passes, p.examined.map Examination.entry = p.found.entries ∧
    p.found.entries.Nodup
  /-- No entry outlives its timeout by more than the time since the last completed pass began. -/
  age_le : ∀ start ∈ s.lastStart, ∀ r ∈ s.sendersSessions.entries,
    s.age r.1 ≤ max (clientTimeout.toInt * 1000000000) 0 + (s.clock - start)

/-! ## What a pass knows -/

/-- What holds of a pass under way: the entries behind the iterator are those it has kept, they were
young enough when it began, and the entries that it has not examined are in front of it. -/
structure Ongoing (timeout : Time) (s : Timed) (p : Pass) : Prop where
  start_le : p.start ≤ s.clock
  it_eq : p.it = (kept p.examined).length
  rest : ∃ rest, p.found.entries = p.examined.map Examination.entry ++ rest ∧
    s.sendersSessions.entries = kept p.examined ++ rest
  young : ∀ r ∈ kept p.examined, p.start - r.2.timePoint ≤ timeout
  not_early : p.NotEarly timeout
  erased_iff : ∀ e ∈ p.examined, e.erased = true ↔ e.now - e.entry.2.timePoint > timeout

/-- What holds of the map at any time. -/
structure Inv (timeout : Time) (s : Timed) : Prop where
  timePoint_eq : ∀ r ∈ s.sendersSessions.entries, r.2.timePoint = s.registeredAt r.1
  start_le : ∀ start ∈ s.lastStart, start ≤ s.clock
  young : ∀ start ∈ s.lastStart, ∀ r ∈ s.sendersSessions.entries,
    start - r.2.timePoint ≤ max timeout 0
  ongoing : ∀ p ∈ s.pass, Ongoing timeout s p
  not_early : ∀ p ∈ s.passes, p.NotEarly timeout
  examined_once : ∀ p ∈ s.passes, p.examined.map Examination.entry = p.found.entries ∧
    p.found.entries.Nodup

variable {timeout : Time} {s t : Timed} {l : Label} {ls : List Label}

/-- A map that no pass has seen is in order. -/
lemma inv_started (sendersSessions : Registry) (clock : Time) :
    Inv timeout (started sendersSessions clock) := by
  constructor
  · intro r hr
    have hlookup : sendersSessions.lookup r.1 = some r.2 := AList.mem_lookup_iff.mpr hr
    simp [started, hlookup]
  all_goals simp [started, lastStart]

/-- A registration brings in one entry, and keeps others only under other codes. -/
lemma mem_registerStreamer {sendersSessions : Registry} {sender : ConnId} {now : Time}
    {r : Registration} (h : r ∈ (registerStreamer sendersSessions sender now).2.1.entries) :
    r = ⟨sessionId, { clientSession := sender, timePoint := now }⟩ ∨
      r ∈ sendersSessions.entries ∧ r.1 ≠ sessionId := by
  obtain ⟨code, node⟩ := r
  have hlookup := AList.mem_lookup_iff.mpr h
  unfold registerStreamer at hlookup
  by_cases hcode : code = sessionId
  · subst hcode
    rw [AList.lookup_insert, Option.mem_some_iff] at hlookup
    exact Or.inl (by rw [hlookup])
  · rw [AList.lookup_insert_ne hcode] at hlookup
    refine Or.inr ⟨AList.mem_lookup_iff.mp ?_, hcode⟩
    cases hold : sendersSessions.lookup sessionId with
    | none => simpa only [hold] using hlookup
    | some node' => simpa only [hold, AList.lookup_erase_ne hcode] using hlookup

/-- A claim brings in no entry. -/
lemma mem_createBridgeWithStreamer {sendersSessions : Registry} {receiver : ConnId}
    {sessionCode : Code} {r : Registration}
    (h : r ∈ (createBridgeWithStreamer sendersSessions receiver sessionCode).2.1.entries) :
    r ∈ sendersSessions.entries := by
  unfold createBridgeWithStreamer at h
  cases hlookup : sendersSessions.lookup sessionCode with
  | none => simpa only [hlookup] using h
  | some node =>
    simp only [hlookup] at h
    exact (List.kerase_sublist _ _).subset h

@[simp] lemma entries_eraseAt (sendersSessions : Registry) (it : ℕ) :
    (eraseAt sendersSessions it).entries = sendersSessions.entries.eraseIdx it := rfl

@[simp] lemma kept_nil : kept [] = [] := rfl

lemma kept_append_singleton (examined : List Examination) (e : Examination) :
    kept (examined ++ [e]) = kept examined ++ if e.erased then [] else [e.entry] := by
  unfold kept
  rw [List.filter_append, List.map_append]
  cases h : e.erased <;> simp [h]

/-- The iterator points to the first entry that was not examined. -/
lemma Ongoing.rest_of_getElem {p : Pass} (h : Ongoing timeout s p) {entry : Registration}
    (hit : s.sendersSessions.entries[p.it]? = some entry) :
    ∃ rest, p.found.entries = p.examined.map Examination.entry ++ entry :: rest ∧
      s.sendersSessions.entries = kept p.examined ++ entry :: rest := by
  obtain ⟨rest, hentries, hmap⟩ := h.rest
  rw [hmap, h.it_eq, List.getElem?_append_right le_rfl, Nat.sub_self] at hit
  cases rest with
  | nil => cases hit
  | cons head rest =>
    obtain rfl : head = entry := Option.some.inj hit
    exact ⟨rest, hentries, hmap⟩

/-- Erasing moves the iterator to the next entry. -/
lemma Ongoing.erases {p : Pass} (h : Ongoing timeout s p) {entry : Registration} {now : Time}
    (hit : s.sendersSessions.entries[p.it]? = some entry) (hnow : s.clock ≤ now)
    (hregistered : entry.2.timePoint = s.registeredAt entry.1)
    (helapsed : now - entry.2.timePoint > timeout) :
    Ongoing timeout
      { s with sendersSessions := eraseAt s.sendersSessions p.it, clock := now }
      { p with examined := p.examined ++ [⟨entry, s.registeredAt entry.1, now, true⟩] } := by
  obtain ⟨rest, hentries, hmap⟩ := h.rest_of_getElem hit
  have hkept : kept (p.examined ++ [⟨entry, s.registeredAt entry.1, now, true⟩]) =
      kept p.examined := by
    rw [kept_append_singleton, if_pos rfl, List.append_nil]
  refine ⟨h.start_le.trans hnow, ?_, ⟨rest, ?_, ?_⟩, ?_, ?_, ?_⟩
  · rw [hkept]
    exact h.it_eq
  · rw [hentries]
    simp
  · rw [hkept, entries_eraseAt, hmap, h.it_eq, List.eraseIdx_append_of_length_le le_rfl,
      Nat.sub_self, List.eraseIdx_cons_zero]
  · rw [hkept]
    exact h.young
  · intro e he herased
    rcases List.mem_append.mp he with he | he
    · exact h.not_early e he herased
    · rw [List.mem_singleton.mp he]
      exact hregistered ▸ helapsed
  · intro e he
    rcases List.mem_append.mp he with he | he
    · exact h.erased_iff e he
    · rw [List.mem_singleton.mp he]
      exact iff_of_true rfl helapsed

/-- An entry that is kept is young enough. -/
lemma Ongoing.keeps {p : Pass} (h : Ongoing timeout s p) {entry : Registration} {now : Time}
    (hit : s.sendersSessions.entries[p.it]? = some entry) (hnow : s.clock ≤ now)
    (helapsed : ¬ now - entry.2.timePoint > timeout) :
    Ongoing timeout { s with clock := now }
      { p with
        it := p.it + 1
        examined := p.examined ++ [⟨entry, s.registeredAt entry.1, now, false⟩] } := by
  obtain ⟨rest, hentries, hmap⟩ := h.rest_of_getElem hit
  have hkept : kept (p.examined ++ [⟨entry, s.registeredAt entry.1, now, false⟩]) =
      kept p.examined ++ [entry] := by
    rw [kept_append_singleton]
    rfl
  have hstart := h.start_le
  refine ⟨hstart.trans hnow, ?_, ⟨rest, ?_, ?_⟩, ?_, ?_, ?_⟩
  · rw [hkept, List.length_append, h.it_eq]
    rfl
  · rw [hentries]
    simp
  · rw [hkept, hmap]
    simp
  · intro r hr
    rw [hkept] at hr
    rcases List.mem_append.mp hr with hr | hr
    · exact h.young r hr
    · rw [List.mem_singleton.mp hr]
      change p.start - entry.2.timePoint ≤ timeout
      linarith
  · intro e he herased
    rcases List.mem_append.mp he with he | he
    · exact h.not_early e he herased
    · rw [List.mem_singleton.mp he] at herased
      exact absurd herased Bool.false_ne_true
  · intro e he
    rcases List.mem_append.mp he with he | he
    · exact h.erased_iff e he
    · rw [List.mem_singleton.mp he]
      exact iff_of_false Bool.false_ne_true helapsed

/-- A pass that has come to the end has examined every entry and left those it has kept. -/
lemma Ongoing.of_end {p : Pass} (h : Ongoing timeout s p)
    (hend : s.sendersSessions.entries[p.it]? = none) :
    p.examined.map Examination.entry = p.found.entries ∧
      s.sendersSessions.entries = kept p.examined := by
  obtain ⟨rest, hentries, hmap⟩ := h.rest
  have hlength := List.getElem?_eq_none_iff.mp hend
  rw [hmap, h.it_eq, List.length_append] at hlength
  obtain rfl : rest = [] := List.length_eq_zero_iff.mp (by omega)
  rw [List.append_nil] at hentries hmap
  exact ⟨hentries.symm, hmap⟩

variable {overflow : DurationOverflow} {clientTimeout : Seconds}

/-- The loop of `terminateTimeoutClients` keeps what was kept, if it reads the same times. -/
lemma terminateLoop_examined {examined : List Examination}
    (h : ∀ e ∈ examined, e.erased = true ↔ e.now - e.entry.2.timePoint >
      toNanoseconds overflow clientTimeout)
    {now : ℕ → Time} {i : ℕ} (hnow : ∀ k e, examined[k]? = some e → now (i + k) = e.now) :
    (terminateLoop overflow clientTimeout now i (examined.map Examination.entry)).1 =
      kept examined := by
  induction examined generalizing i with
  | nil => rfl
  | cons e examined ih =>
    have hrest : ∀ k e', examined[k]? = some e' → now (i + 1 + k) = e'.now := by
      intro k e' he'
      rw [← hnow (k + 1) e' he']
      congr 1
      omega
    have hhead : now i = e.now := hnow 0 e rfl
    have hkept := ih (fun e' he' => h e' (List.mem_cons_of_mem e he')) hrest
    have herased := h e List.mem_cons_self
    simp only [List.map_cons, terminateLoop, hhead]
    cases he : e.erased with
    | true =>
      rw [if_pos (herased.mp he), hkept]
      simp [kept, he]
    | false =>
      rw [he] at herased
      rw [if_neg fun hlate => Bool.false_ne_true (herased.mpr hlate), hkept]
      simp [kept, he]

/-- A pass that has come to the end has done to the map what `terminateTimeoutClients` does. -/
theorem Ongoing.eq_terminateTimeoutClients {p : Pass}
    (h : Ongoing (toNanoseconds overflow clientTimeout) s p)
    (hend : s.sendersSessions.entries[p.it]? = none) :
    s.sendersSessions = (terminateTimeoutClients overflow p.found clientTimeout p.now).1 := by
  obtain ⟨hexamined, hentries⟩ := h.of_end hend
  have hnow : ∀ k e, p.examined[k]? = some e → p.now (0 + k) = e.now := by
    intro k e he
    simp [Pass.now, he]
  apply AList.ext
  change s.sendersSessions.entries =
    (terminateLoop overflow clientTimeout p.now 0 p.found.entries).1
  rw [hentries, ← hexamined, terminateLoop_examined h.erased_iff hnow]

/-- The last of the completed passes. -/
lemma lastStart_append_singleton (p : Pass) (pass : Option Pass) :
    lastStart { s with pass := pass, passes := s.passes ++ [p] } = some p.start := by
  simp [lastStart]

/-- Every step keeps the map in order. -/
theorem Inv.step (h : Inv (toNanoseconds overflow clientTimeout) s)
    (hs : Step overflow clientTimeout s l t) : Inv (toNanoseconds overflow clientTimeout) t := by
  obtain ⟨htime, hstart, hyoung, hongoing, hearly, honce⟩ := h
  cases hs with
  | tick now hnow =>
    refine ⟨htime, fun start hmem => (hstart start hmem).trans hnow, hyoung, fun p hp => ?_, hearly,
      honce⟩
    obtain ⟨hle, hit, hrest, hpyoung, hpearly, hperased⟩ := hongoing p hp
    exact ⟨hle.trans hnow, hit, hrest, hpyoung, hpearly, hperased⟩
  | registerStreamer sender now hfree hnow =>
    refine ⟨?_, fun start hmem => (hstart start hmem).trans hnow, ?_, ?_, hearly, honce⟩
    · intro r hr
      rcases mem_registerStreamer hr with rfl | ⟨hr, hcode⟩
      · simp
      · simpa [Function.update_of_ne hcode] using htime r hr
    · intro start hmem r hr
      rcases mem_registerStreamer hr with rfl | ⟨hr, -⟩
      · have hle := hstart start hmem
        have hnonneg := le_max_right (toNanoseconds overflow clientTimeout) 0
        change start - now ≤ max (toNanoseconds overflow clientTimeout) 0
        linarith
      · exact hyoung start hmem r hr
    · intro p hp
      simp [hfree] at hp
  | createBridgeWithStreamer receiver sessionCode hfree =>
    refine ⟨fun r hr => htime r (mem_createBridgeWithStreamer hr), hstart,
      fun start hmem r hr => hyoung start hmem r (mem_createBridgeWithStreamer hr), ?_, hearly,
      honce⟩
    intro p hp
    simp [hfree] at hp
  | passStarts hfree =>
    refine ⟨htime, hstart, hyoung, ?_, hearly, honce⟩
    intro p hp
    obtain rfl := Option.some.inj hp
    refine ⟨le_rfl, rfl, ⟨_, rfl, rfl⟩, ?_, ?_, ?_⟩
    · intro r hr
      exact absurd hr List.not_mem_nil
    · intro e he
      exact absurd he List.not_mem_nil
    · intro e he
      exact absurd he List.not_mem_nil
  | erases p entry now hpass hit hnow helapsed =>
    have hsub : (eraseAt s.sendersSessions p.it).entries.Sublist s.sendersSessions.entries :=
      List.eraseIdx_sublist ..
    refine ⟨fun r hr => htime r (hsub.subset hr), fun start hmem => (hstart start hmem).trans hnow,
      fun start hmem r hr => hyoung start hmem r (hsub.subset hr), ?_, hearly, honce⟩
    intro q hq
    obtain rfl := Option.some.inj hq
    have hregistered := htime entry (List.mem_of_getElem? hit)
    have hp := (hongoing p hpass).erases hit hnow hregistered helapsed
    exact ⟨hp.start_le, hp.it_eq, hp.rest, hp.young, hp.not_early, hp.erased_iff⟩
  | keeps p entry now hpass hit hnow helapsed =>
    refine ⟨htime, fun start hmem => (hstart start hmem).trans hnow, hyoung, ?_, hearly, honce⟩
    intro q hq
    obtain rfl := Option.some.inj hq
    have hp := (hongoing p hpass).keeps hit hnow helapsed
    exact ⟨hp.start_le, hp.it_eq, hp.rest, hp.young, hp.not_early, hp.erased_iff⟩
  | passEnds p hpass hend =>
    have hp := hongoing p hpass
    obtain ⟨hexamined, hentries⟩ := hp.of_end hend
    refine ⟨htime, ?_, ?_, ?_, ?_, ?_⟩
    · intro start hmem
      rw [lastStart_append_singleton, Option.mem_some_iff] at hmem
      exact hmem ▸ hp.start_le
    · intro start hmem r hr
      rw [lastStart_append_singleton, Option.mem_some_iff] at hmem
      rw [← hmem]
      exact (hp.young r (hentries ▸ hr)).trans (le_max_left _ _)
    · intro q hq
      cases hq
    · intro q hq
      rcases List.mem_append.mp hq with hq | hq
      · exact hearly q hq
      · exact List.mem_singleton.mp hq ▸ hp.not_early
    · intro q hq
      rcases List.mem_append.mp hq with hq | hq
      · exact honce q hq
      · rw [List.mem_singleton.mp hq]
        exact ⟨hexamined, p.found.nodupKeys.nodup⟩

/-- The map is in order in every run. -/
theorem inv_of_run {sendersSessions : Registry} {clock : Time}
    (hrun : Transition.Run (Step overflow clientTimeout) (started sendersSessions clock) ls t) :
    Inv (toNanoseconds overflow clientTimeout) t :=
  hrun.invariant (inv_started sendersSessions clock) fun _ _ _ h hs => h.step hs

/-- Passes erase no entry early, examine every entry once, and leave none that is older than the
timeout and the time since the last completed pass began. -/
theorem timely_of_run (hfits : FitsNanoseconds clientTimeout) {sendersSessions : Registry}
    {clock : Time}
    (hrun : Transition.Run (Step overflow clientTimeout) (started sendersSessions clock) ls t) :
    Timely clientTimeout t := by
  have h := inv_of_run hrun
  rw [toNanoseconds_of_fits hfits] at h
  refine ⟨?_, h.examined_once, ?_⟩
  · intro p hp
    rcases List.mem_append.mp hp with hp | hp
    · exact h.not_early p hp
    · exact (h.ongoing p (Option.mem_toList.mp hp)).not_early
  · intro start hmem r hr
    have hyoung := h.young start hmem r hr
    rw [h.timePoint_eq r hr] at hyoung
    unfold age
    linarith

/-- A platform on which multiplication wraps around. -/
def wrapsAround : DurationOverflow := fun duration => Int64.ofInt (duration.toInt * 1000000000)

/-- A pass over two streamers, in seconds, erases the one that has waited for more than two. -/
theorem timely_of_run_erases :
    ∃ ls t, Transition.Run (Step wrapsAround 2)
        (started (((∅ : Registry).insert [2] ⟨2, 3000000000⟩).insert [1] ⟨1, 0⟩) 3000000000) ls t ∧
      t.sendersSessions.entries = [⟨[2], ⟨2, 3000000000⟩⟩] ∧ t.lastStart = some 3000000000 ∧
      Timely 2 t := by
  have hrun : ∃ ls t, Transition.Run (Step wrapsAround 2)
        (started (((∅ : Registry).insert [2] ⟨2, 3000000000⟩).insert [1] ⟨1, 0⟩) 3000000000) ls t ∧
        t.sendersSessions.entries = [⟨[2], ⟨2, 3000000000⟩⟩] ∧ t.lastStart = some 3000000000 :=
    ⟨_, _, .cons (.passStarts rfl) <|
      .cons (.erases _ _ 3000000000 rfl rfl le_rfl (by decide +kernel)) <|
      .cons (.keeps _ _ 5000000000 rfl rfl (by decide) (by decide +kernel)) <|
      .single (.passEnds _ rfl rfl), rfl, rfl⟩
  obtain ⟨ls, t, hrun, hentries, hstart⟩ := hrun
  exact ⟨ls, t, hrun, hentries, hstart, timely_of_run (by decide +kernel) hrun⟩

/-- With a negative timeout, a streamer that has just been registered is older than the timeout and
the time since the last completed pass began. -/
lemma leaks_of_negative :
    ∃ ls t, Transition.Run (Step wrapsAround (-5)) (started ∅ 0) ls t ∧ t.lastStart = some 0 ∧
      ∃ r ∈ t.sendersSessions.entries,
        ¬ t.age r.1 ≤ (-5 : Seconds).toInt * 1000000000 + (t.clock - 0) := by
  refine ⟨_, _, .cons (.passStarts rfl) <| .cons (.passEnds _ rfl rfl) <|
    .single (.registerStreamer 7 1 rfl (by decide)), rfl, ⟨sessionId, ⟨7, 1⟩⟩, ?_, ?_⟩
  · simp [registerStreamer, started]
  · have hfive : (-5 : Seconds).toInt = -5 := by decide
    simp [age, started, hfive]

/-- With a timeout of `9223372037` seconds, whose nanoseconds do not fit, a pass erases a streamer
that was registered a nanosecond ago. -/
lemma early_of_overflow :
    ∃ ls t, Transition.Run (Step wrapsAround 9223372037) (started ∅ 0) ls t ∧
      ∃ p ∈ t.passes, ∃ e ∈ p.examined, e.registered = 0 ∧ e.now = 1 ∧ e.erased = true := by
  refine ⟨_, _, .cons (.registerStreamer 7 0 rfl le_rfl) <| .cons (.passStarts rfl) <|
    .cons (.erases _ ⟨sessionId, ⟨7, 0⟩⟩ 1 rfl rfl (by decide) (by decide +kernel)) <|
    .single (.passEnds _ rfl rfl), _, List.mem_append_right _ (List.mem_singleton_self _), _,
    List.mem_singleton_self _, ?_, rfl, rfl⟩
  simp [started]

/-- Not every timeout is kept to: a negative one is no bound on the ages, and one whose nanoseconds
do not fit makes a pass erase an entry early. -/
theorem not_timely_of_every_timeout :
    (∃ ls t, Transition.Run (Step wrapsAround (-5)) (started ∅ 0) ls t ∧ t.lastStart = some 0 ∧
      ∃ r ∈ t.sendersSessions.entries,
        ¬ t.age r.1 ≤ (-5 : Seconds).toInt * 1000000000 + (t.clock - 0)) ∧
    ∃ ls t, Transition.Run (Step wrapsAround 9223372037) (started ∅ 0) ls t ∧
      ∃ p ∈ t.passes, ¬ p.NotEarly ((9223372037 : Seconds).toInt * 1000000000) := by
  refine ⟨leaks_of_negative, ?_⟩
  obtain ⟨ls, t, hrun, p, hp, e, he, hregistered, hnow, herased⟩ := early_of_overflow
  refine ⟨ls, t, hrun, p, hp, fun hnotEarly => ?_⟩
  have hlate := hnotEarly e he herased
  rw [hregistered, hnow] at hlate
  exact absurd hlate (by decide +kernel)

end Timed

end ServerSessionsManager

end ScreenViewer
