import Mathlib
import ScreenViewer.Bridge

/-!
# Closing a bridge

`close` is to shut down and close each socket that is still open.  In its second block, which is
about `peer_two`, it shuts down `peer_one` once more, and `peer_one` is closed by then: whenever
`peer_two` is open, the call throws and leaves it open.  `tearsDown_iff` lists what is left:
`peer_two` must be closed already, and `peer_one` must not have lost its connection.
-/

namespace ScreenViewer

namespace Bridge

namespace State

/-- The state after calls of `close` because of `causes`, oldest first. -/
def closeAll (s : State) (causes : List CloseCause) : State := causes.foldl close s

/-- Closing the bridge works, however often `close` is called. -/
structure TearsDown (s : State) : Prop where
  /-- Every call returns. -/
  returns : ∀ causes cause, ((s.closeAll causes).close cause).escaped = none
  /-- From the first call on both sockets are closed. -/
  closed : ∀ cause causes p,
    (((s.close cause).closeAll causes).peer p).connectivity = .closed
  /-- Further calls change neither socket. -/
  unchanged : ∀ cause causes p, ((s.close cause).closeAll causes).peer p = (s.close cause).peer p
  /-- No exception escapes from a handler. -/
  handlers : s.escaped = none → ∀ h result ec, (s.handle h result ec).escaped = none

variable (s : State)

/-- What a call of `close` does when both blocks can be passed. -/
lemma close_of_closed (hone : (s.peer .one).connectivity ≠ .disconnected)
    (htwo : (s.peer .two).connectivity = .closed) (cause : CloseCause) :
    (s.close cause).escaped = none ∧ (s.close cause).peer .one = (s.peer .one).close ∧
      (s.close cause).peer .two = s.peer .two := by
  have htwo' : (s.peer .two).isOpen = false := by simp [Socket.isOpen, htwo]
  have hclose : closePeers (s.peer .one) (s.peer .two) =
      (((s.peer .one).close, s.peer .two), none) := by
    unfold closePeers
    cases hc : (s.peer .one).connectivity with
    | connected => simp [Socket.isOpen, Socket.shutdown, hc, htwo, Except.map]
    | disconnected => exact absurd hc hone
    | closed =>
      have hsame : (s.peer .one).close = s.peer .one := by rw [Socket.close, ← hc]
      simp [Socket.isOpen, hc, htwo, hsame]
  simp [close, hclose]

/-- Calls of `close` on two closed sockets change nothing. -/
lemma closeAll_peer_of_closed (h : ∀ p, (s.peer p).connectivity = .closed)
    (causes : List CloseCause) (p : Peer) : (s.closeAll causes).peer p = s.peer p := by
  induction causes generalizing s with
  | nil => rfl
  | cons cause causes ih =>
    obtain ⟨-, hone, htwo⟩ := s.close_of_closed (by simp [h]) (h .two) cause
    have hpeer : ∀ q, (s.close cause).peer q = s.peer q := by
      intro q
      cases q with
      | one => rw [hone, Socket.close, ← h .one]
      | two => exact htwo
    exact (ih (s.close cause) fun q => by rw [hpeer, h]).trans (hpeer p)

/-- A call of `close` fails when `peer_one` has lost its connection or `peer_two` is open. -/
lemma escaped_close (h : (s.peer .one).connectivity = .disconnected ∨
    (s.peer .two).connectivity ≠ .closed) (cause : CloseCause) :
    (s.close cause).escaped ≠ none := by
  have hclose : (closePeers (s.peer .one) (s.peer .two)).2 ≠ none := by
    unfold closePeers Socket.shutdown Socket.isOpen
    cases hone : (s.peer .one).connectivity <;> cases htwo : (s.peer .two).connectivity <;>
      simp_all [Except.map, Socket.close]
  exact hclose

/-- Only `close` makes an exception escape from a handler. -/
lemma escaped_handle (hesc : s.escaped = none)
    (hclose : ∀ (t : State) cause, (∀ p, (t.peer p).connectivity = (s.peer p).connectivity) →
      (t.close cause).escaped = none)
    (h : ReadHandler) (result : Except ReadEnd ℕ) (ec : WriteResult) :
    (s.handle h result ec).escaped = none := by
  match result, ec with
  | .ok n, .ok =>
    rw [handle_ok]
    exact hesc
  | .ok n, .failed k =>
    rw [handle_failed]
    exact hclose _ _ fun p => by rw [write_peer]
  | .error .eof, _ =>
    rw [handle_eof]
    exact hclose _ _ fun _ => rfl
  | .error .error, _ =>
    rw [handle_error]
    exact hclose _ _ fun _ => rfl

/-- A bridge can be closed exactly if `peer_one` has not lost its connection and `peer_two` is
closed already. -/
theorem tearsDown_iff :
    s.TearsDown ↔
      (s.peer .one).connectivity ≠ .disconnected ∧ (s.peer .two).connectivity = .closed := by
  constructor
  · intro h
    by_contra hnot
    refine s.escaped_close ?_ (.readEnded .handleUpstreamRead) (h.returns [] _)
    by_cases hone : (s.peer .one).connectivity = .disconnected
    · exact Or.inl hone
    · exact Or.inr fun htwo => hnot ⟨hone, htwo⟩
  · rintro ⟨hone, htwo⟩
    have hclosed : ∀ cause p, ((s.close cause).peer p).connectivity = .closed := by
      intro cause p
      obtain ⟨-, h₁, h₂⟩ := s.close_of_closed hone htwo cause
      cases p with
      | one => rw [h₁, Socket.close]
      | two => rw [h₂, htwo]
    have hunchanged := fun cause => (s.close cause).closeAll_peer_of_closed (hclosed cause)
    refine ⟨fun causes cause => ?_, fun cause causes p => ?_, hunchanged, fun hesc => ?_⟩
    · cases causes with
      | nil => exact (s.close_of_closed hone htwo cause).1
      | cons first causes =>
        refine (close_of_closed _ ?_ ?_ cause).1
        · rw [closeAll, List.foldl_cons, ← closeAll, hunchanged, hclosed]
          exact nofun
        · rw [closeAll, List.foldl_cons, ← closeAll, hunchanged, hclosed]
    · rw [hunchanged, hclosed]
    · refine s.escaped_handle hesc fun t cause ht => (t.close_of_closed ?_ ?_ cause).1
      · rw [ht]
        exact hone
      · rw [ht]
        exact htwo

/-- A bridge between two connected peers cannot be closed. -/
theorem not_tearsDown_connected : ¬ (started .accepted .accepted).TearsDown :=
  fun h => (started .accepted .accepted).escaped_close (Or.inr (by decide))
    (.readEnded .handleUpstreamRead) (h.returns [] _)

end State

end Bridge

end ScreenViewer
