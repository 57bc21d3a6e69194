import Mathlib
import ScreenViewer.ClientSocket

/-!
# The requests of a client

What a `ClientSocket` does for its caller: it logs in, registers as a streamer, asks for a streamer,
and waits for the message that starts the stream.  `Call` is what such a function does with what the
client has still to read and with what it has written, until it returns or throws.

`waitForStartStreamMessage` reads messages until its time is up or the right one comes, and throws
them away.  What it returns, and what it leaves unread, is told by the frames in front of it and by
the clock (`waitForStartStreamMessage_spec`).
-/

namespace ScreenViewer

open SocketBase

namespace ClientSocket

/-- What a client's function throws. -/
inductive CallError
  | client (e : ClientError)
  | screenViewerBaseException (what : Bytes)
  deriving DecidableEq

/-- A client: what it has still to read, and what it has written. -/
structure Client where
  inbound : Inbound
  written : Bytes

/-- What a function of a client does. -/
abbrev Call := EStateM CallError Client

section Calls

variable [SizeLayout]

namespace Call

/-- `send`. -/
def send (message : Message) : Call Unit :=
  modify fun k => { k with written := k.written ++ SocketBase.send message }

/-- A function that reads. -/
def reading {α : Type} (f : Inbound → Except ClientError (α × Inbound)) : Call α := fun k =>
  match f k.inbound with
  | .error e => .error (.client e) k
  | .ok (a, inbound) => .ok a { k with inbound }

/-- `receive`. -/
def receive : Call Message := reading fun s => (SocketBase.receive s).mapError .read

/-- `receiveToBuffer`. -/
def receiveToBuffer : Call Message :=
  reading fun s => (SocketBase.receiveToBuffer s).mapError .read

/-- `receiveACK`. -/
def receiveACK : Call Unit := reading fun s => (ClientSocket.receiveACK s).map fun s' => ((), s')

/-- `login`. -/
def login [JsonLibrary] (email password : Bytes) : Call Unit := do
  match content email password with
  | .error what => throw (.client (.json what))
  | .ok content =>
    send { type := .login, content := content }
    receiveACK

/-- `findOtherClient`. -/
def findOtherClient (id : Bytes) : Call Bool := do
  send { type := .findStreamer, content := id }
  let message ← receiveToBuffer
  return message.type = .ack

/-- `requestStreamerID`. -/
def requestStreamerID : Call Bytes := do
  send { type := .registerStreamer, content := [] }
  let response ← receive
  if response.type = .id then
    return response.content
  else
    throw (.screenViewerBaseException (Bytes.ofString
      s!"Could not register stream. Response type: {response.type.toStr}"))

end Call

/-! ## Waiting for the stream to start -/

/-- `duration_cast<seconds>`: the fraction is cut off. -/
def toSeconds (duration : Time) : ℤ := Int.tdiv duration 1000000000

/-- The condition of the loop of `waitForStartStreamMessage`. -/
def InTime (start : Time) (timeout : Seconds) (now : Time) : Prop :=
  toSeconds (now - start) < timeout.toInt

instance (start : Time) (timeout : Seconds) (now : Time) : Decidable (InTime start timeout now) :=
  inferInstanceAs (Decidable (_ < _))

/-- The loop of `waitForStartStreamMessage`, where `now i` is the time read in iteration `i`. -/
def waitLoop (start : Time) (timeout : Seconds) (now : ℕ → Time) (i : ℕ) (s : Inbound) :
    Except ReadError (Bool × Inbound) :=
  if InTime start timeout (now i) then
    match h : SocketBase.receiveToBuffer s with
    | .error e => .error e
    | .ok (message, s') =>
      have := (frameCodec bufferSize).length_lt_of_decode (receiveToBufferReader.of_ok h)
      if message.type = .startStream then .ok (true, s')
      else waitLoop start timeout now (i + 1) s'
  else .ok (false, s)
termination_by s.bytes.length

/-- `waitForStartStreamMessage`; `start` is the first time read, `now i` the time read in iteration
`i` of the loop. -/
def waitForStartStreamMessage (timeout : Seconds) (start : Time) (now : ℕ → Time) (s : Inbound) :
    Except ReadError (Bool × Inbound) :=
  waitLoop start timeout now 0 s

/-- The default timeout: the largest number of seconds. -/
def defaultTimeout : Seconds := Int64.maxValue

omit [SizeLayout] in
/-- No two readings of the clock are as far apart as the default timeout. -/
lemma inTime_defaultTimeout (start now : Int64) :
    InTime start.toInt defaultTimeout now.toInt := by
  have h₁ := start.le_toInt
  have h₂ := start.toInt_lt
  have h₃ := now.le_toInt
  have h₄ := now.toInt_lt
  have hle : toSeconds (now.toInt - start.toInt) ≤ 2 ^ 63 - 2 := by
    have h : (toSeconds (now.toInt - start.toInt)).natAbs =
        (now.toInt - start.toInt).natAbs / 1000000000 := Int.natAbs_tdiv _ 1000000000
    omega
  have hmax : defaultTimeout.toInt = 2 ^ 63 - 1 := by decide
  unfold InTime
  omega

/-- Messages at the front of a stream that are thrown away. -/
structure Skipped (before : List Message) (s t : Bytes) : Prop where
  eq : s = (frameCodec bufferSize).encodeAll before ++ t
  accepts : ∀ message ∈ before, (frameCodec bufferSize).Accepts message
  types : ∀ message ∈ before, message.type ≠ .startStream

variable {start : Time} {timeout : Seconds} {now : ℕ → Time}

/-- One more message is thrown away. -/
lemma Skipped.cons {message : Message} {before : List Message} {s s' t : Bytes}
    (hdecode : (frameCodec bufferSize).decode s = some (message, s'))
    (htype : message.type ≠ .startStream) (h : Skipped before s' t) :
    Skipped (message :: before) s t := by
  obtain ⟨haccepts, rfl⟩ := (frameCodec bufferSize).of_decode _ _ _ hdecode
  refine ⟨?_, ?_, ?_⟩
  · rw [h.eq, Framing.Codec.encodeAll_cons, List.append_assoc]
  · exact List.forall_mem_cons.mpr ⟨haccepts, h.accepts⟩
  · exact List.forall_mem_cons.mpr ⟨htype, h.types⟩

/-- The loop goes on behind the messages that it throws away. -/
lemma waitLoop_of_skipped {before : List Message} {t : Bytes} (i : ℕ) {s : Inbound}
    (h : Skipped before s.bytes t)
    (htime : ∀ j < before.length, InTime start timeout (now (i + j))) :
    ∃ s', s'.bytes = t ∧
      waitLoop start timeout now i s = waitLoop start timeout now (i + before.length) s' := by
  induction before generalizing i s with
  | nil => exact ⟨s, h.eq, rfl⟩
  | cons message before ih =>
    obtain ⟨haccepts, haccepts'⟩ := List.forall_mem_cons.mp h.accepts
    obtain ⟨htype, htypes⟩ := List.forall_mem_cons.mp h.types
    have hdecode : (frameCodec bufferSize).decode (receiveToBufferReader.bytes s) =
        some (message, (frameCodec bufferSize).encodeAll before ++ t) := by
      change (frameCodec bufferSize).decode s.bytes = _
      rw [h.eq, Framing.Codec.encodeAll_cons, List.append_assoc]
      exact (frameCodec bufferSize).decode_encode message haccepts _
    obtain ⟨s₁, hread, hs₁⟩ := receiveToBufferReader.read_of_decode hdecode
    have hread' : SocketBase.receiveToBuffer s = .ok (message, s₁) := hread
    obtain ⟨s', hs', heq⟩ := ih (i + 1) (s := s₁) ⟨hs₁, haccepts', htypes⟩ fun j hj => by
      have := htime (j + 1) (by simpa using hj)
      rwa [show i + 1 + j = i + (j + 1) by omega]
    refine ⟨s', hs', ?_⟩
    rw [waitLoop, if_pos (by simpa using htime 0 (by simp))]
    split
    · rename_i heq'
      rw [hread'] at heq'
      cases heq'
    · rename_i heq'
      rw [hread'] at heq'
      cases heq'
      rw [if_neg htype, heq, List.length_cons]
      congr 1
      omega

/-- What the result of the loop says of the stream and of the clock. -/
def Waited (start : Time) (timeout : Seconds) (now : ℕ → Time) (s : Bytes) :
    Except ReadError (Bool × Bytes) → Prop
  | .ok (true, t) => ∃ before message, message.type = .startStream ∧
      (frameCodec bufferSize).Accepts message ∧
      Skipped before s ((frameCodec bufferSize).encode message ++ t) ∧
      ∀ i ≤ before.length, InTime start timeout (now i)
  | .ok (false, t) => ∃ before, Skipped before s t ∧
      (∀ i < before.length, InTime start timeout (now i)) ∧
      ¬ InTime start timeout (now before.length)
  | .error e => ∃ before t, Skipped before s t ∧ (frameCodec bufferSize).decode t = none ∧
      e = stopAt bufferSize t ∧ ∀ i ≤ before.length, InTime start timeout (now i)

/-- The result of the loop, with what is left unread. -/
def outcome (r : Except ReadError (Bool × Inbound)) : Except ReadError (Bool × Bytes) :=
  r.map fun r => (r.1, r.2.bytes)

/-- One more message before everything else. -/
lemma Waited.cons {message : Message} {s s' : Bytes} {r : Except ReadError (Bool × Bytes)}
    (hdecode : (frameCodec bufferSize).decode s = some (message, s'))
    (htype : message.type ≠ .startStream) (htime : InTime start timeout (now 0))
    (h : Waited start timeout (fun i => now (i + 1)) s' r) : Waited start timeout now s r := by
  have hle : ∀ {n : ℕ}, (∀ i ≤ n, InTime start timeout (now (i + 1))) →
      ∀ i ≤ n + 1, InTime start timeout (now i) := by
    intro n hn i hi
    cases i with
    | zero => exact htime
    | succ i => exact hn i (by omega)
  match r, h with
  | .ok (true, t), ⟨before, m, hm, haccepts, hskipped, hnow⟩ =>
    exact ⟨message :: before, m, hm, haccepts, hskipped.cons hdecode htype, hle hnow⟩
  | .ok (false, t), ⟨before, hskipped, hnow, hlate⟩ =>
    refine ⟨message :: before, hskipped.cons hdecode htype, fun i hi => ?_, hlate⟩
    cases i with
    | zero => exact htime
    | succ i => exact hnow i (by simpa using hi)
  | .error e, ⟨before, t, hskipped, hnone, he, hnow⟩ =>
    exact ⟨message :: before, t, hskipped.cons hdecode htype, hnone, he, hle hnow⟩

/-- The loop does what its result says. -/
lemma waited_waitLoop (i : ℕ) (s : Inbound) :
    Waited start timeout (fun j => now (i + j)) s.bytes
      (outcome (waitLoop start timeout now i s)) := by
  have hnil : ∀ t : Bytes, Skipped [] t t := fun t => ⟨rfl, by simp, by simp⟩
  induction i, s using waitLoop.induct start timeout now with
  | case1 i s htime e h =>
    have hresult : waitLoop start timeout now i s = .error e := by
      rw [waitLoop, if_pos htime]
      split <;> simp_all
    rw [hresult]
    obtain ⟨hnone, he⟩ := receiveToBufferReader.of_error h
    refine ⟨[], s.bytes, hnil _, hnone, he, fun j hj => ?_⟩
    obtain rfl : j = 0 := Nat.le_zero.mp hj
    exact htime
  | case2 i s htime message s' h _ htype =>
    have hresult : waitLoop start timeout now i s = .ok (true, s') := by
      rw [waitLoop, if_pos htime]
      split <;> simp_all
    rw [hresult]
    obtain ⟨haccepts, heq⟩ :=
      (frameCodec bufferSize).of_decode _ _ _ (receiveToBufferReader.of_ok h)
    refine ⟨[], message, htype, haccepts, ⟨heq, by simp, by simp⟩, fun j hj => ?_⟩
    obtain rfl : j = 0 := Nat.le_zero.mp hj
    exact htime
  | case3 i s htime message s' h _ htype ih =>
    have hresult : waitLoop start timeout now i s = waitLoop start timeout now (i + 1) s' := by
      rw [waitLoop, if_pos htime]
      split <;> simp_all
    rw [hresult]
    have hshift : (fun j => now (i + 1 + j)) = fun j => now (i + (j + 1)) := by
      funext j
      rw [Nat.add_right_comm, Nat.add_assoc]
    rw [hshift] at ih
    exact Waited.cons (receiveToBufferReader.of_ok h) htype htime ih
  | case4 i s htime =>
    have hresult : waitLoop start timeout now i s = .ok (false, s) := by
      rw [waitLoop, if_neg htime]
    rw [hresult]
    exact ⟨[], hnil _, by simp, htime⟩

/-- What the loop's result is told by. -/
lemma outcome_of_waited {s : Inbound} {r : Except ReadError (Bool × Bytes)}
    (h : Waited start timeout now s.bytes r) : outcome (waitLoop start timeout now 0 s) = r := by
  match r, h with
  | .ok (true, t), ⟨before, message, htype, haccepts, hskipped, htime⟩ =>
    obtain ⟨s', hs', heq⟩ := waitLoop_of_skipped 0 hskipped fun j hj => by
      simpa using htime j hj.le
    have hdecode : (frameCodec bufferSize).decode (receiveToBufferReader.bytes s') =
        some (message, t) := by
      change (frameCodec bufferSize).decode s'.bytes = _
      rw [hs']
      exact (frameCodec bufferSize).decode_encode message haccepts t
    obtain ⟨s'', hread, hs''⟩ := receiveToBufferReader.read_of_decode hdecode
    have hread' : SocketBase.receiveToBuffer s' = .ok (message, s'') := hread
    rw [heq, waitLoop, if_pos (by simpa using htime _ le_rfl)]
    split
    · simp_all
    · rename_i heq'
      rw [hread'] at heq'
      cases heq'
      rw [if_pos htype]
      exact congrArg (fun b => Except.ok (true, b)) hs''
  | .ok (false, t), ⟨before, hskipped, htime, hlate⟩ =>
    obtain ⟨s', hs', heq⟩ := waitLoop_of_skipped 0 hskipped fun j hj => by
      simpa using htime j hj
    rw [heq, waitLoop, if_neg (by simpa using hlate)]
    exact congrArg (fun b => Except.ok (false, b)) hs'
  | .error e, ⟨before, t, hskipped, hnone, he, htime⟩ =>
    obtain ⟨s', hs', heq⟩ := waitLoop_of_skipped 0 hskipped fun j hj => by
      simpa using htime j hj.le
    rw [heq, waitLoop, if_pos (by simpa using htime _ le_rfl)]
    split
    · rename_i heq'
      obtain ⟨-, he'⟩ := receiveToBufferReader.of_error heq'
      rw [he, he', ← hs']
      rfl
    · rename_i heq'
      have hdecode := receiveToBufferReader.of_ok heq'
      change (frameCodec bufferSize).decode s'.bytes = _ at hdecode
      rw [hs', hnone] at hdecode
      cases hdecode

/-- What waiting returns and leaves unread is told by the frames in front of the client and by the
clock: it returns true at the first message that starts the stream, if its time is not up before,
false as soon as it is, and it throws where the frames end. -/
theorem waitForStartStreamMessage_spec (timeout : Seconds) (start : Time) (now : ℕ → Time)
    (s : Inbound) (r : Except ReadError (Bool × Bytes)) :
    outcome (waitForStartStreamMessage timeout start now s) = r ↔
      Waited start timeout now s.bytes r := by
  constructor
  · rintro rfl
    have h : Waited start timeout (fun j => now (0 + j)) s.bytes _ := waited_waitLoop 0 s
    simp only [Nat.zero_add] at h
    exact h
  · exact outcome_of_waited

/-! ## Reading what has arrived so far -/

/-- A frame that has not arrived completely is waited for. -/
lemma stopAt_of_prefix {message : Message} (h : (frameCodec bufferSize).Accepts message) {s : Bytes}
    (hs : s <+: (frameCodec bufferSize).encode message) : stopAt bufferSize s = .endOfStream := by
  unfold stopAt
  split
  · rfl
  · rename_i hlen
    have htake : s.take MessageHeader.size = (headerOf message).serialize := by
      obtain ⟨t, ht⟩ := hs
      have hfront : (s ++ t).take MessageHeader.size = (headerOf message).serialize := by
        rw [ht, frameCodec_encode, sendChunk]
        exact List.take_left' (MessageHeader.length_serialize _)
      rwa [List.take_append_of_le_length (not_lt.mp hlen)] at hfront
    have hsize : (headerOf message).messageSize.toNat ≤ bufferSize :=
      (toNat_messageSize_headerOf h.2).trans_le h.1
    rw [htake, MessageHeader.deserialize_serialize hsize]

/-- A reader reads the next frame as soon as it has arrived, and waits for it before. -/
lemma read_of_prefix (R : Framing.Reader (frameCodec bufferSize) (stopAt bufferSize) Inbound)
    {s : Inbound} {message : Message} (haccepts : (frameCodec bufferSize).Accepts message)
    {rest : Bytes} (h : R.bytes s <+: (frameCodec bufferSize).encode message ++ rest) :
    (∃ s', R.read s = .ok (message, s') ∧
        R.bytes s = (frameCodec bufferSize).encode message ++ R.bytes s') ∨
      R.read s = .error .endOfStream := by
  rcases (frameCodec bufferSize).decode_cases haccepts h with ⟨t, hdecode, -⟩ | ⟨hnone, hs⟩
  · obtain ⟨s', hread, -⟩ := R.read_of_decode hdecode
    exact Or.inl ⟨s', hread, ((frameCodec bufferSize).of_decode _ _ _ (R.of_ok hread)).2⟩
  · cases hread : R.read s with
    | error e => exact Or.inr (by rw [(R.of_error hread).2, stopAt_of_prefix haccepts hs])
    | ok r =>
      have hdecode := R.of_ok hread
      rw [hnone] at hdecode
      cases hdecode

namespace Call

variable {k : Client} {message : Message} {t : Bytes}

/-- The client waits for what it reads. -/
abbrev Blocked {α : Type} (p : Call α) (k k' : Client) : Prop :=
  p.run k = .error (.client (.read .endOfStream)) k'

/-- The client has read a message, and `inbound` is what it has still to read. -/
def Arrived (k : Client) (message : Message) (inbound : Inbound) : Prop :=
  k.inbound.bytes = (frameCodec bufferSize).encode message ++ inbound.bytes

/-- Behind a message that has arrived, the stream goes on. -/
lemma Arrived.goesOn {inbound : Inbound} (h : Arrived k message inbound)
    (hk : k.inbound.bytes <+: (frameCodec bufferSize).encode message ++ t) :
    inbound.bytes <+: t := by
  rw [show k.inbound.bytes = _ from h] at hk
  exact (List.prefix_append_right_inj _).mp hk

/-- `receive` gets the next message or waits for it. -/
lemma receive_of_prefix (haccepts : (frameCodec bufferSize).Accepts message)
    (h : k.inbound.bytes <+: (frameCodec bufferSize).encode message ++ t) :
    (∃ inbound, receive.run k = .ok message { k with inbound } ∧
        Arrived k message inbound) ∨
      receive.Blocked k k := by
  rcases read_of_prefix receiveReader haccepts h with ⟨s', hread, hs'⟩ | hread
  · have hread' : SocketBase.receive k.inbound = .ok (message, s') := hread
    exact Or.inl ⟨s', by simp [receive, reading, EStateM.run, hread', Except.mapError], hs'⟩
  · have hread' : SocketBase.receive k.inbound = .error .endOfStream := hread
    exact Or.inr (by simp [Blocked, receive, reading, EStateM.run, hread', Except.mapError])

/-- `receiveToBuffer` gets the next message or waits for it. -/
lemma receiveToBuffer_of_prefix (haccepts : (frameCodec bufferSize).Accepts message)
    (h : k.inbound.bytes <+: (frameCodec bufferSize).encode message ++ t) :
    (∃ inbound, receiveToBuffer.run k = .ok message { k with inbound } ∧
        Arrived k message inbound) ∨
      receiveToBuffer.Blocked k k := by
  rcases read_of_prefix receiveToBufferReader haccepts h with ⟨s', hread, hs'⟩ | hread
  · have hread' : SocketBase.receiveToBuffer k.inbound = .ok (message, s') := hread
    exact Or.inl ⟨s', by simp [receiveToBuffer, reading, EStateM.run, hread', Except.mapError], hs'⟩
  · have hread' : SocketBase.receiveToBuffer k.inbound = .error .endOfStream := hread
    exact Or.inr (by
      simp [Blocked, receiveToBuffer, reading, EStateM.run, hread', Except.mapError])

/-- `receiveACK` returns when an `ACK` comes, throws when another message comes, and waits
before. -/
lemma receiveACK_of_prefix (haccepts : (frameCodec bufferSize).Accepts message)
    (h : k.inbound.bytes <+: (frameCodec bufferSize).encode message ++ t) :
    (message.type = .ack ∧ ∃ inbound, receiveACK.run k = .ok () { k with inbound } ∧
      Arrived k message inbound) ∨
    (message.type ≠ .ack ∧ ∃ what, receiveACK.run k = .error (.client (.socketException what)) k) ∨
      receiveACK.Blocked k k := by
  rcases read_of_prefix receiveToBufferReader haccepts h with ⟨s', hread, hs'⟩ | hread
  · have hread' : SocketBase.receiveToBuffer k.inbound = .ok (message, s') := hread
    by_cases hack : message.type = .ack
    · exact Or.inl ⟨hack, s',
        by simp [receiveACK, ClientSocket.receiveACK, reading, EStateM.run, hread', hack,
          Except.map],
        hs'⟩
    · refine Or.inr (Or.inl ⟨hack, ?_⟩)
      simp [receiveACK, ClientSocket.receiveACK, reading, EStateM.run, hread', hack, Except.map]
  · have hread' : SocketBase.receiveToBuffer k.inbound = .error .endOfStream := hread
    exact Or.inr (Or.inr (by
      simp [Blocked, receiveACK, ClientSocket.receiveACK, reading, EStateM.run, hread',
        Except.map]))

/-- When `receiveACK` returns, an `ACK` has arrived. -/
lemma exists_arrived_of_receiveACK {k' : Client} (h : receiveACK.run k = .ok () k') :
    ∃ message : Message, message.type = .ack ∧ Arrived k message k'.inbound := by
  cases hread : SocketBase.receiveToBuffer k.inbound with
  | error e =>
    simp [receiveACK, ClientSocket.receiveACK, reading, EStateM.run, hread, Except.map] at h
  | ok r =>
    obtain ⟨message, s'⟩ := r
    by_cases hack : message.type = .ack
    · simp only [receiveACK, ClientSocket.receiveACK, reading, EStateM.run, hread, hack,
        Except.map, ne_eq, not_true_eq_false, if_false, EStateM.Result.ok.injEq, true_and] at h
      subst h
      exact ⟨message, hack,
        ((frameCodec bufferSize).of_decode _ _ _ (receiveToBufferReader.of_ok hread)).2⟩
    · simp [receiveACK, ClientSocket.receiveACK, reading, EStateM.run, hread, hack,
        Except.map] at h

omit [SizeLayout] in
/-- A call goes on with what the first one returns. -/
lemma run_bind_ok {α β : Type} {p : Call α} {f : α → Call β} {k k' : Client} {a : α}
    (h : p.run k = .ok a k') : (p >>= f).run k = (f a).run k' := by
  have h' : p k = .ok a k' := h
  simp [EStateM.run, bind, EStateM.bind, h']

omit [SizeLayout] in
/-- A call ends where the first one throws. -/
lemma run_bind_error {α β : Type} {p : Call α} {f : α → Call β} {k k' : Client} {e : CallError}
    (h : p.run k = .error e k') : (p >>= f).run k = .error e k' := by
  have h' : p k = .error e k' := h
  simp [EStateM.run, bind, EStateM.bind, h']

/-- The client after it has written a message. -/
def wrote (k : Client) (message : Message) : Client :=
  { k with written := k.written ++ SocketBase.send message }

/-- Sending writes. -/
lemma run_send_bind {α : Type} (message : Message) (f : Unit → Call α) (k : Client) :
    (send message >>= f).run k = (f ()).run (wrote k message) :=
  run_bind_ok rfl

/-- With credentials that can be written, logging in is writing them and waiting for the `ACK`. -/
lemma run_login [JsonLibrary] {email password text : Bytes}
    (hcontent : content email password = .ok text) (k : Client) :
    (login email password).run k =
      receiveACK.run (wrote k { type := .login, content := text }) := by
  rw [login, hcontent]
  exact run_send_bind _ _ k

/-- Without them, nothing is written. -/
lemma run_login_error [JsonLibrary] {email password what : Bytes}
    (hcontent : content email password = .error what) (k : Client) :
    (login email password).run k = .error (.client (.json what)) k := by
  rw [login, hcontent]
  rfl

/-- `login` returns when an `ACK` comes, throws when another message comes, and waits before. -/
lemma login_of_prefix [JsonLibrary] {email password text : Bytes}
    (hcontent : content email password = .ok text)
    (haccepts : (frameCodec bufferSize).Accepts message)
    (h : k.inbound.bytes <+: (frameCodec bufferSize).encode message ++ t) :
    (message.type = .ack ∧ ∃ inbound, (login email password).run k =
        .ok () { wrote k { type := .login, content := text } with inbound } ∧
      Arrived k message inbound) ∨
    (message.type ≠ .ack ∧ ∃ what, (login email password).run k =
      .error (.client (.socketException what)) (wrote k { type := .login, content := text })) ∨
    (login email password).Blocked k (wrote k { type := .login, content := text }) := by
  simp only [Blocked, run_login hcontent]
  exact receiveACK_of_prefix haccepts h

/-- `findOtherClient` returns whether the next message is an `ACK`, or waits for it. -/
lemma findOtherClient_of_prefix (id : Bytes) (haccepts : (frameCodec bufferSize).Accepts message)
    (h : k.inbound.bytes <+: (frameCodec bufferSize).encode message ++ t) :
    (∃ inbound, (findOtherClient id).run k =
        .ok (message.type = .ack)
          { wrote k { type := .findStreamer, content := id } with inbound } ∧
      Arrived k message inbound) ∨
    (findOtherClient id).Blocked k (wrote k { type := .findStreamer, content := id }) := by
  rw [findOtherClient]
  simp only [Blocked, run_send_bind]
  rcases receiveToBuffer_of_prefix (k := wrote k { type := .findStreamer, content := id })
    haccepts h with ⟨inbound, hread, hrest⟩ | hread
  · exact Or.inl ⟨inbound, run_bind_ok hread, hrest⟩
  · exact Or.inr (run_bind_error hread)

/-- `requestStreamerID` returns the content of an `ID`, or waits for it. -/
lemma requestStreamerID_of_prefix (haccepts : (frameCodec bufferSize).Accepts message)
    (htype : message.type = .id)
    (h : k.inbound.bytes <+: (frameCodec bufferSize).encode message ++ t) :
    (∃ inbound, requestStreamerID.run k =
        .ok message.content { wrote k { type := .registerStreamer, content := [] } with inbound } ∧
      Arrived k message inbound) ∨
    requestStreamerID.Blocked k (wrote k { type := .registerStreamer, content := [] }) := by
  rw [requestStreamerID]
  simp only [Blocked, run_send_bind]
  rcases receive_of_prefix (k := wrote k { type := .registerStreamer, content := [] })
    haccepts h with ⟨inbound, hread, hrest⟩ | hread
  · refine Or.inl ⟨inbound, (run_bind_ok hread).trans ?_, hrest⟩
    rw [if_pos htype]
    rfl
  · exact Or.inr (run_bind_error hread)

/-! ## What a call writes -/

/-- The client when a call has returned or thrown. -/
def finish {α : Type} : EStateM.Result CallError Client α → Client
  | .ok _ k => k
  | .error _ k => k

/-- A call writes `w`, whether it returns or throws. -/
def Writes {α : Type} (p : Call α) (w : Bytes) : Prop :=
  ∀ k : Client, (finish (p.run k)).written = k.written ++ w

namespace Writes

variable {α β : Type} {w : Bytes}

omit [SizeLayout] in
/-- What only reads writes nothing. -/
lemma reading (f : Inbound → Except ClientError (α × Inbound)) : (reading f).Writes [] := by
  intro k
  cases h : f k.inbound <;> simp [Call.reading, EStateM.run, h, finish]

omit [SizeLayout] in
/-- Behind a call that writes, one follows that does not. -/
lemma bind_quiet {p : Call α} {f : α → Call β} (hp : p.Writes w) (hf : ∀ a, (f a).Writes []) :
    (p >>= f).Writes w := by
  intro k
  have hwritten := hp k
  cases h : p.run k with
  | error e k' =>
    rw [run_bind_error h]
    rwa [h] at hwritten
  | ok a k' =>
    rw [run_bind_ok h, hf a k', List.append_nil]
    rwa [h] at hwritten

/-- A message is written before everything else. -/
lemma send_bind (message : Message) {f : Unit → Call α} (hf : (f ()).Writes []) :
    (send message >>= f).Writes (SocketBase.send message) := by
  intro k
  rw [run_send_bind, hf (wrote k message), List.append_nil]
  rfl

/-- `requestStreamerID` writes its request. -/
lemma requestStreamerID :
    requestStreamerID.Writes (SocketBase.send { type := .registerStreamer, content := [] }) := by
  refine send_bind _ ((Writes.reading _).bind_quiet fun response => ?_)
  by_cases htype : response.type = .id
  · rw [if_pos htype]
    exact fun k => (List.append_nil _).symm
  · rw [if_neg htype]
    exact fun k => (List.append_nil _).symm

/-- `findOtherClient` writes its request. -/
lemma findOtherClient (id : Bytes) :
    (findOtherClient id).Writes (SocketBase.send { type := .findStreamer, content := id }) :=
  send_bind _ ((Writes.reading _).bind_quiet fun _ _ => (List.append_nil _).symm)

end Writes

end Call

end Calls

end ClientSocket

end ScreenViewer
