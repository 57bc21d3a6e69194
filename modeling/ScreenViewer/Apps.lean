import Mathlib
import ScreenViewer.ClientSocket.Requests

/-!
# The programs of the two clients

The `main` functions of the streamer's and of the viewer's program, as far as they talk to the
server: the streamer logs in, registers and waits for a viewer, the viewer logs in and asks for a
streamer.  What they do after that is done by a `ScreenViewerStreamer` and a `ScreenViewerClient`,
which take the connection over as these functions leave it.
-/

namespace ScreenViewer

open SocketBase

namespace ClientSocket.Call

variable [SizeLayout]

/-- `waitForStartStreamMessage` without a timeout of its own; `start` and `now` are what the clock
reads. -/
def waitForStartStreamMessage (start : Int64) (now : ℕ → Int64) : Call Bool :=
  reading fun s =>
    (ClientSocket.waitForStartStreamMessage defaultTimeout start.toInt (fun i => (now i).toInt)
      s).mapError .read

/-- `waitForStartStreamMessage` returns true when the next message starts the stream, or waits for
it. -/
lemma waitForStartStreamMessage_of_prefix (start : Int64) (now : ℕ → Int64) {k : Client}
    {message : Message} {t : Bytes} (haccepts : (frameCodec bufferSize).Accepts message)
    (htype : message.type = .startStream)
    (h : k.inbound.bytes <+: (frameCodec bufferSize).encode message ++ t) :
    (∃ inbound, (waitForStartStreamMessage start now).run k = .ok true { k with inbound } ∧
        Arrived k message inbound) ∨
      (waitForStartStreamMessage start now).Blocked k k := by
  have htime := inTime_defaultTimeout start (now 0)
  rcases read_of_prefix receiveToBufferReader haccepts h with ⟨s', hread, hs'⟩ | hread
  · have hread' : SocketBase.receiveToBuffer k.inbound = .ok (message, s') := hread
    have hwait : ClientSocket.waitForStartStreamMessage defaultTimeout start.toInt
        (fun i => (now i).toInt) k.inbound = .ok (true, s') := by
      rw [ClientSocket.waitForStartStreamMessage, waitLoop, if_pos htime]
      split <;> simp_all
    exact Or.inl ⟨s', by simp [waitForStartStreamMessage, reading, EStateM.run, hwait,
      Except.mapError], hs'⟩
  · have hread' : SocketBase.receiveToBuffer k.inbound = .error .endOfStream := hread
    have hwait : ClientSocket.waitForStartStreamMessage defaultTimeout start.toInt
        (fun i => (now i).toInt) k.inbound = .error .endOfStream := by
      rw [ClientSocket.waitForStartStreamMessage, waitLoop, if_pos htime]
      split <;> simp_all
    exact Or.inr (by simp [Blocked, waitForStartStreamMessage, reading, EStateM.run, hwait,
      Except.mapError])

end ClientSocket.Call

namespace Apps

open ClientSocket

variable [SizeLayout] [JsonLibrary]

/-- The streamer's program for a user, up to the start of the streamer. -/
def streamerProgram (email password : Bytes) (start : Int64) (now : ℕ → Int64) : Call Bytes := do
  Call.login email password
  let id ← Call.requestStreamerID
  let _ ← Call.waitForStartStreamMessage start now
  return id

/-- `main` of the streamer's program. -/
def streamerMain (start : Int64) (now : ℕ → Int64) : Call Bytes :=
  streamerProgram (Bytes.ofString "some_other_user@gmail.com")
    (Bytes.ofString "superStrongPassword") start now

/-- The viewer's program for a user, up to the start of the client. -/
def clientProgram (email password id : Bytes) : Call Bool := do
  Call.login email password
  Call.findOtherClient id

/-- `main` of the viewer's program: the exit status if it ends before it talks to the server, and
whether the client runs if it does not. -/
def clientMain (argv : List Bytes) : Call (ℕ ⊕ Bool) :=
  match argv with
  | _ :: id :: _ => do
    let isFound ← clientProgram (Bytes.ofString "some_user@gmail.com")
      (Bytes.ofString "superStrongPassword") id
    return .inr isFound
  | _ => return .inl 1

end Apps

end ScreenViewer
