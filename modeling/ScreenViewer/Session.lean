import Mathlib
import ScreenViewer.Json
import ScreenViewer.ServerSessionsManager

/-!
# Sessions

A session is served by the handler that its pending read was armed with: `authenticateCallback` for
the first message, `handleRead` for the later ones.  Sessions of `ProxySession` and of its base
class `AuthenticatedSession` differ in `handleRead`.

A handler is modelled by its effect: the registry after its locked step, the entries it adds to the
logs of connections, and its plan.
-/

namespace ScreenViewer

open SocketBase

/-- `UsersManager::authenticate`, which may throw. -/
abbrev Authenticator := Bytes → Bytes → Except Bytes Bool

/-- What a handler makes of a message. -/
structure Effect where
  /-- The registry after the locked step. -/
  sendersSessions : Registry
  /-- The entries added to logs (history). -/
  marks : List (ConnId × Entry)
  /-- What is done with the sockets, or the exception thrown before anything is. -/
  plan : Except Bytes Plan

namespace AuthenticatedSession

/-- `FIRST_MESSAGE_MAX_SIZE`. -/
def firstMessageMaxSize : ℕ := 1000

/-- `scheduleNewAsyncRead`: the limit is the default argument of `asyncReadMessage`. -/
def scheduleNewAsyncRead (self : ConnId) : Plan := [.asyncReadMessage self .handleRead bufferSize]

section Authenticate

variable [JsonLibrary]

/-- The credentials in the content of a login message. -/
def credentials (content : Bytes) : Except Bytes (Bytes × Bytes) := do
  let content ← JsonLibrary.parse content
  let email ← JsonLibrary.getString (← JsonLibrary.getAt content (Bytes.ofString "email"))
  let password ← JsonLibrary.getString (← JsonLibrary.getAt content (Bytes.ofString "password"))
  return (email, password)

/-- `authenticate`: the result, after the check of the credentials if there was one.  There is no
users manager any more when the weak pointer to it has expired. -/
def authenticate (usersManager : Option Authenticator) (content : Bytes) :
    List Entry × Except Bytes Bool :=
  match credentials content with
  | .error what => ([], .error what)
  | .ok (email, password) =>
    match usersManager with
    | some manager => ([.credentialCheck email password (manager email password)],
        manager email password)
    | none => ([], .ok false)

/-- `authenticateCallback`: the entries of the session's log and the plan. -/
def authenticateCallback (usersManager : Option Authenticator) (self : ConnId)
    (message : Message) : List Entry × Except Bytes Plan :=
  if message.type ≠ .login then
    ([], .ok (disconnect self (some (Bytes.ofString "You have to login first."))))
  else
    match authenticate usersManager message.content with
    | (checks, .error what) => (checks, .error what)
    | (checks, .ok true) => (checks, .ok (sendACK self ++ scheduleNewAsyncRead self))
    | (checks, .ok false) => (checks, .ok (sendNACK self))

end Authenticate

/-- The answer to a message. -/
def reply (message : Message) : Message where
  type := .justAMessage
  content := Bytes.ofString "Got your message! '" ++ message.content ++ Bytes.ofString "'"

/-- `AuthenticatedSession::handleRead`. -/
def handleRead (sendersSessions : Registry) (self : ConnId) (message : Message) : Effect where
  sendersSessions := sendersSessions
  marks := []
  plan := .ok (sendPlan self (reply message) ++ scheduleNewAsyncRead self)

end AuthenticatedSession

namespace ProxySession

open ServerSessionsManager AuthenticatedSession

/-- The answer to a message that is neither a registration nor a request. -/
def response (message : Message) : Message where
  type := .response
  content := Bytes.ofString s!"Did not expect {message.type.toStr} message."

/-- `ProxySession::handleRead`; `now` is the time of a registration. -/
def handleRead (sendersSessions : Registry) (self : ConnId) (now : Time) (message : Message) :
    Effect :=
  match message.type with
  | .registerStreamer =>
    let (id, sendersSessions, dropped) := registerStreamer sendersSessions self now
    { sendersSessions
      marks := dropped.map (·, .dropped) ++ [(self, .registered id)]
      plan := .ok (sendPlan self { type := .id, content := id }) }
  | .findStreamer =>
    match createBridgeWithStreamer sendersSessions self message.content with
    | (isFound, sendersSessions, streamer, plan) =>
      { sendersSessions
        marks :=
          match streamer with
          | some streamer =>
            [(self, .found message.content streamer), (streamer, .claimed self)]
          | none => []
        plan := .ok (plan ++ if isFound then [] else sendNACK self ++ scheduleNewAsyncRead self) }
  | _ =>
    { sendersSessions
      marks := []
      plan := .ok (sendPlan self (response message) ++ scheduleNewAsyncRead self) }

end ProxySession

/-- The class of the sessions that a server creates. -/
inductive SessionClass
  | authenticatedSession
  | proxySession
  deriving DecidableEq

/-- The effect of the handler that a message is passed to. -/
def invoke [JsonLibrary] (sessionClass : SessionClass) (usersManager : Option Authenticator)
    (sendersSessions : Registry) (self : ConnId) (now : Time) (handler : MessageHandler)
    (message : Message) : Effect :=
  match handler with
  | .authenticateCallback =>
    let (checks, plan) := AuthenticatedSession.authenticateCallback usersManager self message
    { sendersSessions
      marks := (self, .authenticateCallback message) :: checks.map (self, ·)
      plan }
  | .handleRead =>
    let effect :=
      match sessionClass with
      | .authenticatedSession => AuthenticatedSession.handleRead sendersSessions self message
      | .proxySession => ProxySession.handleRead sendersSessions self now message
    { effect with
      marks := (self, .handleRead message (message.content ∈ sendersSessions)) :: effect.marks }

/-! ## The kinds of effect -/

/-- The message is answered, and the session waits for the next one: for a proxy session it is
neither a registration nor a request that finds its streamer. -/
def Continues (sessionClass : SessionClass) (message : Message) (isRegistered : Bool) : Prop :=
  sessionClass = .authenticatedSession ∨
    (message.type ≠ .registerStreamer ∧ (message.type = .findStreamer → isRegistered = false))

/-- The answer to a message after which the session waits for the next one. -/
def answer (sessionClass : SessionClass) (message : Message) : Message :=
  match sessionClass with
  | .authenticatedSession => AuthenticatedSession.reply message
  | .proxySession =>
    if message.type = .findStreamer then { type := .nack, content := [] }
    else ProxySession.response message

/-- A message with which a session logs in, given that its credentials are right. -/
def IsLogin [JsonLibrary] (message : Message) (email password : Bytes) : Prop :=
  message.type = .login ∧ AuthenticatedSession.credentials message.content = .ok (email, password)

/-- The operations by which a session takes its leave: `DISCONNECT` or `NACK`, and the closing of
the socket. -/
def Farewell (self : ConnId) (a : Action) : Prop :=
  (∃ message, a = .sendChunk self message ∧
    (message.type = .disconnect ∨ message.type = .nack)) ∨
  a = .shutdown self ∨ a = .close self

/-- The checks made for a first message that is not let in. -/
def Refusal (checks : List Entry) : Prop :=
  checks = [] ∨ ∃ email password result, result ≠ .ok true ∧
    checks = [.credentialCheck email password result]

open AuthenticatedSession ServerSessionsManager

/-- The effects that a message can have on the registry `sendersSessions`. -/
inductive Handled [JsonLibrary] (sessionClass : SessionClass) (sendersSessions : Registry)
    (self : ConnId) (now : Time) (message : Message) : MessageHandler → Effect → Prop
  /-- The session logs in. -/
  | login (email password : Bytes) (h : IsLogin message email password) :
      Handled sessionClass sendersSessions self now message .authenticateCallback
        { sendersSessions
          marks := [(self, .authenticateCallback message),
            (self, .credentialCheck email password (.ok true))]
          plan := .ok (sendACK self ++ scheduleNewAsyncRead self) }
  /-- The first message is no login, or its credentials are not right. -/
  | refused (checks : List Entry) (plan : Plan) (h : Refusal checks)
      (hplan : ∀ a ∈ plan, Farewell self a) :
      Handled sessionClass sendersSessions self now message .authenticateCallback
        { sendersSessions
          marks := (self, .authenticateCallback message) :: checks.map (self, ·)
          plan := .ok plan }
  /-- An exception is thrown because of the first message. -/
  | thrown (checks : List Entry) (what : Bytes) (h : Refusal checks) :
      Handled sessionClass sendersSessions self now message .authenticateCallback
        { sendersSessions
          marks := (self, .authenticateCallback message) :: checks.map (self, ·)
          plan := .error what }
  /-- The message is answered, and the session waits for the next one. -/
  | answered (isRegistered : Bool) (h : Continues sessionClass message isRegistered) :
      Handled sessionClass sendersSessions self now message .handleRead
        { sendersSessions
          marks := [(self, .handleRead message isRegistered)]
          plan := .ok (sendPlan self (answer sessionClass message) ++ scheduleNewAsyncRead self) }
  /-- The session is registered. -/
  | registered (isRegistered : Bool) (hclass : sessionClass = .proxySession)
      (h : message.type = .registerStreamer) :
      Handled sessionClass sendersSessions self now message .handleRead
        { sendersSessions := (registerStreamer sendersSessions self now).2.1
          marks := (self, .handleRead message isRegistered) ::
            ((registerStreamer sendersSessions self now).2.2.map (·, .dropped) ++
              [(self, .registered sessionId)])
          plan := .ok (sendPlan self { type := .id, content := sessionId }) }
  /-- The session has found a streamer. -/
  | found (streamer : TimedClientSession) (hclass : sessionClass = .proxySession)
      (h : message.type = .findStreamer)
      (hlookup : sendersSessions.lookup message.content = some streamer) :
      Handled sessionClass sendersSessions self now message .handleRead
        { sendersSessions := sendersSessions.erase message.content
          marks := [(self, .handleRead message true),
            (self, .found message.content streamer.clientSession),
            (streamer.clientSession, .claimed self)]
          plan := .ok [.sendChunk self { type := .ack, content := [] },
            .sendChunk streamer.clientSession { type := .startStream, content := [] },
            .startBridge streamer.clientSession self] }

/-- Disconnecting is a farewell. -/
lemma farewell_disconnect {self : ConnId} {msg : Bytes} {a : Action}
    (h : a ∈ disconnect self (some msg)) : Farewell self a := by
  rcases List.mem_append.mp h with h | h
  · obtain ⟨c, rfl, hc⟩ := mem_sendPlan h
    exact Or.inl ⟨c, rfl, Or.inl hc⟩
  · simp only [List.mem_cons, List.not_mem_nil, or_false] at h
    exact Or.inr h

/-- A `NACK` is a farewell. -/
lemma farewell_sendNACK {self : ConnId} {a : Action} (h : a ∈ sendNACK self) : Farewell self a := by
  obtain ⟨c, rfl, hc⟩ := mem_sendPlan h
  exact Or.inl ⟨c, rfl, Or.inr hc⟩

section Invoke

variable [JsonLibrary] {sessionClass : SessionClass} {sendersSessions : Registry} {self : ConnId}
  {now : Time} {message : Message}

/-- The effect of the first message. -/
lemma handled_authenticateCallback (usersManager : Option Authenticator) :
    Handled sessionClass sendersSessions self now message .authenticateCallback
      (invoke sessionClass usersManager sendersSessions self now .authenticateCallback
        message) := by
  unfold invoke AuthenticatedSession.authenticateCallback
  by_cases htype : message.type = .login
  · simp only [htype, ne_eq, not_true_eq_false, if_false, AuthenticatedSession.authenticate]
    cases hcredentials : credentials message.content with
    | error what => exact Handled.thrown [] what (Or.inl rfl)
    | ok emailPassword =>
      obtain ⟨email, password⟩ := emailPassword
      cases usersManager with
      | none => exact Handled.refused [] _ (Or.inl rfl) fun a => farewell_sendNACK
      | some manager =>
        cases hresult : manager email password with
        | error what =>
          simp only [hresult]
          exact Handled.thrown _ what (Or.inr ⟨email, password, .error what, by simp, rfl⟩)
        | ok accepted =>
          cases accepted with
          | true =>
            simp only [hresult]
            exact Handled.login email password ⟨htype, hcredentials⟩
          | false =>
            simp only [hresult]
            exact Handled.refused _ _ (Or.inr ⟨email, password, .ok false, by simp, rfl⟩)
              fun a => farewell_sendNACK
  · simp only [htype, ne_eq, not_false_eq_true, if_true]
    exact Handled.refused [] _ (Or.inl rfl) fun a => farewell_disconnect

/-- The effect of a later message. -/
lemma handled_handleRead (usersManager : Option Authenticator) :
    Handled sessionClass sendersSessions self now message .handleRead
      (invoke sessionClass usersManager sendersSessions self now .handleRead message) := by
  unfold invoke
  cases sessionClass with
  | authenticatedSession => exact Handled.answered _ (Or.inl rfl)
  | proxySession =>
    by_cases hregister : message.type = .registerStreamer
    · have heq : ProxySession.handleRead sendersSessions self now message =
          { sendersSessions := (registerStreamer sendersSessions self now).2.1
            marks := (registerStreamer sendersSessions self now).2.2.map (·, .dropped) ++
              [(self, .registered sessionId)]
            plan := .ok (sendPlan self { type := .id, content := sessionId }) } := by
        unfold ProxySession.handleRead
        rw [hregister]
        rfl
      simp only [heq]
      exact Handled.registered _ rfl hregister
    · by_cases hfind : message.type = .findStreamer
      · cases hlookup : sendersSessions.lookup message.content with
        | some streamer =>
          have hmem : message.content ∈ sendersSessions :=
            AList.lookup_isSome.mp (by rw [hlookup]; rfl)
          have heq : ProxySession.handleRead sendersSessions self now message =
              { sendersSessions := sendersSessions.erase message.content
                marks := [(self, .found message.content streamer.clientSession),
                  (streamer.clientSession, .claimed self)]
                plan := .ok [.sendChunk self { type := .ack, content := [] },
                  .sendChunk streamer.clientSession { type := .startStream, content := [] },
                  .startBridge streamer.clientSession self] } := by
            unfold ProxySession.handleRead
            simp only [hfind, createBridgeWithStreamer, hlookup, sendACK_eq, sendPlan,
              chunks_startStream]
            rfl
          simp only [heq, hmem, decide_true]
          exact Handled.found streamer rfl hfind hlookup
        | none =>
          have hmem : message.content ∉ sendersSessions := AList.lookup_eq_none.mp hlookup
          have heq : ProxySession.handleRead sendersSessions self now message =
              { sendersSessions
                marks := []
                plan := .ok (sendPlan self (answer .proxySession message) ++
                  scheduleNewAsyncRead self) } := by
            unfold ProxySession.handleRead
            simp only [hfind, createBridgeWithStreamer, hlookup, answer]
            rfl
          simp only [heq, hmem, decide_false]
          exact Handled.answered false (Or.inr ⟨hregister, fun _ => rfl⟩)
      · have heq : ProxySession.handleRead sendersSessions self now message =
            { sendersSessions
              marks := []
              plan := .ok (sendPlan self (answer .proxySession message) ++
                scheduleNewAsyncRead self) } := by
          unfold ProxySession.handleRead
          rw [answer]
          simp only [hfind, if_false]
        simp only [heq]
        exact Handled.answered _ (Or.inr ⟨hregister, fun h => absurd h hfind⟩)

/-- Every effect is of one of the kinds. -/
theorem handled_invoke (usersManager : Option Authenticator) (messageHandler : MessageHandler) :
    Handled sessionClass sendersSessions self now message messageHandler
      (invoke sessionClass usersManager sendersSessions self now messageHandler message) := by
  cases messageHandler with
  | authenticateCallback => exact handled_authenticateCallback usersManager
  | handleRead => exact handled_handleRead usersManager

end Invoke

end ScreenViewer
