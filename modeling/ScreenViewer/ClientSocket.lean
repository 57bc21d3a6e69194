import Mathlib
import ScreenViewer.Json.StringObjects
import ScreenViewer.Session
import ScreenViewer.SocketBase.Receive
import ScreenViewer.UsersManager.Table

/-!
# Logging in

`ClientSocket::login` sends the credentials as a JSON document and waits for an `ACK`; a session
that has just been started reads one message of at most `FIRST_MESSAGE_MAX_SIZE` bytes and answers
it.  Both ends are put together here: `respond` is what the session writes back, and the client
reads it from whatever segments it arrives in.

Adding a user restricts neither the length of the credentials nor their bytes, but logging in does,
since the document has to be written and has to fit the first message.  `login_eq_ok_iff` says which
users can log in.
-/

namespace ScreenViewer

open SocketBase

/-- Why a client's operation fails. -/
inductive ClientError
  | read (e : ReadError)
  | socketException (what : Bytes)
  | json (what : Bytes)
  deriving DecidableEq

namespace AuthenticatedSession

variable [SizeLayout] [JsonLibrary]

/-- What a session that has just been started does when its peer has written `incoming`: nothing
until the first message is complete. -/
def firstPlan (usersManager : Option Authenticator) (self : ConnId) (incoming : Bytes) : Plan :=
  if incoming.length < MessageHeader.size then []
  else
    match MessageHeader.deserialize (incoming.take MessageHeader.size) MessageHeader.size
        firstMessageMaxSize with
    | .error what => disconnect self (some (Bytes.ofString what))
    | .ok header =>
      let body := incoming.drop MessageHeader.size
      if body.length < header.messageSize.toNat then []
      else
        match (authenticateCallback usersManager self
            { type := header.type, content := body.take header.messageSize.toNat }).2 with
        | .ok plan => plan
        | .error what => disconnect self (some what)

omit [JsonLibrary] in
/-- The bytes that a plan writes to a session. -/
def written (self : ConnId) (plan : Plan) : Bytes :=
  plan.flatMap fun
    | .sendChunk session message => if session = self then SocketBase.sendChunk message else []
    | _ => []

/-- What the session writes back. -/
def respond (usersManager : Option Authenticator) (self : ConnId) (incoming : Bytes) : Bytes :=
  written self (firstPlan usersManager self incoming)

omit [JsonLibrary] in
/-- Sending a message writes its frames. -/
lemma written_sendPlan (self : ConnId) (message : Message) (plan : Plan) :
    written self (sendPlan self message ++ plan) = send message ++ written self plan := by
  simp [written, sendPlan, send, List.flatMap_map]

omit [JsonLibrary] in
/-- A `NACK` is written as it is. -/
lemma written_sendNACK (self : ConnId) :
    written self (sendNACK self) = send { type := .nack, content := [] } := by
  have h := written_sendPlan self { type := .nack, content := [] } []
  rwa [List.append_nil, show written self [] = [] from rfl, List.append_nil] at h

omit [JsonLibrary] in
/-- Disconnecting writes a `DISCONNECT`. -/
lemma written_disconnect (self : ConnId) (what : Bytes) :
    written self (disconnect self (some what)) =
      send { type := .disconnect, content := what } := by
  refine (written_sendPlan self _ _).trans ?_
  simp [written]

end AuthenticatedSession

namespace ClientSocket

open AuthenticatedSession

section Client

variable [SizeLayout] [JsonLibrary]

omit [JsonLibrary] in
/-- `receiveACK`. -/
def receiveACK (s : Inbound) : Except ClientError Inbound :=
  match receiveToBuffer s with
  | .error e => .error (.read e)
  | .ok (message, s) =>
    if message.type ≠ .ack then
      let additionalMessage :=
        if message.content.length < 100 then message.content
        else Bytes.ofString "Too large to print."
      .error (.socketException (Bytes.ofString
        (s!"Did not get ACK. Response type: {message.type.toStr} " ++
          s!"size: {message.content.length}. ") ++ additionalMessage))
    else .ok s

omit [SizeLayout] in
/-- The text of the document with the credentials. -/
def content (email password : Bytes) : Except Bytes Bytes :=
  JsonLibrary.dump
    (JsonLibrary.assign
      (JsonLibrary.assign JsonLibrary.null (Bytes.ofString "email") email)
      (Bytes.ofString "password") password)

/-- `login`, over a connection on which `answered` arrives in reply to what is written. -/
def login (answered : Bytes → Inbound) (email password : Bytes) : Except ClientError Inbound :=
  match content email password with
  | .error what => .error (.json what)
  | .ok content => receiveACK (answered (send { type := .login, content := content }))

/-- The other end of the connection is a session that has just been started. -/
def AnsweredBy (usersManager : Option Authenticator) (self : ConnId) (answered : Bytes → Inbound) :
    Prop :=
  ∀ bytes, (answered bytes).bytes = respond usersManager self bytes

/-! ## The answer -/

omit [JsonLibrary] in
/-- A client gets its `ACK` if that is what arrives first. -/
lemma receiveACK_eq_ok_iff {s : Inbound} {message : Message} {t : Bytes}
    (hs : s.bytes = send message ++ t) :
    (∃ s', receiveACK s = .ok s') ↔ message.type = .ack := by
  obtain ⟨c, cs, hchunks⟩ : ∃ c cs, chunks message = c :: cs := by
    refine List.exists_cons_of_ne_nil fun hnil => ?_
    rw [chunks, chunksFrom] at hnil
    split at hnil <;> cases hnil
  have hmem : c ∈ chunks message := hchunks ▸ List.mem_cons_self
  have htype : c.type = message.type := type_of_mem_chunksFrom hmem
  have haccepts : (frameCodec bufferSize).Accepts c :=
    accepts_of_mem_chunks (List.mem_flatMap.mpr ⟨message, List.mem_singleton_self _, hmem⟩)
  have hdecode : (frameCodec bufferSize).decode s.bytes =
      some (c, cs.flatMap SocketBase.sendChunk ++ t) := by
    rw [hs, send, hchunks, List.flatMap_cons, List.append_assoc]
    exact (frameCodec bufferSize).decode_encode c haccepts _
  obtain ⟨s', hread, -⟩ := receiveToBufferReader.read_of_decode hdecode
  have hread' : receiveToBuffer s = .ok (c, s') := hread
  rw [receiveACK, hread', ← htype]
  by_cases hack : c.type = .ack <;> simp [hack]

omit [JsonLibrary] in
/-- The bytes of a login message begin with a header that announces its first chunk. -/
lemma send_eq (message : Message) : ∃ c t, send message = (headerOf c).serialize ++ t ∧
    (headerOf c).messageSize.toNat = min message.content.length bufferSize := by
  by_cases hlen : bufferSize < message.content.length
  · refine ⟨{ type := message.type, content := message.content.take bufferSize },
      message.content.take bufferSize ++
        (chunksFrom message (message.content.length - bufferSize) (0 + bufferSize)).flatMap
          SocketBase.sendChunk, ?_, ?_⟩
    · rw [send, chunks, chunksFrom, if_pos hlen, List.flatMap_cons, SocketBase.sendChunk,
        List.append_assoc, List.drop_zero]
    · have hle := bufferSize_lt
      rw [toNat_messageSize_headerOf] <;> simp only [List.length_take] <;> omega
  · refine ⟨message, message.content, ?_, ?_⟩
    · rw [send, chunks_of_le (not_lt.mp hlen), List.flatMap_singleton, SocketBase.sendChunk]
    · have hle := bufferSize_lt
      rw [toNat_messageSize_headerOf (by omega)]
      omega

/-- A first message that is too long is answered with a `DISCONNECT`. -/
lemma respond_of_lt (usersManager : Option Authenticator) (self : ConnId) (message : Message)
    (h : firstMessageMaxSize < message.content.length) :
    ∃ what, respond usersManager self (send message) =
      send { type := .disconnect, content := what } := by
  obtain ⟨c, t, hsend, hsize⟩ := send_eq message
  have hlt : firstMessageMaxSize < (headerOf c).messageSize.toNat := by
    rw [hsize, lt_min_iff]
    exact ⟨h, by decide⟩
  have hshort : ¬ (send message).length < MessageHeader.size := by
    rw [hsend, List.length_append, MessageHeader.length_serialize]
    omega
  have htake : (send message).take MessageHeader.size = (headerOf c).serialize := by
    rw [hsend, List.take_left' (MessageHeader.length_serialize _)]
  cases hdes : MessageHeader.deserialize (headerOf c).serialize MessageHeader.size
      firstMessageMaxSize with
  | error what =>
    refine ⟨Bytes.ofString what, ?_⟩
    rw [respond, firstPlan, if_neg hshort, htake, hdes]
    exact written_disconnect self _
  | ok header =>
    obtain ⟨hle, hser⟩ := MessageHeader.of_deserialize_eq_ok (MessageHeader.length_serialize _) hdes
    have hback := MessageHeader.deserialize_serialize (le_refl (headerOf c).messageSize.toNat)
    have hlt : header.messageSize.toNat ≤ (headerOf c).messageSize.toNat := by omega
    have hback' := MessageHeader.deserialize_serialize hlt
    rw [hser, hback'] at hback
    cases hback
    omega

/-- A first message that is not too long is passed to `authenticateCallback`. -/
lemma respond_of_le (usersManager : Option Authenticator) (self : ConnId) {message : Message}
    (h : message.content.length ≤ firstMessageMaxSize) :
    respond usersManager self (send message) =
      written self (match (authenticateCallback usersManager self message).2 with
        | .ok plan => plan
        | .error what => disconnect self (some what)) := by
  have hbuffer : message.content.length ≤ bufferSize := h.trans (by decide)
  have hsend : send message = (headerOf message).serialize ++ message.content := by
    rw [send, chunks_of_le hbuffer, List.flatMap_singleton, SocketBase.sendChunk]
  have hsize : (headerOf message).messageSize.toNat = message.content.length :=
    toNat_messageSize_headerOf (hbuffer.trans_lt bufferSize_lt)
  have hshort : ¬ (send message).length < MessageHeader.size := by
    rw [hsend, List.length_append, MessageHeader.length_serialize]
    omega
  have htake : (send message).take MessageHeader.size = (headerOf message).serialize := by
    rw [hsend, List.take_left' (MessageHeader.length_serialize _)]
  have hdrop : (send message).drop MessageHeader.size = message.content := by
    rw [hsend, List.drop_left' (MessageHeader.length_serialize _)]
  have hdes := MessageHeader.deserialize_serialize (hsize.le.trans h)
  rw [respond, firstPlan, if_neg hshort, htake, hdes]
  simp only [hdrop, hsize, lt_irrefl, if_false, List.take_length]
  rfl

/-! ## Who can log in -/

variable [LawfulJsonLibrary]

/-- The fields of the document with the credentials. -/
def fields (email password : Bytes) : List (Bytes × Bytes) :=
  [(Bytes.ofString "email", email), (Bytes.ofString "password", password)]

omit [SizeLayout] [JsonLibrary] [LawfulJsonLibrary] in
lemma nodup_fields (email password : Bytes) : ((fields email password).map Prod.fst).Nodup := by
  simp only [fields, List.map_cons, List.map_nil]
  decide +kernel

omit [SizeLayout] in
/-- The document is written if both credentials are valid UTF-8. -/
lemma content_eq_ok_iff (email password : Bytes) :
    (∃ text, content email password = .ok text) ↔ email.IsUtf8 ∧ password.IsUtf8 := by
  refine (LawfulJsonLibrary.dump_build _ (nodup_fields email password)).trans ?_
  simp [fields, Bytes.isUtf8_ofString]

omit [SizeLayout] in
/-- The server finds the credentials in the document. -/
lemma credentials_content {email password text : Bytes} (h : content email password = .ok text) :
    credentials text = .ok (email, password) := by
  have hkeys := nodup_fields email password
  have hparse := LawfulJsonLibrary.parse_dump _ hkeys text h
  obtain ⟨v, hat, hv⟩ := LawfulJsonLibrary.getAt_build _ hkeys (Bytes.ofString "email", email)
    (by simp [fields])
  obtain ⟨w, hat', hw⟩ := LawfulJsonLibrary.getAt_build _ hkeys
    (Bytes.ofString "password", password) (by simp [fields])
  simp only [credentials, hparse, bind, Except.bind, hat, hv, hat', hw]
  rfl

/-- The plan of the session that gets the document, once its text fits the first message. -/
lemma respond_content (usersManager : Option Authenticator) (self : ConnId)
    {email password text : Bytes} (hcontent : content email password = .ok text)
    (hlen : text.length ≤ firstMessageMaxSize) :
    ∃ message, respond usersManager self (send { type := .login, content := text }) =
        send message ∧
      (message.type = .ack ↔
        ∃ manager, usersManager = some manager ∧ manager email password = .ok true) ∧
      (message.type = .ack → message.content = []) := by
  have hcredentials := credentials_content hcontent
  rw [respond_of_le usersManager self hlen, authenticateCallback]
  simp only [ne_eq, not_true_eq_false, if_false, authenticate, hcredentials]
  cases usersManager with
  | none => exact ⟨{ type := .nack, content := [] }, written_sendNACK self, by simp⟩
  | some manager =>
    cases hresult : manager email password with
    | error what =>
      refine ⟨{ type := .disconnect, content := what }, ?_, by simp [hresult]⟩
      simp only [hresult]
      exact written_disconnect self what
    | ok accepted =>
      cases accepted with
      | false =>
        refine ⟨{ type := .nack, content := [] }, ?_, by simp [hresult]⟩
        simp only [hresult]
        exact written_sendNACK self
      | true =>
        refine ⟨{ type := .ack, content := [] }, ?_, by simp [hresult]⟩
        simp only [hresult]
        exact (written_sendPlan self _ _).trans (List.append_nil _)

/-- Logging in succeeds if and only if both credentials are valid UTF-8, their document fits the
first message, and the server's users manager returns true for them. -/
theorem login_eq_ok_iff {usersManager : Option Authenticator} {self : ConnId}
    {answered : Bytes → Inbound} (hanswered : AnsweredBy usersManager self answered)
    (email password : Bytes) :
    (∃ s, login answered email password = .ok s) ↔
      (email.IsUtf8 ∧ password.IsUtf8) ∧
        (∀ text, content email password = .ok text → text.length ≤ firstMessageMaxSize) ∧
          ∃ manager, usersManager = some manager ∧ manager email password = .ok true := by
  rw [← content_eq_ok_iff]
  cases hcontent : content email password with
  | error what => simp [login, hcontent]
  | ok text =>
    by_cases hlen : text.length ≤ firstMessageMaxSize
    · obtain ⟨message, hrespond, hack, -⟩ := respond_content usersManager self hcontent hlen
      have hbytes : (answered (send { type := .login, content := text })).bytes =
          send message ++ [] := by
        rw [hanswered, hrespond, List.append_nil]
      simpa [login, hcontent, hlen, hack] using receiveACK_eq_ok_iff hbytes
    · obtain ⟨what, hrespond⟩ := respond_of_lt usersManager self
        { type := .login, content := text } (not_le.mp hlen)
      have hbytes : (answered (send { type := .login, content := text })).bytes =
          send { type := .disconnect, content := what } ++ [] := by
        rw [hanswered, hrespond, List.append_nil]
      simpa [login, hcontent, hlen] using receiveACK_eq_ok_iff hbytes

end Client

section Users

open UsersManager

variable [SizeLayout] [JsonLibrary] [UsersDatabase] [BCrypt]

/-- Users that were added log in, and nobody else does. -/
structure LoginsWork : Prop where
  /-- A user that was added, whose credentials are valid UTF-8 and fit the first message as a
  document, logs in, and is answered with an `ACK`. -/
  added : ∀ db salt email password db', addUser db salt email password = .ok db' → ∀ calls,
    email.IsUtf8 → password.IsUtf8 →
    (∀ text, content email password = .ok text → text.length ≤ firstMessageMaxSize) →
    ∀ self answered, AnsweredBy (some (authenticate (addUsers db' calls))) self answered →
      (∃ s, login answered email password = .ok s) ∧
        ∃ text, content email password = .ok text ∧
          (answered (send { type := .login, content := text })).bytes =
            send { type := .ack, content := [] }
  /-- Whoever logs in has been accepted by the server's users manager, with exactly these
  strings. -/
  accepted : ∀ usersManager self answered email password,
    AnsweredBy usersManager self answered → (∃ s, login answered email password = .ok s) →
      ∃ manager, usersManager = some manager ∧ manager email password = .ok true

/-- Users that were added log in, and nobody else does. -/
theorem logins_work [LawfulJsonLibrary] [LawfulUsersDatabase] [LawfulBCrypt] : LoginsWork where
  added := by
    intro db salt email password db' hadd calls hemail hpassword hlen self answered hanswered
    have htrue := authenticate_addUsers hadd calls
    obtain ⟨text, hcontent⟩ := (content_eq_ok_iff email password).mpr ⟨hemail, hpassword⟩
    obtain ⟨message, hrespond, hack, hempty⟩ := respond_content
      (some (authenticate (addUsers db' calls))) self hcontent (hlen text hcontent)
    have htype := hack.mpr ⟨_, rfl, htrue⟩
    refine ⟨(login_eq_ok_iff hanswered email password).mpr
      ⟨⟨hemail, hpassword⟩, hlen, _, rfl, htrue⟩, text, hcontent, ?_⟩
    rw [hanswered, hrespond]
    exact congrArg send (by rw [← htype, ← hempty htype])
  accepted := fun _ _ _ _ _ hanswered h => ((login_eq_ok_iff hanswered _ _).mp h).2.2

end Users

/-- A user of an empty database is added and logs in. -/
theorem logins_work_short :
    letI := littleEndian
    letI := Json.stringObjects
    letI := UsersManager.usersTable
    letI := UsersManager.hexBCrypt
    let email := Bytes.ofString "a@b.c"
    let password := Bytes.ofString "pass\"word"
    ∃ db, UsersManager.addUser [] [] email password = .ok db ∧
      ∃ s, login
        (fun bytes =>
          { segments := [respond (some (UsersManager.authenticate db)) 0 bytes], dataBuffer := [] })
        email password = .ok s := by
  let := littleEndian
  let := Json.stringObjects
  let := UsersManager.usersTable
  let := UsersManager.hexBCrypt
  have := Json.lawful_stringObjects
  have := UsersManager.lawful_usersTable
  have := UsersManager.lawful_hexBCrypt
  intro email password
  have hadd := UsersManager.addUser_nil [] password (Bytes.isUtf8_ofString "a@b.c")
  have hlen : ∀ text, content email password = .ok text → text.length ≤ firstMessageMaxSize := by
    intro text h
    have hcontent : (content email password).toOption =
        some (Bytes.ofString "\x7b\"email\":\"a@b.c\",\"password\":\"pass\\\"word\"\x7d") := by
      decide +kernel
    rw [h] at hcontent
    cases hcontent
    decide +kernel
  exact ⟨_, hadd, (logins_work.added _ _ _ _ _ hadd [] (Bytes.isUtf8_ofString _)
    (Bytes.isUtf8_ofString _) hlen 0 _
    fun bytes => by simp [Inbound.bytes, UsersManager.addUsers]).1⟩

/-- A password of more than a thousand characters, and one that is not valid UTF-8. -/
def unfitPasswords : List Bytes := [List.replicate 1001 97, [255]]

/-- Users with unfit passwords are added but cannot log in. -/
theorem unfit_passwords :
    letI := littleEndian
    letI := Json.stringObjects
    letI := UsersManager.usersTable
    letI := UsersManager.hexBCrypt
    let email := Bytes.ofString "a@b.c"
    ∀ password ∈ unfitPasswords,
      ∃ db, UsersManager.addUser [] [] email password = .ok db ∧
        ∀ self answered, AnsweredBy (some (UsersManager.authenticate db)) self answered →
          ¬ ∃ s, login answered email password = .ok s := by
  let := littleEndian
  let := Json.stringObjects
  let := UsersManager.usersTable
  let := UsersManager.hexBCrypt
  have := Json.lawful_stringObjects
  intro email password hpassword
  refine ⟨_, UsersManager.addUser_nil [] password (Bytes.isUtf8_ofString "a@b.c"),
    fun self answered hanswered hlogin => ?_⟩
  obtain ⟨hutf8, hlen, -⟩ := (login_eq_ok_iff hanswered email password).mp hlogin
  obtain ⟨text, hcontent⟩ := (content_eq_ok_iff email password).mpr hutf8
  have hlong := Json.length_le_of_dump (nodup_fields email password) hcontent
    (Bytes.ofString "password", password) (by simp [fields])
  have hshort := hlong.trans (hlen text hcontent)
  rcases List.mem_cons.mp hpassword with rfl | hpassword
  · rw [List.length_replicate] at hshort
    exact absurd hshort (by decide)
  · rw [List.mem_singleton.mp hpassword] at hutf8
    exact absurd hutf8.2 (by decide +kernel)

end ClientSocket

end ScreenViewer
