import Mathlib
import ScreenViewer.Lib.Runs
import ScreenViewer.UsersManager.Table

/-!
# Two servers and one database connection

The `SessionsServer` and the `ProxyServer` run on threads of their own and share one `UsersManager`,
which has one connection.  Each call of `authenticate` opens a transaction on it, asks for the hash,
and closes the transaction when it returns.  A connection has at most one transaction at a time and
answers the request for a second one with an exception, so the logins of the two servers are
independent exactly as long as no call begins while a transaction of the other server is open
(`undisturbed_iff`).
-/

namespace ScreenViewer

namespace UsersManager

open UsersDatabase BCrypt

/-- The servers that share the `UsersManager`. -/
inductive Server
  | sessionsServer
  | proxyServer
  deriving DecidableEq

/-- Why a call of `authenticate` ends with an exception. -/
inductive LoginError
  /-- The connection has refused to begin a transaction. -/
  | transactionOpen
  | other (what : Bytes)
  deriving DecidableEq

/-- Where the thread of a server is in `authenticate`. -/
inductive LoginPoint
  /-- It is in no call. -/
  | idle
  /-- It is about to construct the transaction. -/
  | begin (email password : Bytes)
  /-- It has a transaction and is about to query. -/
  | query (email password : Bytes)
  /-- It has the result of the query and is about to return, which ends the transaction. -/
  | close (email password : Bytes) (result : Except Bytes (List Bytes))
  deriving DecidableEq

/-- A call that has ended. -/
structure Login where
  email : Bytes
  password : Bytes
  result : Except LoginError Bool

/-- The connection and the threads that use it. -/
structure SharedConnection where
  /-- The server whose transaction is open. -/
  transaction : Option Server
  point : Server → LoginPoint
  /-- The calls that have ended, oldest first. -/
  logins : Server → List Login

namespace SharedConnection

/-- No login has arrived. -/
def started : SharedConnection :=
  { transaction := none, point := fun _ => .idle, logins := fun _ => [] }

/-- Another point for one server. -/
def move (s : SharedConnection) (server : Server) (point : LoginPoint) : SharedConnection :=
  { s with point := Function.update s.point server point }

/-- The call of a server ends. -/
def finish (s : SharedConnection) (server : Server) (login : Login) : SharedConnection :=
  { s.move server .idle with
    logins := Function.update s.logins server (s.logins server ++ [login]) }

/-- What happens in a step. -/
inductive Label
  /-- A `LOGIN` request arrives at a server that has no other to work on. -/
  | arrive (server : Server) (email password : Bytes)
  /-- A server asks for a transaction while this one is open. -/
  | begin (server : Server) (transaction : Option Server)
  | query (server : Server)
  /-- The call returns, and its transaction ends. -/
  | close (server : Server)
  deriving DecidableEq

variable [UsersDatabase] [BCrypt]

/-- What the rest of `authenticate` makes of the query's result. -/
def resultOf (password : Bytes) (result : Except Bytes (List Bytes)) : Except Bytes Bool := do
  match ← result with
  | [] => return false
  | hash :: _ => validatePassword password hash

/-- The steps of the two servers, which do not change the database. -/
inductive Step (db : Database) (s : SharedConnection) : Label → SharedConnection → Prop
  | arrive (server : Server) (email password : Bytes) (hpoint : s.point server = .idle) :
      Step db s (.arrive server email password) (s.move server (.begin email password))
  | begin (server : Server) (email password : Bytes)
      (hpoint : s.point server = .begin email password) (hfree : s.transaction = none) :
      Step db s (.begin server none)
        { s.move server (.query email password) with transaction := some server }
  | refuse (server other : Server) (email password : Bytes)
      (hpoint : s.point server = .begin email password) (hopen : s.transaction = some other) :
      Step db s (.begin server (some other))
        (s.finish server
          { email := email, password := password, result := .error .transactionOpen })
  | query (server : Server) (email password : Bytes)
      (hpoint : s.point server = .query email password) :
      Step db s (.query server)
        (s.move server (.close email password (getPasswordHash db email)))
  | close (server : Server) (email password : Bytes) (result : Except Bytes (List Bytes))
      (hpoint : s.point server = .close email password result) :
      Step db s (.close server)
        { s.finish server
            { email := email
              password := password
              result := (resultOf password result).mapError .other } with
          transaction := none }

/-- Every call has returned what it returns when nobody else uses the connection. -/
def Undisturbed (db : Database) (s : SharedConnection) : Prop :=
  ∀ server, ∀ login ∈ s.logins server,
    login.result = (authenticate db login.email login.password).mapError .other

/-- The result that a server has been given is the database's. -/
def Answered (db : Database) (s : SharedConnection) : Prop :=
  ∀ server email password result, s.point server = .close email password result →
    result = getPasswordHash db email

/-- A call that was refused. -/
def WasRefused (s : SharedConnection) : Prop :=
  ∃ server, ∃ login ∈ s.logins server, login.result = .error .transactionOpen

variable {db : Database} {s t : SharedConnection} {l : Label}

/-- A call that begins and ends with a transaction of its own returns what `authenticate` does. -/
lemma resultOf_getPasswordHash (email password : Bytes) :
    resultOf password (getPasswordHash db email) = authenticate db email password :=
  rfl

omit [UsersDatabase] [BCrypt] in
/-- A server's point after a move. -/
lemma point_of_move {server other : Server} {point point' : LoginPoint}
    (h : (s.move server point).point other = point') : point = point' ∨ s.point other = point' := by
  by_cases hother : other = server
  · exact Or.inl (by simpa [move, hother] using h)
  · exact Or.inr (by simpa [move, Function.update_of_ne hother] using h)

omit [UsersDatabase] [BCrypt] in
/-- The calls that have ended once one more has. -/
lemma mem_logins_finish {server other : Server} {login login' : Login} :
    login' ∈ (s.finish server login).logins other ↔
      login' ∈ s.logins other ∨ (other = server ∧ login' = login) := by
  by_cases hother : other = server
  · subst hother
    simp [finish]
  · simp [finish, hother]

/-- What is given to a server is the database's answer, in every step. -/
lemma Answered.step (h : Answered db s) (hs : Step db s l t) : Answered db t := by
  intro other email' password' result' hpoint'
  cases hs with
  | arrive server email password hpoint =>
    rcases point_of_move hpoint' with heq | heq
    · cases heq
    · exact h other _ _ _ heq
  | begin server email password hpoint hfree =>
    rcases point_of_move hpoint' with heq | heq
    · cases heq
    · exact h other _ _ _ heq
  | refuse server holder email password hpoint hopen =>
    rcases point_of_move hpoint' with heq | heq
    · cases heq
    · exact h other _ _ _ heq
  | query server email password hpoint =>
    rcases point_of_move hpoint' with heq | heq
    · cases heq
      rfl
    · exact h other _ _ _ heq
  | close server email password result hpoint =>
    rcases point_of_move hpoint' with heq | heq
    · cases heq
    · exact h other _ _ _ heq

/-- A step in which no transaction is refused disturbs nobody. -/
lemma Undisturbed.step (hanswered : Answered db s) (h : Undisturbed db s)
    (hl : ∀ server other, l ≠ .begin server (some other)) (hs : Step db s l t) :
    Undisturbed db t := by
  cases hs with
  | arrive server email password hpoint => exact h
  | begin server email password hpoint hfree => exact h
  | refuse server holder email password hpoint hopen => exact absurd rfl (hl server holder)
  | query server email password hpoint => exact h
  | close server email password result hpoint =>
    intro other login hlogin
    rcases mem_logins_finish.mp hlogin with hlogin | ⟨rfl, rfl⟩
    · exact h other login hlogin
    · simp only [hanswered _ _ _ _ hpoint, resultOf_getPasswordHash]

/-- What has ended stays as it is. -/
lemma WasRefused.step (h : WasRefused s) (hs : Step db s l t) : WasRefused t := by
  obtain ⟨server, login, hlogin, hresult⟩ := h
  cases hs with
  | refuse other holder email password hpoint hopen =>
    exact ⟨server, login, mem_logins_finish.mpr (Or.inl hlogin), hresult⟩
  | close other email password result hpoint =>
    exact ⟨server, login, mem_logins_finish.mpr (Or.inl hlogin), hresult⟩
  | _ => exact ⟨server, login, hlogin, hresult⟩

/-- A call that asks for a second transaction is refused. -/
lemma wasRefused_of_step {server other : Server}
    (hs : Step db s (.begin server (some other)) t) : WasRefused t := by
  cases hs with
  | refuse _ _ email password hpoint hopen =>
    exact ⟨server, _, mem_logins_finish.mpr (Or.inr ⟨rfl, rfl⟩), rfl⟩

/-- A call that asked for a second transaction was refused. -/
lemma wasRefused_of_run {ls : List Label} (hrun : Transition.Run (Step db) started ls t)
    {server other : Server} (hls : .begin server (some other) ∈ ls) : WasRefused t := by
  induction hrun with
  | nil => simp at hls
  | snoc hrun hs ih =>
    rcases List.mem_append.mp hls with hls | hls
    · exact (ih hls).step hs
    · rw [List.mem_singleton] at hls
      subst hls
      exact wasRefused_of_step hs

/-- No call returns what a refused one does when it is alone. -/
lemma WasRefused.not_undisturbed (h : WasRefused s) : ¬ Undisturbed db s := by
  obtain ⟨server, login, hlogin, hresult⟩ := h
  intro hundisturbed
  have halone := hundisturbed server login hlogin
  rw [hresult] at halone
  cases hauth : authenticate db login.email login.password <;>
    simp [hauth, Except.mapError] at halone

/-- All calls return what they return alone exactly if none of them begins while a transaction is
open. -/
theorem undisturbed_iff {ls : List Label} (hrun : Transition.Run (Step db) started ls t) :
    Undisturbed db t ↔ ∀ server other, Label.begin server (some other) ∉ ls := by
  constructor
  · exact fun h server other hls => (wasRefused_of_run hrun hls).not_undisturbed h
  · intro hls
    refine (hrun.invariant_of_labels (I := fun s => Answered db s ∧ Undisturbed db s)
      (P := fun l => ∀ server other, l ≠ Label.begin server (some other))
      (fun l hl server other heq => hls server other (heq ▸ hl)) ?_ fun s l t hl h hs => ?_).2
    · exact ⟨by simp [Answered, started], by simp [Undisturbed, started]⟩
    · exact ⟨h.1.step hs, h.2.step h.1 hl hs⟩

/-- A table with one user. -/
def oneUser : List (Bytes × Bytes) := [([97], hashOf [112])]

omit [UsersDatabase] [BCrypt] in
/-- One login at each server, one after the other. -/
theorem undisturbed_iff_serial :
    letI := usersTable
    letI := hexBCrypt
    ∃ ls t, Transition.Run (Step oneUser) started ls t ∧
      (t.logins .sessionsServer).map Login.result = [.ok true] ∧
      (t.logins .proxyServer).map Login.result = [.ok false] ∧
      Undisturbed oneUser t := by
  let := usersTable
  let := hexBCrypt
  have hrun : ∃ ls t, Transition.Run (Step oneUser) started ls t ∧
      (t.logins .sessionsServer).map Login.result = [.ok true] ∧
      (t.logins .proxyServer).map Login.result = [.ok false] ∧
      ∀ server other, Label.begin server (some other) ∉ ls :=
    ⟨_, _,
      .cons (.arrive .sessionsServer [97] [112] rfl) <|
      .cons (.begin .sessionsServer [97] [112] rfl rfl) <|
      .cons (.query .sessionsServer [97] [112] rfl) <|
      .cons (.close .sessionsServer [97] [112] (.ok [hashOf [112]]) rfl) <|
      .cons (.arrive .proxyServer [98] [112] rfl) <|
      .cons (.begin .proxyServer [98] [112] rfl rfl) <|
      .cons (.query .proxyServer [98] [112] rfl) <|
      .cons (.close .proxyServer [98] [112] (.ok []) rfl) <| .nil _,
      rfl, rfl, by simp⟩
  obtain ⟨ls, t, hrun, hsessions, hproxy, hls⟩ := hrun
  exact ⟨ls, t, hrun, hsessions, hproxy, (undisturbed_iff hrun).mpr hls⟩

omit [UsersDatabase] [BCrypt] in
/-- A login that begins during one at the other server fails. -/
theorem not_undisturbed_overlapping :
    letI := usersTable
    letI := hexBCrypt
    ∃ ls t, Transition.Run (Step oneUser) started ls t ∧
      ¬ Undisturbed oneUser t := by
  let := usersTable
  let := hexBCrypt
  have hrun : ∃ ls t, Transition.Run (Step oneUser) started ls t ∧
      WasRefused t :=
    ⟨_, _,
      .cons (.arrive .sessionsServer [97] [112] rfl) <|
      .cons (.begin .sessionsServer [97] [112] rfl rfl) <|
      .cons (.arrive .proxyServer [97] [112] rfl) <|
      .cons (.refuse .proxyServer .sessionsServer [97] [112] rfl rfl) <| .nil _,
      .proxyServer, _, List.mem_singleton.mpr rfl, rfl⟩
  obtain ⟨ls, t, hrun, hrefused⟩ := hrun
  exact ⟨ls, t, hrun, hrefused.not_undisturbed⟩

end SharedConnection

end UsersManager

end ScreenViewer
