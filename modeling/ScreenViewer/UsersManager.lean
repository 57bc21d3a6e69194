import Mathlib
import ScreenViewer.Json

/-!
# Users

`UsersManager` adds users to a database and checks credentials against it.  The database and the
password hashing are not part of the repository: `UsersDatabase` and `BCrypt` list the operations
used, and the `Lawful` classes what their documentation promises of them.
-/

namespace ScreenViewer

/-- Why an `INSERT` fails. -/
inductive InsertError
  | uniqueViolation
  | other (what : Bytes)
  deriving DecidableEq

/-- The prepared statements of the users' database, each a transaction of its own. -/
class UsersDatabase where
  /-- What the database holds. -/
  Database : Type
  /-- `INSERT INTO "user" VALUES($1, $2);` and the commit. -/
  insertUser : Database → Bytes → Bytes → Except InsertError Database
  /-- `SELECT password_hash FROM "user" WHERE email=$1;`. -/
  getPasswordHash : Database → Bytes → Except Bytes (List Bytes)

/-- The operations of `BCrypt`. -/
class BCrypt where
  /-- `generateHash(password)`, with the salt that is drawn. -/
  generateHash : Bytes → Bytes → Except Bytes Bytes
  /-- `validatePassword(password, hash)`. -/
  validatePassword : Bytes → Bytes → Except Bytes Bool

/-- A text of printable ASCII characters. -/
def IsPrintable (text : Bytes) : Prop := ∀ b ∈ text, 32 ≤ b.toNat ∧ b.toNat < 127

/-- A hash is printable, and the password it was made from is valid for it. -/
class LawfulBCrypt [BCrypt] : Prop where
  isPrintable (salt password hash : Bytes) (h : BCrypt.generateHash salt password = .ok hash) :
    IsPrintable hash
  validatePassword (salt password hash : Bytes)
    (h : BCrypt.generateHash salt password = .ok hash) :
    BCrypt.validatePassword password hash = .ok true

/-- The email is the primary key of the table of users: a row that was inserted is the only one for
its email, and inserting others leaves it alone. -/
class LawfulUsersDatabase [UsersDatabase] : Prop where
  getPasswordHash_insertUser (db db' : UsersDatabase.Database) (email hash : Bytes)
    (hhash : IsPrintable hash) (h : UsersDatabase.insertUser db email hash = .ok db') :
    UsersDatabase.getPasswordHash db' email = .ok [hash]
  getPasswordHash_of_insertUser (db db' : UsersDatabase.Database)
    (email hash email' hash' : Bytes) (h : UsersDatabase.insertUser db email' hash' = .ok db')
    (hrow : UsersDatabase.getPasswordHash db email = .ok [hash]) :
    UsersDatabase.getPasswordHash db' email = .ok [hash]

namespace UsersManager

open UsersDatabase BCrypt

variable [UsersDatabase] [BCrypt]

/-- `checkEmailConstraints`. -/
def checkEmailConstraints (_ : Bytes) : Except Bytes Unit := .ok ()

/-- `checkPasswordConstraints`. -/
def checkPasswordConstraints (_ : Bytes) : Except Bytes Unit := .ok ()

/-- `addUser`: the new database, or the text of the exception.  `salt` is what `generateHash`
draws. -/
def addUser (db : Database) (salt email password : Bytes) : Except Bytes Database := do
  checkEmailConstraints email
  checkPasswordConstraints password
  let hash ← generateHash salt password
  match insertUser db email hash with
  | .ok db => .ok db
  | .error .uniqueViolation =>
    .error (Bytes.ofString "User with '" ++ email ++ Bytes.ofString "' email already exists.")
  | .error (.other what) => .error what

/-- `authenticate`. -/
def authenticate (db : Database) (email password : Bytes) : Except Bytes Bool := do
  match ← getPasswordHash db email with
  | [] => return false
  | hash :: _ => validatePassword password hash

/-- The database after further calls of `addUser`, each with its salt, email and password.  A call
that throws leaves the database as it was. -/
def addUsers (db : Database) (calls : List (Bytes × Bytes × Bytes)) : Database :=
  calls.foldl
    (fun db call =>
      match addUser db call.1 call.2.1 call.2.2 with
      | .ok db => db
      | .error _ => db)
    db

/-- Inserting a hash of the password adds a user. -/
lemma addUser_eq_ok {db db' : Database} {salt email password hash : Bytes}
    (hhash : generateHash salt password = .ok hash)
    (hinsert : insertUser db email hash = .ok db') : addUser db salt email password = .ok db' := by
  simp only [addUser, checkEmailConstraints, checkPasswordConstraints, hhash, bind, Except.bind,
    hinsert]

/-- A user is added by inserting a hash of the password. -/
lemma of_addUser_eq_ok {db db' : Database} {salt email password : Bytes}
    (h : addUser db salt email password = .ok db') :
    ∃ hash, generateHash salt password = .ok hash ∧ insertUser db email hash = .ok db' := by
  cases hhash : generateHash salt password with
  | error what => simp [addUser, checkEmailConstraints, checkPasswordConstraints, hhash, bind,
      Except.bind] at h
  | ok hash =>
    refine ⟨hash, rfl, ?_⟩
    simp only [addUser, checkEmailConstraints, checkPasswordConstraints, hhash, bind,
      Except.bind] at h
    cases hinsert : insertUser db email hash with
    | ok db'' => simpa [hinsert] using h
    | error e => cases e <;> simp [hinsert] at h

/-- Adding users leaves the rows of others alone. -/
lemma getPasswordHash_addUsers [LawfulUsersDatabase] {db : Database} {email hash : Bytes}
    (h : getPasswordHash db email = .ok [hash]) (calls : List (Bytes × Bytes × Bytes)) :
    getPasswordHash (addUsers db calls) email = .ok [hash] := by
  induction calls generalizing db with
  | nil => exact h
  | cons call calls ih =>
    rw [addUsers, List.foldl_cons]
    refine ih ?_
    cases hcall : addUser db call.1 call.2.1 call.2.2 with
    | ok db' =>
      obtain ⟨hash', -, hinsert⟩ := of_addUser_eq_ok hcall
      exact LawfulUsersDatabase.getPasswordHash_of_insertUser _ _ _ _ _ _ hinsert h
    | error what => exact h

/-- Whoever was added is authenticated from then on. -/
theorem authenticate_addUsers [LawfulUsersDatabase] [LawfulBCrypt] {db db' : Database}
    {salt email password : Bytes} (h : addUser db salt email password = .ok db')
    (calls : List (Bytes × Bytes × Bytes)) :
    authenticate (addUsers db' calls) email password = .ok true := by
  obtain ⟨hash, hhash, hinsert⟩ := of_addUser_eq_ok h
  have hrow := getPasswordHash_addUsers (LawfulUsersDatabase.getPasswordHash_insertUser _ _ _ _
    (LawfulBCrypt.isPrintable _ _ _ hhash) hinsert) calls
  rw [authenticate, hrow]
  exact LawfulBCrypt.validatePassword _ _ _ hhash

end UsersManager

end ScreenViewer
