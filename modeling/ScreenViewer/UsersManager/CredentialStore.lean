import Mathlib
import ScreenViewer.UsersManager.Table

/-!
# The credentials that the users' table stands for

Over any history of calls, the table of users stands for a map from emails to passwords
(`Represents`): `addUser` adds the email to the map or finds it there and throws, and `authenticate`
looks it up.  The map holds a password only up to what `bcrypt` sees of it, which is its first 72
bytes up to the first zero byte.
-/

namespace ScreenViewer

/-- The table of users compares emails exactly, and the email is its primary key. -/
class ExactUsersTable [UsersDatabase] : Prop extends LawfulUsersDatabase where
  getPasswordHash_insertUser_of_ne (db db' : UsersDatabase.Database) (email email' hash' : Bytes)
    (hne : email ≠ email') (h : UsersDatabase.insertUser db email' hash' = .ok db') :
    UsersDatabase.getPasswordHash db' email = UsersDatabase.getPasswordHash db email
  insertUser_of_row (db : UsersDatabase.Database) (email hash hash' : Bytes)
    (h : UsersDatabase.getPasswordHash db email = .ok [hash]) :
    UsersDatabase.insertUser db email hash' = .error .uniqueViolation

namespace UsersManager

/-- What `bcrypt` sees of a password: its first 72 bytes, up to the first zero byte. -/
def visible (password : Bytes) : Bytes := (password.take 72).takeWhile (· ≠ 0)

end UsersManager

/-- Every password can be hashed, and exactly those are valid for a hash that `bcrypt` cannot tell
from the hashed one. -/
class ExactBCrypt [BCrypt] : Prop extends LawfulBCrypt where
  generateHash (salt password : Bytes) : ∃ hash, BCrypt.generateHash salt password = .ok hash
  validatePassword_eq (salt password password' hash : Bytes)
    (h : BCrypt.generateHash salt password = .ok hash) :
    BCrypt.validatePassword password' hash =
      .ok (UsersManager.visible password' = UsersManager.visible password)

namespace UsersManager

section Store

open UsersDatabase BCrypt

variable [UsersDatabase] [BCrypt]

/-- The text of the `UsersManagerException` for an email that is present. -/
def alreadyExists (email : Bytes) : Bytes :=
  Bytes.ofString "User with '" ++ email ++ Bytes.ofString "' email already exists."

/-- A call of the `UsersManager`; hashing draws the salt. -/
inductive StoreCall
  | addUser (salt email password : Bytes)
  | authenticate (email password : Bytes)
  deriving DecidableEq

/-- The table after a call. -/
def execute (db : Database) (call : StoreCall) : Database :=
  match call with
  | .addUser salt email password =>
    match addUser db salt email password with
    | .ok db => db
    | .error _ => db
  | .authenticate _ _ => db

/-- The table after some calls. -/
def executeAll (db : Database) (calls : List StoreCall) : Database := calls.foldl execute db

/-- One of the calls has added the email with this password. -/
def Added (db : Database) (calls : List StoreCall) (email password : Bytes) : Prop :=
  ∃ before salt after db', calls = before ++ .addUser salt email password :: after ∧
    addUser (executeAll db before) salt email password = .ok db'

/-- The table holds no row. -/
def IsEmptyTable (db : Database) : Prop :=
  ∀ email hash rest, getPasswordHash db email ≠ .ok (hash :: rest)

/-! ## The abstract store -/

/-- What the table holds for an email: no row, or one with a hash of the password. -/
def Row (db : Database) (email : Bytes) : Option Bytes → Prop
  | none => ∀ hash rest, getPasswordHash db email ≠ .ok (hash :: rest)
  | some password => ∃ salt hash, generateHash salt password = .ok hash ∧
      getPasswordHash db email = .ok [hash]

/-- The table stands for a map from emails to passwords. -/
def Represents (db : Database) (passwords : Bytes → Option Bytes) : Prop :=
  ∀ email, Row db email (passwords email)

variable {db db' : Database} {passwords : Bytes → Option Bytes} {calls : List StoreCall}
  {call : StoreCall} {salt email password : Bytes}

/-- An empty table stands for the empty map. -/
lemma IsEmptyTable.represents (h : IsEmptyTable db) : Represents db fun _ => none :=
  h

/-- A row depends on what is stored for its email only. -/
lemma Row.congr {stored : Option Bytes} (h : Row db email stored)
    (heq : getPasswordHash db' email = getPasswordHash db email) : Row db' email stored := by
  cases stored with
  | none =>
    intro hash rest
    rw [heq]
    exact h hash rest
  | some password =>
    obtain ⟨salt, hash, hhash, hrow⟩ := h
    exact ⟨salt, hash, hhash, heq.trans hrow⟩

variable [ExactUsersTable] [ExactBCrypt]

/-- An email that is present is not added. -/
lemma Represents.addUser_of_some (h : Represents db passwords)
    (hpassword : passwords email = some password) (salt password' : Bytes) :
    addUser db salt email password' = .error (alreadyExists email) := by
  have hrow := h email
  rw [hpassword] at hrow
  obtain ⟨_, hash, -, hrow⟩ := hrow
  obtain ⟨hash', hhash'⟩ := ExactBCrypt.generateHash salt password'
  have hinsert := ExactUsersTable.insertUser_of_row db email hash hash' hrow
  simp only [addUser, checkEmailConstraints, checkPasswordConstraints, hhash', hinsert, bind,
    Except.bind, alreadyExists]

/-- An email that is added is absent, and its password enters the map. -/
lemma Represents.addUser (h : Represents db passwords)
    (hadd : addUser db salt email password = .ok db') :
    passwords email = none ∧ Represents db' (Function.update passwords email (some password)) := by
  obtain ⟨hash, hhash, hinsert⟩ := of_addUser_eq_ok hadd
  constructor
  · cases hpassword : passwords email with
    | none => rfl
    | some password' =>
      rw [h.addUser_of_some hpassword] at hadd
      cases hadd
  · intro email'
    by_cases hemail : email' = email
    · rw [hemail, Function.update_self]
      refine ⟨salt, hash, hhash, ?_⟩
      exact LawfulUsersDatabase.getPasswordHash_insertUser _ _ _ _
        (LawfulBCrypt.isPrintable _ _ _ hhash) hinsert
    · rw [Function.update_of_ne hemail]
      apply (h email').congr
      exact ExactUsersTable.getPasswordHash_insertUser_of_ne _ _ _ _ _ hemail hinsert

omit [ExactUsersTable] in
/-- Whoever authenticates is looked up in the map. -/
lemma Represents.authenticate_iff (h : Represents db passwords) :
    authenticate db email password = .ok true ↔
      ∃ password', passwords email = some password' ∧ visible password = visible password' := by
  have hrow := h email
  cases hpassword : passwords email with
  | none =>
    rw [hpassword] at hrow
    simp only [reduceCtorEq, false_and, exists_false, iff_false]
    unfold authenticate
    cases hrows : getPasswordHash db email with
    | error what => simp [bind, Except.bind]
    | ok hashes =>
      cases hashes with
      | nil => simp [bind, Except.bind, pure, Except.pure]
      | cons hash rest => exact absurd hrows (hrow hash rest)
  | some password' =>
    rw [hpassword] at hrow
    obtain ⟨salt, hash, hhash, hrow⟩ := hrow
    have hvalid := ExactBCrypt.validatePassword_eq salt password' password hash hhash
    simp [authenticate, hrow, hvalid, bind, Except.bind]

/-! ## Histories -/

omit [ExactUsersTable] [ExactBCrypt] in
/-- A call that adds a user leaves the new table. -/
lemma execute_of_ok (h : UsersManager.addUser db salt email password = .ok db') :
    execute db (.addUser salt email password) = db' := by
  simp only [execute, h]

omit [ExactUsersTable] [ExactBCrypt] in
/-- A call that throws leaves the table as it was. -/
lemma execute_of_error {what : Bytes}
    (h : UsersManager.addUser db salt email password = .error what) :
    execute db (.addUser salt email password) = db := by
  simp only [execute, h]

omit [ExactUsersTable] [ExactBCrypt] in
/-- The last call of a history has added the user, or an earlier one has. -/
lemma added_append_singleton {password : Bytes} :
    Added db (calls ++ [call]) email password ↔
      Added db calls email password ∨ ∃ salt db', call = .addUser salt email password ∧
        addUser (executeAll db calls) salt email password = .ok db' := by
  constructor
  · rintro ⟨before, salt, after, db', hcalls, hadd⟩
    rcases List.eq_nil_or_concat after with rfl | ⟨after, last, rfl⟩
    · obtain ⟨rfl, hcall⟩ := List.append_inj' hcalls rfl
      exact Or.inr ⟨salt, db', (List.cons.inj hcall).1, hadd⟩
    · rw [List.concat_eq_append, ← List.cons_append, ← List.append_assoc] at hcalls
      obtain ⟨hcalls, -⟩ := List.append_inj' hcalls rfl
      exact Or.inl ⟨before, salt, after, db', hcalls, hadd⟩
  · rintro (⟨before, salt, after, db', rfl, hadd⟩ | ⟨salt, db', rfl, hadd⟩)
    · exact ⟨before, salt, after ++ [call], db', by simp, hadd⟩
    · exact ⟨calls, salt, [], db', rfl, hadd⟩

omit [ExactUsersTable] [ExactBCrypt] in
/-- Calls are performed one after the other. -/
lemma executeAll_append (calls calls' : List StoreCall) :
    executeAll db (calls ++ calls') = executeAll (executeAll db calls) calls' :=
  List.foldl_append

omit [ExactUsersTable] [ExactBCrypt] in
/-- The first call is performed first. -/
lemma executeAll_cons (call : StoreCall) (calls : List StoreCall) :
    executeAll db (call :: calls) = executeAll (execute db call) calls :=
  List.foldl_cons ..

/-- After any history, the table stands for the map from the emails that were added to their
passwords. -/
theorem exists_represents (hempty : IsEmptyTable db) (calls : List StoreCall) :
    ∃ passwords, Represents (executeAll db calls) passwords ∧
      ∀ email password, passwords email = some password ↔ Added db calls email password := by
  induction calls using List.reverseRecOn with
  | nil =>
    refine ⟨_, hempty.represents, fun email password => ?_⟩
    simp [Added]
  | append_singleton calls call ih =>
    obtain ⟨passwords, hrepresents, hadded⟩ := ih
    rw [executeAll_append, executeAll_cons]
    cases call with
    | authenticate email password =>
      refine ⟨passwords, hrepresents, fun email password => ?_⟩
      rw [hadded, added_append_singleton]
      simp
    | addUser salt email password =>
      cases hadd : UsersManager.addUser (executeAll db calls) salt email password with
      | error what =>
        refine ⟨passwords, ?_, fun email' password' => ?_⟩
        · rw [execute_of_error hadd]
          exact hrepresents
        · rw [hadded, added_append_singleton]
          refine ⟨Or.inl, ?_⟩
          rintro (h | ⟨salt', db', heq, hadd'⟩)
          · exact h
          · cases heq
            rw [hadd] at hadd'
            cases hadd'
      | ok db' =>
        obtain ⟨hnone, hrepresents'⟩ := hrepresents.addUser hadd
        refine ⟨Function.update passwords email (some password), ?_, fun email' password' => ?_⟩
        · rw [execute_of_ok hadd]
          exact hrepresents'
        · rw [added_append_singleton, ← hadded]
          by_cases hemail : email' = email
          · subst hemail
            rw [Function.update_self, hnone]
            constructor
            · intro h
              cases h
              exact Or.inr ⟨salt, db', rfl, hadd⟩
            · rintro (h | ⟨salt', db'', heq, hadd'⟩)
              · cases h
              · cases heq
                rfl
          · rw [Function.update_of_ne hemail]
            refine ⟨Or.inl, ?_⟩
            rintro (h | ⟨salt', db'', heq, hadd'⟩)
            · exact h
            · cases heq
              exact absurd rfl hemail

/-- A user is authenticated exactly if the email was added with a password that `bcrypt` cannot tell
from the given one; and adding an email once more throws and leaves no trace. -/
theorem authenticate_iff_added (hempty : IsEmptyTable db) (calls : List StoreCall)
    (email password : Bytes) :
    (authenticate (executeAll db calls) email password = .ok true ↔
      ∃ password', Added db calls email password' ∧ visible password = visible password') ∧
    ∀ salt password' password'', Added db calls email password' →
      UsersManager.addUser (executeAll db calls) salt email password'' =
        .error (alreadyExists email) ∧
      ∀ later, executeAll db (calls ++ .addUser salt email password'' :: later) =
        executeAll db (calls ++ later) := by
  obtain ⟨passwords, hrepresents, hadded⟩ := exists_represents hempty calls
  constructor
  · rw [hrepresents.authenticate_iff]
    simp only [hadded]
  · intro salt password' password'' h
    have hthrows := hrepresents.addUser_of_some ((hadded _ _).mpr h) salt password''
    refine ⟨hthrows, fun later => ?_⟩
    rw [executeAll_append, executeAll_cons, execute_of_error hthrows, executeAll_append]

end Store

/-! ## A table and a hash that meet the laws -/

/-- Inserts a row, with the email as the primary key, into a table of arbitrary bytes. -/
def insertBytes (db : List (Bytes × Bytes)) (email hash : Bytes) :
    Except InsertError (List (Bytes × Bytes)) :=
  if ∃ row ∈ db, row.1 = email then .error .uniqueViolation else .ok (db ++ [(email, hash)])

/-- The table of arbitrary bytes as a database. -/
abbrev bytesTable : UsersDatabase where
  Database := List (Bytes × Bytes)
  insertUser := insertBytes
  getPasswordHash db email := .ok (hashesOf db email)

/-- Hashing what `bcrypt` sees of a password with `hashOf`. -/
abbrev visibleBCrypt : BCrypt where
  generateHash _ password := .ok (hashOf (visible password))
  validatePassword password hash := .ok (hash = hashOf (visible password))

/-- A row is inserted if its email is absent. -/
lemma of_insertBytes_eq_ok {db db' : List (Bytes × Bytes)} {email hash : Bytes}
    (h : insertBytes db email hash = .ok db') :
    hashesOf db email = [] ∧ db' = db ++ [(email, hash)] := by
  unfold insertBytes at h
  split at h
  · cases h
  · rename_i hnone
    refine ⟨?_, (Except.ok.inj h).symm⟩
    rw [hashesOf, List.map_eq_nil_iff, List.filter_eq_nil_iff]
    exact fun row hrow => by simpa using fun heq => hnone ⟨row, hrow, heq⟩

/-- A row adds its hash to those of its email. -/
lemma hashesOf_append_singleton (db : List (Bytes × Bytes)) (email email' hash : Bytes) :
    hashesOf (db ++ [(email', hash)]) email =
      hashesOf db email ++ if email' = email then [hash] else [] := by
  unfold hashesOf
  rw [List.filter_append, List.map_append]
  by_cases h : email' = email <;> simp [h]

/-- The table of arbitrary bytes compares emails exactly. -/
theorem exact_bytesTable : @ExactUsersTable bytesTable := by
  let := bytesTable
  refine { getPasswordHash_insertUser := ?_, getPasswordHash_of_insertUser := ?_,
           getPasswordHash_insertUser_of_ne := ?_, insertUser_of_row := ?_ }
  · intro db db' email hash _ h
    obtain ⟨hnone, rfl⟩ := of_insertBytes_eq_ok h
    refine congrArg Except.ok ?_
    rw [hashesOf_append_singleton, hnone, if_pos rfl, List.nil_append]
  · intro db db' email hash email' hash' h hrow
    obtain ⟨hnone, rfl⟩ := of_insertBytes_eq_ok h
    have hrows : hashesOf db email = [hash] := Except.ok.inj hrow
    have hne : email' ≠ email := by
      rintro rfl
      rw [hnone] at hrows
      cases hrows
    refine congrArg Except.ok ?_
    rw [hashesOf_append_singleton, hrows, if_neg hne, List.append_nil]
  · intro db db' email email' hash' hne h
    obtain ⟨-, rfl⟩ := of_insertBytes_eq_ok h
    refine congrArg Except.ok ?_
    rw [hashesOf_append_singleton, if_neg (Ne.symm hne), List.append_nil]
  · intro db email hash hash' h
    have hrows : hashesOf db email = [hash] := Except.ok.inj h
    have hmem : hash ∈ hashesOf db email := by rw [hrows]; exact List.mem_singleton_self hash
    obtain ⟨row, hrow, -⟩ := List.mem_map.mp hmem
    obtain ⟨hrow, hemail⟩ := List.mem_filter.mp hrow
    exact if_pos ⟨row, hrow, by simpa using hemail⟩

/-- Digits are told apart. -/
lemma hashDigit_inj {m n : ℕ} (hm : m < 16) (hn : n < 16) (h : hashDigit m = hashDigit n) :
    m = n := by
  have key : ∀ m < 16, ∀ n < 16, hashDigit m = hashDigit n → m = n := by decide
  exact key m hm n hn h

/-- Passwords are told apart by their hashes. -/
lemma hashOf_injective : Function.Injective hashOf := by
  intro password password' h
  have hdigits := List.append_cancel_left h
  induction password generalizing password' with
  | nil =>
    cases password' with
    | nil => rfl
    | cons b rest => simp at hdigits
  | cons a password ih =>
    cases password' with
    | nil => simp at hdigits
    | cons b password' =>
      simp only [List.flatMap_cons, List.cons_append, List.nil_append, List.cons.injEq] at hdigits
      obtain ⟨hhigh, hlow, hrest⟩ := hdigits
      have hdiv := hashDigit_inj (Nat.div_lt_of_lt_mul a.toNat_lt) (Nat.div_lt_of_lt_mul b.toNat_lt)
        hhigh
      have hmod := hashDigit_inj (Nat.mod_lt _ (by decide)) (Nat.mod_lt _ (by decide)) hlow
      have hab : a = b := UInt8.toNat_inj.mp (by omega)
      have hrest' : hashOf password = hashOf password' := by unfold hashOf; rw [hrest]
      rw [hab, ih hrest' hrest]

/-- The hash sees of a password what `bcrypt` does. -/
theorem exact_visibleBCrypt : @ExactBCrypt visibleBCrypt := by
  let := visibleBCrypt
  have hlawful := lawful_hexBCrypt
  refine { isPrintable := ?_, validatePassword := ?_, generateHash := ?_,
           validatePassword_eq := ?_ }
  · intro salt password hash h
    exact @LawfulBCrypt.isPrintable hexBCrypt hlawful salt (visible password) hash h
  · intro salt password hash h
    exact @LawfulBCrypt.validatePassword hexBCrypt hlawful salt (visible password) hash h
  · intro salt password
    exact ⟨_, rfl⟩
  · intro salt password password' hash h
    obtain rfl : hashOf (visible password) = hash := Except.ok.inj h
    exact congrArg Except.ok (decide_eq_decide.mpr (hashOf_injective.eq_iff.trans eq_comm))

/-- A user logs in with a password that continues the right one behind a zero byte. -/
theorem authenticate_iff_added_zero :
    @authenticate bytesTable visibleBCrypt
      (@executeAll bytesTable visibleBCrypt [] [.addUser [] [97] [98]]) [97] [98, 0, 99] =
        .ok true ∧
    @addUser bytesTable visibleBCrypt
      (@executeAll bytesTable visibleBCrypt [] [.addUser [] [97] [98]]) [] [97] [99] =
        .error (alreadyExists [97]) := by
  let := bytesTable
  let := visibleBCrypt
  have := exact_bytesTable
  have := exact_visibleBCrypt
  have hempty : IsEmptyTable ([] : List (Bytes × Bytes)) := by
    intro email hash rest h
    cases h
  have hadded : Added ([] : List (Bytes × Bytes)) [.addUser [] [97] [98]] [97] [98] :=
    ⟨[], [], [], [([97], hashOf [98])], rfl, rfl⟩
  have h := authenticate_iff_added hempty [.addUser [] [97] [98]] [97] [98, 0, 99]
  exact ⟨h.1.mpr ⟨[98], hadded, by decide⟩, (h.2 [] [98] [99] hadded).1⟩

/-- That password was never the user's. -/
theorem not_authenticate_iff_added_exactly :
    ¬ (@authenticate bytesTable visibleBCrypt
        (@executeAll bytesTable visibleBCrypt [] [.addUser [] [97] [98]]) [97] [98, 0, 99] =
          .ok true ↔
      @Added bytesTable visibleBCrypt [] [.addUser [] [97] [98]] [97] [98, 0, 99]) := by
  intro h
  obtain ⟨before, salt, after, db', hcalls, -⟩ := h.mp rfl
  have hmem : StoreCall.addUser salt [97] [98, 0, 99] ∈ [StoreCall.addUser [] [97] [98]] := by
    rw [hcalls]
    exact List.mem_append_right _ List.mem_cons_self
  simp at hmem

end UsersManager

end ScreenViewer
