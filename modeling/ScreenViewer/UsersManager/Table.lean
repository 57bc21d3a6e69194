import Mathlib
import ScreenViewer.UsersManager

/-!
# A table of users in memory

A database of users that is a list of rows, and a password hash that spells the password in
hexadecimal digits behind the prefix of a `bcrypt` hash.  Both are lawful, so the laws of
`UsersManager` can be met, and logins can be tried out on concrete input.
-/

namespace ScreenViewer

namespace UsersManager

/-- Inserts a row, with the email as the primary key.  Text must be valid UTF-8. -/
def insertRow (db : List (Bytes × Bytes)) (email hash : Bytes) :
    Except InsertError (List (Bytes × Bytes)) :=
  if ¬ email.IsUtf8 then
    .error (.other (Bytes.ofString "invalid byte sequence for encoding \"UTF8\""))
  else if ∃ row ∈ db, row.1 = email then .error .uniqueViolation
  else .ok (db ++ [(email, hash)])

/-- The hashes in the rows of an email. -/
def hashesOf (db : List (Bytes × Bytes)) (email : Bytes) : List Bytes :=
  (db.filter (·.1 = email)).map Prod.snd

/-- The table as a database. -/
abbrev usersTable : UsersDatabase where
  Database := List (Bytes × Bytes)
  insertUser := insertRow
  getPasswordHash db email := .ok (hashesOf db email)

/-- A hexadecimal digit. -/
def hashDigit (n : ℕ) : Byte := UInt8.ofNat (if n < 10 then 48 + n else 87 + n)

/-- The hash of a password. -/
def hashOf (password : Bytes) : Bytes :=
  Bytes.ofString "$2b$12$" ++
    password.flatMap fun b => [hashDigit (b.toNat / 16), hashDigit (b.toNat % 16)]

/-- Hashing with `hashOf`, which needs no salt. -/
abbrev hexBCrypt : BCrypt where
  generateHash _ password := .ok (hashOf password)
  validatePassword password hash := .ok (hash = hashOf password)

/-- The digits of a byte are printable. -/
lemma printable_hashDigit : ∀ b : Byte, ∀ n, n = b.toNat / 16 ∨ n = b.toNat % 16 →
    32 ≤ (hashDigit n).toNat ∧ (hashDigit n).toNat < 127 := by
  have key : ∀ n < 16, 32 ≤ (hashDigit n).toNat ∧ (hashDigit n).toNat < 127 := by decide
  rintro b n (rfl | rfl)
  · exact key _ (Nat.div_lt_of_lt_mul b.toNat_lt)
  · exact key _ (Nat.mod_lt _ (by decide))

/-- Spelled passwords are as hashes should be. -/
theorem lawful_hexBCrypt : @LawfulBCrypt hexBCrypt := by
  refine @LawfulBCrypt.mk hexBCrypt (fun salt password hash h => ?_) fun salt password hash h => ?_
  · obtain rfl : hashOf password = hash := Except.ok.inj h
    intro b hb
    rcases List.mem_append.mp hb with hb | hb
    · have key : ∀ b ∈ Bytes.ofString "$2b$12$", 32 ≤ b.toNat ∧ b.toNat < 127 := by decide +kernel
      exact key b hb
    · obtain ⟨a, -, hb⟩ := List.mem_flatMap.mp hb
      simp only [List.mem_cons, List.not_mem_nil, or_false] at hb
      rcases hb with rfl | rfl
      · exact printable_hashDigit a _ (Or.inl rfl)
      · exact printable_hashDigit a _ (Or.inr rfl)
  · obtain rfl : hashOf password = hash := Except.ok.inj h
    exact congrArg Except.ok (decide_eq_true rfl)

/-- A row that is inserted is the first one with its email. -/
lemma of_insertRow_eq_ok {db db' : List (Bytes × Bytes)} {email hash : Bytes}
    (h : insertRow db email hash = .ok db') :
    hashesOf db email = [] ∧ db' = db ++ [(email, hash)] := by
  unfold insertRow at h
  split at h
  · cases h
  · split at h
    · cases h
    · rename_i hnone
      refine ⟨?_, (Except.ok.inj h).symm⟩
      rw [hashesOf, List.map_eq_nil_iff, List.filter_eq_nil_iff]
      exact fun row hrow => by simpa using fun heq => hnone ⟨row, hrow, heq⟩

/-- The table is as the code expects its database. -/
theorem lawful_usersTable : @LawfulUsersDatabase usersTable := by
  refine @LawfulUsersDatabase.mk usersTable (fun db db' email hash _ h => ?_)
    fun db db' email hash email' hash' h hrow => ?_
  · obtain ⟨hnone, hdb⟩ := of_insertRow_eq_ok h
    refine congrArg Except.ok ?_
    rw [hdb, hashesOf, List.filter_append, List.map_append, ← hashesOf, hnone]
    simp
  · obtain ⟨hnone, hdb⟩ := of_insertRow_eq_ok h
    have hrows : hashesOf db email = [hash] := Except.ok.inj hrow
    have hne : email' ≠ email := by
      rintro rfl
      rw [hnone] at hrows
      cases hrows
    refine congrArg Except.ok ?_
    rw [hdb, hashesOf, List.filter_append, List.map_append, ← hashesOf, hrows]
    simp [hne]

/-- The first user of an empty table. -/
lemma addUser_nil (salt password : Bytes) {email : Bytes} (h : email.IsUtf8) :
    @addUser usersTable hexBCrypt [] salt email password = .ok [(email, hashOf password)] := by
  have hrow : insertRow [] email (hashOf password) = .ok [(email, hashOf password)] := by
    simp [insertRow, h]
  exact @addUser_eq_ok usersTable hexBCrypt _ _ salt _ password _ rfl hrow

end UsersManager

end ScreenViewer
