import Mathlib
import ScreenViewer.Json

/-!
# Objects of strings

The part of JSON that the program writes: objects whose fields are strings.  `stringObjects` writes
such a document as `nlohmann::json` does, without blanks and with the control characters, the quote
and the backslash escaped, and reads it back.  It is a `LawfulJsonLibrary`, so what is proved from
these laws is not void, and the server can be run on concrete input with it.
-/

namespace ScreenViewer

namespace Json

/-- A JSON value, as far as it is needed. -/
inductive Value
  | null
  | string (s : Bytes)
  | object (fields : List (Bytes × Bytes))
  deriving DecidableEq

/-! ## Strings -/

/-- A hexadecimal digit. -/
def hexDigit (n : ℕ) : Byte := if n < 10 then UInt8.ofNat (48 + n) else UInt8.ofNat (87 + n)

/-- The value of a hexadecimal digit. -/
def hexValue (b : Byte) : Option ℕ :=
  if 48 ≤ b.toNat ∧ b.toNat ≤ 57 then some (b.toNat - 48)
  else if 97 ≤ b.toNat ∧ b.toNat ≤ 102 then some (b.toNat - 87)
  else if 65 ≤ b.toNat ∧ b.toNat ≤ 70 then some (b.toNat - 55)
  else none

/-- The letter that stands for a byte behind a backslash. -/
def shortEscape (b : Byte) : Option Byte :=
  if b = 8 then some 98
  else if b = 9 then some 116
  else if b = 10 then some 110
  else if b = 12 then some 102
  else if b = 13 then some 114
  else if b = 34 then some 34
  else if b = 92 then some 92
  else none

/-- The byte that a letter behind a backslash stands for. -/
def shortUnescape (b : Byte) : Option Byte :=
  if b = 98 then some 8
  else if b = 116 then some 9
  else if b = 110 then some 10
  else if b = 102 then some 12
  else if b = 114 then some 13
  else if b = 34 then some 34
  else if b = 92 then some 92
  else if b = 47 then some 47
  else none

/-- A byte within a string. -/
def escapeByte (b : Byte) : Bytes :=
  match shortEscape b with
  | some letter => [92, letter]
  | none =>
    if b.toNat < 32 then [92, 117, 48, 48, hexDigit (b.toNat / 16), hexDigit (b.toNat % 16)]
    else [b]

/-- A string in quotes. -/
def quote (s : Bytes) : Bytes := 34 :: (s.flatMap escapeByte ++ [34])

/-- Reads a string behind its opening quote. -/
def parseString : Bytes → Option (Bytes × Bytes)
  | [] => none
  | b :: rest =>
    if b = 34 then some ([], rest)
    else if b = 92 then
      match rest with
      | [] => none
      | letter :: rest =>
        match shortUnescape letter with
        | some c => (parseString rest).map fun r => (c :: r.1, r.2)
        | none =>
          match rest with
          | z₁ :: z₂ :: h₁ :: h₂ :: rest =>
            if letter = 117 ∧ z₁ = 48 ∧ z₂ = 48 then
              match hexValue h₁, hexValue h₂ with
              | some m, some n =>
                (parseString rest).map fun r => (UInt8.ofNat (16 * m + n) :: r.1, r.2)
              | _, _ => none
            else none
          | _ => none
    else if b.toNat < 32 then none
    else (parseString rest).map fun r => (b :: r.1, r.2)

/-- Short escapes are undone. -/
lemma shortUnescape_shortEscape :
    ∀ b : Byte, (shortEscape b).bind shortUnescape = (shortEscape b).map fun _ => b := by
  decide +kernel

/-- The quote and the backslash have short escapes. -/
lemma ne_of_shortEscape_eq_none : ∀ b : Byte, shortEscape b = none → b ≠ 34 ∧ b ≠ 92 := by
  decide +kernel

/-- The hexadecimal digits of a control character are read back. -/
lemma hexValue_hexDigit : ∀ b : Byte, b.toNat < 32 →
    hexValue (hexDigit (b.toNat / 16)) = some (b.toNat / 16) ∧
      hexValue (hexDigit (b.toNat % 16)) = some (b.toNat % 16) := by
  decide +kernel

/-- What is written for a byte is read back. -/
lemma parseString_escapeByte (b : Byte) (rest : Bytes) :
    parseString (escapeByte b ++ rest) = (parseString rest).map fun r => (b :: r.1, r.2) := by
  cases hshort : shortEscape b with
  | some letter =>
    have hletter := shortUnescape_shortEscape b
    simp only [hshort, Option.bind_some, Option.map_some] at hletter
    simp only [escapeByte, hshort, List.cons_append, List.nil_append]
    rw [parseString.eq_def]
    simp [hletter]
  | none =>
    obtain ⟨hquote, hbackslash⟩ := ne_of_shortEscape_eq_none b hshort
    by_cases hcontrol : b.toNat < 32
    · obtain ⟨h₁, h₂⟩ := hexValue_hexDigit b hcontrol
      have hvalue : UInt8.ofNat (16 * (b.toNat / 16) + b.toNat % 16) = b := by
        rw [Nat.div_add_mod, UInt8.ofNat_toNat]
      have hu : shortUnescape 117 = none := by decide
      simp only [escapeByte, hshort, if_pos hcontrol, List.cons_append, List.nil_append]
      rw [parseString.eq_def]
      simp [hu, h₁, h₂, hvalue]
    · simp only [escapeByte, hshort, if_neg hcontrol, List.singleton_append]
      rw [parseString.eq_def]
      simp [hquote, hbackslash, hcontrol]

/-- What is written for a string is read back up to its closing quote. -/
lemma parseString_quote (s rest : Bytes) :
    parseString (s.flatMap escapeByte ++ 34 :: rest) = some (s, rest) := by
  induction s with
  | nil =>
    rw [List.flatMap_nil, List.nil_append, parseString.eq_def]
    rfl
  | cons b s ih =>
    rw [List.flatMap_cons, List.append_assoc, parseString_escapeByte, ih]
    rfl

/-! ## Objects -/

/-- A field of an object. -/
def writeField (field : Bytes × Bytes) : Bytes := quote field.1 ++ 58 :: quote field.2

/-- The fields behind the first one, and the closing brace. -/
def writeFields : List (Bytes × Bytes) → Bytes
  | [] => [125]
  | field :: fields => 44 :: (writeField field ++ writeFields fields)

/-- The text of a document. -/
def write : Value → Bytes
  | .null => Bytes.ofString "null"
  | .string s => quote s
  | .object [] => [123, 125]
  | .object (field :: fields) => 123 :: (writeField field ++ writeFields fields)

/-- Reads a field. -/
def parseField (text : Bytes) : Option ((Bytes × Bytes) × Bytes) :=
  match text with
  | 34 :: rest =>
    match parseString rest with
    | some (key, 58 :: 34 :: rest) => (parseString rest).map fun r => ((key, r.1), r.2)
    | _ => none
  | _ => none

/-- Reads the fields behind the first one, at most as many as the first argument says. -/
def parseFields : ℕ → Bytes → Option (List (Bytes × Bytes))
  | _, [125] => some []
  | n + 1, 44 :: rest =>
    match parseField rest with
    | some (field, rest) => (parseFields n rest).map (field :: ·)
    | none => none
  | _, _ => none

/-- Reads a document. -/
def read (text : Bytes) : Option Value :=
  match text with
  | 34 :: rest =>
    match parseString rest with
    | some (s, []) => some (.string s)
    | _ => none
  | [123, 125] => some (.object [])
  | 123 :: rest =>
    match parseField rest with
    | some (field, rest) =>
      (parseFields rest.length rest).map fun fields => .object (field :: fields)
    | none => none
  | text => if text = Bytes.ofString "null" then some .null else none

/-- A field is read back. -/
lemma parseField_writeField (field : Bytes × Bytes) (rest : Bytes) :
    parseField (writeField field ++ rest) = some (field, rest) := by
  have hkey := parseString_quote field.1 (58 :: 34 :: (field.2.flatMap escapeByte ++ 34 :: rest))
  simp only [writeField, quote, List.cons_append, List.append_assoc, List.nil_append, parseField]
  rw [hkey]
  simp [parseString_quote]

/-- The fields are read back. -/
lemma parseFields_writeFields (fields : List (Bytes × Bytes)) {n : ℕ} (hn : fields.length ≤ n) :
    parseFields n (writeFields fields) = some fields := by
  induction fields generalizing n with
  | nil => rw [writeFields, parseFields]
  | cons field fields ih =>
    obtain ⟨n, rfl⟩ : ∃ m, n = m + 1 := ⟨n - 1, by simp only [List.length_cons] at hn; omega⟩
    rw [writeFields, parseFields, parseField_writeField]
    simp only [ih (Nat.le_of_succ_le_succ hn), Option.map_some]

/-- Every field takes up room. -/
lemma length_le_writeFields (fields : List (Bytes × Bytes)) :
    fields.length ≤ (writeFields fields).length := by
  induction fields with
  | nil => exact Nat.zero_le _
  | cons field fields ih =>
    simp only [writeFields, List.length_cons, List.length_append]
    omega

/-- An object is read back. -/
lemma read_write_object (fields : List (Bytes × Bytes)) :
    read (write (.object fields)) = some (.object fields) := by
  cases fields with
  | nil => rfl
  | cons field fields =>
    have hfield := parseField_writeField field (writeFields fields)
    have hfields := parseFields_writeFields fields (length_le_writeFields fields)
    have hquote : writeField field ++ writeFields fields =
        34 :: (field.1.flatMap escapeByte ++
          34 :: 58 :: (quote field.2 ++ writeFields fields)) := by
      simp [writeField, quote]
    rw [hquote] at hfield
    rw [write, hquote, read]
    · simp only [hfield, hfields, Option.map_some]
    · simp

/-- Escaping makes no string shorter. -/
lemma length_le_quote (s : Bytes) : s.length ≤ (quote s).length := by
  have hescape : ∀ b, 1 ≤ (escapeByte b).length := by
    intro b
    unfold escapeByte
    split
    · simp
    · split <;> simp
  have hlen : s.length ≤ (s.flatMap escapeByte).length := by
    induction s with
    | nil => exact le_rfl
    | cons b s ih =>
      have := hescape b
      simp only [List.flatMap_cons, List.length_append, List.length_cons]
      omega
  simp only [quote, List.length_cons, List.length_append]
  omega

/-- The text of an object is at least as long as the string of each of its fields. -/
lemma length_le_write {fields : List (Bytes × Bytes)} {field : Bytes × Bytes}
    (h : field ∈ fields) : field.2.length ≤ (write (.object fields)).length := by
  have hfield : ∀ f : Bytes × Bytes, f.2.length ≤ (writeField f).length := by
    intro f
    have := length_le_quote f.2
    simp only [writeField, List.length_append, List.length_cons]
    omega
  have hfields : ∀ fields : List (Bytes × Bytes), field ∈ fields →
      field.2.length ≤ (writeFields fields).length := by
    intro fields h
    induction fields with
    | nil => cases h
    | cons f fields ih =>
      simp only [writeFields, List.length_cons, List.length_append]
      rcases List.mem_cons.mp h with rfl | h
      · have := hfield field
        omega
      · have := ih h
        omega
  cases fields with
  | nil => cases h
  | cons f fields =>
    simp only [write, List.length_cons, List.length_append]
    rcases List.mem_cons.mp h with rfl | h
    · have := hfield field
      omega
    · have := hfields fields h
      omega

/-! ## The library -/

/-- The strings of a value. -/
def Value.strings : Value → List Bytes
  | .null => []
  | .string s => [s]
  | .object fields => fields.flatMap fun field => [field.1, field.2]

/-- Sets a field of an object; `null` becomes an object. -/
def Value.assign (json : Value) (key s : Bytes) : Value :=
  match json with
  | .object fields => .object (fields.filter (·.1 ≠ key) ++ [(key, s)])
  | _ => .object [(key, s)]

/-- The text of a value, if all its strings are valid UTF-8. -/
def Value.dump (json : Value) : Except Bytes Bytes :=
  if ∀ s ∈ json.strings, s.IsUtf8 then .ok (write json)
  else .error (Bytes.ofString "[json.exception.type_error.316] invalid UTF-8 byte")

/-- The value of a text. -/
def Value.parse (text : Bytes) : Except Bytes Value :=
  match read text with
  | some json => .ok json
  | none => .error (Bytes.ofString "[json.exception.parse_error.101] parse error")

/-- A field of an object. -/
def Value.getAt (json : Value) (key : Bytes) : Except Bytes Value :=
  match json with
  | .object fields =>
    match fields.lookup key with
    | some s => .ok (.string s)
    | none => .error (Bytes.ofString "[json.exception.out_of_range.403] key not found")
  | _ => .error (Bytes.ofString "[json.exception.type_error.304] cannot use at()")

/-- The string that a value is. -/
def Value.getString (json : Value) : Except Bytes Bytes :=
  match json with
  | .string s => .ok s
  | _ => .error (Bytes.ofString "[json.exception.type_error.302] type must be string")

/-- The operations on objects of strings. -/
abbrev stringObjects : JsonLibrary where
  Value := Value
  null := .null
  assign := Value.assign
  dump := Value.dump
  parse := Value.parse
  getAt := Value.getAt
  getString := Value.getString

/-- The document built from fields. -/
def build (fields : List (Bytes × Bytes)) : Value := @JsonLibrary.build stringObjects fields

/-- What is built from fields with different keys is the object of these fields. -/
lemma build_eq {fields : List (Bytes × Bytes)} (hkeys : (fields.map Prod.fst).Nodup) :
    build fields = if fields = [] then .null else .object fields := by
  induction fields using List.reverseRecOn with
  | nil => rfl
  | append_singleton fields field ih =>
    rw [List.map_append, List.nodup_append] at hkeys
    have hbuild : build (fields ++ [field]) = (build fields).assign field.1 field.2 := by
      exact List.foldl_concat ..
    have hfilter : fields.filter (·.1 ≠ field.1) = fields := by
      rw [List.filter_eq_self]
      intro f hf
      simpa using hkeys.2.2 f.1 (List.mem_map_of_mem hf) field.1 (by simp)
    have hne : fields ++ [field] ≠ [] := by simp
    rw [hbuild, ih hkeys.1, if_neg hne]
    by_cases hnil : fields = []
    · rw [if_pos hnil, hnil]
      rfl
    · rw [if_neg hnil, Value.assign, hfilter]

/-- What is built from fields with different keys is read back. -/
lemma read_write_build {fields : List (Bytes × Bytes)} (hkeys : (fields.map Prod.fst).Nodup) :
    read (write (build fields)) = some (build fields) := by
  rw [build_eq hkeys]
  split
  · decide +kernel
  · exact read_write_object fields

/-- The strings of what is built from fields with different keys are valid if the fields are. -/
lemma forall_strings_build {fields : List (Bytes × Bytes)} (hkeys : (fields.map Prod.fst).Nodup) :
    (∀ s ∈ (build fields).strings, s.IsUtf8) ↔
      ∀ field ∈ fields, field.1.IsUtf8 ∧ field.2.IsUtf8 := by
  rw [build_eq hkeys]
  by_cases hnil : fields = []
  · simp [hnil, Value.strings]
  · simp only [if_neg hnil, Value.strings, List.mem_flatMap, List.mem_cons, List.not_mem_nil,
      or_false]
    constructor
    · intro h field hfield
      exact ⟨h _ ⟨field, hfield, Or.inl rfl⟩, h _ ⟨field, hfield, Or.inr rfl⟩⟩
    · rintro h s ⟨field, hfield, rfl | rfl⟩
      · exact (h field hfield).1
      · exact (h field hfield).2

/-- A field of what is built from fields with different keys. -/
lemma getAt_build {fields : List (Bytes × Bytes)} (hkeys : (fields.map Prod.fst).Nodup)
    {field : Bytes × Bytes} (h : field ∈ fields) :
    (build fields).getAt field.1 = .ok (.string field.2) := by
  have hlookup : fields.lookup field.1 = some field.2 := by
    obtain ⟨l₁, l₂, rfl⟩ := List.append_of_mem h
    rw [List.map_append, List.nodup_append] at hkeys
    refine List.lookup_eq_some_iff.mpr ⟨l₁, l₂, rfl, fun f hf => ?_⟩
    exact bne_iff_ne.mpr
      (hkeys.2.2 f.1 (List.mem_map_of_mem hf) field.1 List.mem_cons_self).symm
  rw [build_eq hkeys, if_neg (List.ne_nil_of_mem h), Value.getAt, hlookup]

/-- The text of what is built from fields is at least as long as the string of each of them. -/
lemma length_le_of_dump {fields : List (Bytes × Bytes)} (hkeys : (fields.map Prod.fst).Nodup)
    {text : Bytes} (h : (build fields).dump = .ok text) (field : Bytes × Bytes)
    (hfield : field ∈ fields) : field.2.length ≤ text.length := by
  unfold Value.dump at h
  split at h
  · rw [← Except.ok.inj h, build_eq hkeys, if_neg (List.ne_nil_of_mem hfield)]
    exact length_le_write hfield
  · cases h

/-- Objects of strings are as the code expects them. -/
theorem lawful_stringObjects : @LawfulJsonLibrary stringObjects := by
  refine @LawfulJsonLibrary.mk stringObjects (fun fields hkeys => ?_)
    (fun fields hkeys text h => ?_)
    fun fields hkeys field h => ⟨.string field.2, getAt_build hkeys h, rfl⟩
  · change (∃ text, (build fields).dump = .ok text) ↔ _
    rw [← forall_strings_build hkeys, Value.dump]
    split
    · exact iff_of_true ⟨_, rfl⟩ ‹_›
    · exact iff_of_false (fun ⟨text, h⟩ => by cases h) ‹_›
  · change (build fields).dump = .ok text at h
    change Value.parse text = .ok (build fields)
    rw [Value.dump] at h
    split at h
    · cases h
      rw [Value.parse, read_write_build hkeys]
    · cases h

end Json

end ScreenViewer
