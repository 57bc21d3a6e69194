import Mathlib
import ScreenViewer.Message

/-!
# The JSON library

The code builds, writes, parses and searches JSON documents with a library that is not part of the
repository.  `JsonLibrary` lists the operations it uses; an error is the text of the exception.
-/

namespace ScreenViewer

/-- The operations of `nlohmann::json` that the code uses. -/
class JsonLibrary where
  /-- A JSON value. -/
  Value : Type
  /-- The value that a default-constructed `json` has. -/
  null : Value
  /-- `json[key] = string`, on `null` or an object. -/
  assign : Value → Bytes → Bytes → Value
  /-- `to_string(json)`. -/
  dump : Value → Except Bytes Bytes
  /-- `json::parse(bytes)`. -/
  parse : Bytes → Except Bytes Value
  /-- `json.at(key)`. -/
  getAt : Value → Bytes → Except Bytes Value
  /-- `json.get<std::string>()`. -/
  getString : Value → Except Bytes Bytes

/-- A byte string is valid UTF-8. -/
def Bytes.IsUtf8 (s : Bytes) : Prop := (ByteArray.mk s.toArray).IsValidUTF8

instance (s : Bytes) : Decidable s.IsUtf8 :=
  inferInstanceAs (Decidable (ByteArray.mk s.toArray).IsValidUTF8)

/-- The texts of the program are valid UTF-8. -/
lemma Bytes.isUtf8_ofString (text : String) : (Bytes.ofString text).IsUtf8 :=
  text.isValidUTF8

namespace JsonLibrary

variable [JsonLibrary]

/-- The document that is built by assigning strings to fields, one after another. -/
def build (fields : List (Bytes × Bytes)) : Value :=
  fields.foldl (fun json field => assign json field.1 field.2) null

end JsonLibrary

/-- What the code relies on, for documents built from strings. -/
class LawfulJsonLibrary [JsonLibrary] : Prop where
  /-- Documents are written exactly if all their strings are valid UTF-8. -/
  dump_build (fields : List (Bytes × Bytes)) (hkeys : (fields.map Prod.fst).Nodup) :
    (∃ text, JsonLibrary.dump (JsonLibrary.build fields) = .ok text) ↔
      ∀ field ∈ fields, field.1.IsUtf8 ∧ field.2.IsUtf8
  /-- A document that was written is parsed back. -/
  parse_dump (fields : List (Bytes × Bytes)) (hkeys : (fields.map Prod.fst).Nodup) (text : Bytes)
    (h : JsonLibrary.dump (JsonLibrary.build fields) = .ok text) :
    JsonLibrary.parse text = .ok (JsonLibrary.build fields)
  /-- A field holds the string that was assigned to it. -/
  getAt_build (fields : List (Bytes × Bytes)) (hkeys : (fields.map Prod.fst).Nodup)
    (field : Bytes × Bytes) (h : field ∈ fields) :
    ∃ value, JsonLibrary.getAt (JsonLibrary.build fields) field.1 = .ok value ∧
      JsonLibrary.getString value = .ok field.2

end ScreenViewer
