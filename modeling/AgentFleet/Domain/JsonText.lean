import AgentFleet.Domain.Json
import Mathlib.Algebra.GroupWithZero.Nat

/-! # The texts of JSON documents

`JsonValue.text` is the compact text that `model_dump_json` gives a document, with the entries of
its objects in their order; `JsonValue.sorted` puts the entries into the order in which
`canonical_json_hash` digests them. -/

namespace AgentFleet

namespace JsonValue

/-- A hexadecimal digit. -/
def hexChar (n : ℕ) : Char := "0123456789abcdef".toList.getD n '0'

/-- A character of a string. -/
def escapedChar (c : Char) : List Char :=
  let backslash := Char.ofNat 92
  if c.toNat = 34 ∨ c = backslash then [backslash, c]
  else if c.toNat = 8 then [backslash, 'b']
  else if c.toNat = 9 then [backslash, 't']
  else if c.toNat = 10 then [backslash, 'n']
  else if c.toNat = 12 then [backslash, 'f']
  else if c.toNat = 13 then [backslash, 'r']
  else if c.toNat < 32 then
    [backslash, 'u', '0', '0', hexChar (c.toNat / 16), hexChar (c.toNat % 16)]
  else [c]

/-- A string between its quotes. -/
def quotedChars (text : String) : List Char :=
  let quote := Char.ofNat 34
  quote :: text.toList.flatMap escapedChar ++ [quote]

mutual

/-- The characters of a document; no record has a float. -/
def chars : JsonValue → List Char
  | .null => "null".toList
  | .bool value => if value then "true".toList else "false".toList
  | .int value => (toString value).toList
  | .float value => (toString value).toList
  | .str value => quotedChars value
  | .arr items => '[' :: itemChars items ++ [']']
  | .obj fields => Char.ofNat 123 :: fieldChars fields ++ [Char.ofNat 125]

/-- The items of a list, between commas. -/
def itemChars : List JsonValue → List Char
  | [] => []
  | [item] => chars item
  | item :: rest => chars item ++ ',' :: itemChars rest

/-- The entries of an object, between commas. -/
def fieldChars : JsonObject → List Char
  | [] => []
  | [(key, value)] => quotedChars key ++ ':' :: chars value
  | (key, value) :: rest => quotedChars key ++ ':' :: chars value ++ ',' :: fieldChars rest

end

/-- The text of a document. -/
def text (value : JsonValue) : String := String.ofList (chars value)

mutual

/-- The document with the keys of its objects in order. -/
def sorted : JsonValue → JsonValue
  | .arr items => .arr (sortedItems items)
  | .obj fields => .obj (sortedFields fields)
  | value => value

/-- The items of a list. -/
def sortedItems : List JsonValue → List JsonValue
  | [] => []
  | item :: rest => sorted item :: sortedItems rest

/-- The entries of an object, whose keys differ. -/
def sortedFields : JsonObject → JsonObject
  | [] => []
  | (key, value) :: rest => setField key (sorted value) (sortedFields rest)

end

end JsonValue

/-- `len(text.encode("utf-8"))`. -/
def encodedLength (text : String) : ℕ := (text.toList.map Char.utf8Size).sum

end AgentFleet
