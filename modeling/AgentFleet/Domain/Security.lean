import AgentFleet.Domain.Texts
import Mathlib.Data.String.Basic

/-! # The redactor of registered secrets

A registry holds the forms under which secrets can show up, each with the group of its secret.
Every text of a document is redacted for itself, the keys of its objects included. -/

namespace AgentFleet

/-- A form of a registered secret and its group, the longest forms first. -/
abbrev SecretForm := String × ℕ

variable (forms : List SecretForm)

/-- `contains_secret`. -/
def holdsSecret (text : String) : Bool := forms.any fun form => textHas text form.1

/-- One form of `_redact_text`. -/
def redactForm (redacted : String × List String) (form : SecretForm) : String × List String :=
  if textHas redacted.1 form.1 then
    (String.ofList (replaceForm form.1.toList
      ("<redacted:" ++ toString form.2 ++ ">").toList 0 redacted.1.toList),
      redacted.2 ++ ["registered_secret_" ++ toString form.2])
  else redacted

/-- `_redact_text`, with the labels as they were found. -/
def redactText (text : String) : String × List String := forms.foldl redactForm (text, [])

/-- The key under which an entry is kept: `key`, or the first of `key#2`, `key#3`, … that is
free. -/
def uniqueKey (cleaned : JsonObject) (key : String) : String :=
  let candidates :=
    key :: (List.range (cleaned.length + 1)).map fun i => key ++ "#" ++ toString (i + 2)
  (candidates.find? fun candidate => (JsonValue.field? cleaned candidate).isNone).getD key

mutual

/-- `contains` of `contains_secret_data`. -/
def valueHoldsSecret : JsonValue → Bool
  | .str text => holdsSecret forms text
  | .arr items => itemsHoldSecret items
  | .obj fields => fieldsHoldSecret fields
  | _ => false

/-- Some item holds a secret. -/
def itemsHoldSecret : List JsonValue → Bool
  | [] => false
  | item :: items => valueHoldsSecret item || itemsHoldSecret items

/-- Some key or some value holds a secret. -/
def fieldsHoldSecret : JsonObject → Bool
  | [] => false
  | (key, child) :: fields =>
      holdsSecret forms key || valueHoldsSecret child || fieldsHoldSecret fields

end

mutual

/-- `visit` of `redact_data`. -/
def redactValue : JsonValue → JsonValue × List String
  | .str text =>
      let cleaned := redactText forms text
      (.str cleaned.1, cleaned.2)
  | .arr items =>
      let cleaned := redactItems items
      (.arr cleaned.1, cleaned.2)
  | .obj fields =>
      let cleaned := redactFields fields []
      (.obj cleaned.1, cleaned.2)
  | value => (value, [])

/-- The items of a list. -/
def redactItems : List JsonValue → List JsonValue × List String
  | [] => ([], [])
  | item :: items =>
      let first := redactValue item
      let rest := redactItems items
      (first.1 :: rest.1, first.2 ++ rest.2)

/-- The entries of an object, put into `cleaned`. -/
def redactFields : JsonObject → JsonObject → JsonObject × List String
  | [], cleaned => (cleaned, [])
  | (key, child) :: fields, cleaned =>
      let name := redactText forms key
      let value := redactValue child
      let rest := redactFields fields (JsonValue.setField (uniqueKey cleaned name.1) value.1 cleaned)
      (rest.1, name.2 ++ value.2 ++ rest.2)

end

/-- The registry as the stores use it. -/
def Redactor.ofForms : Redactor where
  containsSecretData := valueHoldsSecret forms
  redactData fields :=
    let cleaned := redactFields forms fields []
    (cleaned.1, sortedSet cleaned.2)
  redactText text :=
    let cleaned := AgentFleet.redactText forms text
    (cleaned.1, sortedSet cleaned.2)

variable {forms}

/-! ### Texts without a secret -/

theorem redactText_clean {text : String} (h : holdsSecret forms text = false) :
    redactText forms text = (text, []) := by
  unfold holdsSecret at h
  unfold redactText
  induction forms with
  | nil => rfl
  | cons form forms ih =>
      rw [List.any_cons, Bool.or_eq_false_iff] at h
      have hfirst : redactForm (text, []) form = (text, []) := by
        unfold redactForm
        rw [if_neg (Bool.eq_false_iff.mp h.1)]
      rw [List.foldl_cons, hfirst]
      exact ih h.2

/-- An object whose entries are texts. -/
def textFields (entries : List (String × String)) : JsonObject :=
  JsonValue.object (entries.map fun entry => (entry.1, .str entry.2))

end AgentFleet
