import AgentFleet.Domain.RoleTemplates
import AgentFleet.Domain.Security
import AgentFleet.Lib.Utf8

/-! # Configuration files

How a configuration file is parsed and which references may stand together.  The YAML library and
the reader of the models are parameters of the configuration (`YamlConfiguration`); what is checked
before and after them is here.

* `parse` reads one file into a checked model.
* `validateReferenceSet_ok` says which references a configuration may have: no two of them spell a
  folded path differently, and none is above another. -/

namespace AgentFleet.Configuration

open Checks

/-! ### Values and nodes -/

/-- A value that a YAML text is constructed into; `Scalar` are the values other than texts. -/
inductive YamlValue (Scalar : Type) where
  | str (text : String)
  | bytes (content : Bytes)
  | scalar (value : Scalar)
  | list (items : List (YamlValue Scalar))
  | dict (entries : List (String × YamlValue Scalar))

/-- A node of a YAML document.  A node of a library constructor comes with its value, or with none
when the constructor refuses it. -/
inductive YamlNode (Scalar : Type) where
  | leaf (value : Option (YamlValue Scalar))
  | sequence (items : List (YamlNode Scalar))
  | mapping (entries : List (YamlNode Scalar × YamlNode Scalar))

/-- A token of the scanner, by what the parser looks at. -/
inductive YamlToken where
  | aliasOrAnchor
  | collectionStart
  | collectionEnd
  | other
deriving DecidableEq

namespace YamlNode

variable {Scalar : Type}

mutual

/-- `construct_object` of `_UniqueKeyLoader`. -/
def construct : YamlNode Scalar → Option (YamlValue Scalar)
  | .leaf value => value
  | .sequence items => (constructItems items).map .list
  | .mapping entries => (constructMapping entries []).map .dict

/-- The items of a sequence. -/
def constructItems : List (YamlNode Scalar) → Option (List (YamlValue Scalar))
  | [] => some []
  | item :: items => do
      let value ← construct item
      let values ← constructItems items
      return value :: values

/-- `construct_mapping`: keys are texts, and none comes twice. -/
def constructMapping : List (YamlNode Scalar × YamlNode Scalar) →
    List (String × YamlValue Scalar) → Option (List (String × YamlValue Scalar))
  | [], result => some result
  | (keyNode, valueNode) :: entries, result =>
      match construct keyNode with
      | some (.str key) =>
          if key ∈ result.map Prod.fst then none
          else do
            let value ← construct valueNode
            constructMapping entries (result ++ [(key, value)])
      | _ => none

end

end YamlNode

section

variable {Scalar : Type} (forms : List SecretForm)

/-- `contains` of `contains_secret_data` for bytes. -/
def bytesHoldSecret (content : Bytes) : Bool := AgentFleet.holdsSecret forms (Utf8.replace content)

mutual

/-- `contains` of `contains_secret_data` for a constructed value. -/
def YamlValue.holdsSecret : YamlValue Scalar → Bool
  | .str text => AgentFleet.holdsSecret forms text
  | .bytes content => bytesHoldSecret forms content
  | .scalar _ => false
  | .list items => YamlValue.itemsHoldSecret items
  | .dict entries => YamlValue.entriesHoldSecret entries

/-- Some item holds a secret. -/
def YamlValue.itemsHoldSecret : List (YamlValue Scalar) → Bool
  | [] => false
  | item :: items => YamlValue.holdsSecret item || YamlValue.itemsHoldSecret items

/-- Some key or some value holds a secret. -/
def YamlValue.entriesHoldSecret : List (String × YamlValue Scalar) → Bool
  | [] => false
  | (key, child) :: entries =>
      AgentFleet.holdsSecret forms key || YamlValue.holdsSecret child
        || YamlValue.entriesHoldSecret entries

end

end

/-! ### Errors -/

/-- What stops the reading of a configuration. -/
inductive ConfigurationError where
  | fleet (error : FleetError)
  | validation
  | key

/-- `_config_error`. -/
def configError (detail : String) : ConfigurationError :=
  .fleet {
    code := .configInvalid
    message := "Fleet configuration is invalid: " ++ detail
    remediation := "Fix the strict v1alpha1 YAML and retry `fleet init` or the configuration check." }

/-- The error of `_reject_registered_secret`. -/
def registeredSecretError : ConfigurationError :=
  .fleet {
    code := .configInvalid
    message := "Fleet configuration contains registered secret material."
    remediation := "Remove secret values from .fleet files and retry; the value was not persisted "
      ++ "by Agent Fleet." }

/-! ### Parsing -/

/-- How a model is read from a mapping: `fields` are the types of its fields, or the text of an
error, and `refusal` is the text of the error of a record that is not `Checked`. -/
structure ModelReader (Scalar Raw : Type) where
  fields : List (String × YamlValue Scalar) → Except String Raw
  refusal : Raw → String

/-- What a configuration adapter works with: the redactor and the digest, the YAML library and the
readers of the models. -/
structure YamlConfiguration (Scalar Settings : Type) where
  casefold : String → String
  forms : List SecretForm
  hash : Bytes → Sha256
  /-- The tokens before the scanner stops, and whether it failed. -/
  scan : String → List YamlToken × Bool
  /-- The node of the document, if it has one. -/
  compose : String → Option (Option (YamlNode Scalar))
  fleetSpec : ModelReader Scalar (FleetSpec Settings)
  verificationProfile : ModelReader Scalar VerificationProfile
  workflowDefinition : ModelReader Scalar WorkflowDefinition
  verificationSkill : ModelReader Scalar VerificationSkill
  roleCatalog : ModelReader Scalar RoleCatalog
  /-- The dump of what the specification says of its runtime and its sandbox. -/
  dumpSettings : Settings → JsonObject

/-- `_decode_utf8`. -/
def decodeUtf8 (content : Bytes) : Except ConfigurationError String :=
  demand (configError "configuration content must be valid UTF-8") (Utf8.strict content)

theorem decodeUtf8_utf8 (text : String) : decodeUtf8 (utf8 text) = .ok text := by
  have hutf8 : utf8 text = text.toList.flatMap String.utf8EncodeChar := by
    rw [← utf8_ofList, String.ofList_toList]
  rw [decodeUtf8, hutf8, Utf8.strict_encode, String.ofList_toList]
  rfl

/-- The loop over the tokens. -/
def checkTokens : ℤ → ℕ → List YamlToken → Except ConfigurationError Unit
  | _, _, [] => .ok ()
  | depth, count, token :: tokens => do
      refuse (token = .aliasOrAnchor) (configError "YAML anchors and aliases are not supported")
      let depth := match token with
        | .collectionStart => depth + 1
        | .collectionEnd => depth - 1
        | _ => depth
      refuse (64 < depth ∨ 10000 < count) (configError "YAML exceeds its nesting or token limit")
      checkTokens depth (count + 1) tokens

section

variable {Scalar Settings Raw : Type} (yaml : YamlConfiguration Scalar Settings)

/-- The constructed value of a text, which has to be a mapping. -/
def loadMapping (text : String) : Except ConfigurationError (List (String × YamlValue Scalar)) := do
  let malformed := configError "YAML must be bounded, well-formed and have unique string keys"
  let scanned := yaml.scan text
  checkTokens 0 1 scanned.1
  refuse (scanned.2 = true) malformed
  let node ← demand malformed (yaml.compose text)
  let value ← match node with
    | none => pure none
    | some node => do
        let value ← demand malformed node.construct
        pure (some value)
  match value with
  | some (.dict entries) => pure entries
  | _ => .error (configError "configuration root must be a mapping")

/-- `_parse`. -/
def parse (reader : ModelReader Scalar Raw) (Checked : Raw → Prop) [DecidablePred Checked]
    (content : Bytes) : Except ConfigurationError {raw : Raw // Checked raw} := do
  refuse (512000 < content.length) (configError "configuration exceeds 512000 bytes")
  refuse (bytesHoldSecret yaml.forms content) registeredSecretError
  let text ← decodeUtf8 content
  let entries ← loadMapping yaml text
  refuse (YamlValue.entriesHoldSecret yaml.forms entries) registeredSecretError
  match reader.fields entries with
  | .error detail => .error (configError detail)
  | .ok raw =>
      if checked : Checked raw then pure ⟨raw, checked⟩
      else .error (configError (reader.refusal raw))

/-- `parse_fleet_spec`. -/
def parseFleetSpec (content : Bytes) :
    Except ConfigurationError {spec : FleetSpec Settings // spec.Checked} :=
  parse yaml yaml.fleetSpec FleetSpec.Checked content

/-- `parse_verification_profile`. -/
def parseVerificationProfile (content : Bytes) :
    Except ConfigurationError {profile : VerificationProfile // profile.Checked yaml.casefold} :=
  parse yaml yaml.verificationProfile (VerificationProfile.Checked yaml.casefold) content

/-- `_parse` of a workflow definition. -/
def parseWorkflowDefinition (content : Bytes) :
    Except ConfigurationError
      {definition : WorkflowDefinition // definition.Checked yaml.casefold} :=
  parse yaml yaml.workflowDefinition (WorkflowDefinition.Checked yaml.casefold) content

/-- `_parse` of a verification skill. -/
def parseVerificationSkill (content : Bytes) :
    Except ConfigurationError {skill : VerificationSkill // skill.Checked yaml.casefold} :=
  parse yaml yaml.verificationSkill (VerificationSkill.Checked yaml.casefold) content

/-- `_parse` of a role catalog. -/
def parseRoleCatalog (content : Bytes) :
    Except ConfigurationError {catalog : RoleCatalog // catalog.Checked yaml.casefold} :=
  parse yaml yaml.roleCatalog (RoleCatalog.Checked yaml.casefold) content

end

/-! ### References -/

section References

variable (casefold : String → String)

/-- `_validate_logical_reference` accepts the reference; no `String` holds a surrogate. -/
def isLogicalReference (reference : String) : Prop :=
  let path := PurePosixPath.parse reference
  ¬ (reference = "" ∨ reference = "." ∨ path.str ≠ reference ∨ path.isAbsolute
    ∨ ".." ∈ path.parts ∨ '\\' ∈ reference.toList ∨ 4096 < reference.utf8ByteSize
    ∨ 64 < path.parts.length
    ∨ (∃ part ∈ path.parts, casefold part = ".git" ∨ casefold part = ".fleet")
    ∨ reference.toList.any fun c => c ∈ ":*?[]\x7b\x7d".toList ∨ c.toNat < 32 ∨ c.toNat = 127)
deriving Decidable

/-- The parts of a reference. -/
def referenceParts (reference : String) : List String := (PurePosixPath.parse reference).parts

/-- The folded parts of a reference. -/
def foldedParts (reference : String) : List String := (referenceParts reference).map casefold

/-- The spellings of folded paths that are known so far. -/
abbrev Spellings := List (List String × List String)

/-- One prefix of a reference. -/
def addSpelling (reference : String) (spellings : Spellings) (index : ℕ) :
    Except ConfigurationError Spellings := do
  let folded := (foldedParts casefold reference).take index
  let actual := (referenceParts reference).take index
  refuse (∃ spelling ∈ spellings, spelling.1 = folded ∧ spelling.2 ≠ actual)
    (configError "configuration references contain a case-aliased path")
  return (folded, actual) :: spellings

/-- The numbers of parts of the prefixes of a reference. -/
def prefixIndices (reference : String) : List ℕ :=
  (List.range (referenceParts reference).length).map (· + 1)

/-- One reference. -/
def addReference (spellings : Spellings) (reference : String) :
    Except ConfigurationError Spellings := do
  refuse (¬ isLogicalReference casefold reference)
    (configError "invalid canonical .fleet reference")
  (prefixIndices reference).foldlM (addSpelling casefold reference) spellings

/-- Lists of parts are compared by equality. -/
local instance lawfulBEqParts : LawfulBEq (List String) := inferInstance

/-- `_validate_reference_set`. -/
def validateReferenceSet (references : List String) : Except ConfigurationError Unit := do
  let _ ← references.foldlM (addReference casefold) []
  let leaves := references.map (foldedParts casefold)
  refuse (∃ path ∈ leaves, ∃ index ∈ List.range path.length, 1 ≤ index ∧ path.take index ∈ leaves)
    (configError "configuration references contain a file/directory ancestry conflict")

/-- The prefixes of a reference, folded and as they are spelled. -/
def spellingsOf (reference : String) : Spellings :=
  (prefixIndices reference).map fun index =>
    ((foldedParts casefold reference).take index, (referenceParts reference).take index)

/-- No two spellings of one folded path differ. -/
def Compatible (spellings : Spellings) : Prop :=
  ∀ spelling ∈ spellings, ∀ spelling' ∈ spellings, spelling.1 = spelling'.1 →
    spelling.2 = spelling'.2

/-- What a set of references has to be. -/
structure ReferencesAgree (references : List String) : Prop where
  canonical : ∀ reference ∈ references, isLogicalReference casefold reference
  spelled : Compatible (references.flatMap (spellingsOf casefold))
  apart : ∀ reference ∈ references, ∀ reference' ∈ references, ∀ index, 1 ≤ index →
    index < (foldedParts casefold reference).length →
      (foldedParts casefold reference).take index ≠ foldedParts casefold reference'

variable {casefold} {reference : String} {spellings spellings' : Spellings}
  {references references' : List String}

theorem Compatible.subset (h : Compatible spellings) (hsub : spellings' ⊆ spellings) :
    Compatible spellings' := fun spelling hmem spelling' hmem' =>
  h spelling (hsub hmem) spelling' (hsub hmem')

theorem addSpelling_ok {index : ℕ} (h : Compatible spellings) :
    addSpelling casefold reference spellings index = .ok spellings'
      ↔ Compatible (((foldedParts casefold reference).take index,
          (referenceParts reference).take index) :: spellings)
        ∧ spellings' = ((foldedParts casefold reference).take index,
          (referenceParts reference).take index) :: spellings := by
  unfold addSpelling
  dsimp only
  rw [refuse_bind_ok, return_ok]
  refine and_congr ?_ eq_comm
  constructor
  · intro hfree
    have hnew : ∀ spelling ∈ spellings,
        spelling.1 = (foldedParts casefold reference).take index →
          spelling.2 = (referenceParts reference).take index := by
      intro spelling hmem hsame
      by_contra hne
      exact hfree ⟨spelling, hmem, hsame, hne⟩
    intro spelling hmem spelling' hmem' hsame
    rcases List.mem_cons.mp hmem with rfl | hmem
    · rcases List.mem_cons.mp hmem' with rfl | hmem'
      · rfl
      · exact (hnew spelling' hmem' hsame.symm).symm
    · rcases List.mem_cons.mp hmem' with rfl | hmem'
      · exact hnew spelling hmem hsame
      · exact h spelling hmem spelling' hmem' hsame
  · rintro hall ⟨spelling, hmem, hsame, hne⟩
    exact hne (hall spelling (List.mem_cons_of_mem _ hmem) _ List.mem_cons_self hsame)

theorem foldlM_addSpelling_ok {indices : List ℕ} (h : Compatible spellings) :
    indices.foldlM (addSpelling casefold reference) spellings = .ok spellings'
      ↔ Compatible (indices.map (fun index => ((foldedParts casefold reference).take index,
          (referenceParts reference).take index)) ++ spellings)
        ∧ spellings' = (indices.map (fun index => ((foldedParts casefold reference).take index,
          (referenceParts reference).take index))).reverse ++ spellings := by
  induction indices generalizing spellings with
  | nil =>
      rw [List.foldlM_nil, return_ok, List.map_nil, List.nil_append, and_iff_right h]
      exact eq_comm
  | cons index indices ih =>
      rw [List.foldlM_cons, bind_ok, List.map_cons, List.reverse_cons, List.append_assoc]
      constructor
      · rintro ⟨middle, hfirst, hrest⟩
        obtain ⟨hmiddle, rfl⟩ := (addSpelling_ok h).mp hfirst
        obtain ⟨hall, hresult⟩ := (ih hmiddle).mp hrest
        exact ⟨hall.subset List.perm_middle.symm.subset, hresult⟩
      · rintro ⟨hall, hresult⟩
        have hmiddle := hall.subset (List.cons_subset_cons _ (List.subset_append_right _ _))
        exact ⟨_, (addSpelling_ok h).mpr ⟨hmiddle, rfl⟩,
          (ih hmiddle).mpr ⟨hall.subset List.perm_middle.subset, hresult⟩⟩

theorem addReference_ok (h : Compatible spellings) :
    addReference casefold spellings reference = .ok spellings'
      ↔ isLogicalReference casefold reference
        ∧ Compatible (spellingsOf casefold reference ++ spellings)
        ∧ spellings' = (spellingsOf casefold reference).reverse ++ spellings := by
  unfold addReference
  rw [refuse_bind_ok, not_not, foldlM_addSpelling_ok h]
  rfl

theorem foldlM_addReference (h : Compatible spellings) :
    (∃ spellings', references.foldlM (addReference casefold) spellings = .ok spellings')
      ↔ (∀ reference ∈ references, isLogicalReference casefold reference)
        ∧ Compatible (references.flatMap (spellingsOf casefold) ++ spellings) := by
  induction references generalizing spellings with
  | nil =>
      exact ⟨fun _ => ⟨fun _ hmem => absurd hmem List.not_mem_nil, h⟩, fun _ => ⟨spellings, rfl⟩⟩
  | cons reference references ih =>
      rw [List.foldlM_cons, exists_bind_ok, List.flatMap_cons, List.forall_mem_cons]
      constructor
      · rintro ⟨middle, hfirst, hrest⟩
        obtain ⟨hreference, hmiddle, rfl⟩ := (addReference_ok h).mp hfirst
        have hreversed : Compatible ((spellingsOf casefold reference).reverse ++ spellings) :=
          hmiddle.subset (((List.reverse_perm _).append_right _).subset)
        obtain ⟨hreferences, hall⟩ := (ih hreversed).mp hrest
        refine ⟨⟨hreference, hreferences⟩, hall.subset ?_⟩
        intro spelling hmem
        simp only [List.mem_append, List.mem_reverse] at hmem ⊢
        tauto
      · rintro ⟨⟨hreference, hreferences⟩, hall⟩
        have hmiddle : Compatible (spellingsOf casefold reference ++ spellings) := by
          refine hall.subset fun spelling hmem => ?_
          simp only [List.mem_append] at hmem ⊢
          tauto
        have hreversed : Compatible ((spellingsOf casefold reference).reverse ++ spellings) :=
          hmiddle.subset (((List.reverse_perm _).append_right _).subset)
        refine ⟨_, (addReference_ok h).mpr ⟨hreference, hmiddle, rfl⟩,
          (ih hreversed).mpr ⟨hreferences, hall.subset fun spelling hmem => ?_⟩⟩
        simp only [List.mem_append, List.mem_reverse] at hmem ⊢
        tauto

/-- Which references are accepted. -/
theorem validateReferenceSet_ok {u : Unit} :
    validateReferenceSet casefold references = .ok u ↔ ReferencesAgree casefold references := by
  have hnil : Compatible [] := fun _ hmem => absurd hmem List.not_mem_nil
  have hfold := @foldlM_addReference casefold [] references hnil
  rw [List.append_nil] at hfold
  unfold validateReferenceSet
  dsimp only
  rw [bind_ok]
  constructor
  · rintro ⟨spellings, hspellings, hleaves⟩
    obtain ⟨hcanonical, hspelled⟩ := hfold.mp ⟨spellings, hspellings⟩
    refine ⟨hcanonical, hspelled, fun reference hmem reference' hmem' index hindex hlt hsame => ?_⟩
    exact refuse_ok.mp hleaves ⟨_, List.mem_map_of_mem hmem, index, List.mem_range.mpr hlt, hindex,
      hsame ▸ List.mem_map_of_mem hmem'⟩
  · rintro ⟨hcanonical, hspelled, hapart⟩
    obtain ⟨spellings, hspellings⟩ := hfold.mpr ⟨hcanonical, hspelled⟩
    refine ⟨spellings, hspellings, refuse_ok.mpr ?_⟩
    rintro ⟨path, hpath, index, hrange, hindex, hleaf⟩
    obtain ⟨reference, hmem, rfl⟩ := List.mem_map.mp hpath
    obtain ⟨reference', hmem', hsame⟩ := List.mem_map.mp hleaf
    exact hapart reference hmem reference' hmem' index hindex (List.mem_range.mp hrange) hsame.symm

/-- A set of references within one that agrees. -/
theorem ReferencesAgree.subset (h : ReferencesAgree casefold references)
    (hsub : references' ⊆ references) : ReferencesAgree casefold references' where
  canonical reference hmem := h.canonical reference (hsub hmem)
  spelled := h.spelled.subset fun spelling hmem => by
    obtain ⟨reference, hreference, hspelling⟩ := List.mem_flatMap.mp hmem
    exact List.mem_flatMap.mpr ⟨reference, hsub hreference, hspelling⟩
  apart reference hmem reference' hmem' := h.apart reference (hsub hmem) reference' (hsub hmem')

end References

end AgentFleet.Configuration
