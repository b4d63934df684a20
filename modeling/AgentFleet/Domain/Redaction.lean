import AgentFleet.Domain.JsonCode
import AgentFleet.Domain.SecretForms
import Mathlib.Data.List.Nodup
import Mathlib.Data.List.Perm.Subperm

/-! # Redaction of documents

`redactData` replaces every form of a registered secret in the texts and the keys of a document.
The entries of an object stand in the order of a dictionary here, the order in which they are
visited, and a key that is taken after the replacement is numbered.

* `mem_of_infix_replaceForm` and `not_infix_replaceForm`: a replacement makes no new occurrence of a
  form, and leaves none of the form that it replaces.
* `freeKey_eq_some`: the loop over the numbered keys ends.
* `redactData_complete` and `redactData_structure` are the two sides: no form is left, and nothing
  but texts and keys has changed. -/

namespace AgentFleet

/-! ### The redactor -/

namespace Redaction

variable (forms : List SecretForm)

/-- The loop over `unique_key` and `suffix`, which runs at most `fuel` times. -/
def freeKey (taken : List String) (cleanedKey : String) : ℕ → ℕ → String → Option String
  | 0, _, _ => none
  | fuel + 1, suffix, uniqueKey =>
      if uniqueKey ∈ taken then
        freeKey taken cleanedKey fuel (suffix + 1) (cleanedKey ++ "#" ++ toString suffix)
      else some uniqueKey

mutual

/-- `visit`. -/
def visit : JsonValue → Option (JsonValue × List String)
  | .str text =>
      let cleaned := redactText forms text
      some (.str cleaned.1, cleaned.2)
  | .obj entries => do
      let cleaned ← visitEntries entries []
      return (.obj cleaned.1, cleaned.2)
  | .arr items => do
      let cleaned ← visitItems items
      return (.arr cleaned.1, cleaned.2)
  | item => some (item, [])

/-- The items of a list. -/
def visitItems : List JsonValue → Option (List JsonValue × List String)
  | [] => some ([], [])
  | item :: items => do
      let first ← visit item
      let rest ← visitItems items
      return (first.1 :: rest.1, first.2 ++ rest.2)

/-- The entries of a dictionary, put behind those of `cleaned_mapping`. -/
def visitEntries : JsonObject → JsonObject → Option (JsonObject × List String)
  | [], cleanedMapping => some (cleanedMapping, [])
  | (key, child) :: entries, cleanedMapping => do
      let cleanedKey := redactText forms key
      let uniqueKey ← freeKey (cleanedMapping.map Prod.fst) cleanedKey.1
        (cleanedMapping.length + 1) 2 cleanedKey.1
      let cleaned ← visit child
      let rest ← visitEntries entries (cleanedMapping ++ [(uniqueKey, cleaned.1)])
      return (rest.1, cleanedKey.2 ++ cleaned.2 ++ rest.2)

end

end Redaction

open Redaction

namespace SecretRegistry

/-- `redact_data`; nothing when the loop over a key does not end. -/
def redactData (registry : SecretRegistry) (value : JsonValue) :
    Option (JsonValue × List String) := do
  let cleaned ← visit registry.snapshot value
  return (cleaned.1, sortedSet cleaned.2)

/-- `contains_secret_data`. -/
def containsSecretData (registry : SecretRegistry) (value : JsonValue) : Bool :=
  valueHoldsSecret registry.snapshot value

end SecretRegistry

/-! ### Occurrences around a mark -/

section
variable {α : Type} {target left right : List α} {mark : α}

/-- A text without the mark that occurs around a mark occurs on one side of it. -/
theorem infix_of_infix_append_cons (h : mark ∉ target) (hoccurs : target <:+: left ++ mark :: right) :
    target <:+: left ∨ target <:+: right := by
  obtain ⟨before, after, heq⟩ := hoccurs
  rw [List.append_assoc] at heq
  rcases List.append_eq_append_iff.mp heq with ⟨middle, hleft, hrest⟩ | ⟨middle, hbefore, hrest⟩
  · rcases List.append_eq_append_iff.mp hrest with ⟨tail, hmiddle, -⟩ | ⟨tail, htarget, hmark⟩
    · left
      exact ⟨before, tail, by rw [hleft, hmiddle, List.append_assoc]⟩
    · cases tail with
      | nil =>
          left
          exact ⟨before, [], by rw [hleft, htarget, List.append_nil, List.append_nil]⟩
      | cons =>
          rw [List.cons_append, List.cons.injEq] at hmark
          refine absurd ?_ h
          rw [htarget, hmark.1]
          exact List.mem_append_right _ List.mem_cons_self
  · cases middle with
    | nil =>
        rw [List.nil_append] at hrest
        cases target with
        | nil => exact .inl (List.nil_infix)
        | cons =>
            rw [List.cons_append, List.cons.injEq] at hrest
            exact absurd (hrest.1 ▸ List.mem_cons_self) h
    | cons first middle =>
        rw [List.cons_append, List.cons.injEq] at hrest
        right
        exact ⟨middle, after, by rw [hrest.2, List.append_assoc]⟩

end

/-! ### Replacements -/

section
variable {form label target text : List Char}

theorem prefix_of_prefix_replaceForm (hopen : '<' ∉ target)
    (h : target <+: replaceForm form ('<' :: label ++ ['>']) 0 text) : target <+: text := by
  induction target generalizing text with
  | nil => exact List.nil_prefix
  | cons first target ih =>
      cases text with
      | nil => exact h
      | cons =>
          unfold replaceForm at h
          split_ifs at h with hform
          · rw [List.cons_append, List.cons_append, List.cons_prefix_cons] at h
            exact absurd (h.1 ▸ List.mem_cons_self) hopen
          · rw [List.cons_prefix_cons] at h ⊢
            exact ⟨h.1, ih (fun hmem => hopen (List.mem_cons_of_mem _ hmem)) h.2⟩

/-- Around a replacement there is the label, and there is the text behind it. -/
theorem infix_of_infix_replacement {rest : List Char} (hopen : '<' ∉ target) (hclose : '>' ∉ target)
    (h : target <:+: ('<' :: label ++ ['>']) ++ rest) :
    target <:+: label ∨ target <:+: rest := by
  have hsplit : ('<' :: label ++ ['>']) ++ rest = [] ++ '<' :: (label ++ '>' :: rest) := by
    rw [List.nil_append, List.cons_append, List.cons_append, List.append_assoc,
      List.singleton_append]
  rw [hsplit] at h
  rcases infix_of_infix_append_cons hopen h with hnil | hrest
  · rw [List.infix_nil.mp hnil]
    exact .inl List.nil_infix
  · exact infix_of_infix_append_cons hclose hrest

/-- A replacement makes no new occurrence of a form that is not in its label. -/
theorem mem_of_infix_replaceForm {skip : ℕ} (hopen : '<' ∉ target) (hclose : '>' ∉ target)
    (hlabel : ¬ target <:+: label)
    (h : target <:+: replaceForm form ('<' :: label ++ ['>']) skip text) : target <:+: text := by
  induction text generalizing skip with
  | nil =>
      cases skip <;> exact h
  | cons character text ih =>
      cases skip with
      | succ =>
          unfold replaceForm at h
          exact (ih h).trans (List.suffix_cons character text).isInfix
      | zero =>
          unfold replaceForm at h
          split_ifs at h with hform
          · rcases infix_of_infix_replacement hopen hclose h with hin | hrest
            · exact absurd hin hlabel
            · exact (ih hrest).trans (List.suffix_cons character text).isInfix
          · rcases List.infix_cons_iff.mp h with hstart | hrest
            · refine (@prefix_of_prefix_replaceForm form label _ _ hopen ?_).isInfix
              unfold replaceForm
              rw [if_neg hform]
              exact hstart
            · exact (ih hrest).trans (List.suffix_cons character text).isInfix

/-- A replacement leaves no occurrence of the form that it replaces. -/
theorem not_infix_replaceForm {skip : ℕ} (hopen : '<' ∉ form) (hclose : '>' ∉ form)
    (hlabel : ¬ form <:+: label) :
    ¬ form <:+: replaceForm form ('<' :: label ++ ['>']) skip text := by
  have hne : form ≠ [] := by
    rintro rfl
    exact hlabel List.nil_infix
  induction text generalizing skip with
  | nil =>
      have hnil : replaceForm form ('<' :: label ++ ['>']) skip [] = [] := by
        cases skip <;> rfl
      rw [hnil]
      exact fun h => hne (List.infix_nil.mp h)
  | cons character text ih =>
      cases skip with
      | succ => exact ih
      | zero =>
          intro h
          unfold replaceForm at h
          split_ifs at h with hform
          · rcases infix_of_infix_replacement hopen hclose h with hin | hrest
            · exact hlabel hin
            · exact ih hrest
          · rcases List.infix_cons_iff.mp h with hstart | hrest
            · refine hform (List.isPrefixOf_iff_prefix.mpr ?_)
              refine @prefix_of_prefix_replaceForm form label _ _ hopen ?_
              unfold replaceForm
              rw [if_neg hform]
              exact hstart
            · exact ih hrest

end

/-! ### Texts -/

/-- The label of a group, without its brackets. -/
def groupLabel (group : ℕ) : String := "redacted:" ++ toString group

/-- A form that no label holds and that has none of the marks which redaction writes. -/
def IsPlainForm (form : String) : Prop :=
  '<' ∉ form.toList ∧ '>' ∉ form.toList ∧ '#' ∉ form.toList
    ∧ ∀ group : ℕ, ¬ form.toList <:+: (groupLabel group).toList

theorem toList_groupLabel (group : ℕ) :
    ("<redacted:" ++ toString group ++ ">").toList
      = '<' :: (groupLabel group).toList ++ ['>'] := by
  unfold groupLabel
  rw [String.toList_append, String.toList_append, String.toList_append]
  rfl

section
variable {forms : List SecretForm} {form : SecretForm} {text : String}

/-- One form is replaced everywhere. -/
theorem not_infix_redactForm (h : IsPlainForm form.1) (redacted : String × List String) :
    ¬ form.1.toList <:+: (redactForm redacted form).1.toList := by
  obtain ⟨hopen, hclose, -, hlabel⟩ := h
  unfold redactForm
  split_ifs with hhas
  · dsimp only
    rw [String.toList_ofList, toList_groupLabel]
    exact not_infix_replaceForm hopen hclose (hlabel form.2)
  · intro hoccurs
    exact hhas (decide_eq_true hoccurs)

/-- No form comes back when another one is replaced. -/
theorem infix_of_infix_redactForm {target : String} (h : IsPlainForm target)
    {redacted : String × List String}
    (hoccurs : target.toList <:+: (redactForm redacted form).1.toList) :
    target.toList <:+: redacted.1.toList := by
  obtain ⟨hopen, hclose, -, hlabel⟩ := h
  unfold redactForm at hoccurs
  split_ifs at hoccurs with hhas
  · dsimp only at hoccurs
    rw [String.toList_ofList, toList_groupLabel] at hoccurs
    exact mem_of_infix_replaceForm hopen hclose (hlabel form.2) hoccurs
  · exact hoccurs

theorem infix_of_infix_foldl {target : String} (h : IsPlainForm target)
    {redacted : String × List String}
    (hoccurs : target.toList <:+: (forms.foldl redactForm redacted).1.toList) :
    target.toList <:+: redacted.1.toList := by
  induction forms generalizing redacted with
  | nil => exact hoccurs
  | cons form forms ih =>
      rw [List.foldl_cons] at hoccurs
      exact infix_of_infix_redactForm h (ih hoccurs)

/-- After its own turn a form stays away. -/
theorem not_infix_foldl (hplain : ∀ form ∈ forms, IsPlainForm form.1) (hmem : form ∈ forms)
    (redacted : String × List String) :
    ¬ form.1.toList <:+: (forms.foldl redactForm redacted).1.toList := by
  induction forms generalizing redacted with
  | nil => exact absurd hmem List.not_mem_nil
  | cons first forms ih =>
      rw [List.forall_mem_cons] at hplain
      rw [List.foldl_cons]
      rcases List.mem_cons.mp hmem with rfl | hrest
      · intro hoccurs
        exact not_infix_redactForm hplain.1 redacted (infix_of_infix_foldl hplain.1 hoccurs)
      · exact ih hplain.2 hrest _

theorem holdsSecret_redactText (hplain : ∀ form ∈ forms, IsPlainForm form.1) (text : String) :
    holdsSecret forms (redactText forms text).1 = false := by
  unfold holdsSecret
  refine List.any_eq_false.mpr fun form hmem => ?_
  exact fun hhas => not_infix_foldl hplain hmem (text, []) (of_decide_eq_true hhas)

end

/-! ### Keys -/

/-- A key with a number behind it. -/
def numberedKey (cleanedKey : String) (suffix : ℕ) : String :=
  cleanedKey ++ "#" ++ toString suffix

section
variable {taken : List String} {cleanedKey : String}

theorem toList_numberedKey (suffix : ℕ) :
    (numberedKey cleanedKey suffix).toList
      = cleanedKey.toList ++ '#' :: (toString suffix).toList := by
  unfold numberedKey
  rw [String.toList_append, String.toList_append, List.append_assoc]
  rfl

theorem numberedKey_injective : Function.Injective (numberedKey cleanedKey) := by
  intro m n h
  have hlist := congrArg String.toList h
  rw [toList_numberedKey, toList_numberedKey, List.append_cancel_left_eq, List.cons.injEq] at hlist
  exact JsonValue.natRepr_injective hlist.2

theorem ne_numberedKey (suffix : ℕ) : cleanedKey ≠ numberedKey cleanedKey suffix := by
  intro h
  have hlength := congrArg (fun key => key.toList.length) h
  rw [toList_numberedKey, List.length_append, List.length_cons] at hlength
  omega

/-- While the loop runs, every key that it tries is taken. -/
theorem taken_of_freeKey_eq_none {fuel suffix : ℕ} {uniqueKey : String}
    (h : freeKey taken cleanedKey (fuel + 1) suffix uniqueKey = none) :
    uniqueKey :: (List.range' suffix fuel).map (numberedKey cleanedKey) ⊆ taken := by
  induction fuel generalizing suffix uniqueKey with
  | zero =>
      unfold freeKey at h
      split_ifs at h with htaken
      exact List.cons_subset.mpr ⟨htaken, List.nil_subset _⟩
  | succ fuel ih =>
      unfold freeKey at h
      split_ifs at h with htaken
      exact List.cons_subset.mpr ⟨htaken, ih h⟩

/-- The loop ends: it tries more keys than there are entries. -/
theorem exists_freeKey : ∃ name, freeKey taken cleanedKey (taken.length + 1) 2 cleanedKey
    = some name := by
  refine Option.ne_none_iff_exists'.mp fun h => ?_
  have hsubset := taken_of_freeKey_eq_none h
  have hnodup : (cleanedKey :: (List.range' 2 taken.length).map (numberedKey cleanedKey)).Nodup := by
    refine List.nodup_cons.mpr ⟨fun hmem => ?_, ?_⟩
    · obtain ⟨suffix, -, heq⟩ := List.mem_map.mp hmem
      exact ne_numberedKey suffix heq.symm
    · exact List.Nodup.map numberedKey_injective List.nodup_range'
  have hlength := (List.subperm_of_subset hnodup hsubset).length_le
  rw [List.length_cons, List.length_map, List.length_range'] at hlength
  omega

/-- The key that the loop ends with is free, and it is the cleaned key or a numbered one. -/
theorem freeKey_spec {fuel suffix : ℕ} {uniqueKey name : String}
    (h : freeKey taken cleanedKey fuel suffix uniqueKey = some name) :
    name ∉ taken ∧ (name = uniqueKey ∨ ∃ n, name = numberedKey cleanedKey n) := by
  induction fuel generalizing suffix uniqueKey with
  | zero => cases h
  | succ fuel ih =>
      unfold freeKey at h
      split_ifs at h with htaken
      · obtain ⟨hfree, hname⟩ := ih h
        refine ⟨hfree, .inr ?_⟩
        rcases hname with rfl | hnumbered
        · exact ⟨suffix, rfl⟩
        · exact hnumbered
      · obtain rfl := Option.some.inj h
        exact ⟨htaken, .inl rfl⟩

/-- A key that is not taken is kept. -/
theorem freeKey_free (h : cleanedKey ∉ taken) (fuel suffix : ℕ) :
    freeKey taken cleanedKey (fuel + 1) suffix cleanedKey = some cleanedKey := by
  unfold freeKey
  rw [if_neg h]

/-- Numbering a key brings no form into it. -/
theorem infix_of_infix_numberedKey {target : String} (h : IsPlainForm target) {suffix : ℕ}
    (hoccurs : target.toList <:+: (numberedKey cleanedKey suffix).toList) :
    target.toList <:+: cleanedKey.toList := by
  obtain ⟨-, -, hmark, hlabel⟩ := h
  rw [toList_numberedKey] at hoccurs
  rcases infix_of_infix_append_cons hmark hoccurs with hkey | hnumber
  · exact hkey
  · refine absurd (hnumber.trans ?_) (hlabel suffix)
    unfold groupLabel
    rw [String.toList_append]
    exact (List.suffix_append _ _).isInfix

end

/-! ### Documents -/

section
variable {forms : List SecretForm}

/-- A document and what is left of it. -/
def Visited (forms : List SecretForm) (value cleaned : JsonValue) : Prop :=
  ∃ found, visit forms value = some (cleaned, found)

theorem visit_str (text : String) :
    visit forms (.str text) = some (.str (redactText forms text).1, (redactText forms text).2) := by
  unfold visit
  rfl

theorem visit_arr {items : List JsonValue} {cleaned : JsonValue} {found : List String}
    (h : visit forms (.arr items) = some (cleaned, found)) :
    ∃ kept, visitItems forms items = some (kept, found) ∧ cleaned = .arr kept := by
  unfold visit at h
  obtain ⟨out, hitems, hout⟩ := Option.bind_eq_some_iff.mp h
  cases hout
  exact ⟨out.1, hitems, rfl⟩

theorem visit_obj {entries : JsonObject} {cleaned : JsonValue} {found : List String}
    (h : visit forms (.obj entries) = some (cleaned, found)) :
    ∃ kept, visitEntries forms entries [] = some (kept, found) ∧ cleaned = .obj kept := by
  unfold visit at h
  obtain ⟨out, hentries, hout⟩ := Option.bind_eq_some_iff.mp h
  cases hout
  exact ⟨out.1, hentries, rfl⟩

theorem visitItems_cons {item : JsonValue} {items kept : List JsonValue} {found : List String}
    (h : visitItems forms (item :: items) = some (kept, found)) :
    ∃ first rest, visit forms item = some first ∧ visitItems forms items = some rest
      ∧ kept = first.1 :: rest.1 ∧ found = first.2 ++ rest.2 := by
  unfold visitItems at h
  obtain ⟨first, hfirst, h⟩ := Option.bind_eq_some_iff.mp h
  obtain ⟨rest, hrest, h⟩ := Option.bind_eq_some_iff.mp h
  cases h
  exact ⟨first, rest, hfirst, hrest, rfl, rfl⟩

theorem visitEntries_cons {key : String} {child : JsonValue} {entries cleanedMapping : JsonObject}
    {kept : JsonObject} {found : List String}
    (h : visitEntries forms ((key, child) :: entries) cleanedMapping = some (kept, found)) :
    ∃ name cleaned rest,
      freeKey (cleanedMapping.map Prod.fst) (redactText forms key).1 (cleanedMapping.length + 1) 2
          (redactText forms key).1 = some name
        ∧ visit forms child = some cleaned
        ∧ visitEntries forms entries (cleanedMapping ++ [(name, cleaned.1)]) = some rest
        ∧ kept = rest.1 ∧ found = (redactText forms key).2 ++ cleaned.2 ++ rest.2 := by
  unfold visitEntries at h
  obtain ⟨name, hname, h⟩ := Option.bind_eq_some_iff.mp h
  obtain ⟨cleaned, hcleaned, h⟩ := Option.bind_eq_some_iff.mp h
  obtain ⟨rest, hrest, h⟩ := Option.bind_eq_some_iff.mp h
  cases h
  exact ⟨name, cleaned, rest, hname, hcleaned, hrest, rfl, rfl⟩

mutual

/-- Every document is redacted. -/
theorem exists_visit : ∀ value : JsonValue, ∃ out, visit forms value = some out
  | .null => ⟨_, by unfold visit; rfl⟩
  | .bool _ => ⟨_, by unfold visit; rfl⟩
  | .int _ => ⟨_, by unfold visit; rfl⟩
  | .float _ => ⟨_, by unfold visit; rfl⟩
  | .str text => ⟨_, visit_str text⟩
  | .arr items => by
      obtain ⟨out, hout⟩ := exists_visitItems items
      unfold visit
      rw [hout]
      exact ⟨_, rfl⟩
  | .obj entries => by
      obtain ⟨out, hout⟩ := exists_visitEntries entries []
      unfold visit
      rw [hout]
      exact ⟨_, rfl⟩

theorem exists_visitItems : ∀ items : List JsonValue, ∃ out, visitItems forms items = some out
  | [] => ⟨_, by unfold visitItems; rfl⟩
  | item :: items => by
      obtain ⟨first, hfirst⟩ := exists_visit item
      obtain ⟨rest, hrest⟩ := exists_visitItems items
      unfold visitItems
      rw [hfirst, hrest]
      exact ⟨_, rfl⟩

theorem exists_visitEntries : ∀ entries cleanedMapping : JsonObject,
    ∃ out, visitEntries forms entries cleanedMapping = some out
  | [], _ => ⟨_, by unfold visitEntries; rfl⟩
  | (key, child) :: entries, cleanedMapping => by
      obtain ⟨name, hname⟩ :=
        @exists_freeKey (cleanedMapping.map Prod.fst) (redactText forms key).1
      obtain ⟨cleaned, hcleaned⟩ := exists_visit child
      obtain ⟨rest, hrest⟩ := exists_visitEntries entries (cleanedMapping ++ [(name, cleaned.1)])
      rw [List.length_map] at hname
      unfold visitEntries
      dsimp only
      rw [hname, hcleaned]
      show ∃ out, (visitEntries forms entries (cleanedMapping ++ [(name, cleaned.1)])).bind _
        = some out
      rw [hrest]
      exact ⟨_, rfl⟩

end

/-! #### No form is left -/

theorem fieldsHoldSecret_append (left right : JsonObject) :
    fieldsHoldSecret forms (left ++ right)
      = (fieldsHoldSecret forms left || fieldsHoldSecret forms right) := by
  induction left with
  | nil =>
      rw [List.nil_append, fieldsHoldSecret, Bool.false_or]
  | cons entry left ih =>
      obtain ⟨key, child⟩ := entry
      rw [List.cons_append, fieldsHoldSecret, fieldsHoldSecret, ih]
      simp only [Bool.or_assoc]

/-- The key of an entry holds no form, whatever number it got. -/
theorem holdsSecret_freeKey (hplain : ∀ form ∈ forms, IsPlainForm form.1) {taken : List String}
    {key name : String} {fuel : ℕ}
    (h : freeKey taken (redactText forms key).1 fuel 2 (redactText forms key).1 = some name) :
    holdsSecret forms name = false := by
  have hkey := holdsSecret_redactText hplain key
  rcases (freeKey_spec h).2 with rfl | ⟨suffix, rfl⟩
  · exact hkey
  · refine List.any_eq_false.mpr fun form hmem hhas => ?_
    refine List.any_eq_false.mp hkey form hmem (decide_eq_true ?_)
    exact infix_of_infix_numberedKey (hplain form hmem) (of_decide_eq_true hhas)

mutual

theorem visit_complete (hplain : ∀ form ∈ forms, IsPlainForm form.1) :
    ∀ (value : JsonValue) {cleaned : JsonValue} {found : List String},
      visit forms value = some (cleaned, found) → valueHoldsSecret forms cleaned = false
  | .null, _, _, h => by cases h; unfold valueHoldsSecret; rfl
  | .bool _, _, _, h => by cases h; unfold valueHoldsSecret; rfl
  | .int _, _, _, h => by cases h; unfold valueHoldsSecret; rfl
  | .float _, _, _, h => by cases h; unfold valueHoldsSecret; rfl
  | .str text, _, _, h => by
      rw [visit_str] at h
      cases h
      unfold valueHoldsSecret
      exact holdsSecret_redactText hplain text
  | .arr items, _, _, h => by
      obtain ⟨kept, hitems, rfl⟩ := visit_arr h
      unfold valueHoldsSecret
      exact visitItems_complete hplain items hitems
  | .obj entries, _, _, h => by
      obtain ⟨kept, hentries, rfl⟩ := visit_obj h
      have hnil : fieldsHoldSecret forms [] = false := by
        unfold fieldsHoldSecret
        rfl
      unfold valueHoldsSecret
      exact visitEntries_complete hplain entries hnil hentries

theorem visitItems_complete (hplain : ∀ form ∈ forms, IsPlainForm form.1) :
    ∀ (items : List JsonValue) {kept : List JsonValue} {found : List String},
      visitItems forms items = some (kept, found) → itemsHoldSecret forms kept = false
  | [], _, _, h => by
      unfold visitItems at h
      cases h
      unfold itemsHoldSecret
      rfl
  | item :: items, _, _, h => by
      obtain ⟨first, rest, hfirst, hrest, rfl, -⟩ := visitItems_cons h
      unfold itemsHoldSecret
      rw [visit_complete hplain item hfirst, visitItems_complete hplain items hrest]
      rfl

theorem visitEntries_complete (hplain : ∀ form ∈ forms, IsPlainForm form.1) :
    ∀ (entries : JsonObject) {cleanedMapping kept : JsonObject} {found : List String},
      fieldsHoldSecret forms cleanedMapping = false →
      visitEntries forms entries cleanedMapping = some (kept, found) →
      fieldsHoldSecret forms kept = false
  | [], _, _, _, hclean, h => by
      unfold visitEntries at h
      cases h
      exact hclean
  | (key, child) :: entries, cleanedMapping, _, _, hclean, h => by
      obtain ⟨name, cleaned, rest, hname, hcleaned, hrest, rfl, -⟩ := visitEntries_cons h
      refine visitEntries_complete hplain entries ?_ hrest
      rw [fieldsHoldSecret_append, hclean, fieldsHoldSecret, holdsSecret_freeKey hplain hname,
        visit_complete hplain child hcleaned]
      unfold fieldsHoldSecret
      rfl

end

/-! #### The shape -/

/-- An entry of a dictionary and what is left of it. -/
def EntryVisited (forms : List SecretForm) (entry kept : String × JsonValue) : Prop :=
  Visited forms entry.2 kept.2
    ∧ (kept.1 = (redactText forms entry.1).1
      ∨ ∃ suffix, kept.1 = numberedKey (redactText forms entry.1).1 suffix)

theorem visitItems_spec {items kept : List JsonValue} {found : List String}
    (h : visitItems forms items = some (kept, found)) :
    List.Forall₂ (Visited forms) items kept := by
  induction items generalizing kept found with
  | nil =>
      unfold visitItems at h
      cases h
      exact .nil
  | cons item items ih =>
      obtain ⟨first, rest, hfirst, hrest, rfl, -⟩ := visitItems_cons h
      exact .cons ⟨first.2, hfirst⟩ (ih hrest)

/-- Every entry is put behind the ones before it, under a key of its own. -/
theorem visitEntries_spec {entries cleanedMapping kept : JsonObject} {found : List String}
    (h : visitEntries forms entries cleanedMapping = some (kept, found)) :
    ∃ added, kept = cleanedMapping ++ added ∧ List.Forall₂ (EntryVisited forms) entries added
      ∧ ((cleanedMapping.map Prod.fst).Nodup → (kept.map Prod.fst).Nodup) := by
  induction entries generalizing cleanedMapping kept found with
  | nil =>
      unfold visitEntries at h
      cases h
      exact ⟨[], (List.append_nil _).symm, .nil, id⟩
  | cons entry entries ih =>
      obtain ⟨key, child⟩ := entry
      obtain ⟨name, cleaned, rest, hname, hcleaned, hrest, rfl, -⟩ := visitEntries_cons h
      obtain ⟨added, hadded, hentries, hnodup⟩ := ih hrest
      obtain ⟨hfree, hkey⟩ := freeKey_spec hname
      refine ⟨(name, cleaned.1) :: added, ?_, .cons ⟨⟨cleaned.2, hcleaned⟩, hkey⟩ hentries, ?_⟩
      · rw [hadded, List.append_assoc, List.singleton_append]
      · intro hbefore
        refine hnodup ?_
        rw [List.map_append, List.map_singleton]
        refine List.nodup_append.mpr ⟨hbefore, List.nodup_singleton _, fun a ha b hb heq => ?_⟩
        have hname : a = name := heq.trans (List.mem_singleton.mp hb)
        exact hfree (hname ▸ ha)

mutual

/-- A document without its texts: what redaction keeps. -/
def JsonValue.shape : JsonValue → JsonValue
  | .str _ => .str ""
  | .arr items => .arr (itemsShape items)
  | .obj entries => .obj (entriesShape entries)
  | value => value

def JsonValue.itemsShape : List JsonValue → List JsonValue
  | [] => []
  | item :: items => item.shape :: itemsShape items

def JsonValue.entriesShape : JsonObject → JsonObject
  | [] => []
  | (_, child) :: entries => ("", child.shape) :: entriesShape entries

end

open JsonValue (shape itemsShape entriesShape)

theorem entriesShape_append (left right : JsonObject) :
    entriesShape (left ++ right) = entriesShape left ++ entriesShape right := by
  induction left with
  | nil =>
      unfold entriesShape
      rfl
  | cons entry left ih =>
      obtain ⟨key, child⟩ := entry
      rw [List.cons_append, entriesShape, entriesShape, ih, List.cons_append]

mutual

theorem shape_visit : ∀ (value : JsonValue) {cleaned : JsonValue} {found : List String},
    visit forms value = some (cleaned, found) → cleaned.shape = value.shape
  | .null, _, _, h => by cases h; rfl
  | .bool _, _, _, h => by cases h; rfl
  | .int _, _, _, h => by cases h; rfl
  | .float _, _, _, h => by cases h; rfl
  | .str text, _, _, h => by
      rw [visit_str] at h
      cases h
      unfold shape
      rfl
  | .arr items, _, _, h => by
      obtain ⟨kept, hitems, rfl⟩ := visit_arr h
      unfold shape
      rw [shape_visitItems items hitems]
  | .obj entries, _, _, h => by
      obtain ⟨kept, hentries, rfl⟩ := visit_obj h
      unfold shape
      rw [shape_visitEntries entries hentries]
      rfl

theorem shape_visitItems : ∀ (items : List JsonValue) {kept : List JsonValue}
    {found : List String}, visitItems forms items = some (kept, found) →
      itemsShape kept = itemsShape items
  | [], _, _, h => by
      unfold visitItems at h
      cases h
      rfl
  | item :: items, _, _, h => by
      obtain ⟨first, rest, hfirst, hrest, rfl, -⟩ := visitItems_cons h
      rw [itemsShape, itemsShape, shape_visit item hfirst, shape_visitItems items hrest]

theorem shape_visitEntries : ∀ (entries : JsonObject) {cleanedMapping kept : JsonObject}
    {found : List String}, visitEntries forms entries cleanedMapping = some (kept, found) →
      entriesShape kept = entriesShape cleanedMapping ++ entriesShape entries
  | [], _, _, _, h => by
      unfold visitEntries at h
      cases h
      exact (List.append_nil _).symm
  | (key, child) :: entries, _, _, _, h => by
      obtain ⟨name, cleaned, rest, -, hcleaned, hrest, rfl, -⟩ := visitEntries_cons h
      rw [shape_visitEntries entries hrest, entriesShape_append, entriesShape, entriesShape,
        entriesShape, shape_visit child hcleaned, List.append_assoc, List.singleton_append]

end

/-! #### Nothing was found -/

theorem redactForm_spec (redacted : String × List String) (form : SecretForm) :
    ∃ labels, (redactForm redacted form).2 = redacted.2 ++ labels
      ∧ (labels = [] → (redactForm redacted form).1 = redacted.1) := by
  unfold redactForm
  split_ifs with hhas
  · exact ⟨_, rfl, fun h => absurd h (List.cons_ne_nil _ _)⟩
  · exact ⟨[], (List.append_nil _).symm, fun _ => rfl⟩

theorem foldl_redactForm_spec (forms : List SecretForm) (redacted : String × List String) :
    ∃ labels, (forms.foldl redactForm redacted).2 = redacted.2 ++ labels
      ∧ (labels = [] → (forms.foldl redactForm redacted).1 = redacted.1) := by
  induction forms generalizing redacted with
  | nil => exact ⟨[], (List.append_nil _).symm, fun _ => rfl⟩
  | cons form forms ih =>
      obtain ⟨first, hfirst, hsame⟩ := redactForm_spec redacted form
      obtain ⟨rest, hrest, hsame'⟩ := ih (redactForm redacted form)
      refine ⟨first ++ rest, ?_, fun hnil => ?_⟩
      · rw [List.foldl_cons, hrest, hfirst, List.append_assoc]
      · obtain ⟨hfirstNil, hrestNil⟩ := List.append_eq_nil_iff.mp hnil
        rw [List.foldl_cons, hsame' hrestNil, hsame hfirstNil]

/-- A text in which nothing was found is unchanged. -/
theorem redactText_eq_self {text : String} (h : (redactText forms text).2 = []) :
    (redactText forms text).1 = text := by
  obtain ⟨labels, hlabels, hsame⟩ := foldl_redactForm_spec forms (text, [])
  rw [List.nil_append] at hlabels
  exact hsame (hlabels.symm.trans h)

mutual

/-- The keys of a dictionary differ. -/
def JsonValue.WellKeyed : JsonValue → Prop
  | .arr items => itemsWellKeyed items
  | .obj entries => (entries.map Prod.fst).Nodup ∧ entriesWellKeyed entries
  | _ => True

def JsonValue.itemsWellKeyed : List JsonValue → Prop
  | [] => True
  | item :: items => item.WellKeyed ∧ itemsWellKeyed items

def JsonValue.entriesWellKeyed : JsonObject → Prop
  | [] => True
  | (_, child) :: entries => child.WellKeyed ∧ entriesWellKeyed entries

end

open JsonValue (WellKeyed itemsWellKeyed entriesWellKeyed)

mutual

theorem visit_eq_self : ∀ (value : JsonValue) {cleaned : JsonValue}, value.WellKeyed →
    visit forms value = some (cleaned, []) → cleaned = value
  | .null, _, _, h => by cases h; rfl
  | .bool _, _, _, h => by cases h; rfl
  | .int _, _, _, h => by cases h; rfl
  | .float _, _, _, h => by cases h; rfl
  | .str text, _, _, h => by
      rw [visit_str] at h
      obtain ⟨hcleaned, hfound⟩ := Prod.mk.inj (Option.some.inj h)
      rw [← hcleaned, redactText_eq_self hfound]
  | .arr items, _, hkeys, h => by
      obtain ⟨kept, hitems, rfl⟩ := visit_arr h
      unfold WellKeyed at hkeys
      rw [visitItems_eq_self items hkeys hitems]
  | .obj entries, _, hkeys, h => by
      obtain ⟨kept, hentries, rfl⟩ := visit_obj h
      unfold WellKeyed at hkeys
      have hnodup : (([] ++ entries).map Prod.fst).Nodup := hkeys.1
      rw [visitEntries_eq_self entries hkeys.2 hnodup hentries, List.nil_append]

theorem visitItems_eq_self : ∀ (items : List JsonValue) {kept : List JsonValue},
    itemsWellKeyed items → visitItems forms items = some (kept, []) → kept = items
  | [], _, _, h => by
      unfold visitItems at h
      cases h
      rfl
  | item :: items, _, hkeys, h => by
      obtain ⟨first, rest, hfirst, hrest, rfl, hfound⟩ := visitItems_cons h
      obtain ⟨hfirstNil, hrestNil⟩ := List.append_eq_nil_iff.mp hfound.symm
      unfold itemsWellKeyed at hkeys
      obtain ⟨first, found⟩ := first
      obtain ⟨rest, found'⟩ := rest
      obtain rfl : found = [] := hfirstNil
      obtain rfl : found' = [] := hrestNil
      rw [visit_eq_self item hkeys.1 hfirst, visitItems_eq_self items hkeys.2 hrest]

theorem visitEntries_eq_self : ∀ (entries : JsonObject) {cleanedMapping kept : JsonObject},
    entriesWellKeyed entries → ((cleanedMapping ++ entries).map Prod.fst).Nodup →
    visitEntries forms entries cleanedMapping = some (kept, []) → kept = cleanedMapping ++ entries
  | [], _, _, _, _, h => by
      unfold visitEntries at h
      cases h
      exact (List.append_nil _).symm
  | (key, child) :: entries, cleanedMapping, _, hkeys, hnodup, h => by
      obtain ⟨name, cleaned, rest, hname, hcleaned, hrest, rfl, hfound⟩ := visitEntries_cons h
      obtain ⟨hboth, hrestNil⟩ := List.append_eq_nil_iff.mp hfound.symm
      obtain ⟨hkeyNil, hchildNil⟩ := List.append_eq_nil_iff.mp hboth
      unfold entriesWellKeyed at hkeys
      obtain ⟨cleaned, found⟩ := cleaned
      obtain ⟨rest, found'⟩ := rest
      obtain rfl : found = [] := hchildNil
      obtain rfl : found' = [] := hrestNil
      have hfree : key ∉ cleanedMapping.map Prod.fst := by
        rw [List.map_append, List.map_cons] at hnodup
        intro hmem
        exact (List.nodup_append.mp hnodup).2.2 key hmem key List.mem_cons_self rfl
      rw [redactText_eq_self hkeyNil, freeKey_free hfree] at hname
      obtain rfl := Option.some.inj hname
      obtain rfl := visit_eq_self child hkeys.1 hcleaned
      have happend : cleanedMapping ++ [(key, cleaned)] ++ entries
          = cleanedMapping ++ (key, cleaned) :: entries := by
        rw [List.append_assoc, List.singleton_append]
      rw [← happend] at hnodup ⊢
      exact visitEntries_eq_self entries hkeys.2 hnodup hrest

end

end

/-! ### The registry's redaction -/

theorem eq_nil_of_sortedSet {labels : List String} (h : sortedSet labels = []) : labels = [] := by
  have hlength := congrArg List.length h
  unfold sortedSet at hlength
  rw [List.length_mergeSort, List.length_nil, List.length_eq_zero_iff] at hlength
  exact (List.dedup_eq_nil _).mp hlength

/-- A form without a colon that is not in `redacted` and is not a number. -/
theorem isPlainForm_of {form : String}
    (hmarks : '<' ∉ form.toList ∧ '>' ∉ form.toList ∧ '#' ∉ form.toList ∧ ':' ∉ form.toList)
    (hword : ¬ form.toList <:+: "redacted".toList)
    (hnumber : ¬ ∀ character ∈ form.toList, character.isDigit = true) : IsPlainForm form := by
  obtain ⟨hopen, hclose, hmark, hcolon⟩ := hmarks
  refine ⟨hopen, hclose, hmark, fun group hoccurs => ?_⟩
  have hlabel : (groupLabel group).toList = "redacted".toList ++ ':' :: group.repr.toList := by
    unfold groupLabel
    rw [String.toList_append]
    rfl
  rw [hlabel] at hoccurs
  rcases infix_of_infix_append_cons hcolon hoccurs with hin | hdigits
  · exact hword hin
  · exact hnumber fun character hmem => JsonValue.isDigit_of_mem_repr (hdigits.subset hmem)

namespace SecretRegistry

variable (registry : SecretRegistry)

/-- A document and what `redact_data` makes of it. -/
def Redacts (value cleaned : JsonValue) : Prop :=
  ∃ summary, registry.redactData value = some (cleaned, summary)

variable {registry}

theorem redactData_of_visit {value cleaned : JsonValue} {found : List String}
    (h : visit registry.snapshot value = some (cleaned, found)) :
    registry.redactData value = some (cleaned, sortedSet found) := by
  unfold redactData
  rw [h]
  rfl

theorem redacts_of_visited {value cleaned : JsonValue}
    (h : Visited registry.snapshot value cleaned) : registry.Redacts value cleaned :=
  h.elim fun _ hvisit => ⟨_, redactData_of_visit hvisit⟩

/-- When no form has a mark of redaction in it and no label holds a form, no form is left in the
texts and the keys of a redacted document. -/
theorem redactData_complete (hplain : ∀ form ∈ registry.forms, IsPlainForm form.1)
    (value : JsonValue) : ∃ cleaned summary,
      registry.redactData value = some (cleaned, summary)
        ∧ registry.containsSecretData cleaned = false := by
  obtain ⟨⟨cleaned, found⟩, hvisit⟩ := @exists_visit registry.snapshot value
  refine ⟨cleaned, sortedSet found, redactData_of_visit hvisit, ?_⟩
  exact visit_complete (fun form hmem => hplain form (mem_snapshot.mp hmem)) value hvisit

/-- The secret is a key, a text and the beginning of a number's key. -/
theorem redactData_complete_hunter : ∃ cleaned summary,
    (ofSecrets ["hunter"]).redactData
        (.obj [("hunter", .str "hunterhunter"), ("<redacted:1>", .arr [.str "hunt", .int 7])])
      = some (cleaned, summary)
        ∧ (ofSecrets ["hunter"]).containsSecretData cleaned = false := by
  refine redactData_complete (fun form hmem => ?_) _
  have hforms : ∀ form ∈ (ofSecrets ["hunter"]).forms.map Prod.fst,
      ('<' ∉ form.toList ∧ '>' ∉ form.toList ∧ '#' ∉ form.toList ∧ ':' ∉ form.toList)
        ∧ ¬ form.toList <:+: "redacted".toList
        ∧ ¬ ∀ character ∈ form.toList, character.isDigit = true := by
    decide
  obtain ⟨hmarks, hword, hnumber⟩ := hforms form.1 (List.mem_map_of_mem hmem)
  exact isPlainForm_of hmarks hword hnumber

/-- Redaction ends and keeps the shape of a document: the items of a list in their order, one entry
of a dictionary for each under keys that differ, and every text that holds no form. -/
theorem redactData_structure (registry : SecretRegistry) :
    (∀ value, ∃ cleaned, registry.Redacts value cleaned ∧ cleaned.shape = value.shape)
      ∧ (∀ items, ∃ kept, registry.Redacts (.arr items) (.arr kept)
        ∧ List.Forall₂ registry.Redacts items kept)
      ∧ (∀ entries, ∃ kept, registry.Redacts (.obj entries) (.obj kept)
        ∧ (kept.map Prod.fst).Nodup ∧ kept.length = entries.length
        ∧ List.Forall₂ (fun entry keptEntry => registry.Redacts entry.2 keptEntry.2) entries kept)
      ∧ (∀ text, holdsSecret registry.snapshot text = false →
        registry.redactData (.str text) = some (.str text, []))
      ∧ ∀ value cleaned, value.WellKeyed → registry.redactData value = some (cleaned, []) →
        cleaned = value := by
  refine ⟨fun value => ?_, fun items => ?_, fun entries => ?_, fun text htext => ?_,
    fun value cleaned hkeys h => ?_⟩
  · obtain ⟨⟨cleaned, found⟩, hvisit⟩ := @exists_visit registry.snapshot value
    exact ⟨cleaned, redacts_of_visited ⟨found, hvisit⟩, shape_visit value hvisit⟩
  · obtain ⟨⟨cleaned, found⟩, hvisit⟩ := @exists_visit registry.snapshot (.arr items)
    obtain ⟨kept, hitems, rfl⟩ := visit_arr hvisit
    refine ⟨kept, redacts_of_visited ⟨found, hvisit⟩, ?_⟩
    exact (visitItems_spec hitems).imp fun _ _ => redacts_of_visited
  · obtain ⟨⟨cleaned, found⟩, hvisit⟩ := @exists_visit registry.snapshot (.obj entries)
    obtain ⟨kept, hentries, rfl⟩ := visit_obj hvisit
    obtain ⟨added, hadded, hvisited, hnodup⟩ := visitEntries_spec hentries
    rw [List.nil_append] at hadded
    subst hadded
    refine ⟨kept, redacts_of_visited ⟨found, hvisit⟩, hnodup List.nodup_nil,
      hvisited.length_eq.symm, ?_⟩
    exact hvisited.imp fun _ _ hentry => redacts_of_visited hentry.1
  · have hvisit := @visit_str registry.snapshot text
    rw [redactText_clean htext] at hvisit
    rw [redactData_of_visit hvisit]
    exact congrArg (fun summary => some (JsonValue.str text, summary)) List.mergeSort_nil
  · unfold redactData at h
    obtain ⟨⟨kept, found⟩, hvisit, hout⟩ := Option.bind_eq_some_iff.mp h
    obtain ⟨rfl, hfound⟩ := Prod.mk.inj (Option.some.inj hout)
    obtain rfl : found = [] := eq_nil_of_sortedSet hfound
    exact visit_eq_self value hkeys hvisit

end SecretRegistry

end AgentFleet
