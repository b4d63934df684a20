import AgentFleet.Domain.BaselineModels
import AgentFleet.Domain.Canonical
import Mathlib.Data.String.Basic

/-! # Source manifests

A manifest of a baseline source lists the files of a committed tree with their modes, sizes and
digests, in the order of their paths.  Its digest is taken of its canonical bytes.

* `BaselineSourceEntry` and `BaselineSourceManifest` carry their validators.
* `sorted_dump` is the document that is encoded, and `digest_injective` says that manifests with
  one digest are one manifest, unless their bytes collide.
* `exists_digest_iff` says which manifests have a digest: those of at most 262,144 bytes. -/

namespace AgentFleet

open JsonValue

/-- The modes of a source file. -/
inductive SourceMode where
  | regular
  | executable
deriving DecidableEq

def SourceMode.text : SourceMode → String
  | .regular => "100644"
  | .executable => "100755"

section

variable (casefold : Casefold)

/-- `safe_path`. -/
def IsSafePath (value : String) : Prop :=
  let path := PurePosixPath.parse value
  ¬ path.isAbsolute ∧ path.parts ≠ [] ∧ path.str = value ∧ ".." ∉ path.parts
    ∧ '\\' ∉ value.toList ∧ (∀ part ∈ path.parts, casefold.fold part ≠ ".git")
    ∧ ∀ character ∈ value.toList, ¬ (character.toNat < 32 ∨ character.toNat = 127)
deriving Decidable

/-- The fields of a source entry and its validator. -/
def IsSourceEntry (path : String) (size : ℕ) : Prop :=
  (1 ≤ path.length ∧ path.length ≤ 4096) ∧ size ≤ 2000000 ∧ IsSafePath casefold path
deriving Decidable

/-- `BaselineSourceEntry`. -/
structure BaselineSourceEntry where
  path : String
  mode : SourceMode
  size : ℕ
  contentSha256 : Sha256
  valid : IsSourceEntry casefold path size
deriving DecidableEq

variable {casefold}

/-- `BaselineSourceEntry.model_validate`. -/
def BaselineSourceEntry.validate (path : String) (mode : SourceMode) (size : ℕ)
    (contentSha256 : Sha256) : Option (BaselineSourceEntry casefold) :=
  if valid : IsSourceEntry casefold path size then some ⟨path, mode, size, contentSha256, valid⟩
  else none

/-- `complete_tree`, with the bound of the field. -/
def IsCompleteTree (entries : List (BaselineSourceEntry casefold)) : Prop :=
  let paths := entries.map BaselineSourceEntry.path
  entries.length ≤ 4096 ∧ paths.Pairwise (· ≤ ·) ∧ (paths.map casefold.fold).Nodup
    ∧ (entries.map BaselineSourceEntry.size).sum ≤ 32000000
deriving Decidable

variable (casefold) in
/-- `BaselineSourceManifest`. -/
structure BaselineSourceManifest where
  entries : List (BaselineSourceEntry casefold)
  complete : IsCompleteTree entries

/-- `BaselineSourceManifest(entries=tuple(sorted(entries, key=lambda item: item.path)))`. -/
def BaselineSourceManifest.ofEntries (entries : List (BaselineSourceEntry casefold)) :
    Option (BaselineSourceManifest casefold) :=
  let entries := entries.mergeSort fun a b => a.path ≤ b.path
  if complete : IsCompleteTree entries then some ⟨entries, complete⟩ else none

/-- Entries in order are not sorted again. -/
theorem ofEntries_of_complete {entries : List (BaselineSourceEntry casefold)}
    (complete : IsCompleteTree entries) :
    BaselineSourceManifest.ofEntries entries = some ⟨entries, complete⟩ := by
  have hordered : entries.Pairwise fun a b => decide (a.path ≤ b.path) = true :=
    (List.pairwise_map.mp complete.2.1).imp fun h => decide_eq_true h
  unfold BaselineSourceManifest.ofEntries
  simp only [List.mergeSort_of_pairwise hordered, dif_pos complete]

namespace BaselineSourceEntry

/-- `model_dump(mode="json")`. -/
def dump (entry : BaselineSourceEntry casefold) : JsonValue :=
  .obj [("path", .str entry.path), ("kind", .str "file"), ("mode", .str entry.mode.text),
    ("size", .int entry.size), ("content_sha256", .str entry.contentSha256.hex)]

/-- The document that is encoded for an entry. -/
def encoded (entry : BaselineSourceEntry casefold) : JsonValue :=
  .obj [("content_sha256", .str entry.contentSha256.hex), ("kind", .str "file"),
    ("mode", .str entry.mode.text), ("path", .str entry.path), ("size", .int entry.size)]

theorem sorted_dump (entry : BaselineSourceEntry casefold) : sorted entry.dump = entry.encoded := by
  rfl

end BaselineSourceEntry

namespace BaselineSourceManifest

/-- `model_dump(mode="json")`. -/
def dump (manifest : BaselineSourceManifest casefold) : JsonValue :=
  .obj [("schema_version", .int 1),
    ("entries", .arr (manifest.entries.map BaselineSourceEntry.dump))]

/-- `canonical_bytes()`. -/
def canonicalBytes (manifest : BaselineSourceManifest casefold) : Option Bytes :=
  canonical manifest.dump maxReportBytes

/-- `digest`. -/
def digest (sha256 : Bytes → Sha256) (manifest : BaselineSourceManifest casefold) :
    Option Sha256 :=
  manifest.canonicalBytes.map sha256

end BaselineSourceManifest

/-! ### The digest determines the manifest -/

theorem SourceMode.text_injective {a b : SourceMode} (h : a.text = b.text) : a = b := by
  cases a <;> cases b <;> first | rfl | exact absurd h (by decide)

namespace BaselineSourceEntry

theorem encoded_injective {a b : BaselineSourceEntry casefold} (h : a.encoded = b.encoded) :
    a = b := by
  simp only [encoded, JsonValue.obj.injEq, List.cons.injEq, Prod.mk.injEq, JsonValue.str.injEq,
    JsonValue.int.injEq, Nat.cast_inj, true_and, and_true] at h
  obtain ⟨hdigest, hmode, hpath, hsize⟩ := h
  obtain ⟨path, mode, size, contentSha256, valid⟩ := a
  obtain ⟨path', mode', size', contentSha256', valid'⟩ := b
  obtain ⟨hex, wellFormed⟩ := contentSha256
  obtain ⟨hex', wellFormed'⟩ := contentSha256'
  obtain rfl : path = path' := hpath
  obtain rfl : mode = mode' := SourceMode.text_injective hmode
  obtain rfl : size = size' := hsize
  obtain rfl : hex = hex' := hdigest
  rfl

end BaselineSourceEntry

namespace BaselineSourceManifest

theorem sortedItems_dump (entries : List (BaselineSourceEntry casefold)) :
    sortedItems (entries.map BaselineSourceEntry.dump)
      = entries.map BaselineSourceEntry.encoded := by
  induction entries with
  | nil => rfl
  | cons entry entries ih =>
      rw [List.map_cons, List.map_cons, sortedItems, ih, entry.sorted_dump]

/-- The document that is encoded for a manifest. -/
theorem sorted_dump (manifest : BaselineSourceManifest casefold) :
    sorted manifest.dump = .obj [("entries", .arr (manifest.entries.map BaselineSourceEntry.encoded)),
      ("schema_version", .int 1)] := by
  rw [← sortedItems_dump]
  rfl

theorem itemsFloatFree_encoded (entries : List (BaselineSourceEntry casefold)) :
    itemsFloatFree (entries.map BaselineSourceEntry.encoded) = true := by
  induction entries with
  | nil => rfl
  | cons entry entries ih =>
      rw [List.map_cons, itemsFloatFree, ih]
      rfl

theorem floatFree_sorted_dump (manifest : BaselineSourceManifest casefold) :
    (sorted manifest.dump).floatFree = true := by
  simp [sorted_dump, floatFree, fieldsFloatFree, itemsFloatFree_encoded]

/-- Manifests with the same canonical bytes have the same entries. -/
theorem entries_eq_of_canonicalBytes {a b : BaselineSourceManifest casefold} {raw : Bytes}
    (ha : a.canonicalBytes = some raw) (hb : b.canonicalBytes = some raw) :
    a.entries = b.entries := by
  have hdump := canonical_cancel a.floatFree_sorted_dump b.floatFree_sorted_dump ha hb
  rw [sorted_dump, sorted_dump] at hdump
  simp only [JsonValue.obj.injEq, List.cons.injEq, Prod.mk.injEq, JsonValue.arr.injEq, true_and,
    and_true] at hdump
  exact List.map_injective_iff.mpr (fun _ _ => BaselineSourceEntry.encoded_injective) hdump

end BaselineSourceManifest

/-! ### The manifests that have a digest -/

namespace BaselineSourceManifest

theorem bounds_items (entries : List (BaselineSourceEntry casefold)) :
    itemsHeight (entries.map BaselineSourceEntry.dump) ≤ 2
      ∧ itemsNodes (entries.map BaselineSourceEntry.dump) = 6 * entries.length := by
  induction entries with
  | nil => exact ⟨Nat.zero_le _, rfl⟩
  | cons entry entries ih =>
      have hheight : entry.dump.height = 1 := rfl
      have hnodes : entry.dump.nodes = 6 := rfl
      rw [List.map_cons, itemsHeight, itemsNodes, hheight, hnodes, List.length_cons]
      omega

/-- A manifest is always within the structural bounds. -/
theorem bounds_dump (manifest : BaselineSourceManifest casefold) :
    manifest.dump.height ≤ 24 ∧ manifest.dump.nodes ≤ 30000 := by
  obtain ⟨hheight, hnodes⟩ := bounds_items manifest.entries
  have hlength := manifest.complete.1
  simp only [dump, height, fieldsHeight, nodes, fieldsNodes]
  omega

end BaselineSourceManifest

/-- The bytes of an entry in the canonical bytes of its manifest. -/
def BaselineSourceEntry.bytes (entry : BaselineSourceEntry casefold) : ℕ :=
  133 + escapedBytes entry.path + entry.size.repr.length

/-- The bytes of a manifest, with the commas between its entries. -/
def manifestBytes (entries : List (BaselineSourceEntry casefold)) : ℕ :=
  33 + (entries.map BaselineSourceEntry.bytes).sum + (entries.length - 1)

theorem Sha256.escapedBytes_hex (digest : Sha256) : escapedBytes digest.hex = 64 := by
  obtain ⟨hlength, hhex⟩ := digest.wellFormed
  have hplain : ∀ character ∈ digest.hex.toList,
      32 ≤ character.toNat ∧ character ≠ '"' ∧ character ≠ '\\' ∧ character.toNat < 128 := by
    intro character hmem
    have hdigit := List.all_eq_true.mp hhex character hmem
    have hall : "0123456789abcdef".toList.all (fun character =>
        32 ≤ character.toNat ∧ character ≠ '"' ∧ character ≠ '\\' ∧ character.toNat < 128)
          = true := by decide
    exact of_decide_eq_true (List.all_eq_true.mp hall character (List.contains_iff_mem.mp hdigit))
  rw [escapedBytes_plain fun character hmem =>
    ⟨(hplain character hmem).1, (hplain character hmem).2.1, (hplain character hmem).2.2.1⟩,
    bytesOf_ascii fun character hmem => (hplain character hmem).2.2.2, hlength]

theorem SourceMode.escapedBytes_text (mode : SourceMode) : escapedBytes mode.text = 6 := by
  cases mode <;> rfl

theorem bytesOf_lastField (key : String) (value : JsonValue) :
    bytesOf (fieldChars [(key, value)]) = escapedBytes key + 3 + bytesOf value.chars := by
  have hcolon : ':'.utf8Size = 1 := rfl
  simp [fieldChars, hcolon]
  omega

theorem bytesOf_nextField (key : String) (value : JsonValue) (next : String × JsonValue)
    (rest : JsonObject) :
    bytesOf (fieldChars ((key, value) :: next :: rest))
      = escapedBytes key + 4 + bytesOf value.chars + bytesOf (fieldChars (next :: rest)) := by
  have hcolon : ':'.utf8Size = 1 := rfl
  have hcomma : ','.utf8Size = 1 := rfl
  simp [fieldChars, hcolon, hcomma]
  omega

theorem BaselineSourceEntry.bytesOf_encoded (entry : BaselineSourceEntry casefold) :
    bytesOf entry.encoded.chars = entry.bytes := by
  have hopen : (Char.ofNat 123).utf8Size = 1 := rfl
  have hclose : (Char.ofNat 125).utf8Size = 1 := rfl
  have hdigest : escapedBytes "content_sha256" = 14 := rfl
  have hkind : escapedBytes "kind" = 4 := rfl
  have hfile : escapedBytes "file" = 4 := rfl
  have hmode : escapedBytes "mode" = 4 := rfl
  have hpath : escapedBytes "path" = 4 := rfl
  have hsize : escapedBytes "size" = 4 := rfl
  have hstr (text : String) : bytesOf (JsonValue.str text).chars = escapedBytes text + 2 := by
    rw [chars, bytesOf_quotedChars]
  rw [encoded, chars, bytesOf_append, bytesOf_cons, hopen]
  simp only [bytesOf_nextField, bytesOf_lastField, hstr, bytesOf_nat, hdigest, hkind, hfile, hmode,
    hpath, hsize, Sha256.escapedBytes_hex, SourceMode.escapedBytes_text, bytesOf_cons, bytesOf_nil,
    hclose, bytes]
  omega

theorem bytesOf_itemChars (entries : List (BaselineSourceEntry casefold)) :
    bytesOf (itemChars (entries.map BaselineSourceEntry.encoded))
      = (entries.map BaselineSourceEntry.bytes).sum + (entries.length - 1) := by
  have hcomma : ','.utf8Size = 1 := rfl
  induction entries with
  | nil => rfl
  | cons entry entries ih =>
      cases entries with
      | nil => simp [itemChars, BaselineSourceEntry.bytesOf_encoded]
      | cons next entries =>
          simp only [List.map_cons, List.sum_cons, List.length_cons] at ih ⊢
          rw [itemChars, bytesOf_append, bytesOf_cons, hcomma, ih,
            BaselineSourceEntry.bytesOf_encoded]
          · omega
          · exact List.cons_ne_nil _ _

namespace BaselineSourceManifest

theorem length_utf8_dump (manifest : BaselineSourceManifest casefold) :
    (utf8 (sorted manifest.dump).text).length = manifestBytes manifest.entries := by
  have hopen : (Char.ofNat 123).utf8Size = 1 := rfl
  have hclose : (Char.ofNat 125).utf8Size = 1 := rfl
  have hbracket : '['.utf8Size = 1 := rfl
  have hbracket' : ']'.utf8Size = 1 := rfl
  have hentries : escapedBytes "entries" = 7 := rfl
  have hversion : escapedBytes "schema_version" = 14 := rfl
  have hone : bytesOf (JsonValue.int 1).chars = 1 := rfl
  have hlist (items : List JsonValue) :
      bytesOf (JsonValue.arr items).chars = bytesOf (itemChars items) + 2 := by
    rw [chars, bytesOf_append, bytesOf_cons, bytesOf_cons, bytesOf_nil, hbracket, hbracket']
    omega
  rw [text, length_utf8_ofList, sorted_dump, chars, bytesOf_append, bytesOf_cons, hopen]
  simp only [bytesOf_nextField, bytesOf_lastField, hlist, hentries, hversion, hone, bytesOf_cons,
    bytesOf_nil, hclose, bytesOf_itemChars, manifestBytes]
  omega

/-- A manifest has a digest when its canonical bytes are within the limit. -/
theorem exists_digest_iff {sha256 : Bytes → Sha256} {manifest : BaselineSourceManifest casefold} :
    (∃ digest, manifest.digest sha256 = some digest)
      ↔ manifestBytes manifest.entries ≤ maxReportBytes := by
  obtain ⟨hheight, hnodes⟩ := manifest.bounds_dump
  have hraw : (∃ raw, manifest.canonicalBytes = some raw)
      ↔ manifestBytes manifest.entries ≤ maxReportBytes := by
    unfold canonicalBytes
    rw [exists_canonical_iff, length_utf8_dump]
    exact ⟨fun h => h.2.2, fun h => ⟨hheight, hnodes, h⟩⟩
  rw [← hraw]
  simp only [digest, Option.map_eq_some_iff]
  constructor
  · rintro ⟨_, raw, hraw, -⟩
    exact ⟨raw, hraw⟩
  · rintro ⟨raw, hraw⟩
    exact ⟨sha256 raw, raw, hraw, rfl⟩

end BaselineSourceManifest

end

end AgentFleet
