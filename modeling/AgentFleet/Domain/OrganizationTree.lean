import AgentFleet.Domain.Paths
import AgentFleet.Domain.Texts
import AgentFleet.Lib.SortedRecords
import Mathlib.Algebra.GroupWithZero.Nat
import Mathlib.Data.String.Basic

/-! # Organization trees

The complete bytes of an organization: its files with their contents and digests, and its
directories.  `IsOrganizationPath`, `OrganizationFile.Checked` and `OrganizationTree.Complete` are
the validators; a tree is `Valid` when its entries and the whole are checked, which is what reading
it back from JSON demands.

Files and directories are dictionaries by path, so a listing is in the order of its paths and names
no path twice. -/

namespace AgentFleet

/-! ### Paths -/

/-- `_SENSITIVE`. -/
def sensitiveNames : List String :=
  [".git", ".hg", ".svn", ".ssh", ".aws", ".azure", ".gnupg", ".env", "credentials",
    "credentials.json", "credentials.yaml", "secrets", "secrets.json", "secrets.yaml", "id_rsa",
    "id_ed25519", "id_ecdsa", "trust", "state", "audit"]

/-- `text.endswith(tail)`. -/
def textEndsWith (text tail : String) : Bool := tail.toList.isSuffixOf text.toList

section

variable (casefold : Casefold)

/-- A part of a path that is not a credential or an entry of version control. -/
def IsPlainPart (part : String) : Prop :=
  let folded := casefold.fold part
  folded ∉ sensitiveNames ∧ textStartsWith folded ".env." = false
    ∧ ∀ tail ∈ [".pem", ".key", ".p12", ".pfx"], textEndsWith folded tail = false
deriving Decidable

/-- `validate_organization_path`. -/
def IsOrganizationPath (value : String) : Prop :=
  let path := PurePosixPath.parse value
  value ≠ "" ∧ value.utf8ByteSize ≤ 4096 ∧ ¬ path.isAbsolute ∧ path.str = value
    ∧ '\\' ∉ value.toList ∧ ".." ∉ path.parts ∧ path.parts ≠ [] ∧ path.parts.length ≤ 16
    ∧ (∀ character ∈ value.toList, ¬ (character.toNat < 32 ∨ character.toNat = 127))
    ∧ ∀ part ∈ path.parts, IsPlainPart casefold part
deriving Decidable

end

/-! ### Entries -/

/-- `OrganizationXattr`, with the bytes that its text encodes. -/
structure OrganizationXattr where
  value : Bytes
  bounded : value.length ≤ 4096
deriving DecidableEq

/-- `mode` of a file: `0o600` or `0o644`. -/
inductive OrganizationFileMode where
  | m600
  | m644
deriving DecidableEq

/-- `mode` of a directory: `0o700` or `0o755`. -/
inductive OrganizationDirectoryMode where
  | m700
  | m755
deriving DecidableEq

/-- `OrganizationFile`. -/
structure OrganizationFile where
  path : String
  content : String
  sha256 : Sha256
  mode : OrganizationFileMode
  xattrs : List OrganizationXattr := []
deriving DecidableEq

/-- `OrganizationDirectory`. -/
structure OrganizationDirectory where
  path : String
  mode : OrganizationDirectoryMode
  xattrs : List OrganizationXattr := []
deriving DecidableEq

/-- `MAX_FILE_BYTES`. -/
def maxFileBytes : ℕ := 512000

/-- `MAX_TREE_BYTES`. -/
def maxTreeBytes : ℕ := 4000000

section

variable (casefold : Casefold) (hash : Bytes → Sha256)

/-- `checked`. -/
def OrganizationFile.Rechecked (file : OrganizationFile) : Prop :=
  IsOrganizationPath casefold file.path ∧ file.content.utf8ByteSize ≤ maxFileBytes
    ∧ hash (utf8 file.content) = file.sha256
deriving Decidable

/-- `checked`. -/
def OrganizationDirectory.Rechecked (directory : OrganizationDirectory) : Prop :=
  directory.path = "." ∨ IsOrganizationPath casefold directory.path
deriving Decidable

/-- `checked`, with the bound of the field. -/
def OrganizationFile.Checked (file : OrganizationFile) : Prop :=
  IsOrganizationPath casefold file.path ∧ file.content.utf8ByteSize ≤ maxFileBytes
    ∧ hash (utf8 file.content) = file.sha256 ∧ file.xattrs.length ≤ 1
deriving Decidable

/-- `checked`, with the bound of the field. -/
def OrganizationDirectory.Checked (directory : OrganizationDirectory) : Prop :=
  (directory.path = "." ∨ IsOrganizationPath casefold directory.path)
    ∧ directory.xattrs.length ≤ 1
deriving Decidable

/-! ### Trees -/

abbrev OrganizationFiles := SortedRecords OrganizationFile.path

abbrev OrganizationDirectories := SortedRecords OrganizationDirectory.path

/-- `OrganizationTree`. -/
structure OrganizationTree where
  files : OrganizationFiles
  directories : OrganizationDirectories

namespace OrganizationTree

/-- The paths of a tree, the files first. -/
def allPaths (tree : OrganizationTree) : List String :=
  tree.files.records.map OrganizationFile.path
    ++ tree.directories.records.map OrganizationDirectory.path

/-- `complete`, with the bounds of the fields. -/
def Complete (tree : OrganizationTree) : Prop :=
  tree.files.records.length ≤ 256
    ∧ (1 ≤ tree.directories.records.length ∧ tree.directories.records.length ≤ 256)
    ∧ (tree.directories.get? ".").isSome = true
    ∧ (tree.allPaths.map fun path =>
      (PurePosixPath.parse path).parts.map casefold.fold).Nodup
    ∧ (∀ path ∈ tree.allPaths, path ≠ "." →
      (tree.directories.get? (PurePosixPath.parse path).parent.str).isSome = true)
    ∧ (tree.files.records.map fun file => file.content.utf8ByteSize).sum ≤ maxTreeBytes
deriving Decidable

/-- What `OrganizationTree(...)` asks of files and directories that are models already: their
validators run again, the bounds of their fields do not. -/
def Rechecked (tree : OrganizationTree) : Prop :=
  tree.Complete casefold ∧ (∀ file ∈ tree.files.records, file.Rechecked casefold hash)
    ∧ ∀ directory ∈ tree.directories.records, directory.Rechecked casefold
deriving Decidable

/-- A tree that `model_validate_json` accepts. -/
def Valid (tree : OrganizationTree) : Prop :=
  tree.Complete casefold ∧ (∀ file ∈ tree.files.records, file.Checked casefold hash)
    ∧ ∀ directory ∈ tree.directories.records, directory.Checked casefold
deriving Decidable

end OrganizationTree

end

end AgentFleet
