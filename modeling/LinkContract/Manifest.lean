import LinkContract.Digest
import LinkContract.Json.Decode
import LinkContract.Time.Instant
import LinkContract.Variant.Basic
import LinkContract.Variant.Requirement

/-!
# Manifests and indexes

A symbol manifest is the table of a variant as a document: every catalog entry with
its requirement and declaration, and a digest of the names that are required, which
changes exactly when the contract with the support library changes.

An artifact index lists what a run has produced, each artifact with its SHA-256 and size.
-/
namespace LinkContract

/-! ### Symbol manifests -/

structure Manifest.Row where
  linkName : String
  category : String
  requirement : String
  declaration : String
  deriving DecidableEq, Repr

structure Manifest where
  version : UInt32
  variant : Variant.Label
  rows : List Manifest.Row
  requiredDigest : String
  deriving DecidableEq, Repr

namespace Manifest

namespace Row

def ofEntry (variant : Variant) (entry : EntryPoint) : Row where
  linkName := entry.linkName variant.size
  category := entry.category.name
  requirement := (variant.requirement entry).name
  declaration := entry.declaration variant.standard

def toJson (row : Row) : Json :=
  .object [("link_name", .string row.linkName), ("category", .string row.category),
    ("requirement", .string row.requirement), ("declaration", .string row.declaration)]

def schema : Json.Schema where
  name := "SymbolRecord"
  fields :=
    [.of "link_name" Json.decodeString, .of "category" Json.decodeString,
      .of "requirement" Json.decodeString, .of "declaration" Json.decodeString]

def decode : Json.Decoder Row := fun value => do
  let members ← schema.members value
  let linkName ← members.required "link_name" Json.decodeString
  let category ← members.required "category" Json.decodeString
  let requirement ← members.required "requirement" Json.decodeString
  let declaration ← members.required "declaration" Json.decodeString
  .ok { linkName, category, requirement, declaration }

end Row

/-- The link names of the rows with a requirement, in their order. -/
def namesWith (manifest : Manifest) (requirement : Requirement) : List String :=
  (manifest.rows.filter fun row => row.requirement == requirement.name).map (·.linkName)

def ofVariant (variant : Variant) : Manifest where
  version := 1
  variant := variant.label
  rows := EntryPoint.catalog.map (Row.ofEntry variant)
  requiredDigest := Names.digest (variant.required.map (EntryPoint.linkName variant.size))

def toJson (manifest : Manifest) : Json :=
  .object [("manifest_version", .natural manifest.version.toNat),
    ("variant", manifest.variant.toJson), ("symbols", .array (manifest.rows.map Row.toJson)),
    ("required_digest", .string manifest.requiredDigest)]

def text (manifest : Manifest) : String := manifest.toJson.pretty

def decodeRows : Json.Decoder (List Row) := Json.decodeList Row.decode

def schema : Json.Schema where
  name := "SymbolManifest"
  fields :=
    [.of "manifest_version" Json.decodeWord32, .of "variant" Variant.Label.decode,
      .of "symbols" decodeRows, .of "required_digest" Json.decodeString]

def decode : Json.Decoder Manifest := fun value => do
  let members ← schema.members value
  let version ← members.required "manifest_version" Json.decodeWord32
  let variant ← members.required "variant" Variant.Label.decode
  let rows ← members.required "symbols" decodeRows
  let requiredDigest ← members.required "required_digest" Json.decodeString
  .ok { version, variant, rows, requiredDigest }

end Manifest

/-! ### Artifact indexes -/

structure Artifact where
  path : String
  kind : String
  sha256 : String
  size : Option UInt64
  deriving DecidableEq, Repr

structure ArtifactIndex where
  version : UInt32
  runId : String
  generated : String
  artifacts : List Artifact
  deriving DecidableEq, Repr

namespace Artifact

def ofBytes (path kind : String) (contents : List UInt8) : Artifact :=
  ⟨path, kind, Sha256.hex contents, some (UInt64.ofNat contents.length)⟩

def sizeMember : Option UInt64 → Json.Members
  | some size => [("size_bytes", .natural size.toNat)]
  | none => []

def toJson (artifact : Artifact) : Json :=
  .object <|
    [("path", .string artifact.path), ("kind", .string artifact.kind),
      ("sha256", .string artifact.sha256)] ++ sizeMember artifact.size

def schema : Json.Schema where
  name := "ArtifactEntry"
  fields :=
    [.of "path" Json.decodeString, .of "kind" Json.decodeString, .of "sha256" Json.decodeString,
      .of "size_bytes" (Json.decodeOptional Json.decodeWord64)]

def decode : Json.Decoder Artifact := fun value => do
  let members ← schema.members value
  let path ← members.required "path" Json.decodeString
  let kind ← members.required "kind" Json.decodeString
  let sha256 ← members.required "sha256" Json.decodeString
  let size ← members.optional "size_bytes" Json.decodeWord64
  .ok { path, kind, sha256, size }

end Artifact

namespace ArtifactIndex

def empty (runId : String) (now : Time.Instant) : ArtifactIndex := ⟨1, runId, now.stamp, []⟩

/-- Adds an artifact at the end. -/
def add (index : ArtifactIndex) (path kind : String) (contents : List UInt8) : ArtifactIndex :=
  { index with artifacts := index.artifacts ++ [.ofBytes path kind contents] }

def toJson (index : ArtifactIndex) : Json :=
  .object [("index_version", .natural index.version.toNat), ("run_id", .string index.runId),
    ("generated_utc", .string index.generated),
    ("artifacts", .array (index.artifacts.map Artifact.toJson))]

def text (index : ArtifactIndex) : String := index.toJson.pretty

def decodeArtifacts : Json.Decoder (List Artifact) := Json.decodeList Artifact.decode

def schema : Json.Schema where
  name := "ArtifactIndex"
  fields :=
    [.of "index_version" Json.decodeWord32, .of "run_id" Json.decodeString,
      .of "generated_utc" Json.decodeString, .of "artifacts" decodeArtifacts]

def decode : Json.Decoder ArtifactIndex := fun value => do
  let members ← schema.members value
  let version ← members.required "index_version" Json.decodeWord32
  let runId ← members.required "run_id" Json.decodeString
  let generated ← members.required "generated_utc" Json.decodeString
  let artifacts ← members.required "artifacts" decodeArtifacts
  .ok { version, runId, generated, artifacts }

end ArtifactIndex

end LinkContract
