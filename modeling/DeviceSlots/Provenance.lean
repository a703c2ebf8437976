import DeviceSlots.Digest.Sha256
import DeviceSlots.Host
import DeviceSlots.Manifest.Writer
import DeviceSlots.Registry.Writer

/-!
# Provenance

What identifies a generated header. The layout fingerprint is the digest of the registries and the
configuration, both as compact JSON; registries are written with their names in order and without
slots, so that hosts with equal fingerprints generate equal headers. The header has a digest of its
own, once it is there.
-/

namespace DeviceSlots

open Json (Value)

/-- What identifies the header of a host. -/
structure Provenance where
  /-- The digest of the registries and the configuration. -/
  layoutFingerprint : List UInt8
  /-- The digest of the header, once there is one. -/
  headerHash : Option (List UInt8)
  bufferSize : Nat
  generatorVersion : String
  deriving DecidableEq

/-- The version of the generator. -/
def generatorVersion : String := "0.1.0"

namespace Provenance

/-- The digest of a text. -/
def digest (text : String) : List UInt8 := Sha256.hash text.toUTF8.toList

/-- The text whose digest is the layout fingerprint. -/
def layoutText (host : Host) : String :=
  host.registries.canonicalJson ++ "\n" ++ host.config.toJson.compact

/-- The provenance of a host. -/
def ofHost (host : Host) : Provenance where
  layoutFingerprint := digest (layoutText host)
  headerHash := host.header.map digest
  bufferSize := host.bufferSize
  generatorVersion := DeviceSlots.generatorVersion

/-- A provenance as JSON. -/
def toJson (p : Provenance) : Value :=
  .object (
    [("layout_fingerprint", .string (Text.hexBytes p.layoutFingerprint))] ++
    (match p.headerHash with
    | some hash => [("header_hash", .string (Text.hexBytes hash))]
    | none => []) ++
    [("buffer_size", .number p.bufferSize), ("generator_version", .string p.generatorVersion)])

/-- The text of a provenance. -/
def text (p : Provenance) : String := p.toJson.indented ++ "\n"

end Provenance

end DeviceSlots
