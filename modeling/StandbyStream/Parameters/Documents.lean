import StandbyStream.Engine.Choice
import StandbyStream.Json.Meaning
import StandbyStream.Parameters
import StandbyStream.Topology

/-!
# Parameters in documents

How settings and named choices stand in data documents, both ways.
-/

namespace StandbyStream

variable {δ : Type} [Datum δ]

/-- Reads an encoding by its exact name. -/
def Encoding.ofDatum? (d : δ) : Option Encoding :=
  Datum.named? ([Encoding.h264, .h265].map fun e => (e.name, e)) d

/-- Reads a mode by its exact name. -/
def Mode.ofDatum? (d : δ) : Option Mode :=
  Datum.named? ([Mode.fallbackOnly, .live].map fun mode => (mode.name, mode)) d

/-- Reads an engine by its exact name. -/
def EngineChoice.ofDatum? (d : δ) : Option EngineChoice :=
  Datum.named? ([EngineChoice.simulated, .gstreamer].map fun choice => (choice.name, choice)) d

namespace Parameters

/-- The names of the settings, in order. -/
def fieldNames : List String :=
  ["profile", "width", "height", "fps", "bitrate", "address"]

/-- Reads settings, all of which have to be there. -/
def ofDatum? (d : δ) : Option Parameters := do
  let fields ← Datum.record? fieldNames d
  let encoding ← Datum.required fields "profile" Encoding.ofDatum?
  let width ← Datum.required fields "width" Datum.word?
  let height ← Datum.required fields "height" Datum.word?
  let fps ← Datum.required fields "fps" Datum.word?
  let bitrate ← Datum.required fields "bitrate" Datum.word?
  let address ← Datum.required fields "address" Datum.text?
  return ⟨encoding, width, height, fps, bitrate, address⟩

/-- The document of settings. -/
def toDocument (p : Parameters) : Json.Document :=
  .ofFields
    [("profile", .ofText p.encoding.name),
      ("width", .ofNat p.width.toNat),
      ("height", .ofNat p.height.toNat),
      ("fps", .ofNat p.fps.toNat),
      ("bitrate", .ofNat p.bitrate.toNat),
      ("address", .ofText p.address)]

end Parameters

end StandbyStream
