import StandbyStream.Datum
import StandbyStream.Files
import StandbyStream.Json.Meaning
import StandbyStream.Toml.Document

/-!
# Configuration files

The three sections of a configuration file. Every section and every setting may
be left out. Files are TOML where their name says so, and JSON otherwise.
-/

namespace StandbyStream.Config

/-- Settings of the stream. -/
structure StreamSection where
  address : Option String
  encoding : Option String
  width : Option UInt32
  height : Option UInt32
  fps : Option UInt32
  bitrate : Option UInt32
  liveInput : Option Bool
  tlsValidation : Option Bool
  deriving DecidableEq, Repr

/-- Settings of the pipeline and of what feeds it. -/
structure PipelineSection where
  engine : Option String
  pullTimeout : Option Nat
  queueCapacity : Option Nat
  statusInterval : Option Nat
  maxChunk : Option UInt32
  deriving DecidableEq, Repr

/-- Settings of the topics. -/
structure TopicsSection where
  command : Option String
  video : Option String
  status : Option String
  deriving DecidableEq, Repr

/-- What a file says. -/
structure File where
  stream : StreamSection
  pipeline : PipelineSection
  topics : TopicsSection
  deriving DecidableEq, Repr

/-- A section that says nothing. -/
def StreamSection.empty : StreamSection :=
  ⟨none, none, none, none, none, none, none, none⟩

/-- A section that says nothing. -/
def PipelineSection.empty : PipelineSection :=
  ⟨none, none, none, none, none⟩

/-- A section that says nothing. -/
def TopicsSection.empty : TopicsSection :=
  ⟨none, none, none⟩

/-- A file that says nothing. -/
def File.empty : File :=
  ⟨.empty, .empty, .empty⟩

section

variable {δ : Type} [Datum δ]

/-- Reads the section of the stream. -/
def StreamSection.ofDatum? (d : δ) : Option StreamSection := do
  let fields ← Datum.record?
    ["address", "encoding", "width", "height", "fps", "bitrate", "live_input",
      "rtsp_tls_validation"] d
  let address ← Datum.optional fields "address" Datum.text?
  let encoding ← Datum.optional fields "encoding" Datum.text?
  let width ← Datum.optional fields "width" Datum.word?
  let height ← Datum.optional fields "height" Datum.word?
  let fps ← Datum.optional fields "fps" Datum.word?
  let bitrate ← Datum.optional fields "bitrate" Datum.word?
  let liveInput ← Datum.optional fields "live_input" Datum.bool?
  let tlsValidation ← Datum.optional fields "rtsp_tls_validation" Datum.bool?
  return ⟨address, encoding, width, height, fps, bitrate, liveInput, tlsValidation⟩

/-- Reads the section of the pipeline. -/
def PipelineSection.ofDatum? (d : δ) : Option PipelineSection := do
  let fields ← Datum.record?
    ["backend", "pull_timeout_ms", "queue_capacity", "status_interval_ms", "max_chunk_bytes"] d
  let engine ← Datum.optional fields "backend" Datum.text?
  let pullTimeout ← Datum.optional fields "pull_timeout_ms" Datum.natural?
  let queueCapacity ← Datum.optional fields "queue_capacity" Datum.natural?
  let statusInterval ← Datum.optional fields "status_interval_ms" Datum.natural?
  let maxChunk ← Datum.optional fields "max_chunk_bytes" Datum.word?
  return ⟨engine, pullTimeout, queueCapacity, statusInterval, maxChunk⟩

/-- Reads the section of the topics. -/
def TopicsSection.ofDatum? (d : δ) : Option TopicsSection := do
  let fields ← Datum.record? ["command", "video", "status"] d
  let command ← Datum.optional fields "command" Datum.text?
  let video ← Datum.optional fields "video" Datum.text?
  let status ← Datum.optional fields "status" Datum.text?
  return ⟨command, video, status⟩

/-- Reads what a file says. -/
def File.ofDatum? (d : δ) : Option File := do
  let fields ← Datum.record? ["stream", "pipeline", "topics"] d
  let stream ← Datum.optional fields "stream" StreamSection.ofDatum?
  let pipeline ← Datum.optional fields "pipeline" PipelineSection.ofDatum?
  let topics ← Datum.optional fields "topics" TopicsSection.ofDatum?
  return ⟨stream.getD .empty, pipeline.getD .empty, topics.getD .empty⟩

end

/-- The name of a file says that it is TOML, in any letter case. -/
def File.isToml (path : String) : Bool :=
  match Files.extension? path with
  | some extension => extension.map Char.toLower = ['t', 'o', 'm', 'l']
  | none => false

/-- Reads the text of a file. -/
def File.parse? (path text : String) : Option File :=
  if File.isToml path then (Toml.read? text.toList).bind File.ofDatum?
  else (Json.Document.read? text.toList).bind File.ofDatum?

end StandbyStream.Config
