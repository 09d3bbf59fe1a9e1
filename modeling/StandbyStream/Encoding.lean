import StandbyStream.Report
import StandbyStream.Text.Lowercase

/-!
# Video encodings

The encoding of a stream fixes every stage and format name that depends on it.
-/

namespace StandbyStream

/-- A supported video encoding. -/
inductive Encoding where
  | h264
  | h265
  deriving DecidableEq, Repr

namespace Encoding

/-- H.264 unless something else is asked for. -/
instance : Inhabited Encoding := ⟨.h264⟩

/-- The name of the encoding. -/
def name : Encoding → String
  | .h264 => "H264"
  | .h265 => "H265"

/-- A text that names no encoding, in its folded form. -/
structure Unknown where
  text : String
  deriving DecidableEq, Repr

instance : Explains Unknown where
  chain fault := ["unknown encoding '" ++ fault.text ++ "': expected 'H264' or 'H265'"]

/-- Reads an encoding by any of its names, whatever their margin and letter case. -/
def parse (s : String) : Except Unknown Encoding :=
  let word := Text.fold s
  if word ∈ ["h264", "h.264", "avc"] then .ok .h264
  else if word ∈ ["h265", "h.265", "hevc"] then .ok .h265
  else .error ⟨word⟩

/-- Media type of the encoded stream. -/
def mediaType : Encoding → String
  | .h264 => "video/x-h264"
  | .h265 => "video/x-h265"

/-- The stage that encodes raw frames. -/
def encoder : Encoding → String
  | .h264 => "x264enc"
  | .h265 => "x265enc"

/-- The stage that parses the encoded stream. -/
def parser : Encoding → String
  | .h264 => "h264parse"
  | .h265 => "h265parse"

/-- The stage that wraps the encoded stream into packets. -/
def payloader : Encoding → String
  | .h264 => "rtph264pay"
  | .h265 => "rtph265pay"

/-- Coding profile asked of the live producer. -/
def liveProfile (_ : Encoding) : String :=
  "main"

/-- Coding profile of the fallback picture, where the encoder offers a choice. -/
def fallbackProfile : Encoding → Option String
  | .h264 => some "baseline"
  | .h265 => none

/-- Type number that packets of either encoding carry. -/
def payloadType : Int := 96

/-- Rate of the fallback encoder in kbit/s. -/
def fallbackRate : Int := 500

end Encoding

end StandbyStream
