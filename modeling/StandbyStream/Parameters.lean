import StandbyStream.Encoding
import StandbyStream.Text.Blank

/-!
# Stream parameters

The settings of one stream, the bounds they have to keep, and overrides that
replace some of them.
-/

namespace StandbyStream

/-- The settings of one stream. -/
structure Parameters where
  encoding : Encoding
  width : UInt32
  height : UInt32
  /-- Frames per second. -/
  fps : UInt32
  /-- Rate of the live producer in bit/s. -/
  bitrate : UInt32
  /-- Where the stream goes, as it was written. -/
  address : String
  deriving DecidableEq, Repr

/-- Settings to replace. -/
structure Overrides where
  encoding : Option Encoding
  width : Option UInt32
  height : Option UInt32
  fps : Option UInt32
  bitrate : Option UInt32
  address : Option String
  deriving DecidableEq, Repr

/-- Nothing to replace. -/
def Overrides.none : Overrides :=
  ⟨.none, .none, .none, .none, .none, .none⟩

namespace Parameters

/-- The settings of a stream that nothing is known about, not even where it goes. -/
def initial : Parameters :=
  ⟨default, 1280, 720, 25, 3000000, ""⟩

/-- The settings with the overrides in their place. -/
def override (p : Parameters) (o : Overrides) : Parameters :=
  { encoding := o.encoding.getD p.encoding
    width := o.width.getD p.width
    height := o.height.getD p.height
    fps := o.fps.getD p.fps
    bitrate := o.bitrate.getD p.bitrate
    address := o.address.getD p.address }

/-! ## Bounds -/

/-- A side of the picture. -/
inductive Side where
  | width
  | height
  deriving DecidableEq, Repr

/-- The name of a side. -/
def Side.name : Side → String
  | .width => "width"
  | .height => "height"

/-- Longest side in pixels. -/
def maxSide : UInt32 := 4096

/-- Highest frame rate. -/
def maxFps : UInt32 := 120

/-- Highest rate in bit/s. -/
def maxBitrate : UInt32 := 100000000

/-- A setting out of its bounds. -/
inductive Fault where
  | sideRange (side : Side) (length : UInt32)
  | oddSide (side : Side) (length : UInt32)
  | fpsRange (fps : UInt32)
  | bitrateRange (bitrate : UInt32)
  | noAddress
  deriving DecidableEq, Repr

/-- The wording of a fault. -/
def Fault.message : Fault → String
  | .sideRange side length =>
    side.name ++ " must be in 1..=" ++ toString maxSide.toNat ++ " (got " ++
      toString length.toNat ++ ")"
  | .oddSide side length => side.name ++ " must be even (got " ++ toString length.toNat ++ ")"
  | .fpsRange fps =>
    "fps must be in 1..=" ++ toString maxFps.toNat ++ " (got " ++ toString fps.toNat ++ ")"
  | .bitrateRange bitrate =>
    "bitrate must be in 1..=" ++ toString maxBitrate.toNat ++ " bit/s (got " ++
      toString bitrate.toNat ++ ")"
  | .noAddress => "stream address is empty"

instance : Explains Fault where
  chain fault := [fault.message]

/-- Sides are even and neither zero nor too long. -/
def checkSide (side : Side) (length : UInt32) : Except Fault Unit :=
  if length = 0 ∨ maxSide < length then .error (.sideRange side length)
  else if length % 2 ≠ 0 then .error (.oddSide side length)
  else .ok ()

/-- Reports the first setting out of its bounds. What the address says is not looked at. -/
def check (p : Parameters) : Except Fault Unit := do
  checkSide .width p.width
  checkSide .height p.height
  if p.fps = 0 ∨ maxFps < p.fps then throw (.fpsRange p.fps)
  if p.bitrate = 0 ∨ maxBitrate < p.bitrate then throw (.bitrateRange p.bitrate)
  if Text.isAllBlank p.address then throw .noAddress

end Parameters

end StandbyStream
