import StandbyStream.Report

/-!
# Frames

One encoded picture with its capture time, and its form on the wire: eight
bytes of timestamp, the most significant first, and at least one byte of
payload.
-/

namespace StandbyStream

/-- A sequence of bytes. -/
abbrev Bytes := List UInt8

/-- An encoded picture and the time of its capture in nanoseconds. -/
structure Frame where
  timestamp : UInt64
  payload : Bytes
  deriving DecidableEq, Repr

namespace Frame

/-- Length of the timestamp on the wire, in bytes. -/
def headerLength : Nat := 8

/-- What a frame takes up where it is queued, in bytes: the timestamp, and the place, the length and
the room of the payload, with 64 bits each. -/
def slotLength : Nat := 32

/-- Longest message with a frame where nothing else is configured, in bytes. -/
def standardLimit : UInt32 := 4194304

/-- A message with no payload behind its header, by its length. -/
structure TooShort where
  length : Nat
  deriving DecidableEq, Repr

instance : Explains TooShort where
  chain fault :=
    ["video chunk too short: " ++ toString fault.length ++ " bytes (need a " ++
      toString headerLength ++ "-byte header and a payload)"]

/-- The `width` lowest bytes of a number, the most significant first. -/
def bigEndian : Nat → Nat → Bytes
  | 0, _ => []
  | width + 1, n => UInt8.ofNat (n / Nat.pow 256 width) :: bigEndian width (n % Nat.pow 256 width)

/-- The number whose bytes, the most significant first, follow those of `acc`. -/
def ofBigEndian (acc : Nat) (bytes : Bytes) : Nat :=
  bytes.foldl (fun n byte => n * 256 + byte.toNat) acc

/-- Puts the timestamp before the payload. -/
def toWire (frame : Frame) : Bytes :=
  bigEndian headerLength frame.timestamp.toNat ++ frame.payload

/-- Takes the timestamp off; the payload must not be empty. -/
def ofWire (raw : Bytes) : Except TooShort Frame :=
  if raw.length ≤ headerLength then .error ⟨raw.length⟩
  else .ok ⟨UInt64.ofNat (ofBigEndian 0 (raw.take headerLength)), raw.drop headerLength⟩

end Frame

end StandbyStream
