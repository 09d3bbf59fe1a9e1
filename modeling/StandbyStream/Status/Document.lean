import StandbyStream.Json.Meaning
import StandbyStream.Status

/-!
# The published status

The document that tells the flags and the state of a stream.
-/

namespace StandbyStream.Snapshot

/-- The document of a status. -/
def toDocument (snapshot : Snapshot) : Json.Document :=
  .ofFields
    [("playing", .bool snapshot.status.playing),
      ("default", .bool snapshot.status.onFallback),
      ("error_detected", .bool snapshot.status.errorDetected),
      ("state", .ofText snapshot.state.name)]

/-- The text of a status. -/
def toText (snapshot : Snapshot) : String :=
  snapshot.toDocument.toText

end StandbyStream.Snapshot
