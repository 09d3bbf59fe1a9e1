/-!
# Topics

The topics under which commands and video chunks come in and the status goes
out.
-/

namespace StandbyStream

/-- The topics of a station. -/
structure Topics where
  command : String
  video : String
  status : String
  deriving DecidableEq, Repr

namespace Topics

/-- What a topic is for. -/
inductive Role where
  | command
  | video
  | status
  deriving DecidableEq, Repr

/-- The name of a role. -/
def Role.name : Role → String
  | .command => "command"
  | .video => "video"
  | .status => "status"

/-- The topic for a role. -/
def get (topics : Topics) : Role → String
  | .command => topics.command
  | .video => topics.video
  | .status => topics.status

/-- The topics where no others are configured. -/
def standard : Topics :=
  ⟨"streamer/command", "streamer/video", "streamer/status"⟩

/-- A topic holds a character that stands for many topics. -/
def hasWildcard (topic : String) : Bool :=
  topic.toList.any fun c => c == '+' || c == '#'

end Topics

end StandbyStream
