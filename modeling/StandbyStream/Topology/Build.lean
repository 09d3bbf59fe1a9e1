import StandbyStream.Topology.Check

/-!
# Building topologies

The graph for a build request. The fallback branch draws and encodes a picture;
in live mode the live branch and a switch stand next to it; behind them the
stream is parsed, queued and sent to its destination.
-/

namespace StandbyStream

/-- Everything that a build depends on. -/
structure BuildRequest where
  mode : Mode
  encoding : Encoding
  width : UInt32
  height : UInt32
  fps : UInt32
  /-- Rate of the live producer in bit/s; no stage is configured from it. -/
  bitrate : UInt32
  address : String
  /-- Whether the certificate of the server is checked. -/
  tlsValidation : Bool
  deriving DecidableEq, Repr

namespace Topology

/-- Why there is no graph for a request. -/
inductive BuildFault where
  | frameSize (width height : UInt32)
  | frameRate
  | destination (cause : Destination.Fault)
  | unsound (defect : Defect)
  deriving DecidableEq, Repr

/-- The messages of a fault, outermost first. -/
def BuildFault.chain : BuildFault → List String
  | .frameSize width height =>
    ["invalid frame size " ++ toString width.toNat ++ "x" ++ toString height.toNat]
  | .frameRate => ["frame rate must be greater than zero"]
  | .destination cause => cause.chain
  | .unsound defect => [defect.message]

instance : Explains BuildFault where
  chain := BuildFault.chain

/-! ## Branches -/

/-- Format of the encoded fallback picture. -/
def fallbackCaps (encoding : Encoding) : Caps :=
  let caps := (Caps.ofType encoding.mediaType).field "stream-format" (.text "byte-stream")
  match encoding.fallbackProfile with
  | some profile => caps.field "profile" (.text profile)
  | none => caps

/-- The picture shown without live frames, encoded at a fixed rate. -/
def fallbackBranch (request : BuildRequest) : List Stage :=
  let pattern := match request.mode with
    | .fallbackOnly => "black"
    | .live => "chroma-zone-plate"
  [ ((Stage.plain "fallback_src" "videotestsrc" .source .fallback).set "is-live" (.bool true)).set
      "pattern" (.text pattern),
    (Stage.plain "fallback_caps" "capsfilter" .filter .fallback).set "caps"
      (.caps (Caps.rawVideo request.width request.height request.fps)),
    ((((Stage.plain "fallback_overlay" "textoverlay" .overlay .fallback).set
      "text" (.text "Camera not detected!")).set
      "valignment" (.text "center")).set
      "halignment" (.text "center")).set
      "font-desc" (.text "Sans, 42"),
    (((Stage.plain "fallback_encoder" request.encoding.encoder .encoder .fallback).set
      "bitrate" (.int Encoding.fallbackRate)).set
      "speed-preset" (.text "superfast")).set
      "tune" (.text "zerolatency"),
    (Stage.plain "fallback_encoded_caps" "capsfilter" .filter .fallback).set "caps"
      (.caps (fallbackCaps request.encoding)) ] ++
  match request.mode with
  | .fallbackOnly => []
  | .live =>
    [(Stage.plain "fallback_sync" "identity" .identity .fallback).set "sync" (.bool false)]

/-- Format of the frames that the producer hands in. -/
def liveCaps (request : BuildRequest) : Caps :=
  (((Caps.ofType request.encoding.mediaType).field "width" (.int request.width.toNat)).field
    "height" (.int request.height.toNat)).field "framerate" (Caps.rate request.fps)

/-- The entrance for live frames. -/
def liveBranch (request : BuildRequest) : List Stage :=
  [ ((((((Stage.plain "live_src" "appsrc" .source .live).set
      "do-timestamp" (.bool true)).set
      "is-live" (.bool true)).set
      "block" (.bool false)).set
      "stream-type" (.text "stream")).set
      "format" (.text "time")).set
      "caps" (.caps (liveCaps request)),
    (Stage.plain "live_caps" "capsfilter" .filter .live).set "caps"
      (.caps (((Caps.ofType request.encoding.mediaType).field
        "profile" (.text request.encoding.liveProfile)).field
        "stream-format" (.text "byte-stream"))),
    (Stage.plain "live_sync" "identity" .identity .live).set "sync" (.bool false) ]

/-- The switch, which takes the live branch as its first input. -/
def inputSwitch : Stage :=
  Stage.plain "input_switch" "input-selector" .switch .tail

/-- The stages that send the stream to its destination. -/
def sinkStages (request : BuildRequest) : Destination → List Stage
  | .udp host port =>
    [ ((Stage.plain "payloader" request.encoding.payloader .payloader .tail).set
        "pt" (.int Encoding.payloadType)).set
        "config-interval" (.int 1),
      ((Stage.plain "udp_sink" "udpsink" .sink .tail).set
        "host" (.text host)).set
        "port" (.int port.toNat) ]
  | .server location =>
    [ (((Stage.plain "rtsp_sink" "rtspclientsink" .sink .tail).set
        "location" (.text location)).set
        "protocols" (.text "tcp")).set
        "tls-validation-flags"
        (if request.tlsValidation then .text "validate-all" else .int 0) ]

/-- What follows the inputs. Switching restarts the time of a segment, so in live mode a stage
presents one segment to the parser. -/
def tailBranch (request : BuildRequest) (destination : Destination) : List Stage :=
  (match request.mode with
    | .fallbackOnly => []
    | .live =>
      [((Stage.plain "segment" "identity" .identity .tail).set
        "silent" (.bool true)).set
        "single-segment" (.bool true)]) ++
  [ Stage.plain "parser" request.encoding.parser .parser .tail,
    Stage.plain "tail_queue" "queue" .queue .tail ] ++
  sinkStages request destination

/-! ## Assembly -/

/-- The links that make a chain of the stages. -/
def linksOf : List Stage → List Link
  | a :: b :: rest => ⟨a.name, b.name⟩ :: linksOf (b :: rest)
  | _ => []

/-- The link from the last stage of one chain to the first of the next. -/
def joint (before after : List Stage) : List Link :=
  match before.getLast?, after.head? with
  | some a, some b => [⟨a.name, b.name⟩]
  | _, _ => []

/-- The graph for a request and its destination. -/
def assemble (request : BuildRequest) (destination : Destination) : Topology :=
  let fallback := fallbackBranch request
  let tail := tailBranch request destination
  let (stages, links) := match request.mode with
    | .fallbackOnly => (fallback ++ tail, linksOf fallback ++ linksOf tail ++ joint fallback tail)
    | .live =>
      let live := liveBranch request
      (fallback ++ live ++ [inputSwitch] ++ tail,
        linksOf fallback ++ linksOf live ++ joint live [inputSwitch] ++
          joint fallback [inputSwitch] ++ linksOf tail ++ joint [inputSwitch] tail)
  ⟨request.mode, request.encoding, request.fps, destination, stages, links⟩

/-- Builds the graph for a request. The frame size and rate must not be zero. -/
def build (request : BuildRequest) : Except BuildFault Topology :=
  if request.width = 0 ∨ request.height = 0 then .error (.frameSize request.width request.height)
  else if request.fps = 0 then .error .frameRate
  else
    match Destination.parse request.address with
    | .error cause => .error (.destination cause)
    | .ok destination =>
      let t := assemble request destination
      match t.check with
      | .error defect => .error (.unsound defect)
      | .ok () => .ok t

end Topology

end StandbyStream
