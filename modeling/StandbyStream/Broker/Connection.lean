import StandbyStream.Broker.Tls
import StandbyStream.Status.Document
import StandbyStream.Topics

/-!
# Connections to the broker

A client says who it is, subscribes to the topics for commands and video,
sorts what comes in by its topic and publishes the status, which the broker
keeps.
-/

namespace StandbyStream

/-- A client and where it connects to. -/
structure ClientSettings where
  endpoint : Endpoint
  tls : TlsMaterial
  clientId : String
  username : Option String
  password : Option String
  /-- Longest payload that the client will take, in bytes. -/
  maxChunk : UInt32
  deriving DecidableEq, Repr

/-- What a client says when it connects. -/
structure Introduction where
  clientId : String
  /-- The broker is to forget earlier sessions. -/
  cleanStart : Bool
  /-- Seconds after which the client gives a sign of life. -/
  keepAlive : Nat
  /-- Longest packet that the client will take, in bytes. -/
  maxPacket : UInt32
  username : Option String
  password : Option String
  deriving DecidableEq, Repr

/-- A message that a client publishes, to be delivered at least once. -/
structure Publication where
  topic : String
  /-- The broker keeps the message for those who come later. -/
  retained : Bool
  payload : Bytes
  deriving DecidableEq, Repr

/-- The delivery of published messages: at least once. -/
def Publication.quality : Nat := 1

/-- A message that came in. -/
inductive Inbound where
  | command (payload : Bytes)
  | video (payload : Bytes)
  deriving DecidableEq, Repr

/-- Sorts a message by its topic; where both topics are one, it is for commands. -/
def Topics.classify (topics : Topics) (topic : String) (payload : Bytes) : Option Inbound :=
  if topic = topics.command then some (.command payload)
  else if topic = topics.video then some (.video payload)
  else none

/-- Sorts a message whose topic may not be a text. -/
def Topics.classifyBytes (topics : Topics) (topic payload : Bytes) : Option Inbound :=
  (Text.decodeUtf8? topic).bind fun topic => topics.classify topic payload

/-- What a client subscribes to, and how: at most once. -/
def Topics.subscriptions (topics : Topics) : List (String × Nat) :=
  [(topics.command, 0), (topics.video, 0)]

/-- A request that can no longer be made, or not of this topic. -/
inductive RequestFault where
  | refused
  deriving DecidableEq, Repr

instance : Explains RequestFault where
  chain _ := ["Failed to send mqtt requests to eventloop"]

namespace ClientSettings

/-- Room in a packet for what is not payload. -/
def headroom : Nat := 4096

/-- The longest packet that a longest payload needs, as far as 32 bits go. -/
def maxPacket (settings : ClientSettings) : UInt32 :=
  UInt32.ofNat (min (settings.maxChunk.toNat + headroom) (UInt32.size - 1))

/-- What the client says. A password needs a user name to be given; empty ones are not sent. -/
def introduction (settings : ClientSettings) : Introduction :=
  { clientId := settings.clientId
    cleanStart := true
    keepAlive := 60
    maxPacket := settings.maxPacket
    username := settings.username.filter (· ≠ "")
    password := settings.username.bind fun _ => settings.password.filter (· ≠ "") }

end ClientSettings

/-- An open connection and what was published over it, the oldest first. -/
structure Connection where
  introduction : Introduction
  transport : Transport
  topics : Topics
  /-- Requests are taken. -/
  alive : Bool
  published : List Publication
  deriving DecidableEq, Repr

namespace Connection

/-- Opens a connection, unless there is no transport. -/
def connect (settings : ClientSettings) (topics : Topics) : Except Transport.Fault Connection :=
  (Transport.choose settings.endpoint settings.tls).map fun transport =>
    ⟨settings.introduction, transport, topics, true, []⟩

/-- Nobody takes what comes in any more: with the first message the connection ends. -/
def abandon (c : Connection) : Connection :=
  { c with alive := false }

/-- Publishes a message; its topic must stand for itself alone. -/
def publish (c : Connection) (message : Publication) : Except RequestFault Unit × Connection :=
  if !c.alive ∨ Topics.hasWildcard message.topic then (.error .refused, c)
  else (.ok (), { c with published := c.published ++ [message] })

/-- The message that tells a status. -/
def statusMessage (topics : Topics) (snapshot : Snapshot) : Publication :=
  ⟨topics.status, true, Text.encodeUtf8 snapshot.toText⟩

/-- Publishes a status. -/
def publishStatus (c : Connection) (snapshot : Snapshot) : Except RequestFault Unit × Connection :=
  c.publish (statusMessage c.topics snapshot)

/-- Takes leave of the broker. -/
def disconnect (c : Connection) : Except RequestFault Unit :=
  if c.alive then .ok () else .error .refused

end Connection

end StandbyStream
