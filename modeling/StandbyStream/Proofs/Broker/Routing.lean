import StandbyStream.Proofs.Daemon.Start

/-!
# Sorting messages by topic

A message is for the first role, in the order command and video, that its topic is for. So messages
are told apart exactly if no two roles share a topic (`Topics.sorts_iff`). Loading a configuration
does not see to that: each topic is checked alone, and whichever topics pass can be configured
together (`load_withTopics`). What becomes of the messages of a loaded configuration is put together
in `routing_of_load`.
-/

namespace StandbyStream

open Checks

variable {ρ π : Type}

/-! ## Topics -/

namespace Topics

variable {topics : Topics}

/-- No two roles share a topic. -/
structure Apart (topics : Topics) : Prop where
  video_ne_command : topics.video ≠ topics.command
  status_ne_command : topics.status ≠ topics.command
  status_ne_video : topics.status ≠ topics.video

/-- Commands, chunks and the status are told apart by their topics; the status is not for the
daemon itself. -/
structure Sorts (topics : Topics) : Prop where
  command : ∀ payload, topics.classify topics.command payload = some (.command payload)
  video : ∀ payload, topics.classify topics.video payload = some (.video payload)
  status : ∀ payload, topics.classify topics.status payload = none

theorem classify_command (topics : Topics) (payload : Bytes) :
    topics.classify topics.command payload = some (.command payload) :=
  if_pos rfl

theorem classify_video (topics : Topics) (payload : Bytes) :
    topics.classify topics.video payload =
      some (if topics.video = topics.command then .command payload else .video payload) := by
  rw [classify, if_pos rfl, apply_ite some]

theorem sorts_iff : topics.Sorts ↔ topics.Apart := by
  constructor
  · intro h
    -- any payload tells where a message has gone
    have hvideo := h.video []
    have hstatus := h.status []
    rw [classify] at hvideo hstatus
    refine ⟨fun heq => ?_, fun heq => ?_, fun heq => ?_⟩
    · rw [if_pos heq] at hvideo
      cases hvideo
    · rw [if_pos heq] at hstatus
      cases hstatus
    · rw [if_pos heq, ← apply_ite some] at hstatus
      cases hstatus
  · intro h
    refine ⟨classify_command topics, fun payload => ?_, fun payload => ?_⟩
    · rw [classify_video, if_neg h.video_ne_command]
    · rw [classify, if_neg h.status_ne_command, if_neg h.status_ne_video]

theorem classifyBytes_encodeUtf8 (topics : Topics) (topic : String) (payload : Bytes) :
    topics.classifyBytes (Text.encodeUtf8 topic) payload = topics.classify topic payload := by
  rw [classifyBytes, Text.decodeUtf8?_encodeUtf8, Option.bind_some]

end Topics

/-! ## The daemon -/

namespace Daemon.Service

variable [MediaEngine ρ π] {s : Service ρ π}

/-- Where topics are apart, a message of the topic for video is taken as a chunk. -/
theorem receive_video (h : s.connection.topics.Apart) (payload : Bytes) :
    s.receive (Text.encodeUtf8 s.connection.topics.video) payload =
      (s.handle (.video payload)).supervise := by
  rw [receive, Topics.classifyBytes_encodeUtf8, (Topics.sorts_iff.2 h).video]

/-- Where topics are apart, the daemon takes no notice of a status, be it its own. -/
theorem receive_status (h : s.connection.topics.Apart) (payload : Bytes) :
    s.receive (Text.encodeUtf8 s.connection.topics.status) payload = s := by
  rw [receive, Topics.classifyBytes_encodeUtf8, (Topics.sorts_iff.2 h).status]

end Daemon.Service

/-! ## Topics of the environment -/

namespace Environment

/-- The variables of the topics. -/
def topicVariable : Topics.Role → String
  | .command => "STREAMER_COMMAND_TOPIC"
  | .video => "STREAMER_VIDEO_TOPIC"
  | .status => "STREAMER_STATUS_TOPIC"

/-- The environment with variables for the topics. -/
def withTopics (env : Environment) (topics : Topics) : Environment :=
  ⟨[(topicVariable .command, Text.encodeUtf8 topics.command),
    (topicVariable .video, Text.encodeUtf8 topics.video),
    (topicVariable .status, Text.encodeUtf8 topics.status)] ++ env.bindings⟩

variable {env : Environment} {topics : Topics}

/-- The topics make no difference to the other variables. -/
theorem text?_withTopics {name : String} (hc : name ≠ topicVariable .command)
    (hv : name ≠ topicVariable .video) (hs : name ≠ topicVariable .status) :
    (env.withTopics topics).text? name = env.text? name := by
  have hget : (env.withTopics topics).get? name = env.get? name := by
    simp [get?, withTopics, List.lookup_cons, beq_false_of_ne hc, beq_false_of_ne hv,
      beq_false_of_ne hs]
  rw [text?, text?, hget]

theorem filled?_withTopics {name : String} (hc : name ≠ topicVariable .command)
    (hv : name ≠ topicVariable .video) (hs : name ≠ topicVariable .status) :
    (env.withTopics topics).filled? name = env.filled? name := by
  rw [filled?, filled?, text?_withTopics hc hv hs]

theorem filled?_topicVariable {role : Topics.Role} (h : Text.isAllBlank (topics.get role) = false) :
    (env.withTopics topics).filled? (topicVariable role) = some (topics.get role) := by
  have hget : (env.withTopics topics).get? (topicVariable role) =
      some (Text.encodeUtf8 (topics.get role)) := by
    cases role <;> rfl
  rw [filled?, text?, hget, Option.bind_some, Text.decodeUtf8?_encodeUtf8]
  simp [h]

end Environment

namespace Config

variable {files : Files} {env : Environment} {base config : Config} {topics : Topics}

theorem override_withTopics (h : base.override env = .ok config)
    (hfilled : ∀ role, Text.isAllBlank (topics.get role) = false) :
    base.override (env.withTopics topics) = .ok { config with topics } := by
  have topic role (old : String) :
      text (env.withTopics topics) (Environment.topicVariable role) old = topics.get role := by
    rw [text, Environment.filled?_topicVariable (hfilled role), Option.getD_some]
  have command : text (env.withTopics topics) "STREAMER_COMMAND_TOPIC" base.topics.command =
      topics.command := topic .command _
  have video : text (env.withTopics topics) "STREAMER_VIDEO_TOPIC" base.topics.video =
      topics.video := topic .video _
  have status : text (env.withTopics topics) "STREAMER_STATUS_TOPIC" base.topics.status =
      topics.status := topic .status _
  -- every other setting is read from the same variable as before
  rw [override] at h ⊢
  simp only [bind_eq_ok] at h ⊢
  obtain ⟨encoding, hencoding, width, hwidth, height, hheight, fps, hfps, bitrate, hbitrate, engine,
    hengine, pull, hpull, queue, hqueue, chunk, hchunk, live, hlive, tls, htls, heq⟩ := h
  cases heq
  rw [command, video, status]
  simp (disch := decide) only [word, natural, bool, text, Environment.filled?_withTopics]
  exact ⟨encoding, hencoding, width, hwidth, height, hheight, fps, hfps, bitrate, hbitrate, engine,
    hengine, pull, hpull, queue, hqueue, chunk, hchunk, live, hlive, tls, htls, rfl⟩

theorem Valid.withTopics (h : config.Valid) (htopics : ∀ role, checkTopic topics role = .ok ()) :
    ({ config with topics } : Config).Valid :=
  { h with topics := fun role => checkTopic_eq_ok.1 (htopics role) }

/-- Whichever topics pass alone can be configured together, with everything else as it was. -/
theorem load_withTopics (h : load files env = .ok config)
    (htopics : ∀ role, checkTopic topics role = .ok ()) :
    load files (env.withTopics topics) = .ok { config with topics } := by
  obtain ⟨file, hfile, base, hbase, hconfig, hvalid⟩ := load_eq_ok.1 h
  have hfilled role := (checkTopic_eq_ok.1 (htopics role)).1
  refine load_eq_ok.2 ⟨file, ?_, base, hbase, override_withTopics hconfig hfilled,
    hvalid.withTopics htopics⟩
  rw [← hfile, source, source, Environment.text?_withTopics (by decide) (by decide) (by decide)]

/-- What becomes of messages under the topics of a configuration that has been loaded. A message of
the command topic is a command. One of the video topic is a chunk unless that is the command topic
too, and one of the status topic is for nobody unless commands or video share it. The topics need
not be apart: any three that pass alone are loaded. Where they are, a daemon takes chunks for chunks
and does not listen to its own status. -/
theorem routing_of_load (h : load files env = .ok config) :
    (∀ payload,
      config.topics.classify config.topics.command payload = some (.command payload) ∧
      config.topics.classify config.topics.video payload =
        some (if config.topics.video = config.topics.command then .command payload
          else .video payload) ∧
      config.topics.classify config.topics.status payload =
        if config.topics.status = config.topics.command then some (.command payload)
        else if config.topics.status = config.topics.video then some (.video payload)
        else none) ∧
    (config.topics.Sorts ↔ config.topics.Apart) ∧
    (∀ s : Daemon.Service Simulator SimPipeline, s.connection.topics = config.topics →
      config.topics.Apart → ∀ payload,
        s.receive (Text.encodeUtf8 config.topics.video) payload =
          (s.handle (.video payload)).supervise ∧
        s.receive (Text.encodeUtf8 config.topics.status) payload = s) ∧
    ∀ topics, (∀ role, checkTopic topics role = .ok ()) →
      load files (env.withTopics topics) = .ok { config with topics } := by
  refine ⟨fun payload => ⟨Topics.classify_command _ _, Topics.classify_video _ _, rfl⟩,
    Topics.sorts_iff, fun s hs hapart payload => ?_, fun _ => load_withTopics h⟩
  rw [← hs] at hapart ⊢
  exact ⟨Daemon.Service.receive_video hapart payload,
    Daemon.Service.receive_status hapart payload⟩

/-- One topic for everything. -/
def oneTopic : Topics :=
  ⟨"streamer", "streamer", "streamer"⟩

/-- The topics that are usual tell messages apart; the configuration is loaded with one topic for
everything as well. -/
theorem routing_of_load_of_trial :
    load Files.none trialEnvironment = .ok trialConfig ∧ trialConfig.topics.Sorts ∧
      load Files.none (trialEnvironment.withTopics oneTopic) =
        .ok { trialConfig with topics := oneTopic } := by
  have hload : load Files.none trialEnvironment = .ok trialConfig := by decide +kernel
  obtain ⟨-, hsorts, -, hshared⟩ := routing_of_load hload
  refine ⟨hload, hsorts.2 ⟨by decide, by decide, by decide⟩, hshared oneTopic fun role => ?_⟩
  cases role <;> decide +kernel

/-- With one topic for everything a configuration is loaded, but a chunk is taken for a command, and
so is the status of the daemon itself. -/
theorem ambiguous_of_one_topic :
    load Files.none (trialEnvironment.withTopics oneTopic) =
        .ok { trialConfig with topics := oneTopic } ∧
      oneTopic.classify oneTopic.video [1] ≠ some (.video [1]) ∧
      oneTopic.classify oneTopic.status [1] ≠ none := by
  decide +kernel

end Config

end StandbyStream
