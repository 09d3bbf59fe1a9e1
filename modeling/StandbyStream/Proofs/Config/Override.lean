import Mathlib.Tactic.Common
import StandbyStream.Proofs.Config.Check

/-!
# Overrides of a file

A variable of the environment takes the place of a setting of the file. Once a file has been turned
into settings nothing is left of the value that is replaced (`override_reset`), so it does not
matter whether the file gives one (`outcome_without`). But a file is turned into settings first, and
two of them, the encoding and the engine, have to be names with a meaning by then: a name without
one is a fault although it would be replaced (`load_of_overridden`).
-/

namespace StandbyStream.Config

open Checks

/-! ## Settings -/

/-- A setting that a variable of the environment replaces. -/
inductive Setting where
  | address
  | encoding
  | width
  | height
  | fps
  | bitrate
  | engine
  | pullTimeout
  | queueCapacity
  | maxChunk
  | liveInput
  | tlsValidation
  | topic (role : Topics.Role)
  deriving DecidableEq, Repr

/-- The variable that replaces the setting. -/
def Setting.variable : Setting → String
  | .address => "STREAMER_STREAM_ADDRESS"
  | .encoding => "STREAMER_ENCODING"
  | .width => "STREAMER_WIDTH"
  | .height => "STREAMER_HEIGHT"
  | .fps => "STREAMER_FPS"
  | .bitrate => "STREAMER_BITRATE"
  | .engine => "STREAMER_BACKEND"
  | .pullTimeout => "STREAMER_PULL_TIMEOUT_MS"
  | .queueCapacity => "STREAMER_QUEUE_CAPACITY"
  | .maxChunk => "STREAMER_MAX_CHUNK_BYTES"
  | .liveInput => "STREAMER_LIVE_INPUT"
  | .tlsValidation => "STREAMER_RTSP_TLS_VALIDATION"
  | .topic .command => "STREAMER_COMMAND_TOPIC"
  | .topic .video => "STREAMER_VIDEO_TOPIC"
  | .topic .status => "STREAMER_STATUS_TOPIC"

/-- The file with nothing said about the setting. -/
def File.without (file : File) : Setting → File
  | .address => { file with stream.address := none }
  | .encoding => { file with stream.encoding := none }
  | .width => { file with stream.width := none }
  | .height => { file with stream.height := none }
  | .fps => { file with stream.fps := none }
  | .bitrate => { file with stream.bitrate := none }
  | .engine => { file with pipeline.engine := none }
  | .pullTimeout => { file with pipeline.pullTimeout := none }
  | .queueCapacity => { file with pipeline.queueCapacity := none }
  | .maxChunk => { file with pipeline.maxChunk := none }
  | .liveInput => { file with stream.liveInput := none }
  | .tlsValidation => { file with stream.tlsValidation := none }
  | .topic .command => { file with topics.command := none }
  | .topic .video => { file with topics.video := none }
  | .topic .status => { file with topics.status := none }

/-- What the file says about the setting, if anything, has a meaning. Only names can be without
one. -/
def File.Readable (file : File) : Setting → Prop
  | .encoding => ∀ name, file.stream.encoding = some name → ∃ e, Encoding.parse name = .ok e
  | .engine => ∀ name, file.pipeline.engine = some name → ∃ c, EngineChoice.parse name = .ok c
  | _ => True

/-- The configuration with the default for the setting. -/
def reset (config : Config) : Setting → Config
  | .address => { config with stream.address := standardAddress }
  | .encoding => { config with stream.encoding := Parameters.initial.encoding }
  | .width => { config with stream.width := Parameters.initial.width }
  | .height => { config with stream.height := Parameters.initial.height }
  | .fps => { config with stream.fps := Parameters.initial.fps }
  | .bitrate => { config with stream.bitrate := Parameters.initial.bitrate }
  | .engine => { config with engine := default }
  | .pullTimeout => { config with pullTimeout := standardPullTimeout }
  | .queueCapacity => { config with queueCapacity := FrameQueue.defaultCapacity }
  | .maxChunk => { config with maxChunk := Frame.standardLimit }
  | .liveInput => { config with liveInput := true }
  | .tlsValidation => { config with tlsValidation := false }
  | .topic .command => { config with topics.command := Topics.standard.command }
  | .topic .video => { config with topics.video := Topics.standard.video }
  | .topic .status => { config with topics.status := Topics.standard.status }

variable {files files₁ files₂ : Files} {env : Environment} {file file₁ file₂ : File}
  {setting : Setting}

theorem File.readable_of_ne (hencoding : setting ≠ .encoding) (hengine : setting ≠ .engine) :
    file.Readable setting := by
  cases setting with
  | encoding => exact absurd rfl hencoding
  | engine => exact absurd rfl hengine
  | _ => exact trivial

/-! ## Reading a file -/

theorem orKeep_none {α β : Type} (old : α) (read : β → Except Fault α) :
    orKeep old read none = .ok old :=
  rfl

/-- A value that can be read is read, and none leaves what was there. -/
theorem orKeep_eq_ok {α β : Type} {old : α} {read : β → Except Fault α} {value : Option β} :
    (∃ a, orKeep old read value = .ok a) ↔ ∀ b, value = some b → ∃ a, read b = .ok a := by
  cases value with
  | none => exact iff_of_true ⟨old, rfl⟩ nofun
  | some b =>
      constructor
      · rintro h _ ⟨⟩
        exact h
      · intro h
        exact h b rfl

theorem readable_encoding_iff : file.Readable .encoding ↔
    ∃ e, orKeep Parameters.initial.encoding readEncoding file.stream.encoding = .ok e := by
  simp only [File.Readable, orKeep_eq_ok, readEncoding, mapError_eq_ok]

theorem readable_engine_iff : file.Readable .engine ↔
    ∃ c, orKeep default readEngine file.pipeline.engine = .ok c := by
  simp only [File.Readable, orKeep_eq_ok, readEngine, mapError_eq_ok]

/-- A file gives settings exactly if its two names have a meaning. -/
theorem ofFile_eq_ok :
    (∃ config, ofFile file = .ok config) ↔ file.Readable .encoding ∧ file.Readable .engine := by
  rw [readable_encoding_iff, readable_engine_iff]
  simp only [ofFile, bind_eq_ok]
  constructor
  · rintro ⟨_, e, he, c, hc, -⟩
    exact ⟨⟨e, he⟩, c, hc⟩
  · rintro ⟨⟨e, he⟩, c, hc⟩
    exact ⟨_, e, he, c, hc, rfl⟩

/-- A setting with a meaning that is left out is left to its default; everything else stays. -/
theorem ofFile_without (h : file.Readable setting) :
    ofFile (file.without setting) = (ofFile file).map (·.reset setting) := by
  cases setting with
  | encoding =>
    obtain ⟨e, he⟩ := readable_encoding_iff.1 h
    simp only [ofFile, File.without, he, orKeep_none]
    cases orKeep default readEngine file.pipeline.engine <;> rfl
  | engine =>
    obtain ⟨c, hc⟩ := readable_engine_iff.1 h
    simp only [ofFile, File.without, hc, orKeep_none]
    cases orKeep Parameters.initial.encoding readEncoding file.stream.encoding <;> rfl
  | topic role =>
    cases role <;> simp only [ofFile, File.without] <;>
      cases orKeep Parameters.initial.encoding readEncoding file.stream.encoding <;>
      cases orKeep default readEngine file.pipeline.engine <;> rfl
  | _ =>
    simp only [ofFile, File.without]
    cases orKeep Parameters.initial.encoding readEncoding file.stream.encoding <;>
      cases orKeep default readEngine file.pipeline.engine <;> rfl

/-! ## Replacing settings -/

/-- Where a variable replaces a setting it does not matter what the setting was. -/
theorem override_reset (config : Config) (h : env.filled? setting.variable ≠ none) :
    (config.reset setting).override env = config.override env := by
  obtain ⟨value, hvalue⟩ := Option.ne_none_iff_exists'.1 h
  cases setting with
  | topic role =>
    cases role <;> rw [Setting.variable] at hvalue <;>
      simp only [reset, override, text, hvalue, Option.getD_some]
  | _ =>
    rw [Setting.variable] at hvalue
    simp only [reset, override, word, natural, bool, text, hvalue, orKeep, Option.getD_some]

/-- What a file comes to in an environment. -/
def outcome (file : File) (env : Environment) : Except Fault Config := do
  let config ← ofFile file
  let config ← config.override env
  config.check
  return config

theorem load_of_source (h : source files env = .ok file) : load files env = outcome file env := by
  have hload : load files env = source files env >>= fun file => outcome file env := by
    rw [load, source]
    cases env.text? fileVariable <;> rfl
  rw [hload, h]
  rfl

theorem outcome_without (hread : file.Readable setting)
    (hfilled : env.filled? setting.variable ≠ none) :
    outcome (file.without setting) env = outcome file env := by
  rw [outcome, outcome, ofFile_without hread]
  cases ofFile file with
  | error fault => rfl
  | ok config =>
    change ((config.reset setting).override env >>= _) = (config.override env >>= _)
    rw [override_reset config hfilled]

/-- What the file says about a setting has to have a meaning, be it replaced or not. -/
theorem outcome_of_unreadable (h : ¬ file.Readable setting) :
    ∃ fault, ofFile file = .error fault ∧ ∀ env, outcome file env = .error fault := by
  cases hfile : ofFile file with
  | error fault =>
    refine ⟨fault, rfl, fun env => ?_⟩
    rw [outcome, hfile]
    rfl
  | ok config =>
    obtain ⟨hencoding, hengine⟩ := ofFile_eq_ok.1 ⟨config, hfile⟩
    -- all other settings are readable whatever the file says
    have hne : setting ≠ .encoding ∧ setting ≠ .engine :=
      ⟨fun heq => h (heq ▸ hencoding), fun heq => h (heq ▸ hengine)⟩
    exact absurd (File.readable_of_ne hne.1 hne.2) h

/-- Two files that differ only in a setting that a variable replaces lead to the same result if
what they say about it has a meaning, as is always so but for the encoding and the engine. Without
a meaning a file is refused before the variables are looked at. So what is loaded is the same
exactly if both have a meaning or neither, or if nothing is loaded with the setting left out
either. -/
theorem load_of_overridden (h₁ : source files₁ env = .ok file₁) (h₂ : source files₂ env = .ok file₂)
    (hsame : file₁.without setting = file₂.without setting)
    (hfilled : env.filled? setting.variable ≠ none) :
    (file₁.Readable setting → file₂.Readable setting → load files₁ env = load files₂ env) ∧
    (setting ≠ .encoding → setting ≠ .engine → load files₁ env = load files₂ env) ∧
    (¬ file₁.Readable setting → ∃ fault, ofFile file₁ = .error fault ∧
      load files₁ env = .error fault) ∧
    ((load files₁ env).toOption = (load files₂ env).toOption ↔
      (file₁.Readable setting ↔ file₂.Readable setting) ∨
        (outcome (file₁.without setting) env).toOption = none) := by
  rw [load_of_source h₁, load_of_source h₂]
  have hboth (hr₁ : file₁.Readable setting) (hr₂ : file₂.Readable setting) :
      outcome file₁ env = outcome file₂ env := by
    rw [← outcome_without hr₁ hfilled, ← outcome_without hr₂ hfilled, hsame]
  have hnone {file : File} (hr : ¬ file.Readable setting) :
      (outcome file env).toOption = none := by
    obtain ⟨fault, -, hfault⟩ := outcome_of_unreadable hr
    rw [hfault env]
    rfl
  refine ⟨hboth, fun hencoding hengine => ?_, fun hr => ?_, ?_⟩
  · exact hboth (File.readable_of_ne hencoding hengine) (File.readable_of_ne hencoding hengine)
  · obtain ⟨fault, hfile, hfault⟩ := outcome_of_unreadable hr
    exact ⟨fault, hfile, hfault env⟩
  · by_cases hr₁ : file₁.Readable setting <;> by_cases hr₂ : file₂.Readable setting
    · exact iff_of_true (congrArg _ (hboth hr₁ hr₂)) (.inl (iff_of_true hr₁ hr₂))
    · rw [outcome_without hr₁ hfilled, hnone hr₂]
      simp only [hr₁, hr₂, iff_false, not_true_eq_false, false_or]
    · rw [hsame, outcome_without hr₂ hfilled, hnone hr₁, eq_comm]
      simp only [hr₁, hr₂, iff_true, false_or]
    · exact iff_of_true ((hnone hr₁).trans (hnone hr₂).symm) (.inl (iff_of_false hr₁ hr₂))

/-- A file system with one configuration file. -/
def oneFile (contents : String) : Files := fun path =>
  if path = "streamer.toml" then .ok (Text.encodeUtf8 contents) else .error .missing

/-- An environment that names the file, and replaces one setting. -/
def replacing (setting : Setting) (value : String) : Environment :=
  ⟨[(fileVariable, Text.encodeUtf8 "streamer.toml"), (setting.variable, Text.encodeUtf8 value)]⟩

/-- A file that gives a width alone. -/
def ofWidth (width : UInt32) : File :=
  { File.empty with stream.width := some width }

/-- A width that is too large makes no difference where the environment gives another. -/
theorem load_of_overridden_width :
    (load (oneFile "[stream]\nwidth = 640") (replacing .width "320")).isOk = true ∧
      load (oneFile "[stream]\nwidth = 640") (replacing .width "320") =
        load (oneFile "[stream]\nwidth = 99999") (replacing .width "320") := by
  have h₁ : source (oneFile "[stream]\nwidth = 640") (replacing .width "320") =
      .ok (ofWidth 640) := by decide +kernel
  have h₂ : source (oneFile "[stream]\nwidth = 99999") (replacing .width "320") =
      .ok (ofWidth 99999) := by decide +kernel
  have hsame : (ofWidth 640).without .width = (ofWidth 99999).without .width := rfl
  have hfilled : (replacing .width "320").filled? Setting.width.variable ≠ none := by
    decide +kernel
  obtain ⟨-, hload, -⟩ := load_of_overridden h₁ h₂ hsame hfilled
  exact ⟨by decide +kernel, hload (by decide) (by decide)⟩

/-- A file that gives an encoding alone. -/
def ofEncoding (name : String) : File :=
  { File.empty with stream.encoding := some name }

/-- An encoding that nobody knows is a fault of the file although the environment gives another. -/
theorem refused_although_overridden :
    source (oneFile "[stream]\nencoding = \"H264\"") (replacing .encoding "H265") =
        .ok (ofEncoding "H264") ∧
      source (oneFile "[stream]\nencoding = \"VP9\"") (replacing .encoding "H265") =
        .ok (ofEncoding "VP9") ∧
      (ofEncoding "H264").without .encoding = (ofEncoding "VP9").without .encoding ∧
      (replacing .encoding "H265").filled? Setting.encoding.variable = some "H265" ∧
      (load (oneFile "[stream]\nencoding = \"H264\"") (replacing .encoding "H265")).isOk = true ∧
      load (oneFile "[stream]\nencoding = \"VP9\"") (replacing .encoding "H265") =
        .error (.encoding ⟨"vp9"⟩) := by
  decide +kernel

end StandbyStream.Config
