import StandbyStream.Config
import StandbyStream.Proofs.Checks

/-!
# Configurations that pass

What is known of a configuration that has been loaded: each of its settings passes its check
(`valid_of_load`), and the settings that pass are those of `Valid`.
-/

namespace StandbyStream

open Checks

/-- Parameters within their bounds. -/
structure Parameters.InBounds (p : Parameters) : Prop where
  width : p.width ≠ 0 ∧ p.width ≤ maxSide ∧ p.width % 2 = 0
  height : p.height ≠ 0 ∧ p.height ≤ maxSide ∧ p.height % 2 = 0
  fps : p.fps ≠ 0 ∧ p.fps ≤ maxFps
  bitrate : p.bitrate ≠ 0 ∧ p.bitrate ≤ maxBitrate
  address : Text.isAllBlank p.address = false

namespace Parameters

theorem checkSide_eq_ok {side : Side} {length : UInt32} :
    checkSide side length = .ok () ↔ length ≠ 0 ∧ length ≤ maxSide ∧ length % 2 = 0 := by
  rw [checkSide]
  split
  · next h => exact iff_of_false nofun fun hb => h.elim hb.1 (UInt32.not_lt.2 hb.2.1)
  next h =>
    rw [not_or, UInt32.not_lt] at h
    split
    · next hodd => exact iff_of_false nofun fun hb => hodd hb.2.2
    · next heven => exact iff_of_true rfl ⟨h.1, h.2, Decidable.not_not.1 heven⟩

theorem check_eq_ok {p : Parameters} : p.check = .ok () ↔ p.InBounds := by
  rw [check]
  simp only [seq_eq_ok, unless_eq_ok, throw_eq_ok, checkSide_eq_ok, not_or, UInt32.not_lt,
    Bool.not_eq_true]
  constructor
  · rintro ⟨hwidth, hheight, hfps, hbitrate, haddress⟩
    exact ⟨hwidth, hheight, hfps, hbitrate, haddress⟩
  · rintro ⟨hwidth, hheight, hfps, hbitrate, haddress⟩
    exact ⟨hwidth, hheight, hfps, hbitrate, haddress⟩

end Parameters

namespace Config

/-- A configuration all of whose settings will do. -/
structure Valid (config : Config) : Prop where
  stream : config.stream.InBounds
  destination : ∃ destination, Destination.parse config.stream.address = .ok destination
  engine : config.engine = .simulated
  pullTimeout : config.pullTimeout ≠ 0
  queueCapacity : config.queueCapacity ≠ 0
  statusInterval : config.statusInterval ≠ 0
  maxChunk : Frame.headerLength < config.maxChunk.toNat
  topics : ∀ role, Text.isAllBlank (config.topics.get role) = false ∧
    Topics.hasWildcard (config.topics.get role) = false

theorem checkSupport_eq_ok {choice : EngineChoice} :
    choice.checkSupport = .ok () ↔ choice = .simulated := by
  cases choice <;> simp [EngineChoice.checkSupport]

theorem checkTopic_eq_ok {topics : Topics} {role : Topics.Role} :
    checkTopic topics role = .ok () ↔
      Text.isAllBlank (topics.get role) = false ∧ Topics.hasWildcard (topics.get role) = false := by
  rw [checkTopic]
  split
  · next h => exact iff_of_false nofun fun hb => by simp [hb.1, hb.2] at h
  · next h => simpa [not_or] using h

theorem check_eq_ok {config : Config} : config.check = .ok () ↔ config.Valid := by
  rw [check, seq_eq_ok, bind_eq_ok]
  simp only [seq_eq_ok, unless_eq_ok, mapError_eq_ok, Parameters.check_eq_ok, checkSupport_eq_ok,
    checkTopic_eq_ok, Nat.not_le]
  constructor
  · rintro ⟨hstream, destination, hd, hengine, hpull, hqueue, hstatus, hchunk, hc, hv, hs⟩
    refine ⟨hstream, ⟨destination, hd⟩, hengine, hpull, hqueue, hstatus, hchunk, fun role => ?_⟩
    cases role with
    | command => exact hc
    | video => exact hv
    | status => exact hs
  · rintro ⟨hstream, ⟨destination, hd⟩, hengine, hpull, hqueue, hstatus, hchunk, htopics⟩
    exact ⟨hstream, destination, hd, hengine, hpull, hqueue, hstatus, hchunk, htopics .command,
      htopics .video, htopics .status⟩

/-- The file that the environment names, or one that says nothing. -/
def source (files : Files) (env : Environment) : Except Fault File :=
  match env.text? fileVariable with
  | some path => readFile files path
  | none => .ok .empty

/-- What is loaded are the settings of the file with those of the environment in their place, if
they will do. -/
theorem load_eq_ok {files : Files} {env : Environment} {config : Config} :
    load files env = .ok config ↔
      ∃ file, source files env = .ok file ∧ ∃ base, ofFile file = .ok base ∧
        base.override env = .ok config ∧ config.Valid := by
  have hload : load files env = source files env >>= fun file => ofFile file >>= fun base =>
      base.override env >>= fun config => config.check >>= fun _ => .ok config := by
    rw [load, source]
    cases env.text? fileVariable <;> rfl
  have hlast (other : Config) : (other.check >>= fun _ => .ok other) = .ok config ↔
      other.Valid ∧ other = config := by
    rw [seq_eq_ok, check_eq_ok, Except.ok.injEq]
  rw [hload]
  simp only [bind_eq_ok, hlast, exists_eq_right_right]

/-- A configuration that has been loaded has passed the check. -/
theorem valid_of_load {files : Files} {env : Environment} {config : Config}
    (h : load files env = .ok config) : config.Valid := by
  obtain ⟨-, -, -, -, -, hvalid⟩ := load_eq_ok.1 h
  exact hvalid

end Config

end StandbyStream
