import StandbyStream.Proofs.Topology.Assembly

/-!
# Sizes and rates in a built topology

Two stages are told of the size and the rate that a build asks for: the filter behind the fallback
source and the live source. The size reaches them as it is (`shaped_of_build`), the rate as a signed
number of 32 bits, which is another one from `2 ^ 31` on (`Caps.rate_eq`). The interval between two
frames is the whole number of nanoseconds below the exact one, and that is none where more than a
thousand million frames are asked for in a second (`frameInterval_pos_iff`).

A build refuses no rate but zero, so that up to `10 ^ 9` everything is as it was asked for, and
beyond it not (`rates_of_build`).
-/

namespace StandbyStream

namespace Caps

/-- A rate as a signed number of 32 bits. -/
def wrapped (fps : UInt32) : Int :=
  if fps.toNat < 2 ^ 31 then fps.toNat else fps.toNat - 2 ^ 32

theorem rate_eq (fps : UInt32) : rate fps = .fraction (wrapped fps) 1 := by
  have hlt := fps.toNat_lt
  rw [rate, wrapped, Int32.toInt, UInt32.toBitVec_toInt32, BitVec.toInt_eq_toNat_cond,
    UInt32.toNat_toBitVec]
  congr 1
  split <;> split <;> omega

/-- Wrapping keeps the rates below `2 ^ 31`, and no others. -/
theorem wrapped_eq_iff (fps : UInt32) : wrapped fps = fps.toNat ↔ fps.toNat < 2 ^ 31 := by
  rw [wrapped]
  split <;> omega

/-- A format for frames of the given size, so many of them in a second. -/
structure Fits (caps : Caps) (width height : UInt32) (rate : Int) : Prop where
  width : caps.get? "width" = some (.int width.toNat)
  height : caps.get? "height" = some (.int height.toNat)
  framerate : caps.get? "framerate" = some (.fraction rate 1)

theorem fits_rawVideo (width height fps : UInt32) :
    (rawVideo width height fps).Fits width height (wrapped fps) :=
  ⟨rfl, rfl, congrArg some (rate_eq fps)⟩

end Caps

namespace Topology

theorem fits_liveCaps (request : BuildRequest) :
    (liveCaps request).Fits request.width request.height (Caps.wrapped request.fps) :=
  ⟨rfl, rfl, congrArg some (Caps.rate_eq request.fps)⟩

variable {t : Topology} {request : BuildRequest}

/-- The format that a stage is told. -/
def formatOf (stage : Option Stage) : Option Caps :=
  match stage.bind (·.property? "caps") with
  | some (.caps caps) => some caps
  | _ => none

/-- The stages that are told of size and rate are told the size that is asked for, and a rate. -/
structure Shaped (t : Topology) (request : BuildRequest) (rate : Int) : Prop where
  fallback : ∃ caps, formatOf (t.stage? "fallback_caps") = some caps ∧
    caps.Fits request.width request.height rate
  live : request.mode = .live → ∃ caps, formatOf t.liveSource? = some caps ∧
    caps.Fits request.width request.height rate

/-- The interval is the longest whole number of nanoseconds at which that many frames fit into a
second. -/
def PacedAt (t : Topology) (rate : Nat) : Prop :=
  t.frameInterval * rate ≤ 1000000000 ∧ 1000000000 < (t.frameInterval + 1) * rate

/-- Size and rate are what is asked for, wherever they are told, and there is time between two
frames. -/
structure AsAsked (t : Topology) (request : BuildRequest) : Prop where
  shaped : t.Shaped request request.fps.toNat
  positive : 0 < request.fps.toNat
  apart : 0 < t.frameInterval
  paced : t.PacedAt request.fps.toNat

/-! ## What the stages are told -/

theorem formatOf_fallback (request : BuildRequest) (destination : Destination) :
    formatOf ((assemble request destination).stage? "fallback_caps") =
      some (Caps.rawVideo request.width request.height request.fps) := by
  obtain ⟨mode, encoding, width, height, fps, bitrate, address, tlsValidation⟩ := request
  cases mode with
  | fallbackOnly => rfl
  | live => rfl

theorem formatOf_live (hm : request.mode = .live) (destination : Destination) :
    formatOf (assemble request destination).liveSource? = some (liveCaps request) := by
  obtain ⟨mode, encoding, width, height, fps, bitrate, address, tlsValidation⟩ := request
  cases hm
  rfl

/-- The size is told as it was asked for, the rate as a signed number. -/
theorem shaped_of_build (h : build request = .ok t) :
    t.Shaped request (Caps.wrapped request.fps) := by
  obtain ⟨-, destination, -, rfl⟩ := build_eq_ok.1 h
  exact ⟨⟨_, formatOf_fallback request destination, Caps.fits_rawVideo _ _ _⟩,
    fun hm => ⟨_, formatOf_live hm destination, fits_liveCaps request⟩⟩

/-- The stages are told one rate. -/
theorem Shaped.rate_eq {rate rate' : Int} (h : t.Shaped request rate)
    (h' : t.Shaped request rate') : rate = rate' := by
  obtain ⟨caps, hcaps, hfits⟩ := h.fallback
  obtain ⟨caps', hcaps', hfits'⟩ := h'.fallback
  obtain rfl := Option.some.inj (hcaps.symm.trans hcaps')
  exact (CapsValue.fraction.inj (Option.some.inj (hfits.framerate.symm.trans hfits'.framerate))).1

/-! ## Time between frames -/

/-- The rate of a topology that is built is the one that was asked for, and not zero. -/
theorem fps_of_build (h : build request = .ok t) : t.fps = request.fps ∧ 0 < request.fps.toNat := by
  obtain ⟨⟨-, -, hfps⟩, destination, -, rfl⟩ := build_eq_ok.1 h
  refine ⟨rfl, Nat.pos_of_ne_zero fun hzero => hfps ?_⟩
  exact UInt32.toNat_inj.1 hzero

section

variable (hfps : 0 < t.fps.toNat)

include hfps

theorem frameInterval_eq : t.frameInterval = 1000000000 / t.fps.toNat := by
  rw [frameInterval, Nat.max_eq_left hfps]

theorem pacedAt_fps : t.PacedAt t.fps.toNat := by
  rw [PacedAt, frameInterval_eq hfps]
  constructor
  · exact Nat.div_mul_le_self _ _
  · rw [Nat.mul_comm]
    exact Nat.lt_mul_div_succ _ hfps

/-- Between more than a thousand million frames a second no whole nanosecond is left. -/
theorem frameInterval_pos_iff : 0 < t.frameInterval ↔ t.fps.toNat ≤ 1000000000 := by
  rw [frameInterval_eq hfps, Nat.div_pos_iff]
  exact and_iff_right hfps

end

/-! ## Builds -/

/-- The stages of a topology that is built are told the size that was asked for, and the rate as a
signed number, which is the one that was asked for below `2 ^ 31` and else negative. The interval
fits the rate, but there is none beyond `10 ^ 9` frames a second. So all is as it was asked for
exactly up to this rate. -/
theorem rates_of_build {request : BuildRequest} {t : Topology} (h : build request = .ok t) :
    t.Shaped request (Caps.wrapped request.fps) ∧
    (t.Shaped request request.fps.toNat ↔ request.fps.toNat < 2 ^ 31) ∧
    (¬ request.fps.toNat < 2 ^ 31 → Caps.wrapped request.fps < 0) ∧
    t.PacedAt request.fps.toNat ∧
    (0 < t.frameInterval ↔ request.fps.toNat ≤ 1000000000) ∧
    (t.AsAsked request ↔ request.fps.toNat ≤ 1000000000) := by
  obtain ⟨hfps, hpos⟩ := fps_of_build h
  have told := shaped_of_build h
  have paced : t.PacedAt request.fps.toNat := hfps ▸ pacedAt_fps (hfps ▸ hpos)
  have apart : 0 < t.frameInterval ↔ request.fps.toNat ≤ 1000000000 :=
    hfps ▸ frameInterval_pos_iff (hfps ▸ hpos)
  have shaped : t.Shaped request request.fps.toNat ↔ request.fps.toNat < 2 ^ 31 := by
    rw [← Caps.wrapped_eq_iff]
    constructor
    · exact fun hs => told.rate_eq hs
    · exact fun heq => heq ▸ told
  refine ⟨told, shaped, fun hlarge => ?_, paced, apart, fun ha => apart.1 ha.apart, fun hle => ?_⟩
  · have hlt := request.fps.toNat_lt
    rw [Caps.wrapped, if_neg hlarge]
    omega
  · exact ⟨shaped.2 (by omega), hpos, apart.2 hle, paced⟩

/-- A live stream at the given rate. -/
def requestAt (fps : UInt32) : BuildRequest :=
  ⟨.live, .h264, 640, 480, fps, 1000, "udp://h:1", false⟩

theorem build_requestAt {fps : UInt32} (hfps : fps ≠ 0) :
    build (requestAt fps) = .ok (assemble (requestAt fps) (.udp "h" 1)) := by
  have hd : Destination.parse "udp://h:1" = .ok (.udp "h" 1) := by decide +kernel
  have hw : (640 : UInt32) ≠ 0 := by decide
  have hh : (480 : UInt32) ≠ 0 := by decide
  exact build_eq_ok.2 ⟨⟨hw, hh, hfps⟩, _, hd, rfl⟩

/-- The highest rate at which there is time between two frames. -/
theorem rates_of_fastest :
    ∃ t, build (requestAt 1000000000) = .ok t ∧ t.AsAsked (requestAt 1000000000) ∧
      t.frameInterval = 1 := by
  have hfps : (1000000000 : UInt32) ≠ 0 := by decide
  have hb := build_requestAt hfps
  obtain ⟨-, -, -, -, -, hall⟩ := rates_of_build hb
  exact ⟨_, hb, hall.2 (by decide), by decide⟩

/-- Rates are accepted that are told to the stages as negative ones, or at which no time is left
between two frames. -/
theorem not_asAsked_of_build :
    (∃ t, build (requestAt 2147483648) = .ok t ∧
      (formatOf (t.stage? "fallback_caps")).bind (·.get? "framerate") =
        some (.fraction (-2147483648) 1) ∧
      (formatOf t.liveSource?).bind (·.get? "framerate") = some (.fraction (-2147483648) 1) ∧
      ¬ t.AsAsked (requestAt 2147483648)) ∧
    (∃ t, build (requestAt 1000000001) = .ok t ∧ t.frameInterval = 0 ∧
      ¬ t.AsAsked (requestAt 1000000001)) := by
  have hnone : (assemble (requestAt 2147483648) (.udp "h" 1)).frameInterval = 0 := by decide
  have hnone' : (assemble (requestAt 1000000001) (.udp "h" 1)).frameInterval = 0 := by decide
  refine ⟨⟨_, build_requestAt (by decide), ?_, ?_, ?_⟩, _, build_requestAt (by decide), hnone', ?_⟩
  · rw [formatOf_fallback]
    rfl
  · rw [formatOf_live rfl]
    rfl
  · exact fun ha => absurd hnone ha.apart.ne'
  · exact fun ha => absurd hnone' ha.apart.ne'

end Topology

end StandbyStream
