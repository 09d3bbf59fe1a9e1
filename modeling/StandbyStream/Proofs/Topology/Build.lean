import StandbyStream.Topology.Build

/-!
# What a build makes

A topology that a request leads to is the assembled graph of the request, of the mode that was
asked for, and it has a live source in live mode alone.
-/

namespace StandbyStream

namespace Topology

/-- A topology that is built is the assembled graph. -/
theorem eq_assemble_of_build {request : BuildRequest} {t : Topology}
    (h : build request = .ok t) :
    ∃ destination, Destination.parse request.address = .ok destination ∧
      t = assemble request destination := by
  rw [build.eq_def] at h
  split at h
  · cases h
  split at h
  · cases h
  split at h
  · cases h
  next destination hd =>
    simp only at h
    split at h
    · cases h
    · cases h
      exact ⟨destination, hd, rfl⟩

theorem mode_of_build {request : BuildRequest} {t : Topology} (h : build request = .ok t) :
    t.mode = request.mode := by
  obtain ⟨destination, -, rfl⟩ := eq_assemble_of_build h
  rfl

theorem liveSource_assemble (request : BuildRequest) (destination : Destination) :
    (assemble request destination).liveSource?.isSome = (request.mode == .live) := by
  obtain ⟨mode, encoding, width, height, fps, bitrate, address, tlsValidation⟩ := request
  cases mode with
  | fallbackOnly => cases destination <;> rfl
  | live => cases destination <;> rfl

/-- A topology that is built has a live source in live mode alone. -/
theorem liveSource_of_build {request : BuildRequest} {t : Topology} (h : build request = .ok t) :
    t.liveSource?.isSome = (t.mode == .live) := by
  rw [mode_of_build h]
  obtain ⟨destination, -, rfl⟩ := eq_assemble_of_build h
  exact liveSource_assemble request destination

end Topology

end StandbyStream
