import StandbyStream.Engine.Simulator
import StandbyStream.Proofs.Topology.Build
import StandbyStream.Proofs.Topology.Soundness

/-!
# Assembled graphs are sound

Whether a graph is sound does not depend on what its stages are configured with. So of the assembled
graphs only those that differ in mode, encoding and kind of destination need to be looked at. All of
them pass the check (`check_assemble`): a build fails for what it was asked for, and never because
of the graph (`build_eq_ok`).
-/

namespace StandbyStream.Topology

variable {t : Topology}

/-- A request that says nothing but what the graph is like. -/
def bareRequest (mode : Mode) (encoding : Encoding) : BuildRequest :=
  ⟨mode, encoding, 0, 0, 0, 0, "", false⟩

/-- A destination of which nothing but the kind is said. -/
def bareDestination : Bool → Destination
  | true => .udp "" 0
  | false => .server ""

/-- An assembled graph is that of a bare request, with other properties. -/
theorem outlines_assemble (request : BuildRequest) (destination : Destination) :
    let bare := assemble (bareRequest request.mode request.encoding)
      (bareDestination destination.isUdp)
    (assemble request destination).outlines = bare.outlines ∧
      (assemble request destination).links = bare.links := by
  obtain ⟨mode, encoding, width, height, fps, bitrate, address, tlsValidation⟩ := request
  cases mode with
  | fallbackOnly => cases destination <;> exact ⟨rfl, rfl⟩
  | live => cases destination <;> exact ⟨rfl, rfl⟩

theorem check_bare (mode : Mode) (encoding : Encoding) (udp : Bool) :
    (assemble (bareRequest mode encoding) (bareDestination udp)).check = .ok () := by
  cases mode <;> cases encoding <;> cases udp <;> decide +kernel

/-- Every assembled graph passes the check. -/
theorem check_assemble (request : BuildRequest) (destination : Destination) :
    (assemble request destination).check = .ok () := by
  obtain ⟨hstages, hlinks⟩ := outlines_assemble request destination
  have hbare := check_eq_ok.1 (check_bare request.mode request.encoding destination.isUdp)
  exact check_eq_ok.2 (hbare.of_perm (.of_eq hstages) rfl (.of_eq hlinks))

theorem factory_mem_bare (mode : Mode) (encoding : Encoding) (udp : Bool) :
    ∀ stage ∈ (assemble (bareRequest mode encoding) (bareDestination udp)).outlines,
      stage.factory ∈ Simulator.knownFactories := by
  cases mode <;> cases encoding <;> cases udp <;> decide +kernel

/-- The stages of an assembled graph are made by factories that the simulator knows. -/
theorem factory_mem_assemble (request : BuildRequest) (destination : Destination) {stage : Stage}
    (hm : stage ∈ (assemble request destination).stages) :
    stage.factory ∈ Simulator.knownFactories := by
  have hm : stage.outline ∈ (assemble request destination).outlines := List.mem_map_of_mem hm
  rw [(outlines_assemble request destination).1] at hm
  exact factory_mem_bare request.mode request.encoding destination.isUdp stage.outline hm

/-- A build succeeds exactly if the sizes and the rate that were asked for are not zero and the
address is a destination. It makes the assembled graph. -/
theorem build_eq_ok {request : BuildRequest} : build request = .ok t ↔
    (request.width ≠ 0 ∧ request.height ≠ 0 ∧ request.fps ≠ 0) ∧
      ∃ destination, Destination.parse request.address = .ok destination ∧
        t = assemble request destination := by
  constructor
  · intro h
    refine ⟨?_, eq_assemble_of_build h⟩
    rw [build.eq_def] at h
    split at h
    · cases h
    next hsize =>
      split at h
      · cases h
      next hfps => exact ⟨fun hw => hsize (.inl hw), fun hh => hsize (.inr hh), hfps⟩
  · rintro ⟨⟨hw, hh, hfps⟩, destination, hd, rfl⟩
    rw [build.eq_def, if_neg (not_or.2 ⟨hw, hh⟩), if_neg hfps, hd]
    simp only [check_assemble]

end StandbyStream.Topology
