import StandbyStream.Flow
import StandbyStream.Report
import StandbyStream.Topology

/-!
# Media engines

What a stream needs from the engine that plays its pipeline. An engine `ρ`
makes pipelines `π` from topologies; every further operation acts on one
pipeline together with the engine it belongs to.
-/

namespace StandbyStream

/-- A pipeline and the engine that plays it. -/
structure Rig (ρ π : Type) where
  pipeline : π
  engine : ρ

/-- The operations of a media engine. -/
class MediaEngine (ρ : Type) (π : outParam Type) where
  /-- The name of the engine. -/
  name : ρ → String
  /-- Stages can be made by the factory of this name. -/
  hasFactory : ρ → String → Bool
  /-- Makes every stage and link of a topology, or nothing at all. -/
  instantiate : Topology → ρ → Except Plain π × ρ
  /-- Lets the whole graph play. -/
  play : Rig ρ π → Except Plain Unit × Rig ρ π
  /-- Forces the graph to stand still. -/
  halt : Rig ρ π → Except Plain Unit × Rig ρ π
  /-- Hands a buffer to the live source. -/
  push : Buffer → Rig ρ π → Except FlowError Unit × Rig ρ π
  /-- Tells the live source that no buffer follows; may raise events. -/
  endOfStream : Rig ρ π → Except FlowError Unit × List Event × Rig ρ π
  /-- Puts an input on air. -/
  select : Input → Rig ρ π → Except Plain Unit × Rig ρ π
  /-- No more demand is raised from now on. -/
  disconnectDemand : Rig ρ π → Rig ρ π
  /-- The demand for a buffer that the pipeline raises by itself, if it does so now. -/
  raiseDemand? : Rig ρ π → Option (Rig ρ π)

/-- A stage that an engine cannot make. -/
structure MissingFactory where
  engine : String
  factory : String
  stage : String
  deriving DecidableEq, Repr

instance : Explains MissingFactory where
  chain fault :=
    ["backend '" ++ fault.engine ++ "' has no factory '" ++ fault.factory ++
      "' for stage '" ++ fault.stage ++ "'"]

/-- The first stage that the engine cannot make. -/
def firstMissing? (hasFactory : String → Bool) (stages : List Stage) : Option Stage :=
  stages.find? fun stage => !hasFactory stage.factory

/-- Checks that an engine can make every stage, before any is made. -/
def checkFactories {ρ π : Type} [MediaEngine ρ π] (engine : ρ) (t : Topology) :
    Except MissingFactory Unit :=
  match firstMissing? (MediaEngine.hasFactory engine) t.stages with
  | some stage => .error ⟨MediaEngine.name engine, stage.factory, stage.name⟩
  | none => .ok ()

end StandbyStream
