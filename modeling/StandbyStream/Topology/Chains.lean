import StandbyStream.Topology

/-!
# Chains of a topology

A graph written as its chains: one from every source and one from the switch,
each followed link by link to the switch or to its end.
-/

namespace StandbyStream.Topology

/-- The stage that the last link from the stage of the name leads to. -/
def successor? (t : Topology) (name : String) : Option Stage := do
  let link ← t.links.reverse.find? (·.source == name)
  t.stage? link.target

/-- The stages behind the stage of the name, along at most `steps` links, up to a switch. -/
def chainAfter (t : Topology) : Nat → String → List Stage
  | 0, _ => []
  | steps + 1, name =>
    match t.successor? name with
    | none => []
    | some stage =>
      if stage.kind = .switch then [stage] else stage :: chainAfter t steps stage.name

/-- Where chains begin: the sources in order, then the switch. -/
def chainStarts (t : Topology) : List Stage :=
  t.stages.filter (·.kind == .source) ++ t.switch?.toList

/-- The chains. No link is followed twice, so the number of links bounds the steps. -/
def chains (t : Topology) : List (List Stage) :=
  t.chainStarts.map fun start => start :: chainAfter t t.links.length start.name

/-- The chains on one line. -/
def describe (t : Topology) : String :=
  "; ".intercalate (t.chains.map fun chain => " ! ".intercalate (chain.map Stage.label))

end StandbyStream.Topology
