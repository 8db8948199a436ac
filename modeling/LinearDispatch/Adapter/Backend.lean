import LinearDispatch.Adapter.Scripted
import LinearDispatch.Adapter.OrTools
import LinearDispatch.Adapter.Highs
import LinearDispatch.Adapter.Gurobi

/-!
# Backends

A backend is an adapter of one of the known kinds. Factories make backends, and driving a backend
is driving the adapter that it is.
-/

namespace LinearDispatch

inductive Backend where
  | scripted (a : ScriptedAdapter)
  | orTools (a : OrToolsAdapter)
  | highs (a : HighsAdapter)
  | gurobi (a : GurobiAdapter)

namespace Backend

/-- Drives the adapter, whatever its kind. -/
def drive {α : Type} (x : {A : Type} → [Adapter A] → Action (A × Workspace) α) :
    Action (Backend × Workspace) α :=
  fun s =>
    match s.1 with
    | scripted a => Adapter.inside scripted a x s
    | orTools a => Adapter.inside orTools a x s
    | highs a => Adapter.inside highs a x s
    | gurobi a => Adapter.inside gurobi a x s

instance : Adapter Backend where
  name
    | scripted a => Adapter.name a
    | orTools a => Adapter.name a
    | highs a => Adapter.name a
    | gurobi a => Adapter.name a
  supportsInteger
    | scripted a => Adapter.supportsInteger a
    | orTools a => Adapter.supportsInteger a
    | highs a => Adapter.supportsInteger a
    | gurobi a => Adapter.supportsInteger a
  version := drive Adapter.version
  start p := drive (Adapter.start p)
  give part := drive (Adapter.give part)
  solve := drive Adapter.solve
  values := drive Adapter.values
  objectiveValue := drive Adapter.objectiveValue
  close := drive Adapter.close

def text (b : Backend) : Except Failure String :=
  let kind := match b with
    | scripted _ => "Scripted"
    | orTools _ => "OrToolsBackend"
    | highs _ => "ScipyBackend"
    | gurobi _ => "GurobiBackend"
  (Adapter.name b).whenWritable ("<" ++ kind ++ " " ++ (Adapter.name b).shown ++ ">")

end Backend

def Factory.make : Factory → Action Workspace Backend
  | .scripted script => do
    let a ← ScriptedAdapter.make script
    pure (.scripted a)
  | .orTools solverId => pure (.orTools (.make solverId))
  | .highs => pure (.highs .new)
  | .gurobi environment => pure (.gurobi (.make environment))

end LinearDispatch
