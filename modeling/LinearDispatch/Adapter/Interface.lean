import LinearDispatch.Workspace

/-!
# Adapters

An adapter stands between a problem and one native solver. It is driven in a fixed order: it is
started with parameters, handed the parts of a model, told to solve, asked for the values and the
objective if there is a usable solution, and closed at the end. What it remembers between the
calls is its own; the workspace is shared.
-/

namespace LinearDispatch

/-- A kind of adapter: what it remembers is an `A`. -/
class Adapter (A : Type) where
  name : A → Value
  /-- it can solve models with columns that take whole values; asking for it may fail too -/
  supportsInteger : A → Except Failure Bool
  version : Action (A × Workspace) Value
  start (parameters : Given Parameters) : Action (A × Workspace) Unit
  give (part : Part) : Action (A × Workspace) Unit
  /-- solves the model; what is no status is an answer that nobody can use -/
  solve : Action (A × Workspace) (Given Status)
  values : Action (A × Workspace) Value
  objectiveValue : Action (A × Workspace) Value
  close : Action (A × Workspace) Unit

namespace Adapter

/-- Something read off what the adapter remembers. -/
def look {A α : Type} (f : A → α) : Action (A × Workspace) α :=
  Action.gets fun s => f s.1

/-- A change of what the adapter remembers. -/
def remember {A : Type} (f : A → A) : Action (A × Workspace) Unit :=
  Action.modify fun s => (f s.1, s.2)

/-- Runs an action on a part of what is remembered. -/
def inside {A B α : Type} (wrap : A → B) (a : A) (x : Action (A × Workspace) α) :
    Action (B × Workspace) α :=
  fun s => let (r, t) := x (a, s.2); (r, (wrap t.1, t.2))

end Adapter

/-- Asks something that is no adapter for one of the parts of an adapter. -/
def Foreign.lack {α : Type} (part : String) : Action (Foreign × Workspace) α := do
  let f ← Adapter.look id
  Action.fail (.missingPart f.typeName part)

/-- A factory may make something that is no adapter: it lacks every part that is asked for. -/
instance : Adapter Foreign where
  name f := .text f.typeName
  supportsInteger f := .error (.missingPart f.typeName "supports_integer")
  version := Foreign.lack "version"
  start _ := Foreign.lack "open"
  give part := Foreign.lack (AdapterCall.give part).title
  solve := Foreign.lack AdapterCall.solve.title
  values := Foreign.lack AdapterCall.values.title
  objectiveValue := Foreign.lack AdapterCall.objectiveValue.title
  close := Foreign.lack AdapterCall.close.title

end LinearDispatch
