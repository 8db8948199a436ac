import LinearDispatch.Adapter.Interface

/-!
# Scripted adapters

Adapters whose behaviour a caller lays down: which calls fail and what the others answer. Every
call is in the journal, also one that then fails.
-/

namespace LinearDispatch

open Workspace

structure ScriptedAdapter where
  script : Script
  calls : Nat
  columns : Nat

namespace ScriptedAdapter

/-- Makes an adapter that follows the script; making it is its first call. -/
def make (script : Script) : Action Workspace ScriptedAdapter := do
  record (.adapter script.name .create)
  Action.check (script.fault 0 .create)
  pure ⟨script, 1, 0⟩

/-- Records a call and fails if the script says so. -/
def note (c : AdapterCall) : Action (ScriptedAdapter × Workspace) Unit := do
  let a ← Adapter.look id
  record (.adapter a.script.name c)
  Adapter.remember fun a => { a with calls := a.calls + 1 }
  Action.check (a.script.fault a.calls c)

def count : Part → Action (ScriptedAdapter × Workspace) Unit
  | .column .. => Adapter.remember fun a => { a with columns := a.columns + 1 }
  | .row .. | .objective _ => pure ()

instance : Adapter ScriptedAdapter where
  name a := a.script.name
  supportsInteger a := .ok a.script.supportsInteger
  version := Adapter.look fun a => a.script.version.getD a.script.name
  start parameters := do
    let parameters ← Action.ofExcept (parameters.require "time_limit")
    note (.start parameters)
  give part := do
    let _ ← Action.ofExcept part.coefficients.entries
    note (.give part)
    count part
  solve := do
    note .solve
    Adapter.look fun a => .proper a.script.status
  values := do
    note .values
    Adapter.look fun a =>
      a.script.values.getD (.list (List.replicate a.columns (Value.ofFloat 0.0)))
  objectiveValue := do
    note .objectiveValue
    Adapter.look (·.script.objective)
  close := note .close

end ScriptedAdapter

end LinearDispatch
