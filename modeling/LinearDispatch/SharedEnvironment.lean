import LinearDispatch.Native.Answer

/-!
# Shared environments

A native environment is expensive and licensed, so it is shared: the first to acquire a handle
has the environment made, everyone after that gets the same one, and it is disposed of when the
last holder releases it. Closing a handle disposes of the environment whoever still holds it.
The handle lets go of the environment before disposing of it, so a disposal that fails leaves the
handle closed.
-/

namespace LinearDispatch.SharedEnvironment

open Workspace

def isOpen (h : SharedEnvironment) : Bool :=
  h.environment.isSome

def text (h : SharedEnvironment) : Except Failure String :=
  h.name.whenWritable ("<EnvironmentHandle " ++ h.name.shown ++ " "
    ++ (if h.isOpen then "open" else "closed") ++ " refs=" ++ toString h.holders ++ ">")

/-- Something read off a handle. -/
def look {α : Type} (r : Ref SharedEnvironment) (f : SharedEnvironment → α) : Action Workspace α :=
  Action.gets fun w => f (w.environments.get r)

def change (r : Ref SharedEnvironment) (f : SharedEnvironment → SharedEnvironment) :
    Action Workspace Unit :=
  Action.modify fun w => { w with environments := w.environments.set r (f (w.environments.get r)) }

/-- Starts a Gurobi environment that prints nothing. What Gurobi itself reports means that it
cannot be reached; any other failure stays what it is. -/
def startGurobi : Action Workspace Environment := do
  let _ ← GurobiService.locate
  let started ← Action.attempt do
    let env ← GurobiService.createEnvironment
    call (.gurobi (.setEnvironmentParameter "OutputFlag" 0))
    call (.gurobi .startEnvironment)
    pure env
  match started with
  | .ok env => pure env
  | .error e =>
    if e.failureClass = .gurobi then Action.fail (.environmentNotStarted e.message)
    else Action.fail e

def make (r : Ref SharedEnvironment) : Action Workspace (Option Environment) := do
  let h ← look r id
  match h.source with
  | .gurobi => do
    let env ← startGurobi
    pure (some env)
  | .script make _ => do
    record (.environmentCreated h.name)
    change r fun h => { h with made := h.made + 1 }
    Action.ofExcept (make h.made)

def dispose (r : Ref SharedEnvironment) (env : Environment) : Action Workspace Unit := do
  let h ← look r id
  match h.source with
  | .gurobi => call (.gurobi (.disposeEnvironment env))
  | .script _ dispose => do
    record (.environmentDisposed h.name env)
    change r fun h => { h with disposed := h.disposed + 1 }
    Action.check (dispose h.disposed)

/-- Lets go of the environment, if there is one, and disposes of it. -/
def teardown (r : Ref SharedEnvironment) : Action Workspace Unit := do
  let h ← look r id
  match h.environment with
  | none => pure ()
  | some env => do
    change r fun h => { h with environment := none }
    logShowing [h.name] .environment .debug ("Disposing " ++ h.name.shown ++ " environment")
    dispose r env

/-- Becomes a holder. The environment is made if there is none; if that fails, nothing has
changed. -/
def acquire (r : Ref SharedEnvironment) : Action Workspace (Option Environment) := do
  let h ← look r id
  if h.environment.isNone then
    logShowing [h.name] .environment .debug ("Starting " ++ h.name.shown ++ " environment")
    let env ← make r
    change r fun h => { h with environment := env }
  change r fun h => { h with holders := h.holders + 1 }
  look r (·.environment)

/-- Stops being a holder; the last one to do so ends the environment. -/
def release (r : Ref SharedEnvironment) : Action Workspace Unit := do
  let h ← look r id
  if h.holders = 0 then
    Action.fail (.naming h.name (.overReleased h.name.shown))
  else
    change r fun h => { h with holders := h.holders - 1 }
    if h.holders = 1 then teardown r

/-- Ends the environment now and forgets all holders. -/
def close (r : Ref SharedEnvironment) : Action Workspace Unit := do
  let h ← look r id
  if h.holders ≠ 0 then
    logShowing [h.name] .environment .warning ("Closing " ++ h.name.shown
      ++ " environment with " ++ toString h.holders ++ " holder(s) left")
  change r fun h => { h with holders := 0 }
  teardown r

/-- Runs `body` as a holder: the handle is acquired before it and released after it, whether it
returned or failed. If releasing fails, that failure stands; else the outcome of the body. -/
def withHeld {σ α : Type} [MonadLiftT (Action Workspace) (Action σ)] (r : Ref SharedEnvironment)
    (body : Option Environment → Action σ α) : Action σ α := do
  let env ← acquire r
  let outcome ← Action.attempt (body env)
  release r
  Action.ofExcept outcome

def create (name : Value) (source : EnvironmentSource) :
    Action Workspace (Ref SharedEnvironment) := do
  let r ← Action.gets (·.environments.next)
  Action.modify fun w => { w with environments := w.environments.push (.new name source) }
  pure r

end LinearDispatch.SharedEnvironment
