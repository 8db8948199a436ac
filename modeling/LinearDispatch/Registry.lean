import LinearDispatch.Adapter.Backend

/-!
# The registry

Backends are looked up by name. Two names are the same if they agree without blanks at their ends
and in lower case. Registering replaces what was there; asking whether a backend is available
means making it, starting it and closing it again.
-/

namespace LinearDispatch

/-- What can be found under names: the maker of a backend, as things stand, if there is one. -/
def Catalog (σ A : Type) : Type :=
  Value → Workspace → Option (Action σ A)

/-- What a catalog has under a name, which is written before it is looked up. -/
def Catalog.lookup {σ A : Type} (catalog : Catalog σ A) (name : Value) (w : Workspace) :
    Except Failure (Option (Action σ A)) :=
  name.whenWritable (catalog name w)

/-- Makes the backend that a catalog has under a name. -/
def Catalog.create {σ A : Type} [MonadLiftT (Action Workspace) (Action σ)]
    (catalog : Catalog σ A) (name : Value) : Action σ A := do
  let found ← (Action.gets (catalog.lookup name) : Action Workspace _)
  match ← Action.ofExcept found with
  | some make => make
  | none => Action.fail (.notRegistered name.shown)

namespace Registry

open Workspace

/-- The form of a name that decides what it finds. -/
def key (name : Value) : String :=
  Text.foldName name.shown

/-- The factory that is registered under a name, which is written before it is looked up. -/
def lookup (name : Value) (w : Workspace) : Except Failure (Option Factory) :=
  name.whenWritable (w.registry.get? (key name))

/-- Registers a factory under a name. What cannot make anything is refused. -/
def register (name : Value) : Option Factory → Action Workspace Unit
  | none => Action.fail (.naming name (.factoryNotCallable name.shown))
  | some factory => do
    let found ← Action.gets (lookup name)
    let replaced ← Action.ofExcept found
    if replaced.isSome then
      log .registry .debug ("Replacing backend adapter '" ++ key name ++ "'")
    Action.modify fun w => { w with registry := w.registry.put (key name) factory }

/-- Removes what is registered under a name; answers whether there was something. -/
def unregister (name : Value) : Action Workspace Bool := do
  let found ← Action.gets (lookup name)
  let removed ← Action.ofExcept found
  Action.modify fun w => { w with registry := w.registry.erase (key name) }
  pure removed.isSome

/-- The registered names in ascending order of their characters. -/
def names (registry : OrderedMap String Factory) : List String :=
  registry.keys.mergeSort fun a b => !(b < a)

/-- What is registered, where a factory makes an adapter as `make` says. -/
def catalogBy {A : Type} (make : Factory → Action Workspace A) : Catalog Workspace A :=
  fun name w => (w.registry.get? (key name)).map make

theorem lookup_catalogBy {A : Type} (make : Factory → Action Workspace A) (name : Value)
    (w : Workspace) :
    (catalogBy make).lookup name w = (lookup name w).map (Option.map make) := by
  unfold Catalog.lookup lookup Value.whenWritable
  split <;> rfl

def catalog : Catalog Workspace Backend :=
  catalogBy Factory.make

/-- Makes the backend that is registered under a name. -/
def create (name : Value) : Action Workspace Backend :=
  catalog.create name

/-- Starts a backend with default parameters and closes it again, whether it started or not.
A failure to close stands; a backend that cannot be reached is no failure. -/
def probe {A : Type} [Adapter A] (name : Value) : Action (A × Workspace) Bool := do
  let started ← Action.attempt (Adapter.start (A := A) (.proper .default))
  match started with
  | .ok () => Adapter.close; pure true
  | .error e =>
    if e.isUnavailable then
      logShowing [name] .registry .debug
        ("Backend '" ++ name.shown ++ "' unavailable: " ++ e.message)
      Adapter.close
      pure false
    else
      Adapter.close
      Action.fail e

section Questions

variable {σ A : Type}

/-- Whether a backend can be made here, and what the question put to it answers. One that cannot be
reached is not there; any other failure to make it stands. -/
def askWith (create : Action σ A) (ask : A → Action σ Bool) : Action σ Bool := do
  match ← Action.attempt create with
  | .error e => if e.isUnavailable then pure false else Action.fail e
  | .ok backend => ask backend

/-- Whether the backend that a catalog has under a name can be made and started here. -/
def isAvailableFrom [Adapter A] (catalog : Catalog Workspace A) (name : Value) :
    Action Workspace Bool :=
  askWith (catalog.create name) fun backend => Action.withFirst backend (probe name)

/-- The names for which the answer is yes, in order. -/
def keepNames (ask : Value → Action σ Bool) (names : List String) : Action σ (List String) := do
  let answers ← Action.forEach (fun name => do
    let ok ← ask (.text name)
    pure (name, ok)) names
  pure ((answers.filter (·.2)).map (·.1))

/-- The registered names for which the answer is yes. -/
def listWith [MonadLiftT (Action Workspace) (Action σ)] (ask : Value → Action σ Bool) :
    Action σ (List String) := do
  let registry ← (Action.gets (·.registry) : Action Workspace (OrderedMap String Factory))
  keepNames ask (names registry)

/-- The registered names of the backends that are available, where a catalog has the backends. -/
def availableFrom [Adapter A] (catalog : Catalog Workspace A) : Action Workspace (List String) :=
  listWith (isAvailableFrom catalog)

end Questions

/-- Whether the backend under a name can be made and started here. -/
def isAvailable (name : Value) : Action Workspace Bool :=
  isAvailableFrom catalog name

/-- The registered names of the backends that are available, in ascending order. -/
def available : Action Workspace (List String) :=
  availableFrom catalog

/-- What is registered in a fresh process: four solvers of OR-Tools, HiGHS, and Gurobi with the
environment that the process shares. -/
def defaults : OrderedMap String Factory :=
  .ofList ((["SCIP", "CBC", "GLOP", "GLPK"].map fun id => (Text.foldName id, .orTools id)) ++
    [("highs", .highs), ("gurobi", .gurobi (.proper gurobiEnvironment))])

end Registry

end LinearDispatch
