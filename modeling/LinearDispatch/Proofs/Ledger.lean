import LinearDispatch.Dispatch.History
import LinearDispatch.Proofs.Carries

/-!
# The ledger of a solve

Which calls a solve makes on the adapter that it creates is decided by the adapter: every call may
fail, and what it answers decides what is asked next. So the calls are observed and not predicted.
A watched adapter is an adapter with a ledger beside it; a call on it is the same call on the
adapter, entered into the ledger with the way it ended. A factory is watched likewise.

A solve with watched adapters is the very program of a plain solve at another type, and
`solveWatched_follows` says that it is the same run: answer, solver and workspace agree once the
ledger is forgotten. That is what entitles the theorems about `Solver.ledger` to speak of the
solve itself, for adapters of any type and behaviour.
-/

namespace LinearDispatch

/-- A call of a factory or of the adapter that it made, without the way it ended. -/
inductive Request where
  | create
  | start (parameters : Given Parameters)
  | version
  | give (part : Part)
  | solve
  | values
  | objectiveValue
  | close

/-- A call of a factory or of the adapter that it made, with the way it ended. -/
inductive Entry where
  | create (reply : Except Failure Unit)
  | start (parameters : Given Parameters) (reply : Except Failure Unit)
  | version (reply : Except Failure Value)
  | give (part : Part) (reply : Except Failure Unit)
  | solve (reply : Except Failure (Given Status))
  | values (reply : Except Failure Value)
  | objectiveValue (reply : Except Failure Value)
  | close (reply : Except Failure Unit)

def failureOf {α : Type} : Except Failure α → Option Failure
  | .ok _ => none
  | .error e => some e

@[simp] theorem failureOf_ok {α : Type} (a : α) : failureOf (.ok a) = none := rfl

namespace Entry

def request : Entry → Request
  | create _ => .create
  | start parameters _ => .start parameters
  | version _ => .version
  | give part _ => .give part
  | solve _ => .solve
  | values _ => .values
  | objectiveValue _ => .objectiveValue
  | close _ => .close

/-- The failure that an entry stands for: that of the call itself, or that of reading its answer
as a status or as numbers. A failure to close stands for none, since it decides nothing. -/
def failure? : Entry → Option Failure
  | create r | start _ r | give _ r => failureOf r
  | version r => failureOf r
  | solve r => failureOf (r.bind (·.require "usable"))
  | values r => failureOf (r.bind Dispatch.readValues)
  | objectiveValue r => failureOf (r.bind Value.toFloat)
  | close _ => none

/-- The part of a model that an entry hands over. -/
def part? : Entry → Option Part
  | give part _ => some part
  | _ => none

/-- The solve of a problem with so many columns goes on after the entry: nothing failed, a status
is usable, and there is a value for each column. -/
def GoesOn (columns : Nat) : Entry → Prop
  | solve (.ok (.proper status)) => status.usable
  | values (.ok v) => ∃ xs, Dispatch.readValues v = .ok xs ∧ xs.length = columns
  | x => x.failure? = none

theorem GoesOn.failure?_eq_none {columns : Nat} {x : Entry} (h : x.GoesOn columns) :
    x.failure? = none := by
  match x with
  | solve (.ok (.proper status)) => rfl
  | values (.ok v) =>
      obtain ⟨xs, hxs, -⟩ := h
      simp only [failure?, Except.bind, hxs, failureOf_ok]
  | create _ | start .. | version _ | give .. | solve (.ok (.other _)) | solve (.error _)
  | values (.error _) | objectiveValue _ | close _ => exact h

end Entry

/-- An adapter and the calls made on it so far. -/
structure Watched (A : Type) where
  adapter : A
  ledger : List Entry

namespace Watched

variable {A α : Type}

/-- Makes a call on the adapter and enters it. -/
def enter (entry : Except Failure α → Entry) (call : Action (A × Workspace) α) :
    Action (Watched A × Workspace) α :=
  fun s =>
    let (r, t) := call (s.1.adapter, s.2)
    (r, (⟨t.1, s.1.ledger ++ [entry r]⟩, t.2))

instance [Adapter A] : Adapter (Watched A) where
  name w := Adapter.name w.adapter
  supportsInteger w := Adapter.supportsInteger w.adapter
  version := enter .version Adapter.version
  start p := enter (.start p) (Adapter.start p)
  give part := enter (.give part) (Adapter.give part)
  solve := enter .solve Adapter.solve
  values := enter .values Adapter.values
  objectiveValue := enter .objectiveValue Adapter.objectiveValue
  close := enter .close Adapter.close

def forget (s : Watched A × Workspace) : A × Workspace :=
  (s.1.adapter, s.2)

/-- The start of a watched adapter is the start of the adapter, and one more entry. -/
theorem start_run [Adapter A] (parameters : Given Parameters) (s : Watched A × Workspace) :
    (Adapter.start parameters).run s =
      (((Adapter.start parameters).run (s.1.adapter, s.2)).1,
        ⟨((Adapter.start parameters).run (s.1.adapter, s.2)).2.1,
          s.1.ledger ++ [.start parameters
            ((Adapter.start parameters).run (s.1.adapter, s.2)).1]⟩,
        ((Adapter.start parameters).run (s.1.adapter, s.2)).2.2) := rfl

/-- Closing it is closing the adapter, and one more entry. -/
theorem close_run [Adapter A] (s : Watched A × Workspace) :
    Adapter.close.run s =
      ((Adapter.close.run (s.1.adapter, s.2)).1,
        ⟨(Adapter.close.run (s.1.adapter, s.2)).2.1,
          s.1.ledger ++ [.close (Adapter.close.run (s.1.adapter, s.2)).1]⟩,
        (Adapter.close.run (s.1.adapter, s.2)).2.2) := rfl

theorem enter_follows (entry : Except Failure α → Entry) (call : Action (A × Workspace) α) :
    Action.Follows forget (enter entry call) call := fun _ => rfl

/-- Without its ledger, a watched adapter is the adapter. -/
theorem carries [Adapter A] : Adapter.Carries (adapter (A := A)) where
  version := enter_follows _ _
  start _ := enter_follows _ _
  give _ := enter_follows _ _
  solve := enter_follows _ _
  values := enter_follows _ _
  objectiveValue := enter_follows _ _
  close := enter_follows _ _

/-- Makes an adapter and enters that it was made, or why it was not. -/
def make (create : Action Workspace A) : Action (List Entry × Workspace) A :=
  fun s =>
    let (r, w) := create s.2
    (r, (s.1 ++ [.create (r.map fun _ => ())], w))

/-- Drives an adapter whose calls are entered behind those made so far. -/
def drive [Adapter A] (parameters : Given Parameters) (backend : Value) (problem : Problem)
    (adapter : A) : Action (List Entry × Workspace) Outcome :=
  fun s =>
    let (r, t) := Dispatch.attempt (A := Watched A) problem parameters backend
      (⟨adapter, s.1⟩, s.2)
    (r, (t.1.ledger, t.2))

def catalog (c : Catalog Workspace A) : Catalog (List Entry × Workspace) A :=
  fun name w => (c name w).map make

end Watched

namespace Dispatch

/-- A solve whose calls are entered into a ledger. -/
def solveWatched {A : Type} [Adapter A] (catalog : Catalog Workspace A)
    (program : Given (Ref Program)) (backend : Value) (parameters : Given Parameters) :
    Action (List Entry × Workspace) Outcome :=
  solveVia ((Watched.catalog catalog).create backend) (Watched.drive parameters backend)
    program backend

end Dispatch

namespace Solver

/-- A solve of a solver whose calls are entered into a ledger. -/
def solveWatched {A : Type} [Adapter A] (catalog : Catalog Workspace A)
    (program : Given (Ref Program)) (backend : Value) (parameters : Option (Given Parameters)) :
    Action (Solver × (List Entry × Workspace)) Bool :=
  keep backend parameters (Dispatch.solveWatched catalog program backend)

/-- The calls that a solve makes, in order: on the factory under the name of the backend, and on
the adapter that it makes. -/
def ledger {A : Type} [Adapter A] (catalog : Catalog Workspace A) (program : Given (Ref Program))
    (backend : Value) (parameters : Option (Given Parameters)) (s : Solver × Workspace) :
    List Entry :=
  ((solveWatched catalog program backend parameters).run (s.1, [], s.2)).2.2.1

end Solver

/-! ## Making an adapter

The maker is looked up in the workspace as it stands. -/

theorem Catalog.create_run {A : Type} (catalog : Catalog Workspace A) (backend : Value)
    (w : Workspace) :
    (catalog.create backend).run w =
      match catalog.lookup backend w with
      | .ok (some make) => make.run w
      | .ok none => (.error (.notRegistered backend.shown), w)
      | .error e => (.error e, w) := by
  have found : (liftM (Action.gets (catalog.lookup backend)) : Action Workspace _).run w =
      (.ok (catalog.lookup backend w), w) := rfl
  rw [create, Action.run_bind, found]
  dsimp only
  rw [Action.run_bind, Action.run_ofExcept]
  rcases catalog.lookup backend w with e | _ | make <;> rfl

theorem Watched.make_run {A : Type} (create : Action Workspace A) (s : List Entry × Workspace) :
    (make create).run s =
      ((create.run s.2).1, s.1 ++ [.create ((create.run s.2).1.map fun _ => ())],
        (create.run s.2).2) := rfl

theorem Watched.lookup_catalog {A : Type} (c : Catalog Workspace A) (backend : Value)
    (w : Workspace) :
    (catalog c).lookup backend w = (c.lookup backend w).map (Option.map make) := by
  unfold Catalog.lookup Value.whenWritable
  split <;> rfl

theorem Watched.create_run {A : Type} (c : Catalog Workspace A) (backend : Value)
    (s : List Entry × Workspace) :
    ((Watched.catalog c).create backend).run s =
      match c.lookup backend s.2 with
      | .ok (some make) => (Watched.make make).run s
      | .ok none => (.error (.notRegistered backend.shown), s)
      | .error e => (.error e, s) := by
  rw [Catalog.create, Action.run_bind, Action.run_liftM, Action.run_gets, lookup_catalog]
  dsimp only
  rw [Action.run_bind, Action.run_ofExcept]
  rcases c.lookup backend s.2 with e | _ | make <;> rfl

theorem Watched.create_follows {A : Type} (c : Catalog Workspace A) (backend : Value) :
    Action.Follows Prod.snd ((Watched.catalog c).create backend) (c.create backend) := by
  intro s
  rw [Watched.create_run, Catalog.create_run]
  rcases c.lookup backend s.2 with e | _ | make <;> rfl

/-! ## Watching changes nothing

Only `Watched.enter` and `Watched.make` touch a ledger. The drive of an adapter is carried through
by `Watched.carries`, and the stages before it are passed through one by one. -/

namespace Dispatch

open LinearDispatch.Action

variable {A : Type} [Adapter A]

theorem drive_follows (parameters : Given Parameters) (backend : Value) (problem : Problem)
    (adapter : A) :
    Follows Prod.snd (Watched.drive parameters backend problem adapter)
      (withFirst adapter (attempt problem parameters backend)) := by
  intro s
  have h := attempt_follows Watched.carries problem parameters backend (⟨adapter, s.1⟩, s.2)
  exact congrArg (fun r => (r.1, r.2.2)) h

theorem prepare_follows {x : Action (List Entry × Workspace) A} {y : Action Workspace A}
    (h : Follows Prod.snd x y) (problem : Problem) (backend : Value) :
    Follows Prod.snd (prepare x problem backend) (prepare y problem backend) := by
  refine follows_bind (follows_ofExcept _) fun defects => ?_
  cases defects with
  | cons defect rest =>
      exact follows_bind (follows_onSecond_snd _) fun _ => follows_pure _
  | nil =>
      refine follows_bind (follows_attempt h) fun created => ?_
      cases created with
      | error e =>
          dsimp only
          split
          · exact follows_bind (follows_onSecond_snd _) fun _ => follows_pure _
          · exact follows_fail e
      | ok adapter =>
          refine follows_bind (follows_ofExcept _) fun refused => ?_
          split
          · exact follows_bind (follows_onSecond_snd _) fun _ => follows_pure _
          · exact follows_pure _

theorem solveWith_follows {x : Action (List Entry × Workspace) A} {y : Action Workspace A}
    {f : A → Action (List Entry × Workspace) Outcome} {g : A → Action Workspace Outcome}
    (h : Follows Prod.snd x y) (hf : ∀ adapter, Follows Prod.snd (f adapter) (g adapter))
    (problem : Problem) (backend : Value) :
    Follows Prod.snd (solveWith x f problem backend) (solveWith y g problem backend) := by
  refine follows_bind (prepare_follows h problem backend) fun prepared => ?_
  cases prepared with
  | inl outcome => exact follows_pure outcome
  | inr adapter => exact hf adapter

theorem solveWatched_follows (catalog : Catalog Workspace A) (program : Given (Ref Program))
    (backend : Value) (parameters : Given Parameters) :
    Follows Prod.snd (solveWatched catalog program backend parameters)
      (solve catalog program backend parameters) := by
  cases program with
  | other f => exact follows_onSecond_snd _
  | proper p =>
      refine follows_bind (follows_onSecond_snd _) fun problem => ?_
      exact solveWith_follows (Watched.create_follows catalog backend)
        (drive_follows parameters backend problem) problem backend

end Dispatch

namespace Solver

open LinearDispatch.Action

theorem keep_follows {σ τ : Type} {π : σ → τ} {f : Given Parameters → Action σ Outcome}
    {g : Given Parameters → Action τ Outcome} (h : ∀ p, Follows π (f p) (g p)) (backend : Value)
    (parameters : Option (Given Parameters)) :
    Follows (Prod.map id π) (keep backend parameters f) (keep backend parameters g) := by
  refine follows_bind (fun _ => rfl) fun _ => ?_
  refine follows_bind (fun _ => rfl) fun own => ?_
  refine follows_bind (fun s => ?_) fun outcome => ?_
  · have := h (own.replacedBy parameters) s.2
    exact congrArg (fun r => (r.1, s.1, r.2)) this
  · exact follows_bind (fun _ => rfl) fun _ => follows_ofExcept _

/-- The solve with a ledger is the solve: the same answer, and the same solver and workspace left
behind. -/
theorem solveWatched_follows {A : Type} [Adapter A] (catalog : Catalog Workspace A)
    (program : Given (Ref Program)) (backend : Value) (parameters : Option (Given Parameters)) :
    Follows (Prod.map id Prod.snd) (solveWatched catalog program backend parameters)
      (solveFrom catalog program backend parameters) :=
  keep_follows (fun p => Dispatch.solveWatched_follows catalog program backend p) backend parameters

end Solver

end LinearDispatch
