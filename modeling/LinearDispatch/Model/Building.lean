import LinearDispatch.Workspace

/-!
# Building models

The operations that make and change model objects. A step either stores its input, stores it
with a warning, or drops it and leaves everything as it was; each warning and each drop is
logged. Steps on several inputs are the single steps in order, so those before a failing one
have their effect.
-/

namespace LinearDispatch.Model

open Workspace

def change (f : Store → Store) : Action Workspace Unit :=
  Action.modify fun w => { w with models := f w.models }

/-- Something read off the model objects. -/
def look {α : Type} (f : Store → α) : Action Workspace α :=
  Action.gets fun w => f w.models

/-- Logs the reason of a receipt, if it has one, and passes the receipt on. -/
def noted (r : Receipt) : Action Workspace Receipt := do
  match r.reason? with
  | some reason => log .model .warning reason
  | none => pure ()
  pure r

/-! ## Bounds -/

def newBound (b : Bound) : Action Workspace (Ref Bound) := do
  let r ← look (·.bounds.next)
  change fun s => { s with bounds := s.bounds.push b }
  pure r

def shapeBound (r : Ref Bound) (kind : Choice BoundKind) (lower upper : Value) :
    Action Workspace Receipt := do
  let old ← look (·.bounds.get r)
  let (new, receipt) ← Action.ofExcept (old.set kind lower upper)
  change fun s => { s with bounds := s.bounds.set r new }
  noted receipt

/-- The one side of a bound; asking it of a bound with two sides or none is logged. -/
def singleSide (r : Ref Bound) : Action Workspace Float := do
  let b ← look (·.bounds.get r)
  match b.singleWarning? with
  | some warning => log .model .warning warning
  | none => pure ()
  pure b.single

/-! ## Expressions -/

def newZero : Action Workspace (Ref Expression) := do
  let r ← look (·.expressions.next)
  change fun s => { s with expressions := s.expressions.push .zero }
  pure r

def addTerm (r : Ref Expression) (index value : Value) : Action Workspace Receipt := do
  let old ← look (·.expressions.get r)
  let (new, receipt) ← Action.ofExcept (old.add index value)
  change fun s => { s with expressions := s.expressions.set r new }
  noted receipt

/-- Where the terms to be added come from: a list, or another expression, which is read while the
terms are added and may be the expression itself. -/
inductive TermSource where
  | terms (t : Terms)
  | view (of : Ref Expression)

def addTerms (r : Ref Expression) : TermSource → Action Workspace (List Receipt)
  | .terms t => do
    let items ← Action.ofExcept t.items
    Action.forEach (fun item => do
      let (index, value) ← Action.ofExcept item
      addTerm r index value) items
  | .view source => do
    let indices ← look (·.expressions.get source |>.coefficients.keys)
    Action.forEach (fun index => do
      let x ← look (·.expressions.get source |>.coefficient index)
      addTerm r (Value.ofInt index) (Value.ofFloat x)) indices

/-- A new expression with the terms of a source, if there is one. -/
def newExpression (source : Option TermSource) : Action Workspace (Ref Expression) := do
  let r ← newZero
  match source with
  | some source => let _ ← addTerms r source; pure r
  | none => pure r

/-! ## Variables and constraints -/

/-- The bound of a new variable: binary variables lie between 0 and 1. -/
def initialBound : VariableKind → Bound
  | .binary => (Bound.unset.setSides .double 0.0 1.0).1
  | .continuous | .integer => .unset

def newVariable (kind : Choice VariableKind) (name : Value) : Action Workspace (Ref Variable) := do
  match kind with
  | .other v => Action.fail (.naming v (.unknownVariableKind v.literal))
  | .member kind =>
    let bound ← newBound (initialBound kind)
    let r ← look (·.vars.next)
    change fun s => { s with vars := s.vars.push ⟨kind, bound, name⟩ }
    pure r

/-- A new constraint; its bound is given a shape if there is one. -/
def newConstraint (source : Option TermSource) (kind : Option (Choice BoundKind))
    (lower upper name : Value) : Action Workspace (Ref Constraint) := do
  let expression ← newExpression source
  let bound ← newBound .unset
  match kind with
  | some kind => let _ ← shapeBound bound kind lower upper
  | none => pure ()
  let r ← look (·.constraints.next)
  change fun s => { s with constraints := s.constraints.push ⟨expression, bound, name⟩ }
  pure r

/-! ## Programs -/

/-- A new program without variables and rows; its objective is zero. -/
def newProgram (name : Value) : Action Workspace (Ref Program) := do
  let objective ← newZero
  let r ← look (·.programs.next)
  change fun s => { s with programs := s.programs.push ⟨name, [], objective, []⟩ }
  pure r

def changeProgram (r : Ref Program) (f : Program → Program) : Action Workspace Unit :=
  change fun s => { s with programs := s.programs.set r (f (s.programs.get r)) }

def appendVariable (r : Ref Program) : Given (Ref Variable) → Action Workspace Receipt
  | .other f => Action.fail (.notAVariable f.typeText)
  | .proper v => do
    changeProgram r fun p => { p with vars := p.vars ++ [v] }
    pure .stored

def appendVariables (r : Ref Program) (vs : List (Given (Ref Variable))) :
    Action Workspace (List Receipt) :=
  Action.forEach (appendVariable r) vs

/-- Replaces the objective, which is minimized. -/
def replaceObjective (r : Ref Program) : Given (Ref Expression) → Action Workspace Receipt
  | .other _ => Action.fail .notAnExpression
  | .proper e => do
    changeProgram r fun p => { p with objective := e }
    pure .stored

def incompleteNote (name : Value) : Except Failure String := do
  let label ← if name.isTrue then name.whenWritable (" '" ++ name.shown ++ "'") else .ok ""
  return "incomplete constraint" ++ label ++ ": no bound(s) specified"

def appendRow (r : Ref Program) (c : Given (Ref Constraint)) : Action Workspace Unit :=
  changeProgram r fun p => { p with constraints := p.constraints ++ [c] }

/-- Appends a constraint; one whose bound has no shape yet is dropped. -/
def appendConstraint (r : Ref Program) : Given (Ref Constraint) → Action Workspace Receipt
  | .other f => Action.fail (.notAConstraint f.typeText)
  | .proper c => do
    let row ← look (·.row c)
    if row.bound.isSet then
      appendRow r (.proper c)
      pure .stored
    else
      let note ← Action.ofExcept (incompleteNote row.name)
      noted (.dropped note)

def appendConstraints (r : Ref Program) (cs : List (Given (Ref Constraint))) :
    Action Workspace (List Receipt) :=
  Action.forEach (appendConstraint r) cs

/-- The messages of the defects of a program; one message if it is none. -/
def defectMessages (s : Store) : Given (Ref Program) → Except Failure (List String)
  | .other f => .ok [(Defect.notAProblem f.typeText).message]
  | .proper p => do
    let defects ← (s.problem p).inspect
    return defects.map Defect.message

end LinearDispatch.Model
