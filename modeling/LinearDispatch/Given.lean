import LinearDispatch.Failure

/-!
# Arguments

A caller can put anything in the place of an object. What does not fit is named by its type in
complaints, and some uses of it fail only later, when a part of the expected object is asked for.
-/

namespace LinearDispatch

/-- The objects of the library that a caller can pass around. -/
inductive ObjectKind where
  | bound
  | decision
  | expression
  | constraint
  | program
  | coefficients
  | parameters
  | solver
  | environment
  | orToolsAdapter
  | highsAdapter
  | gurobiAdapter
  | scriptedAdapter
deriving DecidableEq

namespace ObjectKind

/-- Where the type of an object is defined, and what it is called. -/
def title : ObjectKind → String × String
  | bound => ("lpbridge.program.", "Bound")
  | decision => ("lpbridge.program.", "Variable")
  | expression => ("lpbridge.program.", "LinearExpression")
  | constraint => ("lpbridge.program.", "LinearConstraint")
  | program => ("lpbridge.program.", "Program")
  | coefficients => ("", "mappingproxy")
  | parameters => ("lpbridge.config.", "SolverParameters")
  | solver => ("lpbridge.solver.", "LinearProgramSolver")
  | environment => ("lpbridge.backends.environment.", "EnvironmentHandle")
  | orToolsAdapter => ("lpbridge.backends.ortools_backend.", "OrToolsBackend")
  | highsAdapter => ("lpbridge.backends.scipy_backend.", "ScipyBackend")
  | gurobiAdapter => ("lpbridge.backends.gurobi_backend.", "GurobiBackend")
  | scriptedAdapter => ("__main__.", "Scripted")

def typeName (k : ObjectKind) : String :=
  k.title.2

end ObjectKind

/-- Something else than what was expected: a plain value, or an object of another kind, which may be
empty. -/
inductive Foreign where
  | value (v : Value)
  | object (kind : ObjectKind) (empty : Bool)

namespace Foreign

def typeName : Foreign → String
  | value v => v.typeName
  | object kind _ => kind.typeName

/-- What is missing where a row is expected: whatever has no bound of its own to ask about, or else
the coefficients. -/
def missingOfRow : Foreign → String
  | object .bound _ | object .decision _ => "coefficients"
  | object .. | value _ => "kind"

def typeText : Foreign → String
  | value v => "<class '" ++ v.typeName ++ "'>"
  | object kind _ => "<class '" ++ kind.title.1 ++ kind.title.2 ++ "'>"

/-- Whether it counts as given: what is empty does not. -/
def isTrue : Foreign → Bool
  | value v => v.isTrue
  | object _ empty => !empty

end Foreign

/-- An argument where an object is expected: that object, or something else. -/
inductive Given (α : Type) where
  | proper (a : α)
  | other (f : Foreign)

/-- Whether an argument counts as given, which an object of the expected kind does. -/
def Given.isTrue {α : Type} : Given α → Bool
  | proper _ => true
  | other f => f.isTrue

/-- The argument, or `default` where it does not count as given. -/
def Given.orElse {α : Type} (g default : Given α) : Given α :=
  if g.isTrue then g else default

/-- An argument that counts as given. -/
structure Supplied (α : Type) where
  argument : Given α
  counts : argument.isTrue = true

namespace Supplied

variable {α : Type}

instance : CoeOut (Supplied α) (Given α) := ⟨argument⟩

def proper (a : α) : Supplied α :=
  ⟨.proper a, rfl⟩

/-- What is supplied already, or another argument in its place, if one is given that counts. -/
def replacedBy (own : Supplied α) : Option (Given α) → Supplied α
  | some g => if counts : g.isTrue = true then ⟨g, counts⟩ else own
  | none => own

end Supplied

theorem Supplied.replacedBy_argument {α : Type} (own new : Supplied α) :
    own.replacedBy (some new.argument) = new :=
  dif_pos new.counts

/-- The object itself, where its part of this name is asked for. -/
def Given.require {α : Type} (part : String) : Given α → Except Failure α
  | proper a => .ok a
  | other f => .error (.missingPart f.typeName part)

theorem Given.require_eq_ok {α : Type} {part : String} {g : Given α} {a : α} :
    g.require part = .ok a ↔ g = .proper a := by
  cases g with
  | proper b =>
    constructor
    · intro h
      cases h
      rfl
    · intro h
      cases h
      rfl
  | other f =>
    constructor
    · intro h
      cases h
    · intro h
      cases h

end LinearDispatch
