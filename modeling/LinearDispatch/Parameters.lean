import LinearDispatch.Failure
import LinearDispatch.Mapping

/-!
# Parameters

What every backend understands (a time limit, a number of threads, whether to be verbose) and the
options that are passed through to one backend as they are. Parameters are checked once, when
they are made, and never change; adding options makes new parameters.
-/

namespace LinearDispatch

structure Parameters where
  timeLimit : Option Scalar
  threads : Option Scalar
  verbose : Value
  options : Mapping

namespace Parameters

def default : Parameters :=
  ⟨none, none, .scalar (.bool false), .empty⟩

instance : Inhabited Parameters := ⟨default⟩

/-- A number that must not be below `least`; nothing stands for no such number. -/
def atLeast (least : Int) (tooSmall : Failure) : Value → Except Failure (Option Scalar)
  | .none => .ok none
  | .scalar s => if s.lt (.int least) then .error tooSmall else .ok (some s)
  | v => .error (.notComparable "<" v.typeName "int")

/-- Parameters from what a caller passes: the time limit is checked first, then the threads, then
that there are options at all. Of two options with one name the later value counts. -/
def make (timeLimit threads verbose : Value) (options : Option (List (Key × Value))) :
    Except Failure Parameters := do
  let timeLimit ← atLeast 0 .negativeTimeLimit timeLimit
  let threads ← atLeast 1 .threadsNotPositive threads
  match options with
  | none => throw (.notIterable "NoneType")
  | some options => return ⟨timeLimit, threads, verbose, .ofList options⟩

/-- The name that further options cannot have, because the receiver of the call has it. -/
def reservedName : String := "self"

/-- The parameters with further named options: a name that is there keeps its place and takes the
new value. -/
def extend (p : Parameters) (options : List (String × Value)) : Except Failure Parameters :=
  if options.any (·.1 == reservedName) then
    .error (.reservedOption reservedName)
  else
    .ok { p with options := p.options.putAll (options.map fun e => (.text e.1, e.2)) }

end Parameters

end LinearDispatch
