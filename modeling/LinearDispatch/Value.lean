import LinearDispatch.Scalar
import LinearDispatch.Text.Quoted

/-!
# Values

What a caller may pass where the library expects something of its own: nothing, a scalar, a
text, a list, or a member of one of the enumerations. Names, options and raw arguments are
values; everything that the library computes itself has a type of its own. `shown` is the form
a value has inside running text, `literal` the form it has inside a list or a complaint. Both are
there on paper only where the value has an integer with too many digits: `isWritable` says that it
has none, and whoever writes a value asks first.
-/

namespace LinearDispatch

inductive Value where
  | none
  | scalar (s : Scalar)
  | text (s : String)
  | list (items : List Value)
  | member (enumeration name label : String)

namespace Value

instance : Inhabited Value := ⟨.none⟩

instance : Coe String Value := ⟨.text⟩

mutual

/-- Equality of values, decided. -/
def decideEq : (v v' : Value) → Decidable (v = v')
  | none, none => isTrue rfl
  | scalar s, scalar s' => decidable_of_iff (s = s') ⟨congrArg _, scalar.inj⟩
  | text s, text s' => decidable_of_iff (s = s') ⟨congrArg _, text.inj⟩
  | list items, list items' =>
    match decideItems items items' with
    | isTrue h => isTrue (congrArg _ h)
    | isFalse h => isFalse fun same => h (list.inj same)
  | member e n l, member e' n' l' =>
    decidable_of_iff (e = e' ∧ n = n' ∧ l = l')
      ⟨fun ⟨he, hn, hl⟩ => by rw [he, hn, hl], fun same => member.inj same⟩
  | none, scalar _ | none, text _ | none, list _ | none, member .. | scalar _, none
  | scalar _, text _ | scalar _, list _ | scalar _, member .. | text _, none | text _, scalar _
  | text _, list _ | text _, member .. | list _, none | list _, scalar _ | list _, text _
  | list _, member .. | member .., none | member .., scalar _ | member .., text _
  | member .., list _ => isFalse nofun

def decideItems : (items items' : List Value) → Decidable (items = items')
  | [], [] => isTrue rfl
  | v :: rest, v' :: rest' =>
    match decideEq v v', decideItems rest rest' with
    | isTrue h, isTrue hs => isTrue (by rw [h, hs])
    | isFalse h, _ => isFalse fun same => h (List.cons.inj same).1
    | _, isFalse hs => isFalse fun same => hs (List.cons.inj same).2
  | [], _ :: _ | _ :: _, [] => isFalse nofun

end

instance : DecidableEq Value := decideEq

mutual

/-- The value as it stands in a list or a complaint: texts between quotes. -/
def literal : Value → String
  | none => "None"
  | scalar s => s.text
  | text s => Text.quoted s
  | list items => "[" ++ ", ".intercalate (literals items) ++ "]"
  | member enumeration name label =>
    "<" ++ enumeration ++ "." ++ name ++ ": " ++ Text.quoted label ++ ">"

def literals : List Value → List String
  | [] => []
  | v :: rest => v.literal :: literals rest

end

mutual

/-- Every integer in the value can be written. -/
def isWritable : Value → Bool
  | scalar s => s.isWritable
  | list items => areWritable items
  | none | text _ | member .. => true

def areWritable : List Value → Bool
  | [] => true
  | v :: rest => v.isWritable && areWritable rest

end

/-- The value as it stands in running text: a text stands for itself. -/
def shown : Value → String
  | text s => s
  | member enumeration name _ => enumeration ++ "." ++ name
  | v => v.literal

/-- Whether the value counts as given: nothing, zero and what is empty do not. -/
def isTrue : Value → Bool
  | none => false
  | scalar s => s.isTrue
  | text s => !s.isEmpty
  | list items => !items.isEmpty
  | member .. => true

def typeName : Value → String
  | none => "NoneType"
  | scalar s => s.typeName
  | text _ => "str"
  | list _ => "list"
  | member enumeration _ _ => enumeration

def ofInt (n : Int) : Value := scalar (.int n)

def ofFloat (x : Float) : Value := scalar (.real x)

/-- The value that a caller meant by an index: an integer that is not negative. Truth values are
no indices. -/
def index? : Value → Option Nat
  | scalar (.int (.ofNat n)) => some n
  | _ => Option.none

/-- The value, or `default` where it does not count as given. -/
def orElse (v default : Value) : Value :=
  if v.isTrue then v else default

mutual

/-- Two values are equal: scalars as the numbers they are, lists item by item. -/
def same : Value → Value → Bool
  | none, none => true
  | scalar a, scalar b => a.same b
  | text a, text b => a == b
  | list as, list bs => sameItems as bs
  | member e n _, member e' n' _ => e == e' && n == n'
  | _, _ => false

def sameItems : List Value → List Value → Bool
  | [], [] => true
  | a :: as, b :: bs => a.same b && sameItems as bs
  | _, _ => false

end

def isInt (v : Value) (n : Int) : Bool :=
  v.same (ofInt n)

end Value

/-- An argument where a member of `κ` is expected: a member, or some other value. -/
inductive Choice (κ : Type) where
  | member (k : κ)
  | other (v : Value)

end LinearDispatch
