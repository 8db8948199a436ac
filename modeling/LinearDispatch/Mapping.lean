import LinearDispatch.Value

/-!
# Mappings

Options and coefficients as a caller passes them: values by key, in the order in which the keys
first appeared. A key is any value but a list, and keys that are the same number find the same
entry, so 1, 1.0 and the truth value are one key. Writing to a key that is there changes the
value and keeps the key in its place and in the form it first had.
-/

namespace LinearDispatch

/-- What can be a key of a mapping: every value but a list. -/
inductive Key where
  | none
  | scalar (s : Scalar)
  | text (s : String)
  | member (enumeration name label : String)

namespace Key

def value : Key → Value
  | none => .none
  | scalar s => .scalar s
  | text s => .text s
  | member enumeration name label => .member enumeration name label

/-- Two keys find the same entry. -/
def same (a b : Key) : Bool :=
  a.value.same b.value

end Key

def Value.key? : Value → Option Key
  | none => some .none
  | scalar s => some (.scalar s)
  | text s => some (.text s)
  | member enumeration name label => some (.member enumeration name label)
  | list _ => Option.none

/-- Values by key, in the order in which the keys first appeared. -/
structure Mapping where
  entries : List (Key × Value)

namespace Mapping

def empty : Mapping := ⟨[]⟩

def keys (m : Mapping) : List Key :=
  m.entries.map Prod.fst

/-- The entries after `v` is written to `k`. -/
def write (k : Key) (v : Value) : List (Key × Value) → List (Key × Value)
  | [] => [(k, v)]
  | e :: rest => if e.1.same k then (e.1, v) :: rest else e :: write k v rest

/-- `v` written to `k`: in place if the key is there, else at the end. -/
def put (m : Mapping) (k : Key) (v : Value) : Mapping :=
  ⟨write k v m.entries⟩

/-- The entries of `es` written one after the other. -/
def putAll (m : Mapping) (es : List (Key × Value)) : Mapping :=
  es.foldl (fun m e => m.put e.1 e.2) m

/-- The mapping of a list of entries, later values at the place of the first. -/
def ofList (es : List (Key × Value)) : Mapping :=
  empty.putAll es

theorem map_fst_write (k : Key) (v : Value) (es : List (Key × Value)) :
    (write k v es).map Prod.fst =
      if (es.map Prod.fst).any (·.same k) then es.map Prod.fst else es.map Prod.fst ++ [k] := by
  induction es with
  | nil => simp [write]
  | cons e rest ih =>
    by_cases h : e.1.same k
    · simp [write, h]
    · simp only [write, h, Bool.false_eq_true, if_false, List.map_cons, ih, List.any_cons,
        Bool.false_or]
      split <;> simp

/-- Writing keeps the keys and their order, and adds a new key at the end. -/
theorem keys_put (m : Mapping) (k : Key) (v : Value) :
    (m.put k v).keys = if m.keys.any (·.same k) then m.keys else m.keys ++ [k] :=
  map_fst_write k v m.entries

end Mapping

end LinearDispatch
