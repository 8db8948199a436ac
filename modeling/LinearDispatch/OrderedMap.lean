/-!
# Maps in insertion order

A map whose entries keep the order in which their keys first appeared: writing to a key that is
there changes its value in place, a new key goes to the end. The coefficients of an expression and
the registry are such maps, and the order of their entries is what callers and backends see.
-/

namespace LinearDispatch

/-- A finite map with its entries in insertion order, each key once. -/
structure OrderedMap (κ ν : Type) where
  entries : List (κ × ν)
  distinct : (entries.map Prod.fst).Nodup

namespace OrderedMap

variable {κ ν : Type}

instance : Inhabited (OrderedMap κ ν) := ⟨⟨[], List.nodup_nil⟩⟩

def empty : OrderedMap κ ν := ⟨[], List.nodup_nil⟩

def keys (m : OrderedMap κ ν) : List κ :=
  m.entries.map Prod.fst

def size (m : OrderedMap κ ν) : Nat :=
  m.entries.length

variable [DecidableEq κ]

/-- The entries after `v` is written to `k`. -/
def putEntry (k : κ) (v : ν) : List (κ × ν) → List (κ × ν)
  | [] => [(k, v)]
  | e :: rest => if e.1 = k then (k, v) :: rest else e :: putEntry k v rest

theorem map_fst_putEntry (k : κ) (v : ν) (es : List (κ × ν)) :
    (putEntry k v es).map Prod.fst =
      if k ∈ es.map Prod.fst then es.map Prod.fst else es.map Prod.fst ++ [k] := by
  induction es with
  | nil => simp [putEntry]
  | cons e rest ih =>
    by_cases h : e.1 = k
    · simp [putEntry, h]
    · have h' : ¬k = e.1 := fun eq => h eq.symm
      simp only [putEntry, h, if_false, List.map_cons, ih, List.mem_cons, h', false_or]
      split <;> simp

theorem nodup_putEntry (k : κ) (v : ν) {es : List (κ × ν)} (h : (es.map Prod.fst).Nodup) :
    ((putEntry k v es).map Prod.fst).Nodup := by
  rw [map_fst_putEntry]
  split
  · exact h
  · next hk =>
    refine List.nodup_append.2 ⟨h, by simp, ?_⟩
    intro a ha b hb
    rw [List.mem_singleton] at hb
    rintro rfl
    exact hk (hb ▸ ha)

def get? (m : OrderedMap κ ν) (k : κ) : Option ν :=
  (m.entries.find? fun e => e.1 = k).map Prod.snd

/-- `v` written to `k`: in place if the key is there, else at the end. -/
def put (m : OrderedMap κ ν) (k : κ) (v : ν) : OrderedMap κ ν :=
  ⟨putEntry k v m.entries, nodup_putEntry k v m.distinct⟩

/-- The map without `k`; the other entries keep their order. -/
def erase (m : OrderedMap κ ν) (k : κ) : OrderedMap κ ν :=
  ⟨m.entries.filter fun e => e.1 ≠ k, List.Sublist.nodup (List.Sublist.map _ List.filter_sublist)
    m.distinct⟩

/-- The entries of `es` written one after the other. -/
def putAll (m : OrderedMap κ ν) (es : List (κ × ν)) : OrderedMap κ ν :=
  es.foldl (fun m e => m.put e.1 e.2) m

/-- The map of a list of entries, later values at the place of the first. -/
def ofList (es : List (κ × ν)) : OrderedMap κ ν :=
  empty.putAll es

/-- Where keys are distinct, a search for a key finds the item that has it. -/
theorem find?_of_mem {α : Type} {key : α → κ} {items : List α} (distinct : (items.map key).Nodup)
    {a : α} (ha : a ∈ items) : (items.find? fun b => key b = key a) = some a := by
  induction items with
  | nil => cases ha
  | cons b rest ih =>
    rw [List.map_cons, List.nodup_cons] at distinct
    rw [List.find?_cons]
    cases List.mem_cons.1 ha with
    | inl ha => simp [ha]
    | inr ha =>
      have other : key b ≠ key a := fun same => distinct.1 (same ▸ List.mem_map_of_mem ha)
      simp only [other, decide_false]
      exact ih distinct.2 ha

/-- What a map has under a key is the entry with that key. -/
theorem get?_eq_some_iff {m : OrderedMap κ ν} {k : κ} {v : ν} :
    m.get? k = some v ↔ (k, v) ∈ m.entries := by
  unfold get?
  constructor
  · intro h
    obtain ⟨e, found, rfl⟩ := Option.map_eq_some_iff.1 h
    have same : e.1 = k := by simpa using List.find?_some found
    exact same ▸ List.mem_of_find?_eq_some found
  · intro h
    exact congrArg (Option.map Prod.snd) (find?_of_mem m.distinct h)

/-- Writing keeps the keys and their order, and adds a new key at the end. -/
theorem keys_put (m : OrderedMap κ ν) (k : κ) (v : ν) :
    (m.put k v).keys = if k ∈ m.keys then m.keys else m.keys ++ [k] :=
  map_fst_putEntry k v m.entries

theorem putEntry_of_not_mem {k : κ} {es : List (κ × ν)} (h : k ∉ es.map Prod.fst) (v : ν) :
    putEntry k v es = es ++ [(k, v)] := by
  induction es with
  | nil => rfl
  | cons e rest ih =>
    rw [List.map_cons, List.mem_cons, not_or] at h
    rw [putEntry, if_neg fun same => h.1 same.symm, ih h.2]
    rfl

/-- New keys are written to the end, in their order. -/
theorem entries_putAll {es : List (κ × ν)} :
    ∀ {m : OrderedMap κ ν}, ((m.entries ++ es).map Prod.fst).Nodup →
      (m.putAll es).entries = m.entries ++ es := by
  induction es with
  | nil => exact fun _ => (List.append_nil _).symm
  | cons e rest ih =>
    intro m distinct
    have new : e.1 ∉ m.entries.map Prod.fst := by
      rw [List.map_append, List.nodup_append] at distinct
      exact fun h => distinct.2.2 _ h e.1 List.mem_cons_self rfl
    have put : (m.put e.1 e.2).entries = m.entries ++ [e] := putEntry_of_not_mem new e.2
    have next := @ih (m.put e.1 e.2) (by rwa [put, List.append_assoc])
    rw [put, List.append_assoc] at next
    exact next

theorem find?_putEntry (k k' : κ) (v : ν) (es : List (κ × ν)) :
    ((putEntry k v es).find? fun e => e.1 = k').map Prod.snd =
      if k = k' then some v else (es.find? fun e => e.1 = k').map Prod.snd := by
  induction es with
  | nil => by_cases h : k = k' <;> simp [putEntry, h]
  | cons e rest ih =>
    by_cases he : e.1 = k
    · by_cases h : k = k'
      · simp [putEntry, he, h]
      · simp [putEntry, he, h]
    · by_cases h' : e.1 = k'
      · have hk : ¬k = k' := fun eq => he (h'.trans eq.symm)
        have hk' : ¬k' = k := fun eq => hk eq.symm
        simp [putEntry, h', hk, hk']
      · simpa [putEntry, he, h'] using ih

/-- After a write the key has the new value and every other key its old one. -/
theorem get?_put (m : OrderedMap κ ν) (k k' : κ) (v : ν) :
    (m.put k v).get? k' = if k = k' then some v else m.get? k' :=
  find?_putEntry k k' v m.entries

/-- After it was erased the key has no value and every other key its old one. -/
theorem get?_erase (m : OrderedMap κ ν) (k k' : κ) :
    (m.erase k).get? k' = if k = k' then none else m.get? k' := by
  unfold get? erase
  rw [List.find?_filter]
  split
  · next same =>
      rw [List.find?_eq_none.2 fun e _ => by simp [same], Option.map_none]
  · next other =>
      congr 2
      funext e
      by_cases h : e.1 = k'
      · simp [h, Ne.symm other]
      · simp [h]

/-- A map has something under its keys and nothing under others. -/
theorem isSome_get?_iff {m : OrderedMap κ ν} {k : κ} : (m.get? k).isSome = true ↔ k ∈ m.keys := by
  rw [Option.isSome_iff_exists]
  constructor
  · rintro ⟨v, found⟩
    exact List.mem_map.2 ⟨(k, v), get?_eq_some_iff.1 found, rfl⟩
  · intro listed
    obtain ⟨e, he, rfl⟩ := List.mem_map.1 listed
    exact ⟨e.2, get?_eq_some_iff.2 he⟩

end OrderedMap

end LinearDispatch
