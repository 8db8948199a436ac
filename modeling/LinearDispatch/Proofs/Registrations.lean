import LinearDispatch.Proofs.FirstFailure
import LinearDispatch.Proofs.NameFolding

/-!
# What is registered

Two calls change the registry, and both can be made with any name and anything in the place of a
factory. After any sequence of them the calls alone tell what a name finds: the last one that
concerns it, a refused registration concerning none. That is `standing`, and `get?_performAll` says
that the registry is its table.

The keys of the registry are folded names. Every call keeps it so, because folding a folded name
changes nothing, and that is what makes the listed names usable as names: each finds the factory
that it was listed for.
-/

namespace LinearDispatch.Registry

open LinearDispatch.Action Workspace

/-- A call that may change what is registered. -/
inductive Change where
  | register (name : Value) (factory : Option Factory)
  | unregister (name : Value)

namespace Change

/-- Makes the call, whatever it answers. -/
def perform : Change → Action Workspace Unit
  | register name factory => Registry.register name factory
  | unregister name => do let _ ← Registry.unregister name

/-- The call decides what is found under the key. One with a name that cannot be written decides
nothing. -/
def concerns (k : String) : Change → Bool
  | register name (some _) | unregister name => name.isWritable && key name == k
  | register _ none => false

/-- What there is afterwards under a key that the call concerns. -/
def leaves : Change → Option Factory
  | register _ factory => factory
  | unregister _ => none

end Change

/-- Makes the calls one after the other. One that is refused does not end the sequence. -/
def performAll (changes : List Change) (w : Workspace) : Workspace :=
  changes.foldl (fun w c => (c.perform.run w).2) w

/-- What the calls leave under a key, on top of the default registrations: the last one that
concerns the key decides. -/
def standing (changes : List Change) (k : String) : Option Factory :=
  (changes.reverse.find? (Change.concerns k)).elim (defaults.get? k) Change.leaves

/-! ## One call -/

theorem lookup_of_written {name : Value} (written : name.isWritable = true) (w : Workspace) :
    lookup name w = .ok (w.registry.get? (key name)) :=
  if_pos written

theorem lookup_of_unwritten {name : Value} (unwritten : name.isWritable = false) (w : Workspace) :
    lookup name w = .error .notWritable :=
  if_neg (by rw [unwritten]; nofun)

theorem register_run {name : Value} (written : name.isWritable = true) (factory : Factory)
    (w : Workspace) :
    ((register name (some factory)).run w).1 = .ok () ∧
      ((register name (some factory)).run w).2.registry =
        w.registry.put (key name) factory := by
  unfold register
  dsimp only
  rw [run_bind, run_gets, lookup_of_written written]
  dsimp only
  rw [run_bind, run_ofExcept]
  dsimp only
  split <;> exact ⟨rfl, rfl⟩

theorem unregister_run {name : Value} (written : name.isWritable = true) (w : Workspace) :
    (unregister name).run w =
      (.ok (w.registry.get? (key name)).isSome,
        { w with registry := w.registry.erase (key name) }) := by
  unfold unregister
  rw [run_bind, run_gets, lookup_of_written written]
  rfl

/-- What concerns a name is refused where the name cannot be written, and nothing has changed. -/
theorem run_of_unwritten {name : Value} (unwritten : name.isWritable = false) (w : Workspace) :
    (∀ factory, (register name factory).run w = (.error .notWritable, w)) ∧
      (unregister name).run w = (.error .notWritable, w) := by
  refine ⟨fun factory => ?_, ?_⟩
  · cases factory with
    | none =>
        show (Except.error (Failure.naming name _), w) = _
        rw [Failure.naming, if_neg (by rw [unwritten]; nofun)]
    | some factory =>
        unfold register
        dsimp only
        rw [run_bind, run_gets, lookup_of_unwritten unwritten]
        rfl
  · unfold unregister
    rw [run_bind, run_gets, lookup_of_unwritten unwritten]
    rfl

/-- A call changes what is found under the keys that it concerns, and nothing else. -/
theorem get?_perform (c : Change) (w : Workspace) (k : String) :
    (c.perform.run w).2.registry.get? k =
      if c.concerns k then c.leaves else w.registry.get? k := by
  cases c with
  | register name factory =>
      cases factory with
      | none => rfl
      | some factory =>
          unfold Change.perform Change.concerns
          cases written : name.isWritable with
          | true =>
              rw [(register_run written factory w).2, OrderedMap.get?_put]
              simp only [Change.leaves, written, Bool.true_and, beq_iff_eq]
          | false =>
              rw [(run_of_unwritten written w).1]
              simp only [written, Bool.false_and, if_neg Bool.false_ne_true]
  | unregister name =>
      unfold Change.perform Change.concerns
      rw [run_bind]
      cases written : name.isWritable with
      | true =>
          rw [unregister_run written]
          show (w.registry.erase (key name)).get? k = _
          rw [OrderedMap.get?_erase]
          simp only [Change.leaves, written, Bool.true_and, beq_iff_eq]
      | false =>
          rw [(run_of_unwritten written w).2]
          simp only [written, Bool.false_and, if_neg Bool.false_ne_true]

/-- Under its own name every key of the registry is found. -/
def Folded (w : Workspace) : Prop :=
  ∀ k ∈ w.registry.keys, key (.text k) = k

theorem key_key (name : Value) : key (.text (key name)) = key name :=
  Text.foldName_foldName name.shown

theorem Folded.perform {w : Workspace} (h : Folded w) (c : Change) :
    Folded (c.perform.run w).2 := by
  intro k hk
  rw [← OrderedMap.isSome_get?_iff, get?_perform] at hk
  split at hk
  · next concerns =>
      -- only a registration leaves something under the key that it concerns
      cases c with
      | register name factory =>
          cases factory with
          | none => cases concerns
          | some factory =>
              obtain rfl : key name = k := beq_iff_eq.1 (Bool.and_eq_true_iff.1 concerns).2
              exact key_key name
      | unregister name => cases hk
  · exact h k (OrderedMap.isSome_get?_iff.1 hk)

/-! ## Any sequence of calls -/

theorem get?_performAll (changes : List Change) (w : Workspace) (k : String) :
    (performAll changes w).registry.get? k =
      (changes.reverse.find? (Change.concerns k)).elim (w.registry.get? k) Change.leaves := by
  induction changes generalizing w with
  | nil => rfl
  | cons c rest ih =>
      rw [performAll, List.foldl_cons, ← performAll, ih, List.reverse_cons, List.find?_append]
      cases rest.reverse.find? (Change.concerns k) with
      | some last => rfl
      | none =>
          rw [get?_perform, Option.none_or, List.find?_singleton]
          split <;> rfl

theorem Folded.performAll {w : Workspace} (h : Folded w) (changes : List Change) :
    Folded (performAll changes w) := by
  induction changes generalizing w with
  | nil => exact h
  | cons c rest ih => exact ih (h.perform c)

theorem folded_defaults {w : Workspace} (fresh : w.registry = defaults) : Folded w := by
  unfold Folded
  rw [fresh]
  decide +kernel

theorem get?_standing {w : Workspace} (fresh : w.registry = defaults) (changes : List Change)
    (k : String) : (performAll changes w).registry.get? k = standing changes k := by
  rw [get?_performAll, fresh]
  rfl

/-! ## The listed names -/

theorem mem_names {registry : OrderedMap String Factory} {k : String} :
    k ∈ names registry ↔ k ∈ registry.keys :=
  (List.mergeSort_perm _ _).mem_iff

theorem names_nodup (registry : OrderedMap String Factory) : (names registry).Nodup :=
  (List.mergeSort_perm _ _).nodup_iff.2 registry.distinct

/-- The names come in the order of their characters, each once. -/
theorem names_increasing (registry : OrderedMap String Factory) :
    (names registry).Pairwise (· < ·) := by
  have sorted : (names registry).Pairwise fun a b => (!decide (b < a)) = true := by
    refine List.pairwise_mergeSort (fun a b c hab hbc => ?_) (fun a b => ?_) _
    · simp only [Bool.not_eq_true', decide_eq_false_iff_not, String.not_lt] at hab hbc ⊢
      exact String.le_trans hab hbc
    · simp only [Bool.or_eq_true, Bool.not_eq_true', decide_eq_false_iff_not, String.not_lt]
      exact String.le_total a b
  refine (sorted.and (names_nodup registry)).imp fun {a b} ⟨notAfter, different⟩ => ?_
  simp only [Bool.not_eq_true', decide_eq_false_iff_not, String.not_lt] at notAfter
  exact Decidable.by_contra fun notBefore =>
    different (String.le_antisymm notAfter (String.not_lt.1 notBefore))

theorem names_eq {registry : OrderedMap String Factory} {ks : List String}
    (perm : registry.keys.Perm ks) (increasing : ks.Pairwise (· < ·)) : names registry = ks :=
  ((List.mergeSort_perm _ _).trans perm).eq_of_pairwise
    (fun _ _ _ _ less more => absurd more (String.lt_asymm less)) (names_increasing registry)
    increasing

/-! ## The laws -/

section

variable {A : Type} (make : Factory → Action Workspace A)

theorem catalogBy_congr {name name' : Value} (same : key name = key name') (w : Workspace) :
    catalogBy make name w = catalogBy make name' w := by
  unfold catalogBy
  rw [same]

theorem catalogBy_eq_none {name : Value} {w : Workspace} (absent : key name ∉ names w.registry) :
    catalogBy make name w = none := by
  unfold catalogBy
  rw [Option.map_eq_none_iff, ← Option.not_isSome_iff_eq_none, OrderedMap.isSome_get?_iff]
  exact fun there => absent (mem_names.2 there)

theorem catalogBy_standing {w : Workspace} (fresh : w.registry = defaults) (changes : List Change)
    (name : Value) :
    catalogBy make name (performAll changes w) = (standing changes (key name)).map make := by
  rw [catalogBy, get?_standing fresh]

theorem create_of_standing {w : Workspace} (fresh : w.registry = defaults)
    {changes : List Change} {name : Value} (written : name.isWritable = true) {factory : Factory}
    (stands : standing changes (key name) = some factory) :
    ((catalogBy make).create name).run (performAll changes w) =
      (make factory).run (performAll changes w) := by
  rw [Catalog.create_run, Catalog.lookup_of_written _ written, catalogBy_standing make fresh,
    stands]
  rfl

theorem create_of_unwritten {name : Value} (unwritten : name.isWritable = false) (w : Workspace) :
    ((catalogBy make).create name).run w = (.error .notWritable, w) := by
  rw [Catalog.create_run, Catalog.lookup_of_unwritten _ unwritten]

theorem isAvailableFrom_of_standing [Adapter A] {w : Workspace} (fresh : w.registry = defaults)
    {changes : List Change} {name : Value} (written : name.isWritable = true) {factory : Factory}
    (stands : standing changes (key name) = some factory) :
    (isAvailableFrom (catalogBy make) name).run (performAll changes w) =
      (askWith (make factory) fun a => withFirst a (probe name)).run (performAll changes w) := by
  unfold isAvailableFrom askWith
  rw [run_bind, run_bind, run_attempt, run_attempt,
    create_of_standing make fresh written stands]

theorem isAvailableFrom_of_unwritten [Adapter A] {name : Value}
    (unwritten : name.isWritable = false) (w : Workspace) :
    (isAvailableFrom (catalogBy make) name).run w = (.error .notWritable, w) := by
  unfold isAvailableFrom askWith
  rw [run_bind, run_attempt, create_of_unwritten make unwritten]
  rfl

theorem unregister_answer {w : Workspace} (fresh : w.registry = defaults) (changes : List Change)
    {name : Value} (written : name.isWritable = true) :
    ((unregister name).run (performAll changes w)).1 =
      .ok (standing changes (key name)).isSome := by
  rw [unregister_run written, get?_standing fresh]

theorem mem_names_iff_standing {w : Workspace} (fresh : w.registry = defaults)
    (changes : List Change) (k : String) :
    k ∈ names (performAll changes w).registry ↔ (standing changes k).isSome = true := by
  rw [mem_names, ← OrderedMap.isSome_get?_iff, get?_standing fresh]

/-- What calls have left on a fresh registry. A name finds the factory of the last registration
under it, unless it was removed since; then, and only then, no adapter is made. What cannot make
anything is not registered. Removing answers whether there was something, and removes nothing else.
The names are listed in order, each once, and each of them finds what it is listed for, whether an
adapter is to be made, is asked about, or is to be removed. A text is a name in all of this, and so
is anything else that can be written; what cannot is refused by each of these calls, which then
change nothing. -/
theorem found_as_registered [Adapter A] (changes : List Change) (w : Workspace)
    (fresh : w.registry = defaults) :
    let w' := performAll changes w
    (∀ s, (Value.text s).isWritable = true) ∧
      (∀ name, name.isWritable = true →
        (∀ factory, standing changes (key name) = some factory →
          ((catalogBy make).create name).run w' = (make factory).run w') ∧
        (standing changes (key name) = none →
          ∃ e, ((catalogBy make).create name).run w' = (.error e, w') ∧
            e.failureClass = .unavailable) ∧
        (∀ factory, ((register name (some factory)).run w').1 = .ok ()) ∧
        (∃ e, (register name none).run w' = (.error e, w') ∧ e.failureClass = .misuse) ∧
        ((unregister name).run w').1 = .ok (standing changes (key name)).isSome ∧
        ∀ k, ((unregister name).run w').2.registry.get? k =
          if key name = k then none else standing changes k) ∧
      (∀ name, name.isWritable = false →
        ((catalogBy make).create name).run w' = (.error .notWritable, w') ∧
        (isAvailableFrom (catalogBy make) name).run w' = (.error .notWritable, w') ∧
        (∀ factory, (register name factory).run w' = (.error .notWritable, w')) ∧
        (unregister name).run w' = (.error .notWritable, w')) ∧
      (names w'.registry).Pairwise (· < ·) ∧
      (∀ k, k ∈ names w'.registry ↔ (standing changes k).isSome) ∧
      ∀ k ∈ names w'.registry, key (.text k) = k ∧ ∃ factory,
        standing changes k = some factory ∧
        ((catalogBy make).create (.text k)).run w' = (make factory).run w' ∧
        (isAvailableFrom (catalogBy make) (.text k)).run w' =
          (askWith (make factory) fun a => withFirst a (probe (.text k))).run w' ∧
        ((unregister (.text k)).run w').1 = .ok true := by
  refine ⟨fun s => rfl, fun name written => ⟨fun factory => create_of_standing make fresh written,
      fun stands => ?_, fun factory => (register_run written factory _).1,
      ⟨_, rfl, ?_⟩, unregister_answer fresh changes written, fun k => ?_⟩,
    fun name unwritten => ⟨create_of_unwritten make unwritten _,
      isAvailableFrom_of_unwritten make unwritten _, run_of_unwritten unwritten _⟩,
    names_increasing _, mem_names_iff_standing fresh changes, fun k hk => ?_⟩
  · refine ⟨.notRegistered name.shown, ?_, rfl⟩
    rw [Catalog.create_run, Catalog.lookup_of_written _ written, catalogBy_standing make fresh,
      stands]
    rfl
  · rw [Failure.naming, if_pos written]
    rfl
  · rw [unregister_run written]
    show ((performAll changes w).registry.erase (key name)).get? k = _
    rw [OrderedMap.get?_erase, get?_standing fresh]
  · -- a listed name is folded, so it finds what is there under it
    have own : key (.text k) = k :=
      (folded_defaults fresh).performAll changes k (mem_names.1 hk)
    obtain ⟨factory, stands⟩ :=
      Option.isSome_iff_exists.1 ((mem_names_iff_standing fresh changes k).1 hk)
    have here : standing changes (key (.text k)) = some factory := by rw [own, stands]
    refine ⟨own, factory, stands, create_of_standing make fresh rfl here,
      isAvailableFrom_of_standing make fresh rfl here, ?_⟩
    rw [unregister_answer fresh changes rfl, here]
    rfl

end

namespace Sample

/-- Another solver under a name that is taken, nothing under a third name, and one name less. -/
def changes : List Change :=
  [.register (.text " Scip") (some .highs), .register (.text "scip") none,
    .unregister (.text "GLOP\n")]

def workspace : Workspace :=
  { LinearDispatch.Sample.workspace .binary with registry := defaults }

end Sample

theorem found_as_registered_sample :
    let w := performAll Sample.changes Sample.workspace
    (create (.text "SCIP")).run w = (Factory.make .highs).run w ∧
      ((unregister (.text "glop")).run w).1 = .ok false ∧
      "glop" ∉ names w.registry ∧ "scip" ∈ names w.registry ∧
      (isAvailable (.text "scip")).run w =
        (askWith (Factory.make .highs) fun a => withFirst a (probe (.text "scip"))).run w := by
  intro w
  obtain ⟨-, named, -, -, listed, usable⟩ :=
    found_as_registered Factory.make Sample.changes Sample.workspace rfl
  obtain ⟨found, -⟩ := named (.text "SCIP") rfl
  obtain ⟨-, -, -, -, removed, -⟩ := named (.text "glop") rfl
  have scip : standing Sample.changes "scip" = some .highs := rfl
  have glop : standing Sample.changes "glop" = none := rfl
  have there : "scip" ∈ names w.registry := (listed _).2 (by rw [scip]; rfl)
  obtain ⟨-, factory, stands, -, asked, -⟩ := usable _ there
  cases scip.symm.trans stands
  refine ⟨found _ scip, ?_, fun gone => ?_, there, asked⟩
  · rw [removed, show key (.text "glop") = "glop" from by decide +kernel, glop]
    rfl
  · cases (listed _).1 gone

end LinearDispatch.Registry
