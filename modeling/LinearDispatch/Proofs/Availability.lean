import Mathlib.Data.List.Nodup
import LinearDispatch.Proofs.Registrations
import LinearDispatch.Proofs.Returns

/-!
# Asking for backends

Whether a backend is there is found out by making it, starting it and closing it again, and the
registered backends that are there are listed by asking for one after the other. A backend that
cannot be reached is no failure. Every other failure is: of its maker, of its start, and any failure
to close it. It ends the listing, so one backend can hide all others.

`Asked` lists the ways of one question and `Listed` those of a listing, each with the calls made on
that way. The calls are observed, as those of a solve are, by asking for watched adapters; that
changes nothing. `available_exact` says what a listing is worth: where it returns, and for any
backends, its names are exactly the usable ones.
-/

namespace LinearDispatch

open LinearDispatch.Action Workspace

/-- The failure of a call that a question does not keep to itself. -/
def Entry.letOut : Entry → Option Failure
  | create (.error e) | start _ (.error e) => if e.isUnavailable then none else some e
  | close (.error e) => some e
  | _ => none

/-- Puts the question to an adapter whose calls are entered behind those made so far. -/
def Watched.ask {A : Type} [Adapter A] (name : Value) (adapter : A) :
    Action (List Entry × Workspace) Bool :=
  fun s =>
    let (r, t) := Registry.probe (A := Watched A) name (⟨adapter, s.1⟩, s.2)
    (r, (t.1.ledger, t.2))

namespace Registry

variable {A : Type} [Adapter A]

/-- Asks for a backend; the calls are entered into a ledger. -/
def isAvailableWatched (catalog : Catalog Workspace A) (name : Value) :
    Action (List Entry × Workspace) Bool :=
  askWith ((Watched.catalog catalog).create name) (Watched.ask name)

/-- The calls that a listing makes, in order: on the factories, and on the adapters that they
make. -/
def ledger (catalog : Catalog Workspace A) (w : Workspace) : List Entry :=
  ((listWith (isAvailableWatched catalog)).run ([], w)).2.1

/-- What comes of making the backend under a name, and of starting it with default parameters:
there may be none, and it may not be made. -/
def opening (catalog : Catalog Workspace A) (name : Value) (w : Workspace) :
    Option (Except Failure (Except Failure Unit)) :=
  (catalog name w).map fun make =>
    match make.run w with
    | (.ok a, w') => .ok ((Adapter.start (.proper .default)).run (a, w')).1
    | (.error e, _) => .error e

/-- The backend under a name can be made and started. -/
def Usable (catalog : Catalog Workspace A) (name : Value) (w : Workspace) : Prop :=
  opening catalog name w = some (.ok (.ok ()))

instance (catalog : Catalog Workspace A) (name : Value) (w : Workspace) :
    Decidable (Usable catalog name w) :=
  inferInstanceAs (Decidable (opening catalog name w = some (.ok (.ok ()))))

/-- The names that a listing comes to, each with the workspace that it finds. -/
def visits (ask : Value → Action Workspace Bool) :
    List String → Workspace → List (String × Workspace)
  | [], _ => []
  | name :: rest, w =>
    (name, w) ::
      match (ask (.text name)).run w with
      | (.ok _, w') => visits ask rest w'
      | (.error _, _) => []

/-! ## One question -/

/-- The answer of a backend that was made, from how its start and its close ended. -/
def answerOf : Except Failure Unit → Except Failure Unit → Except Failure Bool
  | _, .error e => .error e
  | .ok (), .ok () => .ok true
  | .error e, .ok () => if e.isUnavailable then .ok false else .error e

/-- The ways of a question: the calls that are made, and the answer. -/
inductive Asked (catalog : Catalog Workspace A) (name : Value) (w : Workspace) :
    List Entry → Except Failure Bool → Prop
  /-- there is no such backend -/
  | unknown (opens : opening catalog name w = none) : Asked catalog name w [] (.ok false)
  /-- the maker finds that the backend cannot be reached -/
  | unreachable {e : Failure} (opens : opening catalog name w = some (.error e))
      (caught : e.isUnavailable = true) : Asked catalog name w [.create (.error e)] (.ok false)
  /-- the maker fails in another way -/
  | unmade {e : Failure} (opens : opening catalog name w = some (.error e))
      (missed : e.isUnavailable = false) : Asked catalog name w [.create (.error e)] (.error e)
  /-- the backend is started and closed -/
  | tried {started closed : Except Failure Unit}
      (opens : opening catalog name w = some (.ok started)) :
      Asked catalog name w
        [.create (.ok ()), .start (.proper .default) started, .close closed]
        (answerOf started closed)

/-- A watched adapter is closed, and what was to be answered is answered if that works. -/
theorem close_run (a : A) (l : List Entry) (w : Workspace) (r : Except Failure Bool) :
    ∃ closed t,
      (do Adapter.close; Action.ofExcept r : Action (Watched A × Workspace) Bool).run (⟨a, l⟩, w) =
        (closed.bind fun _ => r, t) ∧ t.1.ledger = l ++ [.close closed] := by
  rw [run_bind, Watched.close_run]
  obtain ⟨closed, a₁, w₁⟩ := (Adapter.close (A := A)).run (a, w)
  cases closed with
  | ok => exact ⟨.ok (), (⟨a₁, l ++ [.close (.ok ())]⟩, w₁), rfl, rfl⟩
  | error e => exact ⟨.error e, (⟨a₁, l ++ [.close (.error e)]⟩, w₁), rfl, rfl⟩

/-- A question to a watched adapter starts it and closes it, and answers by how that ended. -/
theorem probe_run (name : Value) (a : A) (l : List Entry) (w : Workspace) :
    ∃ closed t,
      (probe (A := Watched A) name).run (⟨a, l⟩, w) =
        (answerOf ((Adapter.start (.proper .default)).run (a, w)).1 closed, t) ∧
      t.1.ledger = l ++ [.start (.proper .default)
        ((Adapter.start (.proper .default)).run (a, w)).1, .close closed] := by
  unfold probe
  rw [run_bind, run_attempt, Watched.start_run]
  obtain ⟨started, a₁, w₁⟩ := (Adapter.start (A := A) (.proper .default)).run (a, w)
  dsimp only
  cases started with
  | ok =>
      obtain ⟨closed, t, ran, written⟩ :=
        close_run a₁ (l ++ [.start (.proper .default) (.ok ())]) w₁ (.ok true)
      refine ⟨closed, t, ran.trans ?_, written.trans (List.append_assoc ..)⟩
      cases closed <;> rfl
  | error e =>
      dsimp only
      split
      · next caught =>
          rw [run_bind, run_liftM, run_logShowing]
          obtain ⟨closed, t, ran, written⟩ := close_run a₁
            (l ++ [.start (.proper .default) (.error e)])
            ((logShowing [name] .registry .debug ("Backend '" ++ name.shown ++
              "' unavailable: " ++ e.message)).run w₁).2 (.ok false)
          refine ⟨closed, t, Eq.trans ran ?_, written.trans (List.append_assoc ..)⟩
          cases closed with
          | ok => exact congrArg (·, t) (if_pos caught).symm
          | error => rfl
      · next missed =>
          obtain ⟨closed, t, ran, written⟩ :=
            close_run a₁ (l ++ [.start (.proper .default) (.error e)]) w₁ (.error e)
          refine ⟨closed, t, Eq.trans ran ?_, written.trans (List.append_assoc ..)⟩
          cases closed with
          | ok => exact congrArg (·, t) (if_neg missed).symm
          | error => rfl

theorem probe_follows {B : Type} [Adapter B] {f : A → B} (h : Adapter.Carries f) (name : Value) :
    Follows (Adapter.carry f) (probe (A := A) name) (probe (A := B) name) := by
  refine follows_bind (follows_attempt (h.start _)) fun started => ?_
  cases started with
  | ok => exact follows_bind h.close fun _ => follows_pure true
  | error e =>
      dsimp only
      split
      · refine follows_bind (follows_onSecond _ _) fun _ => ?_
        exact follows_bind h.close fun _ => follows_pure false
      · exact follows_bind h.close fun _ => follows_fail e

/-- Entering the calls changes nothing. -/
theorem isAvailableWatched_follows (catalog : Catalog Workspace A) (name : Value) :
    Follows Prod.snd (isAvailableWatched catalog name) (isAvailableFrom catalog name) := by
  refine follows_bind (follows_attempt (Watched.create_follows catalog name)) fun made => ?_
  cases made with
  | error e =>
      dsimp only
      split
      · exact follows_pure false
      · exact follows_fail e
  | ok adapter =>
      intro s
      have h := probe_follows Watched.carries name (⟨adapter, s.1⟩, s.2)
      exact congrArg (fun r => (r.1, r.2.2)) h

/-- Every question goes one of the ways. -/
theorem exists_asked (catalog : Catalog Workspace A) {name : Value}
    (written : name.isWritable = true) (l : List Entry) (w : Workspace) :
    ∃ calls, ((isAvailableWatched catalog name).run (l, w)).2.1 = l ++ calls ∧
      Asked catalog name w calls ((isAvailableFrom catalog name).run w).1 := by
  have follows := congrArg Prod.fst (isAvailableWatched_follows catalog name (l, w))
  rw [← show _ = ((isAvailableFrom catalog name).run w).1 from follows]
  unfold isAvailableWatched askWith
  rw [run_bind, run_attempt, Watched.create_run, Catalog.lookup_of_written catalog written]
  cases found : catalog name w with
  | none =>
      have opens : opening catalog name w = none := by rw [opening, found]; rfl
      exact ⟨[], (List.append_nil l).symm, .unknown opens⟩
  | some make =>
      dsimp only
      rw [Watched.make_run]
      cases ran : make.run w with
      | mk made w₁ =>
          cases made with
          | error e =>
              have opens : opening catalog name w = some (.error e) := by
                rw [opening, found, Option.map_some, ran]
              dsimp only
              split
              · next caught => exact ⟨_, rfl, .unreachable opens caught⟩
              · next missed => exact ⟨_, rfl, .unmade opens (by simpa using missed)⟩
          | ok a =>
              have opens : opening catalog name w =
                  some (.ok ((Adapter.start (.proper .default)).run (a, w₁)).1) := by
                rw [opening, found, Option.map_some, ran]
              obtain ⟨closed, t, answers, written⟩ :=
                probe_run name a (l ++ [.create (.ok ())]) w₁
              have asks : (Watched.ask name a).run (l ++ [.create (.ok ())], w₁) =
                  (answerOf ((Adapter.start (.proper .default)).run (a, w₁)).1 closed,
                    t.1.ledger, t.2) :=
                congrArg (fun r => (r.1, r.2.1.ledger, r.2.2)) answers
              refine ⟨_, ?_, (congrArg (Asked catalog name w _) (congrArg Prod.fst asks)).mpr
                (.tried opens)⟩
              exact (congrArg (fun r => r.2.1) asks).trans
                (written.trans (List.append_assoc ..))

/-- A question is answered with yes exactly if start and close both work. -/
theorem probe_eq_true {name : Value} {s s' : A × Workspace} :
    (probe name).run s = (.ok true, s') ↔
      ∃ t, (Adapter.start (.proper .default)).run s = (.ok (), t) ∧
        Adapter.close.run t = (.ok (), s') := by
  unfold probe
  rw [run_bind_eq_ok]
  constructor
  · rintro ⟨started, t, ran, answers⟩
    have starts := run_attempt_eq_ok.1 ran
    cases started with
    | ok =>
        obtain ⟨⟨⟩, t', closes, ⟨⟩⟩ := run_bind_eq_ok.1 answers
        exact ⟨t, starts, closes⟩
    | error e =>
        dsimp only at answers
        split at answers
        · obtain ⟨_, _, -, closes⟩ := run_bind_eq_ok.1 answers
          obtain ⟨_, _, -, ⟨⟩⟩ := run_bind_eq_ok.1 closes
        · obtain ⟨_, _, -, ⟨⟩⟩ := run_bind_eq_ok.1 answers
  · rintro ⟨t, starts, closes⟩
    exact ⟨.ok (), t, run_attempt_eq_ok.2 starts, run_bind_eq_ok.2 ⟨(), s', closes, rfl⟩⟩

/-- The answer is yes exactly if the backend can be made, started and closed. Of the name, only
what it finds matters. -/
theorem isAvailableFrom_eq_true {catalog : Catalog Workspace A} {name : Value} {w w' : Workspace} :
    (isAvailableFrom catalog name).run w = (.ok true, w') ↔
      ∃ make a w₁ t b, catalog.lookup name w = .ok (some make) ∧ make.run w = (.ok a, w₁) ∧
        (Adapter.start (.proper .default)).run (a, w₁) = (.ok (), t) ∧
        Adapter.close.run t = (.ok (), b, w') := by
  unfold isAvailableFrom askWith
  rw [run_bind, run_attempt, Catalog.create_run]
  cases catalog.lookup name w with
  | error e =>
      constructor
      · dsimp only
        intro yes
        split at yes <;> cases yes
      · rintro ⟨_, _, _, _, _, ⟨⟩, -⟩
  | ok maker =>
    cases maker with
    | none =>
      constructor
      · dsimp only
        intro yes
        split at yes <;> cases yes
      · rintro ⟨_, _, _, _, _, ⟨⟩, -⟩
    | some make =>
      dsimp only
      cases ran : make.run w with
      | mk made w₁ =>
          cases made with
          | error e =>
              dsimp only
              constructor
              · split <;> nofun
              · rintro ⟨_, _, _, _, _, ⟨⟩, makes, -⟩
                cases ran.symm.trans makes
          | ok a =>
              dsimp only
              constructor
              · intro yes
                obtain ⟨b, probes⟩ := run_withFirst_eq.1 yes
                obtain ⟨t, starts, closes⟩ := probe_eq_true.1 probes
                exact ⟨make, a, w₁, t, b, rfl, ran, starts, closes⟩
              · rintro ⟨_, _, _, t, b, ⟨⟩, makes, starts, closes⟩
                cases ran.symm.trans makes
                exact run_withFirst_eq.2 ⟨b, probe_eq_true.2 ⟨t, starts, closes⟩⟩

section

variable {catalog : Catalog Workspace A} {name : Value} {w : Workspace} {l : List Entry}
  {r : Except Failure Bool}

/-- A question fails with the last failure that its calls do not keep to themselves. -/
theorem Asked.letOut (h : Asked catalog name w l r) :
    l.reverse.findSome? Entry.letOut = failureOf r := by
  cases h with
  | unknown opens => rfl
  | unreachable opens caught => simp [Entry.letOut, failureOf, caught]
  | unmade opens missed => simp [Entry.letOut, failureOf, missed]
  | @tried started closed opens =>
      cases closed with
      | error e => rfl
      | ok =>
          cases started with
          | ok => rfl
          | error e =>
              cases caught : e.isUnavailable <;>
                simp [List.findSome?, Entry.letOut, answerOf, failureOf, caught]

/-- An answer says whether the backend is usable. -/
theorem Asked.answer {b : Bool} (h : Asked catalog name w l r) (answers : r = .ok b) :
    b = decide (Usable catalog name w) := by
  cases h with
  | unknown opens =>
      cases answers
      simp [Usable, opens]
  | unreachable opens caught =>
      cases answers
      simp [Usable, opens]
  | unmade opens missed => cases answers
  | @tried started closed opens =>
      cases closed with
      | error e => cases answers
      | ok =>
          cases started with
          | ok =>
              cases answers
              simp [Usable, opens]
          | error e =>
              unfold answerOf at answers
              dsimp only at answers
              split at answers
              · cases answers
                simp [Usable, opens]
              · cases answers

end

/-! ## A listing -/

section

variable {σ : Type} {ask : Value → Action σ Bool} {k : String} {s s' : σ}

theorem keepNames_cons_of_ok {b : Bool} (first : (ask (.text k)).run s = (.ok b, s'))
    (rest : List String) :
    (keepNames ask (k :: rest)).run s =
      (((keepNames ask rest).run s').1.map fun found => if b then k :: found else found,
        ((keepNames ask rest).run s').2) := by
  have step : (do let ok ← ask (.text k); pure (k, ok) : Action σ (String × Bool)).run s =
      (.ok (k, b), s') := by
    rw [run_bind, first]
    rfl
  unfold keepNames
  rw [run_bind, @run_forEach_cons_of_ok _ _ _ (fun k => do let ok ← ask (.text k); pure (k, ok))
    k (k, b) s s' step rest, run_bind]
  cases (forEach _ rest).run s' with
  | mk answers t =>
      cases answers with
      | error e => rfl
      | ok answers => cases b <;> rfl

theorem keepNames_cons_of_error {e : Failure} (first : (ask (.text k)).run s = (.error e, s'))
    (rest : List String) : (keepNames ask (k :: rest)).run s = (.error e, s') := by
  have step : (do let ok ← ask (.text k); pure (k, ok) : Action σ (String × Bool)).run s =
      (.error e, s') := by
    rw [run_bind, first]
  unfold keepNames
  rw [run_bind, @run_forEach_cons_of_error _ _ _
    (fun k => do let ok ← ask (.text k); pure (k, ok)) k e s s' step rest]

end

/-- The ways of a listing: the names that it comes to, the calls made for each of them, all names,
and what it ends with. -/
inductive Listed (catalog : Catalog Workspace A) : List (String × Workspace) →
    List (List Entry) → List String → Except Failure (List String) → Prop
  | done : Listed catalog [] [] [] (.ok [])
  | ended {k : String} {w : Workspace} {calls : List Entry} {e : Failure} {rest : List String}
      (asked : Asked catalog (.text k) w calls (.error e)) :
      Listed catalog [(k, w)] [calls] (k :: rest) (.error e)
  | next {k : String} {w : Workspace} {calls : List Entry} {b : Bool} {rest : List String}
      {visited : List (String × Workspace)} {blocks : List (List Entry)}
      {r : Except Failure (List String)}
      (answers : ((isAvailableFrom catalog (.text k)).run w).1 = .ok b)
      (asked : Asked catalog (.text k) w calls (.ok b))
      (further : Listed catalog visited blocks rest r) :
      Listed catalog ((k, w) :: visited) (calls :: blocks) (k :: rest)
        (r.map fun found => if b then k :: found else found)

/-- Every listing goes one of the ways. -/
theorem exists_listed (catalog : Catalog Workspace A) (ks : List String) (l : List Entry)
    (w : Workspace) :
    ∃ blocks,
      ((keepNames (isAvailableWatched catalog) ks).run (l, w)).2.1 = l ++ blocks.flatten ∧
      Listed catalog (visits (isAvailableFrom catalog) ks w) blocks ks
        ((keepNames (isAvailableFrom catalog) ks).run w).1 := by
  induction ks generalizing l w with
  | nil => exact ⟨[], (List.append_nil l).symm, .done⟩
  | cons k rest ih =>
      obtain ⟨calls, written, asked⟩ := @exists_asked _ _ catalog (.text k) rfl l w
      have follows := isAvailableWatched_follows catalog (.text k) (l, w)
      cases ran : (isAvailableFrom catalog (.text k)).run w with
      | mk answer w' =>
          have watched : (isAvailableWatched catalog (.text k)).run (l, w) =
              (answer, l ++ calls, w') := by
            rw [ran] at follows
            have answered : ((isAvailableWatched catalog (.text k)).run (l, w)).1 = answer :=
              congrArg Prod.fst follows
            have left : ((isAvailableWatched catalog (.text k)).run (l, w)).2.2 = w' :=
              congrArg Prod.snd follows
            exact Prod.ext answered (Prod.ext written left)
          rw [ran] at asked
          rw [visits, ran]
          cases answer with
          | error e =>
              rw [keepNames_cons_of_error watched, keepNames_cons_of_error ran]
              exact ⟨[calls], by simp, .ended asked⟩
          | ok b =>
              obtain ⟨blocks, later, listed⟩ := ih (l ++ calls) w'
              rw [keepNames_cons_of_ok watched, keepNames_cons_of_ok ran]
              refine ⟨calls :: blocks, ?_, .next (congrArg Prod.fst ran) asked listed⟩
              rw [later, List.flatten_cons, List.append_assoc]

namespace Listed

variable {catalog : Catalog Workspace A} {visited : List (String × Workspace)}
  {blocks : List (List Entry)} {ks : List String} {r : Except Failure (List String)}

theorem asked (h : Listed catalog visited blocks ks r) :
    List.Forall₂ (fun p calls => ∃ answer, Asked catalog (.text p.1) p.2 calls answer)
      visited blocks := by
  induction h with
  | done => exact .nil
  | ended asked => exact .cons ⟨_, asked⟩ .nil
  | next _ asked _ ih => exact .cons ⟨_, asked⟩ ih

/-- A listing fails with the last failure that its calls do not keep to themselves. -/
theorem letOut (h : Listed catalog visited blocks ks r) :
    blocks.flatten.reverse.findSome? Entry.letOut = failureOf r := by
  induction h with
  | done => rfl
  | ended asked => simpa [failureOf] using asked.letOut
  | @next _ _ calls b _ _ _ r answers asked further ih =>
      rw [List.flatten_cons, List.reverse_append, List.findSome?_append, ih, asked.letOut]
      cases r <;> rfl

/-- A listing that returns comes to all names, and finds those of the usable backends. -/
theorem returned (h : Listed catalog visited blocks ks r) :
    ∀ found, r = .ok found →
      visited.map Prod.fst = ks ∧
      found = (visited.filter fun p => Usable catalog (.text p.1) p.2).map Prod.fst ∧
      ∀ p ∈ visited, ((isAvailableFrom catalog (.text p.1)).run p.2).1 =
        .ok (decide (Usable catalog (.text p.1) p.2)) := by
  induction h with
  | done =>
      rintro found ⟨⟩
      exact ⟨rfl, rfl, fun _ mem => absurd mem List.not_mem_nil⟩
  | ended => rintro found ⟨⟩
  | @next k w calls b rest visited blocks r answers asked further ih =>
      intro found returns
      cases r with
      | error e => cases returns
      | ok later =>
          cases returns
          obtain ⟨all, usable, answered⟩ := ih later rfl
          have here := asked.answer rfl
          refine ⟨congrArg (k :: ·) all, ?_, fun p hp => ?_⟩
          · rw [List.filter_cons, ← here, usable]
            cases b <;> rfl
          · rcases List.mem_cons.1 hp with rfl | hp
            · rw [answers, here]
            · exact answered p hp

/-- Of names that are all different, a listing finds those whose backends are usable where it comes
to them. -/
theorem mem_found_iff (h : Listed catalog visited blocks ks r) (distinct : ks.Nodup)
    {found : List String} (returns : r = .ok found) {p : String × Workspace} (hp : p ∈ visited) :
    p.1 ∈ found ↔ Usable catalog (.text p.1) p.2 := by
  obtain ⟨all, usable, -⟩ := h.returned found returns
  have once : (visited.map Prod.fst).Nodup := all ▸ distinct
  rw [usable]
  constructor
  · intro among
    obtain ⟨q, hq, eq⟩ := List.mem_map.1 among
    obtain ⟨there, works⟩ := List.mem_filter.1 hq
    obtain rfl : q = p := List.inj_on_of_nodup_map once there hp eq
    exact of_decide_eq_true works
  · intro works
    exact List.mem_map_of_mem (List.mem_filter.2 ⟨hp, decide_eq_true works⟩)

end Listed

/-! ## What a listing is worth -/

/-- Names that find the same are answered yes for the same backends. -/
theorem isAvailableFrom_congr {catalog : Catalog Workspace A} {name name' : Value} {w : Workspace}
    (same : catalog.lookup name w = catalog.lookup name' w) :
    ((isAvailableFrom catalog name).run w).1 = .ok true ↔
      ((isAvailableFrom catalog name').run w).1 = .ok true := by
  suffices h : ∀ w', (isAvailableFrom catalog name).run w = (.ok true, w') ↔
      (isAvailableFrom catalog name').run w = (.ok true, w') from
    ⟨fun yes => congrArg Prod.fst ((h _).1 (Prod.ext yes rfl)),
      fun yes => congrArg Prod.fst ((h _).2 (Prod.ext yes rfl))⟩
  intro w'
  rw [isAvailableFrom_eq_true, isAvailableFrom_eq_true, same]

theorem isAvailableFrom_of_absent {catalog : Catalog Workspace A} {name : Value} {w : Workspace}
    (absent : catalog.lookup name w = .ok none) :
    (isAvailableFrom catalog name).run w = (.ok false, w) := by
  unfold isAvailableFrom askWith
  rw [run_bind, run_attempt, Catalog.create_run, absent]
  rfl

/-- What a listing of the registered backends calls and finds. Its calls are those of one question
after the other. It fails with the last failure that its calls do not keep to themselves, and only
then. Otherwise it has come to every registered name and finds, in order, those of the backends that
can be made and started; a name is found exactly if the answer is yes for it, however it is
written. For a name that is not registered the answer is no. Texts are names, and whatever else can
be written; the question fails for what cannot. -/
theorem available_exact (make : Factory → Action Workspace A) (w : Workspace) (folded : Folded w) :
    let catalog := catalogBy make
    let visited := visits (isAvailableFrom catalog) (names w.registry) w
    (∃ blocks, ledger catalog w = blocks.flatten ∧
        List.Forall₂ (fun p calls => ∃ answer, Asked catalog (.text p.1) p.2 calls answer)
          visited blocks) ∧
      (∀ e, ((availableFrom catalog).run w).1 = .error e ↔
        (ledger catalog w).reverse.findSome? Entry.letOut = some e) ∧
      (∀ found, ((availableFrom catalog).run w).1 = .ok found →
        visited.map Prod.fst = names w.registry ∧
        found = (visited.filter fun p => Usable catalog (.text p.1) p.2).map Prod.fst ∧
        found.Pairwise (· < ·) ∧
        ∀ p ∈ visited, ∀ name, name.isWritable = true → key name = p.1 →
          (((isAvailableFrom catalog name).run p.2).1 = .ok true ↔ p.1 ∈ found)) ∧
      (∀ name, name.isWritable = true → key name ∉ names w.registry →
        (isAvailableFrom catalog name).run w = (.ok false, w)) ∧
      (∀ name, name.isWritable = false →
        (isAvailableFrom catalog name).run w = (.error .notWritable, w)) ∧
      ∀ s, (Value.text s).isWritable = true := by
  intro catalog visited
  obtain ⟨blocks, written, listed⟩ := exists_listed catalog (names w.registry) [] w
  have entered : ledger catalog w = blocks.flatten := written
  have listed : Listed catalog visited blocks (names w.registry)
      ((availableFrom catalog).run w).1 := listed
  refine ⟨⟨blocks, entered, listed.asked⟩, fun e => ?_, fun found returns => ?_,
    fun name written absent => isAvailableFrom_of_absent ?_,
    fun name unwritten => isAvailableFrom_of_unwritten make unwritten w, fun s => rfl⟩
  · rw [entered, listed.letOut]
    cases ((availableFrom catalog).run w).1 <;> simp [failureOf]
  · obtain ⟨all, usable, answered⟩ := listed.returned found returns
    refine ⟨all, usable, ?_, fun p hp name written same => ?_⟩
    · rw [usable]
      refine List.Pairwise.sublist (List.filter_sublist.map _) ?_
      rw [all]
      exact names_increasing w.registry
    · have own : key (.text p.1) = p.1 :=
        folded p.1 (mem_names.1 (all ▸ List.mem_map_of_mem hp))
      have finds : catalog.lookup name p.2 = catalog.lookup (.text p.1) p.2 := by
        rw [Catalog.lookup_of_written catalog written,
          @Catalog.lookup_of_written _ (.text p.1) _ catalog rfl]
        exact congrArg Except.ok (catalogBy_congr make (same.trans own.symm) p.2)
      rw [isAvailableFrom_congr finds, answered p hp,
        listed.mem_found_iff (names_nodup w.registry) returns hp, Except.ok.injEq,
        decide_eq_true_iff]
  · rw [Catalog.lookup_of_written _ written]
    exact congrArg Except.ok (catalogBy_eq_none make absent)

namespace Sample

/-- One backend that cannot be made, and one that works. -/
def mixed (failure : Failure) : Workspace :=
  let broken : AdapterCall → Option Failure
    | .create => some failure
    | _ => none
  { LinearDispatch.Sample.workspace .continuous with
    registry := .ofList [("works", .scripted (LinearDispatch.Sample.script fun _ => none)),
      ("broken", .scripted (LinearDispatch.Sample.script broken))] }

end Sample

theorem Sample.names_mixed (failure : Failure) :
    names (Sample.mixed failure).registry = ["broken", "works"] :=
  names_eq (.swap ..) (by decide +kernel)

theorem available_exact_mixed :
    let w := Sample.mixed (.foreign .unavailable "no adapter")
    (available.run w).1 = .ok ["works"] ∧
      (∀ e, (ledger catalog w).reverse.findSome? Entry.letOut ≠ some e) ∧
      ∃ p ∈ visits isAvailable (names w.registry) w,
        ((isAvailable (.text " Works")).run p.2).1 = .ok true := by
  intro w
  have folded : Folded w := by
    unfold Folded
    decide +kernel
  obtain ⟨-, fails, returned, -⟩ := available_exact Factory.make w folded
  have returns : (available.run w).1 = .ok ["works"] := by
    show ((keepNames isAvailable _).run _).1 = _
    rw [Sample.names_mixed]
    decide +kernel
  obtain ⟨all, -, -, answers⟩ := returned _ returns
  have listed : "works" ∈ (visits isAvailable (names w.registry) w).map Prod.fst :=
    all.symm ▸ (Sample.names_mixed _).symm ▸ by decide
  obtain ⟨p, hp, own⟩ := List.mem_map.1 listed
  have same : key (.text " Works") = p.1 := own ▸ by decide +kernel
  refine ⟨returns, fun e failed => ?_, p, hp,
    (answers p hp _ rfl same).2 (List.mem_singleton.2 own)⟩
  cases ((fails e).2 failed).symm.trans returns

/-- A maker that fails in a way of its own hides the backend that works. -/
theorem available_hidden :
    let w := Sample.mixed (.foreign .runtime "no adapter")
    (available.run w).1 = .error (.foreign .runtime "no adapter") ∧
      Usable catalog (.text "works") w := by
  refine ⟨?_, by decide +kernel⟩
  show ((keepNames isAvailable _).run _).1 = _
  rw [Sample.names_mixed]
  decide +kernel

end Registry

end LinearDispatch
