import LinearDispatch.Proofs.Course

/-!
# The order of calls

An adapter is written against a fixed order of calls: it is started, handed every column, every
row and the objective, told to solve, asked for the values and the objective value, and closed.
This file proves that a solve keeps that order, whatever the adapter does in between, and that an
adapter which was started is closed exactly once, as the last thing that happens to it.

Two calls stand beside the order: the making of the adapter, which comes before everything else,
and the question for its version, which the solve asks once it is started and only for its log.
`Protocol` has them in their places and `steps` leaves them out.
-/

namespace LinearDispatch

/-- The reasons for which a conversation about a problem with so many columns ends with a call. -/
inductive Ends (columns : Nat) : Entry → Prop
  | failed {x : Entry} {e : Failure} (fails : x.failure? = some e) : Ends columns x
  | unusable {status : Status} (bad : status.usable = false) :
      Ends columns (.solve (.ok (.proper status)))
  | misfit {raw : Value} {values : List Float} (read : Dispatch.readValues raw = .ok values)
      (bad : values.length ≠ columns) : Ends columns (.values (.ok raw))
  | through (raw : Value) : Ends columns (.objectiveValue (.ok raw))

/-- The shapes that the calls of a solve can have. -/
inductive Protocol {A : Type} [Adapter A] (catalog : Catalog Workspace A)
    (program : Given (Ref Program)) (parameters : Given Parameters) (backend : Value)
    (w : Workspace) : List Entry → Prop
  /-- the check fails, or nothing is found under the name: nothing is made -/
  | untouched (why : Model.defectMessages w.models program ≠ .ok [] ∨
        ∀ make, catalog.lookup backend w ≠ .ok (some make)) :
      Protocol catalog program parameters backend w []
  /-- no adapter comes of it -/
  | unmade {problem : Problem} {e : Failure}
      (made : Made catalog program backend w problem (.error e)) :
      Protocol catalog program parameters backend w [.create (.error e)]
  /-- the adapter is not for columns of whole values and the problem has some: nothing is asked
  of it -/
  | refused {problem : Problem} {adapter : A}
      (made : Made catalog program backend w problem (.ok adapter))
      (whole : problem.hasInteger = true) (lacks : Adapter.supportsInteger adapter ≠ .ok true) :
      Protocol catalog program parameters backend w [.create (.ok ())]
  /-- the calls follow the agenda up to the first one that ends it, and a close is the last -/
  | driven {problem : Problem} {adapter : A} {done : List Entry} {last : Entry}
      {closed : Except Failure Unit}
      (accepted : Accepted catalog program backend w problem adapter)
      (order : InOrder (agenda problem parameters) problem.columns.length done last)
      (ends : Ends problem.columns.length last) :
      Protocol catalog program parameters backend w
        (.create (.ok ()) :: (done ++ [last] ++ [.close closed]))

theorem Conversation.ends {problem : Problem} {parameters : Given Parameters} {backend : Value}
    {talk : List Entry} {ended : Except Failure Outcome}
    (h : Conversation problem parameters backend talk ended) :
    ∃ done last, talk = done ++ [last] ∧
      InOrder (agenda problem parameters) problem.columns.length done last ∧
      Ends problem.columns.length last := by
  cases h with
  | failed order fails => exact ⟨_, _, rfl, order, .failed fails⟩
  | unusable order bad => exact ⟨_, _, rfl, order, .unusable bad⟩
  | misfit order read bad => exact ⟨_, _, rfl, order, .misfit read bad⟩
  | solved order => exact ⟨_, _, rfl, order, .through _⟩

theorem Course.protocol {A : Type} [Adapter A] {catalog : Catalog Workspace A}
    {program : Given (Ref Program)} {parameters : Given Parameters} {backend : Value}
    {w : Workspace} {l : List Entry} {r : Except Failure Outcome}
    (h : Course catalog program parameters backend w l r) :
    Protocol catalog program parameters backend w l := by
  cases h with
  | unchecked check => exact .untouched (.inl (by rw [check]; nofun))
  | invalid check found => exact .untouched (.inl (by rw [check]; simpa using found))
  | unnamed sound unwritten => exact .untouched (.inr fun make => by rw [unwritten]; nofun)
  | unknown sound absent => exact .untouched (.inr fun make => by rw [absent]; nofun)
  | unavailable made caught => exact .unmade made
  | unmade made missed => exact .unmade made
  | unasked made whole asked => exact .refused made whole (by rw [asked]; nofun)
  | refused made whole lacks => exact .refused made whole (by rw [lacks]; nofun)
  | driven accepted made drive conversation told =>
      obtain ⟨done, last, rfl, order, ends⟩ := conversation.ends
      exact .driven accepted order ends

/-! ## The steps on the adapter -/

/-- The steps that an adapter is written against, as long as nothing ends them. -/
def callSequence (problem : Problem) (parameters : Given Parameters) : List Request :=
  .start parameters :: (problem.parts.map .give ++ [.solve, .values, .objectiveValue])

/-- A call is a step on an adapter. Making it is none, and neither is asking for its version. -/
def Request.isStep : Request → Bool
  | create | version => false
  | start _ | give _ | solve | values | objectiveValue | close => true

def steps (l : List Entry) : List Request :=
  (l.map Entry.request).filter Request.isStep

theorem steps_append (l l' : List Entry) : steps (l ++ l') = steps l ++ steps l' := by
  unfold steps
  rw [List.map_append, List.filter_append]

theorem filter_agenda (problem : Problem) (parameters : Given Parameters) :
    (agenda problem parameters).filter Request.isStep = callSequence problem parameters := by
  have parts : ∀ ps : List Part, (ps.map Request.give).filter Request.isStep = ps.map .give := by
    intro ps
    refine List.filter_eq_self.2 fun q hq => ?_
    obtain ⟨part, -, rfl⟩ := List.mem_map.1 hq
    rfl
  unfold agenda callSequence
  rw [List.filter_append, List.filter_append, parts]
  rfl

/-- A conversation takes steps from the first one on, and at least that one. -/
theorem InOrder.steps {problem : Problem} {parameters : Given Parameters} {columns : Nat}
    {done : List Entry} {last : Entry}
    (h : InOrder (agenda problem parameters) columns done last) :
    LinearDispatch.steps (done ++ [last]) ≠ [] ∧
      LinearDispatch.steps (done ++ [last]) <+: callSequence problem parameters := by
  constructor
  · obtain ⟨rest, hrest⟩ := h.asked
    cases hl : (done ++ [last]).map Entry.request with
    | nil => simp at hl
    | cons q qs =>
        rw [hl] at hrest
        obtain rfl : q = .start parameters := (List.cons.inj hrest).1
        unfold LinearDispatch.steps
        rw [hl]
        exact List.cons_ne_nil _ _
  · rw [← filter_agenda]
    exact h.asked.filter Request.isStep

theorem InOrder.create_not_mem {problem : Problem} {parameters : Given Parameters} {columns : Nat}
    {done : List Entry} {last : Entry}
    (h : InOrder (agenda problem parameters) columns done last) (r : Except Failure Unit) :
    .create r ∉ done ++ [last] := by
  intro hr
  have asked := h.asked.subset (List.mem_map_of_mem (f := Entry.request) hr)
  simp [agenda, Entry.request] at asked

namespace Solver

/-- The calls of a solve keep the protocol. The steps on the adapter are none, or they are a
beginning of the sequence, from the start with the parameters of the call or else those of the
solver, and a close after it. Nothing but the first call makes an adapter. -/
theorem ledger_protocol {A : Type} [Adapter A] (catalog : Catalog Workspace A)
    (program : Given (Ref Program)) (backend : Value) (parameters : Option (Given Parameters))
    (s : Solver × Workspace) :
    Protocol catalog program (s.1.parameters.replacedBy parameters) backend s.2
        (ledger catalog program backend parameters s) ∧
      (steps (ledger catalog program backend parameters s) = [] ∨
        ∃ problem spoken, Sound s.2.models program problem ∧ spoken ≠ [] ∧
          spoken <+: callSequence problem (s.1.parameters.replacedBy parameters) ∧
          steps (ledger catalog program backend parameters s) = spoken ++ [.close]) ∧
      ∀ r, .create r ∉ (ledger catalog program backend parameters s).tail := by
  obtain ⟨r, course, -⟩ := solve_course catalog program backend parameters s
  generalize ledger catalog program backend parameters s = l at course ⊢
  refine ⟨course.protocol, ?_⟩
  cases course.protocol with
  | untouched why => exact ⟨.inl rfl, fun _ => List.not_mem_nil⟩
  | unmade made => exact ⟨.inl rfl, fun _ => List.not_mem_nil⟩
  | refused made whole lacks => exact ⟨.inl rfl, fun _ => List.not_mem_nil⟩
  | driven accepted order ends =>
      obtain ⟨nonempty, asked⟩ := order.steps
      refine ⟨.inr ⟨_, _, accepted.made.sound, nonempty, asked, ?_⟩, fun r hr => ?_⟩
      · exact steps_append _ _
      · cases List.mem_append.1 hr with
        | inl hr => exact order.create_not_mem r hr
        | inr hr => cases List.mem_singleton.1 hr

end Solver

end LinearDispatch
