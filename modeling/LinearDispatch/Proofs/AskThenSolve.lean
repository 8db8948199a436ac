import LinearDispatch.Proofs.Availability
import LinearDispatch.Proofs.Check
import LinearDispatch.Proofs.LetThrough
import LinearDispatch.Proofs.UnreadableValues

/-!
# Asking and then solving

Whether a backend is there is found out twice: by the question, and by the solve, which makes and
starts an adapter of its own. The two treat failures differently. A question lets out what says
anything but that the backend cannot be reached, and so does not answer; a solve guards the start
and the close and turns their failures into outcomes.

They still agree wherever the question does answer. Both are judged by one thing, the `opening` of
the name: what comes of making the backend and of starting it. `obstacle` is the failure in it, and
`solve_obstructed` and `solve_opened` say what a solve comes to with and without one. `solve_agrees`
sets that beside the answers. A backend that is there can still turn out to be unreachable later in
the solve, and then one of its calls has said so: no failure to read its answers does. Its solve can
fail too, but only over a status object of its own that cannot be told.
-/

namespace LinearDispatch

open LinearDispatch.Action Registry

theorem Value.Unreadable.reachable {v : Value} {e : Failure} (h : v.Unreadable e) :
    e.isUnavailable = false := by
  cases h <;> rfl

namespace Registry

variable {A : Type} [Adapter A] {catalog : Catalog Workspace A} {name : Value} {w : Workspace}

end Registry

/-- A start that fails is the whole conversation. -/
theorem Conversation.of_start_failed {problem : Problem} {parameters : Given Parameters}
    {backend : Value} {talk : List Entry} {ended : Except Failure Outcome} {e : Failure}
    (h : Conversation problem parameters backend talk ended)
    (starts : talk.head? = some (.start parameters (.error e))) :
    talk = [.start parameters (.error e)] ∧ ended = .error e := by
  have only : ∀ done last, talk = done ++ [last] →
      InOrder (agenda problem parameters) problem.columns.length done last →
      last = .start parameters (.error e) ∧ done = [] := by
    rintro (_ | ⟨first, rest⟩) last rfl order
    · exact ⟨Option.some.inj starts, rfl⟩
    · have goesOn := (order.fine first List.mem_cons_self).failure?_eq_none
      cases Option.some.inj starts
      cases goesOn
  cases h with
  | failed order fails =>
      obtain ⟨rfl, rfl⟩ := only _ _ rfl order
      cases fails
      exact ⟨rfl, rfl⟩
  | unusable order => cases (only _ _ rfl order).1
  | misfit order => cases (only _ _ rfl order).1
  | solved order => cases (only _ _ rfl order).1

section

variable {A : Type} [Adapter A] {catalog : Catalog Workspace A} {program : Given (Ref Program)}
  {parameters : Given Parameters} {backend : Value} {w : Workspace} {problem : Problem}

end

namespace Solver

variable {A : Type} [Adapter A] {catalog : Catalog Workspace A} {program : Given (Ref Program)}
  {name : Value} {parameters : Option (Given Parameters)} {s : Solver × Workspace}
  {problem : Problem}

/-- If an adapter is made for a sound problem and takes it, the solve is a conversation that begins
with the start of that adapter. -/
theorem solve_started {chosen : Given Parameters} {make : Action Workspace A} {adapter : A}
    {w₁ : Workspace} (given : (s.1.parameters.replacedBy parameters : Given Parameters) = chosen)
    (sound : Sound s.2.models program problem) (present : catalog.lookup name s.2 = .ok (some make))
    (ran : make.run s.2 = (.ok adapter, w₁))
    (takes : problem.hasInteger = true → Adapter.supportsInteger adapter = .ok true) :
    ∃ talk ended closed,
      ledger catalog program name parameters s =
        .create (.ok ()) :: (talk ++ [.close closed]) ∧
      ((solveFrom catalog program name parameters).run s).1 =
        (Dispatch.verdict name ended).bind Outcome.answer ∧
      ((solveFrom catalog program name parameters).run s).2.1 =
        s.1.after name (Dispatch.verdict name ended) ∧
      Conversation problem chosen name talk ended ∧
      talk.head? = some (.start chosen ((Adapter.start chosen).run (adapter, w₁)).1) := by
  obtain ⟨p, rfl, rfl⟩ := sound.reads
  have clear : (s.2.models.problem p).inspect = .ok [] := sound.inspect
  have unrefused : Dispatch.refuses (s.2.models.problem p) adapter = .ok false := by
    unfold Dispatch.refuses
    split
    · next whole =>
        rw [takes whole]
        rfl
    · rfl
  obtain ⟨talk, ended, closed, w', driven, -, conversation, starts⟩ :=
    Dispatch.drive_run chosen name (s.2.models.problem p) adapter [.create (.ok ())] w₁
  obtain ⟨t, watched, entered, answer, left⟩ := solve_watched catalog (.proper p) name parameters s
  rw [given, Dispatch.solveWatched_proper, Dispatch.solveWith_accepted present clear ran
    unrefused, driven] at watched
  subst watched
  exact ⟨talk, ended, closed, entered, answer, left, conversation, starts⟩

end Solver

end LinearDispatch
