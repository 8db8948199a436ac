import LinearDispatch.Model.Building

/-!
# Giving a bound its shape

Giving a bound a shape has four ends. The kind may be one that cannot be given, a side may be
nothing that can be read as a number, the two sides of a double bound may be the wrong way round, or
the shape is accepted. `Acceptable` is the last of them, said of the arguments alone: what a bound
was before has no part in it. An accepted shape is written over the bound field by field, and
`write_eq` says that nothing of what was there is left, on neither side.

So a bound that is given shapes again and again is what the last accepted call made of it, and the
calls that were dropped or failed in between do not show. That its two sides fit its kind,
`SidesFit`, is no property of a bound as such: it holds of a new one, each accepted call brings it
about and each other call keeps it. The two ways of asking for the range rest on it. `shape_history`
says all this of a bound in the store, for any calls whatever.
-/

namespace LinearDispatch

open LinearDispatch.Action Workspace

/-- A call has returned, and what it was given is stored. -/
def Receipt.isAcceptance : Except Failure Receipt → Bool
  | .ok receipt => receipt.accepted
  | .error _ => false

namespace Bound

/-! ## The answer to one call -/

theorem receiptOf_accepted (notes : List String) : (receiptOf notes).accepted = true := by
  cases notes with
  | nil => rfl
  | cons note rest => rfl

theorem receiptOf_warned (notes : List String) : (receiptOf notes).warned = true ↔ notes ≠ [] := by
  cases notes with
  | nil => decide
  | cons note rest => exact iff_of_true rfl (List.cons_ne_nil note rest)

/-- A shape that can be given, with sides that can be read as `l` and `u` and are not the wrong way
round where both of them count. -/
structure Acceptable (kind : Choice BoundKind) (lower upper : Value) (shape : BoundKind)
    (l u : Float) : Prop where
  kind : kind = .member shape
  settable : shape ≠ .unset
  lower : lower.toFloat = .ok l
  upper : upper.toFloat = .ok u
  inOrder : ¬(shape = .double ∧ u < l)

/-- The bound of a shape, by itself: a side that the shape does not use is open, and a fixed bound
has its lower side twice. -/
def ofSides : BoundKind → Float → Float → Bound
  | .unset, _, _ => unset
  | .fixed, l, _ => ⟨.fixed, l, l⟩
  | .lower, l, _ => ⟨.lower, l, Number.infinity⟩
  | .upper, _, u => ⟨.upper, Number.negInfinity, u⟩
  | .double, l, u => ⟨.double, l, u⟩

variable {b b' : Bound} {kind : Choice BoundKind} {lower upper : Value} {receipt : Receipt}

/-- Whatever was in a bound, the shape that is written over it is all that is there afterwards. -/
theorem write_eq {shape : BoundKind} (settable : shape ≠ .unset) (b : Bound) (l u : Float) :
    b.write shape l u = ofSides shape l u := by
  cases shape with
  | unset => exact absurd rfl settable
  | fixed | lower | upper | double => rfl

/-- A shape that constrains something is given after both sides are read. -/
theorem set_settable {shape : BoundKind} (settable : shape ≠ .unset) (b : Bound)
    (lower upper : Value) :
    b.set (.member shape) lower upper = (do
      let l ← lower.toFloat
      let u ← upper.toFloat
      return b.setSides shape l u) := by
  cases shape with
  | unset => exact absurd rfl settable
  | fixed | lower | upper | double => rfl

theorem Acceptable.set {shape : BoundKind} {l u : Float}
    (h : Acceptable kind lower upper shape l u) (b : Bound) :
    b.set kind lower upper =
      .ok (ofSides shape l u, receiptOf (b.overwriteNote ++ mismatchNote shape l u)) := by
  rw [h.kind, set_settable h.settable, h.lower, h.upper]
  show Except.ok (b.setSides shape l u) = _
  rw [setSides, if_neg h.inOrder, write_eq h.settable]

/-- A call that returns has dropped the shape and left the bound as it was, or it was acceptable and
the bound has the shape. -/
theorem set_cases (set : b.set kind lower upper = .ok (b', receipt)) :
    (b' = b ∧ receipt.accepted = false) ∨
      ∃ shape l u, Acceptable kind lower upper shape l u ∧ b' = ofSides shape l u ∧
        receipt = receiptOf (b.overwriteNote ++ mismatchNote shape l u) := by
  cases kind with
  | other v =>
      obtain ⟨-, dropped⟩ := Value.whenWritable_eq_ok.1 set
      cases dropped
      exact .inl ⟨rfl, rfl⟩
  | member shape =>
      by_cases settable : shape = .unset
      · cases settable
        cases set
        exact .inl ⟨rfl, rfl⟩
      · rw [set_settable settable] at set
        cases hl : lower.toFloat with
        | error e =>
            rw [hl] at set
            cases set
        | ok l =>
            cases hu : upper.toFloat with
            | error e =>
                rw [hl, hu] at set
                cases set
            | ok u =>
                rw [hl, hu] at set
                have stored : b.setSides shape l u = (b', receipt) := Except.ok.inj set
                unfold setSides at stored
                split at stored
                · cases stored
                  exact .inl ⟨rfl, rfl⟩
                · next taken =>
                    cases stored
                    exact .inr ⟨shape, l, u, ⟨rfl, settable, hl, hu, taken⟩,
                      write_eq settable b l u, rfl⟩

theorem set_accepted_iff :
    b.set kind lower upper = .ok (b', receipt) ∧ receipt.accepted = true ↔
      ∃ shape l u, Acceptable kind lower upper shape l u ∧ b' = ofSides shape l u ∧
        receipt = receiptOf (b.overwriteNote ++ mismatchNote shape l u) := by
  constructor
  · rintro ⟨set, accepted⟩
    obtain ⟨-, dropped⟩ | taken := set_cases set
    · rw [accepted] at dropped
      cases dropped
    · exact taken
  · rintro ⟨shape, l, u, acceptable, rfl, rfl⟩
    exact ⟨acceptable.set b, receiptOf_accepted _⟩

/-! ## The bound afterwards -/

/-- What a caller passes to give a bound a shape. -/
structure Shaping where
  kind : Choice BoundKind
  lower : Value
  upper : Value

namespace Shaping

/-- The shape that the caller asks for. -/
def shape (c : Shaping) : Bound :=
  match c.kind, c.lower.toFloat, c.upper.toFloat with
  | .member kind, .ok l, .ok u => ofSides kind l u
  | _, _, _ => unset

/-- The caller asks for a fixed bound, with two sides that differ by more than is tolerated. -/
def Mismatched (c : Shaping) : Prop :=
  ∃ l u, c.kind = .member .fixed ∧ c.lower.toFloat = .ok l ∧ c.upper.toFloat = .ok u ∧
    fixedTolerance < (l - u).abs

end Shaping

/-- The last of the calls that was accepted, going by the answers. -/
def lastAccepted (calls : List Shaping) (answers : List (Except Failure Receipt)) :
    Option Shaping :=
  (((calls.zip answers).filter fun x => Receipt.isAcceptance x.2).getLast?).map Prod.fst

/-- The first of the calls counts only where nothing later was accepted. -/
theorem elim_lastAccepted_cons {α : Type} (c : Shaping) (calls : List Shaping)
    (answer : Except Failure Receipt) (answers : List (Except Failure Receipt)) (start : α)
    (f : Shaping → α) :
    (lastAccepted (c :: calls) (answer :: answers)).elim start f =
      (lastAccepted calls answers).elim (if Receipt.isAcceptance answer then f c else start) f := by
  unfold lastAccepted
  rw [List.zip_cons_cons, List.filter_cons]
  split
  · rw [List.getLast?_cons]
    cases ((calls.zip answers).filter fun x => Receipt.isAcceptance x.2).getLast? <;> rfl
  · rfl

/-- The two sides of a bound are what its kind makes of them. -/
def SidesFit (b : Bound) : Prop :=
  match b.kind with
  | .unset => b.sides = (Number.negInfinity, Number.infinity)
  | .fixed => b.lower = b.upper
  | .lower => b.upper = Number.infinity
  | .upper => b.lower = Number.negInfinity
  | .double => ¬b.upper < b.lower

theorem Acceptable.shape_eq {c : Shaping} {shape : BoundKind} {l u : Float}
    (h : Acceptable c.kind c.lower c.upper shape l u) : c.shape = ofSides shape l u := by
  rw [Shaping.shape, h.kind, h.lower, h.upper]

theorem Acceptable.sidesFit {shape : BoundKind} {l u : Float}
    (h : Acceptable kind lower upper shape l u) : (ofSides shape l u).SidesFit := by
  cases shape with
  | unset => exact absurd rfl h.settable
  | fixed | lower | upper => rfl
  | double => exact fun below => h.inOrder ⟨rfl, below⟩

/-- A call that returns leaves sides that fit, if they did before. -/
theorem SidesFit.set (h : b.SidesFit) (set : b.set kind lower upper = .ok (b', receipt)) :
    b'.SidesFit := by
  obtain ⟨rfl, -⟩ | ⟨shape, l, u, acceptable, rfl, -⟩ := set_cases set
  · exact h
  · exact acceptable.sidesFit

/-- A range is found by the kind and is yet the two sides, because these fit the kind. -/
theorem SidesFit.range_eq (h : b.SidesFit) : b.range = b.sides := by
  unfold SidesFit at h
  unfold range
  cases kind : b.kind with
  | unset =>
      rw [kind] at h
      exact h.symm
  | fixed =>
      rw [kind] at h
      exact Prod.ext rfl h
  | lower =>
      rw [kind] at h
      exact Prod.ext rfl h.symm
  | upper =>
      rw [kind] at h
      exact Prod.ext h.symm rfl
  | double => rfl

theorem single_eq (b : Bound) : b.single = if b.kind = .upper then b.sides.2 else b.sides.1 := by
  unfold single
  cases b.kind <;> rfl

theorem mismatchNote_ne_nil_iff {c : Shaping} {shape : BoundKind} {l u : Float}
    (h : Acceptable c.kind c.lower c.upper shape l u) :
    mismatchNote shape l u ≠ [] ↔ c.Mismatched := by
  unfold mismatchNote
  split
  · next differ =>
      refine iff_of_true (List.cons_ne_nil _ _) ⟨l, u, ?_, h.lower, h.upper, differ.2⟩
      rw [h.kind, differ.1]
  · next same =>
      refine iff_of_false (fun h => h rfl) ?_
      rintro ⟨l', u', kind, lower, upper, differ⟩
      cases h.kind.symm.trans kind
      cases h.lower.symm.trans lower
      cases h.upper.symm.trans upper
      exact same ⟨rfl, differ⟩

theorem overwriteNote_ne_nil_iff (b : Bound) : b.overwriteNote ≠ [] ↔ b.isSet = true := by
  unfold overwriteNote
  split
  · next isSet => exact iff_of_true (List.cons_ne_nil _ _) isSet
  · next notSet => exact iff_of_false (fun h => h rfl) notSet

/-- An accepted call is answered with a warning if it overwrites a shape, or if its two sides should
have been one. -/
theorem warned_iff {c : Shaping} (set : b.set c.kind c.lower c.upper = .ok (b', receipt))
    (accepted : receipt.accepted = true) :
    receipt.warned = true ↔ b.isSet = true ∨ c.Mismatched := by
  obtain ⟨shape, l, u, acceptable, -, rfl⟩ := set_accepted_iff.1 ⟨set, accepted⟩
  rw [receiptOf_warned, ← overwriteNote_ne_nil_iff, ← mismatchNote_ne_nil_iff acceptable, ne_eq,
    List.append_eq_nil_iff, Decidable.not_and_iff_not_or_not]

end Bound

/-! ## A bound in the store -/

theorem Model.fits_initialBound (kind : VariableKind) :
    (Model.initialBound kind).SidesFit := by
  cases kind with
  | binary =>
      show ¬(1.0 : Float) < 0.0
      decide +kernel
  | continuous | integer => rfl

namespace Model

variable {r : Ref Bound} {kind : Choice BoundKind} {lower upper : Value} {w : Workspace}

/-- Logging a receipt changes nothing but the journal. -/
theorem noted_run (receipt : Receipt) (w : Workspace) :
    ∃ w', (noted receipt).run w = (.ok receipt, w') ∧ w'.models = w.models := by
  cases receipt with
  | stored => exact ⟨w, rfl, rfl⟩
  | storedWithWarning reason => exact ⟨_, rfl, rfl⟩
  | dropped reason => exact ⟨_, rfl, rfl⟩

/-- A step on one cell: what is to be written is computed from what is there. -/
def rewriting {α : Type} (read : Store → α) (compute : α → Except Failure (α × Receipt))
    (write : Store → α → Store) : Action Workspace Receipt := do
  let old ← look read
  let (new, receipt) ← Action.ofExcept (compute old)
  change fun s => write s new
  noted receipt

theorem shapeBound_eq (r : Ref Bound) (kind : Choice BoundKind) (lower upper : Value) :
    shapeBound r kind lower upper =
      rewriting (·.bounds.get r) (·.set kind lower upper)
        fun s b => { s with bounds := s.bounds.set r b } := rfl

section

variable {α : Type} (read : Store → α) (compute : α → Except Failure (α × Receipt))
  (write : Store → α → Store) (w : Workspace)

/-- If there is nothing to be written, nothing has happened yet. -/
theorem rewriting_run :
    (∃ e, compute (read w.models) = .error e ∧
        (rewriting read compute write).run w = (.error e, w)) ∨
      ∃ new receipt w', compute (read w.models) = .ok (new, receipt) ∧
        (rewriting read compute write).run w = (.ok receipt, w') ∧
        w'.models = write w.models new := by
  have ran : (rewriting read compute write).run w =
      (Action.ofExcept (compute (read w.models)) >>= fun pair => do
        change fun s => write s pair.1
        noted pair.2).run w := rfl
  cases h : compute (read w.models) with
  | error e =>
      rw [h] at ran
      exact .inl ⟨e, rfl, ran⟩
  | ok pair =>
      rw [h] at ran
      obtain ⟨w', logged, models⟩ := noted_run pair.2 { w with models := write w.models pair.1 }
      exact .inr ⟨pair.1, pair.2, w', rfl, ran.trans logged, models⟩

theorem rewriting_answer :
    ((rewriting read compute write).run w).1 = (compute (read w.models)).map Prod.snd := by
  obtain ⟨e, failed, ran⟩ | ⟨new, receipt, w', computed, ran, -⟩ :=
    rewriting_run read compute write w
  · rw [ran, failed]
    rfl
  · rw [ran, computed]
    rfl

end

theorem shapeBound_run (r : Ref Bound) (kind : Choice BoundKind) (lower upper : Value)
    (w : Workspace) :
    (∃ e, (w.models.bounds.get r).set kind lower upper = .error e ∧
        (shapeBound r kind lower upper).run w = (.error e, w)) ∨
      ∃ b receipt w', (w.models.bounds.get r).set kind lower upper = .ok (b, receipt) ∧
        (shapeBound r kind lower upper).run w = (.ok receipt, w') ∧
        w'.models = { w.models with bounds := w.models.bounds.set r b } :=
  rewriting_run (·.bounds.get r) (·.set kind lower upper)
    (fun s b => { s with bounds := s.bounds.set r b }) w

theorem shapeBound_answer (r : Ref Bound) (kind : Choice BoundKind) (lower upper : Value)
    (w : Workspace) :
    ((shapeBound r kind lower upper).run w).1 =
      ((w.models.bounds.get r).set kind lower upper).map Prod.snd := by
  rw [shapeBound_eq]
  exact rewriting_answer ..

/-- Makes the calls one after the other, each of them whatever became of those before. -/
def shapeRepeatedly (r : Ref Bound) (calls : List Bound.Shaping) :
    Action Workspace (List (Except Failure Receipt)) :=
  forEach (fun c => (shapeBound r c.kind c.lower c.upper).attempt) calls

/-- One call: what is in the cell of the bound afterwards is the shape that was asked for, if the
call was accepted, and otherwise what was there. -/
theorem shapeBound_spec (inside : r.index < w.models.bounds.items.size) (c : Bound.Shaping) :
    ∃ answer w', (shapeBound r c.kind c.lower c.upper).run w = (answer, w') ∧
      w'.models.bounds.items.size = w.models.bounds.items.size ∧
      w'.models.bounds.get r =
        (if Receipt.isAcceptance answer then c.shape else w.models.bounds.get r) ∧
      (Receipt.isAcceptance answer = true → c.shape.SidesFit) := by
  obtain ⟨e, -, ran⟩ | ⟨b, receipt, w', set, ran, models⟩ :=
    shapeBound_run r c.kind c.lower c.upper w
  · exact ⟨_, w, ran, rfl, rfl, nofun⟩
  · have bounds : w'.models.bounds = w.models.bounds.set r b := congrArg Store.bounds models
    have size : w'.models.bounds.items.size = w.models.bounds.items.size := by
      rw [bounds]
      exact Array.size_setIfInBounds
    have written : w'.models.bounds.get r = b := by
      rw [bounds, w.models.bounds.get_set_self r b inside]
    refine ⟨_, w', ran, size, ?_⟩
    rw [written]
    obtain ⟨rfl, dropped⟩ | ⟨shape, l, u, acceptable, rfl, rfl⟩ := Bound.set_cases set
    · refine ⟨(if_neg (Bool.eq_false_iff.1 dropped)).symm, fun accepted => ?_⟩
      cases dropped.symm.trans accepted
    · rw [acceptable.shape_eq]
      exact ⟨(if_pos (Bound.receiptOf_accepted _)).symm, fun _ => acceptable.sidesFit⟩

/-- Many calls: the bound is what the last accepted one made of it. -/
theorem shapeRepeatedly_spec (calls : List Bound.Shaping) :
    ∀ {w : Workspace}, r.index < w.models.bounds.items.size →
      (w.models.bounds.get r).SidesFit →
      ∃ answers w', (shapeRepeatedly r calls).run w = (.ok answers, w') ∧
        answers.length = calls.length ∧ (w'.models.bounds.get r).SidesFit ∧
        w'.models.bounds.get r =
          (Bound.lastAccepted calls answers).elim (w.models.bounds.get r) Bound.Shaping.shape := by
  induction calls with
  | nil => exact fun _ fits => ⟨[], _, rfl, rfl, fits, rfl⟩
  | cons c rest ih =>
      intro w inside fits
      obtain ⟨answer, w₁, ran, size, became, shapeFits⟩ := shapeBound_spec inside c
      have fits₁ : (w₁.models.bounds.get r).SidesFit := by
        rw [became]
        split
        · next accepted => exact shapeFits accepted
        · exact fits
      obtain ⟨answers, w', ran', length, fits', last⟩ := ih (size.symm ▸ inside) fits₁
      have whole : (shapeRepeatedly r (c :: rest)).run w = (.ok (answer :: answers), w') := by
        let call (c : Bound.Shaping) := (shapeBound r c.kind c.lower c.upper).attempt
        have first : (call c).run w = (.ok answer, w₁) := by
          rw [run_attempt, ran]
        have later : (forEach call rest).run w₁ = (.ok answers, w') := ran'
        show (forEach call (c :: rest)).run w = _
        rw [run_forEach_cons_of_ok first, later]
        rfl
      refine ⟨_, w', whole, congrArg (· + 1) length, fits', ?_⟩
      rw [last, became, Bound.elim_lastAccepted_cons]

/-- Asking for the single side answers with the side that counts, and may log a remark. -/
theorem singleSide_answer (r : Ref Bound) (w : Workspace) :
    ((singleSide r).run w).1 = .ok (w.models.bounds.get r).single := by
  unfold singleSide
  rw [run_bind, look, run_gets]
  dsimp only
  cases (w.models.bounds.get r).singleWarning? with
  | none => rfl
  | some warning => rfl

/-- A new bound, of its own or of a variable, after any calls that give it shapes, with any
arguments: its sides are what its kind makes of them, its range is its two sides, and its single
side is the one that its kind has. It is what the last accepted call asked for, and as it was made
if there is none. Whatever call comes next, if it is accepted then there is a warning just if the
bound has a shape already or is to be fixed with sides that differ. -/
theorem shape_history (kind : VariableKind) (calls : List Bound.Shaping) (w : Workspace) :
    ∃ r answers w',
      (do
        let r ← newBound (initialBound kind)
        let answers ← shapeRepeatedly r calls
        pure (r, answers)).run w = (.ok (r, answers), w') ∧
      answers.length = calls.length ∧
      (let b := w'.models.bounds.get r
      b.SidesFit ∧ b.range = b.sides ∧
        ((singleSide r).run w').1 = .ok (if b.kind = .upper then b.sides.2 else b.sides.1) ∧
        b = (Bound.lastAccepted calls answers).elim (initialBound kind) Bound.Shaping.shape ∧
        ∀ (c : Bound.Shaping) (receipt : Receipt),
          ((shapeBound r c.kind c.lower c.upper).run w').1 = .ok receipt →
          receipt.accepted = true → (receipt.warned = true ↔ b.isSet = true ∨ c.Mismatched)) := by
  obtain ⟨w₀, made, new, inside⟩ : ∃ w₀, (newBound (initialBound kind)).run w =
      (.ok w.models.bounds.next, w₀) ∧
      w₀.models.bounds.get w.models.bounds.next = initialBound kind ∧
      w.models.bounds.next.index < w₀.models.bounds.items.size :=
    ⟨_, rfl, w.models.bounds.get_push_next _, w.models.bounds.next_lt_size_push _⟩
  obtain ⟨answers, w', ran, length, fits, last⟩ :=
    shapeRepeatedly_spec calls inside (new ▸ fits_initialBound kind)
  refine ⟨_, answers, w', ?_, length, fits, fits.range_eq, ?_, new ▸ last, ?_⟩
  · rw [run_bind, made]
    dsimp only
    rw [run_bind, ran]
    rfl
  · rw [singleSide_answer, Bound.single_eq]
  · intro c receipt answered accepted
    rw [shapeBound_answer] at answered
    cases set : (w'.models.bounds.get w.models.bounds.next).set c.kind c.lower c.upper with
    | error e =>
        rw [set] at answered
        cases answered
    | ok pair =>
        rw [set] at answered
        cases answered
        exact Bound.warned_iff set accepted

end Model

end LinearDispatch
