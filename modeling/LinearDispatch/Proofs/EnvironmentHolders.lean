import LinearDispatch.Proofs.EnvironmentLives
import Mathlib.Algebra.BigOperators.Intervals
import Mathlib.Data.Finset.Card
import Mathlib.Order.Interval.Finset.Nat

/-!
# Holders and their environment

A handle counts its holders but does not know them. If everybody releases only what they have
acquired, and nobody ever closes the handle, then an environment stays for as long as one of its
holders does. Closing breaks the count: a holder from before may still come with a release, and if
somebody has acquired the handle again meanwhile, that late release is taken for theirs.

`Run.ended_early` says that this is the only way: where an environment ends under a holder without a
close, a late release has been counted against it, and the handle was closed before. The argument
counts. From the start of an environment to its end as many leave as have joined, so if one of
those who joined has not left, one of those who left had joined before.
-/

namespace LinearDispatch

open LinearDispatch.Action Workspace

namespace SharedEnvironment

/-! ## Steps -/

namespace Holding.Step

variable {name : Value} {source : EnvironmentSource} {h h' : Holding} {t : Turn}

/-- What is disposed of is the environment there is, by a close or because the last one leaves. -/
theorem disposes (step : Step name source h t h') {env : Environment}
    (disposed : env ∈ t.disposed) :
    h.environment = some env ∧ h'.environment = none ∧ (t.call = .close ∨ t.call = .release) := by
  cases step with
  | ends =>
      rw [List.mem_singleton.1 disposed]
      exact ⟨rfl, rfl, .inr rfl⟩
  | closes =>
      rw [List.mem_singleton.1 disposed]
      exact ⟨rfl, rfl, .inl rfl⟩
  | _ => cases disposed

theorem joined (given : ¬source.GivesNone) (step : Step name source h t h')
    (joins : t.joins = true) :
    ∃ env, t.answer = .ok (some env) ∧ h'.environment = some env := by
  cases step with
  | joins | starts => exact ⟨_, rfl, rfl⟩
  | startsNothing may => exact absurd may given
  | _ => cases joins

end Holding.Step

theorem Turn.acquire_of_joins {t : Turn} (joins : t.joins = true) : t.call = .acquire := by
  unfold Turn.joins at joins
  rw [Bool.and_eq_true] at joins
  exact of_decide_eq_true joins.1

theorem Turn.release_of_leaves {t : Turn} (leaves : t.leaves = true) : t.call = .release := by
  unfold Turn.leaves at leaves
  rw [Bool.and_eq_true] at leaves
  exact of_decide_eq_true leaves.1

namespace Run

variable {r : Ref SharedEnvironment} (run : Run r)

/-- In the first `n` calls everybody releases only what they have acquired: `own k` is the call by
which the one who releases in the call `k` had become a holder, and nobody releases twice for it. -/
structure Fair (own : Nat → Nat) (n : Nat) : Prop where
  acquired : ∀ k < n, run.calls k = .release → own k < k ∧ (run.turn (own k)).joins = true
  once : ∀ k < n, ∀ k' < n, run.calls k = .release → run.calls k' = .release → own k = own k' →
    k = k'

theorem Fair.mono {run : Run r} {own : Nat → Nat} {m n : Nat} (fair : run.Fair own n)
    (le : m ≤ n) : run.Fair own m where
  acquired k hk := fair.acquired k (Nat.lt_of_lt_of_le hk le)
  once k hk k' hk' := fair.once k (Nat.lt_of_lt_of_le hk le) k' (Nat.lt_of_lt_of_le hk' le)

/-- A release by somebody whose environment had ended before. -/
def Late (own : Nat → Nat) (k : Nat) : Prop :=
  run.calls k = .release ∧ ∃ d env, own k < d ∧ d < k ∧
    (run.turn (own k)).answer = .ok (some env) ∧ env ∈ (run.turn d).disposed

/-! ## From the start to the end of an environment -/

theorem ends_between {m n : Nat} (le : m ≤ n) {env : Environment}
    (live : (run.holding m).environment = some env)
    (gone : (run.holding n).environment ≠ some env) :
    ∃ d, m ≤ d ∧ d < n ∧ (run.turn d).disposed = [env] := by
  induction le with
  | refl => exact absurd live gone
  | @step n le ih =>
      by_cases still : (run.holding n).environment = some env
      · rcases (run.step n).stays still with stays | ⟨disposed, -⟩
        · exact absurd stays gone
        · exact ⟨n, le, Nat.lt_succ_self n, disposed⟩
      · obtain ⟨d, hm, hd, disposed⟩ := ih still
        exact ⟨d, hm, Nat.lt_succ_of_lt hd, disposed⟩

/-- An environment that is there was started at some time, and has been there since. -/
theorem exists_start (closed : run.holding 0 = ⟨none, 0⟩) {n : Nat} {env : Environment}
    (live : (run.holding n).environment = some env) :
    ∃ s < n, (run.holding s).environment = none ∧
      ∀ m, s < m → m ≤ n → (run.holding m).environment = some env := by
  induction n with
  | zero =>
      rw [closed] at live
      cases live
  | succ n ih =>
      cases before : (run.holding n).environment with
      | none =>
          refine ⟨n, Nat.lt_succ_self n, before, fun m hs hn => ?_⟩
          rw [Nat.le_antisymm hn hs]
          exact live
      | some env' =>
          have same : env' = env := by
            rcases (run.step n).stays before with stays | ⟨-, gone⟩
            · exact Option.some.inj (stays.symm.trans live)
            · rw [gone] at live
              cases live
          rw [same] at before
          obtain ⟨s, hs, absent, since⟩ := ih before
          refine ⟨s, Nat.lt_succ_of_lt hs, absent, fun m hm hn => ?_⟩
          rcases Nat.lt_or_eq_of_le hn with lt | rfl
          · exact since m hm (Nat.le_of_lt_succ lt)
          · exact live

/-- What has been disposed of is not there again, if the source never gives it again. -/
theorem not_again (closed : run.holding 0 = ⟨none, 0⟩) (fresh : run.source.NeverRepeats)
    {d n : Nat} (lt : d < n) {env : Environment} (disposed : env ∈ (run.turn d).disposed) :
    (run.holding n).environment ≠ some env := by
  intro live
  have distinct := (run.once closed fresh n).1
  have ended : env ∈ (run.turns n).flatMap Turn.disposed :=
    List.mem_flatMap.2 ⟨run.turn d, List.mem_map_of_mem (List.mem_range.2 lt), disposed⟩
  have here : env ∈ (run.holding n).environment.toList := by
    rw [live]
    exact List.mem_singleton_self env
  exact (List.nodup_append.1 distinct).2.2 env ended env here rfl

/-- The calls from `s` on and before `n` of a certain kind. -/
def within (p : Turn → Bool) (s n : Nat) : Finset Nat :=
  (Finset.Ico s n).filter fun k => p (run.turn k) = true

theorem card_within_succ (p : Turn → Bool) {s n : Nat} (le : s ≤ n) :
    (run.within p s (n + 1)).card = (run.within p s n).card + (p (run.turn n)).toNat := by
  unfold within
  rw [Finset.card_filter, Finset.sum_Ico_succ_top le, ← Finset.card_filter]
  cases p (run.turn n) <;> rfl

/-- While the handle is not closed, the holders are those who have joined and not left. -/
theorem holders_within {s n : Nat} (le : s ≤ n) (nobody : (run.holding s).holders = 0)
    (stays : ∀ k, s ≤ k → k < n → run.calls k ≠ .close) :
    (run.holding n).holders + (run.within Turn.leaves s n).card =
      (run.within Turn.joins s n).card := by
  induction n, le using Nat.le_induction with
  | base =>
      unfold within
      rw [nobody, Finset.Ico_self]
      rfl
  | succ n le ih =>
      have before := ih fun k hs hn => stays k hs (Nat.lt_succ_of_lt hn)
      have changed := (run.step n).count (stays n le (Nat.lt_succ_self n))
      rw [card_within_succ _ _ le, card_within_succ _ _ le]
      omega

theorem nobody_of_absent (closed : run.holding 0 = ⟨none, 0⟩) (given : ¬run.source.GivesNone)
    {n : Nat} (absent : (run.holding n).environment = none) : (run.holding n).holders = 0 := by
  have sound := run.sound closed given n
  unfold Holding.Sound at sound
  rw [absent] at sound
  simpa using sound

/-- The environment that was acquired is the one that is disposed of: it was started before the
acquire, and has been there since. If it had ended in between, it would have been given twice. -/
theorem exists_life (closed : run.holding 0 = ⟨none, 0⟩) (given : ¬run.source.GivesNone)
    (fresh : run.source.NeverRepeats) {i j : Nat} {env : Environment}
    (acquire : run.calls i = .acquire) (answer : (run.turn i).answer = .ok (some env))
    (disposed : env ∈ (run.turn j).disposed) :
    ∃ s ≤ i, (run.holding s).environment = none ∧
      ∀ m, s < m → m ≤ j → (run.holding m).environment = some env := by
  obtain ⟨live, -, -⟩ := (run.step j).disposes disposed
  obtain ⟨s, sj, absent, since⟩ := run.exists_start closed live
  obtain ⟨-, obtained, -⟩ := (run.step i).acquired given acquire answer
  refine ⟨s, ?_, absent, since⟩
  by_contra before
  obtain ⟨d, -, ds, ended⟩ := run.ends_between (n := s) (Nat.lt_of_not_le before) obtained
    (by rw [absent]; nofun)
  refine run.not_again closed fresh (Nat.lt_trans ds sj) ?_ live
  rw [ended]
  exact List.mem_singleton_self env

/-! ## Whose release -/

/-- If one who joined has not left, but all who joined are counted as gone, then one who left had
joined before. -/
theorem exists_stranger {own : Nat → Nat} {n : Nat} (fair : run.Fair own n) {s i : Nat}
    (si : s ≤ i)
    (balanced : (run.within Turn.leaves s n).card = (run.within Turn.joins s n).card)
    (joined : (run.turn i).joins = true) (lt : i < n)
    (remains : ∀ k < n, run.calls k = .release → own k ≠ i) :
    ∃ k, s ≤ k ∧ k < n ∧ (run.turn k).leaves = true ∧ own k < s := by
  by_contra all_known
  have member : i ∈ run.within Turn.joins s n :=
    Finset.mem_filter.2 ⟨Finset.mem_Ico.2 ⟨si, lt⟩, joined⟩
  -- `own` takes those who left to those who had joined, no two to the same, and none to `i`.
  have fewer : (run.within Turn.leaves s n).card ≤ ((run.within Turn.joins s n).erase i).card := by
    refine Finset.card_le_card_of_injOn own (fun k hk => ?_) (fun k hk k' hk' same => ?_)
    · obtain ⟨between, leaves⟩ := Finset.mem_filter.1 hk
      obtain ⟨hs, hn⟩ := Finset.mem_Ico.1 between
      have release : run.calls k = .release := Turn.release_of_leaves leaves
      obtain ⟨earlier, joins⟩ := fair.acquired k hn release
      have since : s ≤ own k := by
        by_contra before
        exact all_known ⟨k, hs, hn, leaves, Nat.lt_of_not_le before⟩
      exact Finset.mem_erase.2 ⟨remains k hn release,
        Finset.mem_filter.2 ⟨Finset.mem_Ico.2 ⟨since, Nat.lt_trans earlier hn⟩, joins⟩⟩
    · obtain ⟨between, leaves⟩ := Finset.mem_filter.1 hk
      obtain ⟨between', leaves'⟩ := Finset.mem_filter.1 hk'
      exact fair.once k (Finset.mem_Ico.1 between).2 k' (Finset.mem_Ico.1 between').2
        (Turn.release_of_leaves leaves) (Turn.release_of_leaves leaves') same
  rw [Finset.card_erase_of_mem member] at fewer
  have some_joined := Finset.card_pos.2 ⟨i, member⟩
  omega

/-- Somebody who joined before there was a certain environment had another one, which has ended. -/
theorem late_of_stranger (given : ¬run.source.GivesNone) {own : Nat → Nat} {n k s : Nat}
    (fair : run.Fair own n) (kn : k < n) (release : run.calls k = .release) (ks : own k < s)
    (sk : s ≤ k) (absent : (run.holding s).environment = none) :
    ∃ d env, own k < d ∧ d < s ∧ run.calls (own k) = .acquire ∧
      (run.turn (own k)).answer = .ok (some env) ∧ env ∈ (run.turn d).disposed ∧
      run.Late own k := by
  obtain ⟨-, joins⟩ := fair.acquired k kn release
  obtain ⟨env, answer, obtained⟩ := (run.step (own k)).joined given joins
  obtain ⟨d, od, ds, ended⟩ := run.ends_between (n := s) ks obtained (by rw [absent]; nofun)
  have disposed : env ∈ (run.turn d).disposed := by
    rw [ended]
    exact List.mem_singleton_self env
  exact ⟨d, env, od, ds, Turn.acquire_of_joins joins, answer, disposed, release, d, env, od,
    Nat.lt_of_lt_of_le ds sk, answer, disposed⟩

/-- If an environment ends under a holder, without a close since they came, then a release was
counted against it by somebody who had come before there was that environment. -/
theorem counted_against (closed : run.holding 0 = ⟨none, 0⟩) (given : ¬run.source.GivesNone)
    {own : Nat → Nat} {i j s : Nat} {env : Environment} (fair : run.Fair own (j + 1))
    (acquire : run.calls i = .acquire) (answer : (run.turn i).answer = .ok (some env))
    (si : s ≤ i) (ij : i < j) (absent : (run.holding s).environment = none)
    (since : ∀ m, s < m → m ≤ j → (run.holding m).environment = some env)
    (gone : (run.holding (j + 1)).environment = none)
    (unclosed : ∀ c, i < c → c ≤ j → run.calls c ≠ .close)
    (remains : ∀ k, i < k → k ≤ j → run.calls k = .release → own k ≠ i) :
    ∃ k, s < k ∧ k ≤ j ∧ run.calls k = .release ∧ own k < s := by
  have joined : (run.turn i).joins = true := by
    have call : (run.turn i).call = .acquire := acquire
    rw [Turn.joins, call, answer]
    rfl
  have stays : ∀ k, s ≤ k → k < j + 1 → run.calls k ≠ .close := by
    intro k sk kj close
    -- A close before `i` would have ended the environment that is still there at `i`.
    by_cases later : i < k
    · exact unclosed k later (Nat.le_of_lt_succ kj) close
    · have still := since (k + 1) (by omega) (by omega)
      rw [(run.step k).closed close] at still
      cases still
  have nobody := run.nobody_of_absent closed given absent
  have balanced := run.holders_within (n := j + 1) (by omega) nobody stays
  rw [run.nobody_of_absent closed given gone, Nat.zero_add] at balanced
  obtain ⟨k, sk, kj, leaves, ks⟩ :=
    run.exists_stranger fair si balanced joined (by omega) fun k kj release same => by
      have earlier := (fair.acquired k kj release).1
      exact remains k (by omega) (Nat.le_of_lt_succ kj) release same
  have release : run.calls k = .release := Turn.release_of_leaves leaves
  refine ⟨k, ?_, Nat.le_of_lt_succ kj, release, ks⟩
  rcases Nat.lt_or_eq_of_le sk with later | rfl
  · exact later
  · have refused := ((run.step s).release_refused release nobody).2.1
    rw [Turn.leaves, refused, Bool.not_true, Bool.and_false] at leaves
    cases leaves

/-- An environment that a holder has acquired ends after that only if the handle is closed, or the
holder releases it, or a late release is counted against it; and a release is late only if the
handle had been closed before. -/
theorem ended_early (closed : run.holding 0 = ⟨none, 0⟩) (given : ¬run.source.GivesNone)
    (fresh : run.source.NeverRepeats) {own : Nat → Nat} {n : Nat} (fair : run.Fair own n)
    {i j : Nat} {env : Environment} (acquire : run.calls i = .acquire)
    (answer : (run.turn i).answer = .ok (some env)) (ij : i < j) (jn : j < n)
    (disposed : env ∈ (run.turn j).disposed) :
    (∃ c, i < c ∧ c ≤ j ∧ run.calls c = .close) ∨
      (∃ k, i < k ∧ k ≤ j ∧ run.calls k = .release ∧ own k = i) ∨
      ∃ k c, c < i ∧ run.calls c = .close ∧ k ≤ j ∧ run.Late own k ∧
        (run.holding k).environment = some env := by
  -- On the call in which an environment ends: the late holder has lost theirs in an earlier one.
  induction j using Nat.strong_induction_on generalizing i env with
  | _ j ih =>
  by_contra early
  rw [not_or, not_or] at early
  obtain ⟨unclosed, kept, untouched⟩ := early
  obtain ⟨-, gone, -⟩ := (run.step j).disposes disposed
  obtain ⟨s, si, absent, since⟩ := run.exists_life closed given fresh acquire answer disposed
  obtain ⟨k, sk, kj, release, ks⟩ := run.counted_against closed given (fair.mono jn) acquire answer
    si ij absent since gone (fun c ic cj close => unclosed ⟨c, ic, cj, close⟩)
    fun k ik kj release same => kept ⟨k, ik, kj, release, same⟩
  obtain ⟨d, env', od, ds, acquire', answer', disposed', late⟩ :=
    run.late_of_stranger given fair (Nat.lt_of_le_of_lt kj jn) release ks (Nat.le_of_lt sk) absent
  have before : ∃ c, c ≤ d ∧ run.calls c = .close := by
    rcases ih d (by omega) acquire' answer' od (by omega) disposed' with
      ⟨c, -, cd, close⟩ | ⟨k', -, k'd, release', same⟩ | ⟨-, c, co, close, -⟩
    · exact ⟨c, cd, close⟩
    · have twice := fair.once k' (by omega) k (by omega) release' release same
      omega
    · exact ⟨c, by omega, close⟩
  obtain ⟨c, cd, close⟩ := before
  exact untouched ⟨k, c, by omega, close, kj, late, since k sk kj⟩

end Run

namespace Sample

/-- Gives a new environment each time. -/
def steady : EnvironmentSource :=
  .script (fun n => .ok (some (.native n))) fun _ => none

theorem steady_neverRepeats : steady.NeverRepeats := by
  intro n m env hn hm
  cases hn
  cases hm
  rfl

theorem steady_givesSome : ¬steady.GivesNone := by
  rintro ⟨n, hn⟩
  cases hn

/-- Somebody acquires the handle and it is closed; somebody else acquires it, and the first one
comes with the release. -/
def overtaken : Run ⟨0⟩ :=
  .alone (fun n => [.acquire, .close, .acquire, .release].getD n .close) (pool steady)
    Nat.zero_lt_one

theorem overtaken_fair : overtaken.Fair (fun _ => 0) 4 where
  acquired := by decide
  once := by decide

end Sample

/-- The one who acquired last still holds the environment, and neither releases it nor has it
closed, but it is disposed of. -/
theorem Run.late_release_ends_newer :
    let run := Sample.overtaken
    let own : Nat → Nat := fun _ => 0
    run.holding 0 = ⟨none, 0⟩ ∧ ¬run.source.GivesNone ∧ run.source.NeverRepeats ∧
      run.Fair own 4 ∧ run.calls 2 = .acquire ∧ (run.turn 2).answer = .ok (some (.native 1)) ∧
      .native 1 ∈ (run.turn 3).disposed ∧
      ¬∃ k, 2 < k ∧ k ≤ 3 ∧ (run.calls k = .close ∨ run.calls k = .release ∧ own k = 2) := by
  refine ⟨rfl, Sample.steady_givesSome, Sample.steady_neverRepeats, Sample.overtaken_fair, rfl, rfl,
    List.mem_singleton_self _, ?_⟩
  rintro ⟨k, after, upto, close | ⟨-, same⟩⟩
  · obtain rfl : k = 3 := by omega
    cases close
  · cases same

theorem Run.ended_early_overtaken :
    let run := Sample.overtaken
    let own : Nat → Nat := fun _ => 0
    (∃ c, 2 < c ∧ c ≤ 3 ∧ run.calls c = .close) ∨
      (∃ k, 2 < k ∧ k ≤ 3 ∧ run.calls k = .release ∧ own k = 2) ∨
      ∃ k c, c < 2 ∧ run.calls c = .close ∧ k ≤ 3 ∧ run.Late own k ∧
        (run.holding k).environment = some (.native 1) :=
  Sample.overtaken.ended_early rfl Sample.steady_givesSome Sample.steady_neverRepeats
    Sample.overtaken_fair (i := 2) (j := 3) rfl rfl (by decide) (by decide)
    (List.mem_singleton_self _)

end SharedEnvironment

end LinearDispatch
