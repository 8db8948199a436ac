import LinearDispatch.Text.Case

/-!
# Folding a name twice

Names of backends are compared in a folded form, without blanks at the ends and in lower case. What
is kept under a folded name is found under that very name only if folding it again changes nothing:
`foldName_foldName`. That is no matter of looking a table up twice. A letter can become several, the
lower case of a capital sigma depends on the letters around it, and a blank that came out of
lower-casing would be stripped the second time.

The tables rule all of this out, and it is enough to compare them run by run. `CaseRun.settles`
asks of a run that where its letters arrive no run starts, nothing is expanded, and there is neither
a capital sigma nor a blank; `settles_of_mem_lowerRuns` evaluates that for all runs. So whatever
comes out of lower-casing is `Settled`, and a text of settled characters stays as it is.
-/

namespace LinearDispatch.Text

/-! ## The runs of the table -/

namespace CaseRun

/-- Where the first letter of the run arrives. -/
def lowest (r : CaseRun) : Nat :=
  (r.first + r.shift).toNat

/-- Where the last letter of the run arrives. -/
def highest (r : CaseRun) : Nat :=
  (r.last + r.shift).toNat

/-- No letter of the run arrives in the interval. -/
def misses (r : CaseRun) (range : Nat × Nat) : Bool :=
  Nat.blt r.highest range.1 || Nat.blt range.2 r.lowest

/-- No letter of the run arrives at a letter of the other: it arrives outside of it, or always at
the letters in between, where the other takes every second letter. -/
def clears (r other : CaseRun) : Bool :=
  r.misses (other.first, other.last) ||
    ((r.stride == 2 || r.first == r.last) && other.stride == 2 &&
      (r.lowest + other.first) % 2 == 1)

/-- All letters of the run arrive at characters: not below zero, not among the surrogates, not past
the last code point. -/
def lands (r : CaseRun) : Bool :=
  0 ≤ r.first + r.shift && r.highest < 0x110000 && r.misses (0xD800, 0xDFFF)

/-- Where the letters of the run arrive, lower-casing has nothing more to do, and no blank is. -/
def settles (r : CaseRun) : Bool :=
  r.lands && lowerRuns.all r.clears && lowerExpansions.all (fun e => r.misses (e.1, e.1)) &&
    r.misses ('Σ'.toNat, 'Σ'.toNat) && blankRanges.all r.misses

variable {r other : CaseRun} {n m : Nat}

theorem target?_eq_some (h : r.target? n = some m) :
    r.first ≤ n ∧ n ≤ r.last ∧ (n - r.first) % r.stride = 0 ∧ m = (n + r.shift).toNat := by
  unfold target? at h
  split at h
  · next inside => exact ⟨inside.1, inside.2.1, inside.2.2, (Option.some.inj h).symm⟩
  · cases h

theorem misses_iff {range : Nat × Nat} :
    r.misses range = true ↔ r.highest < range.1 ∨ range.2 < r.lowest := by
  unfold misses
  rw [Bool.or_eq_true, Nat.blt_eq, Nat.blt_eq]

theorem target_of_lands (lands : r.lands = true) (h : r.target? n = some m) :
    m + r.first = r.lowest + n ∧ m ≤ r.highest ∧ m.isValidChar := by
  obtain ⟨first, last, -, rfl⟩ := target?_eq_some h
  simp only [CaseRun.lands, misses_iff, Bool.and_eq_true, decide_eq_true_eq] at lands
  unfold lowest highest at lands ⊢
  unfold Nat.isValidChar
  omega

theorem not_mem_of_misses (lands : r.lands = true) (h : r.target? n = some m) {range : Nat × Nat}
    (misses : r.misses range = true) : ¬(range.1 ≤ m ∧ m ≤ range.2) := by
  obtain ⟨first, last, -, -⟩ := target?_eq_some h
  obtain ⟨arrived, highest, -⟩ := target_of_lands lands h
  rw [misses_iff] at misses
  omega

theorem target?_eq_none_of_clears (lands : r.lands = true) (h : r.target? n = some m)
    (clears : r.clears other = true) : other.target? m = none := by
  obtain ⟨first, last, step, -⟩ := target?_eq_some h
  obtain ⟨arrived, -, -⟩ := target_of_lands lands h
  unfold target?
  refine if_neg fun inside => ?_
  rcases Bool.or_eq_true_iff.1 clears with misses | beside
  · exact not_mem_of_misses lands h misses ⟨inside.1, inside.2.1⟩
  · simp only [Bool.and_eq_true, Bool.or_eq_true, beq_iff_eq] at beside
    obtain ⟨⟨sparse, second⟩, odd⟩ := beside
    rw [second] at inside
    rcases sparse with every | lone
    · rw [every] at step
      omega
    · omega

end CaseRun

/-- All runs of the table of lower case are such runs. -/
theorem settles_of_mem_lowerRuns {r : CaseRun} (h : r ∈ lowerRuns) : r.settles = true :=
  List.all_eq_true.1 (by decide +kernel : lowerRuns.all CaseRun.settles = true) r h

/-! ## One character -/

/-- A character that lower-casing leaves alone, whatever stands around it. -/
structure Settled (c : Char) : Prop where
  notSigma : c ≠ 'Σ'
  unmoved : lowerChar c = [c]

/-- The lower case of a character: settled characters, at least one, and no blank unless it was
one. -/
structure LowersTo (c : Char) (ds : List Char) : Prop where
  some : ds ≠ []
  settled : ∀ d ∈ ds, Settled d
  notBlank : isBlank c = false → ∀ d ∈ ds, isBlank d = false

theorem Settled.lowersTo {c : Char} (h : Settled c) : LowersTo c [c] := by
  refine ⟨List.cons_ne_nil _ _, fun d hd => ?_, fun notBlank d hd => ?_⟩
  · rwa [List.mem_singleton.1 hd]
  · rwa [List.mem_singleton.1 hd]

/-- Known characters that no blank is among. -/
theorem lowersTo_of_settled {c : Char} {ds : List Char} (some : ds ≠ [])
    (settled : ∀ d ∈ ds, Settled d ∧ isBlank d = false) : LowersTo c ds :=
  ⟨some, fun d hd => (settled d hd).1, fun _ d hd => (settled d hd).2⟩

/-- The character is settled and no blank, looked up in the tables. -/
def isSettled (c : Char) : Bool :=
  c != 'Σ' && lowerChar c == [c] && !isBlank c

theorem isSettled_iff {c : Char} : isSettled c = true ↔ Settled c ∧ isBlank c = false := by
  unfold isSettled
  rw [Bool.and_eq_true, Bool.and_eq_true, bne_iff_ne, beq_iff_eq, Bool.not_eq_true']
  exact and_congr_left' ⟨fun h => ⟨h.1, h.2⟩, fun h => ⟨h.1, h.2⟩⟩

theorem lowersTo_of_isSettled {c : Char} {ds : List Char} (some : ds ≠ [])
    (settled : ds.all isSettled = true) : LowersTo c ds :=
  lowersTo_of_settled some fun d hd => isSettled_iff.1 (List.all_eq_true.1 settled d hd)

theorem toNat_ofNat {n : Nat} (h : n.isValidChar) : (Char.ofNat n).toNat = n := by
  rw [Char.ofNat, dif_pos h]
  rfl

theorem lowersTo_of_target {r : CaseRun} (member : r ∈ lowerRuns) {c : Char} {m : Nat}
    (h : r.target? c.toNat = some m) : LowersTo c [Char.ofNat m] := by
  have settles := settles_of_mem_lowerRuns member
  simp only [CaseRun.settles, Bool.and_eq_true, List.all_eq_true] at settles
  obtain ⟨⟨⟨⟨lands, clears⟩, expansions⟩, sigma⟩, blanks⟩ := settles
  have code : (Char.ofNat m).toNat = m := toNat_ofNat (CaseRun.target_of_lands lands h).2.2
  have unlisted : lowerExpansions.lookup m = none := by
    refine List.lookup_eq_none_iff.2 fun e listed => bne_iff_ne.2 ?_
    rintro rfl
    exact CaseRun.not_mem_of_misses lands h (expansions e listed) ⟨Nat.le_refl _, Nat.le_refl _⟩
  have unmoved : lowerRuns.findSome? (·.target? m) = none :=
    List.findSome?_eq_none_iff.2 fun other listed =>
      CaseRun.target?_eq_none_of_clears lands h (clears other listed)
  refine lowersTo_of_settled (List.cons_ne_nil _ _) fun d hd => ?_
  rw [List.mem_singleton.1 hd]
  refine ⟨⟨?_, ?_⟩, ?_⟩
  · intro same
    rw [same] at code
    exact CaseRun.not_mem_of_misses lands h sigma ⟨Nat.le_of_eq code, Nat.le_of_eq code.symm⟩
  · unfold lowerChar mapCase
    rw [code, unlisted]
    dsimp only
    rw [unmoved]
    rfl
  · refine Bool.eq_false_iff.2 fun blank => ?_
    obtain ⟨range, listed, inside⟩ := List.any_eq_true.1 blank
    rw [code, Bool.and_eq_true, decide_eq_true_eq, decide_eq_true_eq] at inside
    exact CaseRun.not_mem_of_misses lands h (blanks range listed) inside

/-- The one letter that becomes several is an I with a dot. -/
theorem lowersTo_of_expansion {c : Char} {codes : List Nat}
    (h : lowerExpansions.lookup c.toNat = some codes) : LowersTo c (codes.map Char.ofNat) := by
  have listed : ∀ e ∈ lowerExpansions, e.2.map Char.ofNat ≠ [] ∧
      (e.2.map Char.ofNat).all isSettled = true := by decide +kernel
  obtain ⟨before, after, split, -⟩ := List.lookup_eq_some_iff.1 h
  obtain ⟨some, settled⟩ := listed (c.toNat, codes) (split ▸ List.mem_append_right _ (by simp))
  exact lowersTo_of_isSettled some settled

/-- The lower case of a character, wherever it stands. -/
theorem lowersTo_lowerBetween (before : List Char) (c : Char) (after : List Char) :
    LowersTo c (lowerBetween before c after) := by
  unfold lowerBetween
  split
  · refine lowersTo_of_isSettled (List.cons_ne_nil _ _) ?_
    split <;> decide +kernel
  · next notSigma =>
      cases expanded : lowerExpansions.lookup c.toNat with
      | some codes =>
          unfold lowerChar mapCase
          rw [expanded]
          exact lowersTo_of_expansion expanded
      | none =>
          cases moved : lowerRuns.findSome? (·.target? c.toNat) with
          | some m =>
              obtain ⟨r, member, target⟩ := List.exists_of_findSome?_eq_some moved
              unfold lowerChar mapCase
              rw [expanded]
              dsimp only
              rw [moved]
              exact lowersTo_of_target member target
          | none =>
              have unmoved : lowerChar c = [c] := by
                unfold lowerChar mapCase
                rw [expanded]
                dsimp only
                rw [moved]
                rfl
              rw [unmoved]
              exact Settled.lowersTo ⟨notSigma, unmoved⟩

/-! ## Whole texts -/

theorem settled_of_mem_lowerAfter {before cs : List Char} {d : Char}
    (h : d ∈ lowerAfter before cs) : Settled d := by
  induction cs generalizing before with
  | nil => exact absurd h List.not_mem_nil
  | cons c rest ih =>
      cases List.mem_append.1 h with
      | inl h => exact (lowersTo_lowerBetween before c rest).settled d h
      | inr h => exact ih h

theorem lowerAfter_of_settled {cs : List Char} (h : ∀ c ∈ cs, Settled c) (before : List Char) :
    lowerAfter before cs = cs := by
  induction cs generalizing before with
  | nil => rfl
  | cons c rest ih =>
      have first := h c List.mem_cons_self
      have here : lowerBetween before c rest = [c] :=
        (if_neg first.notSigma).trans first.unmoved
      rw [lowerAfter, here, ih (fun d hd => h d (List.mem_cons_of_mem c hd))]
      rfl

/-- There is no blank at either end. -/
structure Trimmed (cs : List Char) : Prop where
  first : ∀ c ∈ cs.head?, isBlank c = false
  last : ∀ c ∈ cs.getLast?, isBlank c = false

theorem dropWhile_of_head? {cs : List Char} (h : ∀ c ∈ cs.head?, isBlank c = false) :
    cs.dropWhile isBlank = cs := by
  cases cs with
  | nil => rfl
  | cons c rest => exact List.dropWhile_cons_of_neg (Bool.eq_false_iff.1 (h c rfl))

theorem head?_dropWhile (cs : List Char) :
    ∀ c ∈ (cs.dropWhile isBlank).head?, isBlank c = false := by
  intro c hc
  have unblank := List.head?_dropWhile_not isBlank cs
  rw [hc] at unblank
  exact unblank

theorem trimmed_strip (s : String) : Trimmed (strip s).toList := by
  unfold strip
  rw [String.toList_ofList]
  have prefix_ : ((s.toList.dropWhile isBlank).reverse.dropWhile isBlank).reverse <+:
      s.toList.dropWhile isBlank := by
    rw [← List.reverse_suffix, List.reverse_reverse]
    exact List.dropWhile_suffix _
  constructor
  · intro c hc
    obtain ⟨rest, same⟩ := prefix_
    refine head?_dropWhile s.toList c ?_
    rw [← same, List.head?_append, hc]
    rfl
  · rw [List.getLast?_reverse]
    exact head?_dropWhile _

theorem strip_of_trimmed {s : String} (h : Trimmed s.toList) : strip s = s := by
  have last : ∀ c ∈ s.toList.reverse.head?, isBlank c = false := by
    rw [List.head?_reverse]
    exact h.last
  unfold strip
  rw [dropWhile_of_head? h.first, dropWhile_of_head? last, List.reverse_reverse,
    String.ofList_toList]

theorem not_blank_first {before cs : List Char} (h : ∀ c ∈ cs.head?, isBlank c = false) :
    ∀ d ∈ (lowerAfter before cs).head?, isBlank d = false := by
  intro d hd
  cases cs with
  | nil => cases hd
  | cons c rest =>
      have lowers := lowersTo_lowerBetween before c rest
      rw [lowerAfter, List.head?_append, List.head?_eq_some_head lowers.some] at hd
      cases hd
      exact lowers.notBlank (h c rfl) _ (List.head_mem lowers.some)

theorem not_blank_last {before cs : List Char} (h : ∀ c ∈ cs.getLast?, isBlank c = false) :
    ∀ d ∈ (lowerAfter before cs).getLast?, isBlank d = false := by
  induction cs generalizing before with
  | nil => exact fun d hd => nomatch hd
  | cons c rest ih =>
      intro d hd
      rw [lowerAfter, List.getLast?_append] at hd
      cases rest with
      | nil =>
          exact (lowersTo_lowerBetween before c []).notBlank (h c rfl) d (List.mem_of_getLast? hd)
      | cons c' rest =>
          have more : lowerAfter (c :: before) (c' :: rest) ≠ [] := by
            rw [lowerAfter]
            exact List.append_ne_nil_of_left_ne_nil (lowersTo_lowerBetween _ c' rest).some _
          rw [List.getLast?_eq_some_getLast more] at hd
          refine @ih (c :: before) (fun e he => h e ?_) d ?_
          · rwa [List.getLast?_cons_cons]
          · rw [List.getLast?_eq_some_getLast more]
            exact hd

theorem Trimmed.lowerAfter {cs : List Char} (h : Trimmed cs) (before : List Char) :
    Trimmed (lowerAfter before cs) :=
  ⟨not_blank_first h.first, not_blank_last h.last⟩

theorem lower_lower (s : String) : lower (lower s) = lower s := by
  unfold lower
  rw [String.toList_ofList, lowerAfter_of_settled fun d => settled_of_mem_lowerAfter]

/-- Folding a folded name changes nothing. -/
theorem foldName_foldName (s : String) : foldName (foldName s) = foldName s := by
  have trimmed : Trimmed (lower (strip s)).toList := by
    unfold lower
    rw [String.toList_ofList]
    exact (trimmed_strip s).lowerAfter []
  unfold foldName
  rw [strip_of_trimmed trimmed, lower_lower]

end LinearDispatch.Text
