import LinearDispatch.Parameters
import LinearDispatch.Proofs.Accumulation
import LinearDispatch.Proofs.NativeReading

/-!
# Merging options

Options are merged three times on their way: a caller adds some to parameters that have some, adds
others to what comes of that, and a backend puts what it is given over settings of its own. Each
time entries are written one after the other, so that nothing but the order of the writes says
which value stays and where its name stands.

`Mapping.overlay` says it without an order of writes: the entries of one mapping with the values
that the other has for them, and then what only the other one has. `putAll_eq_overlay` is that
writes come to this, whatever is written and however often. It needs that no key is there twice,
which is so for every mapping that was made by writing.

Being the same key is no equality: the number that is none is not even the same as itself, so every
write to it adds an entry. It is symmetric and transitive all the same, and nothing more is needed.
-/

namespace LinearDispatch

theorem OrderedMap.mem_keys_putAll {κ ν : Type} [DecidableEq κ] {m : OrderedMap κ ν}
    {es : List (κ × ν)} {k : κ} (h : k ∈ (m.putAll es).keys) :
    k ∈ m.keys ∨ k ∈ es.map Prod.fst := by
  induction es generalizing m with
  | nil => exact .inl h
  | cons e rest ih =>
      rw [List.map_cons, List.mem_cons]
      obtain put | later := ih (m := m.put e.1 e.2) h
      · rw [keys_put] at put
        split at put
        · exact .inl put
        · exact (List.mem_append.1 put).imp id fun new => .inl (List.mem_singleton.1 new)
      · exact .inr (.inr later)

namespace Key

theorem same_symm {a b : Key} (h : a.same b = true) : b.same a = true := by
  unfold same value Value.same at *
  cases a <;> cases b <;> simp_all [Scalar.same_iff, and_comm]

theorem same_trans {a b c : Key} (h : a.same b = true) (h' : b.same c = true) :
    a.same c = true := by
  unfold same value Value.same at *
  cases a <;> cases b <;> cases c <;> simp_all
  case scalar.scalar.scalar =>
    rw [← h', Scalar.same_congr (Scalar.point_eq_of_same h)]

theorem same_comm (a b : Key) : a.same b = b.same a :=
  Bool.eq_iff_iff.2 ⟨same_symm, same_symm⟩

theorem same_congr {a b : Key} (h : a.same b = true) (c : Key) : a.same c = b.same c :=
  Bool.eq_iff_iff.2 ⟨same_trans (same_symm h), same_trans h⟩

theorem same_text (m n : String) : (text m).same (text n) = (m == n) := rfl

end Key

namespace Mapping

variable {k : Key} {v : Value} {m d : Mapping} {es : List (Key × Value)}

/-- No two keys are the same. -/
def Distinct (m : Mapping) : Prop :=
  m.keys.Pairwise fun a b => a.same b = false

/-- There is an entry under the key. -/
def has (m : Mapping) (k : Key) : Bool :=
  m.keys.any (·.same k)

/-- The value under a key, if there is one. -/
def get? (m : Mapping) (k : Key) : Option Value :=
  (m.entries.find? (·.1.same k)).map Prod.snd

/-- The entries of `m` with the values that `d` has under their keys, and after them the entries of
`d` under other keys. -/
def overlay (m d : Mapping) : Mapping :=
  ⟨m.entries.map (fun e => (e.1, (d.get? e.1).getD e.2)) ++ d.entries.filter fun e => !m.has e.1⟩

theorem putAll_cons (m : Mapping) (e : Key × Value) (rest : List (Key × Value)) :
    m.putAll (e :: rest) = (m.put e.1 e.2).putAll rest := rfl

theorem putAll_append (m : Mapping) (es later : List (Key × Value)) :
    m.putAll (es ++ later) = (m.putAll es).putAll later :=
  List.foldl_append

/-! ## Distinct keys -/

theorem Distinct.put (h : m.Distinct) (k : Key) (v : Value) : (m.put k v).Distinct := by
  rw [Distinct, keys_put]
  split
  · exact h
  · next new =>
      refine List.pairwise_append.2 ⟨h, List.pairwise_singleton _ _, fun a ha b hb => ?_⟩
      rw [List.mem_singleton.1 hb]
      exact Bool.eq_false_iff.2 fun same => new (List.any_eq_true.2 ⟨a, ha, same⟩)

theorem Distinct.putAll (h : m.Distinct) (es : List (Key × Value)) : (m.putAll es).Distinct := by
  induction es generalizing m with
  | nil => exact h
  | cons e rest ih => exact ih (h.put e.1 e.2)

theorem distinct_ofList (es : List (Key × Value)) : (ofList es).Distinct :=
  Distinct.putAll (m := empty) List.Pairwise.nil es

/-- Written anew, a mapping is what it was. -/
theorem Distinct.ofList_entries (h : m.Distinct) : ofList m.entries = m := by
  have apart : (empty.entries ++ m.entries).Pairwise fun a b => a.1.same b.1 = false :=
    List.pairwise_map.1 h
  have entries := entries_putAll apart
  exact congrArg Mapping.mk entries

/-! ## Reading -/

theorem any_entries (m : Mapping) (k : Key) : m.entries.any (·.1.same k) = m.has k := by
  rw [has, keys, List.any_map]
  rfl

theorem has_congr {a b : Key} (h : a.same b = true) (m : Mapping) : m.has a = m.has b := by
  unfold has
  congr 1
  funext x
  rw [Key.same_comm x, Key.same_comm x, Key.same_congr h]

theorem find?_write (k x : Key) (v : Value) (es : List (Key × Value)) :
    ((write k v es).find? (·.1.same x)).map Prod.snd =
      if k.same x then some v else (es.find? (·.1.same x)).map Prod.snd := by
  induction es with
  | nil => cases h : k.same x <;> simp [write, h]
  | cons e rest ih =>
      rw [write, List.find?_cons]
      by_cases here : e.1.same k = true
      · rw [if_pos here, List.find?_cons, Key.same_congr here]
        cases k.same x <;> rfl
      · rw [if_neg here, List.find?_cons]
        cases other : e.1.same x with
        | false => exact ih
        | true =>
            have apart : ¬k.same x = true := fun h =>
              here (Key.same_trans other (Key.same_symm h))
            rw [if_neg apart]

/-- A write is read back under the same keys, and the other keys have what they had. -/
theorem get?_put (m : Mapping) (k x : Key) (v : Value) :
    (m.put k v).get? x = if k.same x then some v else m.get? x :=
  find?_write k x v m.entries

/-- The last value that entries have for a key. -/
def lastGiven (es : List (Key × Value)) (k : Key) : Option Value :=
  (es.reverse.find? (·.1.same k)).map Prod.snd

theorem lastGiven_cons (e : Key × Value) (rest : List (Key × Value)) (k : Key) :
    lastGiven (e :: rest) k =
      (lastGiven rest k).or (if e.1.same k then some e.2 else none) := by
  rw [lastGiven, lastGiven, List.reverse_cons, List.find?_append, Option.map_or,
    List.find?_singleton]
  cases e.1.same k <;> rfl

/-- Of the values that are written to a key the last one stays. -/
theorem get?_putAll (m : Mapping) (es : List (Key × Value)) (k : Key) :
    (m.putAll es).get? k = (lastGiven es k).or (m.get? k) := by
  induction es generalizing m with
  | nil => rfl
  | cons e rest ih =>
      rw [putAll_cons, ih, get?_put, lastGiven_cons]
      cases e.1.same k <;> cases lastGiven rest k <;> rfl

/-! ## Writing over another mapping -/

theorem overlay_empty (m : Mapping) : m.overlay empty = m := by
  have same : m.entries.map (fun e => (e.1, (empty.get? e.1).getD e.2)) = m.entries :=
    List.map_id m.entries
  exact congrArg Mapping.mk ((List.append_nil _).trans same)

theorem write_append (k : Key) (v : Value) (es later : List (Key × Value)) :
    write k v (es ++ later) =
      if es.any (·.1.same k) then write k v es ++ later else es ++ write k v later := by
  induction es with
  | nil => rfl
  | cons e rest ih =>
      rw [List.cons_append, write, write, List.any_cons]
      by_cases here : e.1.same k = true
      · rw [if_pos here, if_pos here, here]
        rfl
      · rw [if_neg here, if_neg here, Bool.eq_false_iff.2 here, Bool.false_or, ih]
        split <;> rfl

/-- Where no key is there twice, a write changes the one entry under the key. -/
theorem write_map {f : Key → Value → Value} {es : List (Key × Value)}
    (distinct : es.Pairwise fun a b => a.1.same b.1 = false) (there : es.any (·.1.same k) = true) :
    write k v (es.map fun e => (e.1, f e.1 e.2)) =
      es.map fun e => (e.1, if k.same e.1 then v else f e.1 e.2) := by
  induction es with
  | nil => cases there
  | cons e rest ih =>
      obtain ⟨apart, distinct⟩ := List.pairwise_cons.1 distinct
      rw [List.map_cons, List.map_cons, write]
      by_cases here : e.1.same k = true
      · have others : ∀ e' ∈ rest, (e'.1, f e'.1 e'.2) =
            (e'.1, if k.same e'.1 then v else f e'.1 e'.2) := by
          intro e' mem
          have other : k.same e'.1 = false := (Key.same_congr here e'.1).symm.trans (apart e' mem)
          rw [other]
          rfl
        rw [if_pos here, Key.same_symm here, List.map_congr_left others]
        rfl
      · have other : ¬k.same e.1 = true := fun h => here (Key.same_symm h)
        rw [List.any_cons, Bool.eq_false_iff.2 here, Bool.false_or] at there
        rw [if_neg here, if_neg other, ih distinct there]

/-- A write and a selection by keys can be done in either order. -/
theorem filter_write {keep : Key → Bool} (respects : ∀ x, x.same k = true → keep x = keep k)
    (es : List (Key × Value)) :
    (write k v es).filter (fun e => keep e.1) =
      if keep k then write k v (es.filter fun e => keep e.1) else es.filter fun e => keep e.1 := by
  induction es with
  | nil => cases h : keep k <;> simp [write, h]
  | cons e rest ih =>
      rw [write]
      by_cases here : e.1.same k = true
      · rw [if_pos here]
        cases kept : keep k <;> simp [write, respects e.1 here, kept, here]
      · rw [if_neg here, List.filter_cons, List.filter_cons, ih]
        cases keep e.1 <;> cases keep k <;> simp [write, here]

/-- A write over an overlay is an overlay with the write. -/
theorem put_overlay (h : m.Distinct) (d : Mapping) (k : Key) (v : Value) :
    (m.overlay d).put k v = m.overlay (d.put k v) := by
  have news : ∀ x : Key, x.same k = true → (!m.has x) = !m.has k := fun x same =>
    congrArg (!·) (has_congr same m)
  have read (e : Key × Value) : ((d.put k v).get? e.1).getD e.2 =
      if k.same e.1 then v else (d.get? e.1).getD e.2 := by
    rw [get?_put]
    split <;> rfl
  have there : (m.entries.map fun e => (e.1, (d.get? e.1).getD e.2)).any (·.1.same k) =
      m.has k := by
    rw [List.any_map]
    exact m.any_entries k
  refine congrArg Mapping.mk ?_
  show write k v (_ ++ _) = _ ++ (write k v d.entries).filter fun e => !m.has e.1
  rw [write_append, there, @filter_write k v (fun x => !m.has x) news]
  simp only [read]
  cases old : m.has k with
  -- the one entry of `m` under the key takes the value, and what is new of `d` stays as it was
  | true =>
      have changed := write_map (v := v) (f := fun x y => (d.get? x).getD y)
        (List.pairwise_map.1 h) ((m.any_entries k).trans old)
      rw [if_pos rfl, changed]
      rfl
  -- the write passes `m` by and reaches what is new of `d`
  | false =>
      have apart : ∀ e ∈ m.entries, (e.1, (d.get? e.1).getD e.2) =
          (e.1, if k.same e.1 then v else (d.get? e.1).getD e.2) := by
        intro e mem
        have other : e.1.same k = false :=
          Bool.eq_false_iff.2 (List.any_eq_false.1 ((m.any_entries k).trans old) e mem)
        rw [Key.same_comm k, other]
        rfl
      rw [if_neg Bool.false_ne_true, List.map_congr_left apart]
      rfl

/-- Whatever is written, and however often, it comes to an overlay by what the writes make by
themselves. -/
theorem putAll_eq_overlay (h : m.Distinct) (es : List (Key × Value)) :
    m.putAll es = m.overlay (ofList es) := by
  induction es using List.reverseRecOn with
  | nil => exact (overlay_empty m).symm
  | append_singleton es e ih =>
      have last (m : Mapping) : m.putAll (es ++ [e]) = (m.putAll es).put e.1 e.2 :=
        putAll_append m es [e]
      rw [last, ih, put_overlay h, ofList, ofList, last]

/-- A mapping that is written as a whole is put over what is there. -/
theorem putAll_entries (h : m.Distinct) (h' : d.Distinct) : m.putAll d.entries = m.overlay d := by
  rw [putAll_eq_overlay h, h'.ofList_entries]

/-! ## Keys that are names -/

/-- Options by their names, as they are written. -/
def named (options : List (String × Value)) : List (Key × Value) :=
  options.map fun e => (.text e.1, e.2)

theorem named_cons (e : String × Value) (rest : List (String × Value)) :
    named (e :: rest) = (.text e.1, e.2) :: named rest := rfl

/-- The names that are no keys yet, each once and in the order in which they first come. -/
def newKeys (m : Mapping) (names : List String) : List Key :=
  (names.filter fun n => !m.has (.text n)).eraseDups.map .text

theorem has_put (m : Mapping) (k x : Key) (v : Value) :
    (m.put k v).has x = (m.has x || k.same x) := by
  unfold has
  rw [keys_put]
  split
  · next there =>
      cases same : k.same x with
      | false => rw [Bool.or_false]
      | true =>
          have there : m.has k = true := there
          rw [Bool.or_true, ← there, has_congr same]
          rfl
  · rw [List.any_append, List.any_cons, List.any_nil, Bool.or_false]

theorem has_putAll_named (m : Mapping) (options : List (String × Value)) (n : String) :
    (m.putAll (named options)).has (.text n) =
      (m.has (.text n) || (options.map Prod.fst).contains n) := by
  induction options generalizing m with
  | nil => exact (Bool.or_false _).symm
  | cons e rest ih =>
      rw [named_cons, putAll_cons, ih, has_put, Key.same_text, List.map_cons,
        List.contains_cons, Bool.or_assoc, BEq.comm]

/-- The keys that are there stay where they are, and new names follow in the order in which they
first come. -/
theorem keys_putAll_named (m : Mapping) (options : List (String × Value)) :
    (m.putAll (named options)).keys = m.keys ++ m.newKeys (options.map Prod.fst) := by
  induction options generalizing m with
  | nil => exact (List.append_nil _).symm
  | cons e rest ih =>
      have put : (m.put (.text e.1) e.2).keys =
          if m.has (.text e.1) then m.keys else m.keys ++ [.text e.1] := m.keys_put _ _
      rw [named_cons, putAll_cons, ih, put, List.map_cons]
      unfold newKeys
      simp only [has_put, Key.same_text]
      cases there : m.has (.text e.1) with
      -- nothing becomes old by the write
      | true =>
          have old (n : String) : (m.has (.text n) || e.1 == n) = m.has (.text n) := by
            by_cases same : e.1 = n
            · rw [← same, there, Bool.true_or]
            · rw [beq_eq_false_iff_ne.2 same, Bool.or_false]
          simp only [old, if_true]
          rw [List.filter_cons, there]
          rfl
      | false =>
          rw [if_neg Bool.false_ne_true, List.filter_cons, there, Bool.not_false, if_pos rfl,
            List.eraseDups_cons, List.filter_filter, List.map_cons, List.append_assoc,
            List.singleton_append]
          congr 5
          funext n
          rw [Bool.not_or, Bool.and_comm, BEq.comm]

theorem write_named (n : String) (v : Value) (es : List (String × Value)) :
    write (.text n) v (named es) = named (OrderedMap.putEntry n v es) := by
  induction es with
  | nil => rfl
  | cons e rest ih =>
      rw [named_cons, write, OrderedMap.putEntry, Key.same_text]
      by_cases here : e.1 = n
      · rw [if_pos (beq_iff_eq.2 here), if_pos here, here]
        rfl
      · rw [if_neg (mt beq_iff_eq.1 here), if_neg here, ih]
        rfl

theorem putAll_named (d : OrderedMap String Value) (options : List (String × Value)) :
    putAll ⟨named d.entries⟩ (named options) = ⟨named (d.putAll options).entries⟩ := by
  induction options generalizing d with
  | nil => rfl
  | cons e rest ih =>
      have put : put ⟨named d.entries⟩ (.text e.1) e.2 = ⟨named (d.put e.1 e.2).entries⟩ :=
        congrArg Mapping.mk (write_named e.1 e.2 d.entries)
      rw [named_cons, putAll_cons, put, ih]
      rfl

/-- It makes no difference whether options are written one by one or made a dictionary first. -/
theorem putAll_dictionary (h : m.Distinct) (options : List (String × Value)) :
    m.putAll (named (OrderedMap.ofList options).entries) = m.putAll (named options) := by
  have dictionary : ofList (named options) = ⟨named (OrderedMap.ofList options).entries⟩ :=
    putAll_named .empty options
  have anew := (distinct_ofList (named options)).ofList_entries
  rw [dictionary] at anew
  rw [putAll_eq_overlay h, putAll_eq_overlay h, dictionary, anew]

end Mapping

/-! ## Parameters -/

namespace Parameters

open Mapping (named lastGiven)

variable {timeLimit threads verbose : Value} {options : Option (List (Key × Value))}
  {p : Parameters} {s : Scalar}

/-- What it takes to make parameters, and what they then are. -/
theorem make_eq_ok :
    make timeLimit threads verbose options = .ok p ↔
      atLeast 0 .negativeTimeLimit timeLimit = .ok p.timeLimit ∧
        atLeast 1 .threadsNotPositive threads = .ok p.threads ∧ p.verbose = verbose ∧
        ∃ es, options = some es ∧ p.options = .ofList es := by
  unfold make
  obtain ⟨limit, count, noisy, given⟩ := p
  cases atLeast 0 .negativeTimeLimit timeLimit with
  | error e => exact iff_of_false nofun nofun
  | ok limit' =>
      cases atLeast 1 .threadsNotPositive threads with
      | error e => exact iff_of_false nofun nofun
      | ok count' =>
          cases options with
          | none => exact iff_of_false nofun nofun
          | some es =>
              show Except.ok (Parameters.mk limit' count' verbose (.ofList es)) = _ ↔ _
              simp [eq_comm]

theorem atLeast_scalar_eq_ok {least : ℤ} {tooSmall : Failure} {limit : Option Scalar}
    (kept : atLeast least tooSmall (.scalar s) = .ok limit) :
    s.lt (.int least) = false ∧ limit = some s := by
  unfold atLeast at kept
  dsimp only at kept
  split at kept
  · cases kept
  · next notBelow =>
      cases kept
      exact ⟨Bool.eq_false_iff.2 notBelow, rfl⟩

/-- A number as a caller passes it. -/
def passed (limit : Option Scalar) : Value :=
  limit.elim .none .scalar

theorem atLeast_passed {least : Int} {tooSmall : Failure} {v : Value} {limit : Option Scalar}
    (kept : atLeast least tooSmall v = .ok limit) :
    atLeast least tooSmall (passed limit) = .ok limit := by
  cases v with
  | none =>
      cases kept
      rfl
  | scalar s =>
      obtain rfl := (atLeast_scalar_eq_ok kept).2
      exact kept
  | text | list | member => cases kept

theorem distinct_of_make (made : make timeLimit threads verbose options = .ok p) :
    p.options.Distinct := by
  obtain ⟨-, -, -, es, -, same⟩ := make_eq_ok.1 made
  rw [same]
  exact Mapping.distinct_ofList es

/-- Options under any name but the reserved one are written over those that are there. -/
theorem extend_of_free {a : List (String × Value)} (free : ∀ e ∈ a, e.1 ≠ reservedName)
    (p : Parameters) : p.extend a = .ok { p with options := p.options.putAll (named a) } := by
  have none : ¬a.any (·.1 == reservedName) = true := by
    rw [List.any_eq_true]
    rintro ⟨e, mem, reserved⟩
    exact free e mem (beq_iff_eq.1 reserved)
  exact if_neg none

theorem free_ofList {a : List (String × Value)} (free : ∀ e ∈ a, e.1 ≠ reservedName) :
    ∀ e ∈ (OrderedMap.ofList a).entries, e.1 ≠ reservedName := by
  intro e mem
  obtain listed | listed := OrderedMap.mem_keys_putAll (List.mem_map_of_mem mem)
  · cases listed
  · obtain ⟨e', mem', same⟩ := List.mem_map.1 listed
    exact same ▸ free e' mem'

/-- `q` is what comes of `p` with the options `a` and then with the options `b`. Parameters never
change, so `p` is there as it was. -/
structure Merged (p : Parameters) (a b : List (String × Value)) (q : Parameters) : Prop where
  inTurn : (p.extend a >>= (·.extend b)) = .ok q
  atOnce : p.extend (a ++ b) = .ok q
  /-- the two lists as one dictionary, the later values at the place of the first -/
  asDictionary : p.extend (OrderedMap.ofList (a ++ b)).entries = .ok q
  timeLimit : q.timeLimit = p.timeLimit
  threads : q.threads = p.threads
  verbose : q.verbose = p.verbose
  options : q.options = (p.options.overlay (.ofList (named a))).overlay (.ofList (named b))
  /-- the names of `p` in their places, then the new ones of `a`, then the new ones of `b` -/
  keys : q.options.keys = p.options.keys ++ p.options.newKeys (a.map Prod.fst) ++
    p.options.newKeys ((b.map Prod.fst).filter fun n => !(a.map Prod.fst).contains n)
  distinct : q.options.Distinct
  /-- the last value that was given -/
  values : ∀ k, q.options.get? k =
    ((lastGiven (named b) k).or (lastGiven (named a) k)).or (p.options.get? k)
  /-- the parameters pass the check that they are made with -/
  made : make (passed q.timeLimit) (passed q.threads) q.verbose (some q.options.entries) = .ok q

theorem exists_merged (made : make timeLimit threads verbose options = .ok p)
    {a b : List (String × Value)} (free : ∀ e ∈ a ++ b, e.1 ≠ reservedName) :
    ∃ q, Merged p a b q := by
  have distinct := distinct_of_make made
  have distinctA := distinct.putAll (named a)
  have freeA : ∀ e ∈ a, e.1 ≠ reservedName := fun e mem => free e (List.mem_append_left b mem)
  have freeB : ∀ e ∈ b, e.1 ≠ reservedName := fun e mem => free e (List.mem_append_right a mem)
  have joined : p.options.putAll (named (a ++ b)) =
      (p.options.putAll (named a)).putAll (named b) := by
    rw [named, List.map_append, Mapping.putAll_append]
    rfl
  have distinctB := distinctA.putAll (named b)
  refine ⟨{ p with options := (p.options.putAll (named a)).putAll (named b) }, ?_⟩
  constructor
  case inTurn =>
    rw [extend_of_free freeA]
    exact extend_of_free freeB _
  case atOnce => rw [extend_of_free free, joined]
  case asDictionary =>
    rw [extend_of_free (free_ofList free), Mapping.putAll_dictionary distinct, joined]
  case options =>
    dsimp only
    rw [Mapping.putAll_eq_overlay distinctA, Mapping.putAll_eq_overlay distinct]
  case keys =>
    dsimp only
    rw [Mapping.keys_putAll_named, Mapping.keys_putAll_named]
    congr 1
    unfold Mapping.newKeys
    rw [List.filter_filter]
    simp only [Mapping.has_putAll_named, Bool.not_or]
  case values =>
    intro k
    dsimp only
    rw [Mapping.get?_putAll, Mapping.get?_putAll, Option.or_assoc]
  case made =>
    obtain ⟨limit, count, -, -⟩ := make_eq_ok.1 made
    exact make_eq_ok.2 ⟨atLeast_passed limit, atLeast_passed count, rfl, _, rfl,
      distinctB.ofList_entries.symm⟩
  case distinct => exact distinctB
  case timeLimit | threads | verbose => rfl

end Parameters

end LinearDispatch
