/-!
# Introspective sort

Sorting by quicksort that turns to heapsort where the parts do not get small and leaves parts of up
to sixteen items to a last, stable pass. The sort is not stable: which of several items that belong
nowhere before each other comes first depends on the exchanges, and each of them is fixed here. The
items themselves stay the same, and sixteen items or fewer are sorted stably.
-/

namespace LinearDispatch.IntrospectiveSort

variable {α : Type}

/-- The item at place `i` belongs before the one at place `j`. -/
def precedes (before : α → α → Bool) (xs : Array α) (i j : Nat) : Bool :=
  match xs[i]?, xs[j]? with
  | some a, some b => before a b
  | _, _ => false

/-! ## Heaps

A heap of `length` items starts at place `first` of the array; places in the heap count from
there. -/

/-- Brings the item at `place` down to a place without children, each time in exchange for the
later of two children; also says which place it is. -/
def sink (before : α → α → Bool) (first length : Nat) :
    Nat → Array α → Nat → Array α × Nat
  | 0, xs, place => (xs, place)
  | rounds + 1, xs, place =>
    if place < (length - 1) / 2 then
      let right := 2 * place + 2
      let child :=
        if precedes before xs (first + right) (first + right - 1) then right - 1 else right
      sink before first length rounds (xs.swapIfInBounds (first + place) (first + child)) child
    else if length = 2 * place + 2 then
      (xs.swapIfInBounds (first + place) (first + length - 1), length - 1)
    else
      (xs, place)

/-- Brings the item at `place` up while it is below `top` and its parent belongs before it. -/
def rise (before : α → α → Bool) (first top : Nat) : Nat → Array α → Nat → Array α
  | 0, xs, _ => xs
  | rounds + 1, xs, place =>
    let parent := (place - 1) / 2
    if top < place && precedes before xs (first + parent) (first + place) then
      rise before first top rounds (xs.swapIfInBounds (first + place) (first + parent)) parent
    else
      xs

/-- Brings the item at `top` to where it belongs below `top`: all the way down, then up. -/
def settle (before : α → α → Bool) (first length top : Nat) (xs : Array α) : Array α :=
  let (ys, place) := sink before first length length xs top
  rise before first top length ys place

def makeHeap (before : α → α → Bool) (first length : Nat) (xs : Array α) : Array α :=
  (List.range (length / 2)).reverse.foldl (fun ys top => settle before first length top ys) xs

/-- Sorts `length` items from `first` on: the top of the heap goes behind it again and again. -/
def heapSort (before : α → α → Bool) (first length : Nat) (xs : Array α) : Array α :=
  (List.range' 1 (length - 1)).reverse.foldl
    (fun ys n => settle before first n 0 (ys.swapIfInBounds first (first + n)))
    (makeHeap before first length xs)

/-! ## Parts -/

/-- Which of three places holds the item in the middle. -/
def medianPlace (before : α → α → Bool) (xs : Array α) (a b c : Nat) : Nat :=
  if precedes before xs a b then
    if precedes before xs b c then b else if precedes before xs a c then c else a
  else if precedes before xs a c then a
  else if precedes before xs b c then c
  else b

/-- Exchanges items at `low` or later that do not belong before the pivot at `first` for items
ahead of `high` that do not belong behind it, until both sides meet; also says where. -/
def exchange (before : α → α → Bool) (first last : Nat) :
    Nat → Array α → Nat → Nat → Array α × Nat
  | 0, xs, low, _ => (xs, low)
  | rounds + 1, xs, low, high =>
    let i := ((List.range' low (last - low)).find? fun k => !precedes before xs k first).getD last
    let j := ((List.range high).reverse.find? fun k => !precedes before xs first k).getD 0
    if i < j then exchange before first last rounds (xs.swapIfInBounds i j) (i + 1) j
    else (xs, i)

/-- Divides the items from `first` to `last` in two: nothing behind the place that it returns
belongs before anything ahead of it. -/
def divide (before : α → α → Bool) (first last : Nat) (xs : Array α) : Array α × Nat :=
  let middle := first + (last - first) / 2
  let ys := xs.swapIfInBounds first (medianPlace before xs (first + 1) middle (last - 1))
  exchange before first last (last - first) ys (first + 1) last

/-- Divides the items from `first` to `last` and their parts until a part has at most sixteen
items; what is still larger after `depth` divisions is sorted as a heap. -/
def arrange (before : α → α → Bool) : Nat → Nat → Nat → Array α → Array α
  | depth, first, last, xs =>
    if last - first ≤ 16 then
      xs
    else
      match depth with
      | 0 => heapSort before first (last - first) xs
      | depth + 1 =>
        let (ys, cut) := divide before first last xs
        arrange before depth first cut (arrange before depth cut last ys)

def sort (before : α → α → Bool) (xs : List α) : List α :=
  (arrange before (2 * Nat.log2 xs.length) 0 xs.length xs.toArray).toList.mergeSort
    fun a b => !before b a

/-! ## No item is lost -/

theorem swapIfInBounds_perm (xs : Array α) (i j : Nat) : (xs.swapIfInBounds i j).Perm xs := by
  rw [Array.swapIfInBounds_def]
  split
  · split
    · exact Array.swap_perm _ _
    · exact .refl _
  · exact .refl _

theorem sink_perm (before : α → α → Bool) (first length rounds : Nat) (xs : Array α)
    (place : Nat) : (sink before first length rounds xs place).1.Perm xs := by
  induction rounds generalizing xs place with
  | zero => exact .refl _
  | succ rounds ih =>
    unfold sink
    split
    · exact (ih _ _).trans (swapIfInBounds_perm _ _ _)
    · split
      · exact swapIfInBounds_perm _ _ _
      · exact .refl _

theorem rise_perm (before : α → α → Bool) (first top rounds : Nat) (xs : Array α) (place : Nat) :
    (rise before first top rounds xs place).Perm xs := by
  induction rounds generalizing xs place with
  | zero => exact .refl _
  | succ rounds ih =>
    unfold rise
    dsimp only
    split
    · exact (ih _ _).trans (swapIfInBounds_perm _ _ _)
    · exact .refl _

theorem settle_perm (before : α → α → Bool) (first length top : Nat) (xs : Array α) :
    (settle before first length top xs).Perm xs :=
  (rise_perm ..).trans (sink_perm ..)

theorem foldl_perm {f : Array α → Nat → Array α} (h : ∀ xs n, (f xs n).Perm xs) (ns : List Nat)
    (xs : Array α) : (ns.foldl f xs).Perm xs := by
  induction ns generalizing xs with
  | nil => exact .refl _
  | cons n rest ih => exact (ih _).trans (h _ _)

theorem heapSort_perm (before : α → α → Bool) (first length : Nat) (xs : Array α) :
    (heapSort before first length xs).Perm xs :=
  (foldl_perm (fun _ _ => (settle_perm ..).trans (swapIfInBounds_perm ..)) _ _).trans
    (foldl_perm (fun _ _ => settle_perm ..) _ _)

theorem exchange_perm (before : α → α → Bool) (first last rounds : Nat) (xs : Array α)
    (low high : Nat) : (exchange before first last rounds xs low high).1.Perm xs := by
  induction rounds generalizing xs low high with
  | zero => exact .refl _
  | succ rounds ih =>
    unfold exchange
    dsimp only
    split
    · exact (ih _ _ _).trans (swapIfInBounds_perm _ _ _)
    · exact .refl _

theorem divide_perm (before : α → α → Bool) (first last : Nat) (xs : Array α) :
    (divide before first last xs).1.Perm xs :=
  (exchange_perm ..).trans (swapIfInBounds_perm ..)

theorem arrange_perm (before : α → α → Bool) (depth first last : Nat) (xs : Array α) :
    (arrange before depth first last xs).Perm xs := by
  induction depth generalizing first last xs with
  | zero =>
    unfold arrange
    split
    · exact .refl _
    · exact heapSort_perm ..
  | succ depth ih =>
    unfold arrange
    split
    · exact .refl _
    · exact ((ih _ _ _).trans (ih _ _ _)).trans (divide_perm ..)

theorem sort_perm (before : α → α → Bool) (xs : List α) : (sort before xs).Perm xs :=
  (List.mergeSort_perm _ _).trans (arrange_perm before _ _ _ xs.toArray).toList

end LinearDispatch.IntrospectiveSort
