/-!
# Sets of characters

A set of characters is kept as the ascending list of the code points where membership changes: a
code point belongs to the set when an odd number of bounds lie at or below it.  Each set has just
one such list, so that equal sets are equal values, and the complement, the union and every other
combination of two sets is one walk along their bounds.
-/

namespace MessageRouter

/-- A set of characters, by the code points where membership changes. -/
structure CharSet where
  bounds : List Nat
  ascending : bounds.Pairwise (· < ·)
  deriving DecidableEq

namespace CharSet

/-! ## Membership -/

/-- Membership of `n`, given whether the code points before the first bound belong to the set. -/
def isInside : Bool → List Nat → Nat → Bool
  | inside, [], _ => inside
  | inside, b :: bs, n => if n < b then inside else isInside (!inside) bs n

/-- The code point belongs to the set. -/
def has (s : CharSet) (n : Nat) : Bool := isInside false s.bounds n

def contains (s : CharSet) (c : Char) : Bool := s.has c.toNat

theorem isInside_of_lt {bs : List Nat} {n : Nat} (h : ∀ b ∈ bs, n < b) (inside : Bool) :
    isInside inside bs n = inside := by
  cases bs with
  | nil => rfl
  | cons b bs => simp [isInside, h b (by simp)]

theorem isInside_self {b : Nat} {bs : List Nat} (h : ∀ z ∈ bs, b < z) (inside : Bool) :
    isInside inside (b :: bs) b = !inside := by
  rw [isInside, if_neg (Nat.lt_irrefl b), isInside_of_lt h]

theorem bounds_unique {xs ys : List Nat} (hx : xs.Pairwise (· < ·)) (hy : ys.Pairwise (· < ·))
    (inside : Bool) (h : ∀ n, isInside inside xs n = isInside inside ys n) : xs = ys := by
  induction xs generalizing ys inside with
  | nil =>
    cases ys with
    | nil => rfl
    | cons y ys =>
      have := h y
      rw [isInside_self (List.pairwise_cons.mp hy).1] at this
      simp [isInside] at this
  | cons x xs ih =>
    obtain ⟨hx₁, hx₂⟩ := List.pairwise_cons.mp hx
    cases ys with
    | nil =>
      have := h x
      rw [isInside_self hx₁] at this
      simp [isInside] at this
    | cons y ys =>
      obtain ⟨hy₁, hy₂⟩ := List.pairwise_cons.mp hy
      obtain rfl : x = y := by
        have h₁ := h x
        have h₂ := h y
        rw [isInside_self hx₁, isInside] at h₁
        rw [isInside_self hy₁, isInside] at h₂
        split at h₁ <;> split at h₂ <;> first | omega | simp at h₁ h₂
      congr 1
      refine ih hx₂ hy₂ (!inside) fun n => ?_
      by_cases hn : n < x
      · rw [isInside_of_lt (fun z hz => Nat.lt_trans hn (hx₁ z hz)),
          isInside_of_lt (fun z hz => Nat.lt_trans hn (hy₁ z hz))]
      · simpa [isInside, hn] using h n

/-- Sets with the same code points are equal. -/
theorem ext_has {s t : CharSet} (h : ∀ n, s.has n = t.has n) : s = t := by
  obtain ⟨bs, hb⟩ := s
  obtain ⟨cs, hc⟩ := t
  congr 1
  exact bounds_unique hb hc false h

/-! ## Making sets -/

/-- The bounds from `low` on that exceed all those before them. -/
def rising : Nat → List Nat → List Nat
  | _, [] => []
  | low, b :: bs => if low ≤ b then b :: rising (b + 1) bs else rising low bs

theorem le_of_mem_rising {low b : Nat} {bs : List Nat} (h : b ∈ rising low bs) : low ≤ b := by
  induction bs generalizing low with
  | nil => simp [rising] at h
  | cons x bs ih =>
    unfold rising at h
    split at h
    · rcases List.mem_cons.mp h with rfl | h
      · assumption
      · have := ih h
        omega
    · exact ih h

theorem pairwise_rising (low : Nat) (bs : List Nat) : (rising low bs).Pairwise (· < ·) := by
  induction bs generalizing low with
  | nil => simp [rising]
  | cons x bs ih =>
    unfold rising
    split
    · exact List.pairwise_cons.mpr ⟨fun b h => by have := le_of_mem_rising h; omega, ih _⟩
    · exact ih _

/-- The set with the given bounds; a bound that does not exceed those before it is left out. -/
def ofBounds (bs : List Nat) : CharSet := ⟨rising 0 bs, pairwise_rising 0 bs⟩

def empty : CharSet := ⟨[], .nil⟩

/-- All code points from the first to the last, both included. -/
def codes (low high : Nat) : CharSet := ofBounds (if low ≤ high then [low, high + 1] else [])

/-- All code points that are characters: the surrogates are none. -/
def all : CharSet := ofBounds [0, 0xD800, 0xE000, 0x110000]

/-! ## Combining sets -/

/-- A bound at `x` if the combination changes there. -/
def boundAt (change : Bool) (x : Nat) (rest : List Nat) : List Nat :=
  if change then x :: rest else rest

/-- The bounds after those of the first set have ended. -/
def combineRest (op : Bool → Bool → Bool) (a : Bool) : Bool → List Nat → List Nat
  | _, [] => []
  | b, y :: ys => boundAt (op a b != op a (!b)) y (combineRest op a (!b) ys)

/-- The bounds up to `x`, the next one of the first set, and what `next` tells of those after it. -/
def combineTo (op : Bool → Bool → Bool) (next : Bool → Bool → List Nat → List Nat) (x : Nat)
    (a : Bool) : Bool → List Nat → List Nat
  | b, [] => boundAt (op a b != op (!a) b) x (next (!a) b [])
  | b, y :: ys =>
    if x < y then boundAt (op a b != op (!a) b) x (next (!a) b (y :: ys))
    else if x = y then boundAt (op a b != op (!a) (!b)) x (next (!a) (!b) ys)
    else boundAt (op a b != op a (!b)) y (combineTo op next x a (!b) ys)

/-- The bounds of a combination, given the bounds of both sets and whether the code points before
them belong to the sets. -/
def combineBounds (op : Bool → Bool → Bool) : List Nat → Bool → Bool → List Nat → List Nat
  | [], a, b, ys => combineRest op a b ys
  | x :: xs, a, b, ys => combineTo op (combineBounds op xs) x a b ys

theorem mem_boundAt {change : Bool} {x z : Nat} {rest : List Nat}
    (h : z ∈ boundAt change x rest) : z = x ∨ z ∈ rest := by
  unfold boundAt at h
  split at h
  · simpa using h
  · exact .inr h

theorem pairwise_boundAt {change : Bool} {x : Nat} {rest : List Nat}
    (hx : ∀ z ∈ rest, x < z) (h : rest.Pairwise (· < ·)) :
    (boundAt change x rest).Pairwise (· < ·) := by
  unfold boundAt
  split
  · exact List.pairwise_cons.mpr ⟨hx, h⟩
  · exact h

theorem isInside_boundAt {u v : Bool} {x n : Nat} {rest : List Nat} (hx : ∀ z ∈ rest, x < z) :
    isInside u (boundAt (u != v) x rest) n = if n < x then u else isInside v rest n := by
  have far (h : n < x) : isInside u rest n = u :=
    isInside_of_lt (fun z hz => by have := hx z hz; omega) u
  unfold boundAt
  by_cases h : n < x <;> cases u <;> cases v <;> simp_all [isInside]

theorem combineRest_spec (op : Bool → Bool → Bool) (a b : Bool) {ys : List Nat}
    (hy : ys.Pairwise (· < ·)) :
    (∀ z ∈ combineRest op a b ys, z ∈ ys) ∧ (combineRest op a b ys).Pairwise (· < ·) ∧
    ∀ n, isInside (op a b) (combineRest op a b ys) n = op a (isInside b ys n) := by
  induction ys generalizing b with
  | nil => simp [combineRest, isInside]
  | cons y ys ih =>
    obtain ⟨hy₁, hy₂⟩ := List.pairwise_cons.mp hy
    obtain ⟨h₁, h₂, h₃⟩ := ih (!b) hy₂
    have far : ∀ z ∈ combineRest op a (!b) ys, y < z := fun z hz => hy₁ z (h₁ z hz)
    refine ⟨fun z hz => ?_, pairwise_boundAt far h₂, fun n => ?_⟩
    · rcases mem_boundAt hz with rfl | hz
      · simp
      · simp [h₁ z hz]
    · rw [combineRest, isInside_boundAt far, h₃, isInside]
      split <;> rfl

theorem combineBounds_spec (op : Bool → Bool → Bool) {xs ys : List Nat} (a b : Bool)
    (hx : xs.Pairwise (· < ·)) (hy : ys.Pairwise (· < ·)) :
    (∀ z ∈ combineBounds op xs a b ys, z ∈ xs ∨ z ∈ ys) ∧
    (combineBounds op xs a b ys).Pairwise (· < ·) ∧
    ∀ n, isInside (op a b) (combineBounds op xs a b ys) n =
      op (isInside a xs n) (isInside b ys n) := by
  induction xs generalizing a b ys with
  | nil =>
    obtain ⟨h₁, h₂, h₃⟩ := combineRest_spec op a b hy
    exact ⟨fun z hz => .inr (h₁ z hz), h₂, h₃⟩
  | cons x xs ihx =>
    obtain ⟨hx₁, hx₂⟩ := List.pairwise_cons.mp hx
    induction ys generalizing b with
    | nil =>
      obtain ⟨h₁, h₂, h₃⟩ := ihx (!a) b hx₂ List.Pairwise.nil
      have far : ∀ z ∈ combineBounds op xs (!a) b [], x < z := fun z hz =>
        hx₁ z ((h₁ z hz).resolve_right (by simp))
      refine ⟨fun z hz => ?_, pairwise_boundAt far h₂, fun n => ?_⟩
      · rcases mem_boundAt hz with rfl | hz
        · simp
        · rcases h₁ z hz with hz | hz <;> simp [hz]
      · rw [combineBounds, combineTo, isInside_boundAt far, h₃]
        simp only [isInside]
        split <;> rfl
    | cons y ys ihy =>
      obtain ⟨hy₁, hy₂⟩ := List.pairwise_cons.mp hy
      rw [combineBounds, combineTo]
      split
      · rename_i hlt
        obtain ⟨h₁, h₂, h₃⟩ := ihx (!a) b hx₂ hy
        have far : ∀ z ∈ combineBounds op xs (!a) b (y :: ys), x < z := fun z hz => by
          rcases h₁ z hz with hz | hz
          · exact hx₁ z hz
          · rcases List.mem_cons.mp hz with rfl | hz
            · exact hlt
            · exact Nat.lt_trans hlt (hy₁ z hz)
        refine ⟨fun z hz => ?_, pairwise_boundAt far h₂, fun n => ?_⟩
        · rcases mem_boundAt hz with rfl | hz
          · simp
          · rcases h₁ z hz with hz | hz
            · simp [hz]
            · exact .inr hz
        · rw [isInside_boundAt far, h₃]
          simp only [isInside]
          split
          · rw [if_pos (by omega)]
          · rfl
      · split
        · rename_i heq
          subst heq
          obtain ⟨h₁, h₂, h₃⟩ := ihx (!a) (!b) hx₂ hy₂
          have far : ∀ z ∈ combineBounds op xs (!a) (!b) ys, x < z := fun z hz =>
            (h₁ z hz).elim (hx₁ z) (hy₁ z)
          refine ⟨fun z hz => ?_, pairwise_boundAt far h₂, fun n => ?_⟩
          · rcases mem_boundAt hz with rfl | hz
            · simp
            · rcases h₁ z hz with hz | hz <;> simp [hz]
          · rw [isInside_boundAt far, h₃]
            simp only [isInside]
            split <;> rfl
        · rename_i hlt hne
          obtain ⟨h₁, h₂, h₃⟩ := ihy (!b) hy₂
          rw [combineBounds] at h₁ h₂ h₃
          have hyx : y < x := by omega
          have far : ∀ z ∈ combineTo op (combineBounds op xs) x a (!b) ys, y < z := fun z hz => by
            rcases h₁ z hz with hz | hz
            · rcases List.mem_cons.mp hz with rfl | hz
              · exact hyx
              · exact Nat.lt_trans hyx (hx₁ z hz)
            · exact hy₁ z hz
          refine ⟨fun z hz => ?_, pairwise_boundAt far h₂, fun n => ?_⟩
          · rcases mem_boundAt hz with rfl | hz
            · simp
            · rcases h₁ z hz with hz | hz
              · exact .inl hz
              · simp [hz]
          · rw [isInside_boundAt far, h₃]
            simp only [isInside]
            split
            · rw [if_pos (by omega)]
            · rfl

/-- The code points whose membership in both sets together has the property `op`. -/
def combine (op : Bool → Bool → Bool) (s t : CharSet) : CharSet where
  bounds := combineBounds op s.bounds false false t.bounds
  ascending := (combineBounds_spec op false false s.ascending t.ascending).2.1

theorem has_combine {op : Bool → Bool → Bool} (h : op false false = false) (s t : CharSet)
    (n : Nat) : (combine op s t).has n = op (s.has n) (t.has n) := by
  have := (combineBounds_spec op false false s.ascending t.ascending).2.2 n
  rwa [h] at this

def union (s t : CharSet) : CharSet := combine (· || ·) s t

def inter (s t : CharSet) : CharSet := combine (· && ·) s t

def diff (s t : CharSet) : CharSet := combine (fun a b => a && !b) s t

def symmDiff (s t : CharSet) : CharSet := combine (· != ·) s t

/-- All characters that are not in the set. -/
def complement (s : CharSet) : CharSet := diff all s

@[simp] theorem has_union (s t : CharSet) (n : Nat) : (union s t).has n = (s.has n || t.has n) :=
  has_combine rfl s t n

@[simp] theorem has_inter (s t : CharSet) (n : Nat) : (inter s t).has n = (s.has n && t.has n) :=
  has_combine rfl s t n

@[simp] theorem has_diff (s t : CharSet) (n : Nat) : (diff s t).has n = (s.has n && !t.has n) :=
  has_combine rfl s t n

@[simp] theorem has_symmDiff (s t : CharSet) (n : Nat) :
    (symmDiff s t).has n = (s.has n != t.has n) := has_combine rfl s t n

@[simp] theorem has_complement (s : CharSet) (n : Nat) :
    (complement s).has n = (all.has n && !s.has n) := has_diff all s n

/-- The characters from the first to the last, both included. -/
def range (low high : Nat) : CharSet := inter all (codes low high)

def single (c : Char) : CharSet := range c.toNat c.toNat

/-- Unites each two neighbours of a list. -/
def uniteNeighbours : List CharSet → List CharSet
  | s :: t :: rest => union s t :: uniteNeighbours rest
  | sets => sets

/-- The union of sets, by as many rounds of uniting neighbours as are needed. -/
def unionRounds : Nat → List CharSet → CharSet
  | _, [] => empty
  | _, [s] => s
  | 0, s :: _ => s
  | n + 1, s :: t :: rest => unionRounds n (uniteNeighbours (s :: t :: rest))

/-- The characters that are in any of the sets. -/
def unionAll (sets : List CharSet) : CharSet := unionRounds sets.length sets

theorem any_uniteNeighbours (sets : List CharSet) (n : Nat) :
    (uniteNeighbours sets).any (·.has n) = sets.any (·.has n) := by
  fun_induction uniteNeighbours sets with
  | case1 s t rest ih => simp [ih, Bool.or_assoc]
  | case2 sets h => rfl

theorem length_uniteNeighbours_le (sets : List CharSet) :
    (uniteNeighbours sets).length ≤ sets.length := by
  fun_induction uniteNeighbours sets with
  | case1 s t rest ih => simp only [List.length_cons]; omega
  | case2 sets h => exact Nat.le_refl _

theorem has_unionRounds {k : Nat} {sets : List CharSet} (h : sets.length ≤ k + 1) (n : Nat) :
    (unionRounds k sets).has n = sets.any (·.has n) := by
  induction k generalizing sets with
  | zero =>
    match sets, h with
    | [], _ => rfl
    | [s], _ => simp [unionRounds]
  | succ k ih =>
    match sets, h with
    | [], _ => rfl
    | [s], _ => simp [unionRounds]
    | s :: t :: rest, h =>
      have := length_uniteNeighbours_le rest
      rw [unionRounds, ih, any_uniteNeighbours]
      simp only [uniteNeighbours, List.length_cons] at h ⊢
      omega

@[simp] theorem has_unionAll (sets : List CharSet) (n : Nat) :
    (unionAll sets).has n = sets.any (·.has n) := has_unionRounds (by omega) n

def ofRanges (ranges : List (Nat × Nat)) : CharSet :=
  unionAll (ranges.map fun (low, high) => range low high)

def ofCodes (codes : List Nat) : CharSet := ofRanges (codes.map fun n => (n, n))

/-! ## Parts of a set -/

/-- Bounds in pairs, as the first and last code point between them. -/
def pairs : List Nat → List (Nat × Nat)
  | low :: high :: rest => (low, high - 1) :: pairs rest
  | _ => []

/-- The runs of neighbouring characters in the set, each by its first and last one. -/
def ranges (s : CharSet) : List (Nat × Nat) := pairs s.bounds

/-- The character of a set that has just one. -/
def single? (s : CharSet) : Option Nat :=
  match s.ranges with
  | [(low, high)] => if low = high then some low else none
  | _ => none

/-- Some character of the set lies between the two, both included. -/
def meets (s : CharSet) (first last : Nat) : Bool :=
  s.ranges.any fun (low, high) => low ≤ last && first ≤ high

/-- All characters of the set are in ASCII. -/
def isAscii (s : CharSet) : Bool := s.ranges.all fun (_, high) => high < 0x80

end CharSet

end MessageRouter
