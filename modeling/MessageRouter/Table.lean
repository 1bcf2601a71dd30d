/-!
# Tables

A table keeps values by number, in the order in which they were added.  Every number has a value:
one that was never added has the default value, so reading after writing needs no condition.
-/

namespace MessageRouter

/-- Values by number. -/
structure Table (α : Type) where
  rows : List α := []
  deriving DecidableEq, Inhabited

namespace Table

variable {α β : Type}

def size (t : Table α) : Nat := t.rows.length

/-- The numbers that have been given out. -/
def indices (t : Table α) : List Nat := List.range t.size

/-- Adds a value under the next number. -/
def add (t : Table α) (a : α) : Nat × Table α := (t.size, ⟨t.rows ++ [a]⟩)

@[simp] theorem size_add (t : Table α) (a : α) : (t.add a).2.size = t.size + 1 := by
  simp [add, size]

/-- The table of what becomes of the values. -/
def map (f : α → β) (t : Table α) : Table β := ⟨t.rows.map f⟩

@[simp] theorem size_map (f : α → β) (t : Table α) : (t.map f).size = t.size := List.length_map f

theorem map_add (f : α → β) (t : Table α) (a : α) :
    (t.add a).2.map f = ((t.map f).add (f a)).2 := by
  simp only [map, add, List.map_append, List.map_cons, List.map_nil]

variable [Inhabited α]

def get (t : Table α) (i : Nat) : α := t.rows.getD i default

/-- Puts a value in place of another; rows that are missing are filled up. -/
def set (t : Table α) (i : Nat) (a : α) : Table α :=
  ⟨(t.rows ++ List.replicate (i + 1 - t.size) default).set i a⟩

def modify (t : Table α) (i : Nat) (f : α → α) : Table α := t.set i (f (t.get i))

/-! ## Reading after writing -/

theorem get_set (t : Table α) (i j : Nat) (a : α) :
    (t.set i a).get j = if i = j then a else t.get j := by
  simp only [get, set, size, List.getD_eq_getElem?_getD, List.getElem?_set, List.length_append,
    List.length_replicate]
  by_cases h : i = j
  · subst h
    simp only [if_true]
    rw [if_pos (by omega)]
    rfl
  · rw [if_neg h, if_neg h, List.getElem?_append]
    split
    · rfl
    · rename_i hj
      rw [List.getElem?_replicate, List.getElem?_eq_none (by omega)]
      split <;> rfl

@[simp] theorem get_set_self (t : Table α) (i : Nat) (a : α) : (t.set i a).get i = a := by
  simp [get_set]

theorem get_set_ne (t : Table α) {i j : Nat} (a : α) (h : i ≠ j) :
    (t.set i a).get j = t.get j := by
  simp [get_set, h]

theorem get_add (t : Table α) (a : α) (j : Nat) :
    (t.add a).2.get j = if j = t.size then a else t.get j := by
  simp only [get, add, size, List.getD_eq_getElem?_getD, List.getElem?_append]
  by_cases h : j = t.rows.length
  · subst h
    simp
  · rw [if_neg h]
    split
    · rfl
    · rename_i hj
      rw [List.getElem?_eq_none (by simp; omega), List.getElem?_eq_none (by omega)]

theorem size_set (t : Table α) (i : Nat) (a : α) : (t.set i a).size = max t.size (i + 1) := by
  simp only [size, set, List.length_set, List.length_append, List.length_replicate]
  omega

/-! ## Writing again -/

theorem set_of_lt (t : Table α) {i : Nat} (h : i < t.size) (a : α) :
    t.set i a = ⟨t.rows.set i a⟩ := by
  have : i + 1 - t.size = 0 := by omega
  rw [set, this, List.replicate_zero, List.append_nil]

theorem lt_size_set (t : Table α) {i : Nat} (h : i < t.size) (j : Nat) (a : α) :
    i < (t.set j a).size := by
  rw [size_set]
  omega

theorem set_get_self (t : Table α) {i : Nat} (h : i < t.size) : t.set i (t.get i) = t := by
  rw [set_of_lt t h, get, List.getD_eq_getElem?_getD, List.getElem?_eq_getElem h]
  exact congrArg Table.mk (List.set_getElem_self h)

theorem set_set (t : Table α) {i : Nat} (h : i < t.size) (a b : α) :
    (t.set i a).set i b = t.set i b := by
  rw [set_of_lt _ (t.lt_size_set h i a), set_of_lt t h, set_of_lt t h, List.set_set]

theorem set_comm (t : Table α) {i j : Nat} (hi : i < t.size) (hj : j < t.size) (h : i ≠ j)
    (a b : α) : (t.set i a).set j b = (t.set j b).set i a := by
  rw [set_of_lt _ (t.lt_size_set hj i a), set_of_lt _ (t.lt_size_set hi j b), set_of_lt t hi,
    set_of_lt t hj]
  exact congrArg Table.mk (List.set_comm a b h)

theorem add_set (t : Table α) {i : Nat} (h : i < t.size) (a b : α) :
    ((t.set i a).add b).2 = (t.add b).2.set i a := by
  have h' : i < (t.add b).2.size := by
    rw [size_add]
    omega
  rw [set_of_lt t h, set_of_lt _ h', add, add]
  exact congrArg Table.mk (List.set_append_left i a h).symm

theorem any_set (t : Table α) {i : Nat} (h : i < t.size) {p : α → Bool} {a : α}
    (ha : p a = p (t.get i)) : (t.set i a).rows.any p = t.rows.any p := by
  have each (rows : List α) : rows.any p = (rows.map p).any id := by rw [List.any_map]; rfl
  have same : (t.rows.set i a).map p = ((t.set i (t.get i)).rows).map p := by
    rw [set_of_lt t h, List.map_set, List.map_set, ha]
  rw [each, set_of_lt t h, same, set_get_self t h, each]

/-! ## All values at once -/

section

variable [Inhabited β] {f : α → β}

theorem get_map (h : f default = default) (t : Table α) (i : Nat) :
    (t.map f).get i = f (t.get i) := by
  simp only [map, get, List.getD_eq_getElem?_getD, List.getElem?_map]
  cases t.rows[i]? with
  | none => exact h.symm
  | some a => rfl

theorem map_set (h : f default = default) (t : Table α) (i : Nat) (a : α) :
    (t.set i a).map f = (t.map f).set i (f a) := by
  simp only [map, set, size, List.map_set, List.map_append, List.map_replicate, List.length_map, h]

end

end Table

end MessageRouter
