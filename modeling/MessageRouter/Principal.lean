import MessageRouter.Dict
import MessageRouter.Text.Blank

/-!
# Principals

A principal is a named group of callers.  A caller's subject and an access list are both sets of
principals; the principal `*` in an access list stands for every caller.
-/

namespace MessageRouter

/-- The name of a group of callers. -/
abbrev Principal := String

/-- The principal that stands for every caller. -/
def Principal.any : Principal := "*"

/-- A set of principals, listed by name. -/
abbrev PrincipalSet := Dict Unit

namespace PrincipalSet

def add (s : PrincipalSet) (p : Principal) : PrincipalSet := s.insert p ()

def ofList (ps : List Principal) : PrincipalSet := ps.foldl add ∅

/-- The members by name. -/
def toList (s : PrincipalSet) : List Principal := s.keys

def union (s t : PrincipalSet) : PrincipalSet := t.toList.foldl add s

def difference (s t : PrincipalSet) : PrincipalSet := t.toList.foldl Dict.erase s

/-- The two sets have a member in common. -/
def intersects (s t : PrincipalSet) : Bool := s.toList.any t.contains

/-! ## Members -/

theorem mem_toList {s : PrincipalSet} {p : Principal} : p ∈ s.toList ↔ s.contains p = true := by
  simp only [toList, Dict.keys, Dict.contains, Dict.get?]
  induction s.entries with
  | nil => simp
  | cons e rest ih =>
    obtain ⟨q, u⟩ := e
    by_cases h : p = q
    · simp [h]
    · have : (p == q) = false := by simpa using h
      simp [List.lookup_cons, this, h, ← ih]

theorem contains_foldl_add (ps : List Principal) (s : PrincipalSet) (p : Principal) :
    (ps.foldl add s).contains p = (decide (p ∈ ps) || s.contains p) := by
  induction ps generalizing s with
  | nil => simp
  | cons q rest ih =>
    rw [List.foldl_cons, ih, add, Dict.contains_insert]
    by_cases h : p = q <;> simp [h]

theorem contains_foldl_erase (ps : List Principal) (s : PrincipalSet) (p : Principal) :
    (ps.foldl Dict.erase s).contains p = (s.contains p && !decide (p ∈ ps)) := by
  induction ps generalizing s with
  | nil => simp
  | cons q rest ih =>
    rw [List.foldl_cons, ih, Dict.contains_erase]
    by_cases h : p = q <;> simp [h]

@[simp] theorem contains_ofList (ps : List Principal) (p : Principal) :
    (ofList ps).contains p = decide (p ∈ ps) := by
  rw [ofList, contains_foldl_add, Dict.contains_empty, Bool.or_false]

@[simp] theorem contains_union (s t : PrincipalSet) (p : Principal) :
    (s.union t).contains p = (s.contains p || t.contains p) := by
  simp [union, contains_foldl_add, mem_toList, Bool.or_comm]

@[simp] theorem contains_difference (s t : PrincipalSet) (p : Principal) :
    (s.difference t).contains p = (s.contains p && !t.contains p) := by
  simp [difference, contains_foldl_erase, mem_toList]

/-! ## Reading -/

/-- The principals of a list with commas, without the white space around them; blanks count for
nothing. -/
def parse (s : String) : PrincipalSet :=
  ofList (((s.splitOn ",").map Text.trimmed).filter (· ≠ ""))

end PrincipalSet

end MessageRouter
