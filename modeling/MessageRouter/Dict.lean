/-!
# Dictionaries

A dictionary maps names to values and lists its entries by ascending name, so two
dictionaries with the same entries are equal.  Names compare by code point.
-/

namespace MessageRouter

/-- The entries of a dictionary, by strictly ascending name. -/
structure Dict (α : Type) where
  entries : List (String × α)
  ascending : entries.Pairwise (fun a b => a.1 < b.1)
  deriving DecidableEq

namespace Dict

variable {α : Type}

instance : EmptyCollection (Dict α) := ⟨⟨[], .nil⟩⟩

instance : Inhabited (Dict α) := ⟨∅⟩

def isEmpty (d : Dict α) : Bool := d.entries.isEmpty

def size (d : Dict α) : Nat := d.entries.length

def keys (d : Dict α) : List String := d.entries.map (·.1)

def values (d : Dict α) : List α := d.entries.map (·.2)

/-! ## Lookup -/

/-- The value under `key`, if the dictionary has one. -/
def get? (d : Dict α) (key : String) : Option α := d.entries.lookup key

def contains (d : Dict α) (key : String) : Bool := (d.get? key).isSome

/-! ## Insertion -/

/-- Puts an entry at its place in an ascending list, in place of one with the same name. -/
def insertEntry (key : String) (value : α) : List (String × α) → List (String × α)
  | [] => [(key, value)]
  | (k, v) :: rest =>
    if key < k then (key, value) :: (k, v) :: rest
    else if key = k then (key, value) :: rest
    else (k, v) :: insertEntry key value rest

theorem mem_insertEntry {key : String} {value : α} {l : List (String × α)} {e : String × α}
    (h : e ∈ insertEntry key value l) : e = (key, value) ∨ e ∈ l := by
  induction l with
  | nil => simp_all [insertEntry]
  | cons p rest ih =>
    obtain ⟨k, v⟩ := p
    unfold insertEntry at h
    split at h
    · simpa using h
    · split at h
      · rcases List.mem_cons.1 h with h | h
        · exact .inl h
        · exact .inr (List.mem_cons_of_mem _ h)
      · rcases List.mem_cons.1 h with h | h
        · exact .inr (h ▸ List.mem_cons_self)
        · exact (ih h).imp id (List.mem_cons_of_mem _)

private theorem lt_of_not_lt_of_ne {a b : String} (h : ¬a < b) (h' : ¬a = b) : b < a := by
  rcases Std.lt_trichotomy a b with h₁ | h₁ | h₁
  · exact absurd h₁ h
  · exact absurd h₁ h'
  · exact h₁

theorem pairwise_insertEntry {key : String} {value : α} {l : List (String × α)}
    (h : l.Pairwise (fun a b => a.1 < b.1)) :
    (insertEntry key value l).Pairwise (fun a b => a.1 < b.1) := by
  induction l with
  | nil => simp [insertEntry]
  | cons p rest ih =>
    obtain ⟨k, v⟩ := p
    obtain ⟨hk, hr⟩ := List.pairwise_cons.1 h
    unfold insertEntry
    split
    · rename_i hlt
      refine List.pairwise_cons.2 ⟨fun e he => ?_, h⟩
      rcases List.mem_cons.1 he with he | he
      · exact he ▸ hlt
      · exact Std.lt_trans hlt (hk e he)
    · split
      · rename_i heq
        subst heq
        exact List.pairwise_cons.2 ⟨hk, hr⟩
      · rename_i hlt hne
        refine List.pairwise_cons.2 ⟨fun e he => ?_, ih hr⟩
        rcases mem_insertEntry he with he | he
        · exact he ▸ lt_of_not_lt_of_ne hlt hne
        · exact hk e he

/-- Sets the value under `key`, whether or not there was one. -/
def insert (d : Dict α) (key : String) (value : α) : Dict α :=
  ⟨insertEntry key value d.entries, pairwise_insertEntry d.ascending⟩

/-- Of two entries with one name the later counts. -/
def ofList (entries : List (String × α)) : Dict α :=
  entries.foldl (fun d e => d.insert e.1 e.2) ∅

/-! ## Removal -/

def erase (d : Dict α) (key : String) : Dict α :=
  ⟨d.entries.filter (·.1 != key), d.ascending.filter _⟩

/-! ## Looking up after a change -/

theorem lookup_insertEntry (key other : String) (value : α) (l : List (String × α)) :
    (insertEntry key value l).lookup other =
      if other = key then some value else l.lookup other := by
  induction l with
  | nil =>
    by_cases h : other = key
    · simp [insertEntry, h]
    · have : (other == key) = false := by simpa using h
      simp [insertEntry, List.lookup_cons, h, this]
  | cons p rest ih =>
    obtain ⟨k, v⟩ := p
    unfold insertEntry
    split
    · rename_i hlt
      by_cases h : other = key
      · simp [h]
      · have : (other == key) = false := by simpa using h
        simp [List.lookup_cons, h, this]
    · split
      · rename_i heq
        subst heq
        by_cases h : other = key
        · simp [h]
        · have : (other == key) = false := by simpa using h
          simp [List.lookup_cons, h, this]
      · rename_i hlt hne
        by_cases h : other = k
        · subst h
          have : ¬other = key := fun h => hne h.symm
          simp [this]
        · have : (other == k) = false := by simpa using h
          simp [List.lookup_cons, this, ih]

@[simp] theorem get?_empty (key : String) : (∅ : Dict α).get? key = none := rfl

theorem get?_insert (d : Dict α) (key other : String) (value : α) :
    (d.insert key value).get? other = if other = key then some value else d.get? other :=
  lookup_insertEntry key other value d.entries

theorem lookup_filter_ne (l : List (String × α)) (key other : String) :
    (l.filter (·.1 != key)).lookup other = if other = key then none else l.lookup other := by
  induction l with
  | nil => simp
  | cons p rest ih =>
    obtain ⟨k, v⟩ := p
    by_cases hk : k = key
    · subst hk
      by_cases h : other = k
      · subst h; simpa using ih
      · have : (other == k) = false := by simpa using h
        simp [List.lookup_cons, this, ih]
    · have hk' : (k != key) = true := by simpa using hk
      by_cases h : other = k
      · subst h
        simp [hk, hk']
      · have : (other == k) = false := by simpa using h
        simp [List.lookup_cons, this, hk', ih]

theorem get?_erase (d : Dict α) (key other : String) :
    (d.erase key).get? other = if other = key then none else d.get? other :=
  lookup_filter_ne d.entries key other

@[simp] theorem contains_empty (key : String) : (∅ : Dict α).contains key = false := rfl

theorem contains_insert (d : Dict α) (key other : String) (value : α) :
    (d.insert key value).contains other = (decide (other = key) || d.contains other) := by
  by_cases h : other = key <;> simp [contains, get?_insert, h]

theorem contains_erase (d : Dict α) (key other : String) :
    (d.erase key).contains other = (d.contains other && !decide (other = key)) := by
  by_cases h : other = key <;> simp [contains, get?_erase, h]

/-! ## Entries -/

theorem lookup_eq_some_iff {l : List (String × α)} (hl : l.Pairwise (fun a b => a.1 < b.1))
    {key : String} {value : α} : l.lookup key = some value ↔ (key, value) ∈ l := by
  induction l with
  | nil => simp
  | cons e l ih =>
    obtain ⟨he, hl⟩ := List.pairwise_cons.1 hl
    rw [List.lookup_cons, List.mem_cons]
    by_cases hkey : key = e.1
    · subst hkey
      have hnone : ∀ value, (e.1, value) ∉ l := fun value hmem =>
        absurd (he _ hmem) (String.lt_irrefl _)
      simp [hnone, Prod.ext_iff, eq_comm]
    · have hne : (key == e.1) = false := beq_eq_false_iff_ne.2 hkey
      rw [hne, ih hl]
      simp [Prod.ext_iff, hkey]

theorem get?_eq_some_iff {d : Dict α} {key : String} {value : α} :
    d.get? key = some value ↔ (key, value) ∈ d.entries :=
  lookup_eq_some_iff d.ascending

theorem nodup_entries (d : Dict α) : d.entries.Nodup :=
  d.ascending.imp fun h he => absurd (he ▸ h) (String.lt_irrefl _)

/-! ## Equality -/

theorem lookup_eq_none_of_lt {l : List (String × α)} {key : String} (h : ∀ e ∈ l, key < e.1) :
    l.lookup key = none := by
  induction l with
  | nil => rfl
  | cons p rest ih =>
    obtain ⟨k, v⟩ := p
    have hk : key < k := h _ List.mem_cons_self
    have : (key == k) = false := by
      simp only [beq_eq_false_iff_ne]
      rintro rfl
      exact Std.lt_irrefl hk
    simp [List.lookup_cons, this, ih fun e he => h e (List.mem_cons_of_mem _ he)]

theorem eq_of_lookup_eq {l m : List (String × α)} (hl : l.Pairwise (fun a b => a.1 < b.1))
    (hm : m.Pairwise (fun a b => a.1 < b.1)) (h : ∀ key, l.lookup key = m.lookup key) :
    l = m := by
  induction l generalizing m with
  | nil =>
    cases m with
    | nil => rfl
    | cons q rest =>
      obtain ⟨k, v⟩ := q
      simpa using h k
  | cons p rest ih =>
    obtain ⟨k, v⟩ := p
    obtain ⟨hk, hr⟩ := List.pairwise_cons.1 hl
    cases m with
    | nil => simpa using h k
    | cons q rest' =>
      obtain ⟨k', v'⟩ := q
      obtain ⟨hk', hr'⟩ := List.pairwise_cons.1 hm
      have heq : k = k' := by
        rcases Std.lt_trichotomy k k' with hlt | heq | hlt
        · have hn : List.lookup k ((k', v') :: rest') = none := lookup_eq_none_of_lt fun e he => by
            rcases List.mem_cons.1 he with rfl | he
            · exact hlt
            · exact Std.lt_trans hlt (hk' e he)
          have := (h k).trans hn
          simp at this
        · exact heq
        · have hn : List.lookup k' ((k, v) :: rest) = none := lookup_eq_none_of_lt fun e he => by
            rcases List.mem_cons.1 he with rfl | he
            · exact hlt
            · exact Std.lt_trans hlt (hk e he)
          have := (h k').symm.trans hn
          simp at this
      subst heq
      have hv : v = v' := by simpa using h k
      subst hv
      congr 1
      refine ih hr hr' fun key => ?_
      by_cases hkey : key = k
      · subst hkey
        rw [lookup_eq_none_of_lt hk, lookup_eq_none_of_lt hk']
      · have : (key == k) = false := by simpa using hkey
        simpa [List.lookup_cons, this] using h key

/-- Dictionaries with the same values under all names are equal. -/
theorem ext_get? {d e : Dict α} (h : ∀ key, d.get? key = e.get? key) : d = e := by
  obtain ⟨l, hl⟩ := d
  obtain ⟨m, hm⟩ := e
  have : l = m := eq_of_lookup_eq hl hm h
  subst this
  rfl

end Dict

end MessageRouter
