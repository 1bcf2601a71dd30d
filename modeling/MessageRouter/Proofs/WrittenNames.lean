import MessageRouter.QualifiedName

/-!
# Qualified names in writing

A name in writing is read by its first closing brace, so it is read as another name where braces
stand in its namespace, or around the beginning of a local name without a namespace.  Conversely a
text is not written again as it was if it has an empty namespace in braces:
`QualifiedName.reads_back_iff`.
-/

namespace MessageRouter

namespace QualifiedName

/-- The text begins with a namespace in braces. -/
def IsQualified (s : String) : Prop := ∃ space name, s = "\x7b" ++ space ++ "\x7d" ++ name

/-! ## Reading -/

variable {cs before after : List Char} {s space name : String} {q : QualifiedName}

theorem splitAtBrace?_eq_none : splitAtBrace? cs = none ↔ '\x7d' ∉ cs := by
  induction cs with
  | nil => simp [splitAtBrace?]
  | cons c rest ih =>
    rw [splitAtBrace?]
    split
    · rename_i hc
      simp [hc]
    · rename_i hc
      simp [ih, Ne.symm hc]

theorem splitAtBrace?_eq_some :
    splitAtBrace? cs = some (before, after) ↔ cs = before ++ '\x7d' :: after ∧ '\x7d' ∉ before := by
  induction cs generalizing before with
  | nil => simp [splitAtBrace?]
  | cons c rest ih =>
    rw [splitAtBrace?]
    split
    · rename_i hc
      cases before with
      | nil => simp [hc]
      | cons b before =>
        simp only [Option.some.injEq, Prod.mk.injEq, List.nil_eq, reduceCtorEq, false_and,
          List.cons_append, List.cons.injEq, List.mem_cons, not_or, false_iff, hc]
        exact fun h => h.2.1 h.1.1
    · rename_i hc
      cases before with
      | nil => simp [hc]
      | cons b before =>
        simp only [Option.map_eq_some_iff, Prod.exists, Prod.mk.injEq, List.cons.injEq,
          List.cons_append, List.mem_cons, not_or]
        constructor
        · rintro ⟨before', after', h, ⟨rfl, rfl⟩, rfl⟩
          obtain ⟨rfl, hb⟩ := ih.1 h
          exact ⟨⟨rfl, rfl⟩, Ne.symm hc, hb⟩
        · rintro ⟨⟨rfl, rfl⟩, -, hb⟩
          exact ⟨before, after, ih.2 ⟨rfl, hb⟩, ⟨rfl, rfl⟩, rfl⟩

theorem toList_qualified (space name : String) : ("\x7b" ++ space ++ "\x7d" ++ name).toList =
    '\x7b' :: (space.toList ++ '\x7d' :: name.toList) := by
  simp

/-- A namespace in braces is read up to the first brace that closes it. -/
theorem parse_qualified (h : '\x7d' ∉ space.toList) :
    parse ("\x7b" ++ space ++ "\x7d" ++ name) = ⟨space, name⟩ := by
  rw [parse, toList_qualified, ofChars, if_pos rfl, splitAtBrace?_eq_some.2 ⟨rfl, h⟩]
  simp

/-- An empty namespace in braces is as good as none. -/
theorem parse_unnamedSpace (name : String) : parse ("\x7b\x7d" ++ name) = ⟨"", name⟩ :=
  @parse_qualified "" name (by simp)

/-- All of a text without a namespace in braces is local. -/
theorem parse_local (h : ¬IsQualified s) : parse s = ⟨"", s⟩ := by
  rw [parse]
  cases hs : s.toList with
  | nil => rw [ofChars, ← String.ofList_toList (s := s), hs]
  | cons c rest =>
    rw [ofChars]
    split
    · rename_i hc
      split
      · rename_i before after hb
        obtain ⟨rfl, -⟩ := splitAtBrace?_eq_some.1 hb
        refine absurd ⟨String.ofList before, String.ofList after, ?_⟩ h
        rw [← String.toList_inj, toList_qualified, hs, hc]
        simp
      · rw [← hs, String.ofList_toList]
    · rw [← hs, String.ofList_toList]

/-- The first brace that closes a namespace belongs to it. -/
theorem IsQualified.exists_first (h : IsQualified s) :
    ∃ space name, '\x7d' ∉ space.toList ∧ s = "\x7b" ++ space ++ "\x7d" ++ name := by
  obtain ⟨space, name, rfl⟩ := h
  rcases hb : splitAtBrace? (space.toList ++ '\x7d' :: name.toList) with _ | ⟨before, after⟩
  · exact absurd (List.mem_append_right _ List.mem_cons_self) (splitAtBrace?_eq_none.1 hb)
  · obtain ⟨split, none⟩ := splitAtBrace?_eq_some.1 hb
    refine ⟨String.ofList before, String.ofList after, by simpa using none, ?_⟩
    rw [← String.toList_inj, toList_qualified, toList_qualified, split]
    simp

/-- What is read as a namespace has no closing brace. -/
theorem not_mem_space_parse (s : String) : '\x7d' ∉ (parse s).space.toList := by
  by_cases h : IsQualified s
  · obtain ⟨space, name, none, rfl⟩ := h.exists_first
    rwa [parse_qualified none]
  · rw [parse_local h]
    simp

/-! ## Writing -/

theorem text_of_ne (h : q.space ≠ "") : q.text = "\x7b" ++ q.space ++ "\x7d" ++ q.name := if_neg h

theorem text_of_eq (h : q.space = "") : q.text = q.name := if_pos h

theorem ne_qualified (space name : String) : name ≠ "\x7b" ++ space ++ "\x7d" ++ name := by
  intro h
  have := congrArg (fun s => s.toList.length) h
  simp only [toList_qualified, List.length_cons, List.length_append] at this
  omega

/-- A name is read back if its namespace has no closing brace; without a namespace it must not
begin with one in braces. -/
theorem parse_text_eq_self_iff : parse q.text = q ↔
    q.space ≠ "" ∧ '\x7d' ∉ q.space.toList ∨ q.space = "" ∧ ¬IsQualified q.name := by
  by_cases hs : q.space = ""
  · simp only [hs, ne_eq, not_true_eq_false, false_and, true_and, false_or]
    rw [text_of_eq hs]
    constructor
    · intro h qualified
      obtain ⟨space, name, none, hn⟩ := qualified.exists_first
      rw [hn, parse_qualified none] at h
      have : name = q.name := congrArg QualifiedName.name h
      exact ne_qualified space name (this.trans hn)
    · intro h
      rw [parse_local h, ← hs]
  · simp only [hs, ne_eq, not_false_eq_true, true_and, false_and, or_false]
    constructor
    · intro h
      rw [← h]
      exact not_mem_space_parse _
    · intro none
      rw [text_of_ne hs, parse_qualified none]

/-- A text is written as it was read, unless its namespace in braces is empty. -/
theorem text_parse_eq_self_iff : (parse s).text = s ↔ ¬∃ rest, s = "\x7b\x7d" ++ rest := by
  constructor
  · rintro h ⟨rest, rfl⟩
    rw [parse_unnamedSpace, text_of_eq rfl] at h
    exact ne_qualified "" rest h
  · intro h
    by_cases qualified : IsQualified s
    · obtain ⟨space, name, none, rfl⟩ := qualified.exists_first
      rw [parse_qualified none, text_of_ne]
      rintro rfl
      exact h ⟨name, rfl⟩
    · rw [parse_local qualified, text_of_eq rfl]

/-- A name is read back from its written form if and only if its namespace is not empty and has no
closing brace, or is empty and the local name does not begin with a namespace in braces.  A text is
written as it was read if and only if it does not begin with an empty namespace in braces.  So what
was read from a text is read as another name from its written form exactly if a further namespace
in braces follows an empty one. -/
theorem reads_back_iff :
    (∀ q : QualifiedName, parse q.text = q ↔
      q.space ≠ "" ∧ '\x7d' ∉ q.space.toList ∨
        q.space = "" ∧ ¬∃ a b, q.name = "\x7b" ++ a ++ "\x7d" ++ b) ∧
    (∀ t : String, (parse t).text = t ↔ ¬∃ rest, t = "\x7b\x7d" ++ rest) ∧
    ∀ t : String, parse (parse t).text ≠ parse t ↔
      ∃ a b, t = "\x7b\x7d\x7b" ++ a ++ "\x7d" ++ b := by
  refine ⟨fun q => parse_text_eq_self_iff, fun t => text_parse_eq_self_iff, fun t => ?_⟩
  constructor
  · intro h
    by_cases begins : ∃ rest, t = "\x7b\x7d" ++ rest
    · obtain ⟨rest, rfl⟩ := begins
      rw [parse_unnamedSpace, ne_eq, parse_text_eq_self_iff] at h
      obtain ⟨a, b, rfl⟩ : IsQualified rest :=
        Classical.byContradiction fun unqualified => h (.inr ⟨rfl, unqualified⟩)
      exact ⟨a, b, by simp [← String.toList_inj]⟩
    · exact absurd (congrArg parse (text_parse_eq_self_iff.2 begins)) h
  · rintro ⟨a, b, rfl⟩
    have : "\x7b\x7d\x7b" ++ a ++ "\x7d" ++ b = "\x7b\x7d" ++ ("\x7b" ++ a ++ "\x7d" ++ b) := by
      simp [← String.toList_inj]
    rw [this, parse_unnamedSpace, ne_eq, parse_text_eq_self_iff]
    rintro (⟨ne, -⟩ | ⟨-, unqualified⟩)
    · exact ne rfl
    · exact unqualified ⟨a, b, rfl⟩

/-- An operation without a namespace is read back as one with a namespace. -/
example : parse (parse "\x7b\x7d\x7bns\x7dop").text = ⟨"ns", "op"⟩ := by decide +kernel

end QualifiedName

end MessageRouter
