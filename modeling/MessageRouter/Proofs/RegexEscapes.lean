import Mathlib.Data.List.Infix
import Mathlib.Data.List.TakeWhile
import MessageRouter.Regex.Parser

/-!
# Reading an escape that something follows

An anchored pattern goes on with a parenthesis and an anchor behind the pattern that was given.
A reader that stays in front of them reads what it reads of the pattern alone, and one that has
gone beyond them never finds a way back (`Regex.Agrees`).  Here this is shown of white space and
escapes.

What a reader leaves is the end of what it was given.  This keeps a reader that has gone beyond the
pattern there, and it says how many more steps there can be.
-/

namespace MessageRouter.Regex

/-- What follows a pattern that is anchored. -/
def closing : List Char := [')', '$']

/-- Less is left than what follows the pattern. -/
def Crossed (rest : List Char) : Prop := rest <:+ ['$']

variable {k k₁ : Cursor} {cs rest taken ds : List Char} {fuel fuel' : Nat} {c : Char}

theorem crossed_nil : Crossed [] := List.nil_suffix

theorem Crossed.of_suffix {left : List Char} (h : Crossed rest) (hs : left <:+ rest) :
    Crossed left := hs.trans h

/-- A text with a character that the closing does not have is no end of the closing. -/
theorem not_suffix_closing {left : List Char} (hc : c ∉ closing) (h : c :: rest <:+ left) :
    ¬left <:+ closing := fun hleft => hc ((h.trans hleft).subset List.mem_cons_self)

theorem Crossed.suffix_closing (h : Crossed rest) : rest <:+ closing :=
  h.trans (List.suffix_cons _ _)

/-- A text does not start with another character than its first one. -/
theorem cons_ne_cons {d : Char} (h : c ≠ d) (cs : List Char) :
    ∀ tail, c :: cs = d :: tail → False := fun _ heq => h (List.cons.inj heq).1

/-! ## White space and comments -/

theorem dropWhile_pasted (p : Char → Bool) (hp : p ')' = false) (cs : List Char) :
    (cs ++ closing).dropWhile p = cs.dropWhile p ++ closing := by
  rw [List.dropWhile_append]
  split
  next h => simp [closing, hp, List.isEmpty_iff.1 h]
  next => rfl

/-- A comment ends where its line ends, or it takes all that follows the pattern. -/
theorem dropLine_pasted (cs : List Char) :
    (cs ++ closing).dropWhile (· != '\n') = [] ∨
      (cs ++ closing).dropWhile (· != '\n') = cs.dropWhile (· != '\n') ++ closing := by
  rw [List.dropWhile_append]
  split
  next => exact .inl (by decide)
  next => exact .inr rfl

namespace Cursor

theorem dropSpace_suffix (fuel : Nat) (cs : List Char) : dropSpace fuel cs <:+ cs := by
  induction fuel generalizing cs with
  | zero => exact List.suffix_rfl
  | succ fuel ih =>
    have hblank := List.dropWhile_suffix (l := cs) Text.isBlank
    rw [dropSpace]
    split
    next rest hrest =>
      rw [hrest] at hblank
      exact (ih _).trans ((List.dropWhile_suffix _).trans ((List.suffix_cons _ _).trans hblank))
    next => exact hblank

theorem dropSpace_nil (fuel : Nat) : dropSpace fuel [] = [] := by
  cases fuel <;> rfl

theorem dropSpace_pasted (hfuel : cs.length < fuel) (hfuel' : cs.length < fuel') :
    dropSpace fuel' (cs ++ closing) = [] ∨
      dropSpace fuel' (cs ++ closing) = dropSpace fuel cs ++ closing := by
  induction fuel generalizing fuel' cs with
  | zero => omega
  | succ fuel ih =>
    obtain ⟨fuel', rfl⟩ : ∃ n, fuel' = n + 1 := ⟨fuel' - 1, by omega⟩
    have hlen := (List.dropWhile_suffix (l := cs) Text.isBlank).length_le
    rw [dropSpace, dropSpace, dropWhile_pasted _ (by decide)]
    cases hrest : cs.dropWhile Text.isBlank with
    | nil => exact .inr rfl
    | cons c rest =>
      by_cases hc : c = '#'
      · subst hc
        have hline := (List.dropWhile_suffix (l := rest) (· != '\n')).length_le
        rw [hrest, List.length_cons] at hlen
        rcases dropLine_pasted rest with hpasted | hpasted
        · exact .inl (by simp [hpasted, dropSpace_nil])
        · simp only [List.cons_append, hpasted]
          exact ih (by omega) (by omega)
      · simp [hc]

/-- The same place in a text that goes on with what follows an anchored pattern. -/
def pasted (k : Cursor) : Cursor := k.jump (k.rest ++ closing)

@[simp] theorem pasted_rest (k : Cursor) : k.pasted.rest = k.rest ++ closing := rfl

@[simp] theorem pasted_flags (k : Cursor) : k.pasted.flags = k.flags := rfl

@[simp] theorem jump_rest (k : Cursor) (cs : List Char) : (k.jump cs).rest = cs := rfl

@[simp] theorem jump_flags (k : Cursor) (cs : List Char) : (k.jump cs).flags = k.flags := rfl

@[simp] theorem pasted_jump (k : Cursor) (cs : List Char) : k.pasted.jump cs = k.jump cs := rfl

@[simp] theorem pasted_past (k : Cursor) (cs : List Char) : k.pasted.past cs = k.past cs := rfl

@[simp] theorem jump_jump (k : Cursor) (left cs : List Char) : (k.jump left).jump cs = k.jump cs :=
  rfl

@[simp] theorem jump_past (k : Cursor) (left cs : List Char) : (k.jump left).past cs = k.past cs :=
  rfl

theorem skipSpace_suffix (k : Cursor) : k.skipSpace.rest <:+ k.rest := by
  rw [skipSpace]
  split
  · exact dropSpace_suffix _ _
  · exact List.suffix_rfl

theorem skipSpace_eq (k : Cursor) : k.skipSpace = k.jump k.skipSpace.rest := by
  unfold skipSpace
  split <;> rfl

@[simp] theorem skipSpace_flags (k : Cursor) : k.skipSpace.flags = k.flags := by
  rw [skipSpace_eq, jump_flags]

theorem skipSpace_pasted (k : Cursor) :
    k.pasted.skipSpace.rest = [] ∨ k.pasted.skipSpace = k.skipSpace.pasted := by
  cases hflag : k.flags.ignoreSpace with
  | false => simp [skipSpace, hflag]
  | true =>
    have hlen : k.rest.length < k.pasted.rest.length + 1 := by
      rw [pasted_rest, List.length_append]
      omega
    rcases dropSpace_pasted (Nat.lt_succ_self k.rest.length) hlen with hdrop | hdrop
    · exact .inl (by rw [skipSpace, pasted_flags, if_pos hflag]; exact hdrop)
    · refine .inr ?_
      rw [skipSpace, skipSpace, pasted_flags, if_pos hflag, if_pos hflag]
      exact congrArg k.jump hdrop

theorem past_suffix (k : Cursor) (cs : List Char) : (k.past cs).rest <:+ cs :=
  (k.jump cs).skipSpace_suffix

theorem past_pasted (k : Cursor) (cs : List Char) :
    (k.past (cs ++ closing)).rest = [] ∨ k.past (cs ++ closing) = (k.past cs).pasted :=
  (k.jump cs).skipSpace_pasted

end Cursor

/-! ## Cursors

A reader of an escape or of bounds is told the text apart from the cursor, so it does not matter
where the cursor stands. -/

section Cursors

variable (k : Cursor) (left cs : List Char)

theorem readBraced?_jump (fuel : Nat) (taken : List Char) :
    readBraced? (k.jump left) fuel taken cs = readBraced? k fuel taken cs := by
  induction fuel generalizing taken cs with
  | zero => rfl
  | succ fuel ih => simp only [readBraced?, Cursor.jump_past, ih]

theorem readDigits?_jump (count : Nat) :
    readDigits? (k.jump left) count cs = readDigits? k count cs := by
  induction count generalizing cs with
  | zero => rfl
  | succ count ih => simp only [readDigits?, Cursor.jump_past, ih]

theorem readHex?_jump (count : Nat) :
    readHex? (k.jump left) count cs = readHex? k count cs := by
  simp only [readHex?, Cursor.jump_past, readBraced?_jump, readDigits?_jump]

theorem readProperty?_jump (negated : Bool) :
    readProperty? (k.jump left) negated cs = readProperty? k negated cs := by
  simp only [readProperty?, Cursor.jump_past, Cursor.jump_jump, Cursor.jump_flags,
    readBraced?_jump]

theorem readBoundary?_jump : readBoundary? (k.jump left) cs = readBoundary? k cs := by
  simp only [readBoundary?, Cursor.jump_past, Cursor.jump_jump, Cursor.jump_flags,
    readBraced?_jump]

theorem readEscape?_jump : readEscape? (k.jump left) cs = readEscape? k cs := by
  cases cs with
  | nil => rfl
  | cons c cs =>
    simp only [readEscape?, Cursor.jump_past, Cursor.jump_jump, Cursor.jump_flags,
      readHex?_jump, readProperty?_jump, readBoundary?_jump]

theorem readCount?_jump : readCount? (k.jump left) cs = readCount? k cs := by
  have hdigits : ∀ fuel ds cs,
      readCount?.digits (k.jump left) fuel ds cs = readCount?.digits k fuel ds cs := by
    intro fuel
    induction fuel with
    | zero => exact fun _ _ => rfl
    | succ fuel ih =>
      intro ds cs
      cases cs <;> simp only [readCount?.digits, Cursor.jump_past, ih]
  simp only [readCount?, Cursor.jump_past, hdigits]

theorem readBounds?_jump : readBounds? (k.jump left) cs = readBounds? k cs := by
  simp only [readBounds?, Cursor.jump_past, readCount?_jump]

end Cursors

/-! ## Agreement -/

/-- What is read of a text that goes on behind the pattern is what is read of the pattern, unless
the reader has gone beyond the pattern. -/
def Agrees {α : Type} (long short : Option (α × Cursor)) : Prop :=
  ∀ a k, long = some (a, k) → Crossed k.rest ∨ ∃ k', k = k'.pasted ∧ short = some (a, k')

/-- The same of a reader that only says what is left. -/
def AgreesText {α : Type} (long short : Option (α × List Char)) : Prop :=
  ∀ a rest, long = some (a, rest) →
    Crossed rest ∨ ∃ left, rest = left ++ closing ∧ short = some (a, left)

section Agreement

variable {α β : Type}

theorem agrees_none (short : Option (α × Cursor)) : Agrees none short := nofun

theorem agrees_some (a : α) (h : Crossed k.rest ∨ k = k₁.pasted) :
    Agrees (some (a, k)) (some (a, k₁)) := by
  rintro _ _ ⟨⟩
  exact h.imp_right fun h => ⟨k₁, h, rfl⟩

theorem agrees_past (k : Cursor) (a : α) (cs : List Char) :
    Agrees (some (a, k.past (cs ++ closing))) (some (a, k.past cs)) := by
  refine agrees_some a ((k.past_pasted cs).imp_left fun h => ?_)
  rw [h]
  exact crossed_nil

theorem agrees_jump (k : Cursor) (a : α) (cs : List Char) :
    Agrees (some (a, k.jump (cs ++ closing))) (some (a, k.jump cs)) :=
  agrees_some a (.inr rfl)

theorem Agrees.map {long short : Option (α × Cursor)} (h : Agrees long short) (f : α → β) :
    Agrees (long.map fun (a, k) => (f a, k)) (short.map fun (a, k) => (f a, k)) := by
  intro b k hb
  obtain ⟨⟨a, k⟩, ha, hb⟩ := Option.map_eq_some_iff.1 hb
  cases hb
  refine (h a k ha).imp_right ?_
  rintro ⟨k', hk', hshort⟩
  exact ⟨k', hk', by simp [hshort]⟩

theorem agrees_bind {o : Option α} {long short : α → Option (β × Cursor)}
    (h : ∀ a, o = some a → Agrees (long a) (short a)) : Agrees (o >>= long) (o >>= short) := by
  cases o with
  | none => exact agrees_none _
  | some a => exact h a rfl

theorem AgreesText.bind {long short : Option (α × List Char)}
    {next : α × List Char → Option (β × Cursor)} (h : AgreesText long short)
    (hcrossed : ∀ a rest b k, Crossed rest → next (a, rest) = some (b, k) → Crossed k.rest)
    (hnext : ∀ a left, Agrees (next (a, left ++ closing)) (next (a, left))) :
    Agrees (long >>= next) (short >>= next) := by
  intro b k hb
  obtain ⟨⟨a, rest⟩, ha, hb⟩ := Option.bind_eq_some_iff.1 hb
  obtain hcross | ⟨left, rfl, hshort⟩ := h a rest ha
  · exact .inl (hcrossed a rest b k hcross hb)
  · simpa [hshort] using hnext a left b k hb

end Agreement

/-! ## Escapes -/

theorem readBraced?_suffix (h : readBraced? k fuel taken cs = some (ds, rest)) :
    '\x7d' :: rest <:+ cs := by
  induction fuel generalizing taken cs with
  | zero => cases h
  | succ fuel ih =>
    have hpast := k.past_suffix cs
    rw [readBraced?.eq_def] at h
    dsimp only at h
    split at h
    · cases h
    next hrest =>
      cases h
      rwa [hrest] at hpast
    next hrest =>
      rw [hrest] at hpast
      exact (ih h).trans ((List.suffix_cons _ _).trans hpast)

/-- What stands between braces is read in front of what follows the pattern. -/
theorem readBraced?_pasted (hfuel : cs.length < fuel)
    (h : readBraced? k fuel' taken (cs ++ closing) = some (ds, rest)) :
    ∃ left, rest = left ++ closing ∧ readBraced? k fuel taken cs = some (ds, left) := by
  induction fuel' generalizing fuel taken cs with
  | zero => cases h
  | succ fuel' ih =>
    obtain ⟨fuel, rfl⟩ : ∃ n, fuel = n + 1 := ⟨fuel - 1, by omega⟩
    have hlen := (k.past_suffix cs).length_le
    rw [readBraced?] at h ⊢
    rcases k.past_pasted cs with hpast | hpast
    · simp [hpast] at h
    rw [hpast, Cursor.pasted_rest] at h
    cases hrest : (k.past cs).rest with
    | nil =>
      -- nothing closes the brace behind the pattern
      rw [hrest] at h
      have hsuffix : '\x7d' :: rest <:+ ['$'] := readBraced?_suffix h
      exact absurd (hsuffix.subset List.mem_cons_self) (by decide)
    | cons c rest =>
      rw [hrest] at h hlen
      by_cases hc : c = '\x7d'
      · subst hc
        cases h
        exact ⟨rest, rfl, rfl⟩
      · simp only [List.cons_append] at h ⊢
        exact ih (by simp at hlen; omega) h

theorem readDigits?_suffix {count : Nat} (h : readDigits? k count cs = some (ds, rest)) :
    rest <:+ cs := by
  induction count generalizing cs ds with
  | zero =>
    cases h
    exact List.suffix_rfl
  | succ count ih =>
    have hpast := k.past_suffix cs
    rw [readDigits?.eq_def] at h
    dsimp only at h
    split at h
    next hrest =>
      rw [hrest] at hpast
      obtain ⟨⟨ds, rest⟩, hdigits, h⟩ := Option.map_eq_some_iff.1 h
      cases h
      exact (ih hdigits).trans ((List.suffix_cons _ _).trans hpast)
    · cases h

theorem readDigits?_pasted (k : Cursor) (count : Nat) (cs : List Char) :
    AgreesText (readDigits? k count (cs ++ closing)) (readDigits? k count cs) := by
  induction count generalizing cs with
  | zero =>
    rintro _ _ ⟨⟩
    exact .inr ⟨cs, rfl, rfl⟩
  | succ count ih =>
    intro ds rest h
    rw [readDigits?] at h ⊢
    rcases k.past_pasted cs with hpast | hpast
    · simp [hpast] at h
    rw [hpast, Cursor.pasted_rest] at h
    cases hrest : (k.past cs).rest with
    | nil =>
      rw [hrest] at h
      obtain ⟨⟨ds, rest⟩, hdigits, h⟩ := Option.map_eq_some_iff.1 h
      cases h
      exact .inl (readDigits?_suffix hdigits)
    | cons c rest =>
      rw [hrest] at h
      obtain ⟨⟨ds, rest⟩, hdigits, h⟩ := Option.map_eq_some_iff.1 h
      cases h
      refine (ih _ _ _ hdigits).imp_right ?_
      rintro ⟨left, hleft, hdigits⟩
      exact ⟨left, hleft, by simp [hdigits]⟩

/-- The character with a number, given its digits and what follows them. -/
def readNumber? (k : Cursor) (digits : List Char × List Char) : Option (Char × Cursor) := do
  let c ← (hexNumber? digits.1).bind charOf?
  return (c, k.past digits.2)

theorem readNumber?_suffix (h : readNumber? k (ds, rest) = some (c, k₁)) : k₁.rest <:+ rest := by
  obtain ⟨c, -, h⟩ := Option.bind_eq_some_iff.1 h
  cases h
  exact k.past_suffix rest

theorem readNumber?_pasted (k : Cursor) (ds left : List Char) :
    Agrees (readNumber? k (ds, left ++ closing)) (readNumber? k (ds, left)) :=
  agrees_bind fun c _ => agrees_past k c left

theorem readDigits?_number_pasted (k : Cursor) (count : Nat) (cs : List Char) :
    Agrees (readDigits? k count (cs ++ closing) >>= readNumber? k)
      (readDigits? k count cs >>= readNumber? k) :=
  (readDigits?_pasted k count cs).bind
    (fun _ _ _ _ hrest h => hrest.of_suffix (readNumber?_suffix h)) fun ds left =>
      readNumber?_pasted k ds left

theorem readHex?_suffix {count : Nat} (h : readHex? k count cs = some (c, k₁)) :
    k₁.rest <:+ (k.past cs).rest := by
  rw [readHex?.eq_def] at h
  split at h
  next rest hrest =>
    obtain ⟨⟨ds, left⟩, hds, h⟩ := Option.bind_eq_some_iff.1 h
    dsimp only at h
    split at h
    · cases h
    · have := (List.suffix_cons _ _).trans (readBraced?_suffix hds)
      rw [hrest]
      exact (readNumber?_suffix h).trans (this.trans (List.suffix_cons _ _))
  next =>
    obtain ⟨⟨ds, left⟩, hds, h⟩ := Option.bind_eq_some_iff.1 h
    exact (readNumber?_suffix h).trans (readDigits?_suffix hds)

theorem readHex?_pasted (k : Cursor) (count : Nat) (cs : List Char) :
    Agrees (readHex? k count (cs ++ closing)) (readHex? k count cs) := by
  rcases k.past_pasted cs with hpast | hpast
  · intro c k₁ h
    have := readHex?_suffix h
    rw [hpast] at this
    exact .inl (crossed_nil.of_suffix this)
  rw [readHex?.eq_def, readHex?.eq_def k count cs, hpast, Cursor.pasted_rest]
  cases hrest : (k.past cs).rest with
  | nil => exact readDigits?_number_pasted k count []
  | cons c rest =>
    by_cases hc : c = '\x7b'
    · subst hc
      intro c k' h
      obtain ⟨⟨ds, left⟩, hds, h⟩ := Option.bind_eq_some_iff.1 h
      obtain ⟨left, rfl, hds'⟩ := readBraced?_pasted (Nat.lt_succ_self rest.length) hds
      dsimp only at h ⊢
      simp only [hds', Option.bind_some, bind] at h ⊢
      split at h
      · cases h
      next hne =>
        rw [if_neg hne]
        exact readNumber?_pasted k ds left c k' h
    · have hne := cons_ne_cons hc rest
      have hne' := cons_ne_cons hc (rest ++ closing)
      simp only [List.cons_append]
      exact readDigits?_number_pasted k count (c :: rest)

/-- The set with a name, given the name and what follows it. -/
def readNamed? (k : Cursor) (negated : Bool) (name : List Char × List Char) :
    Option (CharSet × Cursor) := do
  let (s, isOther) ← CharSet.ofProperty? name.1
  let s ← negate? k.flags (negated != isOther) (fold k.flags s)
  return (s, k.jump name.2)

theorem readNamed?_rest {negated : Bool} {name : List Char} {set : CharSet}
    (h : readNamed? k negated (name, rest) = some (set, k₁)) : k₁.rest = rest := by
  obtain ⟨⟨other, isOther⟩, -, h⟩ := Option.bind_eq_some_iff.1 h
  obtain ⟨s, -, h⟩ := Option.bind_eq_some_iff.1 h
  cases h
  rfl

theorem readNamed?_pasted (k : Cursor) (negated : Bool) (name left : List Char) :
    Agrees (readNamed? k negated (name, left ++ closing)) (readNamed? k negated (name, left)) :=
  agrees_bind fun _ _ => agrees_bind fun s _ => agrees_jump k s left

theorem readProperty?_suffix {negated : Bool} {set : CharSet}
    (h : readProperty? k negated cs = some (set, k₁)) : k₁.rest <:+ (k.past cs).rest.tail := by
  rw [readProperty?.eq_def] at h
  dsimp only at h
  split at h
  · cases h
  split at h
  next hpast =>
    obtain ⟨⟨name, rest⟩, hname, h⟩ := Option.bind_eq_some_iff.1 h
    rw [hpast, readNamed?_rest h]
    exact (List.suffix_cons _ _).trans (readBraced?_suffix hname)
  next hpast =>
    rw [hpast, readNamed?_rest h]
    exact List.suffix_rfl
  · cases h

theorem readProperty?_pasted (k : Cursor) (negated : Bool) (cs : List Char) :
    Agrees (readProperty? k negated (cs ++ closing)) (readProperty? k negated cs) := by
  intro set k₁ h
  have hsuffix := readProperty?_suffix h
  rcases k.past_pasted cs with hpast | hpast
  · rw [hpast] at hsuffix
    exact .inl (crossed_nil.of_suffix hsuffix)
  rw [readProperty?.eq_def, hpast, Cursor.pasted_rest] at h
  rw [readProperty?.eq_def]
  dsimp only at h ⊢
  split at h
  · cases h
  next hunicode =>
    rw [if_neg hunicode]
    cases hrest : (k.past cs).rest with
    | nil =>
      rw [hpast, Cursor.pasted_rest, hrest] at hsuffix
      exact .inl hsuffix
    | cons c left =>
      rw [hrest] at h
      by_cases hc : c = '\x7b'
      · subst hc
        obtain ⟨⟨name, rest⟩, hname, h⟩ := Option.bind_eq_some_iff.1 h
        obtain ⟨left', rfl, hname'⟩ := readBraced?_pasted (Nat.lt_succ_self left.length) hname
        simp only [hname']
        exact readNamed?_pasted k negated name left' set k₁ h
      · have hne := cons_ne_cons hc left
        have hne' := cons_ne_cons hc (left ++ closing)
        simp only [List.cons_append] at h ⊢
        exact readNamed?_pasted k negated [c] left set k₁ h

/-- A condition on words in front of a brace that nothing stands behind. -/
def Dangles (k : Cursor) (rest : List Char) : Prop :=
  ∃ tail, rest = '\x7b' :: tail ∧ (k.past tail).rest = closing

theorem readBoundary?_suffix {a : Anchor} (h : readBoundary? k cs = some (a, k₁)) :
    k₁.rest <:+ cs := by
  rw [readBoundary?.eq_def] at h
  dsimp only at h
  split at h
  next rest =>
    have hpast := k.past_suffix rest
    split at h
    · cases h
    next hrest =>
      split at h
      · obtain ⟨⟨name, rest'⟩, hname, h⟩ := Option.bind_eq_some_iff.1 h
        dsimp only at h
        split at h
        · cases h
        obtain ⟨a, -, h⟩ := Option.bind_eq_some_iff.1 h
        cases h
        have := (List.suffix_cons _ _).trans (readBraced?_suffix hname)
        exact this.trans (List.suffix_cons _ _)
      · cases h
        exact List.suffix_rfl
  · cases h
    exact List.suffix_rfl

theorem readBoundary?_pasted {a : Anchor} (h : readBoundary? k (cs ++ closing) = some (a, k₁)) :
    (∃ k', k₁ = k'.pasted ∧ readBoundary? k cs = some (a, k')) ∨
      ∃ rest, k₁ = k.jump rest ∧ Dangles k rest := by
  rw [readBoundary?.eq_def] at h ⊢
  dsimp only at h ⊢
  cases cs with
  | nil =>
    cases h
    exact .inl ⟨_, rfl, rfl⟩
  | cons c rest =>
    by_cases hc : c = '\x7b'
    · subst hc
      simp only [List.cons_append] at h ⊢
      rcases k.past_pasted rest with hpast | hpast
      · simp [hpast] at h
      cases hrest : (k.past rest).rest with
      | nil =>
        rw [hpast, Cursor.pasted_rest, hrest] at h
        cases h
        refine .inr ⟨_, rfl, _, rfl, ?_⟩
        rw [hpast, Cursor.pasted_rest, hrest]
        rfl
      | cons c left =>
        rw [hpast, Cursor.pasted_rest, hrest] at h
        dsimp only [List.cons_append] at h ⊢
        split at h
        next hname =>
          rw [if_pos hname]
          obtain ⟨⟨name, rest'⟩, hread, h⟩ := Option.bind_eq_some_iff.1 h
          obtain ⟨left', rfl, hread'⟩ := readBraced?_pasted (Nat.lt_succ_self rest.length) hread
          dsimp only at h
          split at h
          · cases h
          next hall =>
            obtain ⟨a, ha, h⟩ := Option.bind_eq_some_iff.1 h
            cases h
            refine .inl ⟨k.jump left', rfl, ?_⟩
            simp only [hread', bind, Option.bind_some, if_neg hall, ha]
            rfl
        next hname =>
          rw [if_neg hname]
          cases h
          exact .inl ⟨_, rfl, rfl⟩
    · have hne := cons_ne_cons hc rest
      have hne' := cons_ne_cons hc (rest ++ closing)
      simp only [List.cons_append] at h ⊢
      cases h
      exact .inl ⟨_, rfl, rfl⟩

theorem readEscape?_suffix {e : Escaped} (h : readEscape? k cs = some (e, k₁)) :
    k₁.rest <:+ cs.tail := by
  cases cs with
  | nil => cases h
  | cons c rest =>
    have hplain : ∀ {e'}, some (e', k.jump rest) = some (e, k₁) → k₁.rest <:+ rest := by
      rintro _ ⟨⟩
      exact List.suffix_rfl
    have hpast := k.past_suffix rest
    rw [readEscape?.eq_def] at h
    dsimp only at h
    rw [List.tail_cons]
    split at h
    all_goals first
      | exact hplain h
      | obtain ⟨⟨a, k'⟩, ha, h⟩ := Option.map_eq_some_iff.1 h
        cases h
        first
        | exact (readHex?_suffix ha).trans hpast
        | exact (readProperty?_suffix ha).trans ((List.tail_suffix _).trans hpast)
        | exact readBoundary?_suffix ha
      | skip
    -- what is left are the classes and the characters that stand for themselves
    split at h
    · obtain ⟨s, -, h⟩ := Option.bind_eq_some_iff.1 h
      exact hplain h
    · split at h
      · exact hplain h
      · cases h

/-- Behind a backslash a reader can also stop in front of a brace that nothing closes: it has read
a condition on words then, and the pattern alone does not even stand for that. -/
theorem readEscape?_pasted {e : Escaped} (h : readEscape? k (cs ++ closing) = some (e, k₁)) :
    Crossed k₁.rest ∨ (∃ k', k₁ = k'.pasted ∧ readEscape? k cs = some (e, k')) ∨
      ∃ a rest, e = .anchor a ∧ k₁ = k.jump rest ∧ Dangles k rest := by
  cases cs with
  | nil => exact .inl (readEscape?_suffix h)
  | cons c rest =>
    have hplain : ∀ {e'}, some (e', k.jump (rest ++ closing)) = some (e, k₁) →
        ∃ k', k₁ = k'.pasted ∧ some (e', k.jump rest) = some (e, k') := by
      rintro _ ⟨⟩
      exact ⟨k.jump rest, rfl, rfl⟩
    rw [List.cons_append, readEscape?.eq_def] at h
    rw [readEscape?.eq_def]
    dsimp only at h ⊢
    split at h
    all_goals first
      | exact .inr (.inl (hplain h))
      | exact ((readHex?_pasted k _ rest).map (Escaped.char · false) _ _ h).imp_right .inl
      | exact ((readProperty?_pasted k _ rest).map Escaped.set _ _ h).imp_right .inl
      | skip
    · rcases k.past_pasted rest with hpast | hpast
      · obtain ⟨⟨c, k'⟩, hread, h⟩ := Option.map_eq_some_iff.1 h
        cases h
        have := readHex?_suffix hread
        rw [hpast] at this
        exact .inl (crossed_nil.of_suffix this)
      · have hbyte : ((k.past (rest ++ closing)).rest.head? != some '\x7b') =
            ((k.past rest).rest.head? != some '\x7b') := by
          rw [hpast, Cursor.pasted_rest]
          cases (k.past rest).rest <;> rfl
        rw [hbyte] at h
        exact ((readHex?_pasted k 2 rest).map (Escaped.char · _) _ _ h).imp_right .inl
    · obtain ⟨⟨a, k'⟩, hread, h⟩ := Option.map_eq_some_iff.1 h
      cases h
      obtain ⟨k', rfl, hread'⟩ | ⟨rest', rfl, hdangles⟩ := readBoundary?_pasted hread
      · exact .inr (.inl ⟨k', rfl, by simp [hread']⟩)
      · exact .inr (.inr ⟨a, rest', rfl, rfl, hdangles⟩)
    · split at h
      next s hs =>
        obtain ⟨s', hs', h⟩ := Option.bind_eq_some_iff.1 h
        simp only [hs', Option.bind_some]
        exact .inr (.inl (hplain h))
      next =>
        split at h
        next hc =>
          rw [if_pos hc]
          exact .inr (.inl (hplain h))
        next => cases h

end MessageRouter.Regex
