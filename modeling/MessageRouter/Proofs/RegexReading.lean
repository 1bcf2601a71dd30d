import MessageRouter.Proofs.RegexSets

/-!
# Reading an expression that something follows

Where the reader of an anchored pattern stops in front of what follows the pattern, it has read
what it reads of the pattern alone: `Regex.readChoice?_pasted`.

The proof is by induction on the steps of the reader.  What one step makes of a group, a set, a
repetition or an escape is shown for any two readers that agree on all that is left behind it
(`Regex.Continues`).
-/

namespace MessageRouter.Regex

variable {k k₁ : Cursor} {cs rest : List Char} {fuel fuel' : Nat}

/-! ## Repetition -/

theorem digits_suffix (fuel : Nat) (ds cs : List Char) :
    (readCount?.digits k fuel ds cs).2 <:+ cs := by
  induction fuel generalizing ds cs with
  | zero => exact List.suffix_rfl
  | succ fuel ih =>
    cases cs with
    | nil => exact List.suffix_rfl
    | cons c cs =>
      rw [readCount?.digits]
      split
      · exact (ih _ _).trans ((k.past_suffix cs).trans (List.suffix_cons _ _))
      · exact List.suffix_rfl

theorem digits_pasted (k : Cursor) (ds : List Char) (hfuel : cs.length ≤ fuel)
    (hfuel' : cs.length ≤ fuel') :
    (readCount?.digits k fuel' ds (cs ++ closing)).2 = [] ∨
      readCount?.digits k fuel' ds (cs ++ closing) =
        ((readCount?.digits k fuel ds cs).1, (readCount?.digits k fuel ds cs).2 ++ closing) := by
  induction fuel generalizing fuel' ds cs with
  | zero =>
    rw [List.length_eq_zero_iff.1 (Nat.le_zero.1 hfuel)]
    cases fuel' <;> exact .inr rfl
  | succ fuel ih =>
    cases cs with
    | nil => cases fuel' <;> exact .inr rfl
    | cons c rest =>
      rw [List.length_cons] at hfuel hfuel'
      obtain ⟨fuel', rfl⟩ : ∃ n, fuel' = n + 1 := ⟨fuel' - 1, by omega⟩
      have hlen := (k.past_suffix rest).length_le
      rw [List.cons_append, readCount?.digits, readCount?.digits]
      split
      · rcases k.past_pasted rest with hpast | hpast
        · refine .inl (List.suffix_nil.1 ?_)
          have := digits_suffix (k := k) fuel' (c :: ds) (k.past (rest ++ closing)).rest
          rwa [hpast] at this ⊢
        · rw [hpast, Cursor.pasted_rest]
          exact ih _ (by omega) (by omega)
      · exact .inr rfl

theorem readCount?_left {n : Option Nat} (h : readCount? k cs = some (n, rest)) :
    rest = (k.past ((readCount?.digits k cs.length [] (cs.dropWhile Text.isBlank)).2.dropWhile
      Text.isBlank)).rest := by
  rw [readCount?] at h
  dsimp only at h
  split at h
  · cases h
    rfl
  · split at h <;> cases h
    rfl

theorem readCount?_suffix {n : Option Nat} (h : readCount? k cs = some (n, rest)) :
    rest <:+ cs := by
  rw [readCount?_left h]
  exact (k.past_suffix _).trans ((List.dropWhile_suffix _).trans
    ((digits_suffix _ _ _).trans (List.dropWhile_suffix _)))

theorem readCount?_pasted (k : Cursor) (cs : List Char) :
    AgreesText (readCount? k (cs ++ closing)) (readCount? k cs) := by
  intro n rest h
  have hleft := readCount?_left h
  have hlen := (List.dropWhile_suffix (l := cs) Text.isBlank).length_le
  rw [readCount?] at h ⊢
  dsimp only at h ⊢
  rw [dropWhile_pasted _ (by decide)] at h hleft
  have hlen' : (cs.dropWhile Text.isBlank).length ≤ (cs ++ closing).length := by
    rw [List.length_append]
    omega
  rcases digits_pasted k [] hlen hlen' with hdigits | hdigits
  · rw [hdigits] at hleft
    rw [hleft]
    exact .inl (crossed_nil.of_suffix (k.past_suffix []))
  · rw [hdigits, dropWhile_pasted _ (by decide)] at h hleft
    generalize readCount?.digits k cs.length [] (cs.dropWhile Text.isBlank) = run at h hleft ⊢
    rcases k.past_pasted (run.2.dropWhile Text.isBlank) with hpast | hpast
    · rw [hleft, hpast]
      exact .inl crossed_nil
    rw [hpast] at h hleft
    refine .inr ⟨_, hleft, ?_⟩
    split at h
    next hds =>
      rw [if_pos hds]
      cases h
      rfl
    next hds =>
      rw [if_neg hds]
      split at h
      next hn =>
        rw [if_pos hn]
        cases h
        rfl
      next => cases h

/-- The upper bound behind a comma, given what was read in front of it. -/
def readUpper? (k : Cursor) (low : Option Nat) (cs : List Char) :
    Option (Nat × Option Nat × List Char) :=
  match (k.past cs).rest with
  | '\x7d' :: rest => do return (← low, none, rest)
  | rest => do
    let (high, rest) ← readCount? k rest
    let low ← low
    let high ← high
    match rest with
    | '\x7d' :: rest => if low ≤ high then some (low, some high, rest) else none
    | _ => none

/-- What follows the lower bound. -/
def readBehind? (k : Cursor) (low : Option Nat) : List Char → Option (Nat × Option Nat × List Char)
  | '\x7d' :: rest => do
    let low ← low
    return (low, some low, rest)
  | ',' :: rest => readUpper? k low rest
  | _ => none

theorem readBounds?_eq (k : Cursor) (cs : List Char) :
    readBounds? k cs =
      readCount? k (k.past cs).rest >>= fun (low, rest) => readBehind? k low rest :=
  rfl

section Bounds

variable {low : Nat} {high : Option Nat} {count : Option Nat}

theorem readUpper?_suffix (h : readUpper? k count cs = some (low, high, rest)) :
    '\x7d' :: rest <:+ (k.past cs).rest := by
  unfold readUpper? at h
  split at h
  next hrest =>
    obtain ⟨n, -, h⟩ := Option.bind_eq_some_iff.1 h
    cases h
    exact hrest ▸ List.suffix_rfl
  next =>
    obtain ⟨⟨n', left⟩, hhigh, h⟩ := Option.bind_eq_some_iff.1 h
    obtain ⟨n, -, h⟩ := Option.bind_eq_some_iff.1 h
    obtain ⟨n', -, h⟩ := Option.bind_eq_some_iff.1 h
    refine List.IsSuffix.trans ?_ (readCount?_suffix hhigh)
    split at h
    · split at h <;> cases h
      exact List.suffix_rfl
    · cases h

/-- Nothing closes a brace behind the pattern. -/
theorem not_brace_closing {left : List Char} (h : '\x7d' :: rest <:+ left) : ¬left <:+ closing :=
  not_suffix_closing (by decide) h

theorem readUpper?_pasted (h : readUpper? k count (cs ++ closing) = some (low, high, rest)) :
    ∃ left, rest = left ++ closing ∧ readUpper? k count cs = some (low, high, left) := by
  have hsuffix := readUpper?_suffix h
  rcases k.past_pasted cs with hpast | hpast
  · rw [hpast] at hsuffix
    exact absurd List.nil_suffix (not_brace_closing hsuffix)
  cases hrest : (k.past cs).rest with
  | nil =>
    rw [hpast, Cursor.pasted_rest, hrest] at hsuffix
    exact absurd List.suffix_rfl (not_brace_closing hsuffix)
  | cons c left =>
    rw [readUpper?, hpast, Cursor.pasted_rest, hrest] at h
    rw [readUpper?, hrest]
    by_cases hc : c = '\x7d'
    · subst hc
      obtain ⟨n, hn, h⟩ := Option.bind_eq_some_iff.1 h
      cases h
      exact ⟨left, rfl, Option.bind_eq_some_iff.2 ⟨_, hn, rfl⟩⟩
    · have hne := cons_ne_cons hc left
      have hne' := cons_ne_cons hc (left ++ closing)
      simp only [List.cons_append] at h ⊢
      obtain ⟨⟨n', left'⟩, hhigh, h⟩ := Option.bind_eq_some_iff.1 h
      obtain ⟨n, hn, h⟩ := Option.bind_eq_some_iff.1 h
      obtain ⟨n', hn', h⟩ := Option.bind_eq_some_iff.1 h
      dsimp only at hn' h
      split at h
      next hclose =>
        split at h
        next hle =>
          cases h
          obtain hcross | ⟨left', hleft, hhigh'⟩ := readCount?_pasted k (c :: left) _ _ hhigh
          · exact absurd (hcross.trans (List.suffix_cons _ _)) (not_brace_closing List.suffix_rfl)
          subst hn hn'
          cases left' with
          | nil => cases hleft
          | cons d left' =>
            cases hleft
            refine ⟨left', rfl, Option.bind_eq_some_iff.2 ⟨_, hhigh', ?_⟩⟩
            exact if_pos hle
        next => cases h
      next => cases h

theorem readBehind?_suffix (h : readBehind? k count cs = some (low, high, rest)) :
    '\x7d' :: rest <:+ cs := by
  rw [readBehind?.eq_def] at h
  split at h
  · obtain ⟨n, -, h⟩ := Option.bind_eq_some_iff.1 h
    cases h
    exact List.suffix_rfl
  · exact (readUpper?_suffix h).trans ((k.past_suffix _).trans (List.suffix_cons _ _))
  · cases h

theorem readBehind?_pasted (h : readBehind? k count (cs ++ closing) = some (low, high, rest)) :
    ∃ left, rest = left ++ closing ∧ readBehind? k count cs = some (low, high, left) := by
  cases cs with
  | nil => exact absurd List.suffix_rfl (not_brace_closing (readBehind?_suffix h))
  | cons c left =>
    by_cases hclose : c = '\x7d'
    · subst hclose
      obtain ⟨n, hn, h⟩ := Option.bind_eq_some_iff.1 h
      cases h
      exact ⟨left, rfl, Option.bind_eq_some_iff.2 ⟨_, hn, rfl⟩⟩
    by_cases hcomma : c = ','
    · subst hcomma
      exact readUpper?_pasted h
    · rw [readBehind?.eq_def] at h
      split at h
      next heq => exact absurd (List.cons.inj heq).1 hclose
      next heq => exact absurd (List.cons.inj heq).1 hcomma
      next => cases h

/-- Bounds are read in front of what follows the pattern. -/
theorem readBounds?_pasted (h : readBounds? k (cs ++ closing) = some (low, high, rest)) :
    ∃ left, rest = left ++ closing ∧ readBounds? k cs = some (low, high, left) := by
  rw [readBounds?_eq] at h ⊢
  obtain ⟨⟨n, left⟩, hlow, h⟩ := Option.bind_eq_some_iff.1 h
  have hsuffix := readBehind?_suffix h
  rcases k.past_pasted cs with hpast | hpast
  · have := readCount?_suffix hlow
    rw [hpast] at this
    exact absurd (this.trans List.nil_suffix) (not_brace_closing hsuffix)
  rw [hpast] at hlow
  obtain hcross | ⟨left, rfl, hlow'⟩ := readCount?_pasted _ _ _ _ hlow
  · exact absurd (hcross.trans (List.suffix_cons _ _)) (not_brace_closing hsuffix)
  obtain ⟨left', rfl, hbehind⟩ := readBehind?_pasted h
  exact ⟨left', rfl, Option.bind_eq_some_iff.2 ⟨_, hlow', hbehind⟩⟩

theorem readBounds?_suffix (h : readBounds? k cs = some (low, high, rest)) :
    '\x7d' :: rest <:+ (k.past cs).rest := by
  obtain ⟨⟨n, left⟩, hlow, h⟩ := Option.bind_eq_some_iff.1 h
  exact (readBehind?_suffix h).trans (readCount?_suffix hlow)

end Bounds

theorem readLazy_suffix (cs : List Char) : (readLazy cs).2 <:+ cs := by
  rw [readLazy.eq_def]
  split
  · exact List.suffix_cons _ _
  · exact List.suffix_rfl

theorem readLazy_pasted (cs : List Char) :
    readLazy (cs ++ closing) = ((readLazy cs).1, (readLazy cs).2 ++ closing) := by
  cases cs with
  | nil => rfl
  | cons c cs =>
    by_cases hc : c = '?'
    · subst hc
      rfl
    · have hne := cons_ne_cons hc cs
      have hne' := cons_ne_cons hc (cs ++ closing)
      simp only [readLazy, List.cons_append]

/-! ## Groups -/

theorem readName?_suffix (h : readName? k cs = some k₁) : k₁.rest <:+ cs := by
  have hdrop := List.dropWhile_suffix (l := cs) (· != '>')
  rw [readName?, List.span_eq_takeWhile_dropWhile] at h
  dsimp only at h
  split at h
  next hrest =>
    split at h
    · cases h
      rw [hrest] at hdrop
      exact (List.suffix_cons _ _).trans hdrop
    · cases h
  next => cases h

theorem readName?_pasted (k : Cursor) (cs : List Char) :
    readName? k (cs ++ closing) = (readName? k cs).map Cursor.pasted := by
  unfold readName?
  obtain ⟨hlong, hshort⟩ | ⟨run, c, rest, hlong, hshort⟩ :=
    span_pasted (· != '>') (by simp [closing]) cs
  · rw [hlong, hshort]
    cases cs <;> rfl
  · rw [hlong, hshort]
    cases run with
    | nil => rfl
    | cons a run =>
      by_cases hc : c = '>'
      · subst hc
        simp only
        split <;> rfl
      · have hne : ∀ a' run' tail, a :: run = a' :: run' → c :: rest = '>' :: tail → False := by
          simp [hc]
        have hne' : ∀ a' run' tail, a :: run = a' :: run' → c :: (rest ++ closing) = '>' :: tail →
            False := by
          simp [hc]
        simp only
        rfl

theorem readFlags?_suffix {f f' : Flags} {minus : Bool} {seen seen' : List Char}
    (h : readFlags? f minus seen cs = some (f', seen', rest)) : rest <:+ cs := by
  induction cs generalizing f minus seen with
  | nil => cases h
  | cons c cs ih =>
    rw [readFlags?] at h
    split at h
    · split at h <;> cases h
      exact List.suffix_rfl
    · refine List.IsSuffix.trans ?_ (List.suffix_cons c cs)
      split at h
      · cases h
      · split at h
        · exact ih h
        · split at h
          · exact ih h
          · cases h

/-- Flags are read up to a character of the pattern, or up to the parenthesis behind it. -/
theorem readFlags?_pasted {f f' : Flags} {minus : Bool} {seen seen' : List Char}
    (h : readFlags? f minus seen (cs ++ closing) = some (f', seen', rest)) :
    rest = closing ∨
      ∃ c left, rest = c :: (left ++ closing) ∧
        readFlags? f minus seen cs = some (f', seen', c :: left) := by
  induction cs generalizing f minus seen with
  | nil =>
    refine .inl ?_
    rw [List.nil_append, closing, readFlags?, if_pos (.inr rfl)] at h
    split at h <;> cases h
    rfl
  | cons c cs ih =>
    rw [List.cons_append, readFlags?] at h
    rw [readFlags?]
    split at h
    next hc =>
      rw [if_pos hc]
      split at h
      · cases h
      next hminus =>
        rw [if_neg hminus]
        cases h
        exact .inr ⟨c, cs, rfl, rfl⟩
    next hc =>
      rw [if_neg hc]
      split at h
      · cases h
      next hseen =>
        rw [if_neg hseen]
        split at h
        next hc =>
          rw [if_pos hc]
          exact ih h
        next hc =>
          rw [if_neg hc]
          split at h
          next f hf => exact ih h
          next => cases h

/-! ## Openings -/

/-- Where a reader goes on behind an opening. -/
def Opening.cursor : Opening → Cursor
  | .group _ k => k
  | .flags k => k

/-- The same opening in a text that goes on behind the pattern. -/
def Opening.pasted : Opening → Opening
  | .group captures k => .group captures k.pasted
  | .flags k => .flags k.pasted

/-- Flags, which open a group where a colon follows them. -/
def readFlagged? (k : Cursor) (cs : List Char) : Option Opening := do
  let (flags, seen, rest) ← readFlags? k.flags false [] cs
  match rest with
  | ')' :: rest => if seen = [] then none else some (.flags { k with rest, flags })
  | _ :: rest => some (.group false { k with rest, flags })
  | [] => none

/-- What follows a question mark behind a parenthesis: the name of a group, or flags. -/
def readQuestion? (k : Cursor) : List Char → Option Opening
  | 'P' :: '<' :: rest => (readName? k rest).map (.group true)
  | '<' :: c :: rest =>
    if c = '=' ∨ c = '!' then none else (readName? k (c :: rest)).map (.group true)
  | rest => readFlagged? k rest

theorem readOpening?_eq (k : Cursor) (cs : List Char) :
    readOpening? k cs =
      match (k.past cs).rest with
      | '?' :: rest => readQuestion? (k.past cs) rest
      | _ => some (.group true (k.past cs)) := by
  rw [readOpening?]
  dsimp only
  generalize k.past cs = k
  cases hrest : k.rest with
  | nil => rfl
  | cons c rest =>
    by_cases hc : c = '?'
    · subst hc
      split
      next heq => cases heq; rfl
      next heq => cases heq; rfl
      next hname hangle heq =>
        cases heq
        simp only [readQuestion?]
        rfl
      next hne => exact absurd rfl (hne rest)
    · split
      next heq => exact absurd (List.cons.inj heq).1 hc
      next heq => exact absurd (List.cons.inj heq).1 hc
      next heq => exact absurd (List.cons.inj heq).1 hc
      next hne => simp only

section Openings

variable {o : Opening}

theorem readFlagged?_suffix (h : readFlagged? k cs = some o) : o.cursor.rest <:+ cs := by
  obtain ⟨⟨f, seen, rest⟩, hflags, h⟩ := Option.bind_eq_some_iff.1 h
  refine List.IsSuffix.trans ?_ (readFlags?_suffix hflags)
  dsimp only at h
  split at h
  · split at h <;> cases h
    exact List.suffix_cons _ _
  · cases h
    exact List.suffix_cons _ _
  · cases h

theorem readFlagged?_pasted (h : readFlagged? k (cs ++ closing) = some o) :
    Crossed o.cursor.rest ∨ ∃ o', o = o'.pasted ∧ readFlagged? k cs = some o' := by
  obtain ⟨⟨f, seen, rest⟩, hflags, h⟩ := Option.bind_eq_some_iff.1 h
  obtain rfl | ⟨c, left, rfl, hflags'⟩ := readFlags?_pasted hflags
  · simp only [closing] at h
    split at h <;> cases h
    exact .inl List.suffix_rfl
  · refine .inr ?_
    by_cases hc : c = ')'
    · subst hc
      simp only at h
      split at h
      · cases h
      next hseen =>
        cases h
        exact ⟨.flags ⟨left, f, k.names⟩, rfl, Option.bind_eq_some_iff.2 ⟨_, hflags', if_neg hseen⟩⟩
    · have hne := cons_ne_cons hc left
      have hne' := cons_ne_cons hc (left ++ closing)
      simp only at h
      cases h
      refine ⟨.group false ⟨left, f, k.names⟩, rfl, Option.bind_eq_some_iff.2 ⟨_, hflags', ?_⟩⟩
      simp only

theorem readQuestion?_suffix (h : readQuestion? k cs = some o) : o.cursor.rest <:+ cs := by
  rw [readQuestion?.eq_def] at h
  split at h
  next rest =>
    obtain ⟨k', hname, h⟩ := Option.map_eq_some_iff.1 h
    subst h
    have := (readName?_suffix hname).trans (List.suffix_cons '<' rest)
    exact this.trans (List.suffix_cons _ _)
  next c rest =>
    split at h
    · cases h
    obtain ⟨k', hname, h⟩ := Option.map_eq_some_iff.1 h
    subst h
    exact (readName?_suffix hname).trans (List.suffix_cons _ _)
  next => exact readFlagged?_suffix h

theorem readQuestion?_pasted (h : readQuestion? k (cs ++ closing) = some o) :
    Crossed o.cursor.rest ∨ ∃ o', o = o'.pasted ∧ readQuestion? k cs = some o' := by
  have hname : ∀ {rest}, (readName? k (rest ++ closing)).map (Opening.group true) = some o →
      ∃ o', o = o'.pasted ∧ (readName? k rest).map (Opening.group true) = some o' := by
    intro rest h
    rw [readName?_pasted, Option.map_map] at h
    obtain ⟨k', hk', h⟩ := Option.map_eq_some_iff.1 h
    exact ⟨.group true k', h.symm, by rw [hk']; rfl⟩
  rw [readQuestion?.eq_def] at h
  split at h
  next heq =>
    rcases cs with _ | ⟨a, _ | ⟨b, cs⟩⟩
    · cases heq
    · cases heq
    · cases heq
      exact .inr (hname h)
  next c _ heq =>
    rcases cs with _ | ⟨a, _ | ⟨b, cs⟩⟩
    · cases heq
    · -- no name closes behind the pattern
      cases heq
      have hnone : readName? k [')', '$'] = none := readName?_pasted k []
      rw [if_neg (by decide), hnone] at h
      cases h
    · cases heq
      rw [readQuestion?]
      split at h
      · cases h
      next hc =>
        rw [if_neg hc]
        have h : (readName? k ((c :: cs) ++ closing)).map (Opening.group true) = some o := h
        exact .inr (hname h)
  next hnamed hangle =>
    have hnamed' : ∀ rest, cs = 'P' :: '<' :: rest → False := by
      rintro rest rfl
      exact hnamed _ rfl
    have hangle' : ∀ c rest, cs = '<' :: c :: rest → False := by
      rintro c rest rfl
      exact hangle _ _ rfl
    simp only [readQuestion?]
    exact readFlagged?_pasted h

theorem readOpening?_suffix (h : readOpening? k cs = some o) :
    o.cursor.rest <:+ (k.past cs).rest := by
  rw [readOpening?_eq] at h
  split at h
  next rest hrest =>
    rw [hrest]
    exact (readQuestion?_suffix h).trans (List.suffix_cons _ _)
  next =>
    cases h
    exact List.suffix_rfl

/-- What a parenthesis opens is told in front of what follows the pattern. -/
theorem readOpening?_pasted (h : readOpening? k (cs ++ closing) = some o) :
    Crossed o.cursor.rest ∨ ∃ o', o = o'.pasted ∧ readOpening? k cs = some o' := by
  have hsuffix := readOpening?_suffix h
  rcases k.past_pasted cs with hpast | hpast
  · rw [hpast] at hsuffix
    exact .inl (crossed_nil.of_suffix hsuffix)
  rw [readOpening?_eq, hpast, Cursor.pasted_rest] at h
  rw [readOpening?_eq]
  generalize k.past cs = k at h ⊢
  cases hrest : k.rest with
  | nil =>
    rw [hrest] at h
    cases h
    exact .inr ⟨.group true k, rfl, rfl⟩
  | cons c rest =>
    rw [hrest] at h
    by_cases hc : c = '?'
    · subst hc
      exact readQuestion?_pasted h
    · have hne := cons_ne_cons hc rest
      have hne' := cons_ne_cons hc (rest ++ closing)
      simp only [List.cons_append] at h ⊢
      cases h
      exact .inr ⟨.group true k, rfl, rfl⟩

end Openings

/-! ## Expressions -/

section Expressions

variable {branches : List Regex} {items : List Item} {r : Regex}

/-- A reader that goes on with an expression from a cursor, the branches and the items so far. -/
abbrev Continuation := Cursor → List Regex → List Item → Option (Regex × Cursor)

/-- What follows a group whose inside has been read, once its parenthesis is closed. -/
def closeGroup? (next : Continuation) (flags : Flags) (captures : Bool) (branches : List Regex)
    (items : List Item) (r : Regex) (k : Cursor) : Option (Regex × Cursor) :=
  match k.rest with
  | ')' :: rest => next { k with rest, flags } branches (.expr (.group captures r) :: items)
  | _ => none

/-- No parenthesis is left to close a group beyond the one that follows the pattern. -/
theorem closeGroup?_crossed (next : Continuation) {flags : Flags} {captures : Bool}
    (hk : Crossed k.rest) : closeGroup? next flags captures branches items r k = none := by
  rw [closeGroup?]
  split
  next hrest => exact absurd (hk.subset (hrest ▸ List.mem_cons_self)) (by decide)
  next => rfl

/-- A group or flags, given the text after the parenthesis. -/
def readGroup? (next : Continuation) (k : Cursor) (rest : List Char) (branches : List Regex)
    (items : List Item) : Option (Regex × Cursor) := do
  match ← readOpening? k rest with
  | .flags k => next k branches (.flags :: items)
  | .group captures inner =>
    let inside ← next inner [] []
    closeGroup? next k.flags captures branches items inside.1 inside.2

/-- A set, given the text after the bracket. -/
def readBrackets? (next : Continuation) (k : Cursor) (rest : List Char) (branches : List Regex)
    (items : List Item) : Option (Regex × Cursor) := do
  let start := readSetStart (k.jump rest)
  let (m, k') ← readSet? start.2.1.rest.length start.2.1 start.1 none start.2.2
  next k' branches (.expr (.set m.depth m.chars) :: items)

/-- A repetition of the last item, given the text after its bounds. -/
def readAgain? (next : Continuation) (k : Cursor) (rest : List Char) (branches : List Regex)
    (items : List Item) (low : Nat) (high : Option Nat) : Option (Regex × Cursor) := do
  let (isLazy, rest) := readLazy rest
  next (k.jump rest) branches (← repeatLast? (isLazy == k.flags.swapGreed) low high items)

/-- A repetition with bounds, given the text after the brace. -/
def readRepeated? (next : Continuation) (k : Cursor) (rest : List Char) (branches : List Regex)
    (items : List Item) : Option (Regex × Cursor) := do
  let (low, high, rest) ← readBounds? k rest
  readAgain? next k (k.past rest).rest branches items low high

/-- An escape, given the text after the backslash. -/
def readEscaped? (next : Continuation) (k : Cursor) (rest : List Char) (branches : List Regex)
    (items : List Item) : Option (Regex × Cursor) := do
  let (e, k') ← readEscape? k rest
  let r ← match e with
    | .char c isByte => ofChar? k.flags c isByte
    | .set s => some (.set 0 s)
    | .anchor a => some (.anchor a)
  next k' branches (.expr r :: items)

namespace Continuation

/-- What is left in the end is the end of what was left before. -/
def Shortens (next : Continuation) : Prop :=
  ∀ {k k₁ branches items r}, next k branches items = some (r, k₁) → k₁.rest <:+ k.rest

variable {next : Continuation}

theorem Shortens.group (h : next.Shortens)
    (hread : readGroup? next k rest branches items = some (r, k₁)) : k₁.rest <:+ rest := by
  obtain ⟨o, ho, hread⟩ := Option.bind_eq_some_iff.1 hread
  refine List.IsSuffix.trans ?_ ((readOpening?_suffix ho).trans (k.past_suffix rest))
  cases o with
  | flags k' => exact h hread
  | group captures inner =>
    obtain ⟨⟨r', k'⟩, hinner, hclose⟩ := Option.bind_eq_some_iff.1 hread
    refine List.IsSuffix.trans ?_ (h hinner)
    unfold closeGroup? at hclose
    split at hclose
    next hrest => exact (h hclose).trans (hrest ▸ List.suffix_cons _ _)
    next => cases hclose

theorem Shortens.brackets (h : next.Shortens)
    (hread : readBrackets? next k rest branches items = some (r, k₁)) : k₁.rest <:+ rest := by
  obtain ⟨⟨m, k'⟩, hset, hread⟩ := Option.bind_eq_some_iff.1 hread
  have := (List.suffix_cons _ _).trans (readSet?_suffix hset)
  exact (h hread).trans (this.trans (readSetStart_suffix (k.jump rest)))

theorem Shortens.again (h : next.Shortens) {low : Nat} {high : Option Nat}
    (hread : readAgain? next k rest branches items low high = some (r, k₁)) :
    k₁.rest <:+ rest := by
  obtain ⟨items', -, hread⟩ := Option.bind_eq_some_iff.1 hread
  exact (h hread).trans (readLazy_suffix rest)

theorem Shortens.repeated (h : next.Shortens)
    (hread : readRepeated? next k rest branches items = some (r, k₁)) : k₁.rest <:+ rest := by
  obtain ⟨⟨low, high, left⟩, hbounds, hread⟩ := Option.bind_eq_some_iff.1 hread
  have := ((List.suffix_cons _ _).trans (readBounds?_suffix hbounds)).trans (k.past_suffix rest)
  exact (h.again hread).trans ((k.past_suffix left).trans this)

theorem Shortens.escaped (h : next.Shortens)
    (hread : readEscaped? next k rest branches items = some (r, k₁)) : k₁.rest <:+ rest := by
  obtain ⟨⟨e, k'⟩, hescape, hread⟩ := Option.bind_eq_some_iff.1 hread
  refine List.IsSuffix.trans ?_ ((readEscape?_suffix hescape).trans (List.tail_suffix _))
  cases e with
  | char c isByte =>
    obtain ⟨r', -, hread⟩ := Option.bind_eq_some_iff.1 hread
    exact h hread
  | set s => exact h hread
  | anchor a => exact h hread

end Continuation

theorem readChoice?_shortens (fuel : Nat) : Continuation.Shortens (readChoice? fuel) := by
  intro k k₁ branches items r h
  induction fuel generalizing k branches items r k₁ with
  | zero => cases h
  | succ fuel ih =>
    have hnext : Continuation.Shortens (readChoice? fuel) := ih
    have hskip := k.skipSpace_suffix
    have hleft : ∀ {c tail left}, k.skipSpace.rest = c :: tail → left <:+ tail →
        left <:+ k.rest := fun hrest hl =>
      hl.trans ((List.suffix_cons _ _).trans (hrest ▸ hskip))
    rw [readChoice?] at h
    dsimp only at h
    split at h
    -- the end of the text or of a group
    iterate 2
      cases h
      exact hskip
    -- a further branch, a group, a set
    next hrest => exact hleft hrest (ih h)
    next hrest => exact hleft hrest (hnext.group h)
    next hrest => exact hleft hrest (hnext.brackets h)
    -- repetition
    iterate 3
      next hrest => exact hleft hrest (hnext.again h)
    next hrest => exact hleft hrest (hnext.repeated h)
    -- a dot, the two anchors, an escape, a character that stands for itself
    next hrest =>
      obtain ⟨s, -, h⟩ := Option.bind_eq_some_iff.1 h
      exact hleft hrest (ih h)
    iterate 2
      next hrest => exact hleft hrest (ih h)
    next hrest => exact hleft hrest (hnext.escaped h)
    next hrest =>
      obtain ⟨r', -, h⟩ := Option.bind_eq_some_iff.1 h
      exact hleft hrest (ih h)

/-- What one continuation makes of a text that goes on behind the pattern is what another one
makes of the pattern, as far as the pattern has at most `size` characters. -/
structure Continues (size : Nat) (long short : Continuation) : Prop where
  shortens : long.Shortens
  dangles : ∀ {k rest branches items}, Dangles k rest → long (k.jump rest) branches items = none
  agrees : ∀ {k branches items}, k.rest.length ≤ size →
    Agrees (long k.pasted branches items) (short k branches items)

namespace Continues

variable {size : Nat} {long short : Continuation}

/-- Where a reader has gone beyond the pattern it stays there. -/
theorem of_crossed (h : Continues size long short) (hk : Crossed k.rest)
    {o : Option (Regex × Cursor)} : Agrees (long k branches items) o :=
  fun _ _ hlong => .inl (hk.of_suffix (h.shortens hlong))

theorem again (h : Continues size long short) (hsize : rest.length ≤ size) (k : Cursor)
    {low : Nat} {high : Option Nat} :
    Agrees (readAgain? long k (rest ++ closing) branches items low high)
      (readAgain? short k rest branches items low high) := by
  rw [readAgain?, readLazy_pasted]
  exact agrees_bind fun items' _ =>
    h.agrees (k := k.jump _) ((readLazy_suffix rest).length_le.trans hsize)

theorem repeated (h : Continues size long short) (hsize : rest.length ≤ size) (k : Cursor) :
    Agrees (readRepeated? long k (rest ++ closing) branches items)
      (readRepeated? short k rest branches items) := by
  intro r k₁ hlong
  obtain ⟨⟨low, high, rest'⟩, hbounds, hlong⟩ := Option.bind_eq_some_iff.1 hlong
  obtain ⟨left, rfl, hbounds'⟩ := readBounds?_pasted hbounds
  rw [readRepeated?, hbounds']
  dsimp only at hlong
  rcases k.past_pasted left with hpast | hpast
  · rw [hpast] at hlong
    obtain ⟨items', -, hlong⟩ := Option.bind_eq_some_iff.1 hlong
    exact .inl (crossed_nil.of_suffix (h.shortens hlong))
  · rw [hpast] at hlong
    have := (List.suffix_cons _ _).trans (readBounds?_suffix hbounds')
    have := ((k.past_suffix left).trans (this.trans (k.past_suffix rest))).length_le
    exact h.again (this.trans hsize) k r k₁ hlong

theorem brackets (h : Continues size long short) (hsize : rest.length ≤ size) (k : Cursor) :
    Agrees (readBrackets? long k (rest ++ closing) branches items)
      (readBrackets? short k rest branches items) := by
  intro r k₁ hlong
  have hleft := readSetStart_suffix (k.jump rest)
  have hpasted := readSetStart_pasted (k.jump rest)
  have hstart : readSetStart (k.jump (rest ++ closing)) = readSetStart (k.jump rest).pasted := rfl
  unfold readBrackets? at hlong ⊢
  rw [hstart] at hlong
  generalize readSetStart (k.jump rest).pasted = start' at hlong hpasted
  generalize readSetStart (k.jump rest) = start at hleft hpasted ⊢
  obtain ⟨⟨m, k'⟩, hset, hlong⟩ := Option.bind_eq_some_iff.1 hlong
  rcases hpasted with hout | rfl
  · exact absurd (hout ▸ List.nil_suffix) (not_suffix_closing (by decide) (readSet?_suffix hset))
  obtain ⟨k', rfl, hset'⟩ := readSet?_pasted (Nat.le_refl start.2.1.rest.length) hset
  have := (List.suffix_cons _ _).trans (readSet?_suffix hset')
  have := (this.trans hleft).length_le
  have hshort : readSet? start.2.1.rest.length start.2.1 start.1 none start.2.2 = some (m, k') :=
    hset'
  dsimp only
  rw [hshort]
  exact h.agrees (this.trans hsize) r k₁ hlong

theorem escaped (h : Continues size long short) (hsize : rest.length ≤ size) (k : Cursor) :
    Agrees (readEscaped? long k (rest ++ closing) branches items)
      (readEscaped? short k rest branches items) := by
  intro r k₁ hlong
  rw [readEscaped?] at hlong ⊢
  obtain ⟨⟨e, k'⟩, hescape, hlong⟩ := Option.bind_eq_some_iff.1 hlong
  have hcontinue : ∃ r', long k' branches (.expr r' :: items) = some (r, k₁) := by
    cases e with
    | char c isByte =>
      obtain ⟨r', -, hlong⟩ := Option.bind_eq_some_iff.1 hlong
      exact ⟨r', hlong⟩
    | set s => exact ⟨_, hlong⟩
    | anchor a => exact ⟨_, hlong⟩
  obtain ⟨r', hr'⟩ := hcontinue
  obtain hcross | ⟨k', rfl, hescape'⟩ | ⟨a, left, rfl, rfl, hdangles⟩ := readEscape?_pasted hescape
  · exact .inl (hcross.of_suffix (h.shortens hr'))
  · have hlen := ((readEscape?_suffix hescape').trans (List.tail_suffix _)).length_le
    rw [hescape']
    cases e with
    | char c isByte => exact agrees_bind (fun _ _ => h.agrees (hlen.trans hsize)) r k₁ hlong
    | set s => exact h.agrees (hlen.trans hsize) r k₁ hlong
    | anchor a => exact h.agrees (hlen.trans hsize) r k₁ hlong
  · rw [h.dangles hdangles] at hr'
    cases hr'

theorem close (h : Continues size long short) (hsize : k.rest.length ≤ size) {flags : Flags}
    {captures : Bool} : Agrees (closeGroup? long flags captures branches items r k.pasted)
      (closeGroup? short flags captures branches items r k) := by
  rw [closeGroup?, closeGroup?, Cursor.pasted_rest]
  cases hrest : k.rest with
  | nil =>
    exact h.of_crossed (k := { k.pasted with rest := ['$'], flags }) List.suffix_rfl
  | cons c rest =>
    rw [hrest, List.length_cons] at hsize
    rw [List.cons_append]
    by_cases hc : c = ')'
    · subst hc
      exact h.agrees (k := { k with rest, flags }) (by simp; omega)
    · have hne := cons_ne_cons hc (rest ++ closing)
      simp only
      exact agrees_none _

theorem group (h : Continues size long short) (hsize : rest.length ≤ size) (k : Cursor) :
    Agrees (readGroup? long k (rest ++ closing) branches items)
      (readGroup? short k rest branches items) := by
  intro r k₁ hlong
  rw [readGroup?] at hlong ⊢
  obtain ⟨o, ho, hlong⟩ := Option.bind_eq_some_iff.1 hlong
  obtain hcross | ⟨o, rfl, ho'⟩ := readOpening?_pasted ho
  · cases o with
    | flags k' => exact .inl (hcross.of_suffix (h.shortens hlong))
    | group captures inner =>
      obtain ⟨⟨r', k'⟩, hinner, hlong⟩ := Option.bind_eq_some_iff.1 hlong
      have hclose := hcross.of_suffix (h.shortens hinner)
      cases (closeGroup?_crossed long hclose).symm.trans hlong
  rw [ho']
  have hlen := ((readOpening?_suffix ho').trans (k.past_suffix rest)).length_le
  cases o with
  | flags k' => exact h.agrees (hlen.trans hsize) r k₁ hlong
  | group captures inner =>
    obtain ⟨⟨r', k'⟩, hinner, hlong⟩ := Option.bind_eq_some_iff.1 hlong
    obtain hcross | ⟨k', rfl, hinner'⟩ :=
      h.agrees (k := inner) (hlen.trans hsize) r' k' hinner
    · cases (closeGroup?_crossed long hcross).symm.trans hlong
    have hleft : k'.rest.length ≤ inner.rest.length := by
      have := (h.shortens hinner).length_le
      simpa [Opening.pasted] using this
    dsimp only [Option.bind_eq_bind, Option.bind_some]
    rw [hinner']
    exact h.close (hleft.trans (hlen.trans hsize)) r k₁ hlong

end Continues

/-- No expression starts with a brace that nothing stands behind. -/
theorem readChoice?_dangles (h : Dangles k rest) :
    readChoice? fuel (k.jump rest) branches items = none := by
  obtain ⟨tail, rfl, hclosing⟩ := h
  cases fuel with
  | zero => rfl
  | succ fuel =>
    have hskip : (k.jump ('\x7b' :: tail)).skipSpace = k.jump ('\x7b' :: tail) := by
      have hblank : Text.isBlank '\x7b' = false := by decide
      rw [Cursor.skipSpace]
      split
      · simp [Cursor.jump, Cursor.dropSpace, hblank]
      · rfl
    have hbounds : readBounds? (k.jump ('\x7b' :: tail)) tail = none := by
      rw [readBounds?_jump, Option.eq_none_iff_forall_not_mem]
      rintro ⟨low, high, rest⟩ hbounds
      exact not_brace_closing (readBounds?_suffix hbounds) (hclosing ▸ List.suffix_rfl)
    rw [readChoice?, hskip]
    simp [hbounds]

/-- A reader that stays in the pattern reads what it reads of the pattern alone, as long as it has
enough steps for that. -/
theorem readChoice?_pasted (hfuel : k.rest.length < fuel) :
    Agrees (readChoice? fuel' k.pasted branches items) (readChoice? fuel k branches items) := by
  induction fuel' generalizing fuel k branches items with
  | zero => exact agrees_none _
  | succ fuel' ih =>
    obtain ⟨fuel, rfl⟩ : ∃ n, fuel = n + 1 := ⟨fuel - 1, by omega⟩
    have hlen := k.skipSpace_suffix.length_le
    rw [readChoice?, readChoice?]
    dsimp only
    rcases k.skipSpace_pasted with hskip | hskip
    · rw [hskip]
      rintro _ _ ⟨⟩
      rw [hskip]
      exact .inl crossed_nil
    rw [hskip, Cursor.pasted_rest, Cursor.pasted_flags]
    generalize k.skipSpace = k' at hlen ⊢
    cases hrest : k'.rest with
    | nil => exact agrees_some _ (.inr rfl)
    | cons c rest =>
      rw [hrest, List.length_cons] at hlen
      have hnext : Continues rest.length (readChoice? fuel') (readChoice? fuel) :=
        ⟨readChoice?_shortens fuel', readChoice?_dangles, fun hk => ih (by omega)⟩
      have hput : ∀ {branches items}, Agrees
          (readChoice? fuel' (k'.jump (rest ++ closing)) branches items)
          (readChoice? fuel (k'.jump rest) branches items) :=
        hnext.agrees (k := k'.jump rest) le_rfl
      rw [List.cons_append]
      split
      next heq => cases heq
      -- the end of a group
      next heq =>
        cases heq
        exact agrees_some _ (.inr rfl)
      -- a further branch, a group, a set
      next heq =>
        cases heq
        exact hput
      next heq =>
        cases heq
        exact hnext.group le_rfl k'
      next heq =>
        cases heq
        exact hnext.brackets le_rfl k'
      -- repetition
      iterate 3
        next heq =>
          cases heq
          exact hnext.again le_rfl k'
      next heq =>
        cases heq
        have hbounds : readBounds? k'.pasted (rest ++ closing) =
            readBounds? k' (rest ++ closing) := readBounds?_jump ..
        rw [hbounds]
        exact hnext.repeated le_rfl k'
      -- a dot, the two anchors, an escape, a character that stands for itself
      next heq =>
        cases heq
        exact agrees_bind fun s _ => hput
      iterate 2
        next heq =>
          cases heq
          exact hput
      next heq =>
        cases heq
        have hescape : readEscape? k'.pasted (rest ++ closing) =
            readEscape? k' (rest ++ closing) := readEscape?_jump ..
        rw [hescape]
        exact hnext.escaped le_rfl k'
      next heq =>
        cases heq
        simp only
        exact agrees_bind fun r _ => hput

end Expressions

end MessageRouter.Regex
