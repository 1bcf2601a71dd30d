import MessageRouter.Proofs.RegexEscapes

/-!
# Reading a set that something follows

A set is read up to the bracket that closes it, and there is none behind the pattern.  So a set in
an anchored pattern is a set in the pattern alone: `Regex.readSet?_pasted`.
-/

namespace MessageRouter.Regex

variable {k k₁ : Cursor} {cs rest : List Char} {fuel fuel' : Nat}

/-! ## Members of sets -/

theorem readMember?_suffix {e : Escaped} (h : readMember? k = some (e, k₁)) :
    k₁.rest <:+ k.rest.tail := by
  rw [readMember?.eq_def] at h
  split at h
  next hrest =>
    rw [hrest]
    exact (readEscape?_suffix h).trans (List.tail_suffix _)
  next hrest =>
    cases h
    rw [hrest]
    exact List.suffix_rfl
  · cases h

theorem readMember?_pasted {e : Escaped} (h : readMember? k.pasted = some (e, k₁)) :
    Crossed k₁.rest ∨ (∃ k', k₁ = k'.pasted ∧ readMember? k = some (e, k')) ∨
      ∃ a, e = .anchor a := by
  cases hrest : k.rest with
  | nil =>
    have := readMember?_suffix h
    rw [Cursor.pasted_rest, hrest] at this
    exact .inl this
  | cons c rest =>
    rw [readMember?, Cursor.pasted_rest, hrest] at h
    rw [readMember?, hrest]
    by_cases hc : c = '\\'
    · subst hc
      have h : readEscape? k (rest ++ closing) = some (e, k₁) := by
        rwa [← readEscape?_jump k k.pasted.rest]
      refine (readEscape?_pasted h).imp_right (Or.imp_right ?_)
      rintro ⟨a, -, ha, -⟩
      exact ⟨a, ha⟩
    · simp only [List.cons_append] at h ⊢
      cases h
      exact .inr (.inl ⟨k.jump rest, rfl, rfl⟩)

theorem dropSpace_of_blank (h : cs.dropWhile Text.isBlank = []) :
    Cursor.dropSpace (fuel + 1) cs = [] := by
  rw [Cursor.dropSpace, h]

/-- Where only white space and a comment are left of the pattern, no more of it is read. -/
theorem past_suffix_closing (h : k.flags.ignoreSpace = true)
    (hspace : Cursor.dropSpace (cs.length + 1) cs = []) :
    (k.past (cs ++ closing)).rest <:+ closing := by
  rcases k.past_pasted cs with hpast | hpast
  · rw [hpast]
    exact List.nil_suffix
  · have hrest : (k.past cs).rest = [] := by
      rw [Cursor.past, Cursor.skipSpace, Cursor.jump_flags, if_pos h]
      exact hspace
    rw [hpast, Cursor.pasted_rest, hrest]
    exact List.suffix_rfl

/-- The character that comes next is one of the pattern, or nothing but white space and a comment
is left of it. -/
theorem peek?_pasted (k : Cursor) (cs : List Char) :
    (k.peek? (cs ++ closing) = some ')' ∧ (k.past (cs ++ closing)).rest <:+ closing) ∨
      k.peek? (cs ++ closing) = k.peek? cs := by
  cases hflag : k.flags.ignoreSpace with
  | false =>
    cases cs with
    | nil =>
      refine .inl ⟨by simp [Cursor.peek?, hflag, closing], ?_⟩
      exact Cursor.past_suffix k closing
    | cons c cs => exact .inr (by simp [Cursor.peek?, hflag])
  | true =>
    have hblank := dropWhile_pasted Text.isBlank (by decide)
    simp only [Cursor.peek?, hflag, if_true, hblank]
    cases hcs : cs.dropWhile Text.isBlank with
    | nil =>
      exact .inl ⟨rfl, past_suffix_closing hflag (dropSpace_of_blank hcs)⟩
    | cons c rest =>
      by_cases hc : c = '#'
      · subst hc
        simp only [List.cons_append, hblank]
        cases hrest : rest.dropWhile Text.isBlank with
        | nil =>
          refine .inl ⟨rfl, past_suffix_closing hflag ?_⟩
          have hline : (rest.dropWhile (· != '\n')).dropWhile Text.isBlank = [] :=
            List.dropWhile_eq_nil_iff.2 fun c hc =>
              List.dropWhile_eq_nil_iff.1 hrest c ((List.dropWhile_suffix _).subset hc)
          obtain ⟨n, hn⟩ : ∃ n, cs.length = n + 1 := by
            have := (List.dropWhile_suffix (l := cs) Text.isBlank).length_le
            rw [hcs, List.length_cons] at this
            exact ⟨cs.length - 1, by omega⟩
          rw [Cursor.dropSpace, hcs, hn]
          exact dropSpace_of_blank hline
        | cons c left => exact .inr rfl
      · have hne := cons_ne_cons hc rest
        have hne' := cons_ne_cons hc (rest ++ closing)
        simp only [List.cons_append]
        exact .inr rfl

/-! ## Ranges -/

/-- What a dash behind a character stands for: the start of a range, or itself. -/
def readRangeEnd? (first : Escaped) (k : Cursor) (rest : List Char) : Option (Member × Cursor) := do
  match k.peek? rest with
  | some ']' | some '-' => return (← memberOf? k.flags first, k)
  | _ =>
    let (last, k) ← readMember? (k.past rest)
    let a ← char? k.flags first
    let b ← char? k.flags last
    if a ≤ b then some (⟨.range a.toNat b.toNat, 0⟩, k) else none

/-- A member or a range, given its first character. -/
def readFrom? (first : Escaped) (k : Cursor) : Option (Member × Cursor) := do
  match k.rest with
  | '-' :: rest => readRangeEnd? first k rest
  | [] => none
  | _ => return (← memberOf? k.flags first, k)

theorem readRange?_eq (k : Cursor) :
    readRange? k = readMember? k >>= fun first => readFrom? first.1 first.2.skipSpace :=
  rfl

section Ranges

variable {first : Escaped} {m : Member}

theorem readRangeEnd?_suffix (hrest : k.rest = '-' :: rest)
    (h : readRangeEnd? first k rest = some (m, k₁)) : k₁.rest <:+ k.rest := by
  rw [readRangeEnd?] at h
  split at h
  iterate 2
    obtain ⟨m', -, h⟩ := Option.bind_eq_some_iff.1 h
    cases h
    exact List.suffix_rfl
  obtain ⟨⟨last, k₂⟩, hlast, h⟩ := Option.bind_eq_some_iff.1 h
  obtain ⟨a, -, h⟩ := Option.bind_eq_some_iff.1 h
  obtain ⟨b, -, h⟩ := Option.bind_eq_some_iff.1 h
  split at h
  · cases h
    have := (readMember?_suffix hlast).trans (List.tail_suffix _)
    rw [hrest]
    exact this.trans ((k.past_suffix rest).trans (List.suffix_cons _ _))
  · cases h

theorem readFrom?_suffix (h : readFrom? first k = some (m, k₁)) : k₁.rest <:+ k.rest := by
  rw [readFrom?] at h
  split at h
  next hrest => exact readRangeEnd?_suffix hrest h
  · cases h
  · obtain ⟨m', -, h⟩ := Option.bind_eq_some_iff.1 h
    cases h
    exact List.suffix_rfl

theorem readRange?_suffix (h : readRange? k = some (m, k₁)) : k₁.rest <:+ k.rest.tail := by
  obtain ⟨⟨first, k'⟩, hfirst, h⟩ := Option.bind_eq_some_iff.1 h
  exact (readFrom?_suffix h).trans (k'.skipSpace_suffix.trans (readMember?_suffix hfirst))

/-- A condition on a place is no member. -/
theorem readFrom?_anchor (a : Anchor) (k : Cursor) : readFrom? (.anchor a) k = none := by
  rw [readFrom?]
  split
  · rw [readRangeEnd?]
    split
    · rfl
    · rfl
    · cases readMember? _ <;> rfl
  · rfl
  · rfl

theorem readRangeEnd?_pasted (h : readRangeEnd? first k.pasted (rest ++ closing) = some (m, k₁)) :
    k₁.rest <:+ closing ∨ ∃ k', k₁ = k'.pasted ∧ readRangeEnd? first k rest = some (m, k') := by
  have hpeek' : k.pasted.peek? (rest ++ closing) = k.peek? (rest ++ closing) := rfl
  rw [readRangeEnd?, hpeek', Cursor.pasted_past, Cursor.pasted_flags] at h
  rw [readRangeEnd?]
  rcases peek?_pasted k rest with ⟨hpeek, hpast⟩ | hpeek
  · rw [hpeek] at h
    obtain ⟨⟨last, k₂⟩, hlast, h⟩ := Option.bind_eq_some_iff.1 h
    obtain ⟨a, -, h⟩ := Option.bind_eq_some_iff.1 h
    obtain ⟨b, -, h⟩ := Option.bind_eq_some_iff.1 h
    split at h
    · cases h
      exact .inl ((readMember?_suffix hlast).trans ((List.tail_suffix _).trans hpast))
    · cases h
  rw [hpeek] at h
  generalize k.peek? rest = next at h ⊢
  split at h
  iterate 2
    obtain ⟨m, hm, h⟩ := Option.bind_eq_some_iff.1 h
    cases h
    exact .inr ⟨k, rfl, by simp only [hm]; rfl⟩
  obtain ⟨⟨last, k₂⟩, hlast, h⟩ := Option.bind_eq_some_iff.1 h
  obtain ⟨a, ha, h⟩ := Option.bind_eq_some_iff.1 h
  obtain ⟨b, hb, h⟩ := Option.bind_eq_some_iff.1 h
  split at h
  next hle =>
    cases h
    rcases k.past_pasted rest with hpast | hpast
    · have := readMember?_suffix hlast
      rw [hpast] at this
      exact .inl ((crossed_nil.of_suffix this).suffix_closing)
    rw [hpast] at hlast
    obtain hcross | ⟨k₃, rfl, hlast'⟩ | ⟨a', rfl⟩ := readMember?_pasted hlast
    · exact .inl hcross.suffix_closing
    · refine .inr ⟨k₃, rfl, ?_⟩
      rw [Cursor.pasted_flags] at ha hb
      simp only [hlast', bind, Option.bind_some, ha, hb, if_pos hle]
    · cases hb
  next => cases h

theorem readFrom?_pasted (h : readFrom? first k.pasted = some (m, k₁)) :
    k₁.rest <:+ closing ∨ ∃ k', k₁ = k'.pasted ∧ readFrom? first k = some (m, k') := by
  rw [readFrom?, Cursor.pasted_rest, Cursor.pasted_flags] at h
  rw [readFrom?]
  cases hrest : k.rest with
  | nil =>
    rw [hrest] at h
    obtain ⟨m, -, h⟩ := Option.bind_eq_some_iff.1 h
    cases h
    refine .inl ?_
    rw [Cursor.pasted_rest, hrest]
    exact List.suffix_rfl
  | cons c rest =>
    rw [hrest] at h
    by_cases hc : c = '-'
    · subst hc
      exact readRangeEnd?_pasted h
    · have hne := cons_ne_cons hc rest
      have hne' := cons_ne_cons hc (rest ++ closing)
      simp only [List.cons_append] at h ⊢
      obtain ⟨m, hm, h⟩ := Option.bind_eq_some_iff.1 h
      cases h
      exact .inr ⟨k, rfl, by simp only [hm]; rfl⟩

theorem readRange?_pasted (h : readRange? k.pasted = some (m, k₁)) :
    k₁.rest <:+ closing ∨ ∃ k', k₁ = k'.pasted ∧ readRange? k = some (m, k') := by
  rw [readRange?_eq] at h ⊢
  obtain ⟨⟨first, k₂⟩, hfirst, h⟩ := Option.bind_eq_some_iff.1 h
  obtain hcross | ⟨k', rfl, hfirst'⟩ | ⟨a, rfl⟩ := readMember?_pasted hfirst
  · have := (readFrom?_suffix h).trans k₂.skipSpace_suffix
    exact .inl (hcross.of_suffix this).suffix_closing
  · rcases k'.skipSpace_pasted with hskip | hskip
    · have := readFrom?_suffix h
      rw [hskip] at this
      exact .inl (crossed_nil.of_suffix this).suffix_closing
    rw [hskip] at h
    rw [hfirst']
    exact readFrom?_pasted h
  · cases (readFrom?_anchor a k₂.skipSpace).symm.trans h

end Ranges

/-! ## Sets between brackets -/

/-- A class that closes before another text closes before what follows that. -/
def NamedClass.pasted (c : NamedClass) : NamedClass := { c with rest := c.rest ++ closing }

/-- A run of characters that the closing would prolong ends in front of it, or not at all. -/
theorem span_pasted (p : Char → Bool) (hp : ∀ c ∈ closing, p c = true) (cs : List Char) :
    ((cs ++ closing).span p = (cs ++ closing, []) ∧ cs.span p = (cs, [])) ∨
      ∃ run c rest, (cs ++ closing).span p = (run, c :: (rest ++ closing)) ∧
        cs.span p = (run, c :: rest) := by
  simp only [List.span_eq_takeWhile_dropWhile]
  cases hdrop : cs.dropWhile p with
  | nil =>
    have hcs := List.dropWhile_eq_nil_iff.1 hdrop
    have hall : ∀ c ∈ cs ++ closing, p c = true := fun c hc =>
      (List.mem_append.1 hc).elim (hcs c) (hp c)
    left
    rw [List.takeWhile_eq_self_iff.2 hall, List.dropWhile_eq_nil_iff.2 hall,
      List.takeWhile_eq_self_iff.2 hcs]
    exact ⟨rfl, rfl⟩
  | cons c rest =>
    have hne : cs.dropWhile p ≠ [] := by simp [hdrop]
    have hlen : (cs.takeWhile p).length ≠ cs.length := fun hlen => by
      have := congrArg List.length (List.takeWhile_append_dropWhile (p := p) (l := cs))
      rw [List.length_append, hlen, hdrop, List.length_cons] at this
      omega
    refine .inr ⟨cs.takeWhile p, c, rest, ?_, rfl⟩
    rw [List.takeWhile_append, if_neg hlen, List.dropWhile_append, if_neg (by simpa using hne),
      hdrop, List.cons_append]

/-- The class whose name stands in front of a colon and a bracket. -/
def readClass? (negated : Bool) (cs : List Char) : Option NamedClass :=
  let (name, rest) := cs.span (· != ':')
  match rest, CharSet.ofClassName? (String.ofList name) with
  | ':' :: ']' :: rest, some s => some ⟨s, negated, rest⟩
  | _, _ => none

theorem readNamedClass?_eq (cs : List Char) :
    readNamedClass? cs =
      match cs with
      | ':' :: '^' :: rest => readClass? true rest
      | ':' :: rest => readClass? false rest
      | _ => none := by
  rcases cs with _ | ⟨c, cs⟩
  · rfl
  by_cases hc : c = ':'
  · subst hc
    rcases cs with _ | ⟨d, cs⟩
    · rfl
    by_cases hd : d = '^'
    · subst hd
      rfl
    · have hne := cons_ne_cons hd cs
      have hne' : ∀ tail, ':' :: d :: cs = ':' :: '^' :: tail → False := by simp [hd]
      simp only [readNamedClass?]
      rfl
  · have hne := cons_ne_cons hc cs
    have hne' : ∀ tail, c :: cs = ':' :: '^' :: tail → False := by simp [hc]
    simp only [readNamedClass?]

theorem readClass?_pasted (negated : Bool) (cs : List Char) :
    readClass? negated (cs ++ closing) = (readClass? negated cs).map NamedClass.pasted := by
  unfold readClass?
  obtain ⟨hlong, hshort⟩ | ⟨run, c, rest, hlong, hshort⟩ :=
    span_pasted (· != ':') (by simp [closing]) cs
  · rw [hlong, hshort]
    rfl
  · rw [hlong, hshort]
    dsimp only
    split
    next heq _ =>
      cases rest with
      | nil => cases heq
      | cons d rest =>
        cases heq
        simp_all [NamedClass.pasted]
    next hne =>
      split
      next heq hs =>
        cases heq
        exact absurd hs (hne _ _ rfl)
      next => rfl

theorem readClass?_suffix {negated : Bool} {c : NamedClass} (h : readClass? negated cs = some c) :
    c.rest <:+ cs := by
  rw [readClass?, List.span_eq_takeWhile_dropWhile] at h
  dsimp only at h
  split at h
  next hrest _ =>
    cases h
    have := List.dropWhile_suffix (l := cs) (· != ':')
    rw [hrest] at this
    exact (List.suffix_cons _ _).trans ((List.suffix_cons _ _).trans this)
  next => cases h

theorem readNamedClass?_pasted (cs : List Char) :
    readNamedClass? (cs ++ closing) = (readNamedClass? cs).map NamedClass.pasted := by
  rw [readNamedClass?_eq, readNamedClass?_eq]
  rcases cs with _ | ⟨c, cs⟩
  · rfl
  by_cases hc : c = ':'
  · subst hc
    rcases cs with _ | ⟨d, cs⟩
    · exact readClass?_pasted false []
    by_cases hd : d = '^'
    · subst hd
      exact readClass?_pasted true cs
    · simp only [List.cons_append]
      simpa [hd] using readClass?_pasted false (d :: cs)
  · simp [hc]

theorem readNamedClass?_suffix {c : NamedClass} (h : readNamedClass? cs = some c) :
    c.rest <:+ cs := by
  rw [readNamedClass?_eq] at h
  split at h
  · exact (readClass?_suffix h).trans ((List.suffix_cons _ _).trans (List.suffix_cons _ _))
  · exact (readClass?_suffix h).trans (List.suffix_cons _ _)
  · cases h

theorem readSign?_pasted (c : Char) (cs : List Char) :
    readSign? (c :: (cs ++ closing)) =
      (readSign? (c :: cs)).map fun (sign, rest) => (sign, rest ++ closing) := by
  rw [readSign?.eq_def]
  split
  iterate 3
    next heq =>
      cases cs with
      | nil => cases heq
      | cons d cs =>
        cases heq
        rfl
  next hinter hdiff hsymm =>
    rw [readSign?.eq_def]
    split
    next heq => cases heq; exact absurd rfl (hinter _)
    next heq => cases heq; exact absurd rfl (hdiff _)
    next heq => cases heq; exact absurd rfl (hsymm _)
    next => rfl

theorem readSign?_suffix {sign : SetSign} (h : readSign? cs = some (sign, rest)) :
    rest <:+ cs.tail := by
  rw [readSign?.eq_def] at h
  split at h <;> cases h
  all_goals exact List.suffix_cons _ _

theorem readDashes_suffix (fuel : Nat) (c : Cursor) (ms : List Member) :
    (readDashes k fuel c ms).1.rest <:+ c.rest := by
  induction fuel generalizing c ms with
  | zero => exact List.suffix_rfl
  | succ fuel ih =>
    rw [readDashes]
    split
    next rest hrest =>
      rw [hrest]
      exact (ih _ _).trans ((c.past_suffix rest).trans (List.suffix_cons _ _))
    next => exact List.suffix_rfl

theorem readDashes_pasted (k k' : Cursor) {c : Cursor} (ms : List Member)
    (hfuel : c.rest.length ≤ fuel) (hfuel' : c.rest.length ≤ fuel') :
    (readDashes k fuel' c.pasted ms).1.rest = [] ∨
      readDashes k fuel' c.pasted ms =
        ((readDashes k' fuel c ms).1.pasted, (readDashes k' fuel c ms).2) := by
  induction fuel generalizing fuel' c ms with
  | zero =>
    have hrest : c.rest = [] := List.length_eq_zero_iff.1 (by omega)
    refine .inr ?_
    cases fuel' <;> simp [readDashes, hrest, closing]
  | succ fuel ih =>
    cases hrest : c.rest with
    | nil =>
      refine .inr ?_
      cases fuel' <;> simp [readDashes, hrest, closing]
    | cons d rest =>
      rw [hrest, List.length_cons] at hfuel hfuel'
      obtain ⟨fuel', rfl⟩ : ∃ n, fuel' = n + 1 := ⟨fuel' - 1, by omega⟩
      have hlen := (c.past_suffix rest).length_le
      by_cases hd : d = '-'
      · subst hd
        simp only [readDashes, Cursor.pasted_rest, hrest, List.cons_append, Cursor.pasted_past]
        rcases c.past_pasted rest with hpast | hpast
        · refine .inl (List.suffix_nil.1 ?_)
          have := readDashes_suffix (k := k) fuel' (c.past (rest ++ closing))
            (⟨.single '-', 0⟩ :: ms)
          rwa [hpast] at this
        · rw [hpast]
          exact ih _ (by omega) (by omega)
      · have hne := cons_ne_cons hd rest
        have hne' := cons_ne_cons hd (rest ++ closing)
        simp only [readDashes, Cursor.pasted_rest, hrest, List.cons_append]
        exact .inr trivial

/-- The start of a set behind the sign of a complement: dashes, or else a bracket. -/
def readFirst (negated : Bool) (k : Cursor) : Bool × Cursor × List Member :=
  let dashes := readDashes k k.rest.length k []
  match dashes.2, dashes.1.rest with
  | [], ']' :: rest => (negated, dashes.1.past rest, [⟨.single ']', 0⟩])
  | ms, _ => (negated, dashes.1, ms)

theorem readSetStart_eq (k : Cursor) :
    readSetStart k =
      match k.skipSpace.rest with
      | '^' :: rest => readFirst true (k.skipSpace.past rest)
      | _ => readFirst false k.skipSpace := by
  rw [readSetStart]
  generalize k.skipSpace = k
  cases hrest : k.rest with
  | nil => rfl
  | cons c rest =>
    by_cases hc : c = '^'
    · subst hc
      rfl
    · have hne := cons_ne_cons hc rest
      simp only
      rfl

theorem readFirst_suffix (negated : Bool) (k : Cursor) :
    (readFirst negated k).2.1.rest <:+ k.rest := by
  have hdashes := readDashes_suffix (k := k) k.rest.length k []
  rw [readFirst]
  split
  next hrest =>
    rw [hrest] at hdashes
    exact (Cursor.past_suffix _ _).trans ((List.suffix_cons _ _).trans hdashes)
  next => exact hdashes

theorem readSetStart_suffix (k : Cursor) : (readSetStart k).2.1.rest <:+ k.rest := by
  have hskip := k.skipSpace_suffix
  rw [readSetStart_eq]
  split
  next rest hrest =>
    rw [hrest] at hskip
    have := (Cursor.past_suffix k.skipSpace rest).trans (List.suffix_cons '^' rest)
    exact (readFirst_suffix _ _).trans (this.trans hskip)
  next => exact (readFirst_suffix _ _).trans hskip

/-- The start of a set in a text that goes on behind the pattern. -/
def pastedStart (start : Bool × Cursor × List Member) : Bool × Cursor × List Member :=
  (start.1, start.2.1.pasted, start.2.2)

theorem readFirst_pasted (negated : Bool) (k : Cursor) :
    (readFirst negated k.pasted).2.1.rest = [] ∨
      readFirst negated k.pasted = pastedStart (readFirst negated k) := by
  have hsuffix := readFirst_suffix negated k.pasted
  have hlen : k.rest.length ≤ k.pasted.rest.length := by simp
  rcases readDashes_pasted k.pasted k [] (Nat.le_refl k.rest.length) hlen with hdashes | hdashes
  · refine .inl ?_
    rw [readFirst, hdashes]
    split
    next heq => cases heq
    next => exact hdashes
  · rw [readFirst, readFirst, hdashes]
    dsimp only
    generalize readDashes k k.rest.length k [] = dashes
    obtain ⟨c, ms⟩ := dashes
    dsimp only [Cursor.pasted_rest]
    cases ms with
    | cons m ms => exact .inr rfl
    | nil =>
      cases hrest : c.rest with
      | nil => exact .inr rfl
      | cons d rest =>
        by_cases hd : d = ']'
        · subst hd
          rcases c.past_pasted rest with hpast | hpast
          · exact .inl hpast
          · refine .inr ?_
            simp only [List.cons_append, Cursor.pasted_past, hpast]
            rfl
        · have hne : ∀ tail, ([] : List Member) = [] → d :: rest = ']' :: tail → False := by
            simp [hd]
          have hne' : ∀ tail, ([] : List Member) = [] → d :: (rest ++ closing) = ']' :: tail →
              False := by
            simp [hd]
          refine .inr ?_
          simp only [List.cons_append]
          rfl

theorem readSetStart_pasted (k : Cursor) :
    (readSetStart k.pasted).2.1.rest = [] ∨
      readSetStart k.pasted = pastedStart (readSetStart k) := by
  have hcrossed : ∀ {negated k}, k.rest = [] → (readFirst negated k).2.1.rest = [] := by
    intro negated k hk
    have := readFirst_suffix negated k
    rwa [hk, List.suffix_nil] at this
  rw [readSetStart_eq, readSetStart_eq k]
  rcases k.skipSpace_pasted with hskip | hskip
  · rw [hskip]
    exact .inl (hcrossed hskip)
  rw [hskip, Cursor.pasted_rest]
  cases hrest : k.skipSpace.rest with
  | nil =>
    exact readFirst_pasted false k.skipSpace
  | cons c rest =>
    by_cases hc : c = '^'
    · subst hc
      simp only [List.cons_append, Cursor.pasted_past]
      rcases k.skipSpace.past_pasted rest with hpast | hpast
      · exact .inl (hcrossed hpast)
      · rw [hpast]
        exact readFirst_pasted true _
    · have hne := cons_ne_cons hc rest
      have hne' := cons_ne_cons hc (rest ++ closing)
      simp only [List.cons_append]
      exact readFirst_pasted false k.skipSpace

section Sets

variable {negated : Bool} {before : Option (Member × SetSign)} {ms : List Member} {m : Member}

/-- A reader of the rest of a set, given its sign, what is before and the members so far. -/
abbrev SetReader := Cursor → Bool → Option (Member × SetSign) → List Member →
  Option (Member × Cursor)

/-- A set that goes on behind a class or a set inside it, given the text after its bracket. -/
def readInside? (next : SetReader) (k : Cursor) (rest : List Char) (negated : Bool)
    (before : Option (Member × SetSign)) (ms : List Member) : Option (Member × Cursor) :=
  match readNamedClass? rest with
  | some c => do
    let s ← negate? k.flags c.negated (fold k.flags c.chars)
    next (k.jump c.rest) negated before (⟨s, 0⟩ :: ms)
  | none => do
    let start := readSetStart (k.jump rest)
    let inside ← next start.2.1 start.1 none start.2.2
    next inside.2 negated before (inside.1 :: ms)

/-- A set that goes on behind a sign, or else behind a character or a range. -/
def readOperand? (next : SetReader) (k : Cursor) (rest : List Char) (negated : Bool)
    (before : Option (Member × SetSign)) (ms : List Member) : Option (Member × Cursor) :=
  match readSign? rest with
  | some (sign, rest) =>
    next (k.jump rest) negated (some (combine k.flags before (unionOf ms.reverse), sign)) []
  | none => do
    let range ← readRange? k
    next range.2 negated before (range.1 :: ms)

/-- What one reader makes of a set in a text that goes on behind the pattern is what another one
makes of it in the pattern, as far as that has at most `size` characters. -/
structure SetReader.Continues (size : Nat) (long short : SetReader) : Prop where
  closes : ∀ {k k₁ negated before ms m}, long k negated before ms = some (m, k₁) →
    ']' :: k₁.rest <:+ k.rest
  agrees : ∀ {k k₁ negated before ms m}, k.rest.length ≤ size →
    long k.pasted negated before ms = some (m, k₁) →
      ∃ k', k₁ = k'.pasted ∧ short k negated before ms = some (m, k')

namespace SetReader.Continues

variable {size : Nat} {long short : SetReader}

/-- Nothing closes a set behind the pattern. -/
theorem not_closing (h : Continues size long short)
    (hlong : long k negated before ms = some (m, k₁)) : ¬k.rest <:+ closing :=
  not_suffix_closing (by decide) (h.closes hlong)

theorem inside (h : Continues size long short) (hsize : rest.length ≤ size)
    (hlong : readInside? long k.pasted (rest ++ closing) negated before ms = some (m, k₁)) :
    ∃ k', k₁ = k'.pasted ∧ readInside? short k rest negated before ms = some (m, k') := by
  unfold readInside? at hlong ⊢
  rw [readNamedClass?_pasted, Cursor.pasted_flags] at hlong
  cases hclass : readNamedClass? rest with
  | some c =>
    rw [hclass] at hlong
    obtain ⟨s, hs, hlong⟩ := Option.bind_eq_some_iff.1 hlong
    have hleft : (k.jump c.rest).rest.length ≤ size :=
      (readNamedClass?_suffix hclass).length_le.trans hsize
    obtain ⟨k', rfl, hshort⟩ := h.agrees hleft hlong
    exact ⟨k', rfl, Option.bind_eq_some_iff.2 ⟨s, hs, hshort⟩⟩
  | none =>
    rw [hclass] at hlong
    dsimp only [Option.map_none] at hlong ⊢
    have hstart : readSetStart (k.pasted.jump (rest ++ closing)) =
        readSetStart (k.jump rest).pasted := rfl
    have hleft := (readSetStart_suffix (k.jump rest)).length_le.trans hsize
    have hpasted := readSetStart_pasted (k.jump rest)
    rw [hstart] at hlong
    generalize readSetStart (k.jump rest).pasted = start' at hlong hpasted
    generalize readSetStart (k.jump rest) = start at hleft hpasted ⊢
    obtain ⟨⟨m', k'⟩, hinner, hlong⟩ := Option.bind_eq_some_iff.1 hlong
    rcases hpasted with hout | rfl
    · exact absurd (hout ▸ List.nil_suffix) (h.not_closing hinner)
    have hclose := ((List.suffix_cons _ _).trans (h.closes hinner)).length_le
    obtain ⟨k', rfl, hinner'⟩ := h.agrees hleft hinner
    have hleft' : k'.rest.length ≤ start.2.1.rest.length := by
      simpa [pastedStart] using hclose
    obtain ⟨k', rfl, hshort⟩ := h.agrees (hleft'.trans hleft) hlong
    exact ⟨k', rfl, Option.bind_eq_some_iff.2 ⟨_, hinner', hshort⟩⟩

theorem operand {c : Char} (h : Continues size long short) (hrest : k.rest = c :: rest)
    (hsize : rest.length ≤ size)
    (hlong : readOperand? long k.pasted (c :: (rest ++ closing)) negated before ms =
      some (m, k₁)) :
    ∃ k', k₁ = k'.pasted ∧ readOperand? short k (c :: rest) negated before ms = some (m, k') := by
  unfold readOperand? at hlong ⊢
  rw [readSign?_pasted] at hlong
  cases hsign : readSign? (c :: rest) with
  | some sign =>
    rw [hsign] at hlong
    have hleft : (k.jump sign.2).rest.length ≤ size :=
      (readSign?_suffix hsign).length_le.trans hsize
    exact h.agrees hleft hlong
  | none =>
    rw [hsign] at hlong
    obtain ⟨⟨m', k'⟩, hrange, hlong⟩ := Option.bind_eq_some_iff.1 hlong
    rcases readRange?_pasted hrange with hout | ⟨k', rfl, hrange'⟩
    · exact absurd hout (h.not_closing hlong)
    have hleft := (readRange?_suffix hrange').length_le
    rw [hrest] at hleft
    obtain ⟨k', rfl, hshort⟩ := h.agrees (hleft.trans hsize) hlong
    exact ⟨k', rfl, Option.bind_eq_some_iff.2 ⟨_, hrange', hshort⟩⟩

end SetReader.Continues

theorem readSet?_suffix (h : readSet? fuel k negated before ms = some (m, k₁)) :
    ']' :: k₁.rest <:+ k.rest := by
  induction fuel generalizing k negated before ms m k₁ with
  | zero => cases h
  | succ fuel ih =>
    have hskip := k.skipSpace_suffix
    rw [readSet?] at h
    dsimp only at h
    split at h
    · cases h
    next rest hrest =>
      obtain ⟨s, -, h⟩ := Option.bind_eq_some_iff.1 h
      cases h
      rwa [hrest] at hskip
    next rest hrest =>
      rw [hrest] at hskip
      refine List.IsSuffix.trans ?_ ((List.suffix_cons '[' rest).trans hskip)
      split at h
      next c hclass =>
        obtain ⟨s, -, h⟩ := Option.bind_eq_some_iff.1 h
        exact (ih h).trans (readNamedClass?_suffix hclass)
      next =>
        obtain ⟨⟨m', k'⟩, hinner, h⟩ := Option.bind_eq_some_iff.1 h
        have := (List.suffix_cons _ _).trans (ih hinner)
        exact (ih h).trans (this.trans (readSetStart_suffix _))
    next =>
      refine List.IsSuffix.trans ?_ hskip
      split at h
      next sign rest hsign =>
        exact (ih h).trans ((readSign?_suffix hsign).trans (List.tail_suffix _))
      next =>
        obtain ⟨⟨m', k'⟩, hrange, h⟩ := Option.bind_eq_some_iff.1 h
        exact (ih h).trans ((readRange?_suffix hrange).trans (List.tail_suffix _))

theorem readSet?_pasted (hfuel : k.rest.length ≤ fuel)
    (h : readSet? fuel' k.pasted negated before ms = some (m, k₁)) :
    ∃ k', k₁ = k'.pasted ∧ readSet? fuel k negated before ms = some (m, k') := by
  induction fuel' generalizing fuel k negated before ms m k₁ with
  | zero => cases h
  | succ fuel' ih =>
    have hlen := k.skipSpace_suffix.length_le
    rw [readSet?] at h
    dsimp only at h
    rcases k.skipSpace_pasted with hskip | hskip
    · simp [hskip] at h
    rw [hskip, Cursor.pasted_rest] at h
    cases hrest : k.skipSpace.rest with
    | nil =>
      rw [hrest] at h
      obtain ⟨⟨m', k'⟩, hrange, h⟩ := Option.bind_eq_some_iff.1 h
      have hleft := readRange?_suffix hrange
      rw [Cursor.pasted_rest, hrest] at hleft
      have hout : k'.rest <:+ closing := hleft.trans (List.suffix_cons _ _)
      exact absurd hout (not_suffix_closing (by decide) (readSet?_suffix h))
    | cons c rest =>
      rw [hrest] at h
      rw [hrest, List.length_cons] at hlen
      obtain ⟨fuel, rfl⟩ : ∃ n, fuel = n + 1 := ⟨fuel - 1, by omega⟩
      have hnext : SetReader.Continues rest.length (readSet? fuel') (readSet? fuel) :=
        ⟨readSet?_suffix, fun hk => ih (by omega)⟩
      rw [readSet?]
      dsimp only
      rw [hrest]
      by_cases hclose : c = ']'
      · subst hclose
        obtain ⟨s, hs, h⟩ := Option.bind_eq_some_iff.1 h
        cases h
        exact ⟨_, rfl, Option.bind_eq_some_iff.2 ⟨s, hs, rfl⟩⟩
      by_cases hopen : c = '['
      · subst hopen
        exact hnext.inside le_rfl h
      · have hne₁ := cons_ne_cons hclose rest
        have hne₂ := cons_ne_cons hopen rest
        have hne₁' := cons_ne_cons hclose (rest ++ closing)
        have hne₂' := cons_ne_cons hopen (rest ++ closing)
        have hne : c :: rest = [] → False := by simp
        have hne' : c :: (rest ++ closing) = [] → False := by simp
        simp only [List.cons_append] at h ⊢
        exact hnext.operand hrest le_rfl h

end Sets

end MessageRouter.Regex
