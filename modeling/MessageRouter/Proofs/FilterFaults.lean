import MessageRouter.Proofs.FilterGrammar

/-!
# Where reading a filter stops

A text that is no filter is refused at the first character that no filter can have there: what was
read up to it is the beginning of a filter, and with this character it no longer is.  Where that
character is missing, the text only ends too early.  A text that is refused for its depth is
refused behind the parenthesis that opens one filter too many: `Filter.position_of_parse_error`.

`Filter.Stuck` says of each fault what has been read before it and what comes next.  A reader stops
with a fault exactly in these places, and what comes next matters by its first character only.
From this follow the two halves: what was read can be completed, since all faults but the depth
leave a place where the grammar goes on, and another text with the same first character is refused
there as well.
-/

namespace MessageRouter.Filter

open Text

variable {key : String} {c : Char} {cs rest used text ws : List Char} {parts : List (List Char)}
  {f : Filter} {fs : List Filter} {op : Operator} {d : Nat} {fault : Fault}

/-! ## Values -/

/-- The end of what can be read of a value, and what comes next. -/
inductive StuckEnd : Fault → List Char → List Char → Prop
  | unterminated : StuckEnd .unterminatedValue [] []
  | opens (rest : List Char) : StuckEnd .openInValue [] ('(' :: rest)
  | dangling : StuckEnd .danglingEscape ['\\'] []

/-- A value that does not get as far as its parenthesis. -/
inductive StuckValue (fault : Fault) : List Char → List Char → Prop
  | intro {parts : List (List Char)} {text used rest : List Char} (hv : ValueText parts text)
      (he : StuckEnd fault used rest) :
    StuckValue fault (text ++ used) rest

theorem PartText.read_error {v tail : List Char} {stop : Stop} (hv : PartText v text)
    (h : readParts tail = .error stop) : readParts (text ++ tail) = .error stop := by
  induction hv with
  | nil => exact h
  | plain hc _ ih =>
    simp only [isSpecial, Bool.or_eq_false_iff, beq_eq_false_iff_ne] at hc
    simp [readParts, ih, hc, bind, Except.bind]
  | escaped c _ ih => simp [readParts, ih, bind, Except.bind]

theorem ValueText.read_error {tail : List Char} {stop : Stop} (hv : ValueText parts text)
    (h : readParts tail = .error stop) : readParts (text ++ tail) = .error stop := by
  induction hv with
  | last hv => exact hv.read_error h
  | wildcard hv _ ih =>
    rw [List.append_assoc]
    exact hv.read_error (by simp [readParts, ih, bind, Except.bind])

theorem StuckValue.read (h : StuckValue fault used rest) :
    readParts (used ++ rest) = .error (fault, rest) := by
  obtain ⟨hv, he⟩ := h
  rw [List.append_assoc]
  refine hv.read_error ?_
  cases he <;> simp [readParts]

/-- In front of a place where a value stops there may be any text of a value. -/
theorem StuckValue.of_append (cs : List Char) {extend : List (List Char) → List (List Char)}
    (hext : ∀ {parts text}, ValueText parts text → ValueText (extend parts) (cs ++ text))
    (h : StuckValue fault used rest) : StuckValue fault (cs ++ used) rest := by
  obtain ⟨hv, he⟩ := h
  rw [← List.append_assoc]
  exact .intro (hext hv) he

/-- A computation that fails fails at its first step or behind it. -/
theorem bind_eq_error {ε α β : Type} {x : Except ε α} {f : α → Except ε β} {e : ε} :
    x >>= f = .error e ↔ x = .error e ∨ ∃ a, x = .ok a ∧ f a = .error e := by
  cases x <;> simp [bind, Except.bind]

theorem exists_stuckValue (h : readParts cs = .error (fault, rest)) :
    ∃ used, cs = used ++ rest ∧ StuckValue fault used rest := by
  have hempty : ValueText [[]] [] := .last .nil
  fun_induction readParts cs with
  | case1 =>
    cases h
    exact ⟨_, rfl, .intro hempty .unterminated⟩
  | case2 c cs ih =>
    rcases bind_eq_error.1 h with h | ⟨_, -, h⟩
    · obtain ⟨used, rfl, hstuck⟩ := ih h
      exact ⟨_, rfl, hstuck.of_append ['\\', c] fun hv => hv.escaped c⟩
    · cases h
  | case3 => cases h
  | case4 cs =>
    cases h
    exact ⟨_, rfl, .intro hempty (.opens cs)⟩
  | case5 cs hcs =>
    cases h
    cases rest with
    | nil => exact ⟨_, rfl, .intro hempty .dangling⟩
    | cons c cs => exact absurd rfl (hcs c cs rfl)
  | case6 c cs hcs hclose hopen hslash ih =>
    rcases bind_eq_error.1 h with h | ⟨_, -, h⟩
    · obtain ⟨used, rfl, hstuck⟩ := ih h
      refine ⟨c :: used, rfl, ?_⟩
      by_cases hstar : c = '*'
      · subst hstar
        exact hstuck.of_append ['*'] fun hv => .wildcard .nil hv
      · exact hstuck.of_append [c] fun hv =>
          hv.plain (by simp [isSpecial, hclose, hopen, hslash, hstar])
    · cases h

/-! ## Comparisons -/

/-- What can be read of a comparison, and what comes next. -/
inductive StuckItem : Fault → List Char → List Char → Prop
  | name {c : Char} (hc : endsName c = true) (rest : List Char) :
    StuckItem .missingName [] (c :: rest)
  | operator {key : String} {text rest : List Char} (hk : NameText key text)
      (hrest : ∀ c ∈ rest.head?, c = '(' ∨ c = ')') :
    StuckItem .missingOperator text rest
  | sign {key : String} {text rest : List Char} {c : Char} {op : Operator} (hk : NameText key text)
      (hop : Operator.ofSign? c = some op) (hrest : rest.head? ≠ some '=') :
    StuckItem (.expected '=') (text ++ [c]) rest
  | value {key : String} {text used rest : List Char} {fault : Fault} (hk : NameText key text)
      (op : Operator) (hv : StuckValue fault used rest) :
    StuckItem fault (text ++ (op.text.toList ++ used)) rest

theorem dropChar_eq_error {stop : Stop} :
    dropChar c cs = .error stop ↔ cs.head? ≠ some c ∧ stop = (.expected c, cs) := by
  cases cs with
  | nil => simp [dropChar, eq_comm]
  | cons a cs =>
    simp only [dropChar]
    split <;> simp_all [eq_comm]

theorem readName_of_endsName (hc : endsName c = true) (rest : List Char) :
    readName (c :: rest) = .error (.missingName, c :: rest) := by
  simp [readName, List.span_eq_takeWhile_dropWhile, hc, Text.trim, trimStart, trimEnd]

theorem StuckItem.read (h : StuckItem fault used rest) :
    readItem (used ++ rest) = .error (fault, rest) := by
  cases h with
  | name hc rest => exact bind_eq_error.2 (.inl (readName_of_endsName hc rest))
  | operator hk hrest =>
    have hends : ∀ c ∈ rest.head?, endsName c = true := by
      intro c hc
      rcases hrest c hc with rfl | rfl <;> rfl
    refine bind_eq_error.2 (.inr ⟨_, hk.read hends, bind_eq_error.2 (.inl ?_)⟩)
    cases rest with
    | nil => rfl
    | cons c cs => rcases hrest c rfl with rfl | rfl <;> rfl
  | @sign key text _ c op hk hop hrest =>
    have hc : endsName c = true ∧ c ≠ '=' := by
      rw [Operator.ofSign?.eq_def] at hop
      split at hop <;> cases hop <;> simp [endsName]
    rw [List.append_assoc]
    refine bind_eq_error.2 (.inr ⟨_, hk.read (by simpa using hc.1), bind_eq_error.2 (.inl ?_)⟩)
    have hdrop : dropChar '=' rest = .error (.expected '=', rest) :=
      dropChar_eq_error.2 ⟨hrest, rfl⟩
    simp [readOperator, hop, hdrop, hc.2, bind, Except.bind]
  | @value key text used _ _ hk op hv =>
    obtain ⟨c, cs, hop, hc⟩ := endsName_operator op
    have hname : readName (text ++ (op.text.toList ++ (used ++ rest))) =
        .ok (key, op.text.toList ++ (used ++ rest)) := hk.read (by simpa [hop] using hc)
    rw [List.append_assoc, List.append_assoc]
    exact bind_eq_error.2 (.inr ⟨_, hname, bind_eq_error.2 (.inr ⟨_, readOperator_append op,
      bind_eq_error.2 (.inl hv.read)⟩)⟩)

/-- The characters behind a name end it. -/
theorem endsName_of_readName (h : readName cs = .ok (key, rest)) :
    ∀ c ∈ rest.head?, endsName c = true := by
  intro c hc
  simp only [readName, List.span_eq_takeWhile_dropWhile] at h
  split at h
  · cases h
  obtain ⟨-, rfl⟩ := h
  have hne : cs.dropWhile (!endsName ·) ≠ [] := fun hn => by simp [hn] at hc
  have := List.head_dropWhile_not (!endsName ·) hne
  rw [List.head?_eq_some_head hne, Option.mem_some_iff] at hc
  simpa [hc] using this

/-- Only a character that ends a name leaves none at the start of one. -/
theorem exists_stuckName (hcs : StartsName cs) (hne : cs ≠ [])
    (h : readName cs = .error (fault, rest)) :
    ∃ used, cs = used ++ rest ∧ StuckItem fault used rest := by
  obtain ⟨c, cs, rfl⟩ := List.exists_cons_of_ne_nil hne
  have hblank : isBlank c = false := (hcs c rfl).1
  by_cases hc : endsName c = true
  · rw [readName_of_endsName hc] at h
    cases h
    exact ⟨[], rfl, .name hc cs⟩
  · have hne : Text.trim ((c :: cs).takeWhile (!endsName ·)) ≠ [] := by
      rw [List.takeWhile_cons_of_pos (by simpa using hc), Text.trim,
        trimStart_of_not_blank hblank, trimEnd, List.reverse_ne_nil_iff, ne_eq,
        List.dropWhile_eq_nil_iff]
      intro hall
      simp [hall c (by simp)] at hblank
    simp only [readName, List.span_eq_takeWhile_dropWhile, if_neg hne] at h
    cases h

theorem exists_stuckOperator (hk : NameText key text) (hends : ∀ c ∈ cs.head?, endsName c = true)
    (h : readOperator cs = .error (fault, rest)) :
    ∃ used, text ++ cs = used ++ rest ∧ StuckItem fault used rest := by
  cases cs with
  | nil =>
    cases h
    exact ⟨text, rfl, .operator hk (by simp)⟩
  | cons c cs =>
    by_cases heq : c = '='
    · subst heq
      cases h
    cases hop : Operator.ofSign? c with
    | none =>
      have hread : readOperator (c :: cs) = .error (.missingOperator, c :: cs) := by
        simp [readOperator, hop]
      rw [hread] at h
      cases h
      refine ⟨text, rfl, .operator hk fun a ha => ?_⟩
      obtain rfl := Option.mem_some_iff.1 ha
      have hc := hends c rfl
      simp only [endsName, Bool.or_eq_true, beq_iff_eq] at hc
      rcases hc with ((((hc | rfl) | rfl) | rfl) | hc) | hc
      · exact absurd hc heq
      · cases hop
      · cases hop
      · cases hop
      · exact .inl hc
      · exact .inr hc
    | some op =>
      have hread : readOperator (c :: cs) = dropChar '=' cs >>= fun rest => pure (op, rest) := by
        simp [readOperator, hop]
      rw [hread] at h
      rcases bind_eq_error.1 h with hdrop | ⟨_, -, hok⟩
      · obtain ⟨hrest, hstop⟩ := dropChar_eq_error.1 hdrop
        cases hstop
        exact ⟨text ++ [c], by simp, .sign hk hop hrest⟩
      · cases hok

theorem exists_stuckItem (hcs : StartsName cs) (hne : cs ≠ [])
    (h : readItem cs = .error (fault, rest)) :
    ∃ used, cs = used ++ rest ∧ StuckItem fault used rest := by
  rcases bind_eq_error.1 h with hname | ⟨⟨key, cs'⟩, hname, hitem⟩
  · exact exists_stuckName hcs hne hname
  have hends := endsName_of_readName hname
  obtain ⟨text, rfl, hk⟩ := exists_nameText hcs hname
  rcases bind_eq_error.1 hitem with hop | ⟨⟨op, cs''⟩, hop, hvalue⟩
  · exact exists_stuckOperator hk hends hop
  obtain rfl := eq_append_of_readOperator hop
  rcases bind_eq_error.1 hvalue with hparts | ⟨_, -, hok⟩
  · obtain ⟨used, rfl, hv⟩ := exists_stuckValue hparts
    exact ⟨_, by simp, .value hk op hv⟩
  · cases hok

/-! ## Combinations -/

/-- What stands between a combining sign and one of its operands: those before it, complete. -/
inductive Operands (P : Filter → List Char → Prop) : List Char → Prop
  | none {ws : List Char} (hws : IsGap ws) : Operands P ws
  | some {fs : List Filter} {ws cs : List Char} (hws : IsGap ws) (hfs : ListText P fs cs) :
    Operands P (ws ++ cs)

/-- What can be read between the parentheses of a filter, and what comes next. -/
inductive StuckBody (P : Filter → List Char → Prop) (N : Fault → List Char → List Char → Prop) :
    Fault → List Char → List Char → Prop
  | missing : StuckBody P N .missingFilter [] []
  | noOperand {sign : Char} {ws rest : List Char} (hsign : sign = '&' ∨ sign = '|')
      (hws : IsGap ws) (hrest : ∀ c ∈ rest.head?, isBlank c = false ∧ c ≠ '(') :
    StuckBody P N .emptyList (sign :: ws) rest
  | negated {ws used rest : List Char} {fault : Fault} (hws : IsGap ws)
      (hstart : ∀ c ∈ (used ++ rest).head?, isBlank c = false) (h : N fault used rest) :
    StuckBody P N fault ('!' :: (ws ++ used)) rest
  | operand {sign : Char} {ds used rest : List Char} {fault : Fault}
      (hsign : sign = '&' ∨ sign = '|') (hds : Operands P ds)
      (hopen : (used ++ rest).head? = some '(') (h : N fault used rest) :
    StuckBody P N fault (sign :: (ds ++ used)) rest
  | item {used rest : List Char} {fault : Fault} (hstart : StartsName (used ++ rest))
      (h : StuckItem fault used rest) :
    StuckBody P N fault used rest

section Combinations

variable {nested : Reader Filter} {P : Filter → List Char → Prop}
  {N : Fault → List Char → List Char → Prop} {stop : Stop}

/-- The reader stops where `N` says, with the fault that `N` says. -/
def Stops (nested : Reader Filter) (N : Fault → List Char → List Char → Prop) : Prop :=
  ∀ cs fault rest, nested cs = .error (fault, rest) ↔ ∃ used, cs = used ++ rest ∧ N fault used rest

theorem readMany_error {count : Nat} (hopen : cs.head? = some '(') (hcount : 0 < count)
    (h : nested cs = .error stop) : readMany nested count cs = .error stop := by
  obtain ⟨ds, rfl⟩ := List.head?_eq_some_iff.1 hopen
  obtain ⟨count, rfl⟩ : ∃ n, count = n + 1 := ⟨count - 1, by omega⟩
  exact bind_eq_error.2 (.inl h)

theorem readList_error {ds : List Char} (ho : Opens P) (htake : ∀ f, Takes nested P f)
    (hds : Operands P ds) (hopen : cs.head? = some '(') (h : nested cs = .error stop) :
    readList nested (ds ++ cs) = .error stop := by
  have htrim : trimStart cs = cs := by
    obtain ⟨cs, rfl⟩ := List.head?_eq_some_iff.1 hopen
    exact trimStart_of_not_blank (by decide)
  have hpos : 0 < cs.length := by
    obtain ⟨cs, rfl⟩ := List.head?_eq_some_iff.1 hopen
    simp
  refine bind_eq_error.2 (.inl ?_)
  cases hds with
  | none hws =>
    rw [hws.trimStart, htrim]
    exact readMany_error hopen hpos h
  | @some fs ws text hws hfs =>
    obtain ⟨left, hleft, hmany⟩ := hfs.readMany ho (fun f _ => htake f) cs
      (show text.length ≤ (text ++ cs).length by simp)
    rw [List.append_assoc, hws.trimStart, hfs.trimStart ho, hmany, htrim,
      readMany_error hopen (by simp at hleft; omega) h]
    rfl

/-- Where filters are read one after another, some are complete and the next one is not. -/
theorem exists_stuckMany {count : Nat} (hstop : Stops nested N) (hfind : Finds nested P)
    (h : readMany nested count cs = .error (fault, rest)) :
    ∃ ds used, cs = ds ++ (used ++ rest) ∧ (ds = [] ∨ ∃ fs, ListText P fs ds) ∧
      (used ++ rest).head? = some '(' ∧ N fault used rest := by
  induction count generalizing cs with
  | zero => cases h
  | succ count ih =>
    rw [readMany.eq_def] at h
    dsimp only at h
    split at h
    · rcases bind_eq_error.1 h with h | ⟨⟨f, tail⟩, hf, h⟩
      · obtain ⟨used, hcs, hN⟩ := (hstop _ _ _).1 h
        exact ⟨[], used, hcs, .inl rfl, by rw [← hcs]; rfl, hN⟩
      rcases bind_eq_error.1 h with h | ⟨_, -, h⟩
      · obtain ⟨text, hcs, hf⟩ := hfind _ _ _ hf
        obtain ⟨ws, hws, htail⟩ := exists_gap tail
        obtain ⟨ds, used, htrim, hds, hopen, hN⟩ := ih h
        rw [hcs, htail, htrim]
        refine ⟨text ++ (ws ++ ds), used, by simp, .inr ?_, hopen, hN⟩
        rcases hds with rfl | ⟨fs, hfs⟩
        · exact ⟨[f], by simpa using .one hf hws⟩
        · exact ⟨f :: fs, .more hf hws hfs⟩
      · cases h
    · cases h

theorem exists_stuckList (hstop : Stops nested N) (hfind : Finds nested P)
    (h : readList nested cs = .error (fault, rest)) :
    (fault = .emptyList ∧ ∃ ws, cs = ws ++ rest ∧ IsGap ws ∧
      ∀ c ∈ rest.head?, isBlank c = false ∧ c ≠ '(') ∨
    ∃ ds used, cs = ds ++ (used ++ rest) ∧ Operands P ds ∧
      (used ++ rest).head? = some '(' ∧ N fault used rest := by
  obtain ⟨ws, hws, hcs⟩ := exists_gap cs
  rcases bind_eq_error.1 h with h | ⟨⟨fs, tail⟩, hfs, h⟩
  · obtain ⟨ds, used, htrim, hds, hopen, hN⟩ := exists_stuckMany hstop hfind h
    refine .inr ⟨ws ++ ds, used, by rw [hcs, htrim]; simp, ?_, hopen, hN⟩
    rcases hds with rfl | ⟨fs, hfs⟩
    · simpa using .none hws
    · exact .some hws hfs
  · dsimp only at h
    split at h
    next hnil =>
      cases h
      rw [List.isEmpty_iff.1 hnil] at hfs
      have htail := eq_of_readMany_nil hfs
      refine .inl ⟨rfl, ws, by rw [← htail, ← hcs], hws, fun c hc => ?_⟩
      refine ⟨head_trimStart (htail ▸ hc), ?_⟩
      -- a parenthesis would have been read, or have been the fault
      rintro rfl
      obtain ⟨ds, rfl⟩ := List.head?_eq_some_iff.1 hc
      rw [htail] at hfs
      obtain ⟨_, -, hfs⟩ := bind_eq_ok.1 hfs
      obtain ⟨_, -, hfs⟩ := bind_eq_ok.1 hfs
      cases hfs
    · cases h

theorem StuckBody.trimStart (h : StuckBody P N fault used rest) :
    trimStart (used ++ rest) = used ++ rest := by
  cases h with
  | missing => rfl
  | negated => exact trimStart_of_not_blank (by decide)
  | noOperand hsign | operand hsign =>
    rcases hsign with rfl | rfl <;> exact trimStart_of_not_blank (by decide)
  | item hstart => exact trimStart_eq_self fun c hc => (hstart c hc).1

theorem StuckItem.ne_nil (h : StuckItem fault used rest) : used ++ rest ≠ [] := by
  cases h with
  | name => simp
  | operator hk | sign hk | value hk => simp [hk.ne_nil]

theorem StuckBody.read (ho : Opens P) (htake : ∀ f, Takes nested P f) (hstop : Stops nested N)
    (h : StuckBody P N fault used rest) :
    readBody nested (used ++ rest) = .error (fault, rest) := by
  cases h with
  | missing => rfl
  | @noOperand sign ws _ hsign hws hrest =>
    have hlist : readList nested (ws ++ rest) = .error (.emptyList, rest) := by
      have hclosed : rest.head? ≠ some '(' := fun h => (hrest _ h).2 rfl
      refine bind_eq_error.2 (.inr ⟨([], rest), ?_, rfl⟩)
      rw [hws.trimStart, trimStart_eq_self fun c hc => (hrest c hc).1,
        readMany_of_not_open hclosed]
    rcases hsign with rfl | rfl <;> exact bind_eq_error.2 (.inl hlist)
  | @negated ws used _ _ hws hstart hN =>
    rw [List.cons_append, List.append_assoc]
    refine bind_eq_error.2 (.inl ?_)
    rw [hws.trimStart, trimStart_eq_self hstart]
    exact (hstop _ _ _).2 ⟨used, rfl, hN⟩
  | @operand sign ds used _ _ hsign hds hopen hN =>
    have hlist := readList_error ho htake hds hopen ((hstop _ _ _).2 ⟨used, rfl, hN⟩)
    rw [← List.append_assoc] at hlist
    rcases hsign with rfl | rfl <;> exact bind_eq_error.2 (.inl hlist)
  | item hstart hitem =>
    rw [readBody_of_startsName hitem.ne_nil hstart, hitem.read]

theorem exists_stuckBody (hstop : Stops nested N) (hfind : Finds nested P)
    (hcs : trimStart cs = cs) (h : readBody nested cs = .error (fault, rest)) :
    ∃ used, cs = used ++ rest ∧ StuckBody P N fault used rest := by
  have hlist : ∀ {sign cs}, (sign = '&' ∨ sign = '|') →
      readList nested cs = .error (fault, rest) →
      ∃ used, sign :: cs = used ++ rest ∧ StuckBody P N fault used rest := by
    intro sign cs hsign h
    obtain ⟨rfl, ws, rfl, hws, hrest⟩ | ⟨ds, used, rfl, hds, hopen, hN⟩ :=
      exists_stuckList hstop hfind h
    · exact ⟨sign :: ws, rfl, .noOperand hsign hws hrest⟩
    · exact ⟨sign :: (ds ++ used), by simp, .operand hsign hds hopen hN⟩
  rw [readBody.eq_def] at h
  split at h
  · rcases bind_eq_error.1 h with h | ⟨_, -, h⟩
    · exact hlist (.inl rfl) h
    · cases h
  · rcases bind_eq_error.1 h with h | ⟨_, -, h⟩
    · exact hlist (.inr rfl) h
    · cases h
  next cs' =>
    rcases bind_eq_error.1 h with h | ⟨_, -, h⟩
    · obtain ⟨used, htrim, hN⟩ := (hstop _ _ _).1 h
      obtain ⟨ws, hws, hgap⟩ := exists_gap cs'
      refine ⟨'!' :: (ws ++ used), by rw [hgap, htrim]; simp, .negated hws ?_ hN⟩
      rw [← htrim]
      exact fun c hc => head_trimStart hc
    · cases h
  · cases h
    exact ⟨[], rfl, .missing⟩
  next hand hor hnot hne =>
    have hstart : StartsName cs := startsName_of_not_sign hcs hand hor hnot
    obtain ⟨used, rfl, hitem⟩ := exists_stuckItem hstart hne h
    exact ⟨used, rfl, .item hstart hitem⟩

/-- Where filters end that were read one after another, none opens. -/
theorem head_of_readMany {count : Nat} (ho : Opens P) (hfind : Finds nested P)
    (hcs : trimStart cs = cs) (hcount : cs.length ≤ count)
    (h : readMany nested count cs = .ok (fs, rest)) : (trimStart rest).head? ≠ some '(' := by
  induction count generalizing cs fs with
  | zero =>
    cases h
    simp [List.length_eq_zero_iff.1 (Nat.le_zero.1 hcount), Text.trimStart]
  | succ count ih =>
    rw [readMany.eq_def] at h
    dsimp only at h
    split at h
    next cs' =>
      obtain ⟨⟨f, tail⟩, hf, h⟩ := bind_eq_ok.1 h
      obtain ⟨⟨gs, _⟩, hgs, h⟩ := bind_eq_ok.1 h
      cases h
      obtain ⟨text, htext, hf⟩ := hfind _ _ _ hf
      obtain ⟨text, rfl⟩ := ho _ _ hf
      refine ih (trimStart_eq_self fun c hc => head_trimStart hc) ?_ hgs
      have hlen := congrArg List.length htext
      have htrim := (List.dropWhile_suffix (l := tail) isBlank).length_le
      simp only [List.length_cons, List.length_append] at hlen hcount
      show (tail.dropWhile isBlank).length ≤ count
      omega
    next hopen =>
      cases h
      rw [hcs]
      intro hhead
      obtain ⟨ds, rfl⟩ := List.head?_eq_some_iff.1 hhead
      exact hopen ds rfl

theorem head_of_readList (ho : Opens P) (hfind : Finds nested P)
    (h : readList nested cs = .ok (fs, rest)) : (trimStart rest).head? ≠ some '(' := by
  obtain ⟨⟨gs, tail⟩, hgs, h⟩ := bind_eq_ok.1 h
  dsimp only at h
  split at h
  · cases h
  · cases h
    exact head_of_readMany ho hfind (trimStart_eq_self fun c hc => head_trimStart hc) le_rfl hgs

/-- Only behind the operand of a negation a filter can open where the parenthesis has to close. -/
theorem exists_not_of_readBody (ho : Opens P) (hfind : Finds nested P) (hcs : trimStart cs = cs)
    (h : readBody nested cs = .ok (f, rest)) (hopen : (trimStart rest).head? = some '(') :
    ∃ g, f = .not g := by
  rw [readBody.eq_def] at h
  split at h
  · obtain ⟨_, hfs, h⟩ := bind_eq_ok.1 h
    cases h
    exact absurd hopen (head_of_readList ho hfind hfs)
  · obtain ⟨_, hfs, h⟩ := bind_eq_ok.1 h
    cases h
    exact absurd hopen (head_of_readList ho hfind hfs)
  · obtain ⟨⟨g, _⟩, -, h⟩ := bind_eq_ok.1 h
    cases h
    exact ⟨g, rfl⟩
  · cases h
  next hand hor hnot hne =>
    obtain ⟨text, rest', -, rfl, -⟩ := exists_itemText (startsName_of_not_sign hcs hand hor hnot) h
    rw [trimStart_of_not_blank (by decide)] at hopen
    cases hopen

/-- What can be read of a filter whose operands `P` derives, and what comes next. -/
inductive StuckFilter (P : Filter → List Char → Prop) (N : Fault → List Char → List Char → Prop) :
    Fault → List Char → List Char → Prop
  | opening {rest : List Char} (hrest : rest.head? ≠ some '(') :
    StuckFilter P N (.expected '(') [] rest
  | body {ws used rest : List Char} {fault : Fault} (hws : IsGap ws)
      (h : StuckBody P N fault used rest) :
    StuckFilter P N fault ('(' :: (ws ++ used)) rest
  | closing {f : Filter} {ws cs ws' rest : List Char} (hws : IsGap ws) (hf : CombinedText P f cs)
      (hws' : IsGap ws') (hrest : ∀ c ∈ rest.head?, isBlank c = false ∧ c ≠ ')')
      (hopen : rest.head? = some '(' → ∃ g, f = .not g) :
    StuckFilter P N (.expected ')') ('(' :: (ws ++ (cs ++ ws'))) rest

end Combinations

/-! ## Filters -/

/-- The texts of the filters that stand at most `d` deep. -/
def Within (d : Nat) (f : Filter) (cs : List Char) : Prop := Derives f cs ∧ f.height ≤ d

/-- What can be read of a filter where no filter may start, and what comes next. -/
inductive StuckDeep : Fault → List Char → List Char → Prop
  | opening {rest : List Char} (hrest : rest.head? ≠ some '(') : StuckDeep (.expected '(') [] rest
  | tooDeep (rest : List Char) : StuckDeep .tooDeep ['('] rest

/-- What can be read of a filter that may stand `d` deep, and what comes next. -/
def Stuck : Nat → Fault → List Char → List Char → Prop
  | 0 => StuckDeep
  | d + 1 => StuckFilter (Within d) (Stuck d)

theorem opens_within : Opens (Within d) := fun f text hf => opens_derives f text hf.1

theorem takes_within (f : Filter) : Takes (readFilter d) (Within d) f :=
  fun text hf rest => takes_derives hf.2 text hf.1 rest

theorem finds_within : Finds (readFilter d) (Within d) := fun _ _ _ h => by
  obtain ⟨text, hcs, hf⟩ := finds_derives _ _ _ _ h
  exact ⟨text, hcs, hf, (wellFormed_of_readFilter h).2⟩

theorem StuckDeep.read (h : StuckDeep fault used rest) :
    readFilter 0 (used ++ rest) = .error (fault, rest) := by
  cases h with
  | opening hrest => exact bind_eq_error.2 (.inl (dropChar_eq_error.2 ⟨hrest, rfl⟩))
  | tooDeep => exact bind_eq_error.2 (.inr ⟨rest, by simp [dropChar], rfl⟩)

theorem exists_stuckDeep (h : readFilter 0 cs = .error (fault, rest)) :
    ∃ used, cs = used ++ rest ∧ StuckDeep fault used rest := by
  rcases bind_eq_error.1 h with h | ⟨tail, hopen, h⟩
  · obtain ⟨hcs, hstop⟩ := dropChar_eq_error.1 h
    cases hstop
    exact ⟨[], rfl, .opening hcs⟩
  · cases h
    exact ⟨['('], dropChar_eq_ok.1 hopen, .tooDeep rest⟩

theorem StuckFilter.read (hstop : Stops (readFilter d) (Stuck d))
    (h : StuckFilter (Within d) (Stuck d) fault used rest) :
    readFilter (d + 1) (used ++ rest) = .error (fault, rest) := by
  cases h with
  | opening hrest => exact bind_eq_error.2 (.inl (dropChar_eq_error.2 ⟨hrest, rfl⟩))
  | @body ws used _ _ hws h =>
    refine bind_eq_error.2 (.inr ⟨ws ++ (used ++ rest), by simp [dropChar],
      bind_eq_error.2 (.inl ?_)⟩)
    rw [hws.trimStart, h.trimStart, h.read opens_within takes_within hstop]
  | @closing f ws cs ws' _ hws hf hws' hrest hopen =>
    have htail : trimStart (ws' ++ rest) = rest := by
      rw [hws'.trimStart, trimStart_eq_self fun c hc => (hrest c hc).1]
    obtain ⟨tail, hbody, htail'⟩ := hf.read opens_within (fun g _ => takes_within g) (ws' ++ rest)
      (by rwa [htail])
    rw [htail] at htail'
    refine bind_eq_error.2 (.inr ⟨ws ++ (cs ++ (ws' ++ rest)), by simp [dropChar],
      bind_eq_error.2 (.inr ⟨(f, tail), ?_, bind_eq_error.2 (.inl ?_)⟩)⟩)
    · rw [hws.trimStart, hf.trimStart, hbody]
    · exact dropChar_eq_error.2 ⟨fun h => (hrest _ (htail' ▸ h)).2 rfl, by rw [htail']⟩

theorem exists_stuckFilter (hstop : Stops (readFilter d) (Stuck d))
    (h : readFilter (d + 1) cs = .error (fault, rest)) :
    ∃ used, cs = used ++ rest ∧ StuckFilter (Within d) (Stuck d) fault used rest := by
  rcases bind_eq_error.1 h with hopen | ⟨body, hopen, hread⟩
  · obtain ⟨hcs, hstop⟩ := dropChar_eq_error.1 hopen
    cases hstop
    exact ⟨[], rfl, .opening hcs⟩
  rw [dropChar_eq_ok.1 hopen]
  have hfront : trimStart (trimStart body) = trimStart body :=
    trimStart_eq_self fun c hc => head_trimStart hc
  obtain ⟨ws, hws, hbody⟩ := exists_gap body
  rcases bind_eq_error.1 hread with hf | ⟨⟨f, tail⟩, hf, hread⟩
  · obtain ⟨used, htext, hstuck⟩ := exists_stuckBody hstop finds_within hfront hf
    exact ⟨'(' :: (ws ++ used), by rw [hbody, htext]; simp, .body hws hstuck⟩
  rcases bind_eq_error.1 hread with hclose | ⟨_, -, hok⟩
  · obtain ⟨hne, hstop'⟩ := dropChar_eq_error.1 hclose
    cases hstop'
    obtain ⟨ws', hws', htail⟩ := exists_gap tail
    obtain ⟨text, htext, hcomb | ⟨-, rest', hrest⟩⟩ := exists_of_readBody finds_within hfront hf
    · refine ⟨'(' :: (ws ++ (text ++ ws')), ?_, .closing hws hcomb hws' ?_ ?_⟩
      · rw [htail] at htext
        rw [hbody, htext]
        simp
      · exact fun c hc => ⟨head_trimStart hc, fun hc' => hne (hc' ▸ hc)⟩
      · exact exists_not_of_readBody opens_within finds_within hfront hf
    · rw [hrest, trimStart_of_not_blank (by decide)] at hne
      exact absurd rfl hne
  · cases hok

theorem stops_readFilter (d : Nat) : Stops (readFilter d) (Stuck d) := by
  induction d with
  | zero =>
    refine fun cs fault rest => ⟨exists_stuckDeep, ?_⟩
    rintro ⟨used, rfl, h⟩
    exact h.read
  | succ d ih =>
    refine fun cs fault rest => ⟨exists_stuckFilter ih, ?_⟩
    rintro ⟨used, rfl, h⟩
    exact StuckFilter.read ih h

/-! ## Another text with the same next character -/

section Next

variable {P Q : Filter → List Char → Prop} {N M : Fault → List Char → List Char → Prop}
  {d' : Nat} {rest' : List Char}

theorem ListText.mono (hPQ : ∀ f cs, P f cs → Q f cs) (h : ListText P fs cs) :
    ListText Q fs cs := by
  induction h with
  | one hf hws => exact .one (hPQ _ _ hf) hws
  | more hf hws _ ih => exact .more (hPQ _ _ hf) hws ih

theorem Operands.mono (hPQ : ∀ f cs, P f cs → Q f cs) (h : Operands P cs) : Operands Q cs := by
  cases h with
  | none hws => exact .none hws
  | some hws hfs => exact .some hws (hfs.mono hPQ)

theorem CombinedText.mono (hPQ : ∀ f cs, P f cs → Q f cs) (h : CombinedText P f cs) :
    CombinedText Q f cs := by
  cases h with
  | all hws hfs => exact .all hws (hfs.mono hPQ)
  | any hws hfs => exact .any hws (hfs.mono hPQ)
  | not hws hf => exact .not hws (hPQ _ _ hf)

theorem Within.mono (hd : d ≤ d') (f : Filter) (cs : List Char) (h : Within d f cs) :
    Within d' f cs := ⟨h.1, h.2.trans hd⟩

theorem head_append_cons (used : List Char) (c : Char) (rest rest' : List Char) :
    (used ++ c :: rest').head? = (used ++ c :: rest).head? := by
  cases used <;> rfl

theorem StuckValue.next (h : StuckValue fault used (c :: rest)) (rest' : List Char) :
    StuckValue fault used (c :: rest') := by
  obtain ⟨hv, he⟩ := h
  cases he
  exact .intro hv (.opens rest')

theorem StuckItem.next (h : StuckItem fault used (c :: rest)) (rest' : List Char) :
    StuckItem fault used (c :: rest') := by
  cases h with
  | name hc => exact .name hc rest'
  | operator hk hrest => exact .operator hk hrest
  | sign hk hop hrest => exact .sign hk hop hrest
  | value hk op hv => exact .value hk op (hv.next rest')

theorem StuckBody.next (hPQ : ∀ f cs, P f cs → Q f cs)
    (hNM : ∀ used, N fault used (c :: rest) → M fault used (c :: rest'))
    (h : StuckBody P N fault used (c :: rest)) : StuckBody Q M fault used (c :: rest') := by
  cases h with
  | noOperand hsign hws hrest => exact .noOperand hsign hws hrest
  | negated hws hstart h =>
    refine .negated hws ?_ (hNM _ h)
    rwa [head_append_cons _ c rest rest']
  | operand hsign hds hopen h =>
    refine .operand hsign (hds.mono hPQ) ?_ (hNM _ h)
    rwa [head_append_cons _ c rest rest']
  | item hstart h =>
    refine .item ?_ (h.next rest')
    rwa [StartsName, head_append_cons _ c rest rest']

/-- A reader that goes deeper stops in the same place with the same fault, unless the fault is the
depth, and all that matters of what comes next is its first character. -/
theorem Stuck.next (hfault : fault ≠ .tooDeep) (hd : d ≤ d')
    (h : Stuck d fault used (c :: rest)) (rest' : List Char) :
    Stuck d' fault used (c :: rest') := by
  induction d generalizing d' used with
  | zero =>
    cases h with
    | opening hrest =>
      cases d' with
      | zero => exact StuckDeep.opening hrest
      | succ d' => exact StuckFilter.opening hrest
    | tooDeep => exact absurd rfl hfault
  | succ d ih =>
    obtain ⟨d', rfl⟩ : ∃ n, d' = n + 1 := ⟨d' - 1, by omega⟩
    have hd := Nat.le_of_succ_le_succ hd
    cases h with
    | opening hrest => exact StuckFilter.opening hrest
    | body hws h => exact StuckFilter.body hws (h.next (Within.mono hd) fun _ hN => ih hd hN)
    | closing hws hf hws' hrest hopen =>
      exact StuckFilter.closing hws (hf.mono (Within.mono hd)) hws' hrest hopen

end Next

/-! ## Completions -/

section Completions

variable {P : Filter → List Char → Prop} {N : Fault → List Char → List Char → Prop}

theorem PartText.append {v v' cs' : List Char} (h : PartText v cs) (h' : PartText v' cs') :
    PartText (v ++ v') (cs ++ cs') := by
  induction h with
  | nil => exact h'
  | plain hc _ ih => exact .plain hc ih
  | escaped c _ ih => exact .escaped c ih

theorem ValueText.append_part {v : List Char} (h : ValueText parts text) (hv : PartText v cs) :
    ∃ parts', ValueText parts' (text ++ cs) := by
  induction h with
  | last h => exact ⟨_, .last (h.append hv)⟩
  | wildcard h _ ih =>
    obtain ⟨parts', ih⟩ := ih
    exact ⟨_, by simpa using .wildcard h ih⟩

theorem StuckValue.completed (h : StuckValue fault used rest) :
    ∃ parts tail, ValueText parts (used ++ tail) := by
  obtain ⟨hv, he⟩ := h
  cases he with
  | unterminated => exact ⟨_, [], by simpa using hv⟩
  | opens => exact ⟨_, [], by simpa using hv⟩
  | dangling =>
    obtain ⟨parts', hv'⟩ := hv.append_part (.escaped '\\' .nil)
    exact ⟨parts', ['\\'], by simpa using hv'⟩

theorem exists_itemText_of_value (hk : NameText key text) (op : Operator)
    (hv : ValueText parts cs) : ∃ f, ItemText f (text ++ (op.text.toList ++ cs)) :=
  ⟨_, .intro hk hv ((compares_iff (by simpa using hv.ne_nil)).2 rfl)⟩

theorem isGap_nil : IsGap [] := nofun

/-- There is a filter, and its text can follow wherever one may start. -/
theorem exists_simple : ∃ f, ItemText f ['a', '='] := by
  have hplain : ∀ c ∈ ['a'], endsName c = false := fun c hc => by
    rw [List.mem_singleton.1 hc]
    rfl
  have hk : NameText "a" ['a'] := ⟨by simp, by rintro c ⟨⟩; decide, hplain, by decide⟩
  have hv : ValueText [[]] [] := .last .nil
  have h := exists_itemText_of_value hk .equal hv
  exact h

theorem exists_derives : ∃ f text, Derives f text := by
  obtain ⟨f, hf⟩ := exists_simple
  exact ⟨f, _, .item isGap_nil hf⟩

theorem StuckItem.completed (h : StuckItem fault used rest) :
    ∃ f tail, ItemText f (used ++ tail) := by
  cases h with
  | name =>
    obtain ⟨f, hf⟩ := exists_simple
    exact ⟨f, _, hf⟩
  | operator hk =>
    obtain ⟨f, hf⟩ := exists_itemText_of_value hk .equal (.last .nil)
    exact ⟨f, _, hf⟩
  | @sign key text _ c op hk hop =>
    obtain ⟨f, hf⟩ := exists_itemText_of_value hk op (.last .nil)
    have htext : op.text.toList = [c, '='] := by
      rw [Operator.ofSign?.eq_def] at hop
      split at hop <;> cases hop <;> rfl
    exact ⟨f, ['='], by simpa [htext] using hf⟩
  | value hk op hv =>
    obtain ⟨parts, tail, hv⟩ := hv.completed
    obtain ⟨f, hf⟩ := exists_itemText_of_value hk op hv
    exact ⟨f, tail, by simpa using hf⟩

theorem ListText.snoc (hfs : ListText P fs text) (hf : P f cs) :
    ListText P (fs ++ [f]) (text ++ cs) := by
  induction hfs with
  | @one g text ws hg hws =>
    have hlast : ListText P [f] (cs ++ []) := .one hf (by simp [IsGap])
    simpa using ListText.more hg hws hlast
  | more hg hws _ ih => simpa using ListText.more hg hws ih

theorem Operands.snoc (hds : Operands P text) (hf : P f cs) :
    ∃ ws fs cs', IsGap ws ∧ text ++ cs = ws ++ cs' ∧ ListText P fs cs' := by
  cases hds with
  | @none ws hws =>
    have hlast : ListText P [f] (cs ++ []) := .one hf (by simp [IsGap])
    exact ⟨text, _, _, hws, rfl, by simpa using hlast⟩
  | @some fs ws cs' hws hfs => exact ⟨ws, _, _, hws, List.append_assoc .., hfs.snoc hf⟩

theorem Operands.combined {sign : Char} (hsign : sign = '&' ∨ sign = '|')
    (hds : Operands P text) (hf : P f cs) : ∃ g, CombinedText P g (sign :: (text ++ cs)) := by
  obtain ⟨ws, fs, cs', hws, hcs, hfs⟩ := hds.snoc hf
  rw [hcs]
  rcases hsign with rfl | rfl
  · exact ⟨_, .all hws hfs⟩
  · exact ⟨_, .any hws hfs⟩

theorem StuckBody.completed (hP : ∀ f cs, P f cs → Derives f cs)
    (hN : ∀ used, N fault used rest → ∃ f tail, Derives f (used ++ tail))
    (h : StuckBody P N fault used rest) :
    ∃ f tail, CombinedText Derives f (used ++ tail) ∨ ItemText f (used ++ tail) := by
  cases h with
  | missing =>
    obtain ⟨f, hf⟩ := exists_simple
    exact ⟨f, _, .inr hf⟩
  | noOperand hsign hws =>
    obtain ⟨f, text, hf⟩ := exists_derives
    obtain ⟨g, hg⟩ := (Operands.none hws).combined hsign hf
    exact ⟨g, text, .inl hg⟩
  | negated hws _ h =>
    obtain ⟨f, tail, hf⟩ := hN _ h
    exact ⟨.not f, tail, .inl (by simpa using .not hws hf)⟩
  | operand hsign hds _ h =>
    obtain ⟨f, tail, hf⟩ := hN _ h
    obtain ⟨g, hg⟩ := (hds.mono hP).combined hsign hf
    exact ⟨g, tail, .inl (by simpa using hg)⟩
  | item _ h =>
    obtain ⟨f, tail, hf⟩ := h.completed
    exact ⟨f, tail, .inr hf⟩

/-- What was read before a fault other than the depth can be completed to a filter. -/
theorem Stuck.completed (hfault : fault ≠ .tooDeep) (h : Stuck d fault used rest) :
    ∃ f tail, Derives f (used ++ tail) := by
  induction d generalizing used with
  | zero =>
    cases h with
    | opening => exact exists_derives
    | tooDeep => exact absurd rfl hfault
  | succ d ih =>
    cases h with
    | opening => exact exists_derives
    | body hws h =>
      obtain ⟨f, tail, hf | hf⟩ := h.completed (fun _ _ hf => hf.1) fun _ => ih
      · have := Derives.combined hws hf isGap_nil
        exact ⟨f, tail ++ [')'], by simpa using this⟩
      · have := Derives.item hws hf
        exact ⟨f, tail ++ [')'], by simpa using this⟩
    | closing hws hf hws' =>
      exact ⟨_, [')'], by simpa using .combined hws (hf.mono fun _ _ hf => hf.1) hws'⟩

end Completions

/-! ## Depth -/

/-- A text that ends behind the parenthesis of a filter with `d` filters around it, all of them
still open.  What stands before it in these filters is complete, and nowhere deeper. -/
inductive Enters : Nat → List Char → Prop
  | innermost : Enters 0 ['(']
  | negated {d : Nat} {ws ws' cs : List Char} (hws : IsGap ws) (hws' : IsGap ws')
      (h : Enters d cs) :
    Enters (d + 1) ('(' :: (ws ++ ('!' :: (ws' ++ cs))))
  | operand {d : Nat} {sign : Char} {ws ds cs : List Char} (hws : IsGap ws)
      (hsign : sign = '&' ∨ sign = '|') (hds : Operands (Within d) ds) (h : Enters d cs) :
    Enters (d + 1) ('(' :: (ws ++ (sign :: (ds ++ cs))))

theorem Enters.head (h : Enters d cs) (rest : List Char) : (cs ++ rest).head? = some '(' := by
  cases h <;> rfl

theorem StuckItem.ne_tooDeep (h : StuckItem fault used rest) : fault ≠ .tooDeep := by
  rintro rfl
  obtain _ | _ | _ | ⟨-, -, -, he⟩ := h
  cases he

theorem stuck_tooDeep_iff : Stuck d .tooDeep used rest ↔ Enters d used := by
  constructor
  · intro h
    induction d generalizing used with
    | zero =>
      cases h
      exact .innermost
    | succ d ih =>
      obtain _ | ⟨hws, h⟩ := h
      cases h with
      | negated hws' _ h => exact .negated hws hws' (ih h)
      | operand hsign hds _ h => exact .operand hws hsign hds (ih h)
      | item _ h => exact absurd rfl h.ne_tooDeep
  · intro h
    induction h with
    | innermost => exact StuckDeep.tooDeep rest
    | negated hws hws' h ih =>
      refine StuckFilter.body hws (.negated hws' (fun c hc => ?_) ih)
      rw [h.head, Option.mem_some_iff] at hc
      exact hc ▸ by decide
    | operand hws hsign hds h ih =>
      exact StuckFilter.body hws (.operand hsign hds (h.head rest) ih)

/-! ## Positions -/

/-- The beginning of a text that stands for a filter. -/
def Begins (cs : List Char) : Prop := ∃ f rest, IsText f (cs ++ rest)

/-- A text that ends behind the parenthesis that opens the first filter beyond the depth that a
reader goes. -/
def EndsTooDeep (cs : List Char) : Prop := ∃ ws cs', IsGap ws ∧ Enters maxDepth cs' ∧ cs = ws ++ cs'

theorem begins_of_stuck (hws : IsGap ws) (hfault : fault ≠ .tooDeep)
    (h : Stuck d fault used rest) : Begins (ws ++ used) := by
  obtain ⟨f, tail, hf⟩ := h.completed hfault
  have := IsText.intro hws hf isGap_nil
  exact ⟨f, tail, by simpa using this⟩

theorem not_begins_of_stuck (hws : IsGap ws) (hfault : fault ≠ .tooDeep)
    (htrim : trimStart (used ++ c :: rest) = used ++ c :: rest)
    (h : Stuck d fault used (c :: rest)) : ¬Begins (ws ++ used ++ [c]) := by
  rintro ⟨f, tail, hf⟩
  obtain ⟨_, -, hread⟩ := hf.read (Nat.le_max_left f.height d)
  have hstuck := h.next hfault (Nat.le_max_right f.height d) tail
  have htext : trimStart (ws ++ used ++ [c] ++ tail) = used ++ c :: tail := by
    rw [List.append_assoc, List.append_assoc, hws.trimStart]
    refine trimStart_eq_self fun a ha => ?_
    rw [List.singleton_append, head_append_cons used c rest tail, ← htrim] at ha
    exact head_trimStart ha
  rw [htext, (stops_readFilter _ _ _ _).2 ⟨used, rfl, hstuck⟩] at hread
  cases hread

/-- Behind a filter only white space may follow. -/
theorem not_begins_of_trailing {ws' : List Char} (hws : IsGap ws) (hf : Derives f text)
    (hc : isBlank c = false) : ¬Begins (ws ++ (text ++ ws') ++ [c]) := by
  rintro ⟨g, tail, hg⟩
  obtain ⟨rest, hrest, hread⟩ := hg.read (Nat.le_max_left g.height f.height)
  have htext : trimStart (ws ++ (text ++ ws') ++ [c] ++ tail) = text ++ (ws' ++ c :: tail) := by
    rw [List.append_assoc, List.append_assoc, hws.trimStart]
    simp [opens_derives.trimStart hf]
  rw [htext, takes_derives (Nat.le_max_right g.height f.height) text hf] at hread
  cases hread
  exact absurd (hrest c (by simp)) (by simp [hc])

theorem EndsTooDeep.ofChars (h : EndsTooDeep cs) (rest : List Char) :
    ofChars (cs ++ rest) = .error (.tooDeep, rest) := by
  obtain ⟨ws, cs', hws, hcs', rfl⟩ := h
  have htrim : trimStart (ws ++ cs' ++ rest) = cs' ++ rest := by
    rw [List.append_assoc, hws.trimStart]
    refine trimStart_eq_self fun c hc => ?_
    rw [hcs'.head, Option.mem_some_iff] at hc
    exact hc ▸ by decide
  refine bind_eq_error.2 (.inl ?_)
  rw [htrim]
  exact (stops_readFilter _ _ _ _).2 ⟨cs', rfl, stuck_tooDeep_iff.2 hcs'⟩

theorem exists_of_ofChars (h : ofChars cs = .error (fault, rest)) :
    ∃ used, cs = used ++ rest ∧
      (fault ≠ .tooDeep → Begins used ∧ ∀ c ∈ rest.head?, ¬Begins (used ++ [c])) ∧
      (fault = .tooDeep → EndsTooDeep used) := by
  obtain ⟨ws, hws, hcs⟩ := exists_gap cs
  rcases bind_eq_error.1 h with h | ⟨⟨f, tail⟩, hf, h⟩
  · obtain ⟨used, htrim, hstuck⟩ := (stops_readFilter _ _ _ _).1 h
    refine ⟨ws ++ used, by rw [hcs, htrim]; simp, fun hfault => ⟨?_, ?_⟩, ?_⟩
    · exact begins_of_stuck hws hfault hstuck
    · intro c hc
      obtain ⟨rest, rfl⟩ := List.head?_eq_some_iff.1 hc
      refine not_begins_of_stuck hws hfault (trimStart_eq_self fun a ha => ?_) hstuck
      exact head_trimStart (htrim ▸ ha)
    · rintro rfl
      exact ⟨ws, used, hws, stuck_tooDeep_iff.1 hstuck, rfl⟩
  · dsimp only at h
    split at h
    · cases h
    cases h
    obtain ⟨text, htext, hf⟩ := finds_derives _ _ _ _ hf
    obtain ⟨ws', hws', htail⟩ := exists_gap tail
    rw [htext, htail] at hcs
    refine ⟨ws ++ (text ++ ws'), by rw [hcs]; simp, fun _ => ⟨?_, fun c hc => ?_⟩, nofun⟩
    · exact ⟨f, [], by simpa using .intro hws hf hws'⟩
    · exact not_begins_of_trailing hws hf (head_trimStart hc)

theorem reason_eq_tooDeep : fault.reason = Fault.tooDeep.reason ↔ fault = .tooDeep := by
  refine ⟨fun h => ?_, fun h => h ▸ rfl⟩
  cases fault with
  | expected c =>
    have hstart : "expected '".toList.head? = some 'e' := by decide +kernel
    have hexpected : (Fault.expected c).reason.toList.head? = some 'e' := by
      show ("expected '" ++ String.singleton c ++ "'").toList.head? = some 'e'
      rw [String.toList_append, String.toList_append, List.append_assoc, List.head?_append,
        hstart, Option.some_or]
    have hdeep : Fault.tooDeep.reason.toList.head? = some 'f' := by decide +kernel
    rw [h, hdeep] at hexpected
    exact absurd hexpected (by decide)
  | tooDeep => rfl
  | _ => exact absurd h (by decide +kernel)

/-- A text that is no filter is refused at the first place that no filter agrees with, which is
its end if it only ends too early.  A text that is refused for its depth is refused behind the
only parenthesis that opens the first filter that stands too deep. -/
theorem position_of_parse_error {s : String} {e : RouterError} (h : parse s = .error e) :
    ∃ p reason, e = .invalidFilter p reason ∧ p ≤ s.length ∧
      (reason ≠ "filter nested deeper than 64 levels" →
        Begins (s.toList.take p) ∧ (p < s.length → ¬Begins (s.toList.take (p + 1)))) ∧
      (reason = "filter nested deeper than 64 levels" →
        ∀ q ≤ s.length, EndsTooDeep (s.toList.take q) ↔ q = p) := by
  have hdeep : "filter nested deeper than 64 levels" = Fault.tooDeep.reason := by decide +kernel
  obtain ⟨⟨fault, rest⟩, hstop, rfl⟩ : ∃ stop, ofChars s.toList = .error stop ∧
      e = .invalidFilter (s.length - stop.2.length) stop.1.reason := by
    unfold parse at h
    cases hs : ofChars s.toList with
    | ok f => simp [hs, Except.mapError] at h
    | error stop =>
      rw [hs] at h
      cases h
      exact ⟨stop, rfl, rfl⟩
  obtain ⟨used, hs, hfault, htooDeep⟩ := exists_of_ofChars hstop
  have hlen : s.length = used.length + rest.length := by
    rw [← String.length_toList, hs, List.length_append]
  have hp : s.length - rest.length = used.length := by omega
  refine ⟨_, _, rfl, by omega, ?_, ?_⟩ <;> dsimp only <;> rw [hp, hs, hdeep]
  · rw [ne_eq, reason_eq_tooDeep]
    intro hne
    obtain ⟨hbegins, hnext⟩ := hfault hne
    refine ⟨by simpa using hbegins, fun hlt => ?_⟩
    obtain ⟨c, rest, rfl⟩ := List.exists_cons_of_length_pos (l := rest) (by omega)
    simpa [List.take_length_add_append] using hnext c rfl
  · rw [reason_eq_tooDeep]
    rintro rfl q hq
    refine ⟨fun hends => ?_, ?_⟩
    · have hread := hends.ofChars ((used ++ rest).drop q)
      rw [List.take_append_drop, ← hs, hstop] at hread
      have hrest := congrArg List.length (Prod.mk.inj (Except.error.inj hread)).2
      simp only [List.length_drop, String.length_toList] at hrest
      omega
    · rintro rfl
      simpa using htooDeep rfl

/-- A tilde begins an operator, and a digit behind it cannot go on with one; and where everything
is negated, the sixty-fifth parenthesis is the one that opens too deep. -/
theorem position_of_parse_error_operator :
    (parse "(&(a=1)(b ~7))" = .error (.invalidFilter 11 "expected '='") ∧
      Begins "(&(a=1)(b ~".toList ∧ ¬Begins "(&(a=1)(b ~7".toList) ∧
    ∃ e, parse (String.ofList (List.replicate 65 ['(', '!']).flatten) = .error e ∧
      ∀ q ≤ 130, EndsTooDeep ((List.replicate 65 ['(', '!']).flatten.take q) ↔ q = 129 := by
  constructor
  · have h : parse "(&(a=1)(b ~7))" = .error (.invalidFilter 11 "expected '='") := by
      decide +kernel
    obtain ⟨p, reason, he, -, hfault, -⟩ := position_of_parse_error h
    cases he
    obtain ⟨hbegins, hnext⟩ := hfault (by decide)
    exact ⟨h, hbegins, hnext (by decide)⟩
  · have h : parse (String.ofList (List.replicate 65 ['(', '!']).flatten) =
        .error (.invalidFilter 129 "filter nested deeper than 64 levels") := by
      decide +kernel
    obtain ⟨p, reason, he, -, -, hdeep⟩ := position_of_parse_error h
    cases he
    have hlen : (String.ofList (List.replicate 65 ['(', '!']).flatten).length = 130 := by
      decide +kernel
    have hends := hdeep rfl
    rw [hlen, String.toList_ofList] at hends
    exact ⟨_, h, hends⟩

end MessageRouter.Filter
