import Mathlib.Data.List.TakeDrop
import Mathlib.Data.List.TakeWhile
import MessageRouter.Filter.Parser

/-!
# Filters in writing

The reader gives back exactly those filters that are in canonical form, and it reads nothing else:
`Filter.parse_text_iff`.  The way there is one lemma for each step of the reader, in both
directions: what it makes of a text that was written, and what can be said of what it has read.
-/

namespace MessageRouter

/-! ## White space -/

namespace Text

variable {c : Char} {cs : List Char}

theorem trimStart_eq_self (h : ∀ c ∈ cs.head?, isBlank c = false) : trimStart cs = cs := by
  cases cs with
  | nil => rfl
  | cons c cs => exact trimStart_of_not_blank (h c rfl)

theorem trimEnd_eq_self (h : ∀ c ∈ cs.getLast?, isBlank c = false) : trimEnd cs = cs := by
  have : trimStart cs.reverse = cs.reverse :=
    trimStart_eq_self fun c hc => h c (by rwa [List.head?_reverse] at hc)
  rw [trimEnd, ← trimStart, this, List.reverse_reverse]

/-- What has been trimmed does not start with white space. -/
theorem head_trimStart (h : c ∈ (trimStart cs).head?) : isBlank c = false := by
  have hne : cs.dropWhile isBlank ≠ [] := fun hn => by
    rw [trimStart, hn] at h
    cases h
  rw [trimStart, List.head?_eq_some_head hne, Option.mem_some_iff] at h
  exact h ▸ List.head_dropWhile_not isBlank hne

theorem getLast_trimEnd (h : c ∈ (trimEnd cs).getLast?) : isBlank c = false := by
  rw [trimEnd, List.getLast?_reverse] at h
  exact head_trimStart h

theorem trimEnd_prefix (cs : List Char) : trimEnd cs <+: cs := by
  have := List.reverse_prefix.2 (List.dropWhile_suffix (l := cs.reverse) isBlank)
  rwa [List.reverse_reverse] at this

end Text

namespace Filter

/-! ## Canonical filters -/

/-- A text that can stand as the name of a property in front of an operator. -/
structure IsName (key : String) : Prop where
  ne_nil : key.toList ≠ []
  head : ∀ c ∈ key.toList.head?, Text.isBlank c = false ∧ c ≠ '&' ∧ c ≠ '|' ∧ c ≠ '!'
  last : ∀ c ∈ key.toList.getLast?, Text.isBlank c = false
  plain : ∀ c ∈ key.toList, endsName c = false

mutual

/-- How many filters stand inside each other, the outermost included. -/
def height : Filter → Nat
  | .all fs => heightList fs + 1
  | .any fs => heightList fs + 1
  | .not f => height f + 1
  | _ => 1

def heightList : List Filter → Nat
  | [] => 0
  | f :: fs => max (height f) (heightList fs)

end

mutual

/-- Every name can be read, every list has a filter, and every wildcard is needed. -/
def WellFormed : Filter → Prop
  | .all fs => fs ≠ [] ∧ WellFormedList fs
  | .any fs => fs ≠ [] ∧ WellFormedList fs
  | .not f => WellFormed f
  | .equal k _ => IsName k
  | .approx k _ => IsName k
  | .atLeast k _ => IsName k
  | .atMost k _ => IsName k
  | .present k => IsName k
  | .substring k ps => IsName k ∧ 2 ≤ ps.length ∧ ps ≠ ["", ""]

def WellFormedList : List Filter → Prop
  | [] => True
  | f :: fs => WellFormed f ∧ WellFormedList fs

end

/-- A filter as the reader returns it. -/
structure Canonical (f : Filter) : Prop where
  wellFormed : f.WellFormed
  height_le : f.height ≤ maxDepth

theorem wellFormedList_iff {fs : List Filter} : WellFormedList fs ↔ ∀ f ∈ fs, f.WellFormed := by
  induction fs with
  | nil => simp [WellFormedList]
  | cons f fs ih => simp [WellFormedList, ih]

theorem heightList_le_iff {fs : List Filter} {d : Nat} :
    heightList fs ≤ d ↔ ∀ f ∈ fs, f.height ≤ d := by
  induction fs with
  | nil => simp [heightList]
  | cons f fs ih => rw [heightList, Nat.max_le, ih, List.forall_mem_cons]

/-! ## Names and operators -/

variable {key : String} {c : Char} {cs rest : List Char} {d : Nat}

theorem readName_append (hk : IsName key) (hc : endsName c = true) (rest : List Char) :
    readName (key.toList ++ c :: rest) = .ok (key, c :: rest) := by
  have hplain : ∀ a ∈ key.toList, (!endsName a) = true := fun a ha => by simp [hk.plain a ha]
  have htrim : Text.trim key.toList = key.toList := by
    rw [Text.trim, Text.trimStart_eq_self fun a ha => (hk.head a ha).1,
      Text.trimEnd_eq_self hk.last]
  simp [readName, List.span_eq_takeWhile_dropWhile, List.takeWhile_append_of_pos hplain,
    List.dropWhile_append_of_pos hplain, hc, htrim, hk.ne_nil]

/-- The characters that a filter can start with behind its parenthesis, if it starts with a name. -/
def StartsName (cs : List Char) : Prop :=
  ∀ c ∈ cs.head?, Text.isBlank c = false ∧ c ≠ '&' ∧ c ≠ '|' ∧ c ≠ '!'

theorem StartsName.of_prefix {name : List Char} (h : StartsName cs) (hp : name <+: cs) :
    StartsName name := fun c hc =>
  h c (List.singleton_prefix_iff_head?_eq_some.1
    ((List.singleton_prefix_iff_head?_eq_some.2 hc).trans hp))

/-- A name that is read where no white space stands is what is there up to the operator, without
the white space at its end. -/
theorem readName_eq_ok (hcs : StartsName cs) (h : readName cs = .ok (key, rest)) :
    Text.trimEnd (cs.takeWhile (!endsName ·)) ≠ [] ∧
      String.ofList (Text.trimEnd (cs.takeWhile (!endsName ·))) = key ∧
      cs.dropWhile (!endsName ·) = rest := by
  have hstart : Text.trimStart (cs.takeWhile (!endsName ·)) = cs.takeWhile (!endsName ·) :=
    Text.trimStart_eq_self fun c hc => (hcs.of_prefix (List.takeWhile_prefix _) c hc).1
  simp only [readName, List.span_eq_takeWhile_dropWhile, Text.trim, hstart] at h
  split at h
  · cases h
  · rename_i hne
    cases h
    exact ⟨hne, rfl, rfl⟩

/-- A name that was read where no white space stood is one that can be written. -/
theorem isName_of_readName (hcs : StartsName cs) (h : readName cs = .ok (key, rest)) :
    IsName key := by
  obtain ⟨hne, rfl, -⟩ := readName_eq_ok hcs h
  have hspan : cs.takeWhile (!endsName ·) <+: cs := List.takeWhile_prefix _
  have hpre := Text.trimEnd_prefix (cs.takeWhile (!endsName ·))
  refine ⟨?_, ?_, ?_, ?_⟩ <;> rw [String.toList_ofList]
  · exact hne
  · exact hcs.of_prefix (hpre.trans hspan)
  · exact fun c hc => Text.getLast_trimEnd hc
  · intro c hc
    simpa using List.mem_takeWhile_imp (hpre.subset hc)

/-- An operator in writing. -/
def Operator.text : Operator → String
  | .equal => "="
  | .approx => "~="
  | .atLeast => ">="
  | .atMost => "<="

theorem readOperator_append (op : Operator) :
    readOperator (op.text.toList ++ rest) = .ok (op, rest) := by
  cases op <;> rfl

theorem endsName_operator (op : Operator) :
    ∃ c cs, op.text.toList = c :: cs ∧ endsName c = true := by
  cases op <;> exact ⟨_, _, rfl, rfl⟩

/-! ## Values -/

variable {parts : List (List Char)}

theorem readParts_escape {p : List Char} (v : List Char)
    (h : readParts cs = .ok (p :: parts, rest)) :
    readParts (escapeChars v ++ cs) = .ok ((v ++ p) :: parts, rest) := by
  induction v with
  | nil => exact h
  | cons c v ih =>
    by_cases hc : isSpecial c
    · simp [escapeChars, hc, readParts, ih, consPart]
    · simp only [isSpecial, Bool.or_eq_true, beq_iff_eq, not_or] at hc
      simp [escapeChars, isSpecial, hc, readParts, ih, consPart]

theorem readParts_star (h : readParts cs = .ok (parts, rest)) :
    readParts ('*' :: cs) = .ok ([] :: parts, rest) := by
  simp [readParts, h]

/-- The parts of a value with a wildcard between each two of them are read back. -/
theorem readParts_intercalate (hne : parts ≠ []) :
    readParts (['*'].intercalate (parts.map escapeChars) ++ ')' :: rest) =
    .ok (parts, ')' :: rest) := by
  induction parts with
  | nil => exact absurd rfl hne
  | cons p ps ih =>
    cases ps with
    | nil =>
      have h : readParts (')' :: rest) = .ok ([[]], ')' :: rest) := by simp [readParts]
      simpa using readParts_escape p h
    | cons q ps =>
      have h := readParts_star (ih (List.cons_ne_nil _ _))
      simpa [List.intercalate_cons_cons] using readParts_escape p h

/-- A computation that gives a result has gone through every step. -/
theorem bind_eq_ok {ε α β : Type} {x : Except ε α} {f : α → Except ε β} {b : β} :
    x >>= f = .ok b ↔ ∃ a, x = .ok a ∧ f a = .ok b := by
  cases x <;> simp [bind, Except.bind]

/-- A value has at least one part. -/
theorem readParts_ne_nil (h : readParts cs = .ok (parts, rest)) : parts ≠ [] := by
  have hcons : ∀ c ps, consPart c ps ≠ [] := fun c ps => by cases ps <;> simp [consPart]
  rw [readParts.eq_def] at h
  split at h
  · cases h
  · obtain ⟨⟨ps, _⟩, -, h⟩ := bind_eq_ok.1 h
    cases h
    exact hcons _ ps
  · split at h
    · cases h
      simp
    · split at h
      · cases h
      · split at h
        · cases h
        · obtain ⟨⟨ps, _⟩, -, h⟩ := bind_eq_ok.1 h
          cases h
          split
          · simp
          · exact hcons _ ps

/-! ## Comparisons -/

/-- A comparison that was written from its parts is read back from them. -/
theorem readItem_append (op : Operator) (hk : IsName key) (hne : parts ≠ []) (rest : List Char) :
    readItem (key.toList ++ (op.text.toList ++
      (['*'].intercalate (parts.map escapeChars) ++ ')' :: rest))) =
    .ok (ofParts key op (parts.map String.ofList), ')' :: rest) := by
  obtain ⟨c, cs, hop, hc⟩ := endsName_operator op
  have hname := readName_append hk hc (cs ++ (['*'].intercalate (parts.map escapeChars) ++
    ')' :: rest))
  rw [← List.cons_append, ← hop] at hname
  exact bind_eq_ok.2 ⟨_, hname, bind_eq_ok.2 ⟨_, readOperator_append op,
    bind_eq_ok.2 ⟨_, readParts_intercalate hne, rfl⟩⟩⟩

/-- A comparison has no wildcard that it can do without, and it counts as one level. -/
theorem wellFormed_ofParts {op : Operator} {ps : List String} (hk : IsName key) (hne : ps ≠ []) :
    (ofParts key op ps).WellFormed ∧ (ofParts key op ps).height = 1 := by
  fun_cases ofParts key op ps with
  | case1 | case2 | case3 | case4 | case5 => exact ⟨hk, rfl⟩
  | case6 ps hone htwo =>
    refine ⟨⟨hk, ?_, htwo⟩, rfl⟩
    match ps, hne, hone with
    | [p], _, hone => exact absurd rfl (hone p)
    | _ :: _ :: _, _, _ => simp

theorem ofParts_equal {ps : List String} (htwo : 2 ≤ ps.length) (hne : ps ≠ ["", ""]) :
    ofParts key .equal ps = .substring key ps := by
  match ps, htwo, hne with
  | p :: q :: ps, _, hne =>
    rw [ofParts]
    · exact fun _ h => by simp at h
    · exact hne

theorem wellFormed_of_readItem {f : Filter} (hcs : StartsName cs)
    (h : readItem cs = .ok (f, rest)) :
    f.WellFormed ∧ f.height = 1 := by
  obtain ⟨⟨key, _⟩, hk, h⟩ := bind_eq_ok.1 h
  obtain ⟨⟨op, _⟩, -, h⟩ := bind_eq_ok.1 h
  obtain ⟨⟨parts, _⟩, hp, h⟩ := bind_eq_ok.1 h
  cases h
  exact wellFormed_ofParts (isName_of_readName hcs hk) fun hn =>
    readParts_ne_nil hp (List.map_eq_nil_iff.1 hn)

/-! ## Combinations -/

variable {f : Filter} {fs : List Filter} {nested : Reader Filter}

/-- A filter in writing starts with a parenthesis. -/
theorem text_eq_cons (f : Filter) : ∃ cs, f.text.toList = '(' :: cs := by
  cases f <;> simp [text, writeItem]

/-- The reader takes back every filter of a list. -/
def ReadsBack (nested : Reader Filter) (fs : List Filter) : Prop :=
  ∀ f ∈ fs, ∀ rest, nested (f.text.toList ++ rest) = .ok (f, rest)

theorem trimStart_textList :
    Text.trimStart ((textList fs).toList ++ ')' :: rest) = (textList fs).toList ++ ')' :: rest := by
  cases fs with
  | nil => exact Text.trimStart_of_not_blank (by decide)
  | cons f fs =>
    obtain ⟨cs, hcs⟩ := text_eq_cons f
    simpa [textList, hcs] using Text.trimStart_of_not_blank (by decide)

theorem length_le_textList (fs : List Filter) : fs.length ≤ (textList fs).toList.length := by
  induction fs with
  | nil => simp
  | cons f fs ih =>
    obtain ⟨cs, hcs⟩ := text_eq_cons f
    simp only [textList, String.toList_append, hcs, List.length_append, List.length_cons]
    omega

theorem readMany_textList {count : Nat} (h : ReadsBack nested fs) (hcount : fs.length ≤ count) :
    readMany nested count ((textList fs).toList ++ ')' :: rest) = .ok (fs, ')' :: rest) := by
  induction fs generalizing count with
  | nil => cases count <;> simp [textList, readMany]
  | cons f fs ih =>
    obtain ⟨count, rfl⟩ : ∃ n, count = n + 1 := ⟨count - 1, by simp at hcount; omega⟩
    obtain ⟨cs, hcs⟩ := text_eq_cons f
    have hf := h f List.mem_cons_self ((textList fs).toList ++ ')' :: rest)
    have hfs := ih (fun g hg => h g (List.mem_cons_of_mem _ hg)) (by simpa using hcount)
    rw [textList, String.toList_append, List.append_assoc]
    rw [hcs] at hf ⊢
    refine bind_eq_ok.2 ⟨_, hf, bind_eq_ok.2 ⟨(fs, ')' :: rest), ?_, rfl⟩⟩
    rw [trimStart_textList]
    exact hfs

theorem readList_textList (h : ReadsBack nested fs) (hne : fs ≠ []) (rest : List Char) :
    readList nested ((textList fs).toList ++ ')' :: rest) = .ok (fs, ')' :: rest) := by
  refine bind_eq_ok.2 ⟨(fs, ')' :: rest), ?_, by simp [hne]⟩
  rw [trimStart_textList]
  refine readMany_textList h ?_
  have := length_le_textList fs
  rw [List.length_append]
  omega

/-- A list that was read has a filter, and each of its filters was read. -/
theorem readMany_mem {count : Nat} (h : readMany nested count cs = .ok (fs, rest)) :
    ∀ f ∈ fs, ∃ cs rest, nested cs = .ok (f, rest) := by
  induction count generalizing cs fs with
  | zero =>
    cases h
    simp
  | succ count ih =>
    rw [readMany.eq_def] at h
    dsimp only at h
    split at h
    · obtain ⟨⟨g, _⟩, hg, h⟩ := bind_eq_ok.1 h
      obtain ⟨⟨gs, _⟩, hgs, h⟩ := bind_eq_ok.1 h
      cases h
      intro f hf
      rcases List.mem_cons.1 hf with rfl | hf
      · exact ⟨_, _, hg⟩
      · exact ih hgs f hf
    · cases h
      simp

theorem readList_mem (h : readList nested cs = .ok (fs, rest)) :
    fs ≠ [] ∧ ∀ f ∈ fs, ∃ cs rest, nested cs = .ok (f, rest) := by
  obtain ⟨⟨gs, _⟩, hgs, h⟩ := bind_eq_ok.1 h
  dsimp only at h
  split at h
  · cases h
  next hne =>
    cases h
    exact ⟨by simpa using hne, readMany_mem hgs⟩

/-! ## Filters -/

theorem height_pos (f : Filter) : 0 < f.height := by
  cases f <;> simp [height]

/-- A filter whose inside is read back is read back. -/
theorem readFilter_of_readBody (body : List Char)
    (hb : Text.trimStart body = body)
    (h : readBody (readFilter d) body = .ok (f, ')' :: rest)) :
    readFilter (d + 1) ('(' :: body) = .ok (f, rest) := by
  refine bind_eq_ok.2 ⟨body, rfl, bind_eq_ok.2 ⟨_, by rwa [hb], bind_eq_ok.2 ⟨rest, ?_, rfl⟩⟩⟩
  rw [Text.trimStart_of_not_blank (by decide)]
  rfl

theorem readBody_of_startsName (hne : cs ≠ []) (h : StartsName cs) :
    readBody nested cs = readItem cs := by
  cases cs with
  | nil => exact absurd rfl hne
  | cons c cs =>
    obtain ⟨-, hand, hor, hnot⟩ := h c rfl
    simp [readBody, hand, hor, hnot]

theorem IsName.startsName (hk : IsName key) : StartsName (key.toList ++ cs) := by
  obtain ⟨a, as, has⟩ := List.exists_cons_of_ne_nil hk.ne_nil
  have := hk.head
  rwa [has] at this ⊢

theorem readFilter_writeItem (op : Operator) (ps : List String) (hk : IsName key) (hne : ps ≠ [])
    (rest : List Char) :
    readFilter (d + 1) ((writeItem key op.text ("*".intercalate (ps.map escape))).toList ++ rest) =
    .ok (ofParts key op ps, rest) := by
  have hparts : ps.map String.toList ≠ [] := by simpa using hne
  have hitem := readItem_append op hk hparts rest
  have htext : (writeItem key op.text ("*".intercalate (ps.map escape))).toList ++ rest =
      '(' :: (key.toList ++ (op.text.toList ++
        (['*'].intercalate ((ps.map String.toList).map escapeChars) ++ ')' :: rest))) := by
    simp [writeItem, String.toList_intercalate, escape, Function.comp_def]
  rw [htext]
  refine readFilter_of_readBody _ (Text.trimStart_eq_self fun c hc => (hk.startsName c hc).1) ?_
  rw [readBody_of_startsName (by simp [hk.ne_nil]) hk.startsName, hitem]
  simp [Function.comp_def]

/-- What was written of a well-formed filter is read back, if the reader goes deep enough. -/
theorem readFilter_text (hw : f.WellFormed) (hd : f.height ≤ d) (rest : List Char) :
    readFilter d (f.text.toList ++ rest) = .ok (f, rest) := by
  induction d generalizing f rest with
  | zero => exact absurd hd (Nat.not_le.2 f.height_pos)
  | succ d ih =>
    have hlist (fs : List Filter) (hfs : WellFormedList fs) (hd : heightList fs ≤ d) :
        ReadsBack (readFilter d) fs := fun f hf _ =>
      ih (wellFormedList_iff.1 hfs f hf) (heightList_le_iff.1 hd f hf) _
    cases f with
    | all fs =>
      have h := readList_textList (hlist fs hw.2 (Nat.le_of_succ_le_succ hd)) hw.1 rest
      have hb := readFilter_of_readBody ('&' :: ((textList fs).toList ++ ')' :: rest))
        (Text.trimStart_of_not_blank (by decide)) (bind_eq_ok.2 ⟨_, h, rfl⟩)
      simpa [text] using hb
    | any fs =>
      have h := readList_textList (hlist fs hw.2 (Nat.le_of_succ_le_succ hd)) hw.1 rest
      have hb := readFilter_of_readBody ('|' :: ((textList fs).toList ++ ')' :: rest))
        (Text.trimStart_of_not_blank (by decide)) (bind_eq_ok.2 ⟨_, h, rfl⟩)
      simpa [text] using hb
    | not f =>
      have h := ih (f := f) hw (Nat.le_of_succ_le_succ hd) (')' :: rest)
      obtain ⟨cs, hcs⟩ := text_eq_cons f
      have hb := readFilter_of_readBody ('!' :: (f.text.toList ++ ')' :: rest))
        (Text.trimStart_of_not_blank (by decide))
        (bind_eq_ok.2 ⟨_, by rwa [hcs, List.cons_append, Text.trimStart_of_not_blank (by decide),
          ← List.cons_append, ← hcs], rfl⟩)
      simpa [text] using hb
    | equal k v => exact readFilter_writeItem .equal [v] hw (by simp) rest
    | approx k v => exact readFilter_writeItem .approx [v] hw (by simp) rest
    | atLeast k v => exact readFilter_writeItem .atLeast [v] hw (by simp) rest
    | atMost k v => exact readFilter_writeItem .atMost [v] hw (by simp) rest
    | present k => exact readFilter_writeItem .equal ["", ""] hw (by simp) rest
    | substring k ps =>
      obtain ⟨hk, htwo, hne⟩ := hw
      have hne' : ps ≠ [] := List.ne_nil_of_length_pos (by omega)
      have h := readFilter_writeItem (d := d) .equal ps hk hne' rest
      rwa [ofParts_equal htwo hne] at h

/-- What the reader returns is well-formed and no deeper than the reader goes. -/
theorem wellFormed_of_readFilter (h : readFilter d cs = .ok (f, rest)) :
    f.WellFormed ∧ f.height ≤ d := by
  induction d generalizing f cs rest with
  | zero =>
    obtain ⟨_, -, h⟩ := bind_eq_ok.1 h
    cases h
  | succ d ih =>
    obtain ⟨body, -, h⟩ := bind_eq_ok.1 h
    obtain ⟨⟨g, _⟩, hg, h⟩ := bind_eq_ok.1 h
    obtain ⟨_, -, h⟩ := bind_eq_ok.1 h
    cases h
    have hlist {fs : List Filter} {cs rest : List Char}
        (h : readList (readFilter d) cs = .ok (fs, rest)) :
        (fs ≠ [] ∧ WellFormedList fs) ∧ heightList fs ≤ d := by
      obtain ⟨hne, hmem⟩ := readList_mem h
      refine ⟨⟨hne, wellFormedList_iff.2 fun g hg => ?_⟩, heightList_le_iff.2 fun g hg => ?_⟩
      · obtain ⟨_, _, hg⟩ := hmem g hg
        exact (ih hg).1
      · obtain ⟨_, _, hg⟩ := hmem g hg
        exact (ih hg).2
    rw [readBody.eq_def] at hg
    split at hg
    · obtain ⟨⟨fs, _⟩, hfs, hg⟩ := bind_eq_ok.1 hg
      cases hg
      exact ⟨(hlist hfs).1, Nat.succ_le_succ (hlist hfs).2⟩
    · obtain ⟨⟨fs, _⟩, hfs, hg⟩ := bind_eq_ok.1 hg
      cases hg
      exact ⟨(hlist hfs).1, Nat.succ_le_succ (hlist hfs).2⟩
    · obtain ⟨⟨g, _⟩, hf, hg⟩ := bind_eq_ok.1 hg
      cases hg
      exact ⟨(ih hf).1, Nat.succ_le_succ (ih hf).2⟩
    · cases hg
    next hand hor hnot _ =>
      have hstart : StartsName (Text.trimStart body) := by
        intro c hc
        refine ⟨Text.head_trimStart hc, ?_, ?_, ?_⟩ <;> rintro rfl
        all_goals
          obtain ⟨cs, hcs⟩ := List.head?_eq_some_iff.1 hc
        · exact hand cs hcs
        · exact hor cs hcs
        · exact hnot cs hcs
      obtain ⟨hw, hh⟩ := wellFormed_of_readItem hstart hg
      exact ⟨hw, by omega⟩

/-! ## Texts -/

theorem parse_eq_ok {s : String} : parse s = .ok f ↔ ofChars s.toList = .ok f := by
  rw [parse]
  cases ofChars s.toList <;> simp [Except.mapError]

/-- The reader gives back exactly the canonical filters, it returns no other filter, and so what
it has read it reads again from the written form. -/
theorem parse_text_iff :
    (∀ f : Filter, parse f.text = .ok f ↔ f.Canonical) ∧
    (∀ s f, parse s = .ok f → f.Canonical) ∧
    ∀ s f, parse s = .ok f → parse f.text = .ok f := by
  have hread (s : String) (f : Filter) (h : parse s = .ok f) : f.Canonical := by
    obtain ⟨⟨g, _⟩, hg, h⟩ := bind_eq_ok.1 (parse_eq_ok.1 h)
    dsimp only at h
    split at h
    · cases h
      obtain ⟨hw, hh⟩ := wellFormed_of_readFilter hg
      exact ⟨hw, hh⟩
    · cases h
  have htext (f : Filter) (h : f.Canonical) : parse f.text = .ok f := by
    obtain ⟨cs, hcs⟩ := text_eq_cons f
    have hf := readFilter_text h.wellFormed h.height_le []
    refine parse_eq_ok.2 (bind_eq_ok.2 ⟨(f, []), ?_, rfl⟩)
    rwa [List.append_nil, hcs, ← Text.trimStart_of_not_blank (by decide), ← hcs] at hf
  exact ⟨fun f => ⟨hread f.text f, htext f⟩, hread, fun s f h => htext f (hread s f h)⟩

theorem parse_text_iff_nested :
    parse " ( & ( a = x*\\*)(!(b~=c*)) ) " =
      .ok (.all [.substring "a" [" x", "*"], .not (.approx "b" "c*")]) ∧
    parse (Filter.all [.substring "a" [" x", "*"], .not (.approx "b" "c*")]).text =
      .ok (.all [.substring "a" [" x", "*"], .not (.approx "b" "c*")]) := by
  have h : parse " ( & ( a = x*\\*)(!(b~=c*)) ) " =
      .ok (.all [.substring "a" [" x", "*"], .not (.approx "b" "c*")]) := by decide +kernel
  exact ⟨h, parse_text_iff.2.2 _ _ h⟩

/-- Two empty parts are no canonical filter: what they say has a shorter form. -/
example : parse (Filter.substring "a" ["", ""]).text = .ok (.present "a") := by decide +kernel

end Filter

end MessageRouter
