import MessageRouter.Proofs.FilterText

/-!
# The grammar of filters

What a text has to look like to stand for a filter, without any reader: `Filter.Derives`.  The
reader accepts exactly the texts of the grammar whose filters stand at most 64 deep, it returns
the filter that they were derived for, and no text stands for two filters:
`Filter.parse_iff_isText`.

Two things make the reader agree with a grammar that lets white space stand in many places.  A
reader never stops in the middle of a gap, so what it leaves is described by what it is without
its white space.  And the value of a comparison takes all white space up to the parenthesis, so
there is a rule of its own for comparisons: nothing may stand between the value and the end.
-/

namespace MessageRouter

/-! ## Gaps -/

namespace Text

variable {cs rest ws : List Char}

/-- Nothing but white space. -/
def IsGap (ws : List Char) : Prop := ∀ c ∈ ws, isBlank c = true

theorem IsGap.trimStart (h : IsGap ws) (cs : List Char) :
    trimStart (ws ++ cs) = Text.trimStart cs :=
  List.dropWhile_append_of_pos h

/-- What is trimmed off the front is a gap. -/
theorem exists_gap (cs : List Char) : ∃ ws, IsGap ws ∧ cs = ws ++ trimStart cs :=
  ⟨cs.takeWhile isBlank, fun _ hc => List.mem_takeWhile_imp hc,
    (List.takeWhile_append_dropWhile (p := isBlank)).symm⟩

theorem trimStart_eq_nil : trimStart cs = [] ↔ IsGap cs := List.dropWhile_eq_nil_iff

end Text

namespace Filter

open Text

/-! ## The grammar -/

/-- The run of characters in front of an operator, and the name that it stands for. -/
structure NameText (key : String) (run : List Char) : Prop where
  ne_nil : run ≠ []
  starts : StartsName run
  plain : ∀ c ∈ run, endsName c = false
  name : key.toList = trimEnd run

/-- A part of a value: plain characters, and any characters that have a backslash in front. -/
inductive PartText : List Char → List Char → Prop
  | nil : PartText [] []
  | plain {c : Char} {v cs : List Char} (hc : isSpecial c = false) (hv : PartText v cs) :
    PartText (c :: v) (c :: cs)
  | escaped {v cs : List Char} (c : Char) (hv : PartText v cs) :
    PartText (c :: v) ('\\' :: c :: cs)

/-- The parts of a value, with a wildcard between each two of them. -/
inductive ValueText : List (List Char) → List Char → Prop
  | last {v cs : List Char} (hv : PartText v cs) : ValueText [v] cs
  | wildcard {v text cs : List Char} {parts : List (List Char)} (hv : PartText v text)
      (hp : ValueText parts cs) :
    ValueText (v :: parts) (text ++ '*' :: cs)

/-- The comparison that an operator and the parts of a value make. -/
inductive Compares (key : String) : Operator → List String → Filter → Prop
  | equal (value : String) : Compares key .equal [value] (.equal key value)
  | present : Compares key .equal ["", ""] (.present key)
  | substring {ps : List String} (hlen : 2 ≤ ps.length) (hne : ps ≠ ["", ""]) :
    Compares key .equal ps (.substring key ps)
  | approx (ps : List String) : Compares key .approx ps (.approx key ("*".intercalate ps))
  | atLeast (ps : List String) : Compares key .atLeast ps (.atLeast key ("*".intercalate ps))
  | atMost (ps : List String) : Compares key .atMost ps (.atMost key ("*".intercalate ps))

/-- A name, an operator and a value. -/
inductive ItemText (f : Filter) : List Char → Prop
  | intro {key : String} {op : Operator} {parts : List (List Char)} {text cs : List Char}
      (hk : NameText key text) (hv : ValueText parts cs)
      (hf : Compares key op (parts.map String.ofList) f) :
    ItemText f (text ++ (op.text.toList ++ cs))

/-- Filters one after another, at least one, with white space behind each of them. -/
inductive ListText (P : Filter → List Char → Prop) : List Filter → List Char → Prop
  | one {f : Filter} {text ws : List Char} (hf : P f text) (hws : IsGap ws) :
    ListText P [f] (text ++ ws)
  | more {f : Filter} {fs : List Filter} {text ws cs : List Char} (hf : P f text)
      (hws : IsGap ws) (hfs : ListText P fs cs) :
    ListText P (f :: fs) (text ++ (ws ++ cs))

/-- A combining sign and the filters that it combines. -/
inductive CombinedText (P : Filter → List Char → Prop) : Filter → List Char → Prop
  | all {fs : List Filter} {ws cs : List Char} (hws : IsGap ws) (hfs : ListText P fs cs) :
    CombinedText P (.all fs) ('&' :: (ws ++ cs))
  | any {fs : List Filter} {ws cs : List Char} (hws : IsGap ws) (hfs : ListText P fs cs) :
    CombinedText P (.any fs) ('|' :: (ws ++ cs))
  | not {f : Filter} {ws cs : List Char} (hws : IsGap ws) (hf : P f cs) :
    CombinedText P (.not f) ('!' :: (ws ++ cs))

/-- The texts of a filter, from its opening parenthesis to the one that closes it. -/
inductive Derives : Filter → List Char → Prop
  | combined {f : Filter} {ws cs ws' : List Char} (hws : IsGap ws)
      (hf : CombinedText Derives f cs) (hws' : IsGap ws') :
    Derives f ('(' :: (ws ++ (cs ++ (ws' ++ [')']))))
  | item {f : Filter} {ws cs : List Char} (hws : IsGap ws) (hf : ItemText f cs) :
    Derives f ('(' :: (ws ++ (cs ++ [')'])))

/-- The texts of a filter with white space around it. -/
inductive IsText (f : Filter) : List Char → Prop
  | intro {ws text ws' : List Char} (hws : IsGap ws) (hf : Derives f text)
      (hws' : IsGap ws') :
    IsText f (ws ++ (text ++ ws'))

variable {key : String} {c : Char} {cs rest text v ws : List Char} {parts : List (List Char)}
  {f : Filter} {fs : List Filter} {op : Operator} {d : Nat}

/-! ## Names and operators -/

theorem NameText.read (hk : NameText key text) (hrest : ∀ c ∈ rest.head?, endsName c = true) :
    readName (text ++ rest) = .ok (key, rest) := by
  have hplain : ∀ a ∈ text, (!endsName a) = true := fun a ha => by simp [hk.plain a ha]
  have htrim : Text.trim text = key.toList := by
    rw [Text.trim, trimStart_eq_self fun a ha => (hk.starts a ha).1, hk.name]
  have hne : key.toList ≠ [] := by
    obtain ⟨a, as, rfl⟩ := List.exists_cons_of_ne_nil hk.ne_nil
    have ha := (hk.starts a rfl).1
    rw [hk.name, trimEnd, List.reverse_ne_nil_iff, ne_eq, List.dropWhile_eq_nil_iff]
    intro hall
    simp [hall a (by simp)] at ha
  have hspan : rest.takeWhile (!endsName ·) = [] ∧ rest.dropWhile (!endsName ·) = rest := by
    cases rest with
    | nil => exact ⟨rfl, rfl⟩
    | cons c cs => simp [hrest c rfl]
  simp only [readName, List.span_eq_takeWhile_dropWhile, List.takeWhile_append_of_pos hplain,
    List.dropWhile_append_of_pos hplain, hspan]
  simpa [htrim] using hne

theorem exists_nameText (hcs : StartsName cs) (h : readName cs = .ok (key, rest)) :
    ∃ text, cs = text ++ rest ∧ NameText key text := by
  obtain ⟨hne, rfl, rfl⟩ := readName_eq_ok hcs h
  have hspan : cs.takeWhile (!endsName ·) <+: cs := List.takeWhile_prefix _
  refine ⟨_, List.takeWhile_append_dropWhile.symm, ?_, hcs.of_prefix hspan, ?_, ?_⟩
  · rintro hnil
    simp [hnil, trimEnd] at hne
  · intro c hc
    simpa using List.mem_takeWhile_imp hc
  · rw [String.toList_ofList]

theorem eq_append_of_readOperator (h : readOperator cs = .ok (op, rest)) :
    cs = op.text.toList ++ rest := by
  rw [readOperator.eq_def] at h
  split at h
  · cases h
    rfl
  · split at h
    next c ds _ op' hop =>
      obtain ⟨ds', hds, h⟩ := bind_eq_ok.1 h
      cases h
      rw [dropChar.eq_def] at hds
      split at hds
      · split at hds
        · cases hds
          subst_vars
          rw [Operator.ofSign?.eq_def] at hop
          split at hop <;> cases hop <;> rfl
        · cases hds
      · cases hds
    · cases h
  · cases h

/-! ## Values -/

theorem PartText.read {p : List Char} (hv : PartText v text)
    (h : readParts cs = .ok (p :: parts, rest)) :
    readParts (text ++ cs) = .ok ((v ++ p) :: parts, rest) := by
  induction hv with
  | nil => exact h
  | plain hc _ ih =>
    simp only [isSpecial, Bool.or_eq_false_iff, beq_eq_false_iff_ne] at hc
    simp [readParts, ih, consPart, hc]
  | escaped c _ ih => simp [readParts, ih, consPart]

theorem ValueText.read (hv : ValueText parts text) (rest : List Char) :
    readParts (text ++ ')' :: rest) = .ok (parts, ')' :: rest) := by
  induction hv with
  | last hv =>
    have h : readParts (')' :: rest) = .ok ([[]], ')' :: rest) := by simp [readParts]
    simpa using hv.read h
  | wildcard hv _ ih => simpa using hv.read (readParts_star ih)

theorem ValueText.plain (hc : isSpecial c = false) (hv : ValueText parts cs) :
    ValueText (consPart c parts) (c :: cs) := by
  cases hv with
  | last hv => exact .last (.plain hc hv)
  | wildcard hv hp => exact .wildcard (.plain hc hv) hp

theorem ValueText.escaped (c : Char) (hv : ValueText parts cs) :
    ValueText (consPart c parts) ('\\' :: c :: cs) := by
  cases hv with
  | last hv => exact .last (.escaped c hv)
  | wildcard hv hp => exact .wildcard (.escaped c hv) hp

/-- A value that was read ends in front of a parenthesis. -/
theorem exists_valueText (h : readParts cs = .ok (parts, rest)) :
    ∃ text rest', cs = text ++ rest ∧ rest = ')' :: rest' ∧ ValueText parts text := by
  fun_induction readParts cs generalizing parts with
  | case1 => cases h
  | case2 c cs ih =>
    obtain ⟨⟨ps, _⟩, hps, h⟩ := bind_eq_ok.1 h
    cases h
    obtain ⟨text, rest', rfl, hrest, hv⟩ := ih hps
    exact ⟨_, rest', rfl, hrest, hv.escaped c⟩
  | case3 cs =>
    cases h
    exact ⟨[], cs, rfl, rfl, .last .nil⟩
  | case4 | case5 => cases h
  | case6 c cs _ hclose hopen hslash ih =>
    obtain ⟨⟨ps, _⟩, hps, h⟩ := bind_eq_ok.1 h
    cases h
    obtain ⟨text, rest', rfl, hrest, hv⟩ := ih hps
    refine ⟨c :: text, rest', rfl, hrest, ?_⟩
    split
    next hstar =>
      subst hstar
      exact .wildcard .nil hv
    next hstar => exact hv.plain (by simp [isSpecial, hclose, hopen, hslash, hstar])

/-! ## Comparisons -/

theorem compares_iff {ps : List String} (hne : ps ≠ []) :
    Compares key op ps f ↔ f = ofParts key op ps := by
  constructor
  · rintro (_ | _ | ⟨hlen, htwo⟩ | _ | _ | _)
    case substring => exact (ofParts_equal hlen htwo).symm
    all_goals rfl
  · rintro rfl
    fun_cases ofParts key op ps with
    | case1 => exact .approx ps
    | case2 => exact .atLeast ps
    | case3 => exact .atMost ps
    | case4 value => exact .equal value
    | case5 => exact .present
    | case6 ps hone htwo =>
      refine .substring ?_ htwo
      rcases ps with _ | ⟨p, _ | ⟨q, ps⟩⟩
      · exact absurd rfl hne
      · exact absurd rfl (hone p)
      · simp

theorem ValueText.ne_nil (hv : ValueText parts text) : parts ≠ [] := by
  cases hv <;> exact List.cons_ne_nil _ _

theorem ItemText.read (hf : ItemText f text) (rest : List Char) :
    readItem (text ++ ')' :: rest) = .ok (f, ')' :: rest) := by
  obtain @⟨key, op, parts, name, value, hk, hv, hf⟩ := hf
  rw [compares_iff (by simpa using hv.ne_nil)] at hf
  obtain ⟨c, cs, hop, hc⟩ := endsName_operator op
  have hname : readName (name ++ (op.text.toList ++ (value ++ ')' :: rest))) =
      .ok (key, op.text.toList ++ (value ++ ')' :: rest)) := hk.read (by simpa [hop] using hc)
  rw [List.append_assoc, List.append_assoc, hf]
  exact bind_eq_ok.2 ⟨_, hname, bind_eq_ok.2 ⟨_, readOperator_append op,
    bind_eq_ok.2 ⟨_, hv.read rest, rfl⟩⟩⟩

theorem exists_itemText (hcs : StartsName cs) (h : readItem cs = .ok (f, rest)) :
    ∃ text rest', cs = text ++ rest ∧ rest = ')' :: rest' ∧ ItemText f text := by
  obtain ⟨⟨key, _⟩, hk, h⟩ := bind_eq_ok.1 h
  obtain ⟨⟨op, _⟩, hop, h⟩ := bind_eq_ok.1 h
  obtain ⟨⟨parts, _⟩, hp, h⟩ := bind_eq_ok.1 h
  cases h
  obtain ⟨name, rfl, hname⟩ := exists_nameText hcs hk
  obtain rfl := eq_append_of_readOperator hop
  obtain ⟨value, rest', rfl, hrest, hv⟩ := exists_valueText hp
  refine ⟨name ++ (op.text.toList ++ value), rest', by simp, hrest, .intro hname hv ?_⟩
  exact (compares_iff (by simpa using hv.ne_nil)).2 rfl

theorem ItemText.starts (hf : ItemText f text) (rest : List Char) :
    text ≠ [] ∧ StartsName (text ++ rest) := by
  obtain @⟨_, _, _, _, _, hk, _, _⟩ := hf
  obtain ⟨a, as, rfl⟩ := List.exists_cons_of_ne_nil hk.ne_nil
  exact ⟨by simp, hk.starts⟩

/-! ## Combinations -/

section Combinations

variable {nested : Reader Filter} {P : Filter → List Char → Prop}

/-- The reader takes off the front of a text what `P` derives for the filter. -/
def Takes (nested : Reader Filter) (P : Filter → List Char → Prop) (f : Filter) : Prop :=
  ∀ text, P f text → ∀ rest, nested (text ++ rest) = .ok (f, rest)

/-- What the reader takes off the front of a text can be derived. -/
def Finds (nested : Reader Filter) (P : Filter → List Char → Prop) : Prop :=
  ∀ cs f rest, nested cs = .ok (f, rest) → ∃ text, cs = text ++ rest ∧ P f text

/-- What can be derived starts with a parenthesis. -/
def Opens (P : Filter → List Char → Prop) : Prop := ∀ f text, P f text → ∃ cs, text = '(' :: cs

theorem Opens.trimStart (ho : Opens P) (hf : P f text) (rest : List Char) :
    trimStart (text ++ rest) = text ++ rest := by
  obtain ⟨cs, rfl⟩ := ho f text hf
  exact trimStart_of_not_blank (by decide)

theorem ListText.trimStart (ho : Opens P) (hfs : ListText P fs text) (rest : List Char) :
    trimStart (text ++ rest) = text ++ rest := by
  cases hfs with
  | one hf _ => rw [List.append_assoc, ho.trimStart hf]
  | more hf _ _ => rw [List.append_assoc, ho.trimStart hf]

theorem readMany_of_not_open {count : Nat} (h : cs.head? ≠ some '(') :
    readMany nested count cs = .ok ([], cs) := by
  rw [readMany.eq_def]
  split
  · rfl
  · split
    · exact absurd rfl h
    · rfl

/-- A reader that has taken filters goes on with what follows them. -/
theorem ListText.readMany {count : Nat} (ho : Opens P) (hread : ∀ f ∈ fs, Takes nested P f)
    (hfs : ListText P fs text) (tail : List Char) (hcount : text.length ≤ count) :
    ∃ left, count - text.length ≤ left ∧
      readMany nested count (text ++ tail) =
        (readMany nested left (Text.trimStart tail)).map fun (gs, rest) => (fs ++ gs, rest) := by
  induction hfs generalizing count with
  | @one f text ws hf hws =>
    obtain ⟨cs, rfl⟩ := ho _ _ hf
    obtain ⟨count, rfl⟩ : ∃ n, count = n + 1 := ⟨count - 1, by simp at hcount; omega⟩
    have hf := hread f (by simp) _ hf (ws ++ tail)
    refine ⟨count, by simp, ?_⟩
    rw [List.append_assoc, List.cons_append, Filter.readMany, ← List.cons_append, hf,
      ← hws.trimStart tail]
    rfl
  | @more f gs text ws cs hf hws hgs ih =>
    obtain ⟨ds, rfl⟩ := ho _ _ hf
    obtain ⟨count, rfl⟩ : ∃ n, count = n + 1 := ⟨count - 1, by simp at hcount; omega⟩
    have hf := hread f (by simp) _ hf (ws ++ cs ++ tail)
    have hcount' : cs.length ≤ count := by simp at hcount; omega
    obtain ⟨left, hleft, hgs'⟩ := ih (fun g hg => hread g (List.mem_cons_of_mem _ hg)) hcount'
    refine ⟨left, by simp; omega, ?_⟩
    have hgap : Text.trimStart (ws ++ cs ++ tail) = cs ++ tail := by
      rw [List.append_assoc, hws.trimStart, hgs.trimStart ho]
    rw [List.append_assoc, List.cons_append, Filter.readMany, ← List.cons_append, hf]
    show (Filter.readMany nested count (Text.trimStart (ws ++ cs ++ tail)) >>= _) = _
    rw [hgap, hgs']
    cases Filter.readMany nested left (Text.trimStart tail) <;> rfl

theorem ListText.ne_nil (hfs : ListText P fs text) : fs ≠ [] := by
  cases hfs <;> exact List.cons_ne_nil _ _

theorem ListText.readList {tail : List Char} (ho : Opens P) (hread : ∀ f ∈ fs, Takes nested P f)
    (hfs : ListText P fs text) (hws : IsGap ws) (htail : (Text.trimStart tail).head? ≠ some '(') :
    readList nested (ws ++ (text ++ tail)) = .ok (fs, Text.trimStart tail) := by
  obtain ⟨left, -, h⟩ := hfs.readMany ho hread tail
    (show text.length ≤ (text ++ tail).length by simp)
  rw [readMany_of_not_open htail] at h
  refine bind_eq_ok.2 ⟨(fs, Text.trimStart tail), ?_, by simp [hfs.ne_nil]⟩
  rw [hws.trimStart, hfs.trimStart ho, h]
  simp [Except.map]

/-- The filters that are combined directly. -/
def operands : Filter → List Filter
  | .all fs => fs
  | .any fs => fs
  | .not f => [f]
  | _ => []

theorem CombinedText.trimStart (hf : CombinedText P f text) (rest : List Char) :
    trimStart (text ++ rest) = text ++ rest := by
  cases hf <;> exact trimStart_of_not_blank rfl

/-- What follows a combination may lose white space at its front, and nothing else. -/
theorem CombinedText.read (ho : Opens P) (hread : ∀ g ∈ f.operands, Takes nested P g)
    (hf : CombinedText P f text) (tail : List Char)
    (htail : (Text.trimStart tail).head? = some '(' → ∃ g, f = .not g) :
    ∃ tail', readBody nested (text ++ tail) = .ok (f, tail') ∧
      Text.trimStart tail' = Text.trimStart tail := by
  have hidem : Text.trimStart (Text.trimStart tail) = Text.trimStart tail :=
    trimStart_eq_self fun c hc => head_trimStart hc
  cases hf with
  | all hws hfs =>
    rw [List.cons_append, List.append_assoc]
    have hopen : (Text.trimStart tail).head? ≠ some '(' := fun h => by
      obtain ⟨g, hg⟩ := htail h
      cases hg
    exact ⟨_, bind_eq_ok.2 ⟨_, hfs.readList ho hread hws hopen, rfl⟩, hidem⟩
  | any hws hfs =>
    rw [List.cons_append, List.append_assoc]
    have hopen : (Text.trimStart tail).head? ≠ some '(' := fun h => by
      obtain ⟨g, hg⟩ := htail h
      cases hg
    exact ⟨_, bind_eq_ok.2 ⟨_, hfs.readList ho hread hws hopen, rfl⟩, hidem⟩
  | @not f ws text hws hf =>
    rw [List.cons_append, List.append_assoc]
    refine ⟨tail, bind_eq_ok.2 ⟨(f, tail), ?_, rfl⟩, rfl⟩
    rw [hws.trimStart, ho.trimStart hf]
    exact hread f (by simp [operands]) _ hf tail

/-- A reader that takes no filter takes nothing at all. -/
theorem eq_of_readMany_nil {count : Nat} (h : readMany nested count cs = .ok ([], rest)) :
    cs = rest := by
  cases count with
  | zero => simpa [readMany] using h
  | succ count =>
    rw [readMany.eq_def] at h
    dsimp only at h
    split at h
    · obtain ⟨_, -, h⟩ := bind_eq_ok.1 h
      obtain ⟨_, -, h⟩ := bind_eq_ok.1 h
      cases h
    · simpa using h

theorem exists_listText {count : Nat} (hfind : Finds nested P)
    (h : readMany nested count cs = .ok (fs, rest)) (hne : fs ≠ []) :
    ∃ text, cs = text ++ rest ∧ ListText P fs text := by
  induction count generalizing cs fs with
  | zero =>
    cases h
    exact absurd rfl hne
  | succ count ih =>
    rw [readMany.eq_def] at h
    dsimp only at h
    split at h
    · obtain ⟨⟨f, cs'⟩, hf, h⟩ := bind_eq_ok.1 h
      obtain ⟨⟨gs, rest⟩, hgs, h⟩ := bind_eq_ok.1 h
      cases h
      obtain ⟨text, hcs, hf⟩ := hfind _ _ _ hf
      obtain ⟨ws, hws, hgap⟩ := exists_gap cs'
      rw [hgap] at hcs
      rcases eq_or_ne gs [] with rfl | hne
      · rw [eq_of_readMany_nil hgs] at hcs
        exact ⟨text ++ ws, by rw [hcs, List.append_assoc], .one hf hws⟩
      · obtain ⟨text', hcs', hgs⟩ := ih hgs hne
        exact ⟨text ++ (ws ++ text'), by rw [hcs, hcs']; simp, .more hf hws hgs⟩
    · cases h
      exact absurd rfl hne

theorem exists_listText_of_readList (hfind : Finds nested P)
    (h : readList nested cs = .ok (fs, rest)) :
    ∃ ws text, cs = ws ++ (text ++ rest) ∧ IsGap ws ∧ ListText P fs text := by
  have hne := (readList_mem h).1
  obtain ⟨⟨gs, _⟩, hgs, h⟩ := bind_eq_ok.1 h
  dsimp only at h
  split at h
  · cases h
  cases h
  obtain ⟨text, htext, hfs⟩ := exists_listText hfind hgs hne
  obtain ⟨ws, hws, hcs⟩ := exists_gap cs
  exact ⟨ws, text, by rw [← htext, ← hcs], hws, hfs⟩

theorem startsName_of_not_sign (hcs : trimStart cs = cs) (hand : ∀ ds, cs = '&' :: ds → False)
    (hor : ∀ ds, cs = '|' :: ds → False) (hnot : ∀ ds, cs = '!' :: ds → False) :
    StartsName cs := by
  intro c hc
  have hblank : isBlank c = false := head_trimStart (hcs.symm ▸ hc)
  refine ⟨hblank, ?_, ?_, ?_⟩ <;> rintro rfl
  all_goals obtain ⟨ds, hds⟩ := List.head?_eq_some_iff.1 hc
  · exact hand ds hds
  · exact hor ds hds
  · exact hnot ds hds

/-- What stands between the parentheses: a combination, or a comparison up to the end. -/
theorem exists_of_readBody (hfind : Finds nested P) (hcs : trimStart cs = cs)
    (h : readBody nested cs = .ok (f, rest)) :
    ∃ text, cs = text ++ rest ∧
      (CombinedText P f text ∨ ItemText f text ∧ ∃ rest', rest = ')' :: rest') := by
  rw [readBody.eq_def] at h
  split at h
  · obtain ⟨⟨fs, _⟩, hfs, h⟩ := bind_eq_ok.1 h
    cases h
    obtain ⟨ws, text, rfl, hws, hfs⟩ := exists_listText_of_readList hfind hfs
    exact ⟨_, by simp, .inl (.all hws hfs)⟩
  · obtain ⟨⟨fs, _⟩, hfs, h⟩ := bind_eq_ok.1 h
    cases h
    obtain ⟨ws, text, rfl, hws, hfs⟩ := exists_listText_of_readList hfind hfs
    exact ⟨_, by simp, .inl (.any hws hfs)⟩
  next cs' =>
    obtain ⟨⟨g, _⟩, hg, h⟩ := bind_eq_ok.1 h
    cases h
    obtain ⟨text, htext, hg⟩ := hfind _ _ _ hg
    obtain ⟨ws, hws, hgap⟩ := exists_gap cs'
    rw [htext] at hgap
    exact ⟨_, by rw [hgap]; simp, .inl (.not hws hg)⟩
  · cases h
  next hand hor hnot _ =>
    have hstart : StartsName cs := startsName_of_not_sign hcs hand hor hnot
    obtain ⟨text, rest', rfl, hrest, hf⟩ := exists_itemText hstart h
    exact ⟨text, rfl, .inr ⟨hf, rest', hrest⟩⟩

end Combinations

/-! ## Filters -/

theorem opens_derives : Opens Derives := by
  intro f text hf
  cases hf <;> exact ⟨_, rfl⟩

theorem dropChar_eq_ok {cs : List Char} : dropChar c cs = .ok rest ↔ cs = c :: rest := by
  cases cs with
  | nil => simp [dropChar]
  | cons a cs =>
    simp only [dropChar]
    split <;> simp_all

/-- The filters of a combination stand one level less deep than the combination. -/
theorem height_le_of_mem_operands {g : Filter} (hg : g ∈ f.operands) (hd : f.height ≤ d + 1) :
    g.height ≤ d := by
  cases f with
  | all fs | any fs =>
    exact heightList_le_iff.1 (Nat.le_of_succ_le_succ hd) g hg
  | not f =>
    obtain rfl := List.mem_singleton.1 hg
    exact Nat.le_of_succ_le_succ hd
  | _ => cases hg

/-- The reader takes every text of a filter, if it goes deep enough. -/
theorem takes_derives (hd : f.height ≤ d) : Takes (readFilter d) Derives f := by
  induction d generalizing f with
  | zero => exact absurd hd (Nat.not_le.2 f.height_pos)
  | succ d ih =>
    intro text hf rest
    have hclose : trimStart (')' :: rest) = ')' :: rest := trimStart_of_not_blank (by decide)
    cases hf with
    | @combined _ ws cs ws' hws hf hws' =>
      have htail : trimStart (ws' ++ ')' :: rest) = ')' :: rest := by rw [hws'.trimStart, hclose]
      obtain ⟨tail, hbody, htail'⟩ := hf.read opens_derives
        (fun g hg => ih (height_le_of_mem_operands hg hd)) (ws' ++ ')' :: rest) (by simp [htail])
      rw [htail] at htail'
      refine bind_eq_ok.2 ⟨ws ++ (cs ++ (ws' ++ ')' :: rest)), by simp [dropChar],
        bind_eq_ok.2 ⟨(f, tail), ?_, bind_eq_ok.2 ⟨rest, dropChar_eq_ok.2 htail', rfl⟩⟩⟩
      rw [hws.trimStart, hf.trimStart, hbody]
    | @item _ ws cs hws hf =>
      obtain ⟨hne, hstarts⟩ := hf.starts (')' :: rest)
      refine bind_eq_ok.2 ⟨ws ++ (cs ++ ')' :: rest), by simp [dropChar],
        bind_eq_ok.2 ⟨(f, ')' :: rest), ?_, bind_eq_ok.2 ⟨rest, dropChar_eq_ok.2 hclose, rfl⟩⟩⟩
      rw [hws.trimStart, trimStart_eq_self fun c hc => (hstarts c hc).1,
        readBody_of_startsName (by simp) hstarts, hf.read rest]

/-- The reader finds nothing but texts of the grammar. -/
theorem finds_derives (d : Nat) : Finds (readFilter d) Derives := by
  induction d with
  | zero =>
    intro cs f rest h
    obtain ⟨_, -, h⟩ := bind_eq_ok.1 h
    cases h
  | succ d ih =>
    intro cs f rest h
    obtain ⟨body, hopen, h⟩ := bind_eq_ok.1 h
    obtain ⟨⟨g, tail⟩, hg, h⟩ := bind_eq_ok.1 h
    obtain ⟨rest', hclose, h⟩ := bind_eq_ok.1 h
    cases h
    obtain rfl := dropChar_eq_ok.1 hopen
    have hfront : trimStart (trimStart body) = trimStart body :=
      trimStart_eq_self fun c hc => head_trimStart hc
    obtain ⟨ws, hws, hbody⟩ := exists_gap body
    obtain ⟨ws', hws', htail⟩ := exists_gap tail
    rw [dropChar_eq_ok.1 hclose] at htail
    obtain ⟨text, htext, hf | ⟨hf, rest', hrest⟩⟩ := exists_of_readBody ih hfront hg
    · refine ⟨_, ?_, .combined hws hf hws'⟩
      rw [hbody, htext, htail]
      simp
    · have hrest : tail = ')' :: rest := by
        rw [hrest, trimStart_of_not_blank (by decide)] at hclose
        rw [hrest, dropChar_eq_ok.1 hclose]
      refine ⟨_, ?_, .item hws hf⟩
      rw [hbody, htext, hrest]
      simp

/-! ## Texts -/

/-- A text of the grammar is read up to the white space at its end. -/
theorem IsText.read (hf : IsText f cs) (hd : f.height ≤ d) :
    ∃ rest, IsGap rest ∧ readFilter d (trimStart cs) = .ok (f, rest) := by
  obtain @⟨ws, text, ws', hws, hf, hws'⟩ := hf
  refine ⟨ws', hws', ?_⟩
  rw [hws.trimStart, opens_derives.trimStart hf, takes_derives hd text hf]

/-- The reader accepts exactly the texts of the grammar in which at most 64 filters stand inside
each other, and it returns the filter that the text was derived for.  However deep they are, no
text stands for two filters. -/
theorem parse_iff_isText :
    (∀ s f, parse s = .ok f ↔ IsText f s.toList ∧ f.height ≤ 64) ∧
    ∀ cs f g, IsText f cs → IsText g cs → f = g := by
  refine ⟨fun s f => parse_eq_ok.trans ⟨fun h => ?_, fun ⟨hf, hd⟩ => ?_⟩, fun cs f g hf hg => ?_⟩
  · obtain ⟨⟨g, rest⟩, hg, h⟩ := bind_eq_ok.1 h
    dsimp only at h
    split at h
    next hrest =>
      cases h
      obtain ⟨ws, hws, hgap⟩ := exists_gap s.toList
      obtain ⟨text, htext, hf⟩ := finds_derives _ _ _ _ hg
      refine ⟨?_, (wellFormed_of_readFilter hg).2⟩
      rw [hgap, htext]
      exact .intro hws hf (trimStart_eq_nil.1 hrest)
    · cases h
  · obtain ⟨rest, hrest, h⟩ := hf.read hd
    exact bind_eq_ok.2 ⟨(f, rest), h, by simp [trimStart_eq_nil.2 hrest]⟩
  · obtain ⟨_, -, hread⟩ := hf.read (Nat.le_max_left f.height g.height)
    obtain ⟨_, -, hread'⟩ := hg.read (Nat.le_max_right f.height g.height)
    rw [hread] at hread'
    cases hread'
    rfl

theorem parse_iff_isText_nested :
    parse " ( ! ( a = x*\\*) ) " = .ok (.not (.substring "a" [" x", "*"])) ∧
    ∀ g, IsText g " ( ! ( a = x*\\*) ) ".toList → g = .not (.substring "a" [" x", "*"]) := by
  have h : parse " ( ! ( a = x*\\*) ) " = .ok (.not (.substring "a" [" x", "*"])) := by
    decide +kernel
  exact ⟨h, fun g hg => parse_iff_isText.2 _ _ _ hg ((parse_iff_isText.1 _ _).1 h).1⟩

end Filter

end MessageRouter
