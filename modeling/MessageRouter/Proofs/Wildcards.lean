import Mathlib.Order.Bounds.Basic
import MessageRouter.Filter.Matching

/-!
# Wildcards

A comparison with wildcards accepts exactly the values that consist of its parts with any texts
between them: `Filter.holds_substring_iff`.

The matcher takes every part where it first occurs and never comes back to it.  It loses nothing by
that.  A part that is found further to the front leaves more behind it, and since another part is
still to come, the gap in front of that one takes up whatever is left over.

The last part of the statement is about bytes.  A part may be searched for in the bytes of a value
as well: where it first occurs there, it ends at the border of a character, and what follows is
what the matcher goes on with.
-/

namespace MessageRouter.Filter

variable {part cs after rest : List Char} {parts : List (List Char)}

/-! ## Parts and gaps -/

/-- The text consists of the parts with a gap in front of each of them. -/
def Spread (parts : List (List Char)) (cs : List Char) : Prop :=
  ∃ gaps : List (List Char), gaps.length = parts.length ∧
    cs = (List.zipWith (· ++ ·) gaps parts).flatten

theorem spread_nil : Spread [] cs ↔ cs = [] := by
  constructor
  · rintro ⟨gaps, -, rfl⟩
    simp
  · rintro rfl
    exact ⟨[], rfl, rfl⟩

theorem spread_cons :
    Spread (part :: parts) cs ↔ ∃ gap rest, cs = gap ++ (part ++ rest) ∧ Spread parts rest := by
  constructor
  · rintro ⟨gaps, hlen, rfl⟩
    cases gaps with
    | nil => simp at hlen
    | cons gap gaps => exact ⟨gap, _, by simp, gaps, by simpa using hlen, rfl⟩
  · rintro ⟨gap, rest, rfl, gaps, hlen, rfl⟩
    exact ⟨gap :: gaps, by simp [hlen], by simp⟩

/-- The first gap takes up whatever is put in front of it. -/
theorem Spread.of_suffix (hne : parts ≠ []) (h : Spread parts rest) (hsuffix : rest <:+ cs) :
    Spread parts cs := by
  obtain ⟨part, parts, rfl⟩ := List.exists_cons_of_ne_nil hne
  obtain ⟨gap, tail, rfl, hparts⟩ := spread_cons.1 h
  obtain ⟨extra, rfl⟩ := hsuffix
  exact spread_cons.2 ⟨extra ++ gap, tail, by simp, hparts⟩

/-! ## The search for a part -/

theorem eq_append_of_afterFirst? (h : afterFirst? part cs = some after) :
    ∃ gap, cs = gap ++ (part ++ after) := by
  induction cs with
  | nil =>
    rw [afterFirst?] at h
    split at h
    next hnil =>
      cases h
      exact ⟨[], by simp [hnil]⟩
    · cases h
  | cons c cs ih =>
    rw [afterFirst?] at h
    split at h
    next hprefix =>
      cases h
      exact ⟨[], (List.prefix_iff_eq_append.1 (List.isPrefixOf_iff_prefix.1 hprefix)).symm⟩
    · obtain ⟨gap, rfl⟩ := ih h
      exact ⟨c :: gap, rfl⟩

/-- A part that occurs is found, and more is left behind it than behind any other occurrence. -/
theorem exists_afterFirst? (gap part rest : List Char) :
    ∃ after, afterFirst? part (gap ++ (part ++ rest)) = some after ∧ rest <:+ after := by
  induction gap with
  | nil =>
    cases part with
    | nil => exact ⟨rest, by cases rest <;> simp [afterFirst?], List.suffix_rfl⟩
    | cons c part => exact ⟨rest, by simp [afterFirst?], List.suffix_rfl⟩
  | cons c gap ih =>
    rw [List.cons_append, afterFirst?]
    split
    · have hrest : rest <:+ c :: (gap ++ (part ++ rest)) := ⟨c :: (gap ++ part), by simp⟩
      refine ⟨_, rfl, List.suffix_of_suffix_length_le hrest (List.drop_suffix _ _) ?_⟩
      simp only [List.length_drop, List.length_cons, List.length_append]
      omega
    · exact ih

theorem endsWithParts_iff : endsWithParts parts cs = true ↔ Spread parts cs := by
  fun_induction endsWithParts parts cs with
  | case1 cs => simp [spread_nil]
  | case2 last cs =>
    rw [List.isSuffixOf_iff_suffix, spread_cons]
    constructor
    · rintro ⟨gap, rfl⟩
      exact ⟨gap, [], by simp, spread_nil.2 rfl⟩
    · rintro ⟨gap, rest, rfl, hrest⟩
      rw [spread_nil.1 hrest, List.append_nil]
      exact List.suffix_append gap last
  | case3 part parts cs hne after hafter ih =>
    rw [ih, spread_cons]
    constructor
    · intro h
      obtain ⟨gap, hcs⟩ := eq_append_of_afterFirst? hafter
      exact ⟨gap, after, hcs, h⟩
    · rintro ⟨gap, rest, rfl, h⟩
      obtain ⟨after', hafter', hsuffix⟩ := exists_afterFirst? gap part rest
      rw [hafter, Option.some.injEq] at hafter'
      exact h.of_suffix hne (hafter' ▸ hsuffix)
  | case4 part parts cs hne hafter =>
    simp only [Bool.false_eq_true, false_iff, spread_cons]
    rintro ⟨gap, rest, rfl, -⟩
    obtain ⟨after, hafter', -⟩ := exists_afterFirst? gap part rest
    simp [hafter] at hafter'

theorem matchesParts_iff :
    matchesParts (part :: parts) cs = true ↔ ∃ rest, cs = part ++ rest ∧ Spread parts rest := by
  rw [matchesParts, Bool.and_eq_true, endsWithParts_iff, List.isPrefixOf_iff_prefix]
  constructor
  · rintro ⟨⟨rest, rfl⟩, h⟩
    exact ⟨rest, rfl, by simpa using h⟩
  · rintro ⟨rest, rfl, h⟩
    exact ⟨List.prefix_append part rest, by simpa using h⟩

/-! ## The search in bytes -/

/-- The bytes of the part stand in the bytes of the text, from byte `i` on. -/
def OccursAt (part text : String) (i : Nat) : Prop :=
  i + part.utf8ByteSize ≤ text.utf8ByteSize ∧
    text.toByteArray.extract i (i + part.utf8ByteSize) = part.toByteArray

theorem extract_part (before part after : String) :
    (before ++ (part ++ after)).toByteArray.extract before.utf8ByteSize
      (before.utf8ByteSize + part.utf8ByteSize) = part.toByteArray := by
  rw [String.toByteArray_append, String.toByteArray_append, String.utf8ByteSize,
    ← Nat.add_zero before.toByteArray.size, Nat.add_assoc, ByteArray.extract_append_size_add,
    Nat.zero_add]
  exact ByteArray.extract_append_eq_left rfl

theorem extract_after (before part after : String) :
    (before ++ (part ++ after)).toByteArray.extract (before.utf8ByteSize + part.utf8ByteSize)
      (before ++ (part ++ after)).utf8ByteSize = after.toByteArray := by
  rw [← String.append_assoc, String.toByteArray_append]
  exact ByteArray.extract_append_eq_right String.utf8ByteSize_append.symm
    String.utf8ByteSize_append

theorem isValid_after (before part after : String) :
    String.Pos.Raw.IsValid (before ++ (part ++ after))
      ⟨before.utf8ByteSize + part.utf8ByteSize⟩ := by
  rw [← String.append_assoc]
  exact String.Pos.Raw.isValid_iff_exists_append.2
    ⟨before ++ part, after, rfl, String.Pos.Raw.ext String.utf8ByteSize_append.symm⟩

theorem occursAt_append (before part after : String) :
    OccursAt part (before ++ (part ++ after)) before.utf8ByteSize := by
  refine ⟨?_, extract_part before part after⟩
  rw [String.utf8ByteSize_append, String.utf8ByteSize_append]
  omega

/-- Where the bytes of a part occur, the part itself occurs; an empty one occurs at the start. -/
theorem exists_of_occursAt {part text : String} {i : Nat} (h : OccursAt part text i) :
    ∃ before after, text = before ++ (part ++ after) ∧ before.utf8ByteSize ≤ i := by
  obtain ⟨hle, hbytes⟩ := h
  by_cases hempty : part.utf8ByteSize = 0
  · refine ⟨"", text, ?_, Nat.zero_le i⟩
    rw [String.utf8ByteSize_eq_zero_iff.1 hempty, String.empty_append, String.empty_append]
  have hvalid := (String.Pos.Raw.isValidUTF8_extract_iff ⟨i⟩ ⟨i + part.utf8ByteSize⟩
    (Nat.le_add_right i part.utf8ByteSize) hle).1 (hbytes ▸ part.isValidUTF8)
  rcases hvalid with heq | ⟨hi, hj⟩
  · have := congrArg String.Pos.Raw.byteIdx heq
    dsimp only at this
    omega
  -- the part starts at the border of a character, and so it ends at one
  obtain ⟨before, rest, rfl, hb⟩ := String.Pos.Raw.isValid_iff_exists_append.1 hi
  obtain rfl : i = before.utf8ByteSize := congrArg String.Pos.Raw.byteIdx hb
  rcases String.Pos.Raw.isValid_append.1 hj with hj | ⟨-, hj⟩
  · have := hj.le_utf8ByteSize
    dsimp only at this
    omega
  obtain ⟨part', after, rfl, hp⟩ := String.Pos.Raw.isValid_iff_exists_append.1 hj
  have hsize : part.utf8ByteSize = part'.utf8ByteSize := by
    simpa using congrArg String.Pos.Raw.byteIdx hp
  rw [hsize, extract_part] at hbytes
  rw [String.toByteArray_inj.1 hbytes]
  exact ⟨before, after, rfl, le_rfl⟩

/-- The place that the matcher finds is the first one in bytes. -/
theorem isLeast_of_afterFirst? {part text : String}
    (h : afterFirst? part.toList text.toList = some after) :
    ∃ before, text = before ++ (part ++ String.ofList after) ∧
      IsLeast {i | OccursAt part text i} before.utf8ByteSize := by
  obtain ⟨gap, hgap⟩ := eq_append_of_afterFirst? h
  have htext : text = String.ofList gap ++ (part ++ String.ofList after) := by
    rw [← String.toList_inj]
    simpa using hgap
  refine ⟨String.ofList gap, htext, ?_, fun i hi => ?_⟩
  · rw [htext]
    exact occursAt_append _ part _
  obtain ⟨before, rest, htext', hle⟩ := exists_of_occursAt hi
  have hsuffix : rest.toList <:+ after := by
    obtain ⟨after', hafter', hsuffix⟩ := exists_afterFirst? before.toList part.toList rest.toList
    rw [← String.toList_append, ← String.toList_append, ← htext', h, Option.some.injEq] at hafter'
    exact hafter' ▸ hsuffix
  obtain ⟨extra, rfl⟩ := hsuffix
  have hsize := congrArg String.utf8ByteSize (htext.symm.trans htext')
  simp only [String.ofList_append, String.ofList_toList, String.utf8ByteSize_append] at hsize
  omega

/-! ## Filters -/

/-- A comparison with wildcards holds of a value exactly if the value consists of the parts with
any texts between them.  It does not hold where the property is missing or where there are no
parts.  A part is found where its bytes first occur in the bytes of the value, and behind it the
value can be cut; what follows is what is searched next. -/
theorem holds_substring_iff :
    (∀ (key first : String) (parts : List String) (p : Properties) (value : String),
      p.get? key = some value →
        ((Filter.substring key (first :: parts)).holds p = true ↔
          ∃ gaps : List String, gaps.length = parts.length ∧
            value = first ++ String.join (List.zipWith (· ++ ·) gaps parts))) ∧
    (∀ (key : String) (parts : List String) (p : Properties), p.get? key = none ∨ parts = [] →
      (Filter.substring key parts).holds p = false) ∧
    ∀ part text : String,
      (∀ after, afterFirst? part.toList text.toList = some after →
        ∃ i, IsLeast {i | OccursAt part text i} i ∧
          String.Pos.Raw.IsValid text ⟨i + part.utf8ByteSize⟩ ∧
          text.toByteArray.extract (i + part.utf8ByteSize) text.utf8ByteSize =
            (String.ofList after).toByteArray) ∧
      (afterFirst? part.toList text.toList = none → ∀ i, ¬OccursAt part text i) := by
  refine ⟨fun key first parts p value hvalue => ?_, ?_, fun part text => ⟨fun after hafter => ?_,
    fun hnone i hi => ?_⟩⟩
  · have hjoin (gaps : List String) : (String.join (List.zipWith (· ++ ·) gaps parts)).toList =
        (List.zipWith (· ++ ·) (gaps.map String.toList) (parts.map String.toList)).flatten := by
      rw [String.toList_join, List.flatMap_def, List.map_zipWith, List.zipWith_map]
      simp only [String.toList_append]
    rw [holds, hvalue, Option.any_some, List.map_cons, matchesParts_iff]
    constructor
    · rintro ⟨rest, hvalue, gaps, hlen, rfl⟩
      refine ⟨gaps.map String.ofList, by simpa using hlen, ?_⟩
      rw [← String.toList_inj, String.toList_append, hjoin, hvalue]
      simp [Function.comp_def]
    · rintro ⟨gaps, hlen, rfl⟩
      refine ⟨_, String.toList_append, gaps.map String.toList, by simpa using hlen, hjoin gaps⟩
  · rintro key parts p (hnone | rfl)
    · rw [holds, hnone, Option.any_none]
    · cases h : p.get? key <;> simp [holds, h, matchesParts]
  · obtain ⟨before, rfl, hleast⟩ := isLeast_of_afterFirst? hafter
    exact ⟨before.utf8ByteSize, hleast, isValid_after before part _, extract_after before part _⟩
  · obtain ⟨before, after, rfl, -⟩ := exists_of_occursAt hi
    obtain ⟨_, hsome, -⟩ := exists_afterFirst? before.toList part.toList after.toList
    rw [← String.toList_append, ← String.toList_append, hnone] at hsome
    cases hsome

/-- The parts of `éa*é*é` follow each other in `éaéaé`, where each of them occurs more than once. -/
theorem holds_substring_iff_repeated :
    ((Dict.ofList [("k", "éaéaé")]).get? "k" = some "éaéaé" ∧
      ∃ gaps : List String, gaps.length = 2 ∧
        "éaéaé" = "éa" ++ String.join (List.zipWith (· ++ ·) gaps ["é", "é"])) ∧
    ((Dict.ofList [("k", "éaéaé")]).get? "l" = none ∧
      (Filter.substring "l" ["", ""]).holds (Dict.ofList [("k", "éaéaé")]) = false) ∧
    (afterFirst? "é".toList "aéaé".toList = some "aé".toList ∧
      ∃ i, IsLeast {i | OccursAt "é" "aéaé" i} i ∧
        String.Pos.Raw.IsValid "aéaé" ⟨i + "é".utf8ByteSize⟩ ∧
        "aéaé".toByteArray.extract (i + "é".utf8ByteSize) "aéaé".utf8ByteSize =
          (String.ofList "aé".toList).toByteArray) ∧
    afterFirst? "ä".toList "aéaé".toList = none ∧ ∀ i, ¬OccursAt "ä" "aéaé" i := by
  obtain ⟨hvalues, hnone, hbytes⟩ := holds_substring_iff
  have hvalue : (Dict.ofList [("k", "éaéaé")]).get? "k" = some "éaéaé" := by decide
  have hmissing : (Dict.ofList [("k", "éaéaé")]).get? "l" = none := by decide
  have hfound : afterFirst? "é".toList "aéaé".toList = some "aé".toList := by decide +kernel
  have hlost : afterFirst? "ä".toList "aéaé".toList = none := by decide +kernel
  refine ⟨⟨hvalue, (hvalues "k" "éa" ["é", "é"] _ _ hvalue).1 (by decide +kernel)⟩,
    ⟨hmissing, hnone "l" ["", ""] _ (.inl hmissing)⟩, ⟨hfound, (hbytes _ _).1 _ hfound⟩,
    hlost, (hbytes _ _).2 hlost⟩

/-- Two parts never share a character. -/
example :
    (Filter.substring "k" ["éa", "é", "éaé"]).holds (Dict.ofList [("k", "éaéaé")]) = false := by
  decide +kernel

end MessageRouter.Filter
