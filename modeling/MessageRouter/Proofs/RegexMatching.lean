import Mathlib.Data.Finset.Range
import Mathlib.Data.Finset.Card
import MessageRouter.Regex.Matching

/-!
# What a regular expression describes

A match of an expression leads from one place of a text to another: `Regex.Spans` says from where
to where, by the shape of the expression.  Running an expression over marks finds exactly these
matches: `Regex.isFoundIn_iff` and `Regex.matchesAll_iff`.

A repetition without a limit ends after as many rounds as the text has places, since every round
but the last one reaches a place for the first time.
-/

namespace MessageRouter

namespace Regex

/-! ## Matches -/

/-- So many rounds from place to place, one after another. -/
def Rounds (step : Nat → Nat → Prop) : Nat → Nat → Nat → Prop
  | 0, i, j => i = j
  | n + 1, i, j => ∃ m, step i m ∧ Rounds step n m j

mutual

/-- The expression matches what stands between two places of a text.  A repetition whose limit is
below the number of rounds that it needs has just these. -/
def Spans (cs : List Char) : Regex → Nat → Nat → Prop
  | .empty, i, j => i = j
  | .anchor a, i, j => i = j ∧ ∃ p, (Place.all cs)[i]? = some p ∧ a.holdsAt p = true
  | .set _ s, i, j => j = i + 1 ∧ ∃ c, cs[i]? = some c ∧ s.contains c = true
  | .group _ r, i, j => Spans cs r i j
  | .repeated _ low high r, i, j =>
    ∃ n, low ≤ n ∧ (∀ limit ∈ high, n ≤ max low limit) ∧ Rounds (Spans cs r) n i j
  | .sequence rs, i, j => SpansAll cs rs i j
  | .choice rs, i, j => SpansAny cs rs i j

/-- The expressions match what stands between two places one after another. -/
def SpansAll (cs : List Char) : List Regex → Nat → Nat → Prop
  | [], i, j => i = j
  | r :: rest, i, j => ∃ m, Spans cs r i m ∧ SpansAll cs rest m j

/-- One of the expressions matches what stands between two places. -/
def SpansAny (cs : List Char) : List Regex → Nat → Nat → Prop
  | [], _, _ => False
  | r :: rest, i, j => Spans cs r i j ∨ SpansAny cs rest i j

end

/-- The expression describes a text: it matches the whole of it. -/
def Describes (r : Regex) (s : String) : Prop := r.Spans s.toList 0 s.length

end Regex

/-! ## Marks -/

/-- The places that are marked are among the first `size`. -/
def Marks.Within (size : Nat) (ms : Marks) : Prop := ∀ i, ms.testBit i = true → i < size

/-- A step over marks leads from the places that are marked to those that a relation leads to. -/
structure Moves (size : Nat) (step : Marks → Marks) (leads : Nat → Nat → Prop) : Prop where
  lt : ∀ i j, i < size → leads i j → j < size
  testBit : ∀ ms j, ms.Within size →
    ((step ms).testBit j = true ↔ ∃ i, ms.testBit i = true ∧ leads i j)

namespace Moves

open Regex (Rounds)

variable {size n count : Nat} {step : Marks → Marks} {leads : Nat → Nat → Prop}
  {ms seen fresh : Marks}

theorem within (h : Moves size step leads) (hms : ms.Within size) : (step ms).Within size := by
  intro j hj
  obtain ⟨i, hi, hij⟩ := (h.testBit ms j hms).1 hj
  exact h.lt i j (hms i hi) hij

theorem afterSteps_succ (step : Marks → Marks) (n : Nat) (ms : Marks) :
    MessageRouter.afterSteps step (n + 1) ms = MessageRouter.afterSteps step n (step ms) := by
  rw [MessageRouter.afterSteps]
  split
  next hfixed =>
    cases n with
    | zero => exact hfixed.symm
    | succ n => simp [hfixed, MessageRouter.afterSteps]
  next => rfl

/-- Exactly so many steps go so many rounds. -/
theorem afterSteps (h : Moves size step leads) (n : Nat) :
    Moves size (afterSteps step n) (Rounds leads n) := by
  induction n with
  | zero => exact ⟨by rintro i _ hi rfl; exact hi, by simp [MessageRouter.afterSteps, Rounds]⟩
  | succ n ih =>
    refine ⟨?_, fun ms j hms => ?_⟩
    · rintro i j hi ⟨m, him, hmj⟩
      exact ih.lt m j (h.lt i m hi him) hmj
    · rw [afterSteps_succ, ih.testBit _ _ (h.within hms)]
      constructor
      · rintro ⟨m, hm, hmj⟩
        obtain ⟨i, hi, him⟩ := (h.testBit ms m hms).1 hm
        exact ⟨i, hi, m, him, hmj⟩
      · rintro ⟨i, hi, m, him, hmj⟩
        exact ⟨m, (h.testBit ms m hms).2 ⟨i, hi, him⟩, hmj⟩

/-! ## Repetition -/

/-- What has been seen of a search, and which of it has been seen just now: what the rest leads to
has been seen as well. -/
structure Search (size : Nat) (leads : Nat → Nat → Prop) (seen fresh : Marks) : Prop where
  within : seen.Within size
  subset : ∀ i, fresh.testBit i = true → seen.testBit i = true
  closed : ∀ i j, seen.testBit i = true → fresh.testBit i = false → leads i j →
    seen.testBit j = true

namespace Search

theorem start (hms : ms.Within size) : Search size leads ms ms :=
  ⟨hms, fun _ h => h, fun i _ hi hi' _ => by simp [hi] at hi'⟩

variable (h : Moves size step leads) (hs : Search size leads seen fresh)

include h hs

theorem testBit_next {j : Nat} :
    (seen ||| step fresh).testBit j = true ↔
      seen.testBit j = true ∨ ∃ i, seen.testBit i = true ∧ leads i j := by
  have hfresh : fresh.Within size := fun i hi => hs.within i (hs.subset i hi)
  rw [Nat.testBit_or, Bool.or_eq_true, h.testBit fresh j hfresh]
  constructor
  · rintro (hj | ⟨i, hi, hij⟩)
    · exact .inl hj
    · exact .inr ⟨i, hs.subset i hi, hij⟩
  · rintro (hj | ⟨i, hi, hij⟩)
    · exact .inl hj
    · cases hnew : fresh.testBit i with
      | true => exact .inr ⟨i, hnew, hij⟩
      | false => exact .inl (hs.closed i j hi hnew hij)

/-- The search goes on with what its last step has marked for the first time. -/
theorem next : Search size leads (seen ||| step fresh) ((seen ||| step fresh) ^^^ seen) := by
  refine ⟨fun j hj => ?_, fun i hi => ?_, fun i j hi hi' hij => ?_⟩
  · rcases (testBit_next h hs).1 hj with hj | ⟨i, hi, hij⟩
    · exact hs.within j hj
    · exact h.lt i j (hs.within i hi) hij
  · rw [Nat.testBit_xor] at hi
    cases hall : (seen ||| step fresh).testBit i with
    | true => rfl
    | false =>
      rw [hall, Bool.false_xor] at hi
      rw [Nat.testBit_or, hi, Bool.true_or] at hall
      cases hall
  · have hseen : seen.testBit i = true := by simpa [Nat.testBit_xor, hi] using hi'
    exact (testBit_next h hs).2 (.inr ⟨i, hseen, hij⟩)

end Search

theorem mem_of_rounds {i j : Nat} (hclosed : ∀ i j, seen.testBit i = true → leads i j →
    seen.testBit j = true) (hi : seen.testBit i = true) (hij : Rounds leads n i j) :
    seen.testBit j = true := by
  induction n generalizing i with
  | zero => exact hij ▸ hi
  | succ n ih =>
    obtain ⟨m, him, hmj⟩ := hij
    exact ih (hclosed i m hi him) hmj

/-- A search that marks nothing new has seen all that there is to be seen. -/
theorem Search.closed_of_same (h : Moves size step leads) (hs : Search size leads seen fresh)
    (hsame : seen ||| step fresh = seen) (i j : Nat) (hi : seen.testBit i = true)
    (hij : leads i j) : seen.testBit j = true := by
  rw [← hsame]
  exact (hs.testBit_next h).2 (.inr ⟨i, hi, hij⟩)

/-- At most so many steps go at most so many rounds. -/
theorem testBit_withinSteps (h : Moves size step leads) (hs : Search size leads seen fresh)
    {j : Nat} :
    (withinSteps step count seen fresh).testBit j = true ↔
      ∃ n ≤ count, ∃ i, seen.testBit i = true ∧ Rounds leads n i j := by
  induction count generalizing seen fresh with
  | zero => simp [withinSteps, Rounds]
  | succ count ih =>
    rw [withinSteps]
    split
    next hsame =>
      refine ⟨fun hj => ⟨0, Nat.zero_le _, j, hj, rfl⟩, ?_⟩
      rintro ⟨n, -, i, hi, hij⟩
      exact mem_of_rounds (hs.closed_of_same h hsame) hi hij
    next =>
      rw [ih (hs.next h)]
      constructor
      · rintro ⟨n, hn, m, hm, hmj⟩
        rcases (hs.testBit_next h).1 hm with hm | ⟨i, hi, him⟩
        · exact ⟨n, by omega, m, hm, hmj⟩
        · exact ⟨n + 1, by omega, i, hi, m, him, hmj⟩
      · rintro ⟨n, hn, i, hi, hij⟩
        cases n with
        | zero => exact ⟨0, Nat.zero_le _, i, (hs.testBit_next h).2 (.inl hi), hij⟩
        | succ n =>
          obtain ⟨m, him, hmj⟩ := hij
          exact ⟨n, by omega, m, (hs.testBit_next h).2 (.inr ⟨i, hi, him⟩), hmj⟩

/-- How many places are marked. -/
def number (size : Nat) (ms : Marks) : Nat := {i ∈ Finset.range size | ms.testBit i = true}.card

theorem number_lt (h : Moves size step leads) (hs : Search size leads seen fresh)
    (hnew : seen ||| step fresh ≠ seen) : number size seen < number size (seen ||| step fresh) := by
  obtain ⟨j, hj, hj'⟩ : ∃ j, (seen ||| step fresh).testBit j = true ∧ seen.testBit j = false := by
    by_contra hall
    refine hnew (Nat.eq_of_testBit_eq fun j => ?_)
    cases hj : seen.testBit j with
    | true => simp [Nat.testBit_or, hj]
    | false => simpa using fun hj' => hall ⟨j, hj', hj⟩
  refine Finset.card_lt_card (Finset.ssubset_iff_of_subset ?_ |>.2 ⟨j, ?_, ?_⟩)
  · intro i hi
    simp only [Finset.mem_filter] at hi ⊢
    exact ⟨hi.1, by simp [Nat.testBit_or, hi.2]⟩
  · exact Finset.mem_filter.2 ⟨Finset.mem_range.2 ((hs.next h).within j hj), hj⟩
  · simp [hj']

/-- After as many steps as there are places left nothing is new. -/
theorem withinSteps_closed (h : Moves size step leads) (hs : Search size leads seen fresh)
    (hcount : size ≤ count + number size seen) (i j : Nat)
    (hi : (withinSteps step count seen fresh).testBit i = true) (hij : leads i j) :
    (withinSteps step count seen fresh).testBit j = true := by
  induction count generalizing seen fresh with
  | zero =>
    have hfull : {i ∈ Finset.range size | seen.testBit i = true} = Finset.range size :=
      Finset.eq_of_subset_of_card_le (Finset.filter_subset _ _)
        (by rwa [Finset.card_range, ← Nat.zero_add (Finset.card _)])
    have hj := h.lt i j (hs.within i hi) hij
    rw [← Finset.mem_range, ← hfull, Finset.mem_filter] at hj
    exact hj.2
  | succ count ih =>
    rw [withinSteps] at hi ⊢
    split
    next hsame =>
      rw [if_pos hsame] at hi
      exact hs.closed_of_same h hsame i j hi hij
    next hnew =>
      rw [if_neg hnew] at hi
      have := number_lt h hs hnew
      exact ih (hs.next h) (by omega) hi

theorem rounds_add {low i j : Nat} :
    Rounds leads (low + n) i j ↔ ∃ m, Rounds leads low i m ∧ Rounds leads n m j := by
  induction low generalizing i with
  | zero => simp [Rounds]
  | succ low ih =>
    rw [Nat.succ_add]
    constructor
    · rintro ⟨k, hik, hkj⟩
      obtain ⟨m, hkm, hmj⟩ := ih.1 hkj
      exact ⟨m, ⟨k, hik, hkm⟩, hmj⟩
    · rintro ⟨m, ⟨k, hik, hkm⟩, hmj⟩
      exact ⟨k, hik, ih.2 ⟨m, hkm, hmj⟩⟩

/-- A search as long as the limit allows, or as there are places, goes all the rounds there are. -/
theorem testBit_withinSteps_limit (h : Moves size step leads) (hms : ms.Within size)
    (limit : Option Nat) {j : Nat} :
    (withinSteps step (limit.getD size) ms ms).testBit j = true ↔
      ∃ n, (∀ most ∈ limit, n ≤ most) ∧ ∃ i, ms.testBit i = true ∧ Rounds leads n i j := by
  have hs : Search size leads ms ms := Search.start hms
  cases limit with
  | some most => simpa using testBit_withinSteps h hs
  | none =>
    refine ⟨fun hj => ?_, ?_⟩
    · obtain ⟨n, -, hn⟩ := (testBit_withinSteps h hs).1 hj
      exact ⟨n, by simp, hn⟩
    · rintro ⟨n, -, i, hi, hij⟩
      refine mem_of_rounds (withinSteps_closed h hs (by simp)) ?_ hij
      exact (testBit_withinSteps h hs).2 ⟨0, Nat.zero_le _, i, hi, rfl⟩

theorem repeated (h : Moves size step leads) (low : Nat) (high : Option Nat) :
    Moves size
      (fun ms => withinSteps step ((high.map (· - low)).getD size)
        (MessageRouter.afterSteps step low ms) (MessageRouter.afterSteps step low ms))
      fun i j => ∃ n, low ≤ n ∧ (∀ limit ∈ high, n ≤ max low limit) ∧ Rounds leads n i j := by
  refine ⟨?_, fun ms j hms => ?_⟩
  · rintro i j hi ⟨n, -, -, hij⟩
    exact (h.afterSteps n).lt i j hi hij
  have hfirst := h.afterSteps low
  rw [testBit_withinSteps_limit h (hfirst.within hms)]
  constructor
  · rintro ⟨n, hn, m, hm, hmj⟩
    obtain ⟨i, hi, him⟩ := (hfirst.testBit ms m hms).1 hm
    refine ⟨i, hi, low + n, by omega, fun limit hlimit => ?_, rounds_add.2 ⟨m, him, hmj⟩⟩
    have := hn (limit - low) (by simp [Option.mem_def.1 hlimit])
    omega
  · rintro ⟨i, hi, n, hlow, hn, hij⟩
    obtain ⟨more, rfl⟩ := Nat.exists_eq_add_of_le hlow
    obtain ⟨m, him, hmj⟩ := rounds_add.1 hij
    refine ⟨more, fun most hmost => ?_, m, (hfirst.testBit ms m hms).2 ⟨i, hi, him⟩, hmj⟩
    obtain ⟨limit, hlimit, rfl⟩ := Option.mem_map.1 hmost
    have := hn limit hlimit
    omega

end Moves

/-! ## Expressions -/

namespace Regex

variable {cs : List Char} {r : Regex}

mutual

/-- The ways of an expression lead from marks to marks as its matches lead from place to place. -/
theorem moves_route (cs : List Char) : (r : Regex) →
    Moves (cs.length + 1) (r.route (Place.all cs) (Letters.ofText 0 cs)).ends (r.Spans cs)
  | .empty => ⟨by rintro i _ hi rfl; exact hi, by simp [route, Route.ends, Route.endsAll, Spans]⟩
  | .anchor a => by
    refine ⟨by rintro i _ hi ⟨rfl, -⟩; exact hi, fun ms j _ => ?_⟩
    simp [route, Route.ends, Spans, Nat.testBit_and, Marks.testBit_ofPlaces, Option.any_eq_true]
  | .set _ s => by
    refine ⟨?_, fun ms j _ => ?_⟩
    · rintro i _ hi ⟨rfl, c, hc, -⟩
      have := (List.getElem?_eq_some_iff.1 hc).1
      omega
    · rw [route, Route.ends]
      cases j with
      | zero => simp [Spans]
      | succ j =>
        simp [Spans, Nat.testBit_and, Letters.testBit_placesOf_ofText, Option.any_eq_true]
  | .group _ r => moves_route cs r
  | .repeated _ low high r => by
    have := (moves_route cs r).repeated low high
    cases high <;> simpa [route, Route.ends, Spans] using this
  | .sequence rs => moves_routes cs rs
  | .choice rs => moves_routes_any cs rs

theorem moves_routes (cs : List Char) : (rs : List Regex) →
    Moves (cs.length + 1) (Route.endsAll (routes (Place.all cs) (Letters.ofText 0 cs) rs))
      (SpansAll cs rs)
  | [] => ⟨by rintro i _ hi rfl; exact hi, by simp [routes, Route.endsAll, SpansAll]⟩
  | r :: rest => by
    have hr := moves_route cs r
    have hrest := moves_routes cs rest
    refine ⟨?_, fun ms j hms => ?_⟩
    · rintro i j hi ⟨m, him, hmj⟩
      exact hrest.lt m j (hr.lt i m hi him) hmj
    · rw [routes, Route.endsAll, hrest.testBit _ _ (hr.within hms)]
      constructor
      · rintro ⟨m, hm, hmj⟩
        obtain ⟨i, hi, him⟩ := (hr.testBit ms m hms).1 hm
        exact ⟨i, hi, m, him, hmj⟩
      · rintro ⟨i, hi, m, him, hmj⟩
        exact ⟨m, (hr.testBit ms m hms).2 ⟨i, hi, him⟩, hmj⟩

theorem moves_routes_any (cs : List Char) : (rs : List Regex) →
    Moves (cs.length + 1) (Route.endsAny (routes (Place.all cs) (Letters.ofText 0 cs) rs))
      (SpansAny cs rs)
  | [] => ⟨by rintro i _ hi ⟨⟩, by simp [routes, Route.endsAny, SpansAny]⟩
  | r :: rest => by
    have hr := moves_route cs r
    have hrest := moves_routes_any cs rest
    refine ⟨?_, fun ms j hms => ?_⟩
    · rintro i j hi (hij | hij)
      · exact hr.lt i j hi hij
      · exact hrest.lt i j hi hij
    · rw [routes, Route.endsAny, Nat.testBit_or, Bool.or_eq_true, hr.testBit ms j hms,
        hrest.testBit ms j hms]
      simp only [SpansAny, and_or_left, exists_or]

end

/-- There is a match from some place of the text. -/
theorem isFoundIn_iff (r : Regex) (s : String) :
    r.isFoundIn s = true ↔ ∃ i j, i ≤ s.length ∧ r.Spans s.toList i j := by
  have hall : ∀ i, Nat.testBit (1 <<< (s.toList.length + 1) - 1) i = true ↔ i ≤ s.length := by
    intro i
    rw [Nat.one_shiftLeft, Nat.testBit_two_pow_sub_one, decide_eq_true_iff, Nat.lt_succ_iff,
      String.length_toList]
  have hends := fun j => (moves_route s.toList r).testBit
    (1 <<< (s.toList.length + 1) - 1) j fun i hi => by
      rw [String.length_toList]
      exact Nat.lt_succ_of_le ((hall i).1 hi)
  simp only [hall] at hends
  rw [isFoundIn, bne_iff_ne]
  constructor
  · intro hne
    obtain ⟨j, hj⟩ := Nat.exists_testBit_of_ne_zero hne
    obtain ⟨i, hi, hij⟩ := (hends j).1 hj
    exact ⟨i, j, hi, hij⟩
  · rintro ⟨i, j, hi, hij⟩ hzero
    have hj := (hends j).2 ⟨i, hi, hij⟩
    rw [endsIn] at hzero
    simp [hzero] at hj

/-- The whole text is a match. -/
theorem matchesAll_iff (r : Regex) (s : String) : r.matchesAll s = true ↔ r.Describes s := by
  have hstart : ∀ i, Nat.testBit 1 i = true ↔ i = 0 := fun i =>
    Nat.testBit_one_eq_true_iff_self_eq_zero
  rw [matchesAll, endsIn, (moves_route s.toList r).testBit 1 _ fun i hi => by
    rw [(hstart i).1 hi]; exact Nat.succ_pos _]
  simp [hstart, Describes, String.length_toList]

instance (r : Regex) (s : String) : Decidable (r.Describes s) :=
  decidable_of_iff _ (r.matchesAll_iff s)

/-! ## Anchors -/

/-- A place has the characters before and after it on its sides. -/
theorem getElem?_allAfter (before : Option Char) (cs : List Char) (i : Nat) :
    (Place.allAfter before cs)[i]? =
      if i ≤ cs.length then some ⟨if i = 0 then before else cs[i - 1]?, cs[i]?⟩ else none := by
  induction cs generalizing before i with
  | nil => cases i <;> simp [Place.allAfter]
  | cons c cs ih =>
    cases i with
    | zero => simp [Place.allAfter]
    | succ i =>
      rw [Place.allAfter, List.getElem?_cons_succ, ih]
      cases i <;> simp

theorem spans_textStart {i j : Nat} : (anchor .textStart).Spans cs i j ↔ i = 0 ∧ j = 0 := by
  simp only [Spans, Place.all, getElem?_allAfter]
  constructor
  · rintro ⟨rfl, p, hp, ha⟩
    split at hp
    · cases hp
      cases i with
      | zero => exact ⟨rfl, rfl⟩
      | succ i =>
        have hlt : i < cs.length := by omega
        simp [Anchor.holdsAt, hlt] at ha
    · cases hp
  · rintro ⟨rfl, rfl⟩
    exact ⟨rfl, _, if_pos (Nat.zero_le _), rfl⟩

theorem spans_textEnd {i j : Nat} :
    (anchor .textEnd).Spans cs i j ↔ i = cs.length ∧ j = cs.length := by
  simp only [Spans, Place.all, getElem?_allAfter]
  constructor
  · rintro ⟨rfl, p, hp, ha⟩
    split at hp
    · cases hp
      simp only [Anchor.holdsAt, Option.isNone_iff_eq_none, List.getElem?_eq_none_iff] at ha
      omega
    · cases hp
  · rintro ⟨rfl, rfl⟩
    exact ⟨rfl, _, if_pos le_rfl, by simp [Anchor.holdsAt]⟩

/-- An expression between anchors for the start and the end of a text is found where it describes
the whole text. -/
theorem isFoundIn_anchored (r : Regex) (s : String) :
    (sequence [.anchor .textStart, r, .anchor .textEnd]).isFoundIn s = true ↔ r.Describes s := by
  rw [isFoundIn_iff]
  constructor
  · rintro ⟨i, j, -, k, hstart, m, hm, l, hend, -⟩
    obtain ⟨-, rfl⟩ := spans_textStart.1 hstart
    obtain ⟨rfl, -⟩ := spans_textEnd.1 hend
    rwa [String.length_toList] at hm
  · intro h
    rw [Describes, ← String.length_toList] at h
    exact ⟨0, _, Nat.zero_le _, 0, spans_textStart.2 ⟨rfl, rfl⟩, _, h, _,
      spans_textEnd.2 ⟨rfl, rfl⟩, rfl⟩

end Regex

end MessageRouter
