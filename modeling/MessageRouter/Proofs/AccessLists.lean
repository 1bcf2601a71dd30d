import Mathlib.Data.List.Induction
import Mathlib.Data.Set.Basic
import MessageRouter.Authorization.Basic

/-!
# Access lists

The rules in force are kept in order and with their patterns compiled, and an access list is
remembered once it has been asked for.  None of this shows in an answer: an access list is the
fold of the entries that stand, by rank and by age within a rank, over plain sets of
principals (`Authorization.answers_standing`).  This holds for any way to write patterns.

What carries the proof over the requests is `Authorization.Represents`, which ties the rules in
force and every remembered list to the entries that stand.
-/

namespace MessageRouter

/-! ## What a rule says -/

/-- The members of a set of principals. -/
def PrincipalSet.members (s : PrincipalSet) : Set Principal := {p | s.contains p = true}

section

variable {M : Matcher}

namespace NamePattern

/-- A pattern that can be used: `*`, or one that can be compiled. -/
def Valid (M : Matcher) (pattern : String) : Prop :=
  pattern = "*" ∨ (M.compile? pattern).isSome = true

/-- The name fits the pattern. -/
def fits (M : Matcher) (pattern name : String) : Bool :=
  pattern = "*" || (M.compile? pattern).any (M.accepts · name)

instance (pattern : String) : Decidable (Valid M pattern) := inferInstanceAs (Decidable (_ ∨ _))

theorem accepts_of_compile {pattern : String} {c : NamePattern M} (h : compile M pattern = .ok c)
    (name : String) : c.accepts name = fits M pattern name := by
  unfold compile at h
  split at h
  case isTrue hany =>
    cases h
    simp [accepts, fits, hany]
  case isFalse hany =>
    cases hc : M.compile? pattern with
    | none => simp [hc] at h
    | some compiled =>
      simp only [hc, Except.ok.injEq] at h
      simp [← h, accepts, fits, hany, hc]

theorem isOk_compile (pattern : String) : (compile M pattern).isOk = true ↔ Valid M pattern := by
  unfold compile Valid
  by_cases hany : pattern = "*"
  · simp [hany, Except.isOk, Except.toBool]
  · cases hc : M.compile? pattern <;> simp [hany, Except.isOk, Except.toBool]

end NamePattern

namespace OperationPattern

/-- The two patterns of an operation can be used; no namespace needs no pattern. -/
def Valid (M : Matcher) (pattern : QualifiedName) : Prop :=
  (pattern.space = "" ∨ NamePattern.Valid M pattern.space) ∧ NamePattern.Valid M pattern.name

/-- Both parts of the operation's name fit; without a namespace the rule is for every one. -/
def fits (M : Matcher) (pattern operation : QualifiedName) : Bool :=
  (pattern.space = "" || NamePattern.fits M pattern.space operation.space) &&
    NamePattern.fits M pattern.name operation.name

instance (pattern : QualifiedName) : Decidable (Valid M pattern) :=
  inferInstanceAs (Decidable (_ ∧ _))

theorem accepts_of_compile {pattern : QualifiedName} {c : OperationPattern M}
    (h : compile M pattern = .ok c) (operation : QualifiedName) :
    c.accepts operation = fits M pattern operation := by
  unfold compile at h
  by_cases hs : pattern.space = ""
  · cases hn : NamePattern.compile M pattern.name with
    | error e => simp [hs, hn, bind, Except.bind] at h
    | ok name =>
      simp only [hs, hn, bind, Except.bind, pure, Except.pure, if_true, Except.ok.injEq] at h
      rw [← h, accepts, fits, NamePattern.accepts_of_compile hn]
      simp [hs, NamePattern.accepts]
  · cases hp : NamePattern.compile M pattern.space with
    | error e => simp [hs, hp, bind, Except.bind] at h
    | ok space =>
      cases hn : NamePattern.compile M pattern.name with
      | error e => simp [hs, hp, hn, bind, Except.bind] at h
      | ok name =>
        simp only [hs, hp, hn, bind, Except.bind, pure, Except.pure, if_false,
          Except.ok.injEq] at h
        simp [← h, accepts, fits, hs, NamePattern.accepts_of_compile hp,
          NamePattern.accepts_of_compile hn]

theorem isOk_compile (pattern : QualifiedName) :
    (compile M pattern).isOk = true ↔ Valid M pattern := by
  have hspace := NamePattern.isOk_compile (M := M) pattern.space
  have hname := NamePattern.isOk_compile (M := M) pattern.name
  unfold compile Valid
  by_cases hs : pattern.space = "" <;> cases hp : NamePattern.compile M pattern.space <;>
    cases hn : NamePattern.compile M pattern.name <;>
    simp_all [bind, Except.bind, pure, Except.pure, Except.isOk, Except.toBool]

end OperationPattern

namespace AccessRule

/-- All patterns of the rule can be used. -/
def Valid (M : Matcher) (rule : AccessRule) : Prop :=
  NamePattern.Valid M rule.endpoint ∧ ∀ pattern ∈ rule.operation, OperationPattern.Valid M pattern

/-- The rule is about the operation of an endpoint; a rule or a question without an operation is
about all of them. -/
def isAbout (M : Matcher) (rule : AccessRule) (key : AccessKey) : Bool :=
  NamePattern.fits M rule.endpoint key.1 &&
  match rule.operation, key.2 with
  | some pattern, some operation => OperationPattern.fits M pattern operation
  | _, _ => true

/-- What the rule makes of the principals that were allowed before it. -/
def allow (rule : AccessRule) (allowed : Set Principal) : Set Principal :=
  match rule.kind with
  | .add => allowed ∪ rule.principals.members
  | .set => rule.principals.members
  | .remove => allowed \ rule.principals.members

instance (rule : AccessRule) : Decidable (rule.Valid M) := inferInstanceAs (Decidable (_ ∧ _))

/-- A rule allows what its update of an access list does. -/
theorem members_update (rule : AccessRule) (list : PrincipalSet) :
    (rule.kind.update rule.principals list).members = rule.allow list.members := by
  ext p
  cases hk : rule.kind <;> simp [PrincipalSet.members, RuleKind.update, allow, hk]

end AccessRule

namespace CompiledRule

variable {rule : AccessRule} {c : CompiledRule M}

theorem compile_ok (h : compile M rule = .ok c) :
    NamePattern.compile M rule.endpoint = .ok c.endpoint ∧
      rule.operation.mapM (OperationPattern.compile M) = .ok c.operation ∧ c.rule = rule := by
  unfold compile at h
  cases he : NamePattern.compile M rule.endpoint with
  | error e => simp [he, bind, Except.bind] at h
  | ok endpoint =>
    cases ho : rule.operation.mapM (OperationPattern.compile M) with
    | error e => simp [he, ho, bind, Except.bind] at h
    | ok operation =>
      simp only [he, ho, bind, Except.bind, pure, Except.pure, Except.ok.injEq] at h
      subst h
      exact ⟨rfl, rfl, rfl⟩

theorem applies_of_compile (h : compile M rule = .ok c) (key : AccessKey) :
    c.applies key.1 key.2 = rule.isAbout M key := by
  obtain ⟨he, ho, -⟩ := compile_ok h
  unfold applies AccessRule.isAbout
  rw [NamePattern.accepts_of_compile he]
  cases hr : rule.operation with
  | none =>
    simp only [hr, Option.mapM_none, pure, Except.pure, Except.ok.injEq] at ho
    rw [← ho]
  | some pattern =>
    cases hp : OperationPattern.compile M pattern with
    | error e => simp [hr, hp, Except.map, Functor.map] at ho
    | ok p =>
      simp only [hr, Option.mapM_some, hp, Functor.map, Except.map, Except.ok.injEq] at ho
      rw [← ho]
      cases key.2 with
      | none => rfl
      | some operation => simp only [OperationPattern.accepts_of_compile hp]

theorem isOk_compile (rule : AccessRule) : (compile M rule).isOk = true ↔ rule.Valid M := by
  have he := NamePattern.isOk_compile (M := M) rule.endpoint
  unfold compile AccessRule.Valid
  cases hr : rule.operation with
  | none =>
    cases hc : NamePattern.compile M rule.endpoint <;>
      simp_all [bind, Except.bind, pure, Except.pure, Except.isOk, Except.toBool]
  | some pattern =>
    have ho := OperationPattern.isOk_compile (M := M) pattern
    cases hc : NamePattern.compile M rule.endpoint <;>
      cases hp : OperationPattern.compile M pattern <;>
      simp_all [bind, Except.bind, pure, Except.pure, Except.isOk, Except.toBool, Functor.map,
        Except.map]

end CompiledRule

namespace Authorization

/-! ## Entries in order -/

/-- A rule that its owner has put in force. -/
structure Entry where
  owner : String
  rule : AccessRule

namespace Entry

/-- The entries in the order in which their rules apply: by rank, and by age within a
rank. -/
def byRank (entries : List Entry) : List Entry :=
  entries.mergeSort fun a b => a.rule.rank ≤ b.rule.rank

/-- The list has the entries by rank, and within a rank as they are. -/
structure InOrder (entries list : List Entry) : Prop where
  ascending : list.Pairwise fun a b => a.rule.rank ≤ b.rule.rank
  byAge : ∀ rank, list.filter (·.rule.rank = rank) = entries.filter (·.rule.rank = rank)

theorem inOrder_byRank (entries : List Entry) : InOrder entries (byRank entries) := by
  have trans : ∀ a b c : Entry, decide (a.rule.rank ≤ b.rule.rank) = true →
      decide (b.rule.rank ≤ c.rule.rank) = true → decide (a.rule.rank ≤ c.rule.rank) = true := by
    simp only [decide_eq_true_eq]
    omega
  have total : ∀ a b : Entry,
      (decide (a.rule.rank ≤ b.rule.rank) || decide (b.rule.rank ≤ a.rule.rank)) = true := by
    simp only [Bool.or_eq_true, decide_eq_true_eq]
    omega
  refine ⟨(List.pairwise_mergeSort trans total entries).imp of_decide_eq_true, fun rank => ?_⟩
  -- the entries of one rank are in order as they are, so the sort keeps them so
  have same : (entries.filter (·.rule.rank = rank)).Pairwise
      fun a b => decide (a.rule.rank ≤ b.rule.rank) = true := by
    refine List.pairwise_of_forall_mem_list fun a ha b hb => decide_eq_true ?_
    simp only [List.mem_filter, decide_eq_true_eq] at ha hb
    omega
  have sub := (List.sublist_mergeSort trans total same List.filter_sublist).filter
    (·.rule.rank = rank)
  rw [List.filter_filter] at sub
  simp only [Bool.and_self] at sub
  exact (sub.eq_of_length
    ((List.mergeSort_perm entries _).filter _).length_eq.symm).symm

variable {entries list list' : List Entry}

/-- There is only one order by rank and by age. -/
theorem InOrder.unique (h : InOrder entries list) (h' : InOrder entries list') : list = list' := by
  obtain ⟨ascending, byAge⟩ := h
  obtain ⟨ascending', byAge'⟩ := h'
  have same : ∀ rank, list.filter (·.rule.rank = rank) = list'.filter (·.rule.rank = rank) :=
    fun rank => (byAge rank).trans (byAge' rank).symm
  clear byAge byAge'
  -- a head is in the other list, whose head then has no higher rank
  have le : ∀ {a b : Entry} {l l' : List Entry},
      (∀ c ∈ l', b.rule.rank ≤ c.rule.rank) →
      (a :: l).filter (·.rule.rank = a.rule.rank) =
        (b :: l').filter (·.rule.rank = a.rule.rank) → b.rule.rank ≤ a.rule.rank := by
    intro a b l l' hl heq
    have ha : a ∈ (b :: l').filter (·.rule.rank = a.rule.rank) := by
      rw [← heq]
      simp
    rcases List.mem_cons.1 (List.mem_filter.1 ha).1 with rfl | hmem
    · exact le_rfl
    · exact hl a hmem
  induction list generalizing list' with
  | nil =>
    cases list' with
    | nil => rfl
    | cons b l' => simpa using same b.rule.rank
  | cons a l ih =>
    cases list' with
    | nil => simpa using same a.rule.rank
    | cons b l' =>
      rw [List.pairwise_cons] at ascending ascending'
      have hrank : a.rule.rank = b.rule.rank :=
        le_antisymm (le ascending.1 (same _).symm) (le ascending'.1 (same _))
      have hab : a = b := by
        have := same a.rule.rank
        simp only [List.filter_cons, decide_true, if_true, hrank] at this
        exact (List.cons.inj this).1
      subst hab
      congr 1
      refine ih ascending.2 ascending'.2 fun rank => ?_
      have := same rank
      simp only [List.filter_cons] at this
      split at this
      · exact (List.cons.inj this).2
      · exact this

theorem InOrder.filter (h : InOrder entries list) (p : Entry → Bool) :
    InOrder (entries.filter p) (list.filter p) := by
  refine ⟨h.ascending.filter p, fun rank => ?_⟩
  have swap : ∀ l : List Entry, (l.filter p).filter (·.rule.rank = rank) =
      (l.filter (·.rule.rank = rank)).filter p := by
    intro l
    simp only [List.filter_filter, Bool.and_comm]
  rw [swap, swap, h.byAge]

/-- The principals that rules allow, each applied to what those before it allow. -/
def allowed (M : Matcher) (entries : List Entry) (key : AccessKey) : Set Principal :=
  entries.foldl
    (fun allowed entry => if entry.rule.isAbout M key then entry.rule.allow allowed else allowed) ∅

end Entry

end Authorization

/-! ## The rules in force -/

namespace Grant

def entry (g : Grant M) : Authorization.Entry := ⟨g.owner, g.compiled.rule⟩

/-- The rule is held with its own patterns compiled. -/
def Compiled (g : Grant M) : Prop := CompiledRule.compile M g.compiled.rule = .ok g.compiled

end Grant

namespace Authorization

variable {g : Grant M} {gs : List (Grant M)} {entries : List Entry} {a : Authorization M}

theorem mem_insertGrant {h : Grant M} : h ∈ insertGrant g gs ↔ h = g ∨ h ∈ gs := by
  induction gs with
  | nil => simp [insertGrant]
  | cons k rest ih =>
    unfold insertGrant
    split
    · simp
    · rw [List.mem_cons, List.mem_cons, ih]
      exact or_left_comm

/-- A rule is put behind all rules of its rank. -/
theorem inOrder_insertGrant (h : Entry.InOrder entries (gs.map Grant.entry)) :
    Entry.InOrder (entries ++ [g.entry])
      ((insertGrant g gs).map Grant.entry) := by
  suffices h : ((insertGrant g gs).map Grant.entry).Pairwise
        (fun a b => a.rule.rank ≤ b.rule.rank) ∧
      ∀ rank, ((insertGrant g gs).map Grant.entry).filter (·.rule.rank = rank) =
        (gs.map Grant.entry ++ [g.entry]).filter (·.rule.rank = rank) by
    refine ⟨h.1, fun rank => ?_⟩
    rw [h.2, List.filter_append, List.filter_append, ‹Entry.InOrder _ _›.byAge]
  have ascending := h.ascending
  clear h
  induction gs with
  | nil => simp [insertGrant]
  | cons k rest ih =>
    rw [List.map_cons, List.pairwise_cons] at ascending
    unfold insertGrant
    split
    case isTrue hlt =>
      have above : ∀ b ∈ (k :: rest).map Grant.entry,
          g.compiled.rule.rank < b.rule.rank := by
        intro b hb
        rcases List.mem_cons.1 hb with rfl | hb
        · exact hlt
        · exact lt_of_lt_of_le hlt (ascending.1 b hb)
      refine ⟨?_, fun rank => ?_⟩
      · rw [List.map_cons, List.pairwise_cons]
        exact ⟨fun b hb => (above b hb).le, List.pairwise_cons.2 ascending⟩
      · by_cases hr : g.compiled.rule.rank = rank
        · -- nothing of this rank is there, so behind all of it is in front
          have none : ((k :: rest).map Grant.entry).filter (·.rule.rank = rank) = [] := by
            refine List.filter_eq_nil_iff.2 fun b hb => ?_
            have := above b hb
            simp only [decide_eq_true_eq]
            omega
          rw [List.map_cons, List.filter_cons, List.filter_append, none]
          simp [Grant.entry, hr]
        · rw [List.map_cons, List.filter_cons, List.filter_append]
          simp [Grant.entry, hr]
    case isFalse hge =>
      obtain ⟨hasc, hfilter⟩ := ih ascending.2
      refine ⟨?_, fun rank => ?_⟩
      · rw [List.map_cons, List.pairwise_cons]
        refine ⟨fun b hb => ?_, hasc⟩
        obtain ⟨k', hk', rfl⟩ := List.mem_map.1 hb
        rcases mem_insertGrant.1 hk' with rfl | hk'
        · exact not_lt.1 hge
        · exact ascending.1 _ (List.mem_map_of_mem hk')
      · simp only [List.map_cons, List.cons_append, List.filter_cons, hfilter rank]

/-- The compiled rules build the list that the rules allow. -/
theorem members_fold (h : ∀ g ∈ gs, g.Compiled) (key : AccessKey) :
    (fold (gs.map (·.compiled)) key).members =
      Entry.allowed M (gs.map Grant.entry) key := by
  suffices ∀ (list : PrincipalSet) (allowed : Set Principal), list.members = allowed →
      (((gs.map (·.compiled)).filter (·.applies key.1 key.2)).foldl
          (fun list c => c.rule.kind.update c.rule.principals list) list).members =
        (gs.map Grant.entry).foldl (fun allowed entry =>
          if entry.rule.isAbout M key then entry.rule.allow allowed else allowed) allowed from
    this ∅ ∅ (by ext p; simp [PrincipalSet.members])
  induction gs with
  | nil => exact fun list allowed hlist => hlist
  | cons k rest ih =>
    intro list allowed hlist
    have happ : k.compiled.applies key.1 key.2 = k.entry.rule.isAbout M key :=
      CompiledRule.applies_of_compile (h k (by simp)) key
    rw [List.map_cons, List.map_cons, List.filter_cons, List.foldl_cons, happ]
    split
    · rw [List.foldl_cons]
      refine ih (fun g hg => h g (by simp [hg])) _ _ ?_
      rw [AccessRule.members_update, hlist]
      rfl
    · exact ih (fun g hg => h g (by simp [hg])) _ _ hlist

/-! ## Requests -/

/-- What can be asked of the rules in force. -/
inductive Request where
  | register (owner : String) (rule : AccessRule)
  | unregister (owner : String)
  | accessList (key : AccessKey)
  | isAuthorized (key : AccessKey) (subject : Option PrincipalSet)

inductive Response where
  | registered (refusal : Option RouterError)
  | unregistered (found : Bool)
  | accessList (list : PrincipalSet)
  | isAuthorized (allowed : Bool)

/-- The response to a request, and the rules in force after it. -/
def answer (a : Authorization M) : Request → Response × Authorization M
  | .register owner rule =>
    match a.register owner rule with
    | .ok a' => (.registered none, a')
    | .error err => (.registered (some err), a)
  | .unregister owner => (.unregistered (a.unregister owner).1, (a.unregister owner).2)
  | .accessList key => (.accessList (a.accessList key).1, (a.accessList key).2)
  | .isAuthorized key subject =>
    (.isAuthorized (a.isAuthorized key subject).1, (a.isAuthorized key subject).2)

theorem answer_register_ok {owner : String} {rule : AccessRule} {a' : Authorization M}
    (h : a.register owner rule = .ok a') :
    a.answer (.register owner rule) = (.registered none, a') := by
  simp only [answer, h]

theorem answer_register_error {owner : String} {rule : AccessRule} {err : RouterError}
    (h : a.register owner rule = .error err) :
    a.answer (.register owner rule) = (.registered (some err), a) := by
  simp only [answer, h]

/-- The rules in force after requests. -/
def after (M : Matcher) (requests : List Request) : Authorization M :=
  requests.foldl (fun a request => (a.answer request).2) {}

/-- The entries that stand after a request. -/
def Request.stand (M : Matcher) (entries : List Entry) : Request → List Entry
  | .register owner rule => if rule.Valid M then entries ++ [⟨owner, rule⟩] else entries
  | .unregister owner => entries.filter (·.owner ≠ owner)
  | .accessList _ | .isAuthorized .. => entries

/-- The entries that stand after requests, the oldest first. -/
def standing (M : Matcher) (requests : List Request) : List Entry :=
  requests.foldl (Request.stand M) []

/-- The response is what the entries that stand call for. -/
def Request.Answered (M : Matcher) (entries : List Entry) : Request → Response → Prop
  | .register _ rule, .registered refusal => refusal = none ↔ rule.Valid M
  | .unregister owner, .unregistered found =>
    found = true ↔ ∃ entry ∈ entries, entry.owner = owner
  | .accessList key, .accessList list =>
    list.members = Entry.allowed M (Entry.byRank entries) key
  | .isAuthorized key subject, .isAuthorized allowed =>
    let list := Entry.allowed M (Entry.byRank entries) key
    allowed = true ↔ Principal.any ∈ list ∨ ∃ s ∈ subject, (s.members ∩ list).Nonempty
  | _, _ => False

/-- The rules in force are the entries that stand, and what is remembered is what they
build. -/
structure Represents (a : Authorization M) (entries : List Entry) : Prop where
  inOrder : Entry.InOrder entries (a.grants.map Grant.entry)
  compiled : ∀ g ∈ a.grants, g.Compiled
  remembered : ∀ {key list}, a.remembered.lookup key = some list →
    list = fold (a.grants.map (·.compiled)) key

theorem Represents.nil : Represents (M := M) {} [] :=
  { inOrder := ⟨List.Pairwise.nil, fun _ => rfl⟩
    compiled := fun _ hg => nomatch hg
    remembered := fun h => nomatch h }

namespace Represents

theorem accessList_fst (h : Represents a entries) (key : AccessKey) :
    (a.accessList key).1 = fold (a.grants.map (·.compiled)) key := by
  unfold accessList
  cases hl : a.remembered.lookup key with
  | none => rfl
  | some list => exact h.remembered hl

/-- A remembered list is the one that would be built again. -/
theorem accessList_snd (h : Represents a entries) (key : AccessKey) :
    Represents (a.accessList key).2 entries := by
  unfold accessList
  cases hl : a.remembered.lookup key with
  | some list => exact h
  | none =>
    refine ⟨h.inOrder, h.compiled, fun {key' list} hlook => ?_⟩
    rw [List.lookup_cons] at hlook
    split at hlook
    case h_1 heq =>
      cases hlook
      rw [eq_of_beq heq]
    case h_2 => exact h.remembered hlook

theorem members_accessList (h : Represents a entries) (key : AccessKey) :
    (a.accessList key).1.members = Entry.allowed M (Entry.byRank entries) key := by
  rw [h.accessList_fst, members_fold h.compiled,
    h.inOrder.unique (Entry.inOrder_byRank entries)]

theorem register_ok {owner : String} {rule : AccessRule} {a' : Authorization M}
    (h : Represents a entries) (hreg : a.register owner rule = .ok a') :
    rule.Valid M ∧ Represents a' (entries ++ [⟨owner, rule⟩]) := by
  unfold register at hreg
  cases hc : CompiledRule.compile M rule with
  | error e => simp [hc, bind, Except.bind] at hreg
  | ok c =>
    simp only [hc, bind, Except.bind, pure, Except.pure, Except.ok.injEq] at hreg
    obtain ⟨-, -, hrule⟩ := CompiledRule.compile_ok hc
    subst hreg
    refine ⟨(CompiledRule.isOk_compile rule).1 (by simp [hc, Except.isOk, Except.toBool]), ?_,
      fun g hg => ?_, fun h => nomatch h⟩
    · have : (⟨owner, rule⟩ : Entry) = Grant.entry ⟨owner, c⟩ := by
        simp [Grant.entry, hrule]
      exact this ▸ inOrder_insertGrant h.inOrder
    · rcases mem_insertGrant.1 hg with rfl | hg
      · simpa [Grant.Compiled, hrule] using hc
      · exact h.compiled g hg

theorem register_error {owner : String} {rule : AccessRule} {err : RouterError}
    (hreg : a.register owner rule = .error err) : ¬rule.Valid M := by
  intro hvalid
  have := (CompiledRule.isOk_compile rule).2 hvalid
  unfold register at hreg
  cases hc : CompiledRule.compile M rule with
  | error e => simp [hc, Except.isOk, Except.toBool] at this
  | ok c => simp [hc, bind, Except.bind, pure, Except.pure] at hreg

/-- Taking back the rules of an owner leaves those of the others, and there were some if the
answer says so. -/
theorem unregister (h : Represents a entries) (owner : String) :
    ((a.unregister owner).1 = true ↔ ∃ entry ∈ entries, entry.owner = owner) ∧
      (a.unregister owner).2.grants = a.grants.filter (·.owner ≠ owner) ∧
      Represents (a.unregister owner).2 (entries.filter (·.owner ≠ owner)) := by
  have hmem : a.grants.any (·.owner == owner) = true ↔
      ∃ entry ∈ entries, entry.owner = owner := by
    have : ∀ entry, entry ∈ a.grants.map Grant.entry ↔ entry ∈ entries := by
      intro entry
      have := congrArg (entry ∈ ·) (h.inOrder.byAge entry.rule.rank)
      simpa using this
    simp [← this, Grant.entry]
  have hfilter : (a.grants.map Grant.entry).filter (·.owner ≠ owner) =
      (a.grants.filter (·.owner ≠ owner)).map Grant.entry := by
    rw [List.filter_map]
    rfl
  have hin := h.inOrder.filter (·.owner ≠ owner)
  rw [hfilter] at hin
  unfold Authorization.unregister
  split
  case isTrue hany =>
    have hne : (fun g : Grant M => g.owner != owner) = fun g => decide (g.owner ≠ owner) := by
      funext g
      simp [bne, beq_eq_decide]
    rw [hne]
    exact ⟨by simpa using hmem.1 hany, rfl, hin,
      fun g hg => h.compiled g (List.mem_filter.1 hg).1, fun h => nomatch h⟩
  case isFalse hany =>
    -- with no rule of the owner there is nothing to take back
    have hnone : a.grants.filter (·.owner ≠ owner) = a.grants := by
      refine List.filter_eq_self.2 fun g hg => ?_
      simp only [List.any_eq_true, beq_iff_eq, not_exists, not_and] at hany
      simpa using hany g hg
    rw [hnone] at hin
    exact ⟨by simpa using fun hreg => hany (hmem.2 hreg), hnone.symm,
      hin, h.compiled, h.remembered⟩

/-- One request keeps the rules in force and the entries that stand together. -/
theorem answer (h : Represents a entries) (request : Request) :
    Represents (a.answer request).2 (request.stand M entries) := by
  cases request with
  | register owner rule =>
    unfold Request.stand
    cases hreg : a.register owner rule with
    | ok a' =>
      obtain ⟨hvalid, hrep⟩ := h.register_ok hreg
      simpa only [answer_register_ok hreg, if_pos hvalid] using hrep
    | error err => simpa only [answer_register_error hreg, if_neg (register_error hreg)] using h
  | unregister owner => exact (h.unregister owner).2.2
  | accessList key => exact h.accessList_snd key
  | isAuthorized key subject => exact h.accessList_snd key

theorem answered (h : Represents a entries) (request : Request) :
    request.Answered M entries (a.answer request).1 := by
  cases request with
  | register owner rule =>
    cases hreg : a.register owner rule with
    | ok a' =>
      rw [answer_register_ok hreg]
      exact iff_of_true rfl (h.register_ok hreg).1
    | error err =>
      rw [answer_register_error hreg]
      exact iff_of_false (Option.some_ne_none err) (register_error hreg)
  | unregister owner => exact (h.unregister owner).1
  | accessList key => exact h.members_accessList key
  | isAuthorized key subject =>
    have hlist := h.members_accessList key
    show admits (a.accessList key).1 subject = true ↔ _
    rw [← hlist]
    unfold admits
    cases subject with
    | none => simp [PrincipalSet.members]
    | some s =>
      simp [PrincipalSet.members, PrincipalSet.intersects, Set.Nonempty, PrincipalSet.mem_toList]

end Represents

/-- The rules in force always are the entries that stand. -/
theorem represents_after (M : Matcher) (requests : List Request) :
    Represents (after M requests) (standing M requests) := by
  induction requests using List.reverseRecOn with
  | nil => exact Represents.nil
  | append_singleton earlier request ih =>
    simpa [after, standing] using ih.answer request

/-- After any requests the next one is answered as the entries that stand call for.  A
registration that is refused changes nothing, and taking back the rules of an owner leaves
exactly the rules of the others. -/
theorem answers_standing (M : Matcher) (requests : List Request)
    (request : Request) :
    request.Answered M (standing M requests) ((after M requests).answer request).1 ∧
    (∀ err, ((after M requests).answer request).1 = .registered (some err) →
      ((after M requests).answer request).2 = after M requests) ∧
    (∀ owner, request = .unregister owner →
      ((after M requests).answer request).2.grants =
        (after M requests).grants.filter (·.owner ≠ owner)) ∧
    (after M requests).rules = (Entry.byRank (standing M requests)).map (·.rule) := by
  have h := represents_after M requests
  refine ⟨h.answered request, fun err herr => ?_, ?_, ?_⟩
  · cases request with
    | register owner rule =>
      cases hreg : (after M requests).register owner rule with
      | ok a' => simp [answer_register_ok hreg] at herr
      | error err' => rw [answer_register_error hreg]
    | unregister owner => cases herr
    | accessList key => cases herr
    | isAuthorized key subject => cases herr
  · rintro owner rfl
    exact (h.unregister owner).2.1
  · rw [← h.inOrder.unique (Entry.inOrder_byRank _), List.map_map]
    rfl

end Authorization

end

end MessageRouter
