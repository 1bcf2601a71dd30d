import Mathlib.Data.Set.Insert
import MessageRouter.Proofs.AccessLists

/-!
# Decisions

An access list is built step by step, but whether one principal is on it is settled by a single
rule: the last one in order that decides about it.  A rule that replaces the list decides about
everyone, and any other one about the principals that it names: `Authorization.mem_accessList_iff`.

Seen from one principal, a rule either settles the matter anew or leaves it as it was
(`AccessRule.mem_allow`).  So nothing that comes before a deciding rule is of any account, and a
rule that does not decide is of none wherever it stands.
-/

namespace MessageRouter

theorem PrincipalSet.ext_members {s t : PrincipalSet} (h : s.members = t.members) : s = t := by
  refine Dict.ext_get? fun p => ?_
  have hp : (s.get? p).isSome = (t.get? p).isSome := Bool.eq_iff_iff.2 (Set.ext_iff.1 h p)
  cases hs : s.get? p <;> cases ht : t.get? p <;> simp_all

/-! ## Rules -/

namespace AccessRule

/-- The rule says whether the principal is allowed, whatever the rules before it say. -/
def Decides (rule : AccessRule) (p : Principal) : Prop :=
  rule.kind = .set ∨ p ∈ rule.principals.members

/-- What the rule says about a principal about which it decides. -/
def Grants (rule : AccessRule) (p : Principal) : Prop :=
  rule.kind = .add ∨ rule.kind = .set ∧ p ∈ rule.principals.members

/-- Some rule decides about the principal, and the last one that does allows it. -/
def LastGrants (rules : List AccessRule) (p : Principal) : Prop :=
  ∃ earlier rule later, rules = earlier ++ rule :: later ∧ rule.Decides p ∧
    (∀ other ∈ later, ¬other.Decides p) ∧ rule.Grants p

/-- What rules make of the principals that were allowed before them. -/
def allowAll (rules : List AccessRule) (allowed : Set Principal) : Set Principal :=
  rules.foldl (fun allowed rule => rule.allow allowed) allowed

variable {rule : AccessRule} {rules earlier later : List AccessRule} {p : Principal}
  {allowed : Set Principal}

theorem mem_allow :
    p ∈ rule.allow allowed ↔ rule.Decides p ∧ rule.Grants p ∨ ¬rule.Decides p ∧ p ∈ allowed := by
  by_cases hp : p ∈ rule.principals.members <;> cases hk : rule.kind <;>
    simp [allow, Decides, Grants, hk, hp]

theorem lastGrants_cons :
    LastGrants (rule :: rules) p ↔
      LastGrants rules p ∨
        (∀ other ∈ rules, ¬other.Decides p) ∧ rule.Decides p ∧ rule.Grants p := by
  constructor
  · rintro ⟨earlier, last, later, heq, hdecides, hlater, hgrants⟩
    cases earlier with
    | nil =>
      obtain ⟨rfl, rfl⟩ := List.cons.inj heq
      exact .inr ⟨hlater, hdecides, hgrants⟩
    | cons first earlier =>
      obtain ⟨rfl, rfl⟩ := List.cons.inj heq
      exact .inl ⟨earlier, last, later, rfl, hdecides, hlater, hgrants⟩
  · rintro (⟨earlier, last, later, rfl, hdecides, hlater, hgrants⟩ | ⟨hlater, hdecides, hgrants⟩)
    · exact ⟨rule :: earlier, last, later, rfl, hdecides, hlater, hgrants⟩
    · exact ⟨[], rule, rules, rfl, hdecides, hlater, hgrants⟩

theorem allowAll_append :
    allowAll (earlier ++ later) allowed = allowAll later (allowAll earlier allowed) :=
  List.foldl_append

theorem allowAll_cons :
    allowAll (rule :: rules) allowed = allowAll rules (rule.allow allowed) :=
  List.foldl_cons

/-- A principal is allowed by the last rule that decides about it, and if there is none, as it was
before. -/
theorem mem_allowAll :
    p ∈ allowAll rules allowed ↔
      LastGrants rules p ∨ (∀ rule ∈ rules, ¬rule.Decides p) ∧ p ∈ allowed := by
  induction rules generalizing allowed with
  | nil => simp [allowAll, LastGrants]
  | cons rule rules ih =>
    rw [allowAll_cons, ih, mem_allow, lastGrants_cons, List.forall_mem_cons]
    tauto

theorem allowAll_mono {allowed' : Set Principal} (h : allowed ⊆ allowed') :
    allowAll rules allowed ⊆ allowAll rules allowed' := by
  intro p hp
  rw [mem_allowAll] at hp ⊢
  exact hp.imp_right fun hp => ⟨hp.1, h hp.2⟩

/-- A rule that does not decide about a principal is of no account for it. -/
theorem mem_allowAll_insert (h : ¬rule.Decides p) :
    p ∈ allowAll (earlier ++ rule :: later) allowed ↔ p ∈ allowAll (earlier ++ later) allowed := by
  have hrule : p ∈ rule.allow (allowAll earlier allowed) ↔ p ∈ allowAll earlier allowed := by
    rw [mem_allow]
    tauto
  rw [allowAll_append, allowAll_append, allowAll_cons, mem_allowAll, hrule, ← mem_allowAll]

/-- Nothing before a rule that decides about everyone is of any account. -/
theorem allowAll_eq_of_set {allowed' : Set Principal} (hrule : rule ∈ rules)
    (hset : rule.kind = .set) : allowAll rules allowed = allowAll rules allowed' := by
  ext p
  have hdecides : ¬∀ other ∈ rules, ¬other.Decides p := fun h => h rule hrule (.inl hset)
  simp only [mem_allowAll, hdecides, false_and]

end AccessRule

namespace Authorization

/-! ## Entries -/

namespace Entry

variable {M : Matcher} {entries : List Entry} {entry : Entry} {key : AccessKey}

/-- The rules about an operation, in the order in which they apply. -/
def rulesAbout (M : Matcher) (entries : List Entry) (key : AccessKey) : List AccessRule :=
  ((byRank entries).map (·.rule)).filter (·.isAbout M key)

theorem allowed_byRank :
    allowed M (byRank entries) key = AccessRule.allowAll (rulesAbout M entries key) ∅ := by
  rw [allowed, AccessRule.allowAll, rulesAbout, List.foldl_filter, List.foldl_map]

/-- Entries by rank can be cut behind those of a rank. -/
theorem exists_split {list : List Entry}
    (ascending : list.Pairwise fun a b => a.rule.rank ≤ b.rule.rank) (rank : Int) :
    ∃ below above, list = below ++ above ∧
      (∀ other ∈ below, other.rule.rank ≤ rank) ∧ ∀ other ∈ above, rank < other.rule.rank := by
  induction list with
  | nil => exact ⟨[], [], rfl, by simp, by simp⟩
  | cons first rest ih =>
    obtain ⟨hfirst, hrest⟩ := List.pairwise_cons.1 ascending
    by_cases hle : first.rule.rank ≤ rank
    · obtain ⟨below, above, rfl, hbelow, habove⟩ := ih hrest
      exact ⟨first :: below, above, rfl, List.forall_mem_cons.2 ⟨hle, hbelow⟩, habove⟩
    · refine ⟨[], first :: rest, rfl, by simp, List.forall_mem_cons.2 ⟨not_le.1 hle, ?_⟩⟩
      exact fun other h => lt_of_lt_of_le (not_le.1 hle) (hfirst other h)

/-- One more entry takes its place behind all entries of its rank and in front of all above. -/
theorem exists_byRank_append (entries : List Entry) (entry : Entry) :
    ∃ below above, byRank entries = below ++ above ∧
      byRank (entries ++ [entry]) = below ++ entry :: above ∧
      ∀ other ∈ entries, entry.rule.rank < other.rule.rank → other ∈ above := by
  obtain ⟨ascending, byAge⟩ := inOrder_byRank entries
  obtain ⟨below, above, hsplit, hbelow, habove⟩ := exists_split ascending entry.rule.rank
  rw [hsplit] at ascending byAge
  refine ⟨below, above, hsplit, (inOrder_byRank _).unique ⟨?_, fun rank => ?_⟩, ?_⟩
  · obtain ⟨hb, ha, hcross⟩ := List.pairwise_append.1 ascending
    have htop := List.pairwise_cons.2 ⟨fun other h => (habove other h).le, ha⟩
    refine List.pairwise_append.2 ⟨hb, htop, fun other h other' h' => ?_⟩
    rcases List.mem_cons.1 h' with rfl | h'
    · exact hbelow other h
    · exact hcross other h other' h'
  · rw [List.filter_append entries, ← byAge rank, List.filter_append, List.filter_append]
    by_cases hrank : entry.rule.rank = rank
    · -- nothing above is of this rank
      have hnone : above.filter (·.rule.rank = rank) = [] := by
        refine List.filter_eq_nil_iff.2 fun other h => ?_
        have := habove other h
        simp only [decide_eq_true_eq]
        omega
      simp [hrank, hnone]
    · simp [hrank]
  · intro other h hlt
    have hmem : other ∈ below ++ above := by
      rw [← hsplit]
      exact List.mem_mergeSort.2 h
    rcases List.mem_append.1 hmem with h | h
    · exact absurd (hbelow other h) (not_le.2 hlt)
    · exact h

/-- The rules about an operation with one more of them in its place, and without it. -/
theorem exists_rulesAbout_append (M : Matcher) (entries : List Entry) (entry : Entry)
    (key : AccessKey) :
    ∃ below above, rulesAbout M entries key = below ++ above ∧
      (rulesAbout M (entries ++ [entry]) key = below ++ above ∨
        rulesAbout M (entries ++ [entry]) key = below ++ entry.rule :: above) ∧
      ∀ other ∈ entries, other.rule.isAbout M key = true → entry.rule.rank < other.rule.rank →
        other.rule ∈ above := by
  obtain ⟨below, above, h, h', habove⟩ := exists_byRank_append entries entry
  refine ⟨(below.map (·.rule)).filter (·.isAbout M key),
    (above.map (·.rule)).filter (·.isAbout M key), ?_, ?_, fun other hother habout hlt => ?_⟩
  · rw [rulesAbout, h, List.map_append, List.filter_append]
  · rw [rulesAbout, h', List.map_append, List.map_cons, List.filter_append, List.filter_cons]
    split
    · exact .inr rfl
    · exact .inl rfl
  · exact List.mem_filter.2 ⟨List.mem_map_of_mem (habove other hother hlt), habout⟩

end Entry

/-! ## Access lists -/

variable {rule : AccessRule} {key : AccessKey} {p : Principal}

theorem members_accessList_after (M : Matcher) (requests : List Request) (key : AccessKey) :
    ((after M requests).accessList key).1.members =
      AccessRule.allowAll (Entry.rulesAbout M (standing M requests) key) ∅ := by
  rw [(represents_after M requests).members_accessList, Entry.allowed_byRank]

/-- After one more registration a list is built with the new rule in its place, or as before. -/
theorem members_accessList_register (M : Matcher) (requests : List Request) (owner : String)
    (rule : AccessRule) (key : AccessKey) :
    ∃ below above, ((after M requests).accessList key).1.members =
        AccessRule.allowAll (below ++ above) ∅ ∧
      (((after M (requests ++ [.register owner rule])).accessList key).1.members =
          AccessRule.allowAll (below ++ above) ∅ ∨
        ((after M (requests ++ [.register owner rule])).accessList key).1.members =
          AccessRule.allowAll (below ++ rule :: above) ∅) ∧
      ∀ entry ∈ standing M requests, entry.rule.isAbout M key = true →
        rule.rank < entry.rule.rank → entry.rule ∈ above := by
  obtain ⟨below, above, h, h', habove⟩ :=
    Entry.exists_rulesAbout_append M (standing M requests) ⟨owner, rule⟩ key
  refine ⟨below, above, by rw [members_accessList_after, h], ?_, habove⟩
  have hstand : standing M (requests ++ [.register owner rule]) =
      Request.stand M (standing M requests) (.register owner rule) := by
    simp [standing]
  rw [members_accessList_after, hstand, Request.stand]
  split
  · exact h'.imp (congrArg (AccessRule.allowAll · ∅)) (congrArg (AccessRule.allowAll · ∅))
  · exact .inl (by rw [h])

/-- A principal is on an access list exactly if, of the rules about the operation, one decides
about it and the last one in order that does adds it or replaces the list by one that has it.  So
a rule that removes `*` takes no other principal off any list and puts none on it, and a rule of a
lower rank than one that replaces the list changes nothing. -/
theorem mem_accessList_iff (M : Matcher) (requests : List Request) :
    (∀ key p, p ∈ ((after M requests).accessList key).1.members ↔
      AccessRule.LastGrants (Entry.rulesAbout M (standing M requests) key) p) ∧
    (∀ owner (rule : AccessRule), rule.kind = .remove →
      rule.principals.members = {Principal.any} → ∀ key,
        ((after M (requests ++ [.register owner rule])).accessList key).1.members ⊆
          ((after M requests).accessList key).1.members ∧
        ((after M requests).accessList key).1.members \ {Principal.any} ⊆
          ((after M (requests ++ [.register owner rule])).accessList key).1.members) ∧
    ∀ owner (rule : AccessRule) key, ∀ entry ∈ standing M requests, entry.rule.kind = .set →
      entry.rule.isAbout M key = true → rule.rank < entry.rule.rank →
        ((after M (requests ++ [.register owner rule])).accessList key).1 =
          ((after M requests).accessList key).1 := by
  refine ⟨fun key p => ?_, fun owner rule hremove hany key => ?_,
    fun owner rule key entry hentry hset habout hlt => ?_⟩
  · rw [members_accessList_after, AccessRule.mem_allowAll]
    simp
  · obtain ⟨below, above, h, h', -⟩ := members_accessList_register M requests owner rule key
    rcases h' with h' | h' <;> rw [h, h']
    · exact ⟨fun _ hp => hp, fun _ hp => hp.1⟩
    refine ⟨?_, fun p hp => ?_⟩
    · rw [AccessRule.allowAll_append, AccessRule.allowAll_append, AccessRule.allowAll_cons]
      refine AccessRule.allowAll_mono ?_
      rw [AccessRule.allow, hremove]
      exact fun _ hp => hp.1
    · have hp' : ¬rule.Decides p := by
        rintro (hset | hmem)
        · simp [hremove] at hset
        · rw [hany] at hmem
          exact hp.2 hmem
      exact (AccessRule.mem_allowAll_insert hp').2 hp.1
  · obtain ⟨below, above, h, h', habove⟩ := members_accessList_register M requests owner rule key
    refine PrincipalSet.ext_members ?_
    rw [h]
    rcases h' with h' | h' <;> rw [h']
    rw [AccessRule.allowAll_append, AccessRule.allowAll_append, AccessRule.allowAll_cons]
    exact AccessRule.allowAll_eq_of_set (habove entry hentry habout hlt) hset

/-- One rule of rank 5 that replaces every list. -/
def replacement : List Request := [.register "a" ⟨.set, 5, "*", none, .ofList ["admin", "*"]⟩]

/-- Removing `*` above the replacement leaves `admin`, and adding `ops` below it adds nobody. -/
theorem mem_accessList_iff_replaced :
    (PrincipalSet.ofList ["*"]).members = {Principal.any} ∧
    "admin" ∈ ((after .regular (replacement ++
      [.register "b" ⟨.remove, 7, "*", none, .ofList ["*"]⟩])).accessList ("s", none)).1.members ∧
    (∃ entry ∈ standing .regular replacement, entry.rule.kind = .set ∧
      entry.rule.isAbout .regular ("s", none) = true ∧ 0 < entry.rule.rank) ∧
    ((after .regular (replacement ++
      [.register "b" ⟨.add, 0, "*", none, .ofList ["ops"]⟩])).accessList ("s", none)).1 =
      ((after .regular replacement).accessList ("s", none)).1 := by
  obtain ⟨hlast, hremove, hset⟩ := mem_accessList_iff .regular replacement
  have hany : (PrincipalSet.ofList ["*"]).members = {Principal.any} := by
    ext p
    simp [PrincipalSet.members, Principal.any]
  have hstanding : standing .regular replacement =
      [⟨"a", ⟨.set, 5, "*", none, .ofList ["admin", "*"]⟩⟩] := by
    have hvalid : (AccessRule.mk .set 5 "*" none (.ofList ["admin", "*"])).Valid .regular := by
      decide +kernel
    simp [replacement, standing, Request.stand, hvalid]
  have habout : (AccessRule.mk .set 5 "*" none (.ofList ["admin", "*"])).isAbout .regular
      ("s", none) = true := by decide +kernel
  have hadmin : "admin" ∈ ((after .regular replacement).accessList ("s", none)).1.members := by
    refine (hlast _ _).2 ⟨[], ⟨.set, 5, "*", none, .ofList ["admin", "*"]⟩, [], ?_, .inl rfl,
      by simp, .inr ⟨rfl, ?_⟩⟩
    · simp [hstanding, Entry.rulesAbout, Entry.byRank, habout]
    · simp [PrincipalSet.members]
  have hentry := hstanding.symm ▸ List.mem_singleton_self _
  exact ⟨hany, (hremove "b" _ rfl hany _).2 ⟨hadmin, by simp [Principal.any]⟩,
    ⟨_, hentry, rfl, habout, by decide⟩, hset "b" _ _ _ hentry rfl habout (by decide)⟩

end Authorization

end MessageRouter
