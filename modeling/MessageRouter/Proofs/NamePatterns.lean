import MessageRouter.Proofs.AccessLists
import MessageRouter.Proofs.RegexMatching
import MessageRouter.Proofs.RegexReading

/-!
# Patterns for whole names

The expression for whole names is put together as a text: the pattern is written into a group
between two anchors.  So a pattern may close that group, and what follows it is no longer held by
the anchors.  This is the only way in which a pattern that is accepted can fail to be an
expression (`Regex.reads_anchored`), and any other one accepts exactly the names that it
describes: `Authorization.accepts_iff_describes`.
-/

namespace MessageRouter

namespace Regex

/-- The text is written as an expression, as far as that can be told without its size. -/
def Reads (s : String) (r : Regex) : Prop :=
  ∃ k, readChoice? (s.length + 1) ⟨s.toList, {}, []⟩ [] [] = some (r, k) ∧ k.rest = []

/-- The text closes a group that it has not opened. -/
def Overcloses (s : String) : Prop :=
  ∃ r k rest, readChoice? (s.length + 1) ⟨s.toList, {}, []⟩ [] [] = some (r, k) ∧
    k.rest = ')' :: rest

variable {s pattern : String} {r r' whole : Regex}

theorem Reads.unique (h : Reads s r) (h' : Reads s r') : r' = r := by
  obtain ⟨k, hk, -⟩ := h
  obtain ⟨k', hk', -⟩ := h'
  rw [hk] at hk'
  cases hk'
  rfl

theorem Reads.not_overcloses (h : Reads s r) : ¬Overcloses s := by
  obtain ⟨k, hk, hrest⟩ := h
  rintro ⟨r', k', rest, hk', hrest'⟩
  rw [hk] at hk'
  cases hk'
  rw [hrest] at hrest'
  cases hrest'

/-- What can be used is written as an expression; it must also be neither too deep nor too large. -/
theorem parse?_eq_some_iff :
    parse? s = some r ↔
      Reads s r ∧ r.depth ≤ maxDepth ∧ (Compact.ofRegex r).fits = true := by
  constructor
  · intro h
    obtain ⟨⟨r', k⟩, hread, h⟩ := Option.bind_eq_some_iff.1 h
    dsimp only at h
    split at h
    · cases h
    next hlimits =>
      cases h
      simp only [not_or, not_not, not_lt, Bool.not_eq_true', Bool.not_eq_false] at hlimits
      exact ⟨⟨k, hread, hlimits.1⟩, hlimits.2⟩
  · rintro ⟨⟨k, hread, hrest⟩, hdepth, hfits⟩
    simp [parse?, hread, hrest, hfits, Nat.not_lt.2 hdepth]

/-! ## The anchored text -/

/-- The expression for the whole of what an expression describes. -/
def wholeOf (r : Regex) : Regex :=
  .sequence [.anchor .textStart, .group false r, .anchor .textEnd]

theorem toList_anchored (pattern : String) :
    (Matcher.anchored pattern).toList =
      '^' :: '(' :: '?' :: ':' :: (pattern.toList ++ closing) := by
  simp [Matcher.anchored, closing]

theorem length_anchored (pattern : String) :
    (Matcher.anchored pattern).length = pattern.length + 6 := by
  rw [← String.length_toList, toList_anchored]
  simp [closing, String.length_toList]

/-- Behind the start of the anchored text stands the pattern, in front of what closes it. -/
theorem readChoice?_anchored (fuel : Nat) (cs : List Char) :
    readChoice? (fuel + 2) ⟨'^' :: '(' :: '?' :: ':' :: cs, {}, []⟩ [] [] =
      readChoice? fuel ⟨cs, {}, []⟩ [] [] >>= fun inside =>
        closeGroup? (readChoice? fuel) {} false [] [.expr (.anchor .textStart)]
          inside.1 inside.2 := by
  rfl

/-- The end of the anchored text. -/
theorem readChoice?_dollar (fuel : Nat) (names : List (List Char)) :
    readChoice? (fuel + 2) ⟨['$'], {}, names⟩ []
        [.expr (.group false r), .expr (.anchor .textStart)] =
      some (wholeOf r, ⟨[], {}, names⟩) := by
  rfl

/-- The anchored text is written as an expression for whole names, unless the pattern closes the
group that is meant to hold it. -/
theorem reads_anchored (h : Reads (Matcher.anchored pattern) whole) :
    (∃ r, Reads pattern r ∧ whole = wholeOf r) ∨ Overcloses pattern := by
  obtain ⟨k, hread, hrest⟩ := h
  have hlen : (⟨pattern.toList, {}, []⟩ : Cursor).rest.length < pattern.length + 1 := by
    simp only [String.length_toList]
    omega
  rw [toList_anchored, length_anchored, readChoice?_anchored] at hread
  obtain ⟨⟨r, inside⟩, hinside, hclose⟩ := Option.bind_eq_some_iff.1 hread
  obtain hcross | ⟨k', rfl, hread'⟩ :=
    readChoice?_pasted hlen r inside hinside
  · cases (closeGroup?_crossed _ hcross).symm.trans hclose
  dsimp only at hclose
  rw [closeGroup?, Cursor.pasted_rest] at hclose
  cases hleft : k'.rest with
  | nil =>
    rw [hleft] at hclose
    cases (readChoice?_dollar _ k'.names).symm.trans hclose
    exact .inl ⟨r, ⟨k', hread', hleft⟩, rfl⟩
  | cons c rest =>
    rw [hleft] at hclose
    by_cases hc : c = ')'
    · subst hc
      exact .inr ⟨r, k', rest, hread', hleft⟩
    · have hne := cons_ne_cons hc (rest ++ closing)
      simp only [List.cons_append] at hclose
      cases hclose

end Regex

/-! ## Patterns of rules -/

namespace NamePattern

variable {pattern : String} {p : NamePattern .regular}

theorem compile_regular (h : compile .regular pattern = .ok p) (hany : pattern ≠ "*") :
    ∃ whole, Regex.parse? (Matcher.anchored pattern) = some whole ∧ p = .compiled whole := by
  rw [compile, if_neg hany] at h
  split at h
  next whole hparse =>
    cases h
    exact ⟨whole, hparse, rfl⟩
  next => cases h

/-- A pattern that is an expression accepts the names that it describes, and one that is accepted
although it is none closes a group that it has not opened. -/
theorem accepts_of_reads (h : compile .regular pattern = .ok p) (hany : pattern ≠ "*") :
    (∃ r, Regex.Reads pattern r ∧ ∀ name, p.accepts name = true ↔ r.Describes name) ∨
      Regex.Overcloses pattern := by
  obtain ⟨whole, hparse, rfl⟩ := compile_regular h hany
  refine (Regex.reads_anchored (Regex.parse?_eq_some_iff.1 hparse).1).imp_left ?_
  rintro ⟨r, hr, rfl⟩
  exact ⟨r, hr, fun name => Regex.isFoundIn_anchored (.group false r) name⟩

end NamePattern

section

variable {M : Matcher}

theorem OperationPattern.compile_ok {written : QualifiedName} {operation : OperationPattern M}
    (h : compile M written = .ok operation) :
    (written.space = "" → operation.space = .any) ∧
      (written.space ≠ "" → NamePattern.compile M written.space = .ok operation.space) ∧
      NamePattern.compile M written.name = .ok operation.name := by
  unfold compile at h
  cases hname : NamePattern.compile M written.name with
  | error e =>
    by_cases hspace : written.space = "" <;>
      cases hcompile : NamePattern.compile M written.space <;>
      simp [hspace, hcompile, hname, bind, Except.bind] at h
  | ok name =>
    by_cases hspace : written.space = ""
    · simp only [hspace, hname, bind, Except.bind, pure, Except.pure, if_true, Except.ok.injEq] at h
      subst h
      exact ⟨fun _ => rfl, fun hne => absurd hspace hne, rfl⟩
    · cases hcompile : NamePattern.compile M written.space with
      | error e => simp [hspace, hcompile, bind, Except.bind] at h
      | ok space =>
        simp only [hspace, hcompile, hname, bind, Except.bind, pure, Except.pure, if_false,
          Except.ok.injEq] at h
        subst h
        exact ⟨fun heq => absurd heq hspace, fun _ => rfl, rfl⟩

namespace CompiledRule

/-- A pattern that a rule gives, and what it has been compiled to; no namespace is no pattern. -/
inductive Gives (rule : AccessRule) (c : CompiledRule M) : String → NamePattern M → Prop
  | endpoint : Gives rule c rule.endpoint c.endpoint
  | space {written : QualifiedName} {operation : OperationPattern M} :
      rule.operation = some written → c.operation = some operation → written.space ≠ "" →
        Gives rule c written.space operation.space
  | name {written : QualifiedName} {operation : OperationPattern M} :
      rule.operation = some written → c.operation = some operation →
        Gives rule c written.name operation.name

variable {c : CompiledRule M} {rule : AccessRule} {written : QualifiedName} {pattern : String}
  {p : NamePattern M}

theorem compile_operation (h : compile M rule = .ok c) (hwritten : rule.operation = some written) :
    ∃ operation, c.operation = some operation ∧
      OperationPattern.compile M written = .ok operation := by
  obtain ⟨-, hoperation, -⟩ := compile_ok h
  rw [hwritten, Option.mapM_some] at hoperation
  cases hcompile : OperationPattern.compile M written with
  | error e => simp [hcompile, Functor.map, Except.map] at hoperation
  | ok operation =>
    simp only [hcompile, Functor.map, Except.map, Except.ok.injEq] at hoperation
    exact ⟨operation, hoperation.symm, rfl⟩

theorem Gives.compile (hgives : Gives rule c pattern p) (h : compile M rule = .ok c) :
    NamePattern.compile M pattern = .ok p := by
  cases hgives with
  | endpoint => exact (compile_ok h).1
  | space hwritten hoperation hspace =>
    obtain ⟨operation, hoperation', hcompile⟩ := compile_operation h hwritten
    cases hoperation.symm.trans hoperation'
    exact (OperationPattern.compile_ok hcompile).2.1 hspace
  | name hwritten hoperation =>
    obtain ⟨operation, hoperation', hcompile⟩ := compile_operation h hwritten
    cases hoperation.symm.trans hoperation'
    exact (OperationPattern.compile_ok hcompile).2.2

end CompiledRule

end

namespace Authorization

variable {M : Matcher} {owner : String} {rule : AccessRule}

theorem exists_grant {a a' : Authorization M} (h : a.register owner rule = .ok a') :
    ∃ c, CompiledRule.compile M rule = .ok c ∧ ⟨owner, c⟩ ∈ a'.grants := by
  unfold register at h
  cases hc : CompiledRule.compile M rule with
  | error e => simp [hc, bind, Except.bind] at h
  | ok c =>
    simp only [hc, bind, Except.bind, pure, Except.pure, Except.ok.injEq] at h
    subst h
    exact ⟨c, rfl, mem_insertGrant.2 (.inl rfl)⟩

/-- In a rule that is put in force every pattern but `*` that is an expression by itself accepts
exactly the names that it describes as a whole.  A pattern that is none ought to accept nothing; it
does not if and only if it closes a group that it has not opened and there is a name that it
accepts.  Where a rule gives no namespace, every one is accepted. -/
theorem accepts_iff_describes {a a' : Authorization} (h : a.register owner rule = .ok a') :
    ∃ c, CompiledRule.compile .regular rule = .ok c ∧ ⟨owner, c⟩ ∈ a'.grants ∧
      (∀ written, rule.operation = some written → ∃ operation, c.operation = some operation ∧
        (written.space = "" → ∀ space, operation.space.accepts space = true)) ∧
      ∀ pattern p, CompiledRule.Gives rule c pattern p → pattern ≠ "*" →
        (∀ r, Regex.Reads pattern r → ∀ name, p.accepts name = true ↔ r.Describes name) ∧
        ((∀ name, p.accepts name = true ↔ ∃ r, Regex.Reads pattern r ∧ r.Describes name) ↔
          ¬(Regex.Overcloses pattern ∧ ∃ name, p.accepts name = true)) := by
  obtain ⟨c, hcompile, hgrant⟩ := exists_grant h
  refine ⟨c, hcompile, hgrant, fun written hwritten => ?_,
    fun pattern p hgives hany => ?_⟩
  · obtain ⟨operation, hoperation, hcompile⟩ := CompiledRule.compile_operation hcompile hwritten
    refine ⟨operation, hoperation, fun hspace space => ?_⟩
    rw [(OperationPattern.compile_ok hcompile).1 hspace]
    rfl
  obtain ⟨r, hr, haccepts⟩ | hover := NamePattern.accepts_of_reads (hgives.compile hcompile) hany
  · refine ⟨fun r' hr' => hr.unique hr' ▸ haccepts,
      iff_of_true (fun name => ?_) fun hover => hr.not_overcloses hover.1⟩
    rw [haccepts]
    exact ⟨fun hname => ⟨r, hr, hname⟩, fun ⟨r', hr', hname⟩ => hr.unique hr' ▸ hname⟩
  · have hnone : ∀ r, ¬Regex.Reads pattern r := fun r hr => hr.not_overcloses hover
    refine ⟨fun r hr => absurd hr (hnone r), ?_⟩
    simp [hnone, hover]

/-- A rule that is valid is put in force. -/
theorem exists_register (a : Authorization M) (owner : String) (h : rule.Valid M) :
    ∃ a', a.register owner rule = .ok a' := by
  have hok := (CompiledRule.isOk_compile rule).2 h
  unfold register
  cases hc : CompiledRule.compile M rule with
  | error e => simp [hc, Except.isOk, Except.toBool] at hok
  | ok c => exact ⟨_, rfl⟩

/-- `ep.*` accepts what it describes as a whole, such as `ep3` but not `step`. -/
theorem accepts_iff_describes_wildcard :
    ∃ a' c, ({} : Authorization).register "o"
        ⟨.remove, 1, "ep.*", some ⟨"", "put"⟩, .ofList ["*"]⟩ = .ok a' ∧
      ⟨"o", c⟩ ∈ a'.grants ∧
      (∀ name, c.endpoint.accepts name = true ↔ ∃ r, Regex.Reads "ep.*" r ∧ r.Describes name) ∧
      c.endpoint.accepts "ep3" = true ∧ c.endpoint.accepts "step" = false := by
  have hvalid : (AccessRule.mk .remove 1 "ep.*" (some ⟨"", "put"⟩)
      (.ofList ["*"])).Valid .regular := by decide +kernel
  obtain ⟨a', ha'⟩ := exists_register {} "o" hvalid
  obtain ⟨c, hcompile, hgrant, -, hgives⟩ := accepts_iff_describes ha'
  obtain ⟨r, hr⟩ : ∃ r, Regex.Reads "ep.*" r := ⟨_, _, rfl, rfl⟩
  have hlaw := (hgives "ep.*" c.endpoint .endpoint (by decide)).2
  have haccepts := NamePattern.accepts_of_compile (CompiledRule.compile_ok hcompile).1
  have hwhole : NamePattern.fits .regular "ep.*" "ep3" = true ∧
      NamePattern.fits .regular "ep.*" "step" = false := by decide +kernel
  exact ⟨a', c, ha', hgrant, hlaw.2 fun hover => hr.not_overcloses hover.1,
    (haccepts _).trans hwhole.1, (haccepts _).trans hwhole.2⟩

/-- `a)|(b` is no expression, but it is accepted, and then it accepts every name that starts with
`a` or ends in `b`. -/
theorem accepts_iff_describes_overclosing :
    ∃ a' c, ({} : Authorization).register "o" ⟨.add, 0, "a)|(b", none, .ofList ["ops"]⟩ = .ok a' ∧
      ⟨"o", c⟩ ∈ a'.grants ∧ Regex.Overcloses "a)|(b" ∧ (∀ r, ¬Regex.Reads "a)|(b" r) ∧
      c.endpoint.accepts "axyz" = true := by
  have hvalid : (AccessRule.mk .add 0 "a)|(b" none (.ofList ["ops"])).Valid .regular := by
    decide +kernel
  obtain ⟨a', ha'⟩ := exists_register {} "o" hvalid
  obtain ⟨c, hcompile, hgrant⟩ := exists_grant ha'
  have hover : Regex.Overcloses "a)|(b" := ⟨_, _, _, rfl, rfl⟩
  have hfits : NamePattern.fits .regular "a)|(b" "axyz" = true := by decide +kernel
  have haccepts := NamePattern.accepts_of_compile (CompiledRule.compile_ok hcompile).1
  exact ⟨a', c, ha', hgrant, hover, fun r hr => hr.not_overcloses hover, (haccepts _).trans hfits⟩

end Authorization

end MessageRouter
