import Mathlib.Logic.Relation
import SearchQuery.Filter.Basic

/-!
# Operands that match every document

A conjunction leaves out its operands that are written `*`. That is a matter
of texts, and here it is told as one of trees. A tree is written `*` only if
it is a leaf of that text or a conjunction of such trees (`MatchesAll`): a
disjunction begins with a parenthesis, a negation with a sign, and so does a
conjunction of which two operands are left.

Leaving out such an operand, and replacing a conjunction of one operand by
the operand, are then steps on trees (`Simplifies`). No step changes what is
written, wherever in the tree it is taken, so neither do any number of steps
forwards or backwards (`build_of_eqvGen`). Taken as far as they go
(`simplify`), they leave conjunctions of two operands or more, none of which
matches every document (`IsSimple`).
-/

namespace SearchQuery.Filter

/-! ## Written texts -/

/-- A text that does not begin with an asterisk is not the wildcard. -/
theorem ne_wildcard {c : Char} {cs : List Char} {s : String} (hs : s.toList = c :: cs)
    (hc : c ≠ '*') : s ≠ wildcard := by
  rintro rfl
  cases hs
  exact hc rfl

/-- Nothing in parentheses is the wildcard. -/
theorem parenthesized_ne_wildcard (s : String) : "(" ++ s ++ ")" ≠ wildcard := by
  have hlist : ("(" ++ s ++ ")").toList = '(' :: (s.toList ++ [')']) := by
    simp [String.toList_append]
  exact ne_wildcard hlist (by decide)

/-- Nothing behind a minus sign is the wildcard. -/
theorem negated_ne_wildcard (s : String) : "-" ++ s ≠ wildcard := by
  have hlist : ("-" ++ s).toList = '-' :: s.toList := by
    simp [String.toList_append]
  exact ne_wildcard hlist (by decide)

/-- A conjunction of texts matches every document when each of them does. -/
theorem joinAll_eq_wildcard {parts : List String} :
    joinAll parts = wildcard ↔ ∀ part ∈ parts, part = wildcard := by
  have hnone : parts.filter (· != wildcard) = [] ↔ ∀ part ∈ parts, part = wildcard := by
    simp [List.filter_eq_nil_iff]
  rw [← hnone, joinAll]
  cases hkept : parts.filter (· != wildcard) with
  | nil => simp
  | cons first rest =>
    cases rest with
    | nil =>
      have hfirst : first ∈ parts.filter (· != wildcard) := hkept ▸ List.mem_cons_self
      simpa using (List.mem_filter.mp hfirst).2
    | cons second rest => simpa using parenthesized_ne_wildcard _

/-- A text that matches every document is left out of a conjunction. -/
theorem joinAll_drop (before after : List String) :
    joinAll (before ++ wildcard :: after) = joinAll (before ++ after) := by
  simp [joinAll, List.filter_append]

/-- One part alone is joined without parentheses. -/
theorem joinAll_singleton (part : String) : joinAll [part] = part := by
  by_cases hpart : part = wildcard
  · subst hpart
    rfl
  · simp [joinAll, hpart]

/-! ## Trees -/

/-- Operands are built one by one. -/
theorem buildEach_eq_map (operands : List Filter) : buildEach operands = operands.map build := by
  induction operands with
  | nil => rfl
  | cons operand operands ih => rw [buildEach, ih, List.map_cons]

/-- What passes from the operands to the tree holds of every tree. -/
@[elab_as_elim]
theorem operandsInduction {motive : Filter → Prop} (leaf : ∀ l, motive (.leaf l))
    (all : ∀ operands, (∀ operand ∈ operands, motive operand) → motive (.all operands))
    (any : ∀ operands, (∀ operand ∈ operands, motive operand) → motive (.any operands))
    (not : ∀ operand, motive operand → motive (.not operand)) (filter : Filter) : motive filter :=
  @Filter.rec motive (fun operands => ∀ operand ∈ operands, motive operand) leaf all any not
    (List.forall_mem_nil _) (fun _ _ hfirst hrest => List.forall_mem_cons.mpr ⟨hfirst, hrest⟩)
    filter

/-- A leaf that is written `*`, or a conjunction of trees that match every
document. -/
inductive MatchesAll : Filter → Prop
  | leaf {leaf : Leaf} : leaf.expression = wildcard → MatchesAll (.leaf leaf)
  | all {operands : List Filter} : (∀ operand ∈ operands, MatchesAll operand) →
    MatchesAll (all operands)

/-- A tree is written `*` when it matches every document, and only then. -/
theorem build_eq_wildcard {filter : Filter} : filter.build = wildcard ↔ MatchesAll filter := by
  induction filter using operandsInduction with
  | leaf l =>
    constructor
    · exact .leaf
    · intro h
      cases h with
      | leaf h => exact h
  | all operands ih =>
    rw [build, joinAll_eq_wildcard, buildEach_eq_map, List.forall_mem_map]
    constructor
    · exact fun h => .all fun operand hoperand => (ih operand hoperand).mp (h operand hoperand)
    · intro h operand hoperand
      cases h with
      | all h => exact (ih operand hoperand).mpr (h operand hoperand)
  | any operands =>
    constructor
    · exact fun h => absurd h (parenthesized_ne_wildcard _)
    · intro h
      cases h
  | not operand =>
    constructor
    · exact fun h => absurd h (negated_ne_wildcard _)
    · intro h
      cases h

/-- What is built as the wildcard matches every document by its structure, and
nothing else is built so. -/
theorem isMatchAll_iff {filter : Filter} : filter.isMatchAll = true ↔ MatchesAll filter := by
  rw [isMatchAll, beq_iff_eq, build_eq_wildcard]

/-! ## Steps -/

/-- One step towards a simpler tree, taken anywhere in it: an operand that
matches every document is left out of a conjunction that keeps another one,
or a conjunction of one operand is replaced by the operand. -/
inductive Simplifies : Filter → Filter → Prop
  | drop {before after : List Filter} {operand : Filter} : MatchesAll operand →
    before ++ after ≠ [] → Simplifies (all (before ++ operand :: after)) (all (before ++ after))
  | single (operand : Filter) : Simplifies (all [operand]) operand
  | inAll {before after : List Filter} {operand simpler : Filter} : Simplifies operand simpler →
    Simplifies (all (before ++ operand :: after)) (all (before ++ simpler :: after))
  | inAny {before after : List Filter} {operand simpler : Filter} : Simplifies operand simpler →
    Simplifies (any (before ++ operand :: after)) (any (before ++ simpler :: after))
  | inNot {operand simpler : Filter} : Simplifies operand simpler →
    Simplifies (not operand) (not simpler)

/-- No step changes what is written. -/
theorem build_of_simplifies {filter simpler : Filter} (h : Simplifies filter simpler) :
    filter.build = simpler.build := by
  induction h with
  | drop hmatch _ =>
    rw [build, build, buildEach_eq_map, buildEach_eq_map, List.map_append, List.map_append,
      List.map_cons, build_eq_wildcard.mpr hmatch, joinAll_drop]
  | single operand => rw [build, buildEach, buildEach, joinAll_singleton]
  | inAll _ ih =>
    rw [build, build, buildEach_eq_map, buildEach_eq_map, List.map_append, List.map_append,
      List.map_cons, List.map_cons, ih]
  | inAny _ ih =>
    rw [build, build, buildEach_eq_map, buildEach_eq_map, List.map_append, List.map_append,
      List.map_cons, List.map_cons, ih]
  | inNot _ ih => rw [build, build, ih]

/-- Steps forwards and backwards do not change what is written. -/
theorem build_of_eqvGen {filter other : Filter} (h : Relation.EqvGen Simplifies filter other) :
    filter.build = other.build := by
  induction h with
  | rel _ _ hstep => exact build_of_simplifies hstep
  | refl _ => rfl
  | symm _ _ _ ih => exact ih.symm
  | trans _ _ _ _ _ ih₁ ih₂ => exact ih₁.trans ih₂

/-- Steps forwards are steps forwards and backwards. -/
theorem eqvGen_of_reflTransGen {filter simpler : Filter}
    (h : Relation.ReflTransGen Simplifies filter simpler) :
    Relation.EqvGen Simplifies filter simpler := by
  induction h with
  | refl => exact .refl _
  | tail _ hstep ih => exact .trans _ _ _ ih (.rel _ _ hstep)

/-! ## Simple trees -/

/-- Every conjunction has two operands or more, and none of them matches
every document. -/
inductive IsSimple : Filter → Prop
  | leaf (leaf : Leaf) : IsSimple (.leaf leaf)
  | all {operands : List Filter} : 2 ≤ operands.length →
    (∀ operand ∈ operands, ¬MatchesAll operand) → (∀ operand ∈ operands, IsSimple operand) →
    IsSimple (all operands)
  | any {operands : List Filter} : (∀ operand ∈ operands, IsSimple operand) →
    IsSimple (any operands)
  | not {operand : Filter} : IsSimple operand → IsSimple (not operand)

/-- Every conjunction has an operand. -/
inductive HasOperands : Filter → Prop
  | leaf (leaf : Leaf) : HasOperands (.leaf leaf)
  | all {operands : List Filter} : operands ≠ [] →
    (∀ operand ∈ operands, HasOperands operand) → HasOperands (all operands)
  | any {operands : List Filter} : (∀ operand ∈ operands, HasOperands operand) →
    HasOperands (any operands)
  | not {operand : Filter} : HasOperands operand → HasOperands (not operand)

/-- The conjunction of the operands that do not match every document: one of
them stands for itself, and of none the first operand is left. -/
def conjunction (operands : List Filter) : Filter :=
  match operands.filter (!·.isMatchAll) with
  | [] => operands.headD matchAll
  | [operand] => operand
  | operands => all operands

mutual

/-- The tree with every conjunction simplified, from the leaves up. -/
def simplify : Filter → Filter
  | leaf l => leaf l
  | all operands => conjunction (simplifyEach operands)
  | any operands => any (simplifyEach operands)
  | not operand => not (simplify operand)

/-- Each of the trees simplified. -/
def simplifyEach : List Filter → List Filter
  | [] => []
  | operand :: operands => simplify operand :: simplifyEach operands

end

/-- Operands are simplified one by one. -/
theorem simplifyEach_eq_map (operands : List Filter) :
    simplifyEach operands = operands.map simplify := by
  induction operands with
  | nil => rfl
  | cons operand operands ih => rw [simplifyEach, ih, List.map_cons]

/-! ## The steps of a simplification -/

/-- Steps in the operands, one operand after the other. -/
theorem reflTransGen_map (node : List Filter → Filter) {f : Filter → Filter}
    (hnode : ∀ before after : List Filter, ∀ operand simpler : Filter, Simplifies operand simpler →
      Simplifies (node (before ++ operand :: after)) (node (before ++ simpler :: after)))
    {operands : List Filter}
    (h : ∀ operand ∈ operands, Relation.ReflTransGen Simplifies operand (f operand))
    (before : List Filter) :
    Relation.ReflTransGen Simplifies (node (before ++ operands))
      (node (before ++ operands.map f)) := by
  induction operands generalizing before with
  | nil => exact .refl
  | cons operand operands ih =>
    obtain ⟨hfirst, hrest⟩ := List.forall_mem_cons.mp h
    have hoperand : Relation.ReflTransGen Simplifies (node (before ++ operand :: operands))
        (node (before ++ f operand :: operands)) :=
      hfirst.lift (fun simpler => node (before ++ simpler :: operands)) fun _ _ => hnode _ _ _ _
    have hoperands := ih hrest (before ++ [f operand])
    rw [List.append_assoc, List.append_assoc, List.singleton_append] at hoperands
    exact hoperand.trans hoperands

/-- The operands that match every document are left out one after the other,
if any others are left. -/
theorem reflTransGen_filter (before operands : List Filter)
    (hne : before ++ operands.filter (!·.isMatchAll) ≠ []) :
    Relation.ReflTransGen Simplifies (all (before ++ operands))
      (all (before ++ operands.filter (!·.isMatchAll))) := by
  induction operands generalizing before with
  | nil => exact .refl
  | cons operand operands ih =>
    by_cases hmatch : operand.isMatchAll = true
    · have hkept : (operand :: operands).filter (!·.isMatchAll)
          = operands.filter (!·.isMatchAll) := by simp [hmatch]
      rw [hkept] at hne ⊢
      have hrest : before ++ operands ≠ [] := by
        intro hnil
        obtain ⟨rfl, rfl⟩ := List.append_eq_nil_iff.mp hnil
        exact hne rfl
      exact .head (.drop (isMatchAll_iff.mp hmatch) hrest) (ih before hne)
    · have hkept : (operand :: operands).filter (!·.isMatchAll)
          = operand :: operands.filter (!·.isMatchAll) := by simp [hmatch]
      rw [hkept] at hne ⊢
      have hsteps := ih (before ++ [operand]) (by simp)
      rwa [List.append_assoc, List.append_assoc, List.singleton_append,
        List.singleton_append] at hsteps

/-- A conjunction is simplified in steps. -/
theorem reflTransGen_conjunction {operands : List Filter} (hne : operands ≠ []) :
    Relation.ReflTransGen Simplifies (all operands) (conjunction operands) := by
  rw [conjunction]
  cases hkept : operands.filter (!·.isMatchAll) with
  | nil =>
    obtain ⟨first, rest, rfl⟩ := List.exists_cons_of_ne_nil hne
    -- all of them match every document, so the first one is kept
    have hrest : rest.filter (!·.isMatchAll) = [] := by
      rw [List.filter_eq_nil_iff] at hkept ⊢
      exact (List.forall_mem_cons.mp hkept).2
    have hsteps := reflTransGen_filter [first] rest (by simp)
    rw [hrest, List.append_nil, List.singleton_append] at hsteps
    exact hsteps.tail (.single first)
  | cons first rest =>
    have hsteps := reflTransGen_filter [] operands (by simp [hkept])
    rw [List.nil_append, List.nil_append, hkept] at hsteps
    cases rest with
    | nil => exact hsteps.tail (.single first)
    | cons second rest => exact hsteps

/-- A tree is simplified in steps. -/
theorem reflTransGen_simplify {filter : Filter} (h : HasOperands filter) :
    Relation.ReflTransGen Simplifies filter filter.simplify := by
  induction filter using operandsInduction with
  | leaf l => exact .refl
  | all operands ih =>
    cases h with
    | all hne hoperands =>
      rw [simplify, simplifyEach_eq_map]
      have hsteps := reflTransGen_map all (fun _ _ _ _ => .inAll)
        (fun operand hoperand => ih operand hoperand (hoperands operand hoperand)) []
      have hmap : operands.map simplify ≠ [] := by simpa using hne
      exact hsteps.trans (reflTransGen_conjunction hmap)
  | any operands ih =>
    cases h with
    | any hoperands =>
      rw [simplify, simplifyEach_eq_map]
      exact reflTransGen_map any (fun _ _ _ _ => .inAny)
        (fun operand hoperand => ih operand hoperand (hoperands operand hoperand)) []
  | not operand ih =>
    cases h with
    | not hoperand => exact (ih hoperand).lift not fun _ _ => .inNot

/-! ## What a simplification gives -/

/-- A conjunction that lost its wildcards is built as what is left, in the same
parentheses. -/
theorem build_conjunction (operands : List Filter) :
    (conjunction operands).build = joinAll (operands.map build) := by
  cases operands with
  | nil => rfl
  | cons first rest =>
    have hsteps := reflTransGen_conjunction (List.cons_ne_nil first rest)
    rw [← build_of_eqvGen (eqvGen_of_reflTransGen hsteps), build, buildEach_eq_map]

/-- A simplified filter is built as the filter was. -/
theorem build_simplify (filter : Filter) : filter.simplify.build = filter.build := by
  induction filter using operandsInduction with
  | leaf l => rfl
  | all operands ih =>
    rw [simplify, simplifyEach_eq_map, build_conjunction, List.map_map, build, buildEach_eq_map]
    congr 1
    exact List.map_congr_left ih
  | any operands ih =>
    rw [simplify, simplifyEach_eq_map, build, build, buildEach_eq_map, buildEach_eq_map,
      List.map_map]
    congr 1
    exact List.map_congr_left ih
  | not operand ih => rw [simplify, build, build, ih]

/-- A conjunction of simple operands is simple, and the wildcard if there are
none. -/
theorem isSimple_conjunction {operands : List Filter}
    (h : ∀ operand ∈ operands, IsSimple operand) : IsSimple (conjunction operands) := by
  have hmem : ∀ operand ∈ operands.filter (!·.isMatchAll),
      ¬MatchesAll operand ∧ IsSimple operand := by
    intro operand hoperand
    obtain ⟨hoperands, hkept⟩ := List.mem_filter.mp hoperand
    refine ⟨fun hmatch => ?_, h operand hoperands⟩
    rw [isMatchAll_iff.mpr hmatch] at hkept
    cases hkept
  rw [conjunction]
  cases hkept : operands.filter (!·.isMatchAll) with
  | nil =>
    cases operands with
    | nil => exact .leaf _
    | cons first rest => exact h first List.mem_cons_self
  | cons first rest =>
    rw [hkept] at hmem
    cases rest with
    | nil => exact (hmem first List.mem_cons_self).2
    | cons second rest =>
      exact .all (by simp) (fun operand hoperand => (hmem operand hoperand).1)
        fun operand hoperand => (hmem operand hoperand).2

/-- A simplified filter has no wildcard in a conjunction, at any depth. -/
theorem isSimple_simplify (filter : Filter) : IsSimple filter.simplify := by
  induction filter using operandsInduction with
  | leaf l => exact .leaf l
  | all operands ih =>
    rw [simplify, simplifyEach_eq_map]
    exact isSimple_conjunction (List.forall_mem_map.mpr ih)
  | any operands ih =>
    rw [simplify, simplifyEach_eq_map]
    exact .any (List.forall_mem_map.mpr ih)
  | not operand ih => exact .not ih

/-- **Wildcards drop out by the structure of a tree.** Which trees are written
`*` is told by their leaves and conjunctions, steps that leave such trees out
or put them in do not change what is written, and they lead from every tree
to a simple one. -/
theorem wildcards_are_structural :
    (∀ filter : Filter, filter.isMatchAll = true ↔ MatchesAll filter) ∧
    (∀ filter other : Filter, Relation.EqvGen Simplifies filter other →
      filter.build = other.build) ∧
    (∀ filter : Filter, filter.simplify.build = filter.build ∧ IsSimple filter.simplify) ∧
    ∀ filter : Filter, HasOperands filter →
      Relation.ReflTransGen Simplifies filter filter.simplify :=
  ⟨fun _ => isMatchAll_iff, fun _ _ => build_of_eqvGen,
    fun filter => ⟨build_simplify filter, isSimple_simplify filter⟩,
    fun _ => reflTransGen_simplify⟩

/-- A tree with wildcards on every level is built like another that steps in
both directions lead to, and is simplified to a disjunction, which keeps its
wildcard. -/
theorem wildcards_are_structural_nested :
    let tag : Filter := leaf ⟨.tag, "a", "@a:\x7bx\x7d"⟩
    let wild : Filter := leaf ⟨.custom, "b", "*"⟩
    let tree := all [matchAll, all [wild, all [matchAll]], any [wild, all [tag, matchAll]]]
    let bare := all [any [wild, tag]]
    HasOperands tree ∧ Relation.EqvGen Simplifies tree bare ∧ tree.build = bare.build ∧
      Relation.ReflTransGen Simplifies tree (any [wild, tag]) ∧
      (any [wild, tag]).build = tree.build ∧ ¬MatchesAll tree := by
  intro tag wild tree bare
  obtain ⟨hmatch, hbuild, hsimplify, hsteps⟩ := wildcards_are_structural
  have htree : HasOperands tree := by
    refine .all (by simp) ?_
    intro operand hoperand
    simp only [List.mem_cons, List.not_mem_nil, or_false] at hoperand
    rcases hoperand with rfl | rfl | rfl
    · exact .leaf _
    · refine .all (by simp) ?_
      rintro _ (_ | ⟨_, _ | ⟨_, ⟨⟩⟩⟩)
      · exact .leaf _
      · exact .all (by simp) (by rintro _ (_ | ⟨_, ⟨⟩⟩); exact .leaf _)
    · refine .any ?_
      rintro _ (_ | ⟨_, _ | ⟨_, ⟨⟩⟩⟩)
      · exact .leaf _
      · exact .all (by simp) (by rintro _ (_ | ⟨_, _ | ⟨_, ⟨⟩⟩⟩) <;> exact .leaf _)
  have hsimple : tree.simplify = any [wild, tag] := by rfl
  have hreach := hsteps tree htree
  have hsame := (hsimplify tree).1
  rw [hsimple] at hreach hsame
  have hequiv : Relation.EqvGen Simplifies tree bare :=
    .trans _ _ _ (eqvGen_of_reflTransGen hreach) (.symm _ _ (.rel _ _ (.single _)))
  refine ⟨htree, hequiv, hbuild _ _ hequiv, hreach, hsame, ?_⟩
  rw [← hmatch]
  decide

end SearchQuery.Filter
