import Mathlib.Data.List.Induction
import SearchQuery.Query.Hybrid
import SearchQuery.Query.Listing
import SearchQuery.Query.MultiVector
import SearchQuery.Query.Nearest
import SearchQuery.Query.Range

/-!
# Settings in any order

Of the calls that set up a query only the last one of each setting counts,
and the order of the calls does not. Two laws of a single call are behind
this (`Builder`): a call overwrites an earlier one of its setting, and it
can change places with a call of another. So the last call of a setting can
be moved to the end and the earlier ones be left out (`run_eq_set_of_last`),
and what is left is a shorter sequence of calls on the other settings.

Two calls set nothing but add to what is there: a field of a full-text query
and a vector of a query over several. For these it has to be known that the
same is added.
-/

namespace SearchQuery.Query

/-! ## Builders -/

/-- How calls make a query. A call gives one setting its value, or it adds to
what is there. -/
structure Builder (δ κ ι σ : Type) where
  set : δ → κ → δ
  build : δ → Except Invalid σ
  compile : σ → Compiled
  /-- The setting that a call gives its value. A call that adds gives none. -/
  slot : κ → Option ι
  overwrite : ∀ {a b : κ} {i : ι}, slot a = some i → slot b = some i →
    ∀ draft, set (set draft a) b = set draft b
  commute : ∀ {a b : κ}, slot a ≠ slot b →
    ∀ draft, set (set draft a) b = set (set draft b) a

namespace Builder

variable {δ κ ι σ : Type} (b : Builder δ κ ι σ)

/-- The draft after calls. -/
def run (draft : δ) (calls : List κ) : δ := calls.foldl b.set draft

/-- What is built after calls, and what that is compiled to. -/
def outcome (draft : δ) (calls : List κ) : Except Invalid σ × Except Invalid Compiled :=
  (b.build (b.run draft calls), do return b.compile (← b.build (b.run draft calls)))

/-- A call that is overridden by a later one of its setting, whatever comes
between them, could as well not have been made. -/
def OverriddenLeaveNoTrace : Prop :=
  ∀ (draft : δ) (before between after : List κ) (first second : κ) (i : ι),
    b.slot first = some i → b.slot second = some i →
    b.outcome draft (before ++ first :: between ++ second :: after)
      = b.outcome draft (before ++ between ++ second :: after)

theorem run_append (draft : δ) (xs ys : List κ) :
    b.run draft (xs ++ ys) = b.run (b.run draft xs) ys := List.foldl_append

theorem run_concat (draft : δ) (xs : List κ) (call : κ) :
    b.run draft (xs ++ [call]) = b.set (b.run draft xs) call := run_append b draft xs [call]

variable [DecidableEq ι]

/-- The calls of one setting. -/
def callsOf (i : ι) (calls : List κ) : List κ := calls.filter (b.slot · = some i)

/-- The calls of the other settings, and those that add. -/
def others (i : ι) (calls : List κ) : List κ := calls.filter (b.slot · ≠ some i)

/-- The calls that add. -/
def adding (calls : List κ) : List κ := calls.filter (b.slot · = none)

/-- Calls agree on the last value of each setting. -/
def Agree (xs ys : List κ) : Prop :=
  ∀ i, (b.callsOf i xs).getLast? = (b.callsOf i ys).getLast?

/-- The earlier calls of a setting leave no trace. -/
theorem set_run_others {call : κ} {i : ι} (hcall : b.slot call = some i) (draft : δ)
    (calls : List κ) :
    b.set (b.run draft calls) call = b.set (b.run draft (b.others i calls)) call := by
  induction calls using List.reverseRecOn with
  | nil => rfl
  | append_singleton calls last ih =>
    rw [others, List.filter_append, run_concat]
    by_cases hlast : b.slot last = some i
    · rw [b.overwrite hlast hcall, ih, others]
      simp [hlast]
    · have hne : b.slot last ≠ b.slot call := hcall ▸ hlast
      have hkept : [last].filter (b.slot · ≠ some i) = [last] := by simp [hlast]
      rw [hkept, run_concat, b.commute hne, ih, others, b.commute hne.symm]

/-- The last call of a setting can be made last of all, and the earlier ones
be left out. -/
theorem run_eq_set_of_last {call : κ} {i : ι} (draft : δ) {calls : List κ}
    (hlast : (b.callsOf i calls).getLast? = some call) :
    b.run draft calls = b.set (b.run draft (b.others i calls)) call := by
  induction calls using List.reverseRecOn with
  | nil => cases hlast
  | append_singleton calls last ih =>
    by_cases hslot : b.slot last = some i
    · have hcall : call = last := by
        rw [callsOf, List.filter_append] at hlast
        simpa [hslot] using hlast.symm
      subst hcall
      rw [run_concat, b.set_run_others hslot, others, others, List.filter_append]
      simp [hslot]
    · rw [callsOf, List.filter_append] at hlast
      have hbefore : (b.callsOf i calls).getLast? = some call := by
        simpa [hslot, callsOf] using hlast
      have hcall : b.slot call = some i := by
        have hmem := List.mem_of_getLast? hbefore
        simpa using (List.mem_filter.mp hmem).2
      have hne : b.slot call ≠ b.slot last := by
        rw [hcall]
        exact Ne.symm hslot
      have hkept : b.others i (calls ++ [last]) = b.others i calls ++ [last] := by
        simp [others, List.filter_append, hslot]
      rw [run_concat, ih hbefore, hkept, run_concat, b.commute hne]

theorem callsOf_others (i j : ι) (calls : List κ) :
    b.callsOf j (b.others i calls) = if j = i then [] else b.callsOf j calls := by
  rw [callsOf, others, List.filter_filter]
  split
  · next heq =>
    subst heq
    rw [List.filter_eq_nil_iff]
    simp
  · next hne =>
    apply List.filter_congr
    intro call _
    by_cases hj : b.slot call = some j
    · simp [hj, hne]
    · simp [hj]

theorem adding_others (i : ι) (calls : List κ) : b.adding (b.others i calls) = b.adding calls := by
  rw [adding, others, List.filter_filter]
  apply List.filter_congr
  intro call _
  by_cases hcall : b.slot call = none
  · simp [hcall]
  · simp [hcall]

/-- A sequence without its calls of one setting is shorter if it has any. -/
theorem length_others_lt {i : ι} {calls : List κ} (h : b.callsOf i calls ≠ []) :
    (b.others i calls).length < calls.length := by
  obtain ⟨call, hcall⟩ := List.exists_mem_of_ne_nil _ h
  obtain ⟨hmem, hslot⟩ := List.mem_filter.mp hcall
  apply List.length_filter_lt_length_iff_exists.mpr
  exact ⟨call, hmem, by simpa using hslot⟩

/-- Calls that set nothing all add. -/
theorem adding_eq_self {calls : List κ} (h : ∀ i, b.callsOf i calls = []) :
    b.adding calls = calls := by
  apply List.filter_eq_self.mpr
  intro call hcall
  by_contra hsets
  obtain ⟨i, hi⟩ := Option.ne_none_iff_exists'.mp fun hnone => hsets (by simpa using hnone)
  exact List.filter_eq_nil_iff.mp (h i) call hcall (by simpa using hi)

/-- **The last values count**: calls that agree on the last value of each
setting, and add the same, make the same draft. -/
theorem run_congr {draft : δ} {xs ys : List κ} (hagree : b.Agree xs ys)
    (hadd : b.run draft (b.adding xs) = b.run draft (b.adding ys)) :
    b.run draft xs = b.run draft ys := by
  induction hn : xs.length using Nat.strongRecOn generalizing xs ys with
  | ind n ih =>
    by_cases hnone : ∀ i, b.callsOf i xs = []
    · have hnone' : ∀ i, b.callsOf i ys = [] := by
        intro i
        rw [← List.getLast?_eq_none_iff, ← hagree i, hnone i, List.getLast?_nil]
      rwa [b.adding_eq_self hnone, b.adding_eq_self hnone'] at hadd
    · -- a setting is left out of both sequences, and they still agree on the others
      obtain ⟨i, hne⟩ := not_forall.mp hnone
      obtain ⟨last, hlast⟩ := Option.isSome_iff_exists.mp (List.getLast?_isSome.mpr hne)
      have hrest : b.Agree (b.others i xs) (b.others i ys) := by
        intro j
        rw [callsOf_others, callsOf_others]
        split
        · rfl
        · exact hagree j
      have hsame : b.run draft (b.others i xs) = b.run draft (b.others i ys) :=
        ih _ (hn ▸ b.length_others_lt hne) hrest (by rwa [adding_others, adding_others]) rfl
      rw [b.run_eq_set_of_last draft hlast,
        b.run_eq_set_of_last draft ((hagree i).symm.trans hlast), hsame]

/-- What is built is the same, and what it is compiled to. -/
theorem outcome_congr {draft : δ} {xs ys : List κ} (hagree : b.Agree xs ys)
    (hadd : b.run draft (b.adding xs) = b.run draft (b.adding ys)) :
    b.outcome draft xs = b.outcome draft ys := by
  rw [outcome, outcome, b.run_congr hagree hadd]

/-- Where every call sets a setting, only the last values count. -/
theorem outcome_of_agree (hsets : ∀ call, b.slot call ≠ none) {draft : δ} {xs ys : List κ}
    (hagree : b.Agree xs ys) : b.outcome draft xs = b.outcome draft ys := by
  have hnone (calls : List κ) : b.adding calls = [] := by
    rw [adding, List.filter_eq_nil_iff]
    intro call _
    simp [hsets call]
  exact b.outcome_congr hagree (by rw [hnone, hnone])

/-- A call that a later one of its setting overrides leaves no trace. -/
theorem overriddenLeaveNoTrace : b.OverriddenLeaveNoTrace := by
  intro draft before between after first second i hfirst hsecond
  have hothers : b.others i (before ++ first :: between) = b.others i (before ++ between) := by
    simp [others, List.filter_append, hfirst]
  have hset : b.set (b.run draft (before ++ first :: between)) second
      = b.set (b.run draft (before ++ between)) second := by
    rw [b.set_run_others hsecond, hothers, ← b.set_run_others hsecond]
  have hrun : b.run draft (before ++ first :: between ++ second :: after)
      = b.run draft (before ++ between ++ second :: after) := by
    rw [run_append, run_append b draft (before ++ between)]
    exact congrArg (b.run · after) hset
  rw [outcome, outcome, hrun]

end Builder

/-! ## The kinds of queries -/

/-- Which setting of the results a change sets. -/
def ResultSetting.slot (setting : ResultSetting) : Option (Nat × Nat) := some (0, setting.ctorIdx)

/-- A change to the results overwrites an earlier one of its setting. -/
theorem Results.set_set {first second : ResultSetting} (h : first.slot = second.slot)
    (results : Results) : (results.set first).set second = results.set second := by
  cases first <;> cases second <;> first | rfl | cases h

/-- Changes of different settings of the results can change places. -/
theorem Results.set_comm {first second : ResultSetting} (h : first.slot ≠ second.slot)
    (results : Results) :
    (results.set first).set second = (results.set second).set first := by
  cases first <;> cases second <;> first | rfl | exact absurd rfl h

namespace Nearest

/-- Which setting a call sets. -/
def Setting.slot : Setting → Option (Nat × Nat)
  | .result setting => setting.slot
  | setting => some (setting.ctorIdx, 0)

/-- How calls make a search for neighbours. -/
def builder : Builder Draft Setting (Nat × Nat) Nearest where
  set := Draft.set
  build := Draft.build
  compile := compile
  slot := Setting.slot
  overwrite := by
    intro first second i hfirst hsecond draft
    have h := hfirst.trans hsecond.symm
    cases first <;> cases second
    case result.result =>
      exact congrArg (fun results => { draft with results }) (Results.set_set h _)
    all_goals first | rfl | cases h
  commute := by
    intro first second h draft
    cases first <;> cases second
    case result.result =>
      exact congrArg (fun results => { draft with results }) (Results.set_comm h _)
    all_goals first | rfl | exact absurd rfl h

end Nearest

namespace Range

/-- Which setting a call sets. -/
def Setting.slot : Setting → Option (Nat × Nat)
  | .result setting => setting.slot
  | setting => some (setting.ctorIdx, 0)

/-- How calls make a search within a distance. -/
def builder : Builder Draft Setting (Nat × Nat) Range where
  set := Draft.set
  build := Draft.build
  compile := compile
  slot := Setting.slot
  overwrite := by
    intro first second i hfirst hsecond draft
    have h := hfirst.trans hsecond.symm
    cases first <;> cases second
    case result.result =>
      exact congrArg (fun results => { draft with results }) (Results.set_set h _)
    all_goals first | rfl | cases h
  commute := by
    intro first second h draft
    cases first <;> cases second
    case result.result =>
      exact congrArg (fun results => { draft with results }) (Results.set_comm h _)
    all_goals first | rfl | exact absurd rfl h

end Range

namespace Listing

/-- How calls make a listing. -/
def builder : Builder Draft ResultSetting (Nat × Nat) Listing where
  set := Draft.set
  build := Draft.build
  compile := compile
  slot := ResultSetting.slot
  overwrite := fun hfirst hsecond draft =>
    congrArg (fun results => { draft with results })
      (Results.set_set (hfirst.trans hsecond.symm) draft.results)
  commute := fun h draft =>
    congrArg (fun results => { draft with results }) (Results.set_comm h draft.results)

end Listing

namespace Hybrid

/-- How calls make a hybrid search. -/
def builder : Builder Draft Setting Nat Hybrid where
  set := Draft.set
  build := Draft.build
  compile := compile
  slot := fun setting => some setting.ctorIdx
  overwrite := by
    intro first second i hfirst hsecond draft
    have h := hfirst.trans hsecond.symm
    cases first <;> cases second <;> first | rfl | cases h
  commute := by
    intro first second h draft
    cases first <;> cases second <;> first | rfl | exact absurd rfl h

end Hybrid

namespace MultiVector

/-- Which setting a call sets. A vector is added. -/
def Setting.slot : Setting → Option Nat
  | .vector _ => none
  | setting => some setting.ctorIdx

/-- The vector that a call adds. -/
def Setting.vector? : Setting → Option Embedding
  | .vector added => some added
  | _ => none

/-- How calls make a search over several vectors. -/
def builder : Builder Draft Setting Nat MultiVector where
  set := Draft.set
  build := Draft.build
  compile := compile
  slot := Setting.slot
  overwrite := by
    intro first second i hfirst hsecond draft
    have h := hfirst.trans hsecond.symm
    cases first <;> cases second <;> first | rfl | cases hfirst; done | cases h
  commute := by
    intro first second h draft
    cases first <;> cases second <;> first | rfl | exact absurd rfl h

/-- What the adding calls leave: the vectors after those that were there. -/
theorem run_adding (draft : Draft) (calls : List Setting) :
    builder.run draft (builder.adding calls)
      = { draft with vectors := draft.vectors ++ calls.filterMap Setting.vector? } := by
  induction calls generalizing draft with
  | nil => exact congrArg (fun vectors => { draft with vectors }) (List.append_nil _).symm
  | cons call calls ih =>
    cases call with
    | vector vector =>
      refine (ih _).trans ?_
      exact congrArg (fun vectors => { draft with vectors }) (List.append_assoc _ _ _)
    | _ => exact ih draft

end MultiVector

namespace FullText

/-- Which setting a call sets. A field is added. -/
def Setting.slot : Setting → Option (Nat × Nat)
  | .result setting => setting.slot
  | .field _ _ => none
  | setting => some (setting.ctorIdx, 0)

/-- The fields after a call. -/
def Setting.fieldsAfter (fields : List WeightedField) : Setting → List WeightedField
  | .field name weight => WeightedField.put name weight fields
  | _ => fields

/-- How calls make a search for words. -/
def builder : Builder Draft Setting (Nat × Nat) FullText where
  set := Draft.set
  build := Draft.build
  compile := compile
  slot := Setting.slot
  overwrite := by
    intro first second i hfirst hsecond draft
    have h := hfirst.trans hsecond.symm
    cases first <;> cases second
    case result.result =>
      exact congrArg (fun results => { draft with results }) (Results.set_set h _)
    all_goals first | rfl | cases hfirst; done | cases h
  commute := by
    intro first second h draft
    cases first <;> cases second
    case result.result =>
      exact congrArg (fun results => { draft with results }) (Results.set_comm h _)
    all_goals first | rfl | exact absurd rfl h

/-- The fields after calls are those that the calls leave of the first ones. -/
theorem fields_run (draft : Draft) (calls : List Setting) :
    (builder.run draft calls).fields = calls.foldl Setting.fieldsAfter draft.fields := by
  refine (List.foldl_hom Draft.fields fun draft call => ?_).symm
  cases call <;> rfl

/-- What the adding calls leave: the fields after all calls. -/
theorem run_adding (draft : Draft) (calls : List Setting) :
    builder.run draft (builder.adding calls)
      = { draft with fields := (builder.run draft calls).fields } := by
  rw [fields_run]
  induction calls generalizing draft with
  | nil => rfl
  | cons call calls ih =>
    cases call with
    | field field weight => exact ih _
    | _ => exact ih draft

end FullText

/-! ## A field that is given again -/

namespace WeightedField

/-- The weight of a field that is given again is replaced. -/
theorem put_put (field : String) (weight other : Double) (fields : List WeightedField) :
    put field other (put field weight fields) = put field other fields := by
  induction fields with
  | nil => simp [put]
  | cons first rest ih =>
    by_cases hfirst : first.field = field
    · simp [put, hfirst]
    · simp [put, hfirst, ih]

theorem mem_put_self (field : String) (weight : Double) (fields : List WeightedField) :
    ∃ f ∈ put field weight fields, f.field = field := by
  induction fields with
  | nil => exact ⟨⟨field, weight⟩, List.mem_singleton_self _, rfl⟩
  | cons first rest ih =>
    by_cases hfirst : first.field = field
    · exact ⟨⟨field, weight⟩, by simp [put, hfirst], rfl⟩
    · obtain ⟨f, hf, hfield⟩ := ih
      exact ⟨f, by simp [put, hfirst, hf], hfield⟩

theorem mem_put {name field : String} (weight : Double) {fields : List WeightedField}
    (h : ∃ f ∈ fields, f.field = name) : ∃ f ∈ put field weight fields, f.field = name := by
  induction fields with
  | nil =>
    obtain ⟨f, hf, -⟩ := h
    cases hf
  | cons first rest ih =>
    by_cases hfirst : first.field = field
    · rw [put, if_pos (beq_iff_eq.mpr hfirst)]
      obtain ⟨f, hf, hname⟩ := h
      rcases List.mem_cons.mp hf with rfl | hrest
      · exact ⟨⟨field, weight⟩, List.mem_cons_self, hfirst.symm.trans hname⟩
      · exact ⟨f, List.mem_cons_of_mem _ hrest, hname⟩
    · rw [put, if_neg (by simpa using hfirst)]
      obtain ⟨f, hf, hname⟩ := h
      rcases List.mem_cons.mp hf with rfl | hrest
      · exact ⟨f, List.mem_cons_self, hname⟩
      · obtain ⟨g, hg, hgname⟩ := ih ⟨f, hrest, hname⟩
        exact ⟨g, List.mem_cons_of_mem _ hg, hgname⟩

/-- The weight of a field that is there can be replaced before another field
is given or after it. -/
theorem put_comm {name field : String} (hne : field ≠ name) (weight other : Double)
    {fields : List WeightedField} (h : ∃ f ∈ fields, f.field = name) :
    put name weight (put field other fields) = put field other (put name weight fields) := by
  induction fields with
  | nil =>
    obtain ⟨f, hf, -⟩ := h
    cases hf
  | cons first rest ih =>
    by_cases hname : first.field = name
    · simp [put, hname, hne.symm]
    · by_cases hfield : first.field = field
      · simp [put, hfield, hne]
      · obtain ⟨f, hf, hfname⟩ := h
        have hrest : f ∈ rest := by
          rcases List.mem_cons.mp hf with rfl | hrest
          · exact absurd hfname hname
          · exact hrest
        simp [put, hname, hfield, ih ⟨f, hrest, hfname⟩]

end WeightedField

namespace FullText

open WeightedField (put)

/-- Fields that differ in the weight of one only do so until it is given
again. -/
theorem put_foldl_fieldsAfter {name : String} {weight : Double} (calls : List Setting)
    {fields others : List WeightedField} (hfields : ∃ f ∈ fields, f.field = name)
    (hothers : ∃ f ∈ others, f.field = name) (h : put name weight fields = put name weight others) :
    put name weight (calls.foldl Setting.fieldsAfter fields)
      = put name weight (calls.foldl Setting.fieldsAfter others) := by
  induction calls generalizing fields others with
  | nil => exact h
  | cons call calls ih =>
    cases call with
    | field field other =>
      refine ih (WeightedField.mem_put other hfields) (WeightedField.mem_put other hothers) ?_
      rw [Setting.fieldsAfter, Setting.fieldsAfter]
      by_cases hfield : field = name
      · subst hfield
        rw [WeightedField.put_put, WeightedField.put_put, h]
      · rw [WeightedField.put_comm hfield _ _ hfields, WeightedField.put_comm hfield _ _ hothers, h]
    | _ => exact ih hfields hothers h

/-- The weight of a field that is given again leaves no trace. -/
theorem outcome_field_override (draft : Draft) (before between after : List Setting) (name : String)
    (weight other last : Double) :
    builder.outcome draft (before ++ .field name weight :: between ++ .field name last :: after)
      = builder.outcome draft
        (before ++ .field name other :: between ++ .field name last :: after) := by
  apply builder.outcome_congr
  · intro i
    simp [Builder.callsOf, List.filter_append, builder, Setting.slot]
  · have hfields (weight : Double) : (builder.run draft
          (before ++ .field name weight :: between ++ .field name last :: after)).fields
        = after.foldl Setting.fieldsAfter (put name last (between.foldl Setting.fieldsAfter
          (put name weight (before.foldl Setting.fieldsAfter draft.fields)))) := by
      rw [fields_run, List.foldl_append, List.foldl_append]
      rfl
    have hreplaced (fields : List WeightedField) :
        put name last (put name weight fields) = put name last (put name other fields) := by
      rw [WeightedField.put_put, WeightedField.put_put]
    rw [run_adding, run_adding, hfields, hfields,
      put_foldl_fieldsAfter between (WeightedField.mem_put_self name weight _)
        (WeightedField.mem_put_self name other _) (hreplaced _)]

end FullText

/-! ## The order of calls -/

/-- **Only the last values count.** Whatever the order of the calls and
however often they are made, calls that agree on the last value of each
setting, and on what they add, build the same query or are refused for the
same cause; and a call that is overridden leaves no trace. -/
theorem only_last_values_count :
    (∀ draft xs ys, Nearest.builder.Agree xs ys →
      Nearest.builder.outcome draft xs = Nearest.builder.outcome draft ys) ∧
    (∀ draft xs ys, Range.builder.Agree xs ys →
      Range.builder.outcome draft xs = Range.builder.outcome draft ys) ∧
    (∀ draft xs ys, FullText.builder.Agree xs ys →
      (FullText.builder.run draft xs).fields = (FullText.builder.run draft ys).fields →
      FullText.builder.outcome draft xs = FullText.builder.outcome draft ys) ∧
    (∀ draft xs ys, Listing.builder.Agree xs ys →
      Listing.builder.outcome draft xs = Listing.builder.outcome draft ys) ∧
    (∀ draft xs ys, Hybrid.builder.Agree xs ys →
      Hybrid.builder.outcome draft xs = Hybrid.builder.outcome draft ys) ∧
    (∀ draft xs ys, MultiVector.builder.Agree xs ys →
      xs.filterMap MultiVector.Setting.vector? = ys.filterMap MultiVector.Setting.vector? →
      MultiVector.builder.outcome draft xs = MultiVector.builder.outcome draft ys) ∧
    (Nearest.builder.OverriddenLeaveNoTrace ∧ Range.builder.OverriddenLeaveNoTrace ∧
      FullText.builder.OverriddenLeaveNoTrace ∧ Listing.builder.OverriddenLeaveNoTrace ∧
      Hybrid.builder.OverriddenLeaveNoTrace ∧ MultiVector.builder.OverriddenLeaveNoTrace) ∧
    ∀ (draft : FullText.Draft) (before between after : List FullText.Setting) (name : String)
      (weight other last : Double),
      FullText.builder.outcome draft
          (before ++ .field name weight :: between ++ .field name last :: after)
        = FullText.builder.outcome draft
          (before ++ .field name other :: between ++ .field name last :: after) := by
  refine ⟨?nearest, ?range, ?fullText, ?listing, ?hybrid, ?multiVector, ?overridden,
    FullText.outcome_field_override⟩
  case nearest =>
    intro draft xs ys hagree
    refine Nearest.builder.outcome_of_agree (fun call => ?_) hagree
    cases call <;> exact Option.some_ne_none _
  case range =>
    intro draft xs ys hagree
    refine Range.builder.outcome_of_agree (fun call => ?_) hagree
    cases call <;> exact Option.some_ne_none _
  case fullText =>
    intro draft xs ys hagree hfields
    apply FullText.builder.outcome_congr hagree
    rw [FullText.run_adding, FullText.run_adding, hfields]
  case listing =>
    intro draft xs ys hagree
    exact Listing.builder.outcome_of_agree (fun _ => Option.some_ne_none _) hagree
  case hybrid =>
    intro draft xs ys hagree
    exact Hybrid.builder.outcome_of_agree (fun _ => Option.some_ne_none _) hagree
  case multiVector =>
    intro draft xs ys hagree hvectors
    apply MultiVector.builder.outcome_congr hagree
    rw [MultiVector.run_adding, MultiVector.run_adding, hvectors]
  case overridden =>
    exact ⟨Nearest.builder.overriddenLeaveNoTrace, Range.builder.overriddenLeaveNoTrace,
      FullText.builder.overriddenLeaveNoTrace, Listing.builder.overriddenLeaveNoTrace,
      Hybrid.builder.overriddenLeaveNoTrace, MultiVector.builder.overriddenLeaveNoTrace⟩

/-- Calls in which a weight of zero and a scorer without a name are overridden,
and calls in another order without them. -/
theorem only_last_values_count_reordered :
    let draft : FullText.Draft := { text := "wide screen" }
    let half : Double := Decimal.toBinary ⟨false, 5, -1⟩
    let xs : List FullText.Setting :=
      [.scorer "", .field "title" Binary.zero, .scorer "TFIDF", .field "title" half]
    let ys : List FullText.Setting := [.field "title" half, .scorer "TFIDF"]
    FullText.builder.Agree xs ys ∧
    (FullText.builder.run draft xs).fields = (FullText.builder.run draft ys).fields ∧
    FullText.builder.outcome draft xs = FullText.builder.outcome draft ys ∧
    (FullText.Setting.scorer "").slot = some (4, 0) ∧
    (FullText.Setting.scorer "TFIDF").slot = some (4, 0) ∧
    FullText.builder.outcome draft [.field "title" half, .scorer "", .scorer "TFIDF"]
      = FullText.builder.outcome draft [.field "title" half, .scorer "TFIDF"] := by
  intro draft half xs ys
  obtain ⟨-, -, hfullText, -, -, -, ⟨-, -, hoverridden, -⟩, -⟩ := only_last_values_count
  have hagree : FullText.builder.Agree xs ys := by
    intro i
    by_cases hscorer : (4, 0) = i
    · subst hscorer
      rfl
    · -- no call sets another setting
      have hslot (scorer : String) : FullText.builder.slot (.scorer scorer) ≠ some i :=
        fun h => hscorer (Option.some.inj h)
      have hfield (weight : Double) : FullText.builder.slot (.field "title" weight) ≠ some i :=
        (Option.some_ne_none i).symm
      simp [Builder.callsOf, xs, ys, hslot, hfield]
  have hfields : (FullText.builder.run draft xs).fields
      = (FullText.builder.run draft ys).fields := by decide +kernel
  refine ⟨hagree, hfields, hfullText draft xs ys hagree hfields, rfl, rfl, ?_⟩
  exact hoverridden draft [.field "title" half] [] [] (.scorer "") (.scorer "TFIDF") _ rfl rfl

end SearchQuery.Query
