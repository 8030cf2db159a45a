import SearchQuery.Proofs.Text.Words

/-!
# Lower case is settled

What a text is in lower case stays as it is when it is lower-cased again.
This is a fact about the table of simple mappings: no run of it leads into
a run. The table holds runs of code points, so the fact is decided run by
run (`LowerRun.avoids`) and not character by character. In the same way no
run leads to white space or to the comma.

## What is proved

`lower_lower` — lower-casing twice is lower-casing once, although one rule
looks at the neighbours of a character: it is about the capital sigma
alone, and none is left.

`isSpace_of_mem_lower` and `isBare_lower` — a word in lower case is a word
still, and no comma comes to stand at its ends.
-/

namespace SearchQuery.Text

/-! ## Runs -/

namespace LowerRun

/-- The run maps this code point. -/
def Maps (run : LowerRun) (n : Nat) : Prop :=
  run.first ≤ n ∧ n ≤ run.last ∧ (n - run.first) % run.stride = 0

/-- Where the run leads from a code point. -/
def image (run : LowerRun) (n : Nat) : Nat := ((n : Int) + run.shift).toNat

/-- The run does not lead to the code points from a first to a last one in
steps of a stride: all that it leads to comes before them, or after them, or
between two of them. -/
def avoids (run : LowerRun) (first last stride : Nat) : Bool :=
  Nat.blt (run.image run.last) first || Nat.blt last (run.image run.first) ||
    ((Nat.beq run.first run.last || Nat.beq run.stride stride) &&
      Nat.blt 0 ((run.image run.first - first) % stride))

/-- Every code point of the run leads to a character. -/
def isSound (run : LowerRun) : Bool :=
  Nat.blt (run.image run.last) 0xD800 ||
    (Nat.blt 0xDFFF (run.image run.first) && Nat.blt (run.image run.last) 0x110000)

theorem image_between {run : LowerRun} {n : Nat} (h : run.Maps n) :
    run.image run.first ≤ run.image n ∧ run.image n ≤ run.image run.last := by
  obtain ⟨hfirst, hlast, -⟩ := h
  unfold image
  omega

theorem not_maps_image {run : LowerRun} {first last stride n : Nat} (h : run.Maps n)
    (havoids : run.avoids first last stride = true) :
    ¬(first ≤ run.image n ∧ run.image n ≤ last ∧ (run.image n - first) % stride = 0) := by
  rintro ⟨hfirst, hlast, hstep⟩
  obtain ⟨hlower, hupper⟩ := image_between h
  simp only [avoids, Bool.or_eq_true, Bool.and_eq_true, Nat.blt_eq, Nat.beq_eq] at havoids
  rcases havoids with (hbefore | hafter) | ⟨hrun, hbetween⟩
  · omega
  · omega
  · obtain ⟨hge, hle, hsteps⟩ := h
    rcases hrun with hsingle | hstride
    · have hn : n = run.first := by omega
      rw [hn] at hstep
      omega
    · -- the steps of the run are steps of the stride
      have hpos : first < run.image run.first := by
        by_contra hnot
        rw [Nat.sub_eq_zero_of_le (Nat.le_of_not_lt hnot), Nat.zero_mod] at hbetween
        exact Nat.lt_irrefl 0 hbetween
      have hsplit : run.image n - first = (run.image run.first - first) + (n - run.first) := by
        unfold image at *
        omega
      rw [hstride] at hsteps
      rw [hsplit, Nat.add_mod, hsteps, Nat.add_zero, Nat.mod_mod] at hstep
      omega

end LowerRun

/-- No run leads into a run. -/
theorem lowerRuns_avoid_lowerRuns : (lowerRuns.all fun run => lowerRuns.all fun other =>
    run.avoids other.first other.last other.stride) = true := by
  decide +kernel

/-- No run leads to white space. -/
theorem lowerRuns_avoid_blankRanges : (lowerRuns.all fun run => blankRanges.all fun range =>
    run.avoids range.1 range.2 1) = true := by
  decide +kernel

/-- No run leads to the comma or to the one character of two. -/
theorem lowerRuns_avoid_comma_and_dotted : (lowerRuns.all fun run =>
    run.avoids 0x2C 0x2C 1 && run.avoids 0x130 0x130 1) = true := by
  decide +kernel

theorem lowerRuns_isSound : (lowerRuns.all LowerRun.isSound) = true := by
  decide +kernel

/-! ## Characters -/

/-- A run is found for a character that it maps. -/
theorem maps_of_lowerRun?_eq_some {c : Char} {run : LowerRun} (h : lowerRun? c = some run) :
    run ∈ lowerRuns ∧ run.Maps c.toNat := by
  refine ⟨List.mem_of_find?_eq_some h, ?_⟩
  have hfound := List.find?_some h
  simp only [Bool.and_eq_true, decide_eq_true_eq, beq_iff_eq] at hfound
  exact ⟨hfound.1.1, hfound.1.2, hfound.2⟩

theorem lowerRun?_eq_none {c : Char} (h : ∀ run ∈ lowerRuns, ¬run.Maps c.toNat) :
    lowerRun? c = none := by
  apply List.find?_eq_none.mpr
  intro run hrun hfound
  simp only [Bool.and_eq_true, decide_eq_true_eq, beq_iff_eq] at hfound
  exact h run hrun ⟨hfound.1.1, hfound.1.2, hfound.2⟩

/-- The character that a run leads to has the code point that it leads to. -/
theorem toNat_image {run : LowerRun} {n : Nat} (hrun : run ∈ lowerRuns) (h : run.Maps n) :
    (Char.ofNat (run.image n)).toNat = run.image n := by
  have hsound := List.all_eq_true.mp lowerRuns_isSound run hrun
  obtain ⟨hlower, hupper⟩ := LowerRun.image_between h
  simp only [LowerRun.isSound, Bool.or_eq_true, Bool.and_eq_true, Nat.blt_eq] at hsound
  have hvalid : (run.image n).isValidChar := by
    unfold Nat.isValidChar
    omega
  rw [Char.ofNat, dif_pos hvalid]
  rfl

/-- A character that lower-casing leaves as it is, wherever it stands. -/
def IsSettled (c : Char) : Prop := lowerChar c = [c] ∧ c ≠ 'Σ'

instance (c : Char) : Decidable (IsSettled c) :=
  inferInstanceAs (Decidable (lowerChar c = [c] ∧ c ≠ 'Σ'))

/-- A character outside the runs is settled, but for the one of two. -/
theorem isSettled_of_lowerRun?_eq_none {c : Char} (hne : c ≠ 'İ') (h : lowerRun? c = none) :
    IsSettled c := by
  refine ⟨?_, ?_⟩
  · rw [lowerChar, if_neg (by simpa using hne), h]
  · rintro rfl
    exact absurd h (by decide +kernel)

/-- What a character is in lower case: its mapping, or the final sigma. -/
inductive IsLowered : Char → List Char → Prop
  | mapped (c : Char) : IsLowered c (lowerChar c)
  | final : IsLowered 'Σ' ['ς']

/-- The forms of a character: those of the one of two, the one that a run
leads to, or the character itself. -/
theorem IsLowered.cases_mem {c d : Char} {part : List Char} (h : IsLowered c part) (hd : d ∈ part) :
    (d = 'i' ∨ d = Char.ofNat 0x307 ∨ d = 'ς') ∨
    (∃ run ∈ lowerRuns, run.Maps c.toNat ∧ d = Char.ofNat (run.image c.toNat)) ∨
    (d = c ∧ c ≠ 'İ' ∧ lowerRun? c = none) := by
  cases h with
  | final => exact .inl (.inr (.inr (List.mem_singleton.mp hd)))
  | mapped =>
    unfold lowerChar at hd
    split at hd
    · rcases List.mem_cons.mp hd with hi | hdot
      · exact .inl (.inl hi)
      · exact .inl (.inr (.inl (List.mem_singleton.mp hdot)))
    · next hne =>
      split at hd
      · next run hrun =>
        obtain ⟨hmem, hmaps⟩ := maps_of_lowerRun?_eq_some hrun
        exact .inr (.inl ⟨run, hmem, hmaps, List.mem_singleton.mp hd⟩)
      · next hnone =>
        exact .inr (.inr ⟨List.mem_singleton.mp hd, by simpa using hne, hnone⟩)

theorem IsLowered.ne_nil {c : Char} {part : List Char} (h : IsLowered c part) : part ≠ [] := by
  cases h with
  | mapped => exact lowerChar_ne_nil c
  | final => exact List.cons_ne_nil _ _

/-- What a character is in lower case is settled. -/
theorem IsLowered.isSettled {c d : Char} {part : List Char} (h : IsLowered c part)
    (hd : d ∈ part) : IsSettled d := by
  rcases h.cases_mem hd with hspecial | ⟨run, hrun, hmaps, rfl⟩ | ⟨rfl, hne, hnone⟩
  · rcases hspecial with rfl | rfl | rfl
    all_goals decide +kernel
  · have hnat := toNat_image hrun hmaps
    apply isSettled_of_lowerRun?_eq_none
    · intro hdotted
      have havoids := List.all_eq_true.mp lowerRuns_avoid_comma_and_dotted run hrun
      apply LowerRun.not_maps_image hmaps (Bool.and_eq_true_iff.mp havoids).2
      have hcode : run.image c.toNat = 0x130 := by rw [← hnat, hdotted]; rfl
      rw [hcode]
      decide
    · apply lowerRun?_eq_none
      intro other hother
      rw [hnat]
      have havoids := List.all_eq_true.mp lowerRuns_avoid_lowerRuns run hrun
      exact LowerRun.not_maps_image hmaps (List.all_eq_true.mp havoids other hother)
  · exact isSettled_of_lowerRun?_eq_none hne hnone

/-- A class that no character enters by being lower-cased. -/
def IsKeptOut (p : Char → Bool) : Prop :=
  ∀ {c d : Char} {part : List Char}, IsLowered c part → d ∈ part → p d = true → p c = true

theorem isKeptOut_isSpace : IsKeptOut isSpace := by
  intro c d part h hd hspace
  rcases h.cases_mem hd with hspecial | ⟨run, hrun, hmaps, rfl⟩ | ⟨rfl, -, -⟩
  · rcases hspecial with rfl | rfl | rfl
    all_goals exact absurd hspace (by decide)
  · exfalso
    obtain ⟨range, hrange, hin⟩ := List.any_eq_true.mp hspace
    rw [toNat_image hrun hmaps] at hin
    simp only [Bool.and_eq_true, decide_eq_true_eq] at hin
    have havoids := List.all_eq_true.mp lowerRuns_avoid_blankRanges run hrun
    exact LowerRun.not_maps_image hmaps (List.all_eq_true.mp havoids range hrange)
      ⟨hin.1, hin.2, Nat.mod_one _⟩
  · exact hspace

theorem isKeptOut_comma : IsKeptOut (· == ',') := by
  intro c d part h hd hcomma
  rcases h.cases_mem hd with hspecial | ⟨run, hrun, hmaps, rfl⟩ | ⟨rfl, -, -⟩
  · rcases hspecial with rfl | rfl | rfl
    all_goals exact absurd hcomma (by decide)
  · exfalso
    have havoids := List.all_eq_true.mp lowerRuns_avoid_comma_and_dotted run hrun
    apply LowerRun.not_maps_image hmaps (Bool.and_eq_true_iff.mp havoids).1
    have hcode : run.image c.toNat = 0x2C := by
      rw [← toNat_image hrun hmaps, beq_iff_eq.mp hcomma]
      rfl
    rw [hcode]
    decide
  · exact hcomma

/-! ## Texts -/

/-- A text in lower case begins with what its first character is there. -/
theorem exists_lowerAfter_cons (before : List Char) (c : Char) (cs : List Char) :
    ∃ part, IsLowered c part ∧
      lowerAfter before (c :: cs) = part ++ lowerAfter (c :: before) cs := by
  by_cases hc : c = 'Σ'
  · subst hc
    rw [lowerAfter]
    by_cases hfinal : (leadsToCased before && !leadsToCased cs) = true
    · exact ⟨['ς'], .final, by simp [hfinal]⟩
    · have hsigma : lowerChar 'Σ' = ['σ'] := by decide +kernel
      refine ⟨lowerChar 'Σ', .mapped _, ?_⟩
      simp [hfinal, hsigma]
  · refine ⟨lowerChar c, .mapped c, ?_⟩
    rw [lowerAfter]
    simp [hc]

/-- A text in lower case ends with what its last character is there. -/
theorem exists_lowerAfter_concat (before cs : List Char) (c : Char) :
    ∃ front part, IsLowered c part ∧ lowerAfter before (cs ++ [c]) = front ++ part := by
  induction cs generalizing before with
  | nil =>
    obtain ⟨part, hpart, hlower⟩ := exists_lowerAfter_cons before c []
    refine ⟨[], part, hpart, ?_⟩
    rw [List.nil_append, hlower, lowerAfter, List.append_nil, List.nil_append]
  | cons d cs ih =>
    obtain ⟨first, -, hfirst⟩ := exists_lowerAfter_cons before d (cs ++ [c])
    obtain ⟨front, part, hpart, hlower⟩ := ih (d :: before)
    refine ⟨first ++ front, part, hpart, ?_⟩
    rw [List.cons_append, hfirst, hlower, List.append_assoc]

/-- Every character of a text in lower case is what one of the text's is
there. -/
theorem exists_isLowered_of_mem {before cs : List Char} {d : Char}
    (h : d ∈ lowerAfter before cs) : ∃ c ∈ cs, ∃ part, IsLowered c part ∧ d ∈ part := by
  induction cs generalizing before with
  | nil => cases h
  | cons c cs ih =>
    obtain ⟨part, hpart, hlower⟩ := exists_lowerAfter_cons before c cs
    rw [hlower] at h
    rcases List.mem_append.mp h with hmem | hmem
    · exact ⟨c, List.mem_cons_self, part, hpart, hmem⟩
    · obtain ⟨c', hc', rest⟩ := ih hmem
      exact ⟨c', List.mem_cons_of_mem _ hc', rest⟩

/-- A text of settled characters is in lower case. -/
theorem lowerAfter_eq_self {before cs : List Char} (h : ∀ c ∈ cs, IsSettled c) :
    lowerAfter before cs = cs := by
  induction cs generalizing before with
  | nil => rfl
  | cons c cs ih =>
    obtain ⟨⟨hc, hne⟩, hrest⟩ := List.forall_mem_cons.mp h
    rw [lowerAfter, ih hrest]
    simp [hne, hc]

/-- **Lower case is settled**: lower-casing twice is lower-casing once. -/
theorem lower_lower (cs : List Char) : lower (lower cs) = lower cs := by
  apply lowerAfter_eq_self
  intro d hd
  obtain ⟨c, -, part, hpart, hmem⟩ := exists_isLowered_of_mem hd
  exact hpart.isSettled hmem

/-- Lower-casing a word brings no white space into it. -/
theorem isSpace_of_mem_lower {cs : List Char} (h : ∀ c ∈ cs, isSpace c = false) :
    ∀ d ∈ lower cs, isSpace d = false := by
  intro d hd
  obtain ⟨c, hc, part, hpart, hmem⟩ := exists_isLowered_of_mem hd
  by_contra hspace
  rw [Bool.not_eq_false] at hspace
  exact Bool.false_ne_true ((h c hc).symm.trans (isKeptOut_isSpace hpart hmem hspace))

/-! ## Ends -/

/-- Lower-casing brings no character of a class to an end that was without
one. -/
theorem isBare_lower {p : Char → Bool} (hp : IsKeptOut p) {cs : List Char} (h : IsBare p cs) :
    IsBare p (lower cs) := by
  have hout {c d : Char} {part : List Char} (hpart : IsLowered c part) (hd : d ∈ part)
      (hc : p c = false) : p d = false := by
    by_contra hpd
    rw [Bool.not_eq_false] at hpd
    exact Bool.false_ne_true (hc.symm.trans (hp hpart hd hpd))
  refine ⟨?_, ?_⟩
  · intro d hd
    cases cs with
    | nil => cases hd
    | cons c cs =>
      obtain ⟨part, hpart, hlower⟩ := exists_lowerAfter_cons [] c cs
      obtain ⟨first, rest, rfl⟩ := List.exists_cons_of_ne_nil hpart.ne_nil
      rw [lower, hlower] at hd
      cases hd
      exact hout hpart List.mem_cons_self (h.1 c rfl)
  · intro d hd
    rcases List.eq_nil_or_concat cs with rfl | ⟨front, c, rfl⟩
    · cases hd
    · obtain ⟨before, part, hpart, hlower⟩ := exists_lowerAfter_concat [] front c
      rw [List.concat_eq_append] at hd h
      rw [lower, hlower, List.getLast?_append, List.getLast?_eq_some_getLast hpart.ne_nil,
        Option.some_or, ← List.getLast?_eq_some_getLast] at hd
      refine hout hpart (List.mem_of_getLast? hd) (h.2 c ?_)
      rw [List.getLast?_concat]
      rfl

end SearchQuery.Text
