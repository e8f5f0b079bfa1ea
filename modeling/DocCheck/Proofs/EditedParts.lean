import DocCheck.Proofs.TabWidth

set_option autoImplicit false

namespace DocCheck

open Text

namespace Edit

/-- The edits that start at `first` or further right, and before `stop`. -/
def between (first stop : Nat) (edits : List Edit) : List Edit :=
  edits.filter fun edit => first ≤ edit.start ∧ edit.start < stop

variable {edits : List Edit} {edit : Edit} {first middle stop : Nat}

theorem mem_between :
    edit ∈ between first stop edits ↔ edit ∈ edits ∧ first ≤ edit.start ∧ edit.start < stop := by
  simp [between]

theorem pairwise_between (apart : edits.Pairwise Apart) (first stop : Nat) :
    (between first stop edits).Pairwise Apart :=
  apart.filter _

theorem apart_of_start_lt (apart : edits.Pairwise Apart) {a b : Edit} (ha : a ∈ edits)
    (hb : b ∈ edits) (less : a.start < b.start) : Apart a b := by
  rcases eq_or_apart apart ha hb with rfl | forth | back
  · exact absurd less (Nat.lt_irrefl _)
  · exact forth
  · exact absurd less (Nat.lt_asymm back.start_lt)

theorem between_append_between (apart : edits.Pairwise Apart) (le : first ≤ middle)
    (before : middle ≤ stop) :
    between first middle edits ++ between middle stop edits = between first stop edits := by
  have joined : (between first middle edits ++ between middle stop edits).Pairwise Apart := by
    refine List.pairwise_append.2 ⟨pairwise_between apart _ _, pairwise_between apart _ _, ?_⟩
    intro a left b right
    obtain ⟨member, -, below⟩ := mem_between.1 left
    obtain ⟨found, above, -⟩ := mem_between.1 right
    exact apart_of_start_lt apart member found (by omega)
  apply joined.eq_of_mem_iff (pairwise_between apart first stop)
  intro edit
  rw [List.mem_append, mem_between, mem_between, mem_between]
  constructor
  · rintro (⟨found, low, high⟩ | ⟨found, low, high⟩)
    · exact ⟨found, low, by omega⟩
    · exact ⟨found, by omega, high⟩
  · rintro ⟨found, low, high⟩
    by_cases left : edit.start < middle
    · exact .inl ⟨found, low, left⟩
    · exact .inr ⟨found, by omega, high⟩

/-- A line may be cut where no edit reaches across. -/
theorem splice_between (ending : LineEnding) (apart : edits.Pairwise Apart) (front back : List Char)
    (here : first + front.length = middle) (before : middle ≤ stop)
    (clean : ∀ edit ∈ edits, edit.start < middle → edit.finish ≤ middle) :
    splice ending first (between first stop edits) (front ++ back) =
      splice ending first (between first middle edits) front ++
        splice ending middle (between middle stop edits) back := by
  rw [← between_append_between apart (by omega : first ≤ middle) before, ← here]
  apply splice_append ending _ first front back (pairwise_between apart _ _)
  · intro edit found
    obtain ⟨member, low, high⟩ := mem_between.1 found
    exact ⟨low, here ▸ clean edit member (by omega)⟩
  · intro edit found
    exact (mem_between.1 found).2.1

end Edit

namespace HardTabs

theorem runsFrom_append_of_head? {back : List Char} (cut : back.head? ≠ some '\t')
    (before tabs : Nat) (front : List Char) :
    runsFrom before tabs (front ++ back) =
      runsFrom before tabs front ++ runsFrom (before + front.length) 0 back := by
  fun_induction runsFrom before tabs front with
  | case1 before tabs positive =>
    cases back with
    | nil => simp [runsFrom, positive]
    | cons c back =>
      have plain : c ≠ '\t' := fun tab => cut (by rw [tab]; rfl)
      rw [List.nil_append, runsFrom.eq_3 _ _ _ _ plain, runsFrom.eq_3 _ _ _ _ plain, if_pos positive,
        if_neg (Nat.lt_irrefl 0)]
      rfl
  | case2 before tabs zero =>
    obtain rfl : tabs = 0 := by omega
    rfl
  | case3 before tabs rest ih =>
    rw [List.cons_append, runsFrom, ih, List.length_cons, Nat.add_right_comm, Nat.add_assoc before]
  | case4 before tabs c rest plain positive ih =>
    rw [List.cons_append, runsFrom.eq_3 _ _ _ _ plain, if_pos positive, ih, List.length_cons,
      Nat.add_right_comm, Nat.add_assoc before]
    rfl
  | case5 before tabs c rest plain zero ih =>
    rw [List.cons_append, runsFrom.eq_3 _ _ _ _ plain, if_neg zero, ih, List.length_cons,
      Nat.add_right_comm, Nat.add_assoc before]

/-- A text may be cut where no run of tabs reaches across. -/
theorem runsFrom_append {front back : List Char}
    (cut : front.getLast? ≠ some '\t' ∨ back.head? ≠ some '\t') (before : Nat) :
    runsFrom before 0 (front ++ back) =
      runsFrom before 0 front ++ runsFrom (before + front.length) 0 back := by
  by_cases head : back.head? = some '\t'
  · have last := cut.resolve_right (not_not_intro head)
    rcases List.eq_nil_or_concat front with rfl | ⟨front, c, rfl⟩
    · rfl
    · -- The reading is cut before the last character of the first part, which is no tab.
      rw [List.concat_eq_append] at last ⊢
      have plain : c ≠ '\t' := by simpa using last
      have cut (rest : List Char) : (c :: rest).head? ≠ some '\t' := by simpa using plain
      have whole := runsFrom_append_of_head? (cut back) before 0 front
      have part := runsFrom_append_of_head? (cut []) before 0 front
      rw [runsFrom.eq_3 _ _ _ _ plain, if_neg (Nat.lt_irrefl 0)] at whole part
      rw [List.append_assoc, List.singleton_append, whole, part, List.length_append]
      simp [runsFrom, Nat.add_assoc]
  · exact runsFrom_append_of_head? head before 0 front

/-- The runs of a part are the runs of the text that begin there. -/
theorem mem_runsFrom_part {before part after : List Char} {run : Span}
    (left : before.getLast? ≠ some '\t' ∨ (part ++ after).head? ≠ some '\t')
    (right : part.getLast? ≠ some '\t' ∨ after.head? ≠ some '\t') :
    run ∈ runsFrom before.length 0 part ↔
      run ∈ runsFrom 0 0 (before ++ (part ++ after)) ∧ before.length ≤ run.column - 1 ∧
        run.column - 1 < before.length + part.length := by
  rw [runsFrom_append left, runsFrom_append right, List.mem_append, List.mem_append, Nat.zero_add]
  constructor
  · intro found
    have bounds := bounds_of_mem_runsFrom (Nat.zero_le _) found
    exact ⟨.inr (.inl found), by omega, by omega⟩
  · rintro ⟨found | found | found, low, high⟩
    · have bounds := bounds_of_mem_runsFrom (Nat.le_refl 0) found
      omega
    · exact found
    · have bounds := bounds_of_mem_runsFrom (Nat.zero_le _) found
      omega

end HardTabs

namespace Ruleset

variable {ruleset : Ruleset} {text : List Char} {line : Line}

/-- A part in which no other edits act than those on its tabs has its tabs widened. -/
theorem splice_between_of_fills (ending : LineEnding) (filled : ruleset.FillsTabs text)
    (member : line ∈ Line.ofText text) {before part after : List Char} {edits : List Edit}
    {first stop : Nat} (apart : edits.Pairwise Edit.Apart)
    (eq : line.text = before ++ (part ++ after)) (start : before.length = first)
    (finish : first + part.length = stop)
    (left : before.getLast? ≠ some '\t' ∨ (part ++ after).head? ≠ some '\t')
    (right : part.getLast? ≠ some '\t' ∨ after.head? ≠ some '\t')
    (only : ∀ edit, first ≤ edit.start → edit.start < stop →
      (edit ∈ edits ↔ edit ∈ ruleset.fills text line)) :
    Edit.splice ending first (Edit.between first stop edits) part =
      ruleset.widened text line part := by
  have runs {run : Span} : run ∈ HardTabs.runsFrom first 0 part ↔
      run ∈ HardTabs.runsFrom 0 0 line.text ∧ first ≤ run.column - 1 ∧ run.column - 1 < stop := by
    rw [← start, HardTabs.mem_runsFrom_part left right, ← eq, start, finish]
  have inside {edit : Edit} : edit ∈ Edit.between first stop edits ↔
      edit ∈ ruleset.fills text line ∧ first ≤ edit.start ∧ edit.start < stop := by
    rw [Edit.mem_between, and_congr_left_iff]
    rintro ⟨low, high⟩
    exact only edit low high
  rw [← filled.untabbed_eq_widened member first (by simp +contextual [eq]) fun run found =>
    (runs.1 found).1]
  cases checks : ruleset.tabs? text line with
  | none =>
    have none : Edit.between first stop edits = [] := by
      rw [List.eq_nil_iff_forall_not_mem]
      intro edit found
      obtain ⟨filled, -⟩ := inside.1 found
      simp [fills, checks] at filled
    rw [none, untabbed, checks, Edit.splice]
  | some options =>
    have same : Edit.between first stop edits =
        (HardTabs.runsFrom first 0 part).map (options.fill line.number) := by
      apply (Edit.pairwise_between apart first stop).eq_of_mem_iff
      · exact options.pairwise_map_fill line.number (Nat.zero_le first) part
      · intro edit
        rw [inside, List.mem_map, mem_fills]
        constructor
        · rintro ⟨⟨others, same, run, found, rfl⟩, low, high⟩
          obtain rfl := Option.some.inj (checks.symm.trans same)
          exact ⟨run, runs.2 ⟨found, low, high⟩, rfl⟩
        · rintro ⟨run, found, rfl⟩
          obtain ⟨there, low, high⟩ := runs.1 found
          exact ⟨⟨options, checks, run, there, rfl⟩, low, high⟩
    have expanded := options.splice_fill ending line.number (Nat.zero_le first) part
    rw [List.replicate_zero, List.nil_append, Nat.sub_zero] at expanded
    simp only [same, expanded, untabbed, checks, HardTabs.expand]

end Ruleset

end DocCheck
