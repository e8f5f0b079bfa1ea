import DocCheck.Proofs.HashEdits

set_option autoImplicit false

namespace DocCheck

open Text

/-- The number of characters other than spaces. -/
def marks (text : List Char) : Nat :=
  text.countP (· != ' ')

/-- The space that a line lacks weighs twice as much as the space that ends the lack. -/
def weight (text : List Char) : Nat :=
  text.length + if lacksSpace text then 2 else 0

theorem Heading.parse?_eq_none_of_lacksSpace {text : List Char} (h : lacksSpace text = true) :
    Heading.parse? text = none := by
  obtain ⟨indent, level, rest, rfl, positive, head, -, next, -⟩ := lacksSpace_iff.1 h
  cases parsed : Heading.parse? (hashLine indent level rest) with
  | none => rfl
  | some heading =>
    obtain ⟨-, -, spaced⟩ := Heading.of_parse?_hashLine positive head parsed
    cases rest with
    | nil => simp at next
    | cons c rest => simp_all

theorem lacksSpace_eq_false_of_heading {text : List Char} {heading : Heading}
    (parsed : Heading.parse? text = some heading) : lacksSpace text = false := by
  rw [← Bool.not_eq_true]
  intro lacks
  rw [Heading.parse?_eq_none_of_lacksSpace lacks] at parsed
  cases parsed

/-- A line that lacks a space lacks it before its trailing spaces are removed. -/
theorem lacksSpace_of_trimEnd {text : List Char} (h : lacksSpace (trimEnd (· == ' ') text) = true) :
    lacksSpace text = true := by
  obtain ⟨indent, level, rest, eq, positive, head, indent_le, next, last⟩ := lacksSpace_iff.1 h
  have blank : ∀ c : Char, (c == ' ') = true → isBlank c = true := by
    intro c space
    rw [beq_iff_eq.1 space]
    rfl
  have whole : text = hashLine indent level (rest ++ tailOf (· == ' ') text) := by
    calc text
      _ = trimEnd (· == ' ') text ++ tailOf (· == ' ') text := (trimEnd_append_tailOf _ text).symm
      _ = hashLine indent level (rest ++ tailOf (· == ' ') text) := by
        rw [eq]
        simp only [hashLine, List.append_assoc]
  refine lacksSpace_iff.2 ⟨indent, level, rest ++ tailOf (· == ' ') text, whole, positive, ?_,
    indent_le, ?_, ?_⟩
  · cases rest with
    | nil => simp at next
    | cons c rest => simpa using head
  · cases rest with
    | nil => simp at next
    | cons c rest => simpa using next
  · rwa [trimEnd_trimEnd blank] at last

namespace Ruleset

variable {ruleset : Ruleset} {text : List Char} {line : Line}

/-- The marks of a kept line are those that are left and those that the pass removes. -/
theorem marks_mended (ruleset : Ruleset) (stored : Stored text) (member : line ∈ Line.ofText text)
    (kept : ruleset.deletes text line = false) :
    marks (ruleset.mended text line) +
        marks ((ruleset.acting text line).flatMap fun edit => edit.removed line.text) =
      marks line.text := by
  have counted := Edit.countP_splice_add (lineEnding text) (· != ' ') line.text
    (ruleset.pairwise_acting stored member kept) (fun edit _ => Nat.zero_le edit.start)
  have inserted : ((ruleset.acting text line).flatMap fun edit =>
      edit.insertion (lineEnding text)).countP (· != ' ') = 0 := by
    rw [List.countP_eq_zero]
    intro c found
    obtain ⟨edit, acting, inserted⟩ := List.mem_flatMap.1 found
    have acts := acts_of_mem_acting stored member kept acting
    rw [acts.insertion_eq] at inserted
    rw [acts.eq_space inserted]
    decide
  rw [inserted, List.drop_zero] at counted
  exact counted

/-- The pass removes nothing but spaces from the line. -/
def Steady (ruleset : Ruleset) (text : List Char) (line : Line) : Prop :=
  ∀ edit ∈ ruleset.acting text line, ∀ c ∈ edit.removed line.text, c = ' '

theorem steady_of_marks (stored : Stored text) (member : line ∈ Line.ofText text)
    (kept : ruleset.deletes text line = false)
    (h : marks line.text ≤ marks (ruleset.mended text line)) : Steady ruleset text line := by
  have counted := ruleset.marks_mended stored member kept
  have none :
      marks ((ruleset.acting text line).flatMap fun edit => edit.removed line.text) = 0 := by
    omega
  rw [marks, List.countP_eq_zero] at none
  intro edit found c removed
  simpa using none c (List.mem_flatMap.2 ⟨edit, found, removed⟩)

theorem not_steady_of_content {text spacing tail : List Char} {heading : Heading} {last : Char}
    (shape : Heading.Shape text heading spacing tail)
    (content : heading.content.getLast? = some last) (number : Nat) :
    ¬ ∀ c ∈ (Edit.deleting number (heading.contentStart + heading.content.length) 1).removed text,
      c = ' ' := by
  intro steady
  have here := shape.getElem?_last content
  have gone : last ∈
      (Edit.deleting number (heading.contentStart + heading.content.length) 1).removed text :=
    Edit.mem_removed_of_getElem? here (Nat.le_refl _) (Nat.lt_succ_self _)
  have mark := shape.last_content last content
  rw [steady last gone] at mark
  cases mark

/-- An edit that removes nothing but spaces inserts nothing, unless it ends the lack of a space. -/
theorem Acts.insert_cases {edit : Edit} (acts : Acts ruleset text line edit)
    (steady : ∀ c ∈ edit.removed line.text, c = ' ') :
    edit.insert = [] ∨ lacksSpace line.text = true ∧ edit = .spacing line := by
  obtain ⟨configured, -, -, mends⟩ := acts.asks
  generalize configured.rule = rule at mends
  cases mends with
  | trailing | blank | spaced | indented | punctuated => exact .inl rfl
  | @tabs options run _ found => exact absurd steady (HardTabs.not_steady options _ found)
  | unspaced _ lacks => exact .inr ⟨lacks, rfl⟩
  | unended => exact absurd rfl acts.inner

theorem Acts.insert_eq_nil {edit : Edit} (acts : Acts ruleset text line edit)
    (steady : ∀ c ∈ edit.removed line.text, c = ' ') (full : lacksSpace line.text = false) :
    edit.insert = [] := by
  rcases acts.insert_cases steady with bare | ⟨lacks, -⟩
  · exact bare
  · rw [full] at lacks
    cases lacks

/-- On a line that is no heading and lacks no space, only trailing spaces can be removed. -/
theorem Acts.eq_trailing {edit : Edit} (acts : Acts ruleset text line edit)
    (steady : ∀ c ∈ edit.removed line.text, c = ' ') (full : lacksSpace line.text = false)
    (plain : Heading.parse? line.text = none) :
    edit = .deleting line.number ((trimEnd (· == ' ') line.text).length + 1)
      (line.text.length - (trimEnd (· == ' ') line.text).length) := by
  obtain ⟨configured, -, -, mends⟩ := acts.asks
  generalize configured.rule = rule at mends
  have keeps := acts.keeps
  cases mends with
  | trailing => rfl
  | @tabs options run _ found => exact absurd steady (HardTabs.not_steady options _ found)
  | blank => simp [Edit.deletingLine, Edit.deletesLine] at keeps
  | unspaced _ lacks => rw [full] at lacks; cases lacks
  | spaced found | indented found | punctuated found =>
    rw [Line.heading?_eq_some, plain] at found
    cases found.2
  | unended => exact absurd rfl acts.inner

theorem mended_of_plain (stored : Stored text) (member : line ∈ Line.ofText text)
    (kept : ruleset.deletes text line = false) (steady : Steady ruleset text line)
    (full : lacksSpace line.text = false) (plain : Heading.parse? line.text = none) :
    ruleset.mended text line = line.text ∨
      ruleset.mended text line = trimEnd (· == ' ') line.text := by
  have apart := ruleset.pairwise_acting stored member kept
  have each : ∀ edit ∈ ruleset.acting text line,
      edit = .deleting line.number ((trimEnd (· == ' ') line.text).length + 1)
        (line.text.length - (trimEnd (· == ' ') line.text).length) := by
    intro edit found
    exact (acts_of_mem_acting stored member kept found).eq_trailing (steady edit found) full plain
  rw [mended]
  rcases acting : ruleset.acting text line with _ | ⟨edit, _ | ⟨next, rest⟩⟩
  · left
    rfl
  · right
    have shorter := length_trimEnd_le (· == ' ') line.text
    have front := List.prefix_iff_eq_take.1 (trimEnd_isPrefix (· == ' ') line.text)
    have finish : (trimEnd (· == ' ') line.text).length +
        (line.text.length - (trimEnd (· == ' ') line.text).length) = line.text.length := by omega
    rw [each edit (by simp [acting])]
    simp only [Edit.splice, Edit.deleting, Edit.insertion, Edit.start_mk, Edit.finish_mk,
      Nat.add_sub_cancel, Nat.sub_zero, finish]
    simp [← front]
  · rw [acting] at apart each
    have := ((List.pairwise_cons.1 apart).1 next (List.mem_cons_self ..)).start_lt
    rw [each edit (by simp), each next (by simp)] at this
    omega

theorem Acts.trimEnd_eq_nil {indent level : Nat} {rest : List Char} {edit : Edit}
    (acts : Acts ruleset text line edit) (steady : ∀ c ∈ edit.removed line.text, c = ' ')
    (full : lacksSpace line.text = false) (eq : line.text = hashLine indent level rest)
    (positive : 0 < level) (head : rest.head? ≠ some '#') (start : edit.start = indent + level) :
    trimEnd (· == ' ') rest = [] := by
  obtain ⟨configured, -, -, mends⟩ := acts.asks
  generalize configured.rule = rule at mends
  have keeps := acts.keeps
  cases mends with
  | trailing =>
    rw [eq, trimEnd_hashLine positive, length_hashLine] at start
    simp only [Edit.deleting, Edit.start_mk] at start
    exact List.length_eq_zero_iff.1 (by omega)
  | @tabs options run _ found => exact absurd steady (HardTabs.not_steady options _ found)
  | blank => simp [Edit.deletingLine, Edit.deletesLine] at keeps
  | unspaced _ lacks => rw [full] at lacks; cases lacks
  | spaced found =>
    rw [Line.heading?_eq_some, eq] at found
    obtain ⟨rfl, rfl, -⟩ := Heading.of_parse?_hashLine positive head found.2
    simp only [Edit.deleting, Edit.start_mk] at start
    omega
  | indented =>
    simp only [Edit.deleting, Edit.start_mk] at start
    omega
  | punctuated found content =>
    obtain ⟨_, _, shape⟩ := Heading.shape_of_parse? (Line.heading?_eq_some.1 found).2
    exact absurd steady (not_steady_of_content shape content _)
  | unended => exact absurd rfl acts.inner

/-- A heading stays one: its hashes are followed by a space or a tab, or by nothing. -/
theorem lacksSpace_mended_of_heading (stored : Stored text) (member : line ∈ Line.ofText text)
    (kept : ruleset.deletes text line = false) (steady : Steady ruleset text line)
    {heading : Heading} (parsed : Heading.parse? line.text = some heading) :
    lacksSpace (ruleset.mended text line) = false := by
  have full := lacksSpace_eq_false_of_heading parsed
  obtain ⟨spacing, tail, shape⟩ := Heading.shape_of_parse? parsed
  have eq := shape.line_eq
  have spaced := shape.spaced
  generalize spacing ++ (heading.content ++ tail) = rest at eq spaced
  have head : rest.head? ≠ some '#' := by
    intro hash
    rw [hash] at spaced
    cases spaced
  obtain ⟨left, right, spaces, split, -, behind, -, mended⟩ :=
    mended_hashLine stored member kept eq shape.level_pos head
  have acts : ∀ edit ∈ right,
      Acts ruleset text line edit ∧ ∀ c ∈ edit.removed line.text, c = ' ' := by
    intro edit found
    have acting : edit ∈ ruleset.acting text line := by simp [split, found]
    exact ⟨acts_of_mem_acting stored member kept acting, steady edit acting⟩
  have bare : ∀ edit ∈ right, edit.insertion (lineEnding text) = [] := by
    intro edit found
    obtain ⟨act, bare⟩ := acts edit found
    rw [act.insertion_eq, act.insert_eq_nil bare full]
  have fewer := Edit.splice_sublist (lineEnding text) bare (heading.indent + heading.level) rest
  rw [mended]
  refine lacksSpace_hashLine shape.level_pos ?_
  by_cases first : ∃ edit ∈ right, edit.start = heading.indent + heading.level
  · -- Behind the hashes there are only spaces.
    obtain ⟨edit, found, start⟩ := first
    obtain ⟨act, bare⟩ := acts edit found
    have none := act.trimEnd_eq_nil bare full eq shape.level_pos head start
    rcases made : Edit.splice (lineEnding text) (heading.indent + heading.level) right rest with
      _ | ⟨c, others⟩
    · rfl
    · rw [made] at fewer
      have blank := of_trimEnd_eq_nil none c (fewer.subset (List.mem_cons_self ..))
      rw [beq_iff_eq.1 blank]
      rfl
  · -- The character behind the hashes stays.
    have after : ∀ edit ∈ right, heading.indent + heading.level < edit.start := by
      intro edit found
      have := behind edit found
      have : edit.start ≠ heading.indent + heading.level := fun start =>
        first ⟨edit, found, start⟩
      omega
    rcases rest with _ | ⟨c, rest⟩
    · rw [List.sublist_nil.1 fewer]
      rfl
    · rwa [Edit.splice_cons _ after]

/-- On a line that lacks a space, only the edit that ends the lack inserts anything. -/
theorem Acts.insertion_eq_nil {indent level : Nat} {rest : List Char} {edit : Edit}
    (acts : Acts ruleset text line edit) (steady : ∀ c ∈ edit.removed line.text, c = ' ')
    (eq : line.text = hashLine indent level rest) (positive : 0 < level)
    (head : rest.head? ≠ some '#') (elsewhere : edit.start ≠ indent + level) :
    edit.insertion (lineEnding text) = [] := by
  rw [acts.insertion_eq]
  rcases acts.insert_cases steady with none | ⟨-, rfl⟩
  · exact none
  · refine absurd ?_ elsewhere
    rw [Edit.spacing, eq, takeWhile_hashLine positive, dropWhile_hashLine positive,
      takeWhile_replicate_append head]
    simp [Edit.inserting]

theorem mended_sublist (bare : ∀ edit ∈ ruleset.acting text line,
    edit.insertion (lineEnding text) = []) :
    (ruleset.mended text line).Sublist line.text :=
  Edit.splice_sublist (lineEnding text) bare 0 line.text

/-- With the space that it lacked, a line weighs less. -/
theorem weight_mended_of_unspaced (stored : Stored text) (member : line ∈ Line.ofText text)
    (kept : ruleset.deletes text line = false) (steady : Steady ruleset text line)
    (lacks : lacksSpace line.text = true)
    (found : .spacing line ∈ ruleset.acting text line) :
    weight (ruleset.mended text line) < weight line.text := by
  obtain ⟨indent, level, rest, eq, positive, head, -⟩ := lacksSpace_iff.1 lacks
  obtain ⟨left, right, spaces, split, before, behind, blank, mended⟩ :=
    mended_hashLine stored member kept eq positive head
  rw [Edit.spacing, eq, takeWhile_hashLine positive, dropWhile_hashLine positive,
    takeWhile_replicate_append head, List.length_replicate, List.length_replicate] at found
  have bare : ∀ edit ∈ ruleset.acting text line, edit.start ≠ indent + level →
      edit.insertion (lineEnding text) = [] := by
    intro edit acting elsewhere
    exact (acts_of_mem_acting stored member kept acting).insertion_eq_nil (steady edit acting) eq
      positive head elsewhere
  have apart := ruleset.pairwise_acting stored member kept
  rw [split] at apart found bare
  obtain ⟨-, rights, -⟩ := List.pairwise_append.1 apart
  -- Before the hashes nothing is inserted.
  have fewer : (List.replicate spaces ' ').Sublist (List.replicate indent ' ') := by
    rw [← blank]
    refine Edit.splice_sublist (lineEnding text) (fun edit acting => ?_) 0 _
    refine bare edit (List.mem_append_left right acting) ?_
    have := before edit acting
    have : edit.start ≤ edit.finish := Nat.le_add_right ..
    omega
  -- Behind the hashes the missing space comes first.
  obtain ⟨more, rfl⟩ : ∃ more, right =
      .inserting line.number (indent + level + 1) [' '] :: more := by
    rcases List.mem_append.1 found with inner | outer
    · have := before _ inner
      simp only [Edit.inserting, Edit.finish_mk] at this
      omega
    · exact Edit.exists_cons_of_mem rights outer behind
  have tail : (Edit.splice (lineEnding text) (indent + level) more rest).Sublist rest := by
    refine Edit.splice_sublist (lineEnding text) (fun edit acting => ?_) (indent + level) rest
    refine bare edit (by simp [acting]) ?_
    have := ((List.pairwise_cons.1 rights).1 edit acting).start_lt
    simp only [Edit.inserting, Edit.start_mk] at this
    omega
  have made : Edit.splice (lineEnding text) (indent + level)
      (.inserting line.number (indent + level + 1) [' '] :: more) rest =
        ' ' :: Edit.splice (lineEnding text) (indent + level) more rest := by
    simp [Edit.splice, Edit.inserting, Edit.insertion]
  have full : lacksSpace (ruleset.mended text line) = false := by
    rw [mended, made]
    exact lacksSpace_hashLine positive rfl
  have left := fewer.length_le
  have right := tail.length_le
  rw [weight, weight, full, lacks, mended, eq, length_hashLine, length_hashLine, made]
  simp only [List.length_replicate, List.length_cons, Bool.false_eq_true, if_true, if_false] at *
  omega

theorem lacksSpace_of_mended (stored : Stored text) (member : line ∈ Line.ofText text)
    (kept : ruleset.deletes text line = false) (steady : Steady ruleset text line)
    (lacks : lacksSpace (ruleset.mended text line) = true) : lacksSpace line.text = true := by
  rw [← Bool.not_eq_false]
  intro full
  cases parsed : Heading.parse? line.text with
  | some heading =>
    rw [lacksSpace_mended_of_heading stored member kept steady parsed] at lacks
    cases lacks
  | none =>
    rcases mended_of_plain stored member kept steady full parsed with same | trimmed
    · rw [same, full] at lacks
      cases lacks
    · rw [trimmed] at lacks
      rw [lacksSpace_of_trimEnd lacks] at full
      cases full

/-- A kept line that keeps its marks becomes lighter or stays as it is. -/
theorem weight_mended (stored : Stored text) (member : line ∈ Line.ofText text)
    (kept : ruleset.deletes text line = false)
    (same : marks line.text ≤ marks (ruleset.mended text line)) :
    weight (ruleset.mended text line) < weight line.text ∨
      ruleset.mended text line = line.text := by
  have steady := steady_of_marks stored member kept same
  by_cases unspaced : ∃ edit ∈ ruleset.acting text line, edit.insert ≠ []
  · obtain ⟨edit, found, inserts⟩ := unspaced
    have acts := acts_of_mem_acting stored member kept found
    rcases acts.insert_cases (steady edit found) with bare | ⟨lacks, rfl⟩
    · exact absurd bare inserts
    · exact .inl (weight_mended_of_unspaced stored member kept steady lacks found)
  · have bare : ∀ edit ∈ ruleset.acting text line, edit.insertion (lineEnding text) = [] := by
      intro edit found
      rw [(acts_of_mem_acting stored member kept found).insertion_eq]
      exact Decidable.byContradiction fun inserts => unspaced ⟨edit, found, inserts⟩
    have fewer := mended_sublist bare
    rcases Nat.lt_or_eq_of_le fewer.length_le with shorter | equal
    · left
      rw [weight, weight]
      split
      · rename_i lack
        rw [if_pos (lacksSpace_of_mended stored member kept steady lack)]
        omega
      · omega
    · exact .inr (fewer.eq_of_length equal)

end Ruleset

end DocCheck
