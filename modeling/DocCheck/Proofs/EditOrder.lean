import DocCheck.Proofs.LeadingEdits
import DocCheck.Proofs.TabWidth
import DocCheck.Proofs.VisibleText

set_option autoImplicit false

namespace DocCheck

open Text

namespace Edit

/-- Different edits of a line that keep it differ in their columns or in the bytes they insert. -/
def Distinguished (edits : List Edit) : Prop :=
  ∀ a ∈ edits, ∀ b ∈ edits, a.deletesLine = false → b.deletesLine = false → a.line = b.line →
    a ≠ b → a.column ≠ b.column ∨ byteLength a.insert ≠ byteLength b.insert

instance (edits : List Edit) : Decidable (Distinguished edits) :=
  inferInstanceAs (Decidable (∀ a ∈ edits, ∀ b ∈ edits, a.deletesLine = false →
    b.deletesLine = false → a.line = b.line →
      a ≠ b → a.column ≠ b.column ∨ byteLength a.insert ≠ byteLength b.insert))

variable {edits : List Edit} {number : Nat}

theorem alike_of_precedes {a b : Edit} (ab : a.precedes b = true) (ba : b.precedes a = true)
    (same : a.line = b.line) (keeps : a.deletesLine = false) (stays : b.deletesLine = false) :
    a.column = b.column ∧ byteLength a.insert = byteLength b.insert := by
  unfold precedes at ab ba
  rw [keeps, stays, same] at ab ba
  simp only [ne_eq, not_true_eq_false, if_false] at ab ba
  grind

/-- Among edits that are told apart, the leading one has no rival. -/
theorem Distinguished.leads_iff (told : Distinguished edits) (keeps : Keeps number edits)
    {edit : Edit} (own : edit.line = number) :
    Leads edits edit ↔ edit ∈ edits ∧ ∀ other ∈ edits, other.line = edit.line →
      other.start = edit.start → edit.precedes other = true := by
  constructor
  · intro leads
    exact ⟨List.mem_of_find?_eq_some leads.1, leads.2⟩
  · rintro ⟨member, least⟩
    refine ⟨?_, least⟩
    have itself : edit.precedes edit = true := by simpa using precedes_total edit edit
    cases first : edits.find? fun other =>
        other.line = edit.line ∧ other.start = edit.start ∧ other.precedes edit = true with
    | none =>
      rw [List.find?_eq_none] at first
      exact absurd (by simpa using itself) (first edit member)
    | some other =>
      have found := List.mem_of_find?_eq_some first
      obtain ⟨line, start, before⟩ : other.line = edit.line ∧ other.start = edit.start ∧
          other.precedes edit = true := by simpa using List.find?_some first
      have behind := least other found line start
      have stays := keeps other found (line.trans own)
      have kept := keeps edit member own
      obtain ⟨column, length⟩ := alike_of_precedes before behind line stays kept
      by_contra differ
      rw [Option.some.injEq] at differ
      rcases told other found edit member stays kept line differ with columns | lengths
      · exact columns column
      · exact lengths length

/-- Edits that are told apart repair a text alike in every order. -/
theorem Distinguished.applyAll_eq_of_perm {others : List Edit} (told : Distinguished edits)
    (words : InWords edits) (perm : edits.Perm others) (text : List Char) :
    applyAll text others = applyAll text edits := by
  have same : ∀ edit, edit ∈ edits ↔ edit ∈ others := fun _ => perm.mem_iff
  have told' : Distinguished others := by
    intro a ha b hb
    exact told a ((same a).2 ha) b ((same b).2 hb)
  apply Eq.symm
  apply applyAll_congr same words
  intro number keeps edit own
  have keeps' : Keeps number others := fun other found => keeps other ((same other).2 found)
  rw [told.leads_iff keeps own, told'.leads_iff keeps' own]
  simp only [same]

end Edit

namespace Text

theorem eq_nil_of_byteLength_eq_zero {text : List Char} (h : byteLength text = 0) : text = [] := by
  cases text with
  | nil => rfl
  | cons c text =>
    have := c.utf8Size_pos
    rw [byteLength_cons] at h
    omega

theorem lt_length_trimEnd {p : Char → Bool} {text : List Char} {index : Nat} {c : Char}
    (found : text[index]? = some c) (stays : p c = false) : index < (trimEnd p text).length := by
  by_contra outside
  have tail : c ∈ tailOf p text := by
    rw [← drop_length_trimEnd]
    apply List.mem_of_getElem? (i := index - (trimEnd p text).length)
    rw [List.getElem?_drop, Nat.add_sub_of_le (Nat.not_lt.1 outside), found]
  rw [of_mem_tailOf tail] at stays
  cases stays

end Text

namespace Edit

/-- The removals of parts of a heading: of its indentation, of all blanks but one behind its hashes, and
of the last character of its content. -/
inductive Shortens (line : Line) (heading : Heading) : Edit → Prop
  | outdenting : Shortens line heading (.deleting line.number 1 heading.indent)
  | tightening (several : 1 < heading.spacing) (content : heading.content ≠ []) :
      Shortens line heading
        (.deleting line.number (heading.indent + heading.level + 2) (heading.spacing - 1))
  | unmarking (content : heading.content ≠ []) : Shortens line heading (.unmarking line heading)

variable {line : Line} {heading : Heading} {edit next : Edit}

theorem Shortens.column_le (h : Shortens line heading edit)
    (parsed : line.heading? = some heading) :
    edit.column ≤ (trimEnd (· == ' ') line.text).length := by
  obtain ⟨spaces, tail, shape⟩ := Heading.shape_of_parse? (Line.heading?_eq_some.1 parsed).2
  have positive := shape.level_pos
  have last (content : heading.content ≠ []) : heading.contentStart + heading.content.length ≤
      (trimEnd (· == ' ') line.text).length := by
    have ends := List.getLast?_eq_some_getLast content
    have blank := shape.last_content _ ends
    rw [isSpaceOrTab, Bool.or_eq_false_iff] at blank
    have inside : _ < (trimEnd (· == ' ') line.text).length :=
      lt_length_trimEnd (shape.getElem?_last ends) blank.1
    omega
  cases h with
  | outdenting =>
    rw [shape.line_eq, trimEnd_hashLine positive, length_hashLine]
    simp only [Edit.deleting]
    omega
  | tightening several content =>
    have inside := last content
    have positive := List.length_pos_iff.2 content
    rw [Heading.contentStart] at inside
    simp only [deleting]
    omega
  | unmarking content => exact last content

theorem Shortens.eq_of_column_eq (h : Shortens line heading edit)
    (h' : Shortens line heading next) (positive : 0 < heading.level)
    (column : edit.column = next.column) : edit = next := by
  have marks : (Edit.unmarking line heading).column =
      heading.indent + heading.level + heading.spacing + heading.content.length := rfl
  have some (content : heading.content ≠ []) := List.length_pos_iff.2 content
  cases h with
  | outdenting =>
    cases h' with
    | outdenting => rfl
    | tightening =>
      simp only [deleting] at column
      omega
    | unmarking content =>
      have := some content
      simp only [deleting] at column
      omega
  | tightening several content =>
    have := some content
    cases h' with
    | tightening => rfl
    | outdenting | unmarking =>
      simp only [deleting] at column
      omega
  | unmarking content =>
    have := some content
    cases h' with
    | unmarking => rfl
    | outdenting | tightening =>
      simp only [deleting] at column
      omega

end Edit

theorem HardTabs.eq_of_column_eq {text : List Char} {a b : Span} (ha : a ∈ runsFrom 0 0 text)
    (hb : b ∈ runsFrom 0 0 text) (same : a.column = b.column) : a = b := by
  have distinct : ((runsFrom 0 0 text).map Span.column).Nodup := by
    refine List.pairwise_map.2 ((pairwise_runsFrom (Nat.le_refl 0) text).imp ?_)
    intro a b before
    omega
  exact List.inj_on_of_nodup_map distinct ha hb same

namespace Mends

variable {doc : Document} {line : Line} {rule other : Rule} {edit next : Edit}

/-- A rule other than that on tabs removes without inserting: trailing spaces, or a part of a heading. -/
theorem shortens_of_insert_eq_nil (h : Mends doc line rule edit) (keeps : edit.deletesLine = false)
    (bare : edit.insert = []) (id : rule.id ≠ .hardTabs) :
    edit = .trimming line ∨ ∃ heading, line.heading? = some heading ∧
      Edit.Shortens line heading edit := by
  cases h with
  | trailing => exact .inl rfl
  | tabs => exact absurd rfl id
  | blank => cases keeps
  | unspaced | unended => cases bare
  | spaced found several content => exact .inr ⟨_, found, .tightening several content⟩
  | indented found => exact .inr ⟨_, found, .outdenting⟩
  | punctuated found content =>
    refine .inr ⟨_, found, .unmarking ?_⟩
    intro empty
    simp [empty] at content

theorem eq_of_column_eq_of_bare (h : Mends doc line rule edit) (h' : Mends doc line other next)
    (keeps : edit.deletesLine = false) (stays : next.deletesLine = false)
    (bare : edit.insert = []) (none : next.insert = []) (id : rule.id ≠ .hardTabs)
    (id' : other.id ≠ .hardTabs) (column : edit.column = next.column) : edit = next := by
  have trims : (Edit.trimming line).column = (trimEnd (· == ' ') line.text).length + 1 := rfl
  rcases h.shortens_of_insert_eq_nil keeps bare id with rfl | ⟨heading, parsed, shortens⟩
  · rcases h'.shortens_of_insert_eq_nil stays none id' with rfl | ⟨heading, parsed, shortens⟩
    · rfl
    · have := shortens.column_le parsed
      omega
  · rcases h'.shortens_of_insert_eq_nil stays none id' with rfl | ⟨others, same, shortens'⟩
    · have := shortens.column_le parsed
      omega
    · obtain rfl := Option.some.inj (parsed.symm.trans same)
      obtain ⟨_, _, shape⟩ := Heading.shape_of_parse? (Line.heading?_eq_some.1 parsed).2
      exact shortens.eq_of_column_eq shortens' shape.level_pos column

/-- What stands where a text is inserted: another character than a tab where a space is lacking, a tab
where a run of tabs gives way, nothing where the line is ended. -/
theorem cases_of_insert_ne_nil (h : Mends doc line rule edit) (inserts : edit.insert ≠ []) :
    (edit = .spacing line ∧ ∃ c, line.text[edit.start]? = some c ∧ c ≠ '\t') ∨
      (∃ options run, rule = .hardTabs options ∧ run ∈ HardTabs.runsFrom 0 0 line.text ∧
        edit = options.fill line.number run ∧ line.text[edit.start]? = some '\t') ∨
      (edit = Ruleset.newline line ∧ line.text[edit.start]? = none) := by
  cases h with
  | trailing | blank | spaced | indented | punctuated => exact absurd rfl inserts
  | @tabs options run _ found =>
    exact .inr (.inl ⟨options, run, rfl, found, rfl, HardTabs.getElem?_of_mem_runsFrom found⟩)
  | unspaced _ lacks =>
    refine .inl ⟨rfl, ?_⟩
    obtain ⟨indent, level, rest, eq, positive, head, -, next, -⟩ := lacksSpace_iff.1 lacks
    cases rest with
    | nil => cases next
    | cons c rest =>
      refine ⟨c, ?_, ?_⟩
      · have place : (List.replicate indent ' ' ++ List.replicate level '#').length =
            indent + level := by simp
        rw [eq, takeWhile_hashLine positive, dropWhile_hashLine positive,
          takeWhile_replicate_append head]
        simp only [Edit.inserting, Edit.start_mk, List.length_replicate, Nat.add_sub_cancel]
        rw [hashLine, ← List.append_assoc, ← place, List.getElem?_append_right (Nat.le_refl _)]
        simp
      · rintro rfl
        cases next
  | unended =>
    refine .inr (.inr ⟨rfl, ?_⟩)
    simp [Edit.inserting]

theorem eq_of_column_eq_of_inserts (h : Mends doc line rule edit)
    (h' : Mends doc line other next) (once : rule.id = other.id → rule = other)
    (inserts : edit.insert ≠ []) (some : next.insert ≠ []) (column : edit.column = next.column) :
    edit = next := by
  have start : edit.start = next.start := by rw [Edit.start, column, Edit.start]
  -- What stands at the column tells the three kinds of insertions apart.
  rcases h.cases_of_insert_ne_nil inserts with
    ⟨eq, c, here, plain⟩ | ⟨options, run, eq, found, fills, here⟩ | ⟨eq, here⟩
  · rcases h'.cases_of_insert_ne_nil some with
      ⟨eq', -⟩ | ⟨-, -, -, -, -, there⟩ | ⟨-, there⟩
    · rw [eq, eq']
    · rw [start, there] at here
      exact absurd (Option.some.inj here).symm plain
    · rw [start, there] at here
      cases here
  · rcases h'.cases_of_insert_ne_nil some with
      ⟨-, c, there, plain⟩ | ⟨others, run', eq', found', fills', -⟩ | ⟨-, there⟩
    · rw [start, there] at here
      exact absurd (Option.some.inj here) plain
    · obtain rfl : options = others := by
        have same := once (by rw [eq, eq', Rule.id, Rule.id])
        rw [eq, eq'] at same
        exact Rule.hardTabs.inj same
      have columns : run.column = run'.column := by
        rw [fills, fills'] at column
        exact column
      rw [fills, fills', HardTabs.eq_of_column_eq found found' columns]
    · rw [start, there] at here
      cases here
  · rcases h'.cases_of_insert_ne_nil some with
      ⟨-, c, there, -⟩ | ⟨-, -, -, -, -, there⟩ | ⟨eq', -⟩
    · rw [start, there] at here
      cases here
    · rw [start, there] at here
      cases here
    · rw [eq, eq']

end Mends

namespace Ruleset

variable {ruleset : Ruleset} {text : List Char}

/-- The edits that the findings of a text carry are told apart. -/
theorem distinguished_edits (filled : ruleset.FillsTabs text) :
    Edit.Distinguished (ruleset.edits text) := by
  intro a ha b hb keeps stays same differ
  by_contra alike
  rw [not_or, ne_eq, ne_eq, not_not, not_not] at alike
  obtain ⟨column, length⟩ := alike
  obtain ⟨line, member, asks⟩ := mem_edits.1 ha
  obtain ⟨other, found, asks'⟩ := mem_edits.1 hb
  obtain rfl := Line.eq_of_number_eq member found (by rw [← asks.line_eq, same, asks'.line_eq])
  obtain ⟨configured, enabled, -, mends⟩ := asks
  obtain ⟨configured', enabled', -, mends'⟩ := asks'
  -- Tabs never give way to nothing, so what inserts nothing is no edit of tabs.
  have inserts {edit : Edit} {configured : ConfiguredRule} (enabled : configured ∈ ruleset.rules)
      (mends : Mends (.ofText text) line configured.rule edit) (bare : edit.insert = []) :
      configured.rule.id ≠ .hardTabs := by
    intro id
    generalize eq : configured.rule = rule at mends id
    cases mends with
    | tabs _ found => exact filled.spaces_ne_nil member (hardTabs?_of_mem enabled eq) found bare
    | _ => cases id
  by_cases bare : a.insert = []
  · have none : b.insert = [] := by
      rw [bare, byteLength_nil] at length
      exact eq_nil_of_byteLength_eq_zero length.symm
    exact differ (mends.eq_of_column_eq_of_bare mends' keeps stays bare none
      (inserts enabled mends bare) (inserts enabled' mends' none) column)
  · have some : b.insert ≠ [] := by
      intro none
      rw [none, byteLength_nil] at length
      exact bare (eq_nil_of_byteLength_eq_zero length)
    apply differ
    apply mends.eq_of_column_eq_of_inserts mends' _ bare some column
    intro id
    rw [eq_of_id_eq enabled enabled' id]

theorem inWords_edits (stored : Stored text) : Edit.InWords (ruleset.edits text) := by
  intro edit found keeps
  obtain ⟨line, member, _, -, -, mends⟩ := mem_edits.1 found
  have finish := mends.finish_le keeps
  have short := stored.length_lt (Line.text_mem_lines member)
  omega

end Ruleset

/-- The order of findings plays no part in the repaired text where their edits of a line, if they
differ, differ in their columns or in the bytes they insert. So it is for the findings of a text. -/
theorem repair_eq_of_perm :
    (∀ (text : List Char) (findings others : List Finding),
      Edit.InWords (findings.filterMap Finding.edit) →
        Edit.Distinguished (findings.filterMap Finding.edit) → findings.Perm others →
          repair text others = repair text findings) ∧
      ∀ (ruleset : Ruleset) (text : List Char), Stored text → ruleset.FillsTabs text →
        Edit.InWords ((ruleset.lint text).filterMap Finding.edit) ∧
          Edit.Distinguished ((ruleset.lint text).filterMap Finding.edit) ∧
          ∀ others, (ruleset.lint text).Perm others →
            repair text others = repair text (ruleset.lint text) := by
  have any (text : List Char) (findings others : List Finding)
      (words : Edit.InWords (findings.filterMap Finding.edit))
      (told : Edit.Distinguished (findings.filterMap Finding.edit)) (perm : findings.Perm others) :
      repair text others = repair text findings :=
    told.applyAll_eq_of_perm words (perm.filterMap Finding.edit) text
  refine ⟨any, ?_⟩
  intro ruleset text stored filled
  have words : Edit.InWords ((ruleset.lint text).filterMap Finding.edit) :=
    Ruleset.inWords_edits stored
  have told : Edit.Distinguished ((ruleset.lint text).filterMap Finding.edit) :=
    Ruleset.distinguished_edits filled
  exact ⟨words, told, fun others perm => any text _ others words told perm⟩

/-- Edits in the order of application: two delete a line, two insert at one column, and two stand in the
columns one and zero, which share a start. -/
def arranged : List Edit :=
  [⟨2, 4, .wholeLine, ['x']⟩, .deletingLine 2, .inserting 1 1 ['<', '<'], .inserting 1 1 ['<'],
    .inserting 1 0 ['>']]

/-- A heading of which every part is repaired, and edits that tie in part. -/
theorem repair_eq_of_perm_reversed :
    repair " #  B.\t".toList (Ruleset.embedded.lint " #  B.\t".toList).reverse =
        "# B \n".toList ∧
      repair "abc\n\nd".toList (arranged.map .carrying).reverse = "<<abc\nd".toList := by
  obtain ⟨any, found⟩ := repair_eq_of_perm
  constructor
  · obtain ⟨-, -, reversed⟩ := found .embedded " #  B.\t".toList (by decide) (by decide +kernel)
    have edits : (Ruleset.embedded.lint " #  B.\t".toList).filterMap Finding.edit =
        [⟨1, 7, .chars 1, [' ']⟩, .deleting 1 4 1, .deleting 1 1 1, .deleting 1 6 1,
          .inserting 1 8 ['\n']] := by decide +kernel
    rw [reversed _ (List.reverse_perm _).symm, repair, edits]
    cbv
  · have edits : (arranged.map .carrying).filterMap Finding.edit = arranged := by decide
    have sorted : Edit.schedule arranged = arranged := by
      rw [Edit.schedule, List.mergeSort_of_pairwise (by decide)]
      decide
    rw [any _ _ _ (by decide +kernel) (by decide +kernel) (List.reverse_perm _).symm, repair, edits,
      Edit.applyAll, sorted]
    decide +kernel

end DocCheck
