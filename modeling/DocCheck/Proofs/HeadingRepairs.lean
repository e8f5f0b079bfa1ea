import DocCheck.Proofs.EditOrder
import DocCheck.Proofs.EditedParts
import DocCheck.Proofs.FencesKept
import DocCheck.Proofs.HeadingContent

set_option autoImplicit false

namespace DocCheck

open Text

namespace Heading.Layout

variable {text : List Char} {heading : Heading} {spacing closing blanks : List Char}

theorem length_lead (layout : Layout text heading spacing closing blanks) :
    (hashLine heading.indent heading.level spacing).length = heading.contentStart := by
  rw [length_hashLine, layout.length_spacing, contentStart]

theorem line_eq_lead (layout : Layout text heading spacing closing blanks) :
    text = hashLine heading.indent heading.level spacing ++
      ((heading.content ++ closing) ++ blanks) := by
  rw [layout.line_eq]
  simp [hashLine]

theorem getElem?_core (layout : Layout text heading spacing closing blanks) {index : Nat} {c : Char}
    (found : (heading.content ++ closing)[index]? = some c) :
    text[heading.contentStart + index]? = some c := by
  have inside := (List.getElem?_eq_some_iff.1 found).1
  rw [layout.line_eq_lead, ← layout.length_lead, List.getElem?_append_right (Nat.le_add_right ..),
    Nat.add_sub_cancel_left, List.getElem?_append_left inside, found]

theorem exists_ends (layout : Layout text heading spacing closing blanks)
    (core : heading.content ++ closing ≠ []) :
    (∃ c, text[heading.contentStart]? = some c ∧ isSpaceOrTab c = false) ∧
      ∃ c, text[heading.contentStart + (heading.content ++ closing).length - 1]? = some c ∧
        isSpaceOrTab c = false := by
  have positive := List.length_pos_iff.2 core
  constructor
  · refine ⟨(heading.content ++ closing).head core, ?_, layout.first _ (List.head?_eq_some_head core)⟩
    have begins : (heading.content ++ closing)[0]? =
        some ((heading.content ++ closing).head core) := by
      rw [← List.head?_eq_getElem?, List.head?_eq_some_head core]
    exact layout.getElem?_core begins
  · refine ⟨(heading.content ++ closing).getLast core, ?_,
      layout.last _ (List.getLast?_eq_some_getLast core)⟩
    rw [Nat.add_sub_assoc positive]
    apply layout.getElem?_core
    rw [← List.getLast?_eq_getElem?, List.getLast?_eq_some_getLast core]

theorem exists_last (layout : Layout text heading spacing closing blanks)
    (nonempty : heading.content ≠ []) :
    ∃ front last, heading.content = front ++ [last] ∧ isSpaceOrTab last = false ∧
      text[heading.lastPlace]? = some last := by
  have ends := List.getLast?_eq_some_getLast nonempty
  exact ⟨heading.content.dropLast, heading.content.getLast nonempty,
    (List.dropLast_append_getLast nonempty).symm, layout.last_content ends,
    layout.shape.getElem?_last ends⟩

end Heading.Layout

theorem Heading.lastPlace_eq {heading : Heading} {front : List Char} {last : Char}
    (eq : heading.content = front ++ [last]) :
    heading.lastPlace = heading.contentStart + front.length := by
  rw [lastPlace, eq, List.length_append, List.length_singleton]
  omega

theorem all_head?_of_blank {text : List Char} {p : Char → Bool} (blank : ∀ c ∈ text, p c = true) :
    text.head?.all p = true := by
  cases text with
  | nil => rfl
  | cons c text => exact blank c (List.mem_cons_self ..)

namespace Ruleset

variable {ruleset : Ruleset} {text : List Char} {line : Line} {heading : Heading} {edit : Edit}
  {spacing closing blanks : List Char}

/-- Of the edits that act on a heading, only one removes a character that is no blank. -/
theorem Acts.eq_unmarking (acts : Acts ruleset text line edit)
    (parsed : line.heading? = some heading) {index : Nat} {c : Char}
    (here : line.text[index]? = some c) (hard : isSpaceOrTab c = false)
    (start : edit.start ≤ index) (finish : index < edit.finish) :
    edit = .unmarking line heading ∧ edit.start = index := by
  obtain ⟨configured, -, -, mends⟩ := acts.asks
  by_cases id : configured.rule.id = .trailingPunctuation
  · have eq := mends.eq_unmarking id parsed
    have narrow : edit.finish = edit.start + 1 := by
      rw [eq]
      rfl
    exact ⟨eq, by omega⟩
  · have gone := Edit.mem_removed_of_getElem? here start finish
    rw [mends.isSpaceOrTab_of_mem_removed acts.keeps id gone] at hard
    cases hard

/-- No edit reaches across a place beside a character that is no blank. -/
theorem Acts.finish_le_of_hard (acts : Acts ruleset text line edit)
    (parsed : line.heading? = some heading) {index stop : Nat} {c : Char}
    (here : line.text[index]? = some c) (hard : isSpaceOrTab c = false)
    (beside : index = stop ∨ index + 1 = stop) (start : edit.start < stop) : edit.finish ≤ stop := by
  by_contra across
  obtain ⟨eq, place⟩ := acts.eq_unmarking parsed here hard (by omega) (by omega)
  have narrow : edit.finish = edit.start + 1 := by
    rw [eq]
    rfl
  omega

theorem content_ne_nil_of_reports (member : line ∈ Line.ofText text)
    (parsed : line.heading? = some heading)
    (reports : ruleset.reports .trailingPunctuation text line = true) : heading.content ≠ [] := by
  obtain ⟨other, last, parsed', content, -⟩ := of_reports member reports
  obtain rfl := Option.some.inj (parsed.symm.trans parsed')
  intro none
  rw [none] at content
  cases content

/-- What acts on a heading with a content or a closing run: the edits of its tabs, the one that removes
its last character, and edits outside of the content and the closing run. -/
theorem Acts.cases_of_layout (acts : Acts ruleset text line edit) (member : line ∈ Line.ofText text)
    (parsed : line.heading? = some heading)
    (layout : Heading.Layout line.text heading spacing closing blanks)
    (core : heading.content ++ closing ≠ []) :
    edit ∈ ruleset.fills text line ∨
      (edit = .unmarking line heading ∧ ruleset.reports .trailingPunctuation text line = true) ∨
      (edit.start ≠ heading.indent + heading.level ∧ edit.start < heading.contentStart ∧
        edit.finish ≤ heading.contentStart) ∨
      heading.contentStart + (heading.content ++ closing).length ≤ edit.start := by
  obtain ⟨configured, enabled, left, mends⟩ := acts.asks
  have reports := reports_of_mends member enabled left mends
  have positive := layout.level_pos
  have begins : heading.contentStart = heading.indent + heading.level + heading.spacing := rfl
  rw [ConfiguredRule.id] at reports left
  generalize eq : configured.rule = rule at mends reports left
  cases mends with
  | trailing =>
    -- The content, or the run that closes it, does not end in a space.
    obtain ⟨-, c, last, hard⟩ := layout.exists_ends core
    have solid : (c == ' ') = false := by
      rw [isSpaceOrTab, Bool.or_eq_false_iff] at hard
      exact hard.1
    have inside : _ < (trimEnd (· == ' ') line.text).length := lt_length_trimEnd last solid
    right; right; right
    simp only [Edit.deleting, Edit.start_mk]
    omega
  | @tabs options run checked found =>
    exact .inl (mem_fills.2 ⟨options, tabs?_eq_some.2 ⟨configured, enabled,
      ConfiguredRule.tabs?_eq_some.2 ⟨eq, left, checked⟩⟩, run, found, rfl⟩)
  | blank =>
    have keeps := acts.keeps
    cases keeps
  | unspaced _ lacks =>
    rw [lacksSpace_eq_false_of_heading (Line.heading?_eq_some.1 parsed).2] at lacks
    cases lacks
  | spaced found several =>
    obtain rfl := Option.some.inj (found.symm.trans parsed)
    right; right; left
    simp only [Edit.deleting, Edit.start_mk, Edit.finish_mk]
    omega
  | indented found =>
    obtain rfl := Option.some.inj (found.symm.trans parsed)
    right; right; left
    simp only [Edit.deleting, Edit.start_mk, Edit.finish_mk]
    omega
  | punctuated found =>
    obtain rfl := Option.some.inj (found.symm.trans parsed)
    exact .inr (.inl ⟨rfl, reports⟩)
  | unended => exact absurd rfl acts.inner

/-- On the spaces before the hashes of a heading nothing is inserted. -/
theorem Acts.insert_eq_nil_of_heading (acts : Acts ruleset text line edit)
    (parsed : line.heading? = some heading)
    (layout : Heading.Layout line.text heading spacing closing blanks)
    (inside : edit.finish ≤ heading.indent) : edit.insert = [] := by
  obtain ⟨_, -, -, mends⟩ := acts.asks
  have wide := mends.width_pos acts.keeps
    (lacksSpace_eq_false_of_heading (Line.heading?_eq_some.1 parsed).2) acts.inner
  have sum : edit.finish = edit.start + edit.width := rfl
  have positive := layout.level_pos
  by_contra inserts
  rcases mends.cases_of_insert_ne_nil inserts with
    ⟨eq, -⟩ | ⟨-, -, -, -, -, tab⟩ | ⟨eq, -⟩
  · rw [eq] at wide
    exact absurd wide (Nat.lt_irrefl 0)
  · rw [layout.line_eq] at tab
    have outside := le_of_getElem?_hashLine tab
    omega
  · exact acts.inner eq

/-- The content as it is read after the pass, before tabs are widened. -/
def keptContent (ruleset : Ruleset) (text : List Char) (line : Line) (heading : Heading) :
    List Char :=
  if ruleset.reports .trailingPunctuation text line then
    heading.unmarkedContent (heading.isClosed line.text)
  else heading.content

theorem contentOf_widened (filled : ruleset.FillsTabs text) (member : line ∈ Line.ofText text)
    (part : List Char) :
    Heading.contentOf (ruleset.widened text line part) =
      ruleset.widened text line (Heading.contentOf part) := by
  rw [widened, widened]
  split
  · rename_i reports
    obtain ⟨options, checks⟩ := tabs?_of_reports member reports
    exact Heading.contentOf_widen (filled.tabWidth_pos (hardTabs?_of_tabs? checks)) part
  · rfl

/-- From an edit of tabs inside the content or the closing run every other edit lies apart. -/
theorem Acts.eq_or_apart_of_mem_fills {other : Edit} (acts : Acts ruleset text line edit)
    (member : line ∈ Line.ofText text) (parsed : line.heading? = some heading)
    (layout : Heading.Layout line.text heading spacing closing blanks)
    (core : heading.content ++ closing ≠ []) (filled : edit ∈ ruleset.fills text line)
    (low : heading.contentStart ≤ edit.start)
    (high : edit.finish ≤ heading.contentStart + (heading.content ++ closing).length)
    (asks : Asks ruleset text line other) (keeps : other.deletesLine = false) :
    other = edit ∨ Edit.Apart other edit ∨ Edit.Apart edit other := by
  have wide := (finish_le_of_mem_fills filled).1
  by_cases last : other = newline line
  · right; right
    have start : other.start = line.text.length := by rw [last]; rfl
    have finish := acts.finish_le
    exact ⟨by omega, by omega⟩
  · have acts' : Acts ruleset text line other := ⟨asks, keeps, last⟩
    rcases acts'.cases_of_layout member parsed layout core with
      fills | ⟨eq, reports⟩ | ⟨-, before, finish⟩ | behind
    · exact Edit.eq_or_apart (ruleset.pairwise_fills text line) fills filled
    · obtain ⟨heading', last, parsed', content, -⟩ := of_reports member reports
      obtain rfl := Option.some.inj (parsed.symm.trans parsed')
      obtain ⟨_, -, -, mends⟩ := acts.asks
      rw [eq]
      rcases mends.apart_unmarking acts.keeps parsed content with same | left | right
      · exact .inl same.symm
      · exact .inr (.inr left)
      · exact .inr (.inl right)
    · exact .inr (.inl ⟨by omega, by omega⟩)
    · exact .inr (.inr ⟨by omega, by omega⟩)

theorem splice_unmarking (ending : LineEnding) (line : Line) (heading : Heading) (last : Char) :
    Edit.splice ending heading.lastPlace [.unmarking line heading] [last] = [] := by
  have start : (Edit.unmarking line heading).start = heading.lastPlace := rfl
  have finish : (Edit.unmarking line heading).finish = heading.lastPlace + 1 := rfl
  rw [Edit.splice, start, finish, Nat.sub_self, Nat.add_sub_cancel_left]
  rfl

section KeptLine

variable (stored : Stored text) (member : line ∈ Line.ofText text)
  (kept : ruleset.deletes text line = false)
include stored member kept

theorem blank_splice {part : List Char} (blank : ∀ c ∈ part, isSpaceOrTab c = true)
    (first stop column : Nat) :
    ∀ c ∈ Edit.splice (lineEnding text) column
      (Edit.between first stop (ruleset.acting text line)) part, isSpaceOrTab c = true := by
  intro c found
  have acting : Edit.between first stop (ruleset.acting text line) ⊆ ruleset.acting text line :=
    fun _ inside => (Edit.mem_between.1 inside).1
  rcases mem_splice_of_acting stored member kept acting found with there | rfl
  · exact blank c there
  · rfl

variable (parsed : line.heading? = some heading)
include parsed

theorem between_lastPlace (reports : ruleset.reports .trailingPunctuation text line = true) :
    Edit.between heading.lastPlace (heading.lastPlace + 1) (ruleset.acting text line) =
      [.unmarking line heading] := by
  have apart := ruleset.pairwise_acting stored member kept
  have acting := unmarking_mem_acting stored member kept reports parsed
  have place : (Edit.unmarking line heading).start = heading.lastPlace := rfl
  apply (Edit.pairwise_between apart _ _).eq_of_mem_iff (List.pairwise_singleton _ _)
  intro edit
  rw [Edit.mem_between, List.mem_singleton]
  constructor
  · rintro ⟨found, low, high⟩
    rcases Edit.eq_or_apart apart found acting with same | left | right
    · exact same
    · have := left.start_lt
      omega
    · have := right.start_lt
      omega
  · rintro rfl
    exact ⟨acting, by omega, by omega⟩

variable (layout : Heading.Layout line.text heading spacing closing blanks)
include layout

theorem mem_acting_of_mem_fills (core : heading.content ++ closing ≠ [])
    (filled : edit ∈ ruleset.fills text line) (low : heading.contentStart ≤ edit.start)
    (high : edit.start < heading.contentStart + (heading.content ++ closing).length) :
    edit ∈ ruleset.acting text line := by
  have asked := (mem_onLine_edits member).2 (asks_of_mem_fills filled)
  have keeps {other : Edit} (found : other ∈ Edit.onLine line.number (ruleset.edits text)) :=
    (fits_onLine stored member kept found).keeps
  have wide := (finish_le_of_mem_fills filled).1
  have inner : edit ≠ newline line := by
    rintro rfl
    exact absurd wide (Nat.lt_irrefl _)
  have acts : Acts ruleset text line edit := ⟨asks_of_mem_fills filled, keeps asked, inner⟩
  obtain ⟨-, c, last, hard⟩ := layout.exists_ends core
  have within : edit.finish ≤ heading.contentStart + (heading.content ++ closing).length :=
    acts.finish_le_of_hard parsed last hard (.inr (by omega)) high
  have carried := Edit.mem_effective (fits_onLine stored member kept asked)
    (Edit.pairwise_start_onLine fun _ found => keeps found)
    (fun other found => acts.eq_or_apart_of_mem_fills member parsed layout core filled low within
      ((mem_onLine_edits member).1 found) (keeps found)) asked
  exact List.mem_filter.2 ⟨carried, by simpa using inner⟩

/-- Inside the content and the closing run only the edits of tabs act, but for the one that removes the
last character. -/
theorem mem_acting_iff_mem_fills (core : heading.content ++ closing ≠ [])
    (low : heading.contentStart ≤ edit.start)
    (high : edit.start < heading.contentStart + (heading.content ++ closing).length)
    (other : ruleset.reports .trailingPunctuation text line = true →
      edit.start ≠ heading.lastPlace) :
    edit ∈ ruleset.acting text line ↔ edit ∈ ruleset.fills text line := by
  constructor
  · intro found
    have acts := acts_of_mem_acting stored member kept found
    rcases acts.cases_of_layout member parsed layout core with
      fills | ⟨rfl, reports⟩ | ⟨-, before, -⟩ | behind
    · exact fills
    · exact absurd rfl (other reports)
    · omega
    · omega
  · intro filled
    exact mem_acting_of_mem_fills stored member kept parsed layout core filled low high

theorem splice_part (filled : ruleset.FillsTabs text) (core : heading.content ++ closing ≠ [])
    {before part after : List Char} {first stop : Nat} (eq : line.text = before ++ (part ++ after))
    (start : before.length = first) (finish : first + part.length = stop)
    (left : before.getLast? ≠ some '\t' ∨ (part ++ after).head? ≠ some '\t')
    (right : part.getLast? ≠ some '\t' ∨ after.head? ≠ some '\t')
    (low : heading.contentStart ≤ first)
    (high : stop ≤ heading.contentStart + (heading.content ++ closing).length)
    (other : ruleset.reports .trailingPunctuation text line = true →
      stop ≤ heading.lastPlace ∨ heading.lastPlace < first) :
    Edit.splice (lineEnding text) first (Edit.between first stop (ruleset.acting text line)) part =
      ruleset.widened text line part := by
  apply splice_between_of_fills _ filled member (ruleset.pairwise_acting stored member kept) eq start
    finish left right
  intro edit least most
  apply mem_acting_iff_mem_fills stored member kept parsed layout core (by omega) (by omega)
  intro reports here
  have outside := other reports
  omega

theorem splice_core_of_silent (filled : ruleset.FillsTabs text)
    (core : heading.content ++ closing ≠ [])
    (silent : ruleset.reports .trailingPunctuation text line = false) :
    Edit.splice (lineEnding text) heading.contentStart
        (Edit.between heading.contentStart
          (heading.contentStart + (heading.content ++ closing).length) (ruleset.acting text line))
        (heading.content ++ closing) =
      ruleset.widened text line (heading.content ++ closing) := by
  apply splice_part stored member kept parsed layout filled core layout.line_eq_lead
    layout.length_lead rfl
  · right
    intro tab
    rw [List.head?_append_of_ne_nil _ core] at tab
    exact absurd (layout.first _ tab) (by decide)
  · left
    intro tab
    exact absurd (layout.last _ tab) (by decide)
  · exact Nat.le_refl _
  · exact Nat.le_refl _
  · intro reports
    rw [silent] at reports
    cases reports

section LastCharacter

variable {front : List Char} {last : Char}

theorem splice_front (filled : ruleset.FillsTabs text) (eq : heading.content = front ++ [last])
    (plain : last ≠ '\t') :
    Edit.splice (lineEnding text) heading.contentStart
        (Edit.between heading.contentStart heading.lastPlace (ruleset.acting text line)) front =
      ruleset.widened text line front := by
  have place := Heading.lastPlace_eq eq
  have core : heading.content ++ closing ≠ [] := by simp [eq]
  have lead : line.text = hashLine heading.indent heading.level spacing ++
      (front ++ last :: (closing ++ blanks)) := by
    rw [layout.line_eq_lead, eq]
    simp
  have length : (heading.content ++ closing).length = front.length + 1 + closing.length := by
    rw [eq, List.length_append, List.length_append, List.length_singleton]
  apply splice_part stored member kept parsed layout filled core lead layout.length_lead place.symm
  · right
    intro tab
    have same : (heading.content ++ closing).head? = some '\t' := by
      rw [← tab, eq]
      cases front <;> rfl
    exact absurd (layout.first _ same) (by decide)
  · exact .inr (by simpa using plain)
  · exact Nat.le_refl _
  · omega
  · exact fun _ => .inl (Nat.le_refl _)

theorem splice_closing (filled : ruleset.FillsTabs text) (eq : heading.content = front ++ [last])
    (plain : last ≠ '\t') :
    Edit.splice (lineEnding text) (heading.lastPlace + 1)
        (Edit.between (heading.lastPlace + 1) (heading.lastPlace + 1 + closing.length)
          (ruleset.acting text line)) closing =
      ruleset.widened text line closing := by
  have place := Heading.lastPlace_eq eq
  have core : heading.content ++ closing ≠ [] := by simp [eq]
  have lead : line.text =
      hashLine heading.indent heading.level (spacing ++ (front ++ [last])) ++
        (closing ++ blanks) := by
    rw [layout.line_eq_lead, eq]
    simp [hashLine]
  have width : (hashLine heading.indent heading.level (spacing ++ (front ++ [last]))).length =
      heading.lastPlace + 1 := by
    rw [place, length_hashLine, Heading.contentStart, ← layout.length_spacing]
    simp only [List.length_append, List.length_singleton]
    omega
  have length : (heading.content ++ closing).length = front.length + 1 + closing.length := by
    rw [eq, List.length_append, List.length_append, List.length_singleton]
  apply splice_part stored member kept parsed layout filled core lead width rfl
  · left
    simpa [hashLine] using plain
  · left
    intro tab
    apply absurd (layout.last '\t' _) (by decide)
    rw [List.getLast?_append, tab, Option.some_or]
  · omega
  · omega
  · exact fun _ => .inr (Nat.lt_succ_self _)

end LastCharacter

/-- Reported punctuation goes, and the rest of the content and the closing run have their tabs
widened. -/
theorem splice_core_of_reports (filled : ruleset.FillsTabs text)
    (reports : ruleset.reports .trailingPunctuation text line = true) :
    Edit.splice (lineEnding text) heading.contentStart
        (Edit.between heading.contentStart
          (heading.contentStart + (heading.content ++ closing).length) (ruleset.acting text line))
        (heading.content ++ closing) =
      ruleset.widened text line (heading.content.dropLast ++ closing) := by
  have apart := ruleset.pairwise_acting stored member kept
  obtain ⟨front, last, eq, hard, here⟩ :=
    layout.exists_last (content_ne_nil_of_reports member parsed reports)
  have place := Heading.lastPlace_eq eq
  have plain : last ≠ '\t' := by
    rintro rfl
    cases hard
  -- The last character is no blank, so the line may be cut on both sides of it.
  have clean (cut : Nat) (beside : heading.lastPlace = cut ∨ heading.lastPlace + 1 = cut) :
      ∀ edit ∈ ruleset.acting text line, edit.start < cut → edit.finish ≤ cut := by
    intro edit found before
    exact (acts_of_mem_acting stored member kept found).finish_le_of_hard parsed here hard beside
      before
  have cut : heading.content ++ closing = front ++ ([last] ++ closing) := by
    rw [eq]
    simp
  have stop : heading.contentStart + (heading.content ++ closing).length =
      heading.lastPlace + 1 + closing.length := by
    rw [place, cut]
    simp only [List.length_append, List.length_singleton]
    omega
  have width : heading.lastPlace + [last].length = heading.lastPlace + 1 := rfl
  have behind := Edit.splice_between (lineEnding text) apart [last] closing width
    (Nat.le_add_right _ closing.length) (clean _ (.inr rfl))
  rw [stop, cut, Edit.splice_between _ apart front _ place.symm (by omega) (clean _ (.inl rfl)),
    behind, between_lastPlace stored member kept parsed reports,
    splice_unmarking, splice_front stored member kept parsed layout filled eq plain,
    splice_closing stored member kept parsed layout filled eq plain, eq, List.dropLast_concat,
    widened_append, List.nil_append]

/-- Of a heading the hashes stay, and no more spaces stand before them. -/
theorem exists_mended_heading :
    ∃ spaces, spaces ≤ heading.indent ∧ ruleset.mended text line =
      hashLine spaces heading.level (Edit.splice (lineEnding text) (heading.indent + heading.level)
        (Edit.between (heading.indent + heading.level) line.text.length (ruleset.acting text line))
        (spacing ++ ((heading.content ++ closing) ++ blanks))) := by
  have head : (spacing ++ ((heading.content ++ closing) ++ blanks)).head? ≠ some '#' := by
    intro hash
    have spaced := layout.spaced
    rw [hash] at spaced
    cases spaced
  obtain ⟨left, right, spaces, split, before, behind, blank, mended⟩ :=
    mended_hashLine stored member kept layout.line_eq layout.level_pos head
  have acts : ∀ edit ∈ left ++ right, Acts ruleset text line edit := fun edit found =>
    acts_of_mem_acting stored member kept (split ▸ found)
  have bare : ∀ edit ∈ left, edit.insertion (lineEnding text) = [] := by
    intro edit found
    have act := acts edit (List.mem_append_left right found)
    rw [act.insertion_eq, act.insert_eq_nil_of_heading parsed layout (before edit found)]
  have fewer := (Edit.splice_sublist (lineEnding text) bare 0
    (List.replicate heading.indent ' ')).length_le
  rw [blank, List.length_replicate, List.length_replicate] at fewer
  have positive := layout.level_pos
  -- The edits from the end of the hashes on are those to the right of the cut.
  have rights : Edit.between (heading.indent + heading.level) line.text.length
      (ruleset.acting text line) = right := by
    have none : Edit.between (heading.indent + heading.level) line.text.length left = [] := by
      rw [List.eq_nil_iff_forall_not_mem]
      intro edit found
      obtain ⟨there, low, -⟩ := Edit.mem_between.1 found
      have finish := before edit there
      have le : edit.start ≤ edit.finish := Nat.le_add_right ..
      omega
    have all : Edit.between (heading.indent + heading.level) line.text.length right = right := by
      apply List.filter_eq_self.2
      intro edit found
      simpa using ⟨behind edit found, (acts edit (List.mem_append_right left found)).start_lt⟩
    unfold Edit.between at none all ⊢
    rw [split, List.filter_append, none, all, List.nil_append]
  exact ⟨spaces, fewer, by rw [rights, mended]⟩

/-- Some blank is left between the hashes and the content. -/
theorem splice_spacing_ne_nil (filled : ruleset.FillsTabs text) (core : heading.content ++ closing ≠ []) :
    Edit.splice (lineEnding text) (heading.indent + heading.level)
      (Edit.between (heading.indent + heading.level) heading.contentStart (ruleset.acting text line))
      spacing ≠ [] := by
  have apart := ruleset.pairwise_acting stored member kept
  by_cases first : ∃ edit ∈ Edit.between (heading.indent + heading.level) heading.contentStart
      (ruleset.acting text line), edit.start = heading.indent + heading.level
  · -- What acts behind the hashes puts spaces in the place of tabs.
    obtain ⟨edit, found, start⟩ := first
    obtain ⟨acting, -, high⟩ := Edit.mem_between.1 found
    have acts := acts_of_mem_acting stored member kept acting
    obtain ⟨rest, eq⟩ := Edit.exists_cons_of_mem (Edit.pairwise_between apart _ _) found
      fun next there => by
        have := (Edit.mem_between.1 there).2.1
        omega
    have inserts : edit.insert ≠ [] := by
      rcases acts.cases_of_layout member parsed layout core with
        fills | ⟨rfl, reports⟩ | ⟨elsewhere, -⟩ | behind
      · obtain ⟨options, checks, run, there, rfl⟩ := mem_fills.1 fills
        exact filled.spaces_ne_nil member (hardTabs?_of_tabs? checks) there
      · have positive := List.length_pos_iff.2 (content_ne_nil_of_reports member parsed reports)
        simp only [Edit.unmarking, Edit.deleting, Edit.start_mk] at high
        omega
      · exact absurd start elsewhere
      · omega
    rw [eq, Edit.splice, acts.insertion_eq]
    simp [inserts]
  · have after : ∀ edit ∈ Edit.between (heading.indent + heading.level) heading.contentStart
        (ruleset.acting text line), heading.indent + heading.level < edit.start := by
      intro edit found
      have low := (Edit.mem_between.1 found).2.1
      have : edit.start ≠ heading.indent + heading.level := fun start =>
        first ⟨edit, found, start⟩
      omega
    cases spacing with
    | nil =>
      have spaced := layout.spaced
      have begins := List.head?_eq_some_head core
      rw [List.nil_append, List.head?_append_of_ne_nil _ core, begins, Option.all_some,
        layout.first _ begins] at spaced
      cases spaced
    | cons c spacing =>
      rw [Edit.splice_cons _ after]
      exact List.cons_ne_nil _ _

/-- What the pass makes of the content and the closing run is read as the kept content. -/
theorem contentOf_splice_core (filled : ruleset.FillsTabs text) (core : heading.content ++ closing ≠ []) :
    Heading.contentOf (Edit.splice (lineEnding text) heading.contentStart
        (Edit.between heading.contentStart
          (heading.contentStart + (heading.content ++ closing).length) (ruleset.acting text line))
        (heading.content ++ closing)) =
      ruleset.widened text line (ruleset.keptContent text line heading) := by
  cases reports : ruleset.reports .trailingPunctuation text line with
  | true =>
    have nonempty := content_ne_nil_of_reports member parsed reports
    rw [splice_core_of_reports stored member kept parsed layout filled reports,
      contentOf_widened filled member, layout.contentOf_dropLast nonempty, keptContent, if_pos reports,
      layout.isClosed_eq nonempty]
  | false =>
    rw [splice_core_of_silent stored member kept parsed layout filled core reports,
      contentOf_widened filled member, Heading.contentOf_eq_withoutClosing layout.first layout.last,
      layout.closed, keptContent, reports, if_neg Bool.false_ne_true]

theorem read_after_of_bare (bare : heading.content ++ closing = []) {after : List Char}
    (made : after = Edit.splice (lineEnding text) (heading.indent + heading.level)
      (Edit.between (heading.indent + heading.level) line.text.length (ruleset.acting text line))
      (spacing ++ ((heading.content ++ closing) ++ blanks))) :
    after.head?.all isSpaceOrTab = true ∧
      Heading.contentOf after =
        ruleset.widened text line (ruleset.keptContent text line heading) := by
  have content : heading.content = [] := (List.append_eq_nil_iff.1 bare).1
  have silent : ruleset.reports .trailingPunctuation text line = false := by
    rw [← Bool.not_eq_true]
    intro reports
    exact content_ne_nil_of_reports member parsed reports content
  have whole : ∀ c ∈ spacing ++ ((heading.content ++ closing) ++ blanks),
      isSpaceOrTab c = true := by
    intro c found
    rw [bare, List.nil_append] at found
    exact (List.mem_append.1 found).elim (layout.spacing_blank c) (layout.blanks_blank c)
  have blank := blank_splice stored member kept whole (heading.indent + heading.level)
    line.text.length (heading.indent + heading.level)
  rw [← made] at blank
  refine ⟨all_head?_of_blank blank, ?_⟩
  rw [Heading.contentOf_eq_nil blank, keptContent, silent, if_neg Bool.false_ne_true, content,
    widened_nil]

/-- What stands before and behind the content and the closing run plays no part in what is read. -/
theorem read_after (filled : ruleset.FillsTabs text) (core : heading.content ++ closing ≠ []) {after : List Char}
    (made : after = Edit.splice (lineEnding text) (heading.indent + heading.level)
      (Edit.between (heading.indent + heading.level) line.text.length (ruleset.acting text line))
      (spacing ++ ((heading.content ++ closing) ++ blanks))) :
    after.head?.all isSpaceOrTab = true ∧
      Heading.contentOf after =
        ruleset.widened text line (ruleset.keptContent text line heading) := by
  have apart := ruleset.pairwise_acting stored member kept
  have length : line.text.length =
      heading.contentStart + ((heading.content ++ closing).length + blanks.length) := by
    rw [layout.line_eq_lead, List.length_append, layout.length_lead, List.length_append]
  have start : heading.indent + heading.level + spacing.length = heading.contentStart := by
    rw [layout.length_spacing, Heading.contentStart]
  have positive := List.length_pos_iff.2 core
  obtain ⟨⟨first, begins, hard⟩, last, ends, solid⟩ := layout.exists_ends core
  -- No edit reaches across the ends of the content and its closing run, which are no blanks.
  have clean {index cut : Nat} {c : Char} (here : line.text[index]? = some c)
      (hard : isSpaceOrTab c = false) (beside : index = cut ∨ index + 1 = cut) :
      ∀ edit ∈ ruleset.acting text line, edit.start < cut → edit.finish ≤ cut :=
    fun edit found => (acts_of_mem_acting stored member kept found).finish_le_of_hard parsed here hard
      beside
  have front := Edit.splice_between (lineEnding text) apart spacing
    ((heading.content ++ closing) ++ blanks) start
    (by omega : heading.contentStart ≤ line.text.length) (clean begins hard (.inl rfl))
  have back := Edit.splice_between (lineEnding text) apart (heading.content ++ closing) blanks rfl
    (by omega : heading.contentStart + (heading.content ++ closing).length ≤ line.text.length)
    (clean ends solid (.inr (by omega)))
  rw [front, back] at made
  have some := splice_spacing_ne_nil stored member kept parsed layout filled core
  have before := blank_splice stored member kept layout.spacing_blank
    (heading.indent + heading.level) heading.contentStart (heading.indent + heading.level)
  have behind := blank_splice stored member kept layout.blanks_blank
    (heading.contentStart + (heading.content ++ closing).length) line.text.length
    (heading.contentStart + (heading.content ++ closing).length)
  constructor
  · rw [made, List.head?_append_of_ne_nil _ some]
    exact all_head?_of_blank before
  · rw [made, Heading.contentOf_append before behind,
      contentOf_splice_core stored member kept parsed layout filled core]

end KeptLine

/-- The line of a heading is read as one after the pass. -/
theorem parse?_mended_of_heading (stored : Stored text) (filled : ruleset.FillsTabs text)
    (member : line ∈ Line.ofText text) (kept : ruleset.deletes text line = false)
    (parsed : line.heading? = some heading) :
    ∃ repaired, Heading.parse? (ruleset.mended text line) = some repaired ∧
      repaired.level = heading.level ∧
      repaired.content = ruleset.widened text line (ruleset.keptContent text line heading) := by
  obtain ⟨spacing, closing, blanks, layout⟩ :=
    Heading.layout_of_parse? (Line.heading?_eq_some.1 parsed).2
  obtain ⟨spaces, le, mended⟩ := exists_mended_heading stored member kept parsed layout
  generalize made : Edit.splice _ _ _ _ = after at mended
  have read : after.head?.all isSpaceOrTab = true ∧ Heading.contentOf after =
      ruleset.widened text line (ruleset.keptContent text line heading) := by
    by_cases core : heading.content ++ closing = []
    · exact read_after_of_bare stored member kept parsed layout core made.symm
    · exact read_after stored member kept parsed layout filled core made.symm
  rw [mended]
  exact ⟨_, Heading.parse?_hashLine (Nat.le_trans le layout.indent_le) layout.level_pos
    layout.level_le read.1, rfl, read.2⟩

theorem deletes_eq_false_of_heading (member : line ∈ Line.ofText text)
    (parsed : line.heading? = some heading) : ruleset.deletes text line = false := by
  rw [← Bool.not_eq_true]
  intro gone
  obtain ⟨_, -, -, mends⟩ := (deletes_iff member).1 gone
  have blank := List.all_eq_true.1 (mends.of_deletes rfl).2.2
  obtain ⟨spacing, tail, shape⟩ := Heading.shape_of_parse? (Line.heading?_eq_some.1 parsed).2
  have hash : '#' ∈ line.text := by
    have positive := shape.level_pos
    rw [shape.line_eq]
    simp [hashLine]
    omega
  exact absurd (blank '#' hash) (by decide)

/-- A kept line stands, mended, among the lines of the repaired text where it stands among the kept
lines. -/
theorem getElem?_lines_repair (stored : Stored text) (member : line ∈ ruleset.kept text) :
    (lines (repair text (ruleset.lint text)))[(ruleset.kept text).idxOf line]? =
      some (ruleset.mended text line) := by
  obtain ⟨rest, whole⟩ := ruleset.map_mended_isPrefix stored
  have inside := List.idxOf_lt_length_of_mem member
  rw [← whole, List.getElem?_append_left (by rwa [List.length_map]), List.getElem?_map,
    List.getElem?_eq_getElem inside, List.getElem_idxOf, Option.map_some]

end Ruleset

/-- Where the reported tabs become words of at least one space, each heading stays on its line with its
level. Its content stays too, but for reported punctuation at its end, with the blanks before it and,
where no closing run stands behind it, the run of hashes that then closes it, and for tabs that are
widened. -/
theorem heading_repair (ruleset : Ruleset) (text : List Char) (stored : Stored text)
    (filled : ruleset.FillsTabs text) (line : Line) (heading : Heading)
    (listed : (line, heading) ∈ (Document.ofText text).headings) :
    line ∈ ruleset.kept text ∧ ∃ after repaired,
      (lines (repair text (ruleset.lint text)))[(ruleset.kept text).idxOf line]? = some after ∧
        Heading.parse? after = some repaired ∧ repaired.level = heading.level ∧
        repaired.content = ruleset.widened text line (ruleset.keptContent text line heading) := by
  obtain ⟨member, parsed⟩ := Document.mem_headings.1 listed
  have stays : ruleset.deletes text line = false :=
    Ruleset.deletes_eq_false_of_heading member parsed
  have kept : line ∈ ruleset.kept text := Ruleset.mem_kept.2 ⟨member, stays⟩
  obtain ⟨repaired, read, level, content⟩ :=
    Ruleset.parse?_mended_of_heading stored filled member stays parsed
  exact ⟨kept, ruleset.mended text line, repaired, Ruleset.getElem?_lines_repair stored kept, read,
    level, content⟩

def tidying : Ruleset :=
  ⟨[⟨.hardTabs { spacesPerTab := 2 }, .error⟩, ⟨.multipleSpace {}, .error⟩,
    ⟨.headingStart {}, .error⟩, ⟨.trailingPunctuation {}, .error⟩], by decide⟩

/-- The full stop goes with the space before it; the closing run stays one. -/
theorem heading_repair_closed :
    ∃ after repaired, (lines (repair "  #  a\tb .\t# \nx".toList
        (tidying.lint "  #  a\tb .\t# \nx".toList)))[0]? = some after ∧
      Heading.parse? after = some repaired ∧ repaired.level = 1 ∧
      repaired.content = "a  b".toList := by
  obtain ⟨-, after, repaired, here, read, level, content⟩ :=
    heading_repair tidying "  #  a\tb .\t# \nx".toList (by decide) (by decide +kernel)
      ⟨1, "  #  a\tb .\t# ".toList, .prose⟩ ⟨2, 1, 2, "a\tb .".toList⟩ (by decide)
  have place : (tidying.kept "  #  a\tb .\t# \nx".toList).idxOf
      ⟨1, "  #  a\tb .\t# ".toList, .prose⟩ = 0 := by decide +kernel
  rw [place] at here
  exact ⟨after, repaired, here, read, level, content.trans (by decide +kernel)⟩

def unpointed : Ruleset :=
  ⟨[⟨.trailingPunctuation { punctuation := ['.', '#'] }, .error⟩], by decide⟩

/-- The content can lose more than its last character: once the full stop is gone, the hash before it
closes the heading. -/
theorem content_ne_trimEnd_dropLast :
    ¬ ∀ (ruleset : Ruleset) (text : List Char), Stored text → ruleset.FillsTabs text →
      ∀ line heading, (line, heading) ∈ (Document.ofText text).headings →
        ∃ after repaired,
          (lines (repair text (ruleset.lint text)))[(ruleset.kept text).idxOf line]? = some after ∧
            Heading.parse? after = some repaired ∧ repaired.level = heading.level ∧
            repaired.content = ruleset.widened text line
              (if ruleset.reports .trailingPunctuation text line then
                trimEnd isSpaceOrTab heading.content.dropLast
              else heading.content) := by
  intro claim
  obtain ⟨after, repaired, here, read, -, content⟩ :=
    claim unpointed "# a #.".toList (by decide) (by decide +kernel) ⟨1, "# a #.".toList, .prose⟩
      ⟨0, 1, 1, "a #.".toList⟩ (by decide)
  have edits : (unpointed.lint "# a #.".toList).filterMap Finding.edit = [.deleting 1 6 1] := by
    decide +kernel
  have place : (unpointed.kept "# a #.".toList).idxOf ⟨1, "# a #.".toList, .prose⟩ = 0 := by
    decide +kernel
  have made : lines (Edit.applyAll "# a #.".toList [.deleting 1 6 1]) = ["# a #".toList] := by cbv
  rw [repair, edits, place, made, List.getElem?_cons_zero, Option.some.injEq] at here
  have again : Heading.parse? "# a #".toList = some ⟨0, 1, 1, ['a']⟩ := by decide
  rw [← here, again, Option.some.injEq] at read
  rw [← read] at content
  revert content
  decide +kernel

end DocCheck
