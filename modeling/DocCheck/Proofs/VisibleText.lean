import DocCheck.Proofs.AllowedEdits
import Mathlib.Data.List.Flatten
import Mathlib.Data.List.Nodup
import Mathlib.Data.List.Perm.Subperm

set_option autoImplicit false

namespace DocCheck

open Text

namespace Text

/-- The characters of a text other than white space. -/
def visible (text : List Char) : List Char :=
  text.filter (!isBlank ·)

@[simp] theorem visible_nil : visible [] = [] :=
  rfl

@[simp] theorem visible_append (front back : List Char) :
    visible (front ++ back) = visible front ++ visible back :=
  List.filter_append ..

theorem visible_eq_nil {text : List Char} : visible text = [] ↔ ∀ c ∈ text, isBlank c = true := by
  simp [visible]

theorem length_visible_le_eraseIdx (text : List Char) (index : Nat) :
    (visible text).length ≤ (visible (text.eraseIdx index)).length + 1 := by
  have split (c : Char) (rest : List Char) : visible (c :: rest) = visible [c] ++ visible rest :=
    visible_append [c] rest
  have one (c : Char) : (visible [c]).length ≤ 1 := List.length_filter_le ..
  induction text generalizing index with
  | nil => simp
  | cons c text ih =>
    rw [split c text, List.length_append]
    cases index with
    | zero =>
      have := one c
      rw [List.eraseIdx_cons_zero]
      omega
    | succ index =>
      have := ih index
      rw [List.eraseIdx_cons_succ, split c (text.eraseIdx index), List.length_append]
      omega

theorem isBlank_of_isSpaceOrTab {c : Char} (h : isSpaceOrTab c = true) : isBlank c = true := by
  simp only [isSpaceOrTab, Bool.or_eq_true, beq_iff_eq] at h
  rcases h with rfl | rfl <;> rfl

@[simp] theorem visible_toList (ending : LineEnding) : visible ending.toList = [] := by
  cases ending <;> rfl

theorem visible_joinLines (ending : LineEnding) (parts : List (List Char)) :
    visible (joinLines ending parts) = parts.flatMap visible := by
  induction parts with
  | nil => rfl
  | cons part parts ih =>
    cases parts with
    | nil => simp [joinLines_singleton]
    | cons next parts =>
      rw [joinLines_cons_cons, visible_append, visible_append, visible_toList, ih, List.nil_append,
        ← List.flatMap_cons]

theorem flatMap_visible_linesFrom (before text : List Char) :
    (linesFrom before text).flatMap visible = visible (before.reverse ++ text) := by
  fun_induction linesFrom before text with
  | case1 before => simp
  | case2 before rest ih | case3 before rest _ ih | case4 before rest ih =>
    rw [List.flatMap_cons, ih, visible_append before.reverse]
    rfl
  | case5 before c rest _ _ _ ih => rw [ih, List.reverse_cons, List.append_assoc]; rfl

theorem flatMap_visible_lines (text : List Char) : (lines text).flatMap visible = visible text :=
  flatMap_visible_linesFrom [] text

end Text

def Edit.unmarking (line : Line) (heading : Heading) : Edit :=
  .deleting line.number (heading.contentStart + heading.content.length) 1

/-- Where the last character of the content stands, counted from zero. -/
def Heading.lastPlace (heading : Heading) : Nat :=
  heading.contentStart + heading.content.length - 1

namespace Mends

variable {doc : Document} {line : Line} {rule : Rule} {edit : Edit}

/-- Only the rule on the end of headings removes anything but spaces and tabs. -/
theorem isSpaceOrTab_of_mem_removed (h : Mends doc line rule edit)
    (keeps : edit.deletesLine = false) (other : rule.id ≠ .trailingPunctuation) {c : Char}
    (gone : c ∈ edit.removed line.text) : isSpaceOrTab c = true := by
  have removes := h.removes keeps
  cases rule with
  | trailingSpaces | headingStart | hardTabs =>
    rw [removes c gone]
    rfl
  | multipleSpace => exact removes c gone
  | missingSpace | finalNewline =>
    simp only [Rule.Removes] at removes
    rw [removes] at gone
    cases gone
  | trailingPunctuation => exact absurd rfl other
  | headingIncrement | multipleBlanks | lineLength | singleTitle | fenceLanguage =>
    exact removes.elim

theorem width_pos (h : Mends doc line rule edit) (keeps : edit.deletesLine = false)
    (full : lacksSpace line.text = false)
    (inner : edit ≠ .inserting line.number (line.text.length + 1) ['\n']) : 0 < edit.width := by
  rcases h.width_pos_or keeps with wide | ⟨-, lacks | newline⟩
  · exact wide
  · rw [full] at lacks
    cases lacks
  · exact absurd newline inner

theorem eq_unmarking (h : Mends doc line rule edit) (id : rule.id = .trailingPunctuation)
    {heading : Heading} (parsed : line.heading? = some heading) :
    edit = .unmarking line heading := by
  cases h with
  | punctuated found =>
    obtain rfl := Option.some.inj (found.symm.trans parsed)
    rfl
  | _ => cases id

/-- No edit reaches the last character of a heading's content but the one that removes it. -/
theorem apart_unmarking (h : Mends doc line rule edit) (keeps : edit.deletesLine = false)
    {heading : Heading} {last : Char} (parsed : line.heading? = some heading)
    (content : heading.content.getLast? = some last) :
    edit = .unmarking line heading ∨ Edit.Apart edit (.unmarking line heading) ∨
      Edit.Apart (.unmarking line heading) edit := by
  by_cases id : rule.id = .trailingPunctuation
  · exact .inl (h.eq_unmarking id parsed)
  · right
    have parsed := (Line.heading?_eq_some.1 parsed).2
    obtain ⟨spacing, tail, shape⟩ := Heading.shape_of_parse? parsed
    have here : line.text[heading.lastPlace]? = some last := shape.getElem?_last content
    have inside := (List.getElem?_eq_some_iff.1 here).1
    have place : (Edit.unmarking line heading).start = heading.lastPlace := rfl
    have finish : (Edit.unmarking line heading).finish = heading.lastPlace + 1 := rfl
    by_cases inner : edit = .inserting line.number (line.text.length + 1) ['\n']
    · right
      have start : edit.start = line.text.length := by rw [inner]; rfl
      exact ⟨by omega, by omega⟩
    · have outside : edit.start ≤ heading.lastPlace → edit.finish ≤ heading.lastPlace := by
        -- The character is neither a space nor a tab, so no other edit removes it.
        intro start
        by_contra reaches
        have gone := Edit.mem_removed_of_getElem? here start (Nat.not_le.1 reaches)
        have blank := h.isSpaceOrTab_of_mem_removed keeps id gone
        rw [shape.last_content last content] at blank
        cases blank
      have wide := h.width_pos keeps (lacksSpace_eq_false_of_heading parsed) inner
      have sum : edit.finish = edit.start + edit.width := rfl
      by_cases before : edit.start ≤ heading.lastPlace
      · have := outside before
        exact .inl ⟨by omega, by omega⟩
      · exact .inr ⟨by omega, by omega⟩

end Mends

def Line.unmarked (line : Line) : List Char :=
  match line.heading? with
  | some heading => line.text.eraseIdx heading.lastPlace
  | none => line.text

theorem Line.unmarked_sublist (line : Line) : line.unmarked.Sublist line.text := by
  rw [unmarked]
  split
  · exact List.eraseIdx_sublist ..
  · exact List.Sublist.refl _

theorem Line.unmarked_of_heading {line : Line} {heading : Heading}
    (parsed : line.heading? = some heading) :
    line.unmarked = line.text.eraseIdx heading.lastPlace := by
  rw [unmarked, parsed]

theorem Edit.splice_unmarking (ending : LineEnding) (line : Line) (heading : Heading) :
    splice ending 0 [unmarking line heading] line.text =
      line.text.eraseIdx heading.lastPlace := by
  rw [List.eraseIdx_eq_take_drop_succ]
  rfl

theorem Line.length_visible_le (line : Line) :
    (visible line.text).length ≤ (visible line.unmarked).length + 1 := by
  rw [unmarked]
  split
  · exact length_visible_le_eraseIdx ..
  · exact Nat.le_succ _

theorem Line.exists_unmarked {line : Line} {heading : Heading} {last : Char}
    (parsed : line.heading? = some heading) (content : heading.content.getLast? = some last) :
    ∃ front back, line.text = front ++ last :: back ∧ line.unmarked = front ++ back ∧
      front.length = heading.lastPlace := by
  obtain ⟨spacing, tail, shape⟩ := Heading.shape_of_parse? (Line.heading?_eq_some.1 parsed).2
  have here : line.text[heading.lastPlace]? = some last := shape.getElem?_last content
  obtain ⟨inside, same⟩ := List.getElem?_eq_some_iff.1 here
  refine ⟨line.text.take heading.lastPlace, line.text.drop (heading.lastPlace + 1), ?_, ?_, ?_⟩
  · rw [← same, List.getElem_cons_drop, List.take_append_drop]
  · rw [unmarked_of_heading parsed]
    exact List.eraseIdx_eq_take_drop_succ ..
  · rw [List.length_take]
    omega

namespace Ruleset

variable {ruleset : Ruleset} {text : List Char} {line : Line}

def reported (ruleset : Ruleset) (id : RuleId) (text : List Char) : List Finding :=
  (ruleset.lint text).filter (·.rule = id)

def reports (ruleset : Ruleset) (id : RuleId) (text : List Char) (line : Line) : Bool :=
  line.number ∈ (ruleset.reported id text).map Finding.line

def Lists (ruleset : Ruleset) (c : Char) : Prop :=
  ∃ configured ∈ ruleset.rules, ∃ options,
    configured.rule = .trailingPunctuation options ∧ c ∈ options.punctuation

theorem reports_iff {id : RuleId} : ruleset.reports id text line = true ↔
    ∃ configured ∈ ruleset.rules, configured.rule.id = id ∧
      (Document.ofText text).suppresses line.number id = false ∧
        ∃ violation ∈ configured.rule.check (.ofText text), violation.line = line.number := by
  constructor
  · intro h
    obtain ⟨finding, found, number⟩ := List.mem_map.1 (of_decide_eq_true h)
    obtain ⟨found, same⟩ := List.mem_filter.1 found
    obtain ⟨configured, enabled, violation, reported, left, rfl⟩ := mem_lint.1 found
    obtain rfl : configured.rule.id = id := of_decide_eq_true same
    have place : violation.line = line.number := number
    exact ⟨configured, enabled, rfl, place ▸ left, violation, reported, place⟩
  · rintro ⟨configured, enabled, rfl, left, violation, reported, number⟩
    rw [← number] at left
    exact decide_eq_true (List.mem_map.2 ⟨.ofViolation configured violation,
      List.mem_filter.2 ⟨mem_lint.2 ⟨configured, enabled, violation, reported, left, rfl⟩,
        decide_eq_true rfl⟩, number⟩)

theorem reports_of_mends (member : line ∈ Line.ofText text) {configured : ConfiguredRule}
    {edit : Edit} (enabled : configured ∈ ruleset.rules)
    (left : (Document.ofText text).suppresses line.number configured.id = false)
    (mends : Mends (.ofText text) line configured.rule edit) :
    ruleset.reports configured.id text line = true := by
  obtain ⟨violation, reported, number, -⟩ := mends.exists_violation member
  exact reports_iff.2 ⟨configured, enabled, rfl, left, violation, reported, number⟩

/-- A fixable rule reports the lines for which it asks for an edit. -/
theorem reports_iff_mends {id : RuleId} (fixable : id.fixable = true)
    (member : line ∈ Line.ofText text) :
    ruleset.reports id text line = true ↔
      ∃ configured ∈ ruleset.rules, configured.rule.id = id ∧
        (Document.ofText text).suppresses line.number id = false ∧
          ∃ edit, Mends (.ofText text) line configured.rule edit := by
  constructor
  · intro reports
    obtain ⟨configured, enabled, rfl, left, violation, reported, number⟩ := reports_iff.1 reports
    obtain ⟨edit, carried⟩ := exists_edit_of_mem_check fixable reported
    obtain ⟨other, found, place, mends⟩ := exists_mends reported carried
    obtain rfl := Line.eq_of_number_eq found member (place.symm.trans number)
    exact ⟨configured, enabled, rfl, left, edit, mends⟩
  · rintro ⟨configured, enabled, rfl, left, edit, mends⟩
    exact reports_of_mends member enabled left mends

/-- A line that the rule on the end of headings reports is a heading that ends in punctuation, and the
rule asks to remove it. -/
theorem of_reports (member : line ∈ Line.ofText text)
    (h : ruleset.reports .trailingPunctuation text line = true) :
    ∃ heading last, line.heading? = some heading ∧ heading.content.getLast? = some last ∧
      ruleset.Lists last ∧ ruleset.Asks text line (.unmarking line heading) := by
  obtain ⟨configured, enabled, id, left, edit, mends⟩ := (reports_iff_mends rfl member).1 h
  have asks : ruleset.Asks text line edit :=
    ⟨configured, enabled, by rwa [ConfiguredRule.id, id], mends⟩
  generalize eq : configured.rule = rule at mends id
  cases mends with
  | @punctuated options heading last parsed content listed plain =>
    exact ⟨heading, last, parsed, content, ⟨configured, enabled, options, eq, listed⟩, asks⟩
  | _ => cases id

theorem reports_eq_false_of_off {id : RuleId} (off : ruleset.enables id = false) :
    ruleset.reports id text line = false := by
  rw [← Bool.not_eq_true]
  intro h
  obtain ⟨configured, enabled, same, -⟩ := reports_iff.1 h
  have listed : id ∈ ruleset.rules.map ConfiguredRule.id :=
    List.mem_map.2 ⟨configured, enabled, same⟩
  rw [enables, decide_eq_false_iff_not] at off
  exact off listed

/-- The line without the punctuation that is reported at the end of its heading. -/
def unmarked (ruleset : Ruleset) (text : List Char) (line : Line) : List Char :=
  if ruleset.reports .trailingPunctuation text line then line.unmarked else line.text

theorem unmarked_sublist (ruleset : Ruleset) (text : List Char) (line : Line) :
    (ruleset.unmarked text line).Sublist line.text := by
  rw [unmarked]
  split
  · exact line.unmarked_sublist
  · exact List.Sublist.refl _

/-- What an edit removes and inserts cannot be seen, unless it removes reported punctuation. -/
theorem Acts.idle {edit : Edit} (acts : Acts ruleset text line edit)
    (member : line ∈ Line.ofText text)
    (other : ruleset.reports .trailingPunctuation text line = true →
      ∀ heading, line.heading? = some heading → edit ≠ .unmarking line heading) :
    visible (edit.removed line.text) = [] ∧
      visible (edit.insertion (lineEnding text)) = [] := by
  constructor
  · obtain ⟨configured, enabled, left, mends⟩ := acts.asks
    have id : configured.rule.id ≠ .trailingPunctuation := by
      intro id
      have reports := reports_of_mends member enabled left mends
      rw [ConfiguredRule.id, id] at reports
      obtain ⟨heading, last, parsed, -⟩ := of_reports member reports
      exact other reports heading parsed (mends.eq_unmarking id parsed)
    exact visible_eq_nil.2 fun c gone =>
      isBlank_of_isSpaceOrTab (mends.isSpaceOrTab_of_mem_removed acts.keeps id gone)
  · rw [acts.insertion_eq]
    refine visible_eq_nil.2 fun c found => ?_
    rw [acts.eq_space found]
    rfl

/-- Reported punctuation is removed, whatever else is repaired on the line. -/
theorem unmarking_mem_acting (stored : Stored text) (member : line ∈ Line.ofText text)
    (kept : ruleset.deletes text line = false)
    (h : ruleset.reports .trailingPunctuation text line = true) {heading : Heading}
    (parsed : line.heading? = some heading) :
    .unmarking line heading ∈ ruleset.acting text line := by
  obtain ⟨other, last, found, content, -, asks⟩ := of_reports member h
  obtain rfl := Option.some.inj (found.symm.trans parsed)
  have asked := (mem_onLine_edits member).2 asks
  have effective := Edit.mem_effective (fits_onLine stored member kept asked)
    (Edit.pairwise_start_onLine fun _ found => (fits_onLine stored member kept found).keeps)
    (fun edit found => by
      obtain ⟨_, -, -, mends⟩ := (mem_onLine_edits member).1 found
      exact mends.apart_unmarking (fits_onLine stored member kept found).keeps parsed content)
    asked
  refine List.mem_filter.2 ⟨effective, ?_⟩
  simp [Edit.unmarking, Edit.deleting, newline, Edit.inserting]

theorem filter_acting_eq (stored : Stored text) (member : line ∈ Line.ofText text)
    (kept : ruleset.deletes text line = false) {edit : Edit}
    (found : edit ∈ ruleset.acting text line) :
    (ruleset.acting text line).filter (· = edit) = [edit] := by
  have distinct : (ruleset.acting text line).Nodup := by
    refine (ruleset.pairwise_acting stored member kept).imp ?_
    rintro a _ apart rfl
    exact Nat.lt_irrefl _ apart.start_lt
  rw [List.filter_eq, List.count_eq_one_of_mem distinct found, List.replicate_one]

/-- A kept line loses nothing that can be seen but reported punctuation. -/
theorem visible_mended (stored : Stored text) (member : line ∈ Line.ofText text)
    (kept : ruleset.deletes text line = false) :
    visible (ruleset.mended text line) = visible (ruleset.unmarked text line) := by
  have reduced (counts : Edit → Bool)
      (others : ∀ edit ∈ ruleset.acting text line, counts edit = false →
        ruleset.reports .trailingPunctuation text line = true →
          ∀ heading, line.heading? = some heading → edit ≠ .unmarking line heading) :
      visible (ruleset.mended text line) = visible (Edit.splice (lineEnding text) 0
        ((ruleset.acting text line).filter counts) line.text) :=
    Edit.filter_splice (lineEnding text) (!isBlank ·) counts line.text
      (ruleset.pairwise_acting stored member kept) (fun edit _ => Nat.zero_le edit.start)
      fun edit found other =>
        (acts_of_mem_acting stored member kept found).idle member (others edit found other)
  by_cases h : ruleset.reports .trailingPunctuation text line = true
  · obtain ⟨heading, last, parsed, -⟩ := of_reports member h
    have found := unmarking_mem_acting stored member kept h parsed
    rw [reduced (· = .unmarking line heading), filter_acting_eq stored member kept found, unmarked,
      if_pos h, Line.unmarked_of_heading parsed, Edit.splice_unmarking]
    intro edit _ other _ heading' same
    obtain rfl := Option.some.inj (parsed.symm.trans same)
    simpa using other
  · rw [reduced (fun _ => false) fun _ _ _ reports => absurd reports h, unmarked, if_neg h,
      List.filter_false, Edit.splice]

theorem visible_of_deletes (member : line ∈ Line.ofText text)
    (gone : ruleset.deletes text line = true) : visible line.text = [] := by
  obtain ⟨_, -, -, mends⟩ := (deletes_iff member).1 gone
  exact visible_eq_nil.2 (List.all_eq_true.1 (mends.of_deletes rfl).2.2)

theorem flatMap_visible_parts (stored : Stored text) (member : line ∈ Line.ofText text) :
    (ruleset.parts text line).flatMap visible = visible (ruleset.unmarked text line) := by
  rw [parts]
  split
  · rename_i gone
    have fewer := (ruleset.unmarked_sublist text line).filter (!isBlank ·)
    rw [← visible, ← visible, visible_of_deletes member gone, List.sublist_nil] at fewer
    exact fewer.symm
  · rename_i kept
    rw [← visible_mended stored member (by simpa using kept)]
    split <;> simp

theorem visible_repair_eq (stored : Stored text) :
    visible (repair text (ruleset.lint text)) =
      (Line.ofText text).flatMap fun line => visible (ruleset.unmarked text line) := by
  rw [repair_eq_joinLines stored, visible_joinLines, repairedLines, List.flatMap_assoc]
  exact List.flatMap_congr fun line member => flatMap_visible_parts stored member

theorem visible_eq_flatMap (text : List Char) :
    visible text = (Line.ofText text).flatMap fun line => visible line.text := by
  rw [← flatMap_visible_lines, ← Line.map_text_ofText, List.flatMap_map]

theorem length_visible_le (ruleset : Ruleset) (text : List Char) (lines : List Line) :
    (lines.flatMap fun line => visible line.text).length ≤
      (lines.flatMap fun line => visible (ruleset.unmarked text line)).length +
        lines.countP (ruleset.reports .trailingPunctuation text) := by
  induction lines with
  | nil => simp
  | cons line lines ih =>
    have here : (visible line.text).length ≤ (visible (ruleset.unmarked text line)).length +
        if ruleset.reports .trailingPunctuation text line then 1 else 0 := by
      rw [unmarked]
      split
      · exact line.length_visible_le
      · exact Nat.le_refl _
    rw [List.flatMap_cons, List.flatMap_cons, List.countP_cons, List.length_append,
      List.length_append]
    omega

theorem countP_reports_le (ruleset : Ruleset) (id : RuleId) (text : List Char) :
    (Line.ofText text).countP (ruleset.reports id text) ≤ (ruleset.reported id text).length := by
  have distinct : (((Line.ofText text).filter (ruleset.reports id text)).map Line.number).Nodup :=
    (Line.nodup_numbers text).sublist (List.filter_sublist.map _)
  have inside : ((Line.ofText text).filter (ruleset.reports id text)).map Line.number ⊆
      (ruleset.reported id text).map Finding.line := by
    intro number listed
    obtain ⟨line, found, rfl⟩ := List.mem_map.1 listed
    exact of_decide_eq_true (List.mem_filter.1 found).2
  have fewer := (distinct.subperm inside).length_le
  rwa [List.length_map, List.length_map, ← List.countP_eq_length_filter] at fewer

end Ruleset

/-- A pass keeps every character other than white space in its place, line by line, except for the
last characters of headings that are reported as punctuation. -/
theorem visible_repair (ruleset : Ruleset) (text : List Char) (stored : Stored text) :
    visible (repair text (ruleset.lint text)) =
        (Line.ofText text).flatMap (fun line => visible (ruleset.unmarked text line)) ∧
      (∀ line ∈ Line.ofText text,
        if ruleset.reports .trailingPunctuation text line then
          ∃ heading last front back, line.heading? = some heading ∧
            heading.content.getLast? = some last ∧ ruleset.Lists last ∧
            line.text = front ++ last :: back ∧ front.length = heading.lastPlace ∧
            ruleset.unmarked text line = front ++ back
        else
          ruleset.unmarked text line = line.text) ∧
      (visible (repair text (ruleset.lint text))).Sublist (visible text) ∧
      (visible text).length ≤ (visible (repair text (ruleset.lint text))).length +
        (ruleset.reported .trailingPunctuation text).length ∧
      (ruleset.enables .trailingPunctuation = false →
        visible (repair text (ruleset.lint text)) = visible text) := by
  rw [Ruleset.visible_repair_eq stored, Ruleset.visible_eq_flatMap]
  refine ⟨rfl, ?_, ?_, ?_, ?_⟩
  · intro line member
    split
    · rename_i reports
      obtain ⟨heading, last, parsed, content, listed, -⟩ := Ruleset.of_reports member reports
      obtain ⟨front, back, whole, rest, place⟩ := Line.exists_unmarked parsed content
      exact ⟨heading, last, front, back, parsed, content, listed, whole, place, by
        rw [Ruleset.unmarked, if_pos reports, rest]⟩
    · rename_i silent
      rw [Ruleset.unmarked, if_neg silent]
  · exact List.Sublist.flatMap_right _ fun line _ =>
      (ruleset.unmarked_sublist text line).filter (!isBlank ·)
  · have lost := ruleset.length_visible_le text (Line.ofText text)
    have reported := ruleset.countP_reports_le .trailingPunctuation text
    omega
  · intro off
    refine List.flatMap_congr fun line _ => ?_
    rw [Ruleset.unmarked, Ruleset.reports_eq_false_of_off off, if_neg Bool.false_ne_true]

/-- The full stop of the first heading goes, the question mark of the second one stays. -/
theorem visible_repair_headings :
    Stored "  #  A.\t\n\n\n# B?  \nx\t.".toList ∧
      visible (repair "  #  A.\t\n\n\n# B?  \nx\t.".toList
        (Ruleset.embedded.lint "  #  A.\t\n\n\n# B?  \nx\t.".toList)) = "#A#B?x.".toList := by
  have stored : Stored "  #  A.\t\n\n\n# B?  \nx\t.".toList := by decide
  exact ⟨stored, (visible_repair .embedded _ stored).1.trans (by decide +kernel)⟩

end DocCheck
