import DocCheck.Proofs.Convergence
import DocCheck.Proofs.GuardedLines
import DocCheck.Proofs.TabWidth

set_option autoImplicit false

namespace DocCheck

open Text

/-- The bytes of a text, and `width` more for each of its tabs. -/
def Text.room (width : Nat) (text : List Char) : Nat :=
  byteLength text + width * text.count '\t'

namespace Text

variable {width : Nat}

@[simp] theorem room_nil : room width [] = 0 :=
  rfl

@[simp] theorem room_append (front back : List Char) :
    room width (front ++ back) = room width front + room width back := by
  rw [room, room, room, byteLength_append, List.count_append, Nat.mul_add]
  omega

theorem room_cons (c : Char) (text : List Char) :
    room width (c :: text) = room width [c] + room width text :=
  room_append [c] text

theorem room_reverse (text : List Char) : room width text.reverse = room width text := by
  rw [room, room, byteLength_reverse, List.count_reverse]

theorem room_le (text : List Char) : room width text ≤ (4 + width) * text.length := by
  induction text with
  | nil => exact Nat.zero_le _
  | cons c text ih =>
    have bytes := c.utf8Size_le_four
    have tab : [c].count '\t' ≤ 1 := List.count_le_length
    have tabs := Nat.mul_le_mul_left width tab
    have first : room width [c] ≤ 4 + width := by
      rw [room, byteLength_cons, byteLength_nil]
      omega
    rw [room_cons, List.length_cons, Nat.mul_succ]
    omega

theorem room_replicate (count : Nat) (c : Char) :
    room width (List.replicate count c) = count * room width [c] := by
  induction count with
  | zero => exact (Nat.zero_mul _).symm
  | succ count ih => rw [List.replicate_succ, room_cons, ih, Nat.succ_mul, Nat.add_comm]

theorem room_space : room width [' '] = 1 :=
  rfl

theorem room_tab : room width ['\t'] = 1 + width :=
  congrArg (1 + ·) (Nat.mul_one width)

theorem room_eq (text : List Char) :
    room width text + marks text = text.length + room width (text.filter (· != ' ')) := by
  induction text with
  | nil => rfl
  | cons c text ih =>
    unfold marks at ih ⊢
    by_cases space : c = ' '
    · subst space
      rw [room_cons, room_space, List.countP_cons_of_neg (by decide), List.filter_cons_of_neg (by decide),
        List.length_cons]
      omega
    · rw [room_cons, List.countP_cons_of_pos (by simpa using space),
        List.filter_cons_of_pos (by simpa using space), List.length_cons, room_cons c (text.filter _)]
      omega

theorem room_add_length {a b : List Char}
    (same : a.filter (· != ' ') = b.filter (· != ' ')) :
    room width a + b.length = room width b + a.length := by
  have left : room width a + marks a = a.length + room width (a.filter (· != ' ')) := room_eq a
  have right : room width b + marks b = b.length + room width (b.filter (· != ' ')) := room_eq b
  unfold marks at left right
  rw [List.countP_eq_length_filter, same] at left
  rw [List.countP_eq_length_filter] at right
  omega

theorem room_le_total_linesFrom (before text : List Char) :
    room width before + room width text ≤
      total (fun line => room width line + 2) (linesFrom before text) := by
  have feed : room width ['\n'] = 1 := rfl
  have carriage : room width ['\r'] = 1 := rfl
  fun_induction linesFrom before text with
  | case1 before =>
    simp only [total, room_reverse, room_nil]
    omega
  | case2 before rest ih =>
    rw [total, room_reverse, room_cons '\r', room_cons '\n', feed, carriage]
    rw [room_nil] at ih
    omega
  | case3 before rest _ ih =>
    rw [total, room_reverse, room_cons '\r', carriage]
    rw [room_nil] at ih
    omega
  | case4 before rest ih =>
    rw [total, room_reverse, room_cons '\n', feed]
    rw [room_nil] at ih
    omega
  | case5 before c rest _ _ _ ih =>
    rw [room_cons c before] at ih
    rw [room_cons c rest]
    omega

/-- The room of a line with what passes may add to it: the space that it lacks, and for each mark that
goes a space and the lack of another one. -/
def reserve (width : Nat) (line : List Char) : Nat :=
  room width line + (if lacksSpace line then 2 else 0) + 3 * marks line

theorem reserve_nil : reserve width [] = 0 :=
  rfl

theorem reserve_le (line : List Char) : reserve width line ≤ room width line + 5 * line.length := by
  have few : marks line ≤ line.length := List.countP_le_length
  unfold reserve
  split
  · rename_i lacks
    have some : 0 < line.length := List.length_pos_iff.2 (by rintro rfl; cases lacks)
    omega
  · omega

theorem room_le_total_reserve (width : Nat) (text : List Char) :
    room width text ≤ total (reserve width) (lines text) + 2 * (lines text).length := by
  have whole : room width [] + room width text ≤ _ := room_le_total_linesFrom [] text
  have each : total (room width) (lines text) ≤ total (reserve width) (lines text) :=
    total_le fun line _ => Nat.le_trans (Nat.le_add_right ..) (Nat.le_add_right ..)
  rw [total_add_two, room_nil, Nat.zero_add] at whole
  unfold lines at *
  omega

theorem total_reserve_linesFrom_le (width : Nat) (before text : List Char) :
    total (fun line => reserve width line + 2) (linesFrom before text) ≤
      room width before + 5 * before.length + room width text + 5 * text.length + 2 := by
  have closed (before : List Char) :
      reserve width before.reverse ≤ room width before + 5 * before.length := by
    have bound : reserve width before.reverse ≤ _ := reserve_le before.reverse
    rwa [room_reverse, List.length_reverse] at bound
  fun_induction linesFrom before text with
  | case1 before =>
    have := closed before
    simp only [total, room_nil, List.length_nil]
    omega
  | case2 before rest ih | case3 before rest _ ih | case4 before rest ih =>
    have := closed before
    simp only [total, List.length_cons, room_nil, List.length_nil, room_cons _ (_ :: _),
      room_cons _ rest] at ih ⊢
    omega
  | case5 before c rest _ _ _ ih =>
    rw [room_cons c before] at ih
    rw [room_cons c rest]
    simp only [List.length_cons] at ih ⊢
    omega

end Text

namespace Edit

/-- Edits that insert no more than they remove, but for one that inserts a byte more. -/
theorem room_splice_le (ending : LineEnding) (line : List Char) {width : Nat} {special : Edit}
    {edits : List Edit} {column : Nat} (apart : edits.Pairwise Apart)
    (right : ∀ edit ∈ edits, column ≤ edit.start)
    (modest : ∀ edit ∈ edits, room width (edit.insertion ending) ≤
      room width (edit.removed line) + if edit = special then 1 else 0) :
    room width (splice ending column edits (line.drop column)) ≤
      room width (line.drop column) + edits.count special := by
  induction edits generalizing column with
  | nil => exact Nat.le_refl _
  | cons edit rest ih =>
    obtain ⟨first, others⟩ := List.pairwise_cons.1 apart
    obtain ⟨start, -⟩ := List.forall_mem_cons.1 right
    obtain ⟨here, there⟩ := List.forall_mem_cons.1 modest
    have tail := ih others (fun next found => (first next found).finish_le) there
    have parts := congrArg (room width) (drop_eq_append start line)
    simp only [room_append] at parts
    simp only [splice, drop_finish start, room_append, List.count_cons, beq_iff_eq]
    omega

theorem nodup_of_apart {edits : List Edit} (apart : edits.Pairwise Apart) : edits.Nodup := by
  refine apart.imp fun {a b} next same => ?_
  have := next.start_lt
  rw [same] at this
  exact Nat.lt_irrefl _ this

end Edit

namespace Ruleset

variable {ruleset : Ruleset} {text : List Char} {line : Line}

theorem Acts.room_insert_le {edit : Edit} (acts : Acts ruleset text line edit) :
    room ruleset.tabWidth edit.insert ≤
      room ruleset.tabWidth (edit.removed line.text) + if edit = .spacing line then 1 else 0 := by
  obtain ⟨configured, enabled, -, mends⟩ := acts.asks
  generalize eq : configured.rule = rule at mends
  cases mends with
  | trailing | blank | spaced | indented | punctuated => exact Nat.zero_le _
  | unspaced =>
    show 1 ≤ _ + if Edit.spacing line = .spacing line then 1 else 0
    rw [if_pos rfl]
    exact Nat.le_add_left ..
  | unended => exact absurd rfl acts.inner
  | @tabs options run _ found =>
    have width : ruleset.tabWidth = options.spacesPerTab := by
      rw [tabWidth, hardTabs?_of_mem enabled eq]
      rfl
    have gone : (options.fill line.number run).removed line.text =
        List.replicate run.length '\t' :=
      HardTabs.cut_eq_replicate found
    have fewer : run.length * options.spacesPerTab % wordLimit ≤
        run.length * options.spacesPerTab :=
      Nat.mod_le ..
    rw [gone, room_replicate, room_tab, width, Nat.mul_add]
    show room _ (options.spaces run.length) ≤ _
    rw [HardTabs.spaces, room_replicate, room_space]
    omega

theorem room_mended_le (stored : Stored text) (member : line ∈ Line.ofText text)
    (kept : ruleset.deletes text line = false) :
    room ruleset.tabWidth (ruleset.mended text line) ≤ room ruleset.tabWidth line.text + 1 := by
  have apart := ruleset.pairwise_acting stored member kept
  have once : (ruleset.acting text line).count (.spacing line) ≤ 1 :=
    List.nodup_iff_count.1 (Edit.nodup_of_apart apart) _
  have made := Edit.room_splice_le (lineEnding text) line.text apart
    (fun edit _ => Nat.zero_le edit.start) fun edit found => by
      have acts := acts_of_mem_acting stored member kept found
      rw [acts.insertion_eq]
      exact acts.room_insert_le
  rw [List.drop_zero] at made
  rw [mended]
  omega

theorem filter_mended (stored : Stored text) (member : line ∈ Line.ofText text)
    (kept : ruleset.deletes text line = false) (steady : Steady ruleset text line) :
    (ruleset.mended text line).filter (· != ' ') = line.text.filter (· != ' ') := by
  have idle : ∀ edit ∈ ruleset.acting text line, false = false →
      (edit.removed line.text).filter (· != ' ') = [] ∧
        (edit.insertion (lineEnding text)).filter (· != ' ') = [] := by
    intro edit found _
    have acts := acts_of_mem_acting stored member kept found
    rw [acts.insertion_eq, List.filter_eq_nil_iff, List.filter_eq_nil_iff]
    exact ⟨fun c removed => by simp [steady edit found c removed],
      fun c inserted => by simp [acts.eq_space inserted]⟩
  have same := Edit.filter_splice (lineEnding text) (· != ' ') (fun _ => false) line.text
    (ruleset.pairwise_acting stored member kept) (fun edit _ => Nat.zero_le edit.start) idle
  rwa [List.drop_zero, List.filter_false] at same

/-- A space takes the place of the lack of it, and a mark that goes leaves room for three bytes. -/
theorem reserve_mended_le (stored : Stored text) (member : line ∈ Line.ofText text)
    (kept : ruleset.deletes text line = false) :
    reserve ruleset.tabWidth (ruleset.mended text line) ≤ reserve ruleset.tabWidth line.text := by
  have counted := ruleset.marks_mended stored member kept
  unfold reserve
  by_cases same : marks line.text ≤ marks (ruleset.mended text line)
  · -- Where the marks stay, the line gains at most the space that it lacks.
    have steady := steady_of_marks stored member kept same
    have room_eq : room ruleset.tabWidth (ruleset.mended text line) + line.text.length =
        room ruleset.tabWidth line.text + (ruleset.mended text line).length :=
      room_add_length (filter_mended stored member kept steady)
    have lighter : weight (ruleset.mended text line) ≤ weight line.text := by
      rcases weight_mended stored member kept same with less | eq
      · exact Nat.le_of_lt less
      · exact Nat.le_of_eq (congrArg weight eq)
    unfold weight at lighter
    omega
  · -- A mark that goes pays for a byte more and for a new lack.
    have grown : room ruleset.tabWidth (ruleset.mended text line) ≤ _ :=
      room_mended_le stored member kept
    split <;> split <;> omega

theorem total_reserve_repair_le (stored : Stored text) :
    total (reserve ruleset.tabWidth) (lines (repair text (ruleset.lint text))) ≤
      total (reserve ruleset.tabWidth) (lines text) := by
  rw [total_repair reserve_nil stored, total_lines]
  refine total_le fun line member => ?_
  rw [total_parts reserve_nil]
  split
  · exact Nat.zero_le _
  · rename_i kept
    exact reserve_mended_le stored member (by simpa using kept)

/-- The number of lines that passes may still add. -/
def unended (ruleset : Ruleset) (text : List Char) : Nat :=
  if ruleset.enables .finalNewline then lastOpen text else 0

theorem length_lines_repair (stored : Stored text) :
    (lines (repair text (ruleset.lint text))).length ≤ (lines text).length +
      if (ruleset.kept text).any (ruleset.ends text) then 1 else 0 := by
  have fewer : (ruleset.kept text).length ≤ (lines text).length := by
    rw [← Line.length_ofText]
    exact List.length_filter_le _ _
  have some : 0 < (lines text).length := List.length_pos_iff.2 (lines_ne_nil text)
  rw [lines_repair stored]
  split
  · exact Nat.le_trans some (Nat.le_add_right ..)
  · rw [repairedLines_eq, List.length_append, List.length_map]
    split <;> simp only [List.length_singleton, List.length_nil] <;> omega

theorem unended_of_ends (ends : (ruleset.kept text).any (ruleset.ends text) = true)
    (stored : Stored text) : ruleset.unended text = 1 := by
  obtain ⟨line, found, ended⟩ := List.any_eq_true.1 ends
  rw [unended, if_pos (enables_of_ends (mem_kept.1 found).1 ended)]
  exact (lastOpen_repair_of_ends stored ends).1

theorem length_lines_repair_le (stored : Stored text) :
    (lines (repair text (ruleset.lint text))).length ≤
      (lines text).length + ruleset.unended text := by
  have made := ruleset.length_lines_repair stored
  split at made
  · rename_i ends
    rwa [unended_of_ends ends stored]
  · omega

/-- A line that is added ends the last one. -/
theorem length_lines_repair_add_unended_le (stored : Stored text)
    (apart : ¬ (ruleset.enables .multipleBlanks = true ∧ ruleset.enables .finalNewline = true)) :
    (lines (repair text (ruleset.lint text))).length +
        ruleset.unended (repair text (ruleset.lint text)) ≤
      (lines text).length + ruleset.unended text := by
  have made := ruleset.length_lines_repair stored
  by_cases on : ruleset.enables .finalNewline = true
  · have closes := (lastOpen_repair stored (by simpa [on] using apart)).1
    have opened (text : List Char) : ruleset.unended text = lastOpen text := if_pos on
    rw [opened, opened]
    split at made
    · rename_i ends
      have := lastOpen_repair_of_ends stored ends
      omega
    · omega
  · have none (text : List Char) : ruleset.unended text = 0 := if_neg on
    have short := ruleset.length_lines_repair_le stored
    rw [none] at short ⊢
    rwa [none]

/-- What the lines of the text may come to hold, with the breaks between them. -/
def holdings (ruleset : Ruleset) (text : List Char) : Nat :=
  total (reserve ruleset.tabWidth) (lines text) +
    2 * ((lines text).length + ruleset.unended text)

theorem holdings_repair_le (stored : Stored text)
    (apart : ¬ (ruleset.enables .multipleBlanks = true ∧ ruleset.enables .finalNewline = true)) :
    ruleset.holdings (repair text (ruleset.lint text)) ≤ ruleset.holdings text := by
  have lines_le := ruleset.total_reserve_repair_le stored
  have breaks_le := length_lines_repair_add_unended_le stored apart
  unfold holdings
  omega

theorem room_le_holdings (ruleset : Ruleset) (text : List Char) :
    room ruleset.tabWidth text ≤ ruleset.holdings text := by
  have parts := room_le_total_reserve ruleset.tabWidth text
  unfold holdings
  omega

/-- A bound on the bytes of the text and of what fix passes make of it, from the text and the number of
spaces for a tab. -/
def reach (ruleset : Ruleset) (text : List Char) : Nat :=
  room ruleset.tabWidth text + 5 * text.length + 4

theorem unended_le (ruleset : Ruleset) (text : List Char) : ruleset.unended text ≤ 1 := by
  unfold unended lastOpen
  split
  · split <;> omega
  · omega

theorem holdings_le_reach (ruleset : Ruleset) (text : List Char) :
    ruleset.holdings text ≤ ruleset.reach text := by
  have whole := total_reserve_linesFrom_le ruleset.tabWidth [] text
  have one := ruleset.unended_le text
  rw [total_add_two, room_nil, List.length_nil] at whole
  unfold holdings reach lines at *
  omega

/-- The room of a repaired text, where each tab counts with the spaces that take its place. -/
theorem room_repair_le (ruleset : Ruleset) {text : List Char} (stored : Stored text) :
    room ruleset.tabWidth (repair text (ruleset.lint text)) ≤ ruleset.reach text := by
  have parts := room_le_total_reserve ruleset.tabWidth (repair text (ruleset.lint text))
  have lines_le := ruleset.total_reserve_repair_le stored
  have breaks_le := ruleset.length_lines_repair_le stored
  have bound := ruleset.holdings_le_reach text
  unfold holdings at bound
  omega

end Ruleset

end DocCheck
