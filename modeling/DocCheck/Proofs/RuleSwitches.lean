import DocCheck.Proofs.NumberedLines

set_option autoImplicit false

namespace DocCheck

open Text

namespace RuleId

/-- The names that a rule answers to, in lower case. -/
def folded (id : RuleId) : List (List Char) :=
  [id.code.toList.map lowerAscii, id.aliasName.toList.map lowerAscii]

theorem answersTo_iff {id : RuleId} {name : List Char} :
    id.answersTo name = true ↔ name.map lowerAscii ∈ id.folded := by
  rw [answersTo, eqIgnoringCase, eqIgnoringCase, folded, Bool.or_eq_true, beq_iff_eq, beq_iff_eq,
    List.mem_cons, List.mem_singleton, eq_comm, @eq_comm _ (id.aliasName.toList.map lowerAscii)]

theorem eq_of_mem_folded : ∀ a ∈ all, ∀ b ∈ all, ∀ name ∈ folded a, name ∈ folded b → a = b := by
  decide +kernel

theorem eq_of_answersTo {name : List Char} {a b : RuleId} (ha : a.answersTo name = true)
    (hb : b.answersTo name = true) : a = b :=
  eq_of_mem_folded a (mem_all a) b (mem_all b) _ (answersTo_iff.1 ha) (answersTo_iff.1 hb)

theorem lookup?_eq_some_iff {name : List Char} {id : RuleId} :
    lookup? name = some id ↔ id.answersTo name = true := by
  refine ⟨answersTo_of_lookup?, fun answers => ?_⟩
  have found : (lookup? name).isSome = true := by
    rw [lookup?, List.find?_isSome]
    exact ⟨id, mem_all id, answers⟩
  obtain ⟨other, eq⟩ := Option.isSome_iff_exists.1 found
  rw [eq, eq_of_answersTo (answersTo_of_lookup? eq) answers]

end RuleId

namespace InlineComment

variable {id : RuleId}

/-- The comment names the rule: it has no words, or one of its words is the code or the alias of the
rule, whatever the case of ASCII letters. -/
def concerns (id : RuleId) (comment : InlineComment) : Bool :=
  comment.names = [] || comment.names.any id.answersTo

theorem mem_rules {comment : InlineComment} :
    id ∈ comment.rules ↔ comment.concerns id = true := by
  rw [rules, concerns]
  split
  · rename_i none
    simp [none, RuleId.mem_all]
  · rename_i some
    simp [some, List.mem_filterMap, RuleId.lookup?_eq_some_iff]

/-- The comment names the rule and holds until further notice. -/
def switches (id : RuleId) (comment : InlineComment) : Bool :=
  comment.concerns id && (comment.action = .disable || comment.action = .enable)

/-- What the last of the comments does that switches the rule until further notice. -/
def lastSwitch? (id : RuleId) (comments : List InlineComment) : Option CommentAction :=
  (comments.filter (switches id)).getLast?.map InlineComment.action

theorem lastSwitch?_append (front back : List InlineComment) :
    lastSwitch? id (front ++ back) = (lastSwitch? id back).or (lastSwitch? id front) := by
  rw [lastSwitch?, lastSwitch?, lastSwitch?, List.filter_append, List.getLast?_append]
  cases (back.filter (switches id)).getLast? <;> rfl

def Holds (id : RuleId) (action : CommentAction) (comments : List InlineComment) : Prop :=
  ∃ comment ∈ comments, comment.action = action ∧ comment.concerns id = true

theorem holds_append {action : CommentAction} {front back : List InlineComment} :
    Holds id action (front ++ back) ↔ Holds id action front ∨ Holds id action back := by
  simp only [Holds, List.mem_append, or_and_right, exists_or]

end InlineComment

namespace Suppression

open InlineComment

variable {id : RuleId}

/-- The rule is off after the comments, where `before` says whether it was off before them. -/
def Off (id : RuleId) (before : Prop) (comments : List InlineComment) : Prop :=
  (lastSwitch? id comments).elim before (· = .disable)

theorem off_append {before : Prop} (front back : List InlineComment) :
    Off id before (front ++ back) ↔ Off id (Off id before front) back := by
  rw [Off, Off, lastSwitch?_append]
  cases lastSwitch? id back <;> rfl

/-- What was on before the comments is off after them when the last switch switches it off. -/
theorem off_false {comments : List InlineComment} :
    Off id False comments ↔ lastSwitch? id comments = some .disable := by
  rw [Off]
  cases lastSwitch? id comments <;> simp

variable {state : Suppression}

/-- One comment: a rule that it does not name stays as it was. -/
theorem mem_comment {one : InlineComment} :
    (id ∈ (state.comment one).standing ↔ Off id (id ∈ state.standing) [one]) ∧
      (id ∈ (state.comment one).here ↔ id ∈ state.here ∨ Holds id .disableLine [one]) ∧
      (id ∈ (state.comment one).next ↔ id ∈ state.next ∨ Holds id .disableNextLine [one]) := by
  rw [Off, lastSwitch?, Suppression.comment]
  cases action : one.action <;> cases concerned : one.concerns id <;>
    simp [switches, Holds, concerned, action, mem_rules]

/-- The comments of a line. -/
theorem mem_foldl_comment (comments : List InlineComment) :
    (id ∈ (comments.foldl comment state).standing ↔ Off id (id ∈ state.standing) comments) ∧
      (id ∈ (comments.foldl comment state).here ↔
        id ∈ state.here ∨ Holds id .disableLine comments) ∧
      (id ∈ (comments.foldl comment state).next ↔
        id ∈ state.next ∨ Holds id .disableNextLine comments) := by
  -- From left to right: later comments may take back what earlier ones did.
  induction comments generalizing state with
  | nil => simp [Off, lastSwitch?, Holds]
  | cons first rest ih =>
    have whole : first :: rest = [first] ++ rest := rfl
    have step := @mem_comment id state first
    have others := @ih (state.comment first)
    rw [step.1, step.2.1, step.2.2] at others
    rw [whole, off_append, holds_append, holds_append, ← or_assoc, ← or_assoc]
    exact others

/-- One line: what was to hold on the next line holds on it, and on no later one. -/
theorem mem_line (line : Line) :
    (id ∈ (state.line line).standing ↔ Off id (id ∈ state.standing) line.comments) ∧
      (id ∈ (state.line line).here ↔ id ∈ state.next ∨ Holds id .disableLine line.comments) ∧
      (id ∈ (state.line line).next ↔ Holds id .disableNextLine line.comments) := by
  have comments :=
    @mem_foldl_comment id { state with here := state.next, next := [] } line.comments
  rw [Suppression.line]
  simpa only [List.not_mem_nil, false_or] using comments

/-- The lines up to some line. -/
theorem mem_standing_foldl_line (lines : List Line) :
    id ∈ (lines.foldl line state).standing ↔
      Off id (id ∈ state.standing) (lines.flatMap Line.comments) := by
  -- From first to last, with what holds before the first of them.
  induction lines generalizing state with
  | nil => rfl
  | cons first rest ih =>
    rw [List.foldl_cons, ih, (mem_line first).1, List.flatMap_cons, off_append]

/-- Only the line right before a line can switch a rule off for the next line. -/
theorem mem_next_foldl_line {lines : List Line} {index : Nat} (le : index ≤ lines.length) :
    id ∈ ((lines.take index).foldl line none).next ↔
      ∃ before, 0 < index ∧ lines[index - 1]? = some before ∧
        Holds id .disableNextLine before.comments := by
  cases index with
  | zero => simp [none]
  | succ index =>
    have before : lines[index]? = some lines[index] := List.getElem?_eq_getElem le
    rw [List.take_add_one, before, Option.toList_some, List.foldl_append, List.foldl_cons,
      List.foldl_nil, (mem_line _).2.2]
    simp [before]

theorem getElem?_perLine (state : Suppression) (lines : List Line) (index : Nat) :
    (state.perLine lines)[index]? = lines[index]?.map fun last =>
      let after := ((lines.take index).foldl line state).line last
      RuleId.union after.here after.standing := by
  induction lines generalizing state index with
  | nil => rfl
  | cons first rest ih =>
    cases index with
    | zero => rfl
    | succ index => exact ih (state.line first) index

end Suppression

/-- The prose line carries a comment that does this to the rule. -/
def Line.Carries (id : RuleId) (action : CommentAction) (line : Line) : Prop :=
  line.kind.isCode = false ∧ InlineComment.Holds id action (InlineComment.ofLine line.text)

theorem Line.holds_comments {id : RuleId} {action : CommentAction} {line : Line} :
    InlineComment.Holds id action line.comments ↔ line.Carries id action := by
  rw [comments, Carries]
  cases line.kind.isCode <;> simp [InlineComment.Holds]

def proseComments (lines : List Line) : List InlineComment :=
  (lines.filter fun line => !line.kind.isCode).flatMap fun line => InlineComment.ofLine line.text

theorem flatMap_comments (lines : List Line) : lines.flatMap Line.comments = proseComments lines := by
  induction lines with
  | nil => rfl
  | cons line rest ih =>
    rw [List.flatMap_cons, ih, Line.comments, proseComments, proseComments, List.filter_cons]
    cases line.kind.isCode <;> rfl

theorem Document.suppresses_succ_iff {text : List Char} {index : Nat} {line : Line}
    (found : (Line.ofText text)[index]? = some line) (id : RuleId) :
    (Document.ofText text).suppresses (index + 1) id = true ↔
      InlineComment.lastSwitch? id (proseComments ((Line.ofText text).take (index + 1))) =
          some .disable ∨
        line.Carries id .disableLine ∨
        ∃ before, 0 < index ∧ (Line.ofText text)[index - 1]? = some before ∧
          before.Carries id .disableNextLine := by
  have through : (Line.ofText text).take (index + 1) = (Line.ofText text).take index ++ [line] := by
    rw [List.take_add_one, found, Option.toList_some]
  have standing := @Suppression.mem_standing_foldl_line id Suppression.none
    ((Line.ofText text).take (index + 1))
  rw [through, List.foldl_append, List.foldl_cons, List.foldl_nil, ← through, flatMap_comments]
    at standing
  have here := (@Suppression.mem_line id
    (((Line.ofText text).take index).foldl Suppression.line Suppression.none) line).2.1
  rw [suppresses, ofText]
  simp only [List.getElem?_toArray, Suppression.getElem?_perLine, found, Option.map_some,
    Option.any_some, decide_eq_true_eq, RuleId.mem_union]
  have none : (id ∈ Suppression.none.standing) = False := by simp [Suppression.none]
  have inside : index < (Line.ofText text).length := (List.getElem?_eq_some_iff.1 found).1
  rw [standing, none, Suppression.off_false, here,
    Suppression.mem_next_foldl_line (Nat.le_of_lt inside), Line.holds_comments, or_comm]
  simp only [Line.holds_comments]
  exact or_congr_right or_comm

/-- A rule is off on line `number` of a text exactly when there is such a line and the last comment on
the prose lines up to it that switches the rule until further notice switches it off, or the line
itself switches it off for this line, or the line before it switches it off for the next one. -/
theorem suppresses_iff (text : List Char) (number : Nat) (id : RuleId) :
    (Document.ofText text).suppresses number id = true ↔
      ∃ line ∈ Line.ofText text, line.number = number ∧
        (InlineComment.lastSwitch? id (proseComments ((Line.ofText text).take number)) =
            some .disable ∨
          line.Carries id .disableLine ∨
          ∃ before ∈ Line.ofText text, before.number + 1 = number ∧
            before.Carries id .disableNextLine) := by
  simp only [← and_assoc, Line.mem_ofText_and_number_iff]
  cases number with
  | zero => simp [Document.suppresses]
  | succ index =>
    have before : (∃ before, (before ∈ Line.ofText text ∧ before.number + 1 = index + 1) ∧
        before.Carries id .disableNextLine) ↔
          ∃ before, 0 < index ∧ (Line.ofText text)[index - 1]? = some before ∧
            before.Carries id .disableNextLine := by
      simp only [Nat.add_right_cancel_iff, Line.mem_ofText_and_number_iff, and_assoc]
    rcases found : (Line.ofText text)[index]? with _ | line
    · simp [Document.suppresses, Document.ofText, Suppression.getElem?_perLine, found]
    · rw [Document.suppresses_succ_iff found, before]
      simp [found]

end DocCheck
