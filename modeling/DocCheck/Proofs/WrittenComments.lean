import DocCheck.Proofs.CommentScan
import DocCheck.Proofs.RuleSwitches
import Mathlib.Data.List.Basic

set_option autoImplicit false

namespace DocCheck

open Text

namespace InlineComment

/-- A word of a comment with the blanks before it. -/
structure SpacedWord where
  blanks : List Char
  name : List Char
  spaced : blanks ≠ []
  blank : allBlank blanks = true
  named : name ≠ []
  chars : name.all isNameChar = true

def SpacedWord.text (word : SpacedWord) : List Char :=
  word.blanks ++ word.name

theorem SpacedWord.exists_text (word : SpacedWord) :
    ∃ c rest, word.text = c :: rest ∧ isBlank c = true := by
  obtain ⟨blanks, name, spaced, blank, -, -⟩ := word
  cases blanks with
  | nil => exact absurd rfl spaced
  | cons c blanks => exact ⟨c, _, rfl, List.all_eq_true.1 blank c (List.mem_cons_self ..)⟩

theorem SpacedWord.head_text (word : SpacedWord) (rest : List Char) :
    (word.text ++ rest).head?.any isBlank = true := by
  obtain ⟨c, others, eq, blank⟩ := word.exists_text
  rw [eq]
  exact blank

structure Written where
  action : CommentAction
  words : List SpacedWord
  /-- The blanks after `<!--`. -/
  opening : List Char
  /-- The blanks before `-->`. -/
  closing : List Char
  opening_blank : allBlank opening = true
  closing_blank : allBlank closing = true

namespace Written

def comment (written : Written) : InlineComment :=
  ⟨written.action, written.words.map SpacedWord.name⟩

def text (written : Written) : List Char :=
  "<!--".toList ++ (written.opening ++ ("markdownlint-".toList ++ (written.action.word ++
    (written.words.flatMap SpacedWord.text ++ (written.closing ++ "-->".toList)))))

end Written

theorem cutRun_blanks {blanks run after : List Char} (blank : allBlank blanks = true)
    (some : run ≠ []) (chars : run.all isNameChar = true)
    (stops : ∀ c, after.head? = .some c → isNameChar c = false) :
    cutRun (blanks ++ (run ++ after)) = (run, after) := by
  have word : (blanks ++ (run ++ after)).dropWhile isBlank = run ++ after := by
    rw [List.dropWhile_append_of_pos (List.all_eq_true.1 blank)]
    cases run with
    | nil => exact absurd rfl some
    | cons c run =>
      have solid : ¬ isBlank c = true := by
        intro blank
        have plain := isNameChar_eq_false_of_isBlank blank
        rw [List.all_eq_true.1 chars c (List.mem_cons_self ..)] at plain
        cases plain
      rw [List.cons_append, List.dropWhile_cons_of_neg solid]
  have inside := List.all_eq_true.1 chars
  rw [cutRun, word, List.takeWhile_append_of_pos inside, List.dropWhile_append_of_pos inside]
  cases after with
  | nil => simp
  | cons c after => simp [stops c rfl]

theorem isPrefixOf?_lead (lead text : List Char) : lead.isPrefixOf? (lead ++ text) = some text :=
  List.isPrefixOf?_eq_some_iff_append_eq.2 rfl

/-- The hyphens of the closing `-->` are word characters: without blanks before them the run of the last
word takes them in. -/
theorem readNames_last (word : SpacedWord) (back : List Char) :
    readNames (word.text ++ '-' :: '-' :: '>' :: back) = some ([word.name], back) := by
  have chars : (word.name ++ ['-', '-']).all isNameChar = true := by
    rw [List.all_append, word.chars]
    decide
  have whole : word.text ++ '-' :: '-' :: '>' :: back =
      word.blanks ++ ((word.name ++ ['-', '-']) ++ '>' :: back) := by
    simp [SpacedWord.text]
  have cut : cutRun (word.text ++ '-' :: '-' :: '>' :: back) =
      (word.name ++ ['-', '-'], '>' :: back) := by
    rw [whole]
    exact cutRun_blanks word.blank (by simp) chars (by simp [isNameChar])
  have longer : word.name ++ ['-', '-'] ≠ ['-', '-'] := by simpa using word.named
  have suffix : ['-', '-'].isSuffixOf (word.name ++ ['-', '-']) = true := by simp
  rw [readNames_of_closed cut, if_neg longer, if_pos ⟨word.head_text _, suffix⟩]
  simp

theorem readNames_word (word : SpacedWord) {c : Char} (space : isBlank c = true)
    (rest : List Char) :
    readNames (word.text ++ c :: rest) =
      (readNames (c :: rest)).map fun (names, back) => (word.name :: names, back) := by
  have plain : isNameChar c = false := isNameChar_eq_false_of_isBlank space
  have cut : cutRun (word.text ++ c :: rest) = (word.name, c :: rest) := by
    rw [SpacedWord.text, List.append_assoc]
    exact cutRun_blanks word.blank word.named word.chars (by simp [plain])
  have goes : (c :: rest).head? ≠ some '>' := by
    rintro ⟨⟩
    exact absurd space (by decide)
  rw [readNames_of_open cut goes, if_pos ⟨word.head_text _, word.named⟩]

/-- The text that follows the action: the words, blanks, the closing `-->` and more text. -/
def endOf (words : List SpacedWord) (closing back : List Char) : List Char :=
  words.flatMap SpacedWord.text ++ (closing ++ '-' :: '-' :: '>' :: back)

section Reading

variable {closing : List Char} (blank : allBlank closing = true) (back : List Char)
  (words : List SpacedWord)
include blank

theorem endOf_cases :
    words = [] ∧ endOf words closing back = '-' :: '-' :: '>' :: back ∨
      ∃ c rest, endOf words closing back = c :: rest ∧ isBlank c = true := by
  cases words with
  | nil =>
    cases closing with
    | nil => exact .inl ⟨rfl, rfl⟩
    | cons c closing =>
      exact .inr ⟨c, _, rfl, List.all_eq_true.1 blank c (List.mem_cons_self ..)⟩
  | cons word words =>
    obtain ⟨c, rest, eq, space⟩ := word.exists_text
    right
    refine ⟨c, rest ++ endOf words closing back, ?_, space⟩
    rw [endOf, List.flatMap_cons, eq, List.append_assoc]
    rfl

theorem readNames_endOf :
    readNames (endOf words closing back) = some (words.map SpacedWord.name, back) := by
  induction words with
  | nil =>
    have cut : cutRun (endOf [] closing back) = (['-', '-'], '>' :: back) := by
      change cutRun (closing ++ (['-', '-'] ++ '>' :: back)) = _
      exact cutRun_blanks blank (by decide) (by decide) (by simp [isNameChar])
    rw [readNames_of_closed cut, if_pos rfl, List.map_nil]
  | cons word words ih =>
    have whole : endOf (word :: words) closing back = word.text ++ endOf words closing back := by
      simp only [endOf, List.flatMap_cons, List.append_assoc]
    rw [whole]
    rcases endOf_cases blank back words with ⟨rfl, closed⟩ | ⟨c, rest, opened, space⟩
    · rw [closed, readNames_last, List.map_singleton]
    · rw [opened, readNames_word word space, ← opened, ih]
      rfl

/-- No longer action is read: what follows the action does not go on with a hyphen and a letter. -/
theorem isPrefixOf?_endOf {letter : Char} (other : letter ≠ '-') (more : List Char) :
    ('-' :: letter :: more).isPrefixOf? (endOf words closing back) = none := by
  rcases endOf_cases blank back words with ⟨-, closed⟩ | ⟨c, rest, opened, space⟩
  · rw [closed]
    simp [List.isPrefixOf?, other]
  · have differ : ('-' == c) = false := by
      refine beq_eq_false_iff_ne.2 ?_
      rintro rfl
      exact absurd space (by decide)
    rw [opened]
    simp [List.isPrefixOf?, differ]

theorem readAction_endOf (action : CommentAction) :
    readAction (action.word ++ endOf words closing back) action =
      some (⟨action, words.map SpacedWord.name⟩, back) := by
  rw [readAction, isPrefixOf?_lead, Option.bind_some, readNames_endOf blank]
  rfl

theorem readAction_longer {action : CommentAction} {letter : Char} (other : letter ≠ '-')
    {more : List Char}
    (longer : action.word = CommentAction.disable.word ++ '-' :: letter :: more) :
    readAction (CommentAction.disable.word ++ endOf words closing back) action = none := by
  have cut : action.word.isPrefixOf? (CommentAction.disable.word ++ endOf words closing back) =
      ('-' :: letter :: more).isPrefixOf? (endOf words closing back) := by
    rw [longer]
    rfl
  rw [readAction, cut, isPrefixOf?_endOf blank back words other, Option.bind_none]

/-- Of the actions, which are tried in this order, the one that was written is read. -/
theorem findSome?_readAction (action : CommentAction) :
    [.disableNextLine, .disableLine, .disable, .enable].findSome?
        (readAction (action.word ++ endOf words closing back)) =
      some (⟨action, words.map SpacedWord.name⟩, back) := by
  have own := readAction_endOf blank back words action
  cases action with
  | disableNextLine => simp only [List.findSome?_cons, own]
  | disableLine =>
    have nextLine : readAction (CommentAction.disableLine.word ++ endOf words closing back)
        .disableNextLine = none := rfl
    simp only [List.findSome?_cons, nextLine, own]
  | disable =>
    have nextLine := readAction_longer blank back words (by decide : 'n' ≠ '-')
      (rfl : CommentAction.disableNextLine.word = _)
    have line := readAction_longer blank back words (by decide : 'l' ≠ '-')
      (rfl : CommentAction.disableLine.word = _)
    simp only [List.findSome?_cons, nextLine, line, own]
  | enable =>
    have others : ∀ other, other ≠ .enable →
        readAction (CommentAction.enable.word ++ endOf words closing back) other = none := by
      intro other differs
      cases other with
      | enable => exact absurd rfl differs
      | disable | disableLine | disableNextLine => rfl
    simp only [List.findSome?_cons, others .disableNextLine nofun,
      others .disableLine nofun, others .disable nofun, own]

end Reading

/-- A comment is read where it is written. -/
theorem Written.read?_text (written : Written) (back : List Char) :
    read? (written.text ++ back) = some (written.comment, back) := by
  have whole : written.text ++ back = "<!--".toList ++ (written.opening ++ ("markdownlint-".toList ++
      (written.action.word ++ endOf written.words written.closing back))) := by
    simp [Written.text, endOf]
  have named (text : List Char) : (written.opening ++ ("markdownlint-".toList ++ text)).dropWhile
      isBlank = "markdownlint-".toList ++ text := by
    rw [List.dropWhile_append_of_pos (List.all_eq_true.1 written.opening_blank)]
    rfl
  rw [read?, whole, isPrefixOf?_lead, Option.bind_some, named, isPrefixOf?_lead, Option.bind_some]
  exact findSome?_readAction written.closing_blank back written.words written.action

theorem Written.ofLine_text (written : Written) (front back : List Char) :
    ofLine (front ++ (written.text ++ back)) = ofLine front ++ written.comment :: ofLine back := by
  have opens : ∃ rest, written.text ++ back = '<' :: rest := ⟨_, rfl⟩
  obtain ⟨rest, opens⟩ := opens
  have read := written.read?_text back
  rw [opens] at read ⊢
  rw [ofLine_append_of_inert (inert_cons rest), ofLine_cons, read]

/-- The words resolve to the rule, or there are no words, which stands for every rule. -/
def Written.Names (written : Written) (id : RuleId) : Prop :=
  written.words = [] ∨ ∃ word ∈ written.words, RuleId.lookup? word.name = some id

theorem Written.mem_rules_comment {written : Written} {id : RuleId} :
    id ∈ written.comment.rules ↔ written.Names id := by
  unfold Names
  by_cases none : written.words = []
  · simp [rules, comment, none, RuleId.mem_all]
  · simp [rules, comment, none]

end InlineComment

structure Muted where
  standing : Bool
  here : Bool
  next : Bool
  deriving DecidableEq, Repr

def Suppression.muted (state : Suppression) (id : RuleId) : Muted where
  standing := id ∈ state.standing
  here := id ∈ state.here
  next := id ∈ state.next

def CommentAction.act (action : CommentAction) (muted : Muted) : Muted :=
  match action with
  | .disable => { muted with standing := true }
  | .enable => { muted with standing := false }
  | .disableLine => { muted with here := true }
  | .disableNextLine => { muted with next := true }

namespace Suppression

variable {state : Suppression} {comment : InlineComment} {id : RuleId}

theorem muted_of_mem (named : id ∈ comment.rules) :
    (state.comment comment).muted id = comment.action.act (state.muted id) := by
  unfold Suppression.comment
  cases comment.action <;> simp [muted, CommentAction.act, named]

theorem muted_of_not_mem (other : id ∉ comment.rules) :
    (state.comment comment).muted id = state.muted id := by
  unfold Suppression.comment
  cases comment.action <;> simp [muted, other]

end Suppression

/-- A comment that is written on a prose line is read back, behind the comments of the text before it and
in front of those of the text behind it. Whatever was off before, it does what its action says to the
rules that its words resolve to and nothing to any other rule. -/
theorem comments_of_written (written : InlineComment.Written) (front back : List Char) {line : Line}
    (prose : line.kind.isCode = false) (whole : line.text = front ++ (written.text ++ back)) :
    InlineComment.read? (written.text ++ back) = some (written.comment, back) ∧
      line.comments =
        InlineComment.ofLine front ++ written.comment :: InlineComment.ofLine back ∧
      ∀ (state : Suppression) (id : RuleId),
        (written.Names id →
          (state.comment written.comment).muted id = written.action.act (state.muted id)) ∧
        (¬ written.Names id → (state.comment written.comment).muted id = state.muted id) := by
  refine ⟨written.read?_text back, ?_, ?_⟩
  · rw [Line.comments, prose, if_neg Bool.false_ne_true, whole, written.ofLine_text]
  · intro state id
    rw [← InlineComment.Written.mem_rules_comment]
    exact ⟨Suppression.muted_of_mem, Suppression.muted_of_not_mem⟩

/-- A comment whose last word is made of hyphens and stands right before the closing `-->`. -/
def hyphenated : InlineComment.Written where
  action := .disable
  words := [⟨[' '], "MD013".toList, by decide, by decide, by decide, by decide⟩,
    ⟨['\t'], ['-', '-'], by decide, by decide, by decide, by decide⟩]
  opening := ['\u00A0']
  closing := []
  opening_blank := by decide
  closing_blank := by decide

/-- Another comment begins before it and does not end. -/
theorem comments_of_written_hyphenated :
    (Line.mk 1 "<!-- markdownlint-enable <!--\u00A0markdownlint-disable MD013\t----> -->".toList
        .prose).comments = [⟨.disable, ["MD013".toList, ['-', '-']]⟩] ∧
      (Suppression.none.comment hyphenated.comment).muted .lineLength = ⟨true, false, false⟩ ∧
      (Suppression.none.comment hyphenated.comment).muted .hardTabs = ⟨false, false, false⟩ := by
  have prose : (Line.mk 1
      "<!-- markdownlint-enable <!--\u00A0markdownlint-disable MD013\t----> -->".toList
      .prose).kind.isCode = false := rfl
  obtain ⟨-, comments, acts⟩ := comments_of_written hyphenated
    "<!-- markdownlint-enable ".toList " -->".toList prose (by decide)
  have named : hyphenated.Names .lineLength := by
    refine .inr ⟨_, List.mem_cons_self .., ?_⟩
    decide
  have other : ¬ hyphenated.Names .hardTabs := by
    rw [← InlineComment.Written.mem_rules_comment]
    decide
  refine ⟨?_, (acts _ _).1 named, (acts _ _).2 other⟩
  rw [comments]
  decide +kernel

end DocCheck
