import DocCheck.Rule.Id

/-!
Inline comments such as `<!-- markdownlint-disable MD013 -->`. A word of the list may hold hyphens, so
the last word ends before the `-->` that closes the comment. Main statement: what follows a comment
is shorter than what it was read from.
-/

set_option autoImplicit false

namespace DocCheck

open Text

inductive CommentAction where
  | disable
  | enable
  | disableLine
  | disableNextLine
  deriving DecidableEq, Repr

def CommentAction.word : CommentAction → List Char
  | .disable => "disable".toList
  | .enable => "enable".toList
  | .disableLine => "disable-line".toList
  | .disableNextLine => "disable-next-line".toList

structure InlineComment where
  action : CommentAction
  /-- The words after the action. -/
  names : List (List Char)
  deriving DecidableEq, Repr

namespace InlineComment

/-- The characters of a word: ASCII letters and digits, `_` and `-`. -/
def isNameChar (c : Char) : Bool :=
  c.isAlphanum || c == '_' || c == '-'

/-- The run of word characters after the leading blanks, and what follows the run. -/
def cutRun (text : List Char) : List Char × List Char :=
  ((text.dropWhile isBlank).takeWhile isNameChar, (text.dropWhile isBlank).dropWhile isNameChar)

theorem cutRun_length {text run after : List Char} (h : cutRun text = (run, after)) :
    run.length + after.length ≤ text.length := by
  obtain ⟨rfl, rfl⟩ := Prod.mk.inj h
  rw [← List.length_append, List.takeWhile_append_dropWhile]
  exact (List.dropWhile_sublist isBlank).length_le

/-- Reads the words and the closing `-->`; every word follows a blank. -/
def readNames (text : List Char) : Option (List (List Char) × List Char) :=
  match _cut : cutRun text with
  | (run, '>' :: rest) =>
    if run = ['-', '-'] then
      some ([], rest)
    else if text.head?.any isBlank ∧ ['-', '-'].isSuffixOf run then
      some ([run.dropLast.dropLast], rest)
    else
      none
  | (run, after) =>
    if _more : text.head?.any isBlank ∧ run ≠ [] then
      (readNames after).map fun (names, rest) => (run :: names, rest)
    else
      none
termination_by text.length
decreasing_by
  have := cutRun_length _cut
  have := List.length_pos_iff.2 _more.2
  omega

theorem isPrefixOf?_length {lead text rest : List Char} (h : lead.isPrefixOf? text = some rest) :
    lead.length + rest.length = text.length := by
  induction lead generalizing text with
  | nil =>
    cases h
    exact Nat.zero_add _
  | cons a lead ih =>
    cases text with
    | nil => cases h
    | cons b text =>
      change (if a == b then lead.isPrefixOf? text else none) = some rest at h
      split at h
      · have := ih h
        simp only [List.length_cons]
        omega
      · cases h

theorem readNames_length {text rest : List Char} {names : List (List Char)}
    (h : readNames text = some (names, rest)) : rest.length < text.length := by
  fun_induction readNames text generalizing names rest with
  | case1 text after cut =>
    obtain ⟨-, rfl⟩ := Prod.mk.inj (Option.some.inj h)
    have := cutRun_length cut
    simp only [List.length_cons] at this
    omega
  | case2 text run after cut =>
    obtain ⟨-, rfl⟩ := Prod.mk.inj (Option.some.inj h)
    have := cutRun_length cut
    simp only [List.length_cons] at this
    omega
  | case3 => cases h
  | case4 text run after _ cut _ ih =>
    obtain ⟨⟨words, tail⟩, eq, same⟩ := Option.map_eq_some_iff.1 h
    obtain ⟨-, rfl⟩ := Prod.mk.inj same
    have := ih eq
    have := cutRun_length cut
    omega
  | case5 => cases h

def readAction (text : List Char) (action : CommentAction) : Option (InlineComment × List Char) :=
  (action.word.isPrefixOf? text).bind fun rest =>
    (readNames rest).map fun (names, after) => ({ action, names }, after)

theorem readAction_length {text rest : List Char} {action : CommentAction} {comment : InlineComment}
    (h : readAction text action = some (comment, rest)) : rest.length < text.length := by
  obtain ⟨words, cut, h⟩ := Option.bind_eq_some_iff.1 h
  obtain ⟨⟨names, after⟩, read, same⟩ := Option.map_eq_some_iff.1 h
  obtain ⟨-, rfl⟩ := Prod.mk.inj same
  have := isPrefixOf?_length cut
  have := readNames_length read
  omega

/-- Reads a comment at the start of the text; also gives what follows it. -/
def read? (text : List Char) : Option (InlineComment × List Char) :=
  ("<!--".toList.isPrefixOf? text).bind fun opened =>
    ("markdownlint-".toList.isPrefixOf? (opened.dropWhile isBlank)).bind fun named =>
      [.disableNextLine, .disableLine, .disable, .enable].findSome? (readAction named)

theorem read?_length {text rest : List Char} {comment : InlineComment}
    (h : read? text = some (comment, rest)) : rest.length < text.length := by
  obtain ⟨opened, cut, h⟩ := Option.bind_eq_some_iff.1 h
  obtain ⟨named, cut', h⟩ := Option.bind_eq_some_iff.1 h
  obtain ⟨action, -, h⟩ := List.exists_of_findSome?_eq_some h
  have := isPrefixOf?_length cut
  have := isPrefixOf?_length cut'
  have := (List.dropWhile_sublist isBlank (l := opened)).length_le
  have := readAction_length h
  omega

/-- The comments of a line from left to right. A comment begins where the one before it ended or
later. -/
def ofLine (text : List Char) : List InlineComment :=
  match text with
  | [] => []
  | c :: rest =>
    match _h : read? (c :: rest) with
    | some (comment, after) => comment :: ofLine after
    | none => ofLine rest
termination_by text.length
decreasing_by
  · exact read?_length _h
  · simp

/-- The rules a comment names; without words it names every rule. -/
def rules (comment : InlineComment) : List RuleId :=
  if comment.names = [] then RuleId.all else comment.names.filterMap RuleId.lookup?

end InlineComment

end DocCheck
