import DocCheck.Proofs.GuardedLines
import DocCheck.Proofs.VisibleText

set_option autoImplicit false

namespace DocCheck

open Text

namespace Heading

def guardedStart (heading : Heading) : Guarded Nat := do
  .add (← .add heading.indent heading.level) heading.spacing

def guardedParse (line : List Char) : Guarded (Option Heading) := do
  let indent ← .sub (byteLength line) (byteLength (line.dropWhile (· == ' ')))
  if 3 < indent then
    return none
  let opened ← .back indent line
  let level := (opened.takeWhile (· == '#')).length
  if level = 0 ∨ 6 < level then
    return none
  let after ← .back level opened
  if ¬ after.head?.all isSpaceOrTab then
    return none
  let spacing ← .sub (byteLength after) (byteLength (after.dropWhile isSpaceOrTab))
  let body := trimEnd isSpaceOrTab (← .back spacing after)
  let heading : Heading := { indent, level, spacing, content := withoutClosing body }
  let _ ← heading.guardedStart
  return some heading

theorem guardedStart_eq {heading : Heading} (word : heading.contentStart < wordLimit) :
    heading.guardedStart = .ok heading.contentStart := by
  rw [contentStart] at word
  rw [guardedStart, Guarded.add_eq (by omega), Guarded.ok_bind, Guarded.add_eq word, contentStart]

theorem bounds_of_parse? {line : List Char} {heading : Heading} (parsed : parse? line = some heading) :
    heading.contentStart + heading.content.length ≤ line.length ∧ heading.level ≤ 6 := by
  obtain ⟨spacing, tail, shape⟩ := shape_of_parse? parsed
  have whole := congrArg List.length shape.line_eq
  rw [length_hashLine, List.length_append, List.length_append, shape.length_spacing] at whole
  rw [contentStart]
  exact ⟨by omega, shape.level_le⟩

theorem guardedParse_eq {line : List Char} (stored : Stored line) :
    guardedParse line = .ok (parse? line) := by
  have space := Guarded.utf8Size_of_beq (a := ' ') rfl
  have hash := Guarded.utf8Size_of_beq (a := '#') rfl
  have blank (c : Char) (h : isSpaceOrTab c = true) : c.utf8Size = 1 := utf8Size_of_isSpaceOrTab h
  simp only [guardedParse, Guarded.sub_dropWhile space, Guarded.back_takeWhile space,
    Guarded.back_takeWhile hash, Guarded.sub_dropWhile blank, Guarded.back_takeWhile blank,
    Guarded.ok_bind, Guarded.pure_eq_ok]
  rw [parse?]
  split
  · rw [if_neg (by omega)]
  split
  · rw [if_neg (by omega)]
  split
  · rename_i solid
    rw [if_neg fun valid => solid valid.2.2.2]
  · rename_i indented leveled spaced
    have fewer := length_le_byteLength line
    have inside : (((line.dropWhile (· == ' ')).dropWhile (· == '#')).takeWhile
        isSpaceOrTab).length ≤ line.length :=
      ((List.takeWhile_prefix _).isInfix.trans ((List.dropWhile_suffix _).isInfix.trans
        (List.dropWhile_suffix _).isInfix)).length_le
    rw [guardedStart_eq, Guarded.ok_bind,
      if_pos ⟨by omega, by omega, by omega, by simpa using spaced⟩]
    apply Guarded.lt_wordLimit stored
    simp only [contentStart]
    omega

end Heading

/-- Every line is a text that memory holds, and the number of lines is a word. -/
structure Document.Held (doc : Document) : Prop where
  stored : ∀ line ∈ doc.lines, Stored line.text
  count : doc.lines.length < wordLimit

theorem Document.Held.prose {doc : Document} (held : doc.Held) {line : Line}
    (member : line ∈ doc.prose) : Stored line.text :=
  held.stored line (List.mem_filter.1 member).1

theorem Document.held_ofText {text : List Char} (stored : Stored text) :
    (Document.ofText text).Held where
  stored _ member := stored.of_mem_lines (Line.text_mem_lines member)
  count := by
    have fewer := length_le_byteLength text
    have count : (Text.lines text).length ≤ text.length + 1 := length_linesFrom_le [] text
    rw [← Line.map_text_ofText, List.length_map] at count
    apply Guarded.lt_wordLimit stored
    show (Line.ofText text).length ≤ byteLength text + 16
    omega

def Document.guardedHeadings (doc : Document) : Guarded (List (Line × Heading)) :=
  doc.prose.filterMapM fun line => do
    return (← Heading.guardedParse line.text).map fun heading => (line, heading)

theorem Document.Held.guardedHeadings_eq {doc : Document} (held : doc.Held) :
    doc.guardedHeadings = .ok doc.headings := by
  have each : doc.guardedHeadings = .ok (doc.prose.filterMap fun line =>
      (Heading.parse? line.text).map fun heading => (line, heading)) := by
    apply Guarded.filterMapM_eq
    intro line member
    rw [Heading.guardedParse_eq (held.prose member), Guarded.ok_bind, Guarded.pure_eq_ok]
  rw [each, Document.prose, Document.headings, List.filterMap_filter]
  congr 2
  funext line
  rw [Line.heading?]
  cases line.kind.isCode <;> rfl

/-- A check of each heading, where the heading was read from a line that memory holds. -/
theorem Document.Held.filterMapM_headings {doc : Document} (held : doc.Held)
    {step : Line → Heading → Guarded (Option Violation)}
    {value : Line → Heading → Option Violation}
    (steps : ∀ line heading, Stored line.text → Heading.parse? line.text = some heading →
      step line heading = .ok (value line heading)) :
    (doc.guardedHeadings >>= fun headings =>
      headings.filterMapM fun (line, heading) => step line heading) =
      .ok (doc.headings.filterMap fun (line, heading) => value line heading) := by
  rw [held.guardedHeadings_eq, Guarded.ok_bind]
  apply Guarded.filterMapM_eq
  intro (line, heading) found
  obtain ⟨member, parsed⟩ := Document.mem_headings.1 found
  exact steps line heading (held.stored line member) (Line.heading?_eq_some.1 parsed).2

def HeadingIncrement.guardedCheckFrom (previous : Option Nat) :
    List (Line × Heading) → Guarded (List Violation)
  | [] => return []
  | (line, heading) :: rest => do
    let found ←
      match previous with
      | none => pure []
      | some level => do
        let allowed ← .add level 1
        if allowed < heading.level then
          pure
            [{ line := line.number
               detail := some (.level allowed heading.level)
               context := some (trim line.text) }]
        else
          pure []
    return found ++ (← guardedCheckFrom (some heading.level) rest)

theorem HeadingIncrement.guardedCheckFrom_eq {previous : Option Nat}
    {headings : List (Line × Heading)} (before : ∀ level ∈ previous, level ≤ 6)
    (levels : ∀ entry ∈ headings, entry.2.level ≤ 6) :
    guardedCheckFrom previous headings = .ok (checkFrom previous headings) := by
  induction headings generalizing previous with
  | nil => rfl
  | cons entry rest ih =>
    obtain ⟨line, heading⟩ := entry
    obtain ⟨here, there⟩ := List.forall_mem_cons.1 levels
    have tail : guardedCheckFrom (some heading.level) rest =
        .ok (checkFrom (some heading.level) rest) :=
      ih (by simpa using here) there
    rw [guardedCheckFrom.eq_def, checkFrom.eq_def]
    simp only [tail]
    cases previous with
    | none => rfl
    | some level =>
      have low := before level rfl
      have word : level + 1 < wordLimit := by
        unfold wordLimit
        omega
      simp only [Guarded.add_eq word, Guarded.ok_bind, Guarded.pure_eq_ok]
      split <;> rfl

def HeadingIncrement.guardedCheck (_ : HeadingIncrement) (doc : Document) :
    Guarded (List Violation) := do
  guardedCheckFrom none (← doc.guardedHeadings)

theorem HeadingIncrement.guardedCheck_eq (options : HeadingIncrement) {doc : Document}
    (held : doc.Held) : options.guardedCheck doc = .ok (options.check doc) := by
  rw [guardedCheck, held.guardedHeadings_eq, Guarded.ok_bind, guardedCheckFrom_eq (by simp), check]
  intro entry found
  have parsed := (Document.mem_headings.1 found).2
  exact (Heading.bounds_of_parse? (Line.heading?_eq_some.1 parsed).2).2

def MissingSpace.guardedCheckLine (line : Line) : Guarded (Option Violation) := do
  let indent := (line.text.takeWhile (· == ' ')).length
  if 3 < indent then
    return none
  let opened ← .back indent line.text
  let hashes := (opened.takeWhile (· == '#')).length
  match (← .back hashes opened).head? with
  | none => return none
  | some next =>
    let shown := trimEnd isBlank line.text
    if hashes = 0 ∨ next = '#' ∨ isSpaceOrTab next ∨ shown.getLast? = some '#' then
      return none
    let column ← .add indent 1
    let length ← .add hashes 1
    let place ← .add (← .add indent hashes) 1
    return some
      { line := line.number
        context := some shown
        range := some ⟨column, length⟩
        edit := some (.inserting line.number place [' ']) }

theorem MissingSpace.guardedCheckLine_eq {line : Line} (stored : Stored line.text) :
    guardedCheckLine line = .ok (checkLine line) := by
  have space := Guarded.utf8Size_of_beq (a := ' ') rfl
  have hash := Guarded.utf8Size_of_beq (a := '#') rfl
  simp only [guardedCheckLine, Guarded.back_takeWhile space, Guarded.back_takeWhile hash,
    Guarded.ok_bind, Guarded.pure_eq_ok]
  rw [checkLine]
  split
  · rw [if_neg (by omega)]
  cases first : ((line.text.dropWhile (· == ' ')).dropWhile (· == '#')).head? with
  | none =>
    rw [if_neg]
    simp
  | some next =>
    have other : next ≠ '#' := fun same => head?_dropWhile_ne '#' _ (same ▸ first)
    have fewer := length_le_byteLength line.text
    have inside : ((line.text.dropWhile (· == ' ')).takeWhile (· == '#')).length ≤
        line.text.length :=
      ((List.takeWhile_prefix _).isInfix.trans (List.dropWhile_suffix _).isInfix).length_le
    dsimp only
    split
    · rename_i silent
      rw [if_neg]
      rintro ⟨-, some, spaced, open_⟩
      rcases silent with none | same | blank | closed
      · omega
      · exact other same
      · simp [blank] at spaced
      · exact open_ closed
    · rename_i reported
      simp only [not_or] at reported
      rw [Guarded.add_bind stored (by omega), Guarded.add_bind stored (by omega),
        Guarded.add_bind stored (by omega), Guarded.add_bind stored (by omega), if_pos]
      refine ⟨by omega, by omega, ?_, reported.2.2.2⟩
      simpa using reported.2.2.1

def MissingSpace.guardedCheck (_ : MissingSpace) (doc : Document) : Guarded (List Violation) :=
  doc.prose.filterMapM guardedCheckLine

theorem MissingSpace.guardedCheck_eq (options : MissingSpace) {doc : Document}
    (held : doc.Held) : options.guardedCheck doc = .ok (options.check doc) :=
  Guarded.filterMapM_eq fun _ member => guardedCheckLine_eq (held.prose member)

def MultipleSpace.guardedCheckHeading (line : Line) (heading : Heading) :
    Guarded (Option Violation) := do
  if 1 < heading.spacing ∧ heading.content ≠ [] then
    let opened ← .add heading.indent heading.level
    let column ← .add heading.indent 1
    let length ← .add heading.level heading.spacing
    let place ← .add opened 2
    let count ← .sub heading.spacing 1
    return some
      { line := line.number
        context := some (trim line.text)
        range := some ⟨column, length⟩
        edit := some (.deleting line.number place count) }
  else
    return none

theorem MultipleSpace.guardedCheckHeading_eq {line : Line} {heading : Heading}
    (stored : Stored line.text) (parsed : Heading.parse? line.text = some heading) :
    guardedCheckHeading line heading = .ok (checkHeading line heading) := by
  have fewer := length_le_byteLength line.text
  have inside := (Heading.bounds_of_parse? parsed).1
  rw [Heading.contentStart] at inside
  rw [guardedCheckHeading, checkHeading]
  split
  · rename_i wide
    rw [Guarded.add_bind stored (by omega), Guarded.add_bind stored (by omega),
      Guarded.add_bind stored (by omega), Guarded.add_bind stored (by omega),
      Guarded.sub_bind (by omega)]
    rfl
  · rfl

def MultipleSpace.guardedCheck (_ : MultipleSpace) (doc : Document) : Guarded (List Violation) := do
  (← doc.guardedHeadings).filterMapM fun (line, heading) => guardedCheckHeading line heading

theorem MultipleSpace.guardedCheck_eq (options : MultipleSpace) {doc : Document}
    (held : doc.Held) : options.guardedCheck doc = .ok (options.check doc) :=
  held.filterMapM_headings fun _ _ => guardedCheckHeading_eq

def HeadingStart.guardedCheckHeading (line : Line) (heading : Heading) :
    Guarded (Option Violation) := do
  if 0 < heading.indent then
    let length ← .add heading.indent heading.level
    return some
      { line := line.number
        context := some (trim line.text)
        range := some ⟨1, length⟩
        edit := some (.deleting line.number 1 heading.indent) }
  else
    return none

theorem HeadingStart.guardedCheckHeading_eq {line : Line} {heading : Heading}
    (stored : Stored line.text) (parsed : Heading.parse? line.text = some heading) :
    guardedCheckHeading line heading = .ok (checkHeading line heading) := by
  have fewer := length_le_byteLength line.text
  have inside := (Heading.bounds_of_parse? parsed).1
  rw [Heading.contentStart] at inside
  rw [guardedCheckHeading, checkHeading, Guarded.add_bind stored (by omega)]
  split <;> rfl

def HeadingStart.guardedCheck (_ : HeadingStart) (doc : Document) : Guarded (List Violation) := do
  (← doc.guardedHeadings).filterMapM fun (line, heading) => guardedCheckHeading line heading

theorem HeadingStart.guardedCheck_eq (options : HeadingStart) {doc : Document}
    (held : doc.Held) : options.guardedCheck doc = .ok (options.check doc) :=
  held.filterMapM_headings fun _ _ => guardedCheckHeading_eq

def SingleTitle.guardedCheck (options : SingleTitle) (doc : Document) :
    Guarded (List Violation) := do
  let titles := (← doc.guardedHeadings).filter (·.2.level == options.level)
  return (titles.drop 1).map fun (line, _) =>
    { line := line.number, context := some (trim line.text) }

theorem SingleTitle.guardedCheck_eq (options : SingleTitle) {doc : Document}
    (held : doc.Held) : options.guardedCheck doc = .ok (options.check doc) := by
  rw [guardedCheck, held.guardedHeadings_eq, Guarded.ok_bind, Guarded.pure_eq_ok, check]

/-- The column is counted in the characters before the byte at which the last one begins. -/
def TrailingPunctuation.guardedCheckHeading (options : TrailingPunctuation) (line : Line)
    (heading : Heading) : Guarded (Option Violation) := do
  match heading.content.getLast? with
  | none => return none
  | some last =>
    if last ∈ options.punctuation ∧ ¬ endsInReference heading.content then
      let stop ← .add (← heading.guardedStart) (byteLength heading.content)
      let place ← .sub stop last.utf8Size
      let column ← .add (← .front place line.text).length 1
      return some
        { line := line.number
          detail := some (.punctuation last)
          context := some (trim line.text)
          range := some ⟨column, 1⟩
          edit := some (.deleting line.number column 1) }
    else
      return none

section LastCharacter

variable {line spacing tail front : List Char} {heading : Heading} {last : Char}

theorem Heading.Shape.front_last (shape : Heading.Shape line heading spacing tail)
    (content : heading.content = front ++ [last]) :
    Guarded.front (heading.contentStart + byteLength heading.content - last.utf8Size) line =
      .ok (hashLine heading.indent heading.level spacing ++ front) := by
  have whole : line = (hashLine heading.indent heading.level spacing ++ front) ++
      (last :: tail) := by
    rw [shape.line_eq_append, content]
    simp
  have place : heading.contentStart + byteLength heading.content - last.utf8Size =
      byteLength (hashLine heading.indent heading.level spacing ++ front) := by
    rw [content, byteLength_append, byteLength_append, shape.byteLength_lead, byteLength_cons,
      byteLength_nil]
    omega
  rw [place, whole, Guarded.front_append]

theorem Heading.Shape.length_front (shape : Heading.Shape line heading spacing tail)
    (content : heading.content = front ++ [last]) :
    (hashLine heading.indent heading.level spacing ++ front).length + 1 =
      heading.contentStart + heading.content.length := by
  rw [content, List.length_append, List.length_append, length_hashLine, shape.length_spacing,
    contentStart, List.length_singleton]
  omega

theorem Heading.Shape.bytes_le (shape : Heading.Shape line heading spacing tail) :
    heading.contentStart + byteLength heading.content ≤ byteLength line := by
  rw [shape.line_eq_append, byteLength_append, byteLength_append, shape.byteLength_lead]
  omega

end LastCharacter

theorem TrailingPunctuation.guardedCheckHeading_eq (options : TrailingPunctuation) {line : Line}
    {heading : Heading} (stored : Stored line.text)
    (parsed : Heading.parse? line.text = some heading) :
    options.guardedCheckHeading line heading = .ok (options.checkHeading line heading) := by
  rw [guardedCheckHeading, checkHeading]
  cases last : heading.content.getLast? with
  | none => rfl
  | some c =>
    obtain ⟨front, content⟩ := List.getLast?_eq_some_iff.1 last
    obtain ⟨spacing, tail, shape⟩ := Heading.shape_of_parse? parsed
    have size : c.utf8Size ≤ byteLength heading.content := by
      rw [content, byteLength_append, byteLength_cons]
      omega
    have inside := shape.bytes_le
    have short := (Heading.bounds_of_parse? parsed).1
    have fewer := length_le_byteLength line.text
    have column := shape.length_front content
    dsimp only [Option.bind_some]
    split
    · rw [Heading.guardedStart_eq (Guarded.lt_wordLimit stored (by omega)), Guarded.ok_bind,
        Guarded.add_bind stored (by omega), Guarded.sub_bind (by omega), shape.front_last content,
        Guarded.ok_bind, Guarded.add_bind stored (by omega), column]
      rfl
    · rfl

def TrailingPunctuation.guardedCheck (options : TrailingPunctuation) (doc : Document) :
    Guarded (List Violation) := do
  (← doc.guardedHeadings).filterMapM fun (line, heading) => options.guardedCheckHeading line heading

theorem TrailingPunctuation.guardedCheck_eq (options : TrailingPunctuation) {doc : Document}
    (held : doc.Held) : options.guardedCheck doc = .ok (options.check doc) :=
  held.filterMapM_headings fun _ _ => options.guardedCheckHeading_eq

end DocCheck
