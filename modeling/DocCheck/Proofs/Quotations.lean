import DocCheck.Proofs.LineScan

set_option autoImplicit false

namespace DocCheck

open Text

theorem Text.trim_subset (text : List Char) : trim text ⊆ text :=
  fun _ found => (List.dropWhile_suffix _).subset ((trimEnd_isPrefix _ _).subset found)

theorem Heading.content_subset {text : List Char} {heading : Heading}
    (h : parse? text = some heading) : heading.content ⊆ text := by
  obtain ⟨spacing, tail, shape⟩ := shape_of_parse? h
  intro c found
  rw [shape.line_eq, hashLine]
  simp [found]

/-- The violation is about the line, and what it shows stands there. -/
structure Violation.About (line : Line) (violation : Violation) : Prop where
  number : violation.line = line.number
  context : ∀ shown ∈ violation.context, shown ⊆ line.text
  mark : ∀ c, violation.detail = some (.punctuation c) → c ∈ line.text

namespace Violation

variable {line : Line} {raised violation : Violation}

theorem about_of_bare (number : raised.line = line.number) (context : raised.context = none)
    (detail : ∀ c, raised.detail ≠ some (.punctuation c)) : raised.About line :=
  ⟨number, by simp [context], fun c shown => absurd shown (detail c)⟩

/-- The violation shows the line without the blanks around it, and no mark. -/
theorem about_of_trim (number : raised.line = line.number)
    (context : raised.context = some (trim line.text))
    (detail : ∀ c, raised.detail ≠ some (.punctuation c)) : raised.About line :=
  ⟨number, by simp [context, trim_subset], fun c shown => absurd shown (detail c)⟩

end Violation

theorem HardTabs.about_of_mem_checkLine {options : HardTabs} {line : Line} {violation : Violation}
    (h : violation ∈ options.checkLine line) : violation.About line := by
  rw [checkLine] at h
  split at h
  · cases h
  · obtain ⟨run, -, rfl⟩ := List.mem_map.1 h
    exact Violation.about_of_bare rfl rfl (by simp)

/-- The mark that is shown is the last character of the heading. -/
theorem TrailingPunctuation.about_of_checkHeading {options : TrailingPunctuation} {line : Line}
    {heading : Heading} {violation : Violation} (parsed : line.heading? = some heading)
    (h : options.checkHeading line heading = some violation) : violation.About line := by
  obtain ⟨last, content, h⟩ := Option.bind_eq_some_iff.1 h
  obtain ⟨-, rfl⟩ := Violation.raised_of_ite h
  refine ⟨rfl, by simp [trim_subset], fun c shown => ?_⟩
  obtain rfl := Detail.punctuation.inj (Option.some.inj shown)
  exact Heading.content_subset (Line.heading?_eq_some.1 parsed).2 (List.mem_of_getLast? content)

namespace Rule

theorem about_of_mem_report {rule : Rule} {memory : Memory} {line : Line} {violation : Violation}
    (h : violation ∈ rule.report memory line) : violation.About line := by
  cases rule with
  | headingIncrement options =>
    obtain ⟨entry, found, allowed, rfl⟩ := HeadingIncrement.exists_of_mem_checkFrom h
    obtain ⟨heading, -, rfl⟩ := List.mem_map.1 found
    exact Violation.about_of_trim rfl rfl (by simp)
  | trailingSpaces options =>
    obtain ⟨-, raised⟩ := Option.ite_none_left_eq_some.1 (Line.mem_onProse.1 h).2
    obtain rfl := Option.some.inj raised
    exact Violation.about_of_bare rfl rfl (by simp)
  | hardTabs options => exact HardTabs.about_of_mem_checkLine h
  | multipleBlanks options =>
    obtain ⟨other, found, -, -, count, rfl⟩ := MultipleBlanks.exists_of_mem_checkFrom h
    obtain rfl := List.mem_singleton.1 found
    exact Violation.about_of_bare rfl rfl (by simp)
  | lineLength options =>
    obtain ⟨limit, -, found⟩ := Option.bind_eq_some_iff.1 (Option.mem_toList.1 h)
    obtain ⟨-, rfl⟩ := Violation.raised_of_ite found
    exact Violation.about_of_bare rfl rfl (by simp)
  | missingSpace options =>
    obtain ⟨-, rfl⟩ := Violation.raised_of_ite (Line.mem_onProse.1 h).2
    exact ⟨rfl, by simp [(trimEnd_isPrefix isBlank line.text).subset], by simp⟩
  | multipleSpace options | headingStart options | singleTitle options =>
    obtain ⟨heading, -, found⟩ := Line.mem_onHeading.1 h
    obtain ⟨-, rfl⟩ := Violation.raised_of_ite found
    exact Violation.about_of_trim rfl rfl (by simp)
  | trailingPunctuation options =>
    obtain ⟨heading, parsed, found⟩ := Line.mem_onHeading.1 h
    exact TrailingPunctuation.about_of_checkHeading parsed found
  | fenceLanguage options =>
    obtain ⟨-, rfl⟩ := Violation.raised_of_ite (Option.mem_toList.1 h)
    exact Violation.about_of_trim rfl rfl (by simp)
  | finalNewline options => cases h

theorem about_of_mem_scan {rule : Rule} {memory : Memory} {lines : List Line}
    {violation : Violation} (h : violation ∈ rule.scan memory lines) :
    ∃ line ∈ lines, violation.About line := by
  obtain ⟨line, member, memory, reported⟩ := exists_of_mem_scan h
  exact ⟨line, member, about_of_mem_report reported⟩

/-- Every violation is about a line of the document. -/
theorem about_of_mem_check {rule : Rule} {doc : Document} {violation : Violation}
    (h : violation ∈ rule.check doc) : ∃ line ∈ doc.lines, violation.About line := by
  by_cases inner : rule.id = .finalNewline
  · cases rule with
    | finalNewline options =>
      simp only [check, FinalNewline.check] at h
      split at h
      · cases h
      · rename_i last found
        split at h
        · cases h
        · rw [List.mem_singleton.1 h]
          exact ⟨last, List.mem_of_getLast? found, rfl, by simp, by simp⟩
    | _ => cases inner
  · rw [check_eq_scan inner] at h
    exact about_of_mem_scan h

end Rule

end DocCheck
