import DocCheck.Proofs.Answer
import DocCheck.Ruleset.Standard

set_option autoImplicit false

namespace DocCheck.Session

inductive Step where
  | edit (change : List Char → List Char)
  | request (name : String) (fix : Bool)

structure Exchange where
  submission : Submission
  fix : Bool
  outcome : Outcome
  deriving DecidableEq, Repr

/-- The text that the caller ends up with. -/
def Exchange.text (exchange : Exchange) : List Char :=
  exchange.outcome.fixedText.getD exchange.submission.text

inductive Event where
  | edited (text : List Char)
  | answered (exchange : Exchange)
  deriving DecidableEq, Repr

def exchange (engine : Engine Id) (ruleset : Ruleset) (submission : Submission) (fix : Bool) :
    Exchange :=
  ⟨submission, fix, engine.answer ruleset submission fix⟩

/-- The events of a session whose current text is `text`. -/
def run (engine : Engine Id) (ruleset : Ruleset) (text : List Char) : List Step → List Event
  | [] => []
  | .edit change :: rest => .edited (change text) :: run engine ruleset (change text) rest
  | .request name fix :: rest =>
    let answer := exchange engine ruleset ⟨name, text⟩ fix
    .answered answer :: run engine ruleset answer.text rest

/-- The outcome tells of the text that the caller ends up with, and a fix pass that is not kept
leaves no trace. -/
structure Exchange.Consistent (engine : Engine Id) (ruleset : Ruleset) (exchange : Exchange) :
    Prop where
  validations : exchange.outcome.validations =
    engine.lint ruleset { exchange.submission with text := exchange.text }
  initialCount : exchange.outcome.initialCount =
    (engine.lint ruleset exchange.submission).findings.length
  bounded : exchange.outcome.errorCount ≤ exchange.outcome.initialCount
  kept : ∀ fixed, exchange.outcome.fixedText = some fixed →
    exchange.fix = true ∧
      (∃ finding ∈ (engine.lint ruleset exchange.submission).findings, finding.isFixable = true) ∧
      fixed = engine.repair exchange.submission.text
        ((engine.lint ruleset exchange.submission).findings.filter Finding.isFixable) ∧
      fixed ≠ exchange.submission.text
  discarded : exchange.outcome.fixedText = none →
    exchange.outcome = engine.answer ruleset exchange.submission false

theorem consistent_exchange (engine : Engine Id) (ruleset : Ruleset) (submission : Submission)
    (fix : Bool) : (exchange engine ruleset submission fix).Consistent engine ruleset := by
  have counted := (engine.lint ruleset submission).errorCount_eq_length_findings
  rcases engine.answer_cases ruleset submission fix with unkept | ⟨keeps, answered⟩
  · refine ⟨?_, ?_, ?_, ?_, ?_⟩ <;> simp only [exchange, Exchange.text, unkept]
    · rfl
    · exact counted
    · exact Nat.le_refl _
    · intro fixed h
      cases h
    · exact fun _ => (engine.answer_false ruleset submission).symm
  · refine ⟨?_, ?_, ?_, ?_, ?_⟩ <;> simp only [exchange, Exchange.text, answered]
    · rfl
    · exact counted
    · exact keeps.counted
    · intro fixed h
      obtain ⟨finding, found⟩ := List.exists_mem_of_ne_nil _ keeps.fixable
      exact ⟨keeps.asked, ⟨finding, List.mem_filter.1 found⟩, (Option.some.inj h).symm,
        Option.some.inj h ▸ keeps.changed⟩
    · intro h
      cases h

variable {engine : Engine Id} {ruleset : Ruleset}

/-- Every outcome of a session is the answer to a request. -/
theorem exists_exchange_of_mem_run {text : List Char} {steps : List Step} {answer : Exchange}
    (h : .answered answer ∈ run engine ruleset text steps) :
    ∃ submission fix, answer = exchange engine ruleset submission fix := by
  induction steps generalizing text with
  | nil => cases h
  | cons step rest ih =>
    cases step with
    | edit change =>
      rcases List.mem_cons.1 h with same | later
      · cases same
      · exact ih later
    | request name fix =>
      rcases List.mem_cons.1 h with same | later
      · exact ⟨⟨name, text⟩, fix, Event.answered.inj same⟩
      · exact ih later

theorem exists_run_of_suffix {text : List Char} {steps : List Step} {events : List Event}
    (h : events <:+ run engine ruleset text steps) :
    ∃ text steps, events = run engine ruleset text steps := by
  induction steps generalizing text with
  | nil => exact ⟨text, [], List.suffix_nil.1 h⟩
  | cons step rest ih =>
    cases step with
    | edit change =>
      rcases List.suffix_cons_iff.1 h with whole | later
      · exact ⟨text, .edit change :: rest, whole⟩
      · exact ih later
    | request name fix =>
      rcases List.suffix_cons_iff.1 h with whole | later
      · exact ⟨text, .request name fix :: rest, whole⟩
      · exact ih later

/-- Along the requests the number of findings never rises. -/
def NeverRises (stretch : List Exchange) : Prop :=
  stretch.Pairwise fun earlier later => later.outcome.errorCount ≤ earlier.outcome.errorCount

/-- Requests without an edit between them, where `count` gives the number of findings of a text under each of the names they use. -/
theorem neverRises_of_isPrefix (count : List Char → Nat) {text : List Char}
    {steps : List Step} {stretch : List Exchange}
    (h : stretch.map .answered <+: run engine ruleset text steps)
    (counts : ∀ answer ∈ stretch, ∀ text,
      (engine.lint ruleset ⟨answer.submission.name, text⟩).errorCount = count text) :
    (∀ answer ∈ stretch, answer.outcome.errorCount ≤ count text) ∧ NeverRises stretch := by
  -- The bound on the first count goes down with each request and carries the induction.
  induction stretch generalizing text steps with
  | nil => exact ⟨fun _ found => absurd found List.not_mem_nil, List.Pairwise.nil⟩
  | cons answer stretch ih =>
    cases steps with
    | nil => exact absurd (List.prefix_nil.1 h) (by simp)
    | cons step steps =>
      cases step with
      | edit change => cases (List.cons_prefix_cons.1 h).1
      | request name fix =>
        obtain ⟨same, rest⟩ := List.cons_prefix_cons.1 h
        obtain rfl := Event.answered.inj same
        have named : ∀ text, (engine.lint ruleset ⟨name, text⟩).errorCount = count text :=
          counts _ (List.mem_cons_self ..)
        have consistent := consistent_exchange engine ruleset ⟨name, text⟩ fix
        have first : (exchange engine ruleset ⟨name, text⟩ fix).outcome.errorCount =
            count (exchange engine ruleset ⟨name, text⟩ fix).text := by
          rw [Outcome.errorCount, consistent.validations]
          exact named _
        have bounded : (exchange engine ruleset ⟨name, text⟩ fix).outcome.errorCount ≤
            count text := by
          rw [← named text, Results.errorCount_eq_length_findings]
          exact Nat.le_trans consistent.bounded (Nat.le_of_eq consistent.initialCount)
        obtain ⟨later, ordered⟩ := ih rest fun answer found =>
          counts answer (List.mem_cons_of_mem _ found)
        rw [← first] at later
        refine ⟨?_, List.pairwise_cons.2 ⟨later, ordered⟩⟩
        intro answer found
        rcases List.mem_cons.1 found with rfl | found
        · exact bounded
        · exact Nat.le_trans (later answer found) bounded

theorem neverRises_of_isInfix (count : List Char → Nat) {text : List Char}
    {steps : List Step} {stretch : List Exchange}
    (h : stretch.map .answered <:+: run engine ruleset text steps)
    (counts : ∀ answer ∈ stretch, ∀ text,
      (engine.lint ruleset ⟨answer.submission.name, text⟩).errorCount = count text) :
    NeverRises stretch := by
  obtain ⟨events, start, tail⟩ := List.infix_iff_prefix_suffix.1 h
  obtain ⟨text, steps, rfl⟩ := exists_run_of_suffix tail
  exact (neverRises_of_isPrefix count start counts).2

/-- In every session with every engine each outcome is consistent, and along requests for one name
without an edit between them the number of findings never rises. With the standard engine the names
may differ. -/
theorem outcomes_consistent (ruleset : Ruleset) (text : List Char) (steps : List Step) :
    (∀ engine : Engine Id,
      (∀ answer, .answered answer ∈ run engine ruleset text steps →
        answer.Consistent engine ruleset) ∧
      ∀ (name : String) (stretch : List Exchange),
        stretch.map .answered <:+: run engine ruleset text steps →
        (∀ answer ∈ stretch, answer.submission.name = name) → NeverRises stretch) ∧
    ∀ stretch : List Exchange, stretch.map .answered <:+: run Engine.standard ruleset text steps →
      NeverRises stretch := by
  refine ⟨fun engine => ⟨?_, ?_⟩, ?_⟩
  · intro answer answered
    obtain ⟨submission, fix, rfl⟩ := exists_exchange_of_mem_run answered
    exact consistent_exchange engine ruleset submission fix
  · intro name stretch h named
    refine neverRises_of_isInfix
      (fun text => (engine.lint ruleset ⟨name, text⟩).errorCount) h ?_
    intro answer found text
    rw [named answer found]
  · intro stretch h
    refine neverRises_of_isInfix (fun text => (ruleset.lint text).length) h ?_
    intro answer _ text
    exact Engine.standard_errorCount ruleset ⟨answer.submission.name, text⟩

/-- The first request repairs the text, so the second one, under another name, is about `# T`. -/
theorem outcomes_consistent_title :
    NeverRises
      [exchange Engine.standard .embedded ⟨"readme", "#T".toList⟩ true,
        exchange Engine.standard .embedded ⟨"guide", "# T\n".toList⟩ false] :=
  (outcomes_consistent .embedded "#T".toList
    [.request "readme" true, .request "guide" false, .edit List.reverse]).2 _
    ⟨[], [.edited "\nT #".toList], by cbv⟩

end DocCheck.Session
