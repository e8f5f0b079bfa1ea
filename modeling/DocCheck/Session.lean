import DocCheck.Lint

/-!
Lint requests. A request lints a text, and if asked to fix it applies all edits once and lints again.
The pass is kept when it changes the text and does not raise the number of findings.
-/

set_option autoImplicit false

namespace DocCheck

structure Submission where
  name : String
  text : List Char
  deriving DecidableEq, Repr

/-- What lints and repairs texts. The steps run in `m`, so that an engine may keep a record. -/
structure Engine (m : Type → Type) where
  lint : Ruleset → Submission → m Results
  repair : List Char → List Finding → m (List Char)

namespace Engine

variable {m : Type → Type}

def standard [Monad m] : Engine m where
  lint ruleset submission := pure (ruleset.lintAll [(submission.name, submission.text)])
  repair text findings := pure (DocCheck.repair text findings)

end Engine

structure Outcome where
  /-- The findings of the text that the caller ends up with. -/
  validations : Results
  /-- The repaired text, if the pass was kept. -/
  fixedText : Option (List Char)
  /-- The number of findings of the submitted text. -/
  initialCount : Nat
  deriving DecidableEq, Repr

def Outcome.errorCount (outcome : Outcome) : Nat :=
  outcome.validations.errorCount

/-- Answers a request. With nothing to repair, the text is linted a second time all the same. -/
def Engine.answer {m : Type → Type} [Monad m] (engine : Engine m) (ruleset : Ruleset)
    (submission : Submission) (fix : Bool) : m Outcome := do
  let initial ← engine.lint ruleset submission
  let unchanged : Outcome := ⟨initial, none, initial.errorCount⟩
  if fix = false then
    return unchanged
  if initial.fixable = [] then
    let again ← engine.lint ruleset submission
    return { unchanged with validations := again }
  let fixed ← engine.repair submission.text initial.fixable
  if fixed = submission.text then
    return unchanged
  let validations ← engine.lint ruleset { submission with text := fixed }
  if initial.errorCount < validations.errorCount then
    return unchanged
  return ⟨validations, some fixed, initial.errorCount⟩

structure Report where
  validations : List Char
  fixedText : Option (List Char)
  errorCount : Nat
  deriving DecidableEq, Repr

def Outcome.report (outcome : Outcome) : Report :=
  ⟨outcome.validations.render, outcome.fixedText, outcome.errorCount⟩

end DocCheck
