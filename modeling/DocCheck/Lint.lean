import DocCheck.Finding
import DocCheck.Named

set_option autoImplicit false

namespace DocCheck

/-- The findings of one rule on the lines where inline comments leave it on. -/
def ConfiguredRule.findings (configured : ConfiguredRule) (doc : Document) : List Finding :=
  ((configured.rule.check doc).filter fun violation =>
    !doc.suppresses violation.line configured.id).map (.ofViolation configured)

/-- The findings of a text: rule by rule, and those of a rule from the first line to the last. -/
def Ruleset.lint (ruleset : Ruleset) (text : List Char) : List Finding :=
  let doc := Document.ofText text
  ruleset.rules.flatMap (·.findings doc)

/-- Whether linting the text would need a repair longer than any text can be. -/
def Ruleset.overflows (ruleset : Ruleset) (text : List Char) : Bool :=
  let doc := Document.ofText text
  ruleset.rules.any fun configured =>
    match configured.rule with
    | .hardTabs options => options.overflows doc
    | _ => false

/-- The edits that findings carry, applied to the text. -/
def repair (text : List Char) (findings : List Finding) : List Char :=
  Edit.applyAll text (findings.filterMap Finding.edit)

/-- Findings by document. The documents stand in the order of their names. -/
structure Results where
  documents : List (String × List Finding) := []
  deriving DecidableEq, Repr

namespace Results

/-- Records the findings of a document, in the place of earlier ones. -/
def insert (results : Results) (name : String) (findings : List Finding) : Results :=
  ⟨Named.put name findings results.documents⟩

def get? (results : Results) (name : String) : Option (List Finding) :=
  results.documents.lookup name

def findings (results : Results) : List Finding :=
  results.documents.flatMap Prod.snd

def fixable (results : Results) : List Finding :=
  results.findings.filter Finding.isFixable

def errorCount (results : Results) : Nat :=
  results.documents.foldl (fun count entry => count + entry.2.length) 0

def isEmpty (results : Results) : Bool :=
  results.errorCount = 0

/-- One finding per line, without the names of the documents. -/
def render (results : Results) : List Char :=
  List.intercalate ['\n'] (results.findings.map Finding.render)

theorem foldl_add_length (documents : List (String × List Finding)) (count : Nat) :
    documents.foldl (fun count entry => count + entry.2.length) count =
      count + (documents.flatMap Prod.snd).length := by
  induction documents generalizing count with
  | nil => simp
  | cons entry rest ih => simp [ih, Nat.add_assoc]

theorem errorCount_eq_length_findings (results : Results) :
    results.errorCount = results.findings.length := by
  rw [errorCount, foldl_add_length, Nat.zero_add, findings]

end Results

/-- Lints named texts; of two with one name the last stands. -/
def Ruleset.lintAll (ruleset : Ruleset) (documents : List (String × List Char)) : Results :=
  documents.foldl (fun results entry => results.insert entry.1 (ruleset.lint entry.2)) {}

end DocCheck
