import DocCheck.Rule.Blocks
import DocCheck.Rule.Headings
import DocCheck.Rule.Whitespace

set_option autoImplicit false

namespace DocCheck

inductive Rule where
  | headingIncrement (options : HeadingIncrement)
  | trailingSpaces (options : TrailingSpaces)
  | hardTabs (options : HardTabs)
  | multipleBlanks (options : MultipleBlanks)
  | lineLength (options : LineLength)
  | missingSpace (options : MissingSpace)
  | multipleSpace (options : MultipleSpace)
  | headingStart (options : HeadingStart)
  | singleTitle (options : SingleTitle)
  | trailingPunctuation (options : TrailingPunctuation)
  | fenceLanguage (options : FenceLanguage)
  | finalNewline (options : FinalNewline)
  deriving DecidableEq, Repr

namespace Rule

def id : Rule → RuleId
  | headingIncrement _ => .headingIncrement
  | trailingSpaces _ => .trailingSpaces
  | hardTabs _ => .hardTabs
  | multipleBlanks _ => .multipleBlanks
  | lineLength _ => .lineLength
  | missingSpace _ => .missingSpace
  | multipleSpace _ => .multipleSpace
  | headingStart _ => .headingStart
  | singleTitle _ => .singleTitle
  | trailingPunctuation _ => .trailingPunctuation
  | fenceLanguage _ => .fenceLanguage
  | finalNewline _ => .finalNewline

/-- The rule's violations, from the first line to the last. Inline comments play no part. -/
def check (rule : Rule) (doc : Document) : List Violation :=
  match rule with
  | headingIncrement options => options.check doc
  | trailingSpaces options => options.check doc
  | hardTabs options => options.check doc
  | multipleBlanks options => options.check doc
  | lineLength options => options.check doc
  | missingSpace options => options.check doc
  | multipleSpace options => options.check doc
  | headingStart options => options.check doc
  | singleTitle options => options.check doc
  | trailingPunctuation options => options.check doc
  | fenceLanguage options => options.check doc
  | finalNewline options => options.check doc

end Rule

end DocCheck
