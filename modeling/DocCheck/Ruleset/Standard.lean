import DocCheck.Ruleset.Raw

set_option autoImplicit false

namespace DocCheck.Ruleset

/-- Every rule with its default options. -/
def all : Ruleset where
  rules :=
    [⟨.headingIncrement {}, .error⟩, ⟨.trailingSpaces {}, .error⟩, ⟨.hardTabs {}, .error⟩,
      ⟨.multipleBlanks {}, .error⟩, ⟨.lineLength {}, .error⟩, ⟨.missingSpace {}, .error⟩,
      ⟨.multipleSpace {}, .error⟩, ⟨.headingStart {}, .error⟩, ⟨.singleTitle {}, .error⟩,
      ⟨.trailingPunctuation {}, .error⟩, ⟨.fenceLanguage {}, .error⟩, ⟨.finalNewline {}, .error⟩]
  ordered := by decide

/-- The ruleset used when none is given: lines of any length, further titles only a warning, and only
ASCII punctuation. -/
def embedded : Ruleset where
  rules :=
    [⟨.headingIncrement {}, .error⟩, ⟨.trailingSpaces {}, .error⟩, ⟨.hardTabs {}, .error⟩,
      ⟨.multipleBlanks {}, .error⟩, ⟨.missingSpace {}, .error⟩, ⟨.multipleSpace {}, .error⟩,
      ⟨.headingStart {}, .error⟩, ⟨.singleTitle {}, .warning⟩,
      ⟨.trailingPunctuation { punctuation := ['.', ',', ';', ':', '!'] }, .error⟩,
      ⟨.fenceLanguage {}, .error⟩, ⟨.finalNewline {}, .error⟩]
  ordered := by decide

end DocCheck.Ruleset
