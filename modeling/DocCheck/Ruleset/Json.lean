import DocCheck.Json.Reader
import DocCheck.Ruleset.Raw

set_option autoImplicit false

namespace DocCheck.RawRuleset

open Json (Reader Fault Value)
open Json.Reader

/-- Reads the entries of the ruleset. The field `default` may stand once; of other names the last
stands. A second `default` is noticed after its name and reported after what closes the object, if
that comes next. -/
def jsonEntries (steps : Nat) (first : Bool) (byDefault : Option Bool)
    (entries : List (String × Value)) : Reader RawRuleset := do
  match steps with
  | 0 => fail .endInObject
  | steps + 1 =>
    if ← hasEntry first then
      let key ← name
      if key = "default" then
        if byDefault.isSome then
          if (← peekToken) = some '\x7d' then
            skip
          fail (.duplicateField key)
        colon
        jsonEntries steps false (some (← bool)) entries
      else
        colon
        let content ← value (2 * (← size) + 2) (depthLimit - 1)
        jsonEntries steps false byDefault (Named.put key content entries)
    else
      skip
      return { enabledByDefault := byDefault.getD true, entries }

def jsonText : Reader RawRuleset := do
  match ← peekToken with
  | none => fail .endInValue
  | some '\x7b' =>
    skip
    let raw ← jsonEntries ((← size) + 1) true none []
    if (← peekToken).isSome then
      failAtNext .trailingCharacters
    return raw
  | some _ => unexpected "struct RawLintConfig"

def ofJson (text : String) : Except Fault RawRuleset :=
  (jsonText.run (.ofString text)).map Prod.fst

end DocCheck.RawRuleset
