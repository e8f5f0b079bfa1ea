import DocCheck.Yaml.Scan

set_option autoImplicit false

namespace DocCheck.Yaml

inductive Node where
  | scalar (tag : Option (List Char)) (plain : Bool) (text : List Char)
  | sequence (elements : List Node)
  | mapping (entries : List (Node × Node))
  deriving Inhabited, Repr

/-- What stands where nothing is written. -/
def Node.empty (tag : Option (List Char)) : Node :=
  .scalar tag true []

/-- What is left of the tokens, what handles stand for, and the nodes under their anchors; a node that is
still being read has no value yet. -/
structure Builder where
  tokens : List Token
  handles : List (List Char × List Char)
  anchors : List (List Char × Option Node)

abbrev Build := StateT Builder Option

namespace Build

def fail {α : Type} : Build α := fun _ =>
  none

def peek : Build Token := fun s =>
  s.tokens.head?.map (·, s)

def skip : Build Unit :=
  modify fun s => { s with tokens := s.tokens.tail }

def atOneOf (tokens : List Token) : Build Bool := do
  return tokens.contains (← peek)

/-- The tag that a handle and a suffix make. A word between exclamation marks must have been declared. -/
def resolveTag (handle suffix : List Char) : Build (List Char) := do
  match (← get).handles.lookup handle with
  | some expansion => return expansion ++ suffix
  | none =>
    if handle = ['!', '!'] then
      return "tag:yaml.org,2002:".toList ++ suffix
    if 2 ≤ handle.length then
      fail
    return handle ++ suffix

def takeTag : Build (Option (List Char)) := do
  match ← peek with
  | .tag handle suffix => skip; return some (← resolveTag handle suffix)
  | _ => return none

def takeAnchor : Build (Option (List Char)) := do
  match ← peek with
  | .anchor name =>
    skip
    modify fun s => { s with anchors := (name, none) :: s.anchors }
    return some name
  | _ => return none

/-- The tag and the anchor of a node, in either order. -/
def takeProperties : Build (Option (List Char) × Option (List Char)) := do
  match ← takeAnchor with
  | some name => return (← takeTag, some name)
  | none =>
    match ← takeTag with
    | some tag => return (some tag, ← takeAnchor)
    | none => return (none, none)

/-- Puts a node under its anchor, unless the name has been given to another since. -/
def register (anchor : Option (List Char)) (node : Node) : Build Unit :=
  modify fun s =>
    match anchor with
    | none => s
    | some name =>
      match s.anchors.lookup name with
      | some none => { s with anchors := (name, some node) :: s.anchors }
      | _ => s

def named (name : List Char) : Build Node := do
  match (← get).anchors.lookup name with
  | some (some node) => return node
  | _ => fail

mutual

/-- Reads a node. Block collections may stand where `block` says so, and the elements of a sequence need
no indentation where `flat` says so. -/
def node (steps : Nat) (block flat : Bool) : Build Node := do
  match steps with
  | 0 => fail
  | steps + 1 =>
    match ← peek with
    | .alias name => skip; named name
    | _ =>
      let (tag, anchor) ← takeProperties
      let node ← content steps block flat tag anchor.isSome
      register anchor node
      return node

/-- Reads a node after its tag and anchor. -/
def content (steps : Nat) (block flat : Bool) (tag : Option (List Char)) (anchored : Bool) :
    Build Node := do
  match steps with
  | 0 => fail
  | steps + 1 =>
    match ← peek with
    | .scalar plain text => skip; return .scalar tag plain text
    | .flowSequenceStart => skip; return .sequence (← flowElements steps true [])
    | .flowMappingStart => skip; return .mapping (← flowEntries steps true [])
    | token =>
      if token = .blockEntry ∧ flat then
        return .sequence (← flatElements steps [])
      else if token = .blockSequenceStart ∧ block then
        skip
        return .sequence (← blockElements steps [])
      else if token = .blockMappingStart ∧ block then
        skip
        return .mapping (← blockEntries steps [])
      else if tag.isSome ∨ anchored then
        return .empty tag
      else
        fail

/-- Reads a node, or nothing in front of one of `ends`. -/
def nodeOrEmpty (steps : Nat) (block flat : Bool) (ends : List Token) : Build Node := do
  match steps with
  | 0 => fail
  | steps + 1 => if ← atOneOf ends then return .empty none else node steps block flat

/-- Reads the elements of a block sequence after those of `before`, last first, and its end. -/
def blockElements (steps : Nat) (before : List Node) : Build (List Node) := do
  match steps with
  | 0 => fail
  | steps + 1 =>
    match ← peek with
    | .blockEnd => skip; return before.reverse
    | .blockEntry =>
      skip
      let element ← nodeOrEmpty steps true false [.blockEntry, .blockEnd]
      blockElements steps (element :: before)
    | _ => fail

/-- Reads the elements of a sequence that is indented no further than the name it belongs to. -/
def flatElements (steps : Nat) (before : List Node) : Build (List Node) := do
  match steps with
  | 0 => fail
  | steps + 1 =>
    match ← peek with
    | .blockEntry =>
      skip
      let element ← nodeOrEmpty steps true false [.blockEntry, .key, .value, .blockEnd]
      flatElements steps (element :: before)
    | _ => return before.reverse

def blockEntries (steps : Nat) (before : List (Node × Node)) : Build (List (Node × Node)) := do
  match steps with
  | 0 => fail
  | steps + 1 =>
    let ends : List Token := [.key, .value, .blockEnd]
    match ← peek with
    | .blockEnd => skip; return before.reverse
    | .key =>
      skip
      let name ← nodeOrEmpty steps true true ends
      let content ← valueOrEmpty steps true ends
      blockEntries steps ((name, content) :: before)
    | .value =>
      let content ← valueOrEmpty steps true ends
      blockEntries steps ((.empty none, content) :: before)
    | _ => fail

/-- Reads a colon and the node after it, either of which may be missing. -/
def valueOrEmpty (steps : Nat) (block : Bool) (ends : List Token) : Build Node := do
  match steps with
  | 0 => fail
  | steps + 1 =>
    match ← peek with
    | .value => skip; nodeOrEmpty steps block block ends
    | _ => return .empty none

/-- Reads the elements of a flow sequence and its end. A single entry of a mapping may stand for a
mapping. -/
def flowElements (steps : Nat) (first : Bool) (before : List Node) : Build (List Node) := do
  match steps with
  | 0 => fail
  | steps + 1 =>
    match ← peek with
    | .flowSequenceEnd => skip; return before.reverse
    | token =>
      if ¬ first then
        if token = .flowEntry then skip else fail
      let ends : List Token := [.flowEntry, .flowSequenceEnd]
      match ← peek with
      | .flowSequenceEnd => skip; return before.reverse
      | .key =>
        skip
        let name ← nodeOrEmpty steps false false (.value :: ends)
        let content ← valueOrEmpty steps false ends
        flowElements steps false (.mapping [(name, content)] :: before)
      | _ =>
        let element ← node steps false false
        flowElements steps false (element :: before)

def flowEntries (steps : Nat) (first : Bool) (before : List (Node × Node)) :
    Build (List (Node × Node)) := do
  match steps with
  | 0 => fail
  | steps + 1 =>
    match ← peek with
    | .flowMappingEnd => skip; return before.reverse
    | token =>
      if ¬ first then
        if token = .flowEntry then skip else fail
      let ends : List Token := [.flowEntry, .flowMappingEnd]
      match ← peek with
      | .flowMappingEnd => skip; return before.reverse
      | .key =>
        skip
        let name ← nodeOrEmpty steps false false (.value :: ends)
        let content ← valueOrEmpty steps false ends
        flowEntries steps false ((name, content) :: before)
      | .value =>
        let content ← valueOrEmpty steps false ends
        flowEntries steps false ((.empty none, content) :: before)
      | _ =>
        let name ← node steps false false
        flowEntries steps false ((name, .empty none) :: before)

end

/-- Reads directives and the line of dashes that must follow. No handle may be declared twice, nor the
version. -/
def directives (steps : Nat) (version : Bool) : Build Unit := do
  match steps with
  | 0 => fail
  | steps + 1 =>
    match ← peek with
    | .versionDirective =>
      if version then
        fail
      skip
      directives steps true
    | .tagDirective handle expansion =>
      if ((← get).handles.lookup handle).isSome then
        fail
      skip
      modify fun s => { s with handles := (handle, expansion) :: s.handles }
      directives steps version
    | .documentStart => skip
    | _ => fail

def skipDocumentEnds (steps : Nat) : Build Unit := do
  match steps with
  | 0 => pure ()
  | steps + 1 => if ← atOneOf [.documentEnd] then skip; skipDocumentEnds steps

/-- Reads the first document; nothing if there is none. -/
def document : Build Node := do
  let size := (← get).tokens.length
  skipDocumentEnds size
  let steps := 4 * size + 4
  match ← peek with
  | .streamEnd => return .empty none
  | .versionDirective => directives steps false; explicitContent steps
  | .tagDirective _ _ => directives steps false; explicitContent steps
  | .documentStart => skip; explicitContent steps
  | _ => node steps true false
where
  explicitContent (steps : Nat) : Build Node := do
    match ← peek with
    | .versionDirective => return .empty none
    | .tagDirective _ _ => return .empty none
    | _ => nodeOrEmpty steps true false [.documentStart, .documentEnd, .streamEnd]

/-- Whether a further document begins after one whose end was written (`closed`) or not. What is
ill-formed before it begins does not count. -/
def another (closed : Bool) : List Token → Bool
  | [] => false
  | .streamEnd :: _ => false
  | .documentEnd :: rest => another closed rest
  | .documentStart :: rest => !rest.isEmpty
  | .versionDirective :: rest => another false rest
  | .tagDirective _ _ :: rest => another false rest
  | _ => closed

end Build

/-- The one document of a text. Directives must not follow it unless its end is written, and no other
document may. -/
def Node.ofText? (text : List Char) : Option Node := do
  let (node, s) ← Build.document.run ⟨Token.ofText text, [], []⟩
  match s.tokens with
  | [] => none
  | .versionDirective :: _ => none
  | .tagDirective _ _ :: _ => none
  | .documentEnd :: rest => if Build.another true rest then none else some node
  | tokens => if Build.another false tokens then none else some node

end DocCheck.Yaml
