import DocCheck.Mdx.Event

/-!
From events to a tree. Tags must be closed in the order in which they were opened, each inside of the
container that it was opened in.
-/

set_option autoImplicit false

namespace DocCheck.Mdx

inductive Frame where
  | container (construct : Construct) (start : Place)
  | tag
  | label
  deriving Repr

/-- The nodes built so far: those at the innermost open place, last first, and around it the open frames
with the nodes before them. -/
structure Tree where
  nodes : List Node
  frames : List (Frame × List Node)
  /-- The tags that are open, innermost first. -/
  tags : List Tag
  /-- A break has just been read that takes the end of its line with it. -/
  afterBreak : Bool
  deriving Repr

inductive Tree.Fault where
  | fault (fault : Mdx.Fault)
  /-- A tag is closed in the label of a link, but was opened outside of it. -/
  | crossedLabel
  deriving Repr

namespace Tree

def empty : Tree :=
  ⟨[], [], [], false⟩

def failAt {α : Type} (place : Place) (cause : Cause) : Except Tree.Fault α :=
  .error (.fault (.at place cause))

def add (tree : Tree) (node : Node) : Tree :=
  { tree with nodes := node :: tree.nodes }

/-- Text joins the text right before it. -/
def addText (tree : Tree) (span : Span) : Tree :=
  match tree.nodes with
  | .text (some before) :: rest => { tree with nodes := .text (some ⟨before.start, span.stop⟩) :: rest }
  | _ => tree.add (.text (some span))

def openFrame (tree : Tree) (frame : Frame) : Tree :=
  { tree with nodes := [], frames := (frame, tree.nodes) :: tree.frames }

/-- The nodes after the innermost frame has become an element. -/
def fold (nodes before : List Node) : List Node :=
  .element nodes.reverse :: before

/-- The tag that is still open where its container, or the text, ends. -/
def unclosed {α : Type} (tree : Tree) (place : Place) (container : Option Construct) :
    Except Tree.Fault α :=
  match tree.tags with
  | [] => .error .crossedLabel
  | opening :: _ => failAt place (.unclosed opening container)

/-- Ends a container, in which no tag may be open. -/
def exit (tree : Tree) (construct : Construct) (place : Place) : Except Tree.Fault Tree :=
  match tree.frames with
  | (.container _ _, before) :: frames =>
    .ok { tree with nodes := fold tree.nodes before, frames }
  | _ => tree.unclosed place (some construct)

/-- The nodes inside of a label, and what was open around it. Tags may still be open in it. -/
def leaveLabel (nodes : List Node) : List (Frame × List Node) → List Node × List Node × List (Frame × List Node)
  | [] => (nodes, [], [])
  | (.label, before) :: frames => (nodes, before, frames)
  | (_, before) :: frames => leaveLabel (fold nodes before) frames

/-- Ends a label. Nothing in the label of an image is text of the document. -/
def exitLabel (tree : Tree) (image : Bool) : Tree :=
  let (nodes, before, frames) := leaveLabel tree.nodes tree.frames
  { tree with nodes := fold (if image then [] else nodes) before, frames }

def closeTag (tree : Tree) (closing : Tag) : Except Tree.Fault Tree :=
  match tree.tags, tree.frames with
  | [], _ => .error .crossedLabel
  | opening :: tags, frames =>
    if opening.name ≠ closing.name then
      .error (.fault ⟨closing.start, some closing.stop, .wrongClosing closing opening⟩)
    else
      match frames with
      | (.tag, before) :: frames => .ok { tree with nodes := fold tree.nodes before, frames, tags }
      | (.container construct start, _) :: _ =>
        failAt closing.start (.closedInside closing construct start)
      | _ => .error .crossedLabel

def addTag (tree : Tree) (tag : Tag) : Except Tree.Fault Tree :=
  match tag.closing with
  | none =>
    if tag.selfClosing.isSome then .ok (tree.add (.element []))
    else .ok { tree.openFrame .tag with tags := tag :: tree.tags }
  | some slash =>
    if tree.tags.isEmpty then failAt slash .closingWithoutOpening
    else
      match tag.firstAttribute, tag.selfClosing with
      | some place, _ => failAt place .attributeInClosing
      | none, some place => failAt place .slashInClosing
      | none, none => tree.closeTag tag

/-- Whether line breaks are text here: they are unless a tag is the innermost that is open. -/
def keepsBreaks (tree : Tree) : Bool :=
  match tree.frames with
  | (.tag, _) :: _ => false
  | _ => true

def next (tree : Tree) : Event → Except Tree.Fault Tree
  | .enter construct place => .ok (tree.openFrame (.container construct place))
  | .exit construct place => tree.exit construct place
  | .enterLabel => .ok (tree.openFrame .label)
  | .exitLabel image => .ok (tree.exitLabel image)
  | .text span => .ok (tree.addText span)
  | .lineBreak span =>
    if tree.afterBreak then .ok { tree with afterBreak := false }
    else if tree.keepsBreaks then .ok (tree.addText span)
    else .ok tree
  | .hardBreak => .ok { tree.add (.element []) with afterBreak := true }
  | .leaf => .ok (tree.add (.element []))
  | .tag tag => tree.addTag tag

/-- The whole tree of a text that ends at `stop`. -/
def finish (tree : Tree) (stop : Place) : Except Tree.Fault Node :=
  if tree.frames.isEmpty then .ok (.element tree.nodes.reverse) else tree.unclosed stop none

end Tree

/-- The tree that events build, in a text that ends at `stop`. -/
def Node.ofEvents (events : List Event) (stop : Place) : Except Tree.Fault Node := do
  let tree ← events.foldlM Tree.next .empty
  tree.finish stop

end DocCheck.Mdx
