import DocCheck.Mdx.Tag

set_option autoImplicit false

namespace DocCheck.Mdx

/-- What can hold tags: where it begins and ends, tags may be open or closed wrongly. -/
inductive Construct where
  | blockQuote
  | listItem
  | paragraph
  | heading
  | underlinedHeading
  | emphasis
  | strong
  deriving DecidableEq, Repr

def Construct.name : Construct → String
  | blockQuote => "BlockQuote"
  | listItem => "ListItem"
  | paragraph => "Paragraph"
  | heading => "HeadingAtx"
  | underlinedHeading => "HeadingSetext"
  | emphasis => "Emphasis"
  | strong => "Strong"

inductive Cause where
  | misfit (misfit : Tag.Misfit)
  /-- A line inside of a tag or an expression lacks the mark of the container. -/
  | unmarkedLine (inExpression : Bool)
  | closingWithoutOpening
  | attributeInClosing
  | slashInClosing
  /-- A tag is still open where `container`, or the text, ends. -/
  | unclosed (opening : Tag) (container : Option Construct)
  /-- A tag is closed inside of a container that began after it was opened. -/
  | closedInside (closing : Tag) (container : Construct) (start : Place)
  | wrongClosing (closing opening : Tag)
  deriving Repr

def Cause.rule : Cause → String
  | misfit m => if m.found.isNone then "unexpected-eof" else "unexpected-character"
  | unmarkedLine _ => "unexpected-lazy"
  | closingWithoutOpening => "unexpected-closing-slash"
  | attributeInClosing => "unexpected-attribute"
  | slashInClosing => "unexpected-self-closing-slash"
  | unclosed _ _ | closedInside _ _ _ | wrongClosing _ _ => "end-tag-mismatch"

def Cause.message : Cause → String
  | misfit m =>
    let (spot, expected) := m.message
    "Unexpected " ++ Tag.describe m.found ++ " " ++ spot ++ ", expected " ++ expected
  | unmarkedLine inExpression =>
    "Unexpected lazy line in " ++ (if inExpression then "expression" else "jsx") ++
      " in container, expected line to be prefixed with `>` when in a block quote, whitespace " ++
      "when in a list, etc"
  | closingWithoutOpening =>
    "Unexpected closing slash `/` in tag, expected an open tag first"
  | attributeInClosing => "Unexpected attribute in closing tag, expected the end of the tag"
  | slashInClosing =>
    "Unexpected self-closing slash `/` in closing tag, expected the end of the tag"
  | unclosed opening container =>
    "Expected a closing tag for `" ++ opening.render ++ "` (" ++ opening.start.render ++ ")" ++
      container.elim "" fun c => " before the end of `" ++ c.name ++ "`"
  | closedInside closing container start =>
    "Expected the closing tag `" ++ closing.render ++ "` either before the start of `" ++
      container.name ++ "` (" ++ start.render ++ "), or another opening tag after that start"
  | wrongClosing closing opening =>
    "Unexpected closing tag `" ++ closing.render ++ "`, expected corresponding closing tag for `" ++
      opening.render ++ "` (" ++ opening.start.render ++ ")"

/-- What is wrong, and where; two places show from where to where. -/
structure Fault where
  place : Place
  stop : Option Place
  cause : Cause
  deriving Repr

def Fault.message (fault : Fault) : String :=
  fault.place.render ++ fault.stop.elim "" (fun stop => "-" ++ stop.render) ++ ": " ++
    fault.cause.message ++ " (markdown-rs:" ++ fault.cause.rule ++ ")"

def Fault.at (place : Place) (cause : Cause) : Fault :=
  ⟨place, none, cause⟩

end DocCheck.Mdx
