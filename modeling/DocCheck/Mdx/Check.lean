import DocCheck.Mdx.Tree

set_option autoImplicit false

namespace DocCheck.Mdx

inductive Refusal where
  | malformed (fault : Fault)
  | unterminated (line column : Nat)
  /-- A tag is opened outside of a label and closed in it; no verdict is reached. -/
  | crossedLabel
  deriving Repr

def Refusal.message : Refusal → String
  | malformed fault => fault.message
  | unterminated line column =>
    toString line ++ ":" ++ toString column ++ ": Unexpected end of JSX tag, expected a closing `>` " ++
      "or a matching closing tag"
  | crossedLabel => ""

def endOf (text : List Char) : Place :=
  ((linesOf text).getLast?.map Line.finish).getD ⟨0, 1, 1⟩

def parse (text : List Char) : Except Refusal Node :=
  match Event.ofText text with
  | .error fault => .error (.malformed fault)
  | .ok events =>
    match Node.ofEvents events (endOf text) with
    | .error (.fault fault) => .error (.malformed fault)
    | .error .crossedLabel => .error .crossedLabel
    | .ok tree => .ok tree

def check (text : List Char) : Except Refusal Unit :=
  (parse text).bind fun tree =>
    match Node.firstOpener? text [tree] with
    | none => .ok ()
    | some place =>
      let (line, column) := lineColumn text place
      .error (.unterminated line column)

/-- What is said of a text that was checked: nothing against it, or why it is refused. -/
def outcomeMessage : Option (List Char) → List Char
  | none => "Successfully parsed mdx".toList
  | some reason => "MDX parse failure: ".toList ++ reason

end DocCheck.Mdx
