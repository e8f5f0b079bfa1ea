import DocCheck.Mdx.Fault

set_option autoImplicit false

namespace DocCheck.Mdx

inductive Standalone where
  | tag (tag : Tag)
  | expression
  deriving Repr

namespace Standalone

inductive Phase where
  | between
  | inTag (reading : Tag.Reading)
  /-- Inside of braces, of which `depth` more are open. -/
  | inExpression (depth : Nat)
  deriving Repr

structure Reading where
  items : List Standalone
  phase : Phase
  deriving Repr

/-- `none` stands for text that does not fill its lines with tags and expressions. -/
abbrev Outcome :=
  Except Fault (Option Reading)

namespace Reading

def begin : Reading :=
  ⟨[], .between⟩

def ofTag (r : Reading) (place : Place) : Tag.Outcome → Outcome
  | .more reading => .ok (some { r with phase := .inTag reading })
  | .done read => .ok (some ⟨.tag read :: r.items, .between⟩)
  | .noTag => .ok none
  | .misfit m => .error (.at place (.misfit m))

def next (r : Reading) (cell : Cell) : Outcome :=
  match r.phase with
  | .between =>
    if cell.isBlank then .ok (some r)
    else if cell.char = '<' then .ok (some { r with phase := .inTag (.begin cell.place) })
    else if cell.char = '\x7b' then .ok (some { r with phase := .inExpression 0 })
    else .ok none
  | .inTag reading => r.ofTag cell.place (reading.next cell)
  | .inExpression depth =>
    if cell.char = '\x7b' then .ok (some { r with phase := .inExpression (depth + 1) })
    else if cell.char ≠ '\x7d' then .ok (some r)
    else
      match depth with
      | 0 => .ok (some ⟨.expression :: r.items, .between⟩)
      | depth + 1 => .ok (some { r with phase := .inExpression depth })

def nextAll (r : Reading) : List Cell → Outcome
  | [] => .ok (some r)
  | cell :: rest => do
    match ← r.next cell with
    | none => return none
    | some r => r.nextAll rest

def isComplete (r : Reading) : Bool :=
  match r.phase with
  | .between => true
  | _ => false

/-- Reads a line with the break at its end, unless all is complete there. -/
def nextLine (r : Reading) (line : Line) : Outcome := do
  match ← r.nextAll line.cells with
  | none => return none
  | some r =>
    if r.isComplete ∨ line.next?.isNone then return some r else r.next ⟨'\n', line.stop⟩

def stop (r : Reading) (place : Place) : Outcome :=
  match r.phase with
  | .between => .ok (some r)
  | .inTag reading => r.ofTag place reading.stop
  | .inExpression depth => .error (.at place (.misfit ⟨.expression depth, none⟩))

/-- Whether an expression, perhaps in a tag, is being read. -/
def inExpression (r : Reading) : Bool :=
  match r.phase with
  | .inExpression _ => true
  | .inTag ⟨.expression _, _⟩ => true
  | _ => false

end Reading

end Standalone

end DocCheck.Mdx
