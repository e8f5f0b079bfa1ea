import DocCheck.Mdx.Check

set_option autoImplicit false

namespace DocCheck.Mdx

open Text

/-- A stretch of the source between two places, which are between characters and in order. -/
def Span.Covers (source : List Char) (span : Span) (raw : List Char) : Prop :=
  ∃ front back, source = front ++ (raw ++ back) ∧ byteLength front = span.start ∧
    byteLength front + byteLength raw = span.stop

theorem Span.slice?_eq_some_iff {source raw : List Char} {span : Span} :
    slice? span.start span.stop source = some raw ↔ span.Covers source raw := by
  unfold slice? Covers
  constructor
  · intro sliced
    split at sliced
    · rename_i le
      obtain ⟨rest, dropped, taken⟩ := Option.bind_eq_some_iff.1 sliced
      obtain ⟨front, split, start⟩ := dropBytes?_eq_some_iff.1 dropped
      obtain ⟨⟨back, rest_eq⟩, length⟩ := takeBytes?_eq_some_iff.1 taken
      exact ⟨front, back, by rw [split, rest_eq], start, by omega⟩
    · cases sliced
  · rintro ⟨front, back, split, start, stop⟩
    have dropped : dropBytes? span.start source = some (raw ++ back) :=
      dropBytes?_eq_some_iff.2 ⟨front, split, start⟩
    have taken : takeBytes? (span.stop - span.start) (raw ++ back) = some raw :=
      takeBytes?_eq_some_iff.2 ⟨List.prefix_append .., by omega⟩
    rw [if_pos (by omega), dropped, Option.bind_some, taken]

namespace Node

mutual

/-- The nodes of a tree in document order: a node, and then the nodes of each of its children. -/
def preorder : Node → List Node
  | .text span => [.text span]
  | .element children => .element children :: preorderAll children

def preorderAll : List Node → List Node
  | [] => []
  | node :: rest => node.preorder ++ preorderAll rest

end

theorem preorderAll_append (front back : List Node) :
    preorderAll (front ++ back) = preorderAll front ++ preorderAll back := by
  induction front with
  | nil => rfl
  | cons node front ih => rw [List.cons_append, preorderAll, preorderAll, ih, List.append_assoc]

theorem preorderAll_singleton (tree : Node) : preorderAll [tree] = tree.preorder := by
  rw [preorderAll, preorderAll, List.append_nil]

/-- Taking a node off the stack takes it off the nodes still to come, once its children are put in its
place. -/
theorem preorderAll_element (children rest : List Node) :
    preorderAll (.element children :: rest) =
      .element children :: preorderAll (children ++ rest) := by
  rw [preorderAll, preorder, preorderAll_append, List.cons_append]

theorem preorderAll_text (span : Option Span) (rest : List Node) :
    preorderAll (.text span :: rest) = .text span :: preorderAll rest := by
  rw [preorderAll, preorder, List.singleton_append]

def opener? (source : List Char) : Node → Option Nat
  | .text span => span.bind (Span.opener? source)
  | .element _ => none

/-- The stack holds the trees whose nodes are still to come, the next one on top. -/
theorem firstOpener?_eq_findSome? (source : List Char) (stack : List Node) :
    firstOpener? source stack = (preorderAll stack).findSome? (opener? source) := by
  -- Along the run of the search: each step takes one tree off the stack.
  fun_induction firstOpener? source stack with
  | case1 => rfl
  | case2 span rest place found =>
    have opens : opener? source (.text span) = some place := found
    rw [preorderAll_text, List.findSome?_cons, opens]
  | case3 span rest none ih =>
    have silent : opener? source (.text span) = .none := none
    rw [preorderAll_text, List.findSome?_cons, silent, ih]
  | case4 children rest ih =>
    have silent : opener? source (.element children) = .none := rfl
    rw [preorderAll_element, List.findSome?_cons, silent, ih]

/-- The node is text that stands in the source, and the first bracket in it that begins a tag is at
`place` in the source. -/
def OpensAt (source : List Char) (node : Node) (place : Nat) : Prop :=
  ∃ span raw offset, node = .text (some span) ∧ span.Covers source raw ∧
    Mdx.opener? raw = some offset ∧ place = span.start + offset

theorem opener?_eq_some_iff {source : List Char} {node : Node} {place : Nat} :
    node.opener? source = some place ↔ node.OpensAt source place := by
  constructor
  · intro found
    cases node with
    | element children => cases found
    | text stretch =>
      obtain ⟨span, rfl, inside⟩ := Option.bind_eq_some_iff.1 found
      obtain ⟨offset, sliced, rfl⟩ := Option.map_eq_some_iff.1 inside
      obtain ⟨raw, slice, opens⟩ := Option.bind_eq_some_iff.1 sliced
      exact ⟨span, raw, offset, rfl, Span.slice?_eq_some_iff.1 slice, opens, rfl⟩
  · rintro ⟨span, raw, offset, rfl, covers, opens, rfl⟩
    show Span.opener? source span = _
    rw [Span.opener?, Span.slice?_eq_some_iff.2 covers, Option.bind_some, opens, Option.map_some]

theorem opener?_eq_none_iff {source : List Char} {node : Node} :
    node.opener? source = none ↔ ∀ place, ¬ node.OpensAt source place := by
  simp only [Option.eq_none_iff_forall_ne_some, Ne, opener?_eq_some_iff]

/-- Neither the depth at which the first tag stands nor that it is not the first in the source plays a
part. -/
example : firstOpener? "a <b <c".toList
    [.element [.text none, .element [.text (some ⟨0, 2⟩), .text (some ⟨4, 7⟩)],
      .text (some ⟨0, 7⟩)]] = some 5 := by
  rw [firstOpener?_eq_findSome?]
  decide +kernel

end Node

end DocCheck.Mdx
