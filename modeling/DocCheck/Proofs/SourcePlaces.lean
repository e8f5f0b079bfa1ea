import DocCheck.Mdx.Node
import Mathlib.Data.Prod.Lex
import Mathlib.Data.Set.Operations

set_option autoImplicit false

namespace DocCheck.Mdx

open Text

/-- A place between two characters of the source, or at one of its ends. -/
def IsBoundary (source : List Char) (place : Nat) : Prop :=
  ∃ front, front <+: source ∧ byteLength front = place

/-- The number of bytes before a segment: those of the segments before it, and of the line feed behind
each of them. -/
def segmentStart : List (List Char) → Nat → Nat
  | _, 0 => 0
  | [], _ + 1 => 0
  | segment :: segments, index + 1 => byteLength segment + 1 + segmentStart segments index

/-- The place stands so many characters into the segment with this index. -/
def StandsAt (segments : List (List Char)) (index count place : Nat) : Prop :=
  ∃ segment, segments[index]? = some segment ∧ count ≤ segment.length ∧
    place = segmentStart segments index + byteLength (segment.take count)

def lastSegment (front : List Char) : List Char :=
  tailOf (· ≠ '\n') front

theorem lastSegment_append {rest : List Char} (unbroken : '\n' ∉ rest) (front : List Char) :
    lastSegment (front ++ rest) = lastSegment front ++ rest := by
  have others : ∀ c ∈ rest.reverse, decide (c ≠ '\n') = true := by
    intro c found
    exact decide_eq_true (ne_of_mem_of_not_mem (List.mem_reverse.1 found) unbroken)
  unfold lastSegment tailOf
  rw [List.reverse_append, List.takeWhile_append_of_pos others, List.reverse_append,
    List.reverse_reverse]

theorem lineColumn_of_isPrefix {source front : List Char} (isFront : front <+: source) :
    lineColumn source (byteLength front) =
      (front.count '\n' + 1, (lastSegment front).length + 1) := by
  have taken : takeBytes? (byteLength front) source = some front :=
    takeBytes?_eq_some_iff.2 ⟨isFront, rfl⟩
  rw [lineColumn, taken, lastSegment, tailOf, List.length_reverse]
  rfl

/-- What is between two places either has a line feed, which makes the later line, or stands in one line,
which makes the later column. -/
theorem lineColumn_lt_of_isPrefix {source front rest : List Char} (isFront : front ++ rest <+: source)
    (nonempty : rest ≠ []) :
    toLex (lineColumn source (byteLength front)) <
      toLex (lineColumn source (byteLength (front ++ rest))) := by
  have isShorter : front <+: source := (List.prefix_append front rest).trans isFront
  rw [lineColumn_of_isPrefix isShorter, lineColumn_of_isPrefix isFront, Prod.Lex.toLex_lt_toLex,
    List.count_append]
  by_cases broken : '\n' ∈ rest
  · left
    have := List.count_pos_iff.2 broken
    show front.count '\n' + 1 < front.count '\n' + rest.count '\n' + 1
    omega
  · right
    have := List.length_pos_iff.2 nonempty
    rw [List.count_eq_zero.2 broken, lastSegment_append broken, List.length_append]
    exact ⟨rfl, by show _ + 1 < _ + _ + 1; omega⟩

theorem lineColumn_lt {source : List Char} {a b : Nat} (boundaryA : IsBoundary source a)
    (boundaryB : IsBoundary source b) (less : a < b) :
    toLex (lineColumn source a) < toLex (lineColumn source b) := by
  obtain ⟨front, isFront, rfl⟩ := boundaryA
  obtain ⟨longer, isLonger, rfl⟩ := boundaryB
  rcases List.prefix_or_prefix_of_prefix isFront isLonger with ⟨rest, rfl⟩ | ⟨rest, rfl⟩
  · refine lineColumn_lt_of_isPrefix isLonger ?_
    rintro rfl
    rw [List.append_nil] at less
    exact absurd less (Nat.lt_irrefl _)
  · rw [byteLength_append] at less
    omega

/-- Segments with a line feed behind each. -/
def closed (segments : List (List Char)) : List Char :=
  segments.flatMap (· ++ ['\n'])

theorem closed_cons (segment : List Char) (segments : List (List Char)) :
    closed (segment :: segments) = segment ++ '\n' :: closed segments := by
  rw [closed, List.flatMap_cons, List.append_assoc]
  rfl

theorem byteLength_closed_take (segments : List (List Char)) (index : Nat) :
    byteLength (closed (segments.take index)) = segmentStart segments index := by
  fun_induction segmentStart segments index with
  | case1 => rfl
  | case2 => rfl
  | case3 segment segments index ih =>
    have feed : '\n'.utf8Size = 1 := rfl
    rw [List.take_succ_cons, closed_cons, byteLength_append, byteLength_cons, ih, feed, Nat.add_assoc]

theorem exists_eq_closed_append (text : List Char) :
    ∃ segments last, text = closed segments ++ last ∧
      ∀ segment ∈ segments ++ [last], '\n' ∉ segment := by
  induction text with
  | nil => exact ⟨[], [], rfl, by simp⟩
  | cons c text ih =>
    obtain ⟨segments, last, rfl, unbroken⟩ := ih
    by_cases feed : c = '\n'
    · refine ⟨[] :: segments, last, by rw [closed_cons, feed]; rfl, ?_⟩
      rw [List.cons_append, List.forall_mem_cons]
      exact ⟨List.not_mem_nil, unbroken⟩
    · have longer {segment : List Char} (h : '\n' ∉ segment) : '\n' ∉ c :: segment :=
        List.not_mem_cons_of_ne_of_not_mem (Ne.symm feed) h
      -- The character joins the first segment, which is the last one where none is closed.
      cases segments with
      | nil =>
        refine ⟨[], c :: last, rfl, ?_⟩
        rw [List.nil_append, List.forall_mem_singleton] at unbroken ⊢
        exact longer unbroken
      | cons segment segments =>
        refine ⟨(c :: segment) :: segments, last, by rw [closed_cons, closed_cons]; rfl, ?_⟩
        rw [List.cons_append, List.forall_mem_cons] at unbroken ⊢
        exact ⟨longer unbroken.1, unbroken.2⟩

theorem splitOn_closed_append {segments : List (List Char)}
    (unbroken : ∀ segment ∈ segments, '\n' ∉ segment) (rest : List Char) :
    (closed segments ++ rest).splitOn '\n' = segments ++ rest.splitOn '\n' := by
  induction segments with
  | nil => rfl
  | cons segment segments ih =>
    obtain ⟨first, others⟩ := List.forall_mem_cons.1 unbroken
    rw [closed_cons, List.append_assoc, List.cons_append,
      List.splitOn_append_cons_self_of_not_mem first, ih others, List.cons_append]

/-- The first segment goes on up to the first line feed. -/
theorem exists_splitOn_append {front : List Char} (unbroken : '\n' ∉ front) (back : List Char) :
    ∃ more others, (front ++ back).splitOn '\n' = (front ++ more) :: others := by
  by_cases broken : '\n' ∈ back
  · obtain ⟨more, rest, rfl, first⟩ := List.eq_append_cons_of_mem broken
    refine ⟨more, rest.splitOn '\n', ?_⟩
    rw [← List.append_assoc]
    exact List.splitOn_append_cons_self_of_not_mem (by simp [unbroken, first]) rest
  · exact ⟨back, [], List.splitOn_eq_singleton (by simp [unbroken, broken])⟩

theorem lastSegment_closed (segments : List (List Char)) : lastSegment (closed segments) = [] := by
  rcases List.eq_nil_or_concat segments with rfl | ⟨segments, segment, rfl⟩
  · rfl
  · simp [lastSegment, tailOf, closed]

theorem count_closed {segments : List (List Char)}
    (unbroken : ∀ segment ∈ segments, '\n' ∉ segment) :
    (closed segments).count '\n' = segments.length := by
  induction segments with
  | nil => rfl
  | cons segment segments ih =>
    obtain ⟨first, others⟩ := List.forall_mem_cons.1 unbroken
    rw [closed_cons, List.count_append, List.count_cons_self, List.count_eq_zero.2 first, ih others,
      Nat.zero_add, List.length_cons]

theorem lineColumn_closed_append {source last : List Char} {segments : List (List Char)}
    (unbroken : ∀ segment ∈ segments, '\n' ∉ segment) (unbrokenLast : '\n' ∉ last)
    (isFront : closed segments ++ last <+: source) :
    lineColumn source (byteLength (closed segments ++ last)) =
      (segments.length + 1, last.length + 1) := by
  rw [lineColumn_of_isPrefix isFront, List.count_append, count_closed unbroken,
    List.count_eq_zero.2 unbrokenLast, lastSegment_append unbrokenLast, lastSegment_closed]
  rfl

theorem IsBoundary.standsAt {source : List Char} {place : Nat} (boundary : IsBoundary source place) :
    ∃ index count, lineColumn source place = (index + 1, count + 1) ∧
      StandsAt (source.splitOn '\n') index count place := by
  obtain ⟨front, isFront, rfl⟩ := boundary
  obtain ⟨segments, last, rfl, unbroken⟩ := exists_eq_closed_append front
  obtain ⟨unbroken, unbrokenLast⟩ := List.forall_mem_append.1 unbroken
  rw [List.forall_mem_singleton] at unbrokenLast
  refine ⟨segments.length, last.length, lineColumn_closed_append unbroken unbrokenLast isFront, ?_⟩
  -- What follows the place can make the segment it stands in longer.
  obtain ⟨back, rfl⟩ := isFront
  obtain ⟨more, others, split⟩ := exists_splitOn_append unbrokenLast back
  rw [List.append_assoc, splitOn_closed_append unbroken, split]
  refine ⟨last ++ more, ?_, ?_, ?_⟩
  · rw [List.getElem?_append_right (Nat.le_refl _), Nat.sub_self]
    rfl
  · rw [List.length_append]
    exact Nat.le_add_right ..
  · rw [← byteLength_closed_take, List.take_left, List.take_left, byteLength_append]

theorem closed_take_append_isPrefix {segments : List (List Char)} {last segment : List Char}
    {index : Nat} (found : (segments ++ [last])[index]? = some segment) :
    closed ((segments ++ [last]).take index) ++ segment <+: closed segments ++ last := by
  induction segments generalizing index with
  | nil =>
    cases index with
    | zero =>
      obtain rfl := Option.some.inj found
      exact List.prefix_rfl
    | succ index => cases found
  | cons first segments ih =>
    rw [closed_cons, List.append_assoc, List.cons_append]
    cases index with
    | zero =>
      obtain rfl := Option.some.inj found
      exact List.prefix_append ..
    | succ index =>
      rw [List.cons_append, List.take_succ_cons, closed_cons, List.append_assoc, List.cons_append]
      exact (List.prefix_append_right_inj _).2 (List.cons_prefix_cons.2 ⟨rfl, ih found⟩)

/-- The segments before the one the place stands in, closed, and what is before it in that one, make up
the text before the place. -/
theorem StandsAt.lineColumn_eq {source : List Char} {index count place : Nat}
    (stands : StandsAt (source.splitOn '\n') index count place) :
    IsBoundary source place ∧ lineColumn source place = (index + 1, count + 1) := by
  obtain ⟨segments, last, rfl, unbroken⟩ := exists_eq_closed_append source
  obtain ⟨before, final⟩ := List.forall_mem_append.1 unbroken
  rw [splitOn_closed_append before, List.splitOn_eq_singleton (final last List.mem_cons_self)]
    at stands
  obtain ⟨segment, found, within, rfl⟩ := stands
  obtain ⟨inside, -⟩ := List.getElem?_eq_some_iff.1 found
  have isFront : closed ((segments ++ [last]).take index) ++ segment.take count <+:
      closed segments ++ last :=
    ((List.prefix_append_right_inj _).2 (List.take_prefix ..)).trans
      (closed_take_append_isPrefix found)
  have whole : ∀ part ∈ (segments ++ [last]).take index, '\n' ∉ part :=
    fun part member => unbroken part (List.mem_of_mem_take member)
  have begun : '\n' ∉ segment.take count :=
    fun member => unbroken segment (List.mem_of_getElem? found) (List.mem_of_mem_take member)
  have position := lineColumn_closed_append whole begun isFront
  rw [List.length_take_of_le (Nat.le_of_lt inside), List.length_take_of_le within] at position
  rw [← byteLength_closed_take, ← byteLength_append]
  exact ⟨⟨_, isFront, rfl⟩, position⟩

/-- Different places have different lines and columns, and later places have later ones, in the order
that compares lines first. A place has this line and column exactly when the segment with the number of
the line begins as many bytes before it as the first characters of the segment have, one fewer than the
column. The segments are what stands between the line feeds. -/
theorem lineColumn_recovers_place (source : List Char) :
    Set.InjOn (lineColumn source) {place | IsBoundary source place} ∧
    StrictMonoOn (fun place => toLex (lineColumn source place)) {place | IsBoundary source place} ∧
    ∀ place line column,
      IsBoundary source place ∧ lineColumn source place = (line, column) ↔
        0 < line ∧ 0 < column ∧ StandsAt (source.splitOn '\n') (line - 1) (column - 1) place := by
  refine ⟨fun a boundaryA b boundaryB same => ?_, fun a boundaryA b boundaryB => ?_, ?_⟩
  · rcases Nat.lt_trichotomy a b with less | eq | less
    · exact absurd (congrArg toLex same) (lineColumn_lt boundaryA boundaryB less).ne
    · exact eq
    · exact absurd (congrArg toLex same).symm (lineColumn_lt boundaryB boundaryA less).ne
  · exact lineColumn_lt boundaryA boundaryB
  · intro place line column
    constructor
    · rintro ⟨boundary, position⟩
      obtain ⟨index, count, position', stands⟩ := boundary.standsAt
      obtain ⟨rfl, rfl⟩ := Prod.mk.inj (position.symm.trans position')
      exact ⟨Nat.succ_pos _, Nat.succ_pos _, stands⟩
    · rintro ⟨positive, positive', stands⟩
      obtain ⟨boundary, position⟩ := stands.lineColumn_eq
      rw [Nat.sub_add_cancel positive, Nat.sub_add_cancel positive'] at position
      exact ⟨boundary, position⟩

/-- The second place is right behind a line feed. Two characters of the last line are before the last
place, and they have four bytes. -/
theorem lineColumn_recovers_place_multibyte :
    IsBoundary "a\u00E9\n\n\u20ACb".toList 4 ∧ IsBoundary "a\u00E9\n\n\u20ACb".toList 9 ∧
    lineColumn "a\u00E9\n\n\u20ACb".toList 4 = (2, 1) ∧
    lineColumn "a\u00E9\n\n\u20ACb".toList 4 ≠ lineColumn "a\u00E9\n\n\u20ACb".toList 9 ∧
    toLex (lineColumn "a\u00E9\n\n\u20ACb".toList 4) <
      toLex (lineColumn "a\u00E9\n\n\u20ACb".toList 9) ∧
    StandsAt ["a\u00E9".toList, [], "\u20ACb".toList] 2 2 9 := by
  obtain ⟨injective, increasing, recovered⟩ :=
    lineColumn_recovers_place "a\u00E9\n\n\u20ACb".toList
  have early : IsBoundary "a\u00E9\n\n\u20ACb".toList 4 :=
    ⟨"a\u00E9\n".toList, by decide, by decide⟩
  have late : IsBoundary "a\u00E9\n\n\u20ACb".toList 9 :=
    ⟨"a\u00E9\n\n\u20ACb".toList, by decide, by decide⟩
  have stands : StandsAt ("a\u00E9\n\n\u20ACb".toList.splitOn '\n') 1 0 4 :=
    ⟨[], by decide, by decide, by decide⟩
  refine ⟨early, late, ((recovered 4 2 1).2 ⟨by decide, by decide, stands⟩).2, ?_, ?_, ?_⟩
  · exact fun same => absurd (injective early late same) (by decide)
  · exact increasing early late (by decide)
  · exact ((recovered 9 3 3).1 ⟨late, by decide⟩).2.2

/-- A place inside of a character counts as the end of the source. -/
example : lineColumn "\u00E9\nb".toList 1 = lineColumn "\u00E9\nb".toList 4 := by
  decide

end DocCheck.Mdx
