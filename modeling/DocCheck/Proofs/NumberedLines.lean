import DocCheck.Document

set_option autoImplicit false

namespace DocCheck

open Text

namespace Line

/-- The kind of a line and the fence that is open behind it follow from the fence that is open before
it. -/
theorem exists_kindsFrom_cons (opener : Option Fence) (text : List Char) :
    ∃ kind after, ∀ rest, kindsFrom opener (text :: rest) = kind :: kindsFrom after rest := by
  cases opener with
  | none =>
    cases drawn : Fence.parse? text with
    | none => exact ⟨_, _, fun rest => by simp only [kindsFrom, drawn]; rfl⟩
    | some fence => exact ⟨_, _, fun rest => by simp only [kindsFrom, drawn]; rfl⟩
  | some opener =>
    cases drawn : Fence.parse? text with
    | none => exact ⟨_, _, fun rest => by simp only [kindsFrom, drawn]; rfl⟩
    | some fence =>
      cases closes : opener.closes fence with
      | true => exact ⟨_, _, fun rest => by simp only [kindsFrom, drawn, closes, if_true]; rfl⟩
      | false => exact ⟨_, _, fun rest => by simp only [kindsFrom, drawn, closes]; rfl⟩

/-- Kinds are read off from the first line to the last. -/
theorem exists_kindsFrom_append (opener : Option Fence) (front back : List (List Char)) :
    ∃ last, kindsFrom opener (front ++ back) = kindsFrom opener front ++ kindsFrom last back := by
  induction front generalizing opener with
  | nil => exact ⟨opener, rfl⟩
  | cons text front ih =>
    obtain ⟨kind, after, step⟩ := exists_kindsFrom_cons opener text
    obtain ⟨last, eq⟩ := ih after
    exact ⟨last, by rw [List.cons_append, step, step, eq, List.cons_append]⟩

theorem map_numberFrom (first : Nat) (texts : List (List Char)) (kinds : List LineKind) :
    (numberFrom first texts kinds).map (fun line => (line.text, line.kind)) = texts.zip kinds := by
  induction texts generalizing first kinds with
  | nil => rfl
  | cons text texts ih =>
    cases kinds with
    | nil => rfl
    | cons kind kinds => rw [numberFrom, List.map_cons, ih, List.zip_cons_cons]

theorem length_numberFrom (first : Nat) {texts : List (List Char)} {kinds : List LineKind}
    (same : kinds.length = texts.length) :
    (numberFrom first texts kinds).length = texts.length := by
  have pairs := congrArg List.length (map_numberFrom first texts kinds)
  rwa [List.length_map, List.length_zip, same, Nat.min_self] at pairs

theorem getElem?_numberFrom (first : Nat) (texts : List (List Char)) (kinds : List LineKind)
    (index : Nat) :
    (numberFrom first texts kinds)[index]? =
      texts[index]?.bind fun text => kinds[index]?.map fun kind => ⟨first + index, text, kind⟩ := by
  induction texts generalizing first kinds index with
  | nil => simp [numberFrom]
  | cons text texts ih =>
    cases kinds with
    | nil => simp [numberFrom]
    | cons kind kinds =>
      cases index with
      | zero => simp [numberFrom]
      | succ index =>
        rw [numberFrom]
        simp only [List.getElem?_cons_succ]
        rw [ih]
        simp only [Nat.add_assoc, Nat.add_comm 1 index]

@[simp] theorem length_ofText (text : List Char) : (ofText text).length = (lines text).length :=
  length_numberFrom 1 (length_kindsFrom none (lines text))

theorem map_text_numberFrom (first : Nat) {texts : List (List Char)} {kinds : List LineKind}
    (same : kinds.length = texts.length) :
    (numberFrom first texts kinds).map Line.text = texts := by
  have pairs := congrArg (List.map Prod.fst) (map_numberFrom first texts kinds)
  rwa [List.map_map, List.map_fst_zip (Nat.le_of_eq same.symm)] at pairs

theorem map_kind_numberFrom (first : Nat) {texts : List (List Char)} {kinds : List LineKind}
    (same : kinds.length = texts.length) :
    (numberFrom first texts kinds).map Line.kind = kinds := by
  have pairs := congrArg (List.map Prod.snd) (map_numberFrom first texts kinds)
  rwa [List.map_map, List.map_snd_zip (Nat.le_of_eq same)] at pairs

theorem zipIdx_lines (text : List Char) :
    (lines text).zipIdx 1 = (ofText text).map fun line => (line.text, line.number) := by
  apply List.ext_getElem?
  intro index
  rw [List.getElem?_zipIdx, List.getElem?_map, ofText, getElem?_numberFrom]
  cases found : (lines text)[index]? with
  | none => rfl
  | some line =>
    obtain ⟨inside, -⟩ := List.getElem?_eq_some_iff.1 found
    have kinds : index < (kindsFrom none (lines text)).length := by simpa using inside
    simp [List.getElem?_eq_getElem kinds]

theorem number_of_getElem?_ofText {text : List Char} {line : Line} {index : Nat}
    (h : (ofText text)[index]? = some line) : line.number = 1 + index := by
  rw [ofText, getElem?_numberFrom] at h
  simp only [Option.bind_eq_some_iff, Option.map_eq_some_iff] at h
  obtain ⟨_, -, _, -, rfl⟩ := h
  rfl

theorem getElem?_of_mem_ofText {text : List Char} {line : Line} (h : line ∈ ofText text) :
    0 < line.number ∧ (ofText text)[line.number - 1]? = some line := by
  obtain ⟨index, found⟩ := List.mem_iff_getElem?.1 h
  rw [number_of_getElem?_ofText found, Nat.add_sub_cancel_left]
  exact ⟨by omega, found⟩

theorem number_le_of_mem_ofText {text : List Char} {line : Line} (h : line ∈ ofText text) :
    line.number ≤ (lines text).length := by
  obtain ⟨positive, found⟩ := getElem?_of_mem_ofText h
  have inside := (List.getElem?_eq_some_iff.1 found).1
  rw [length_ofText] at inside
  omega

theorem mem_ofText_and_number_iff {text : List Char} {line : Line} {number : Nat} :
    line ∈ ofText text ∧ line.number = number ↔
      0 < number ∧ (ofText text)[number - 1]? = some line := by
  constructor
  · rintro ⟨member, rfl⟩
    exact getElem?_of_mem_ofText member
  · rintro ⟨positive, found⟩
    have place := number_of_getElem?_ofText found
    exact ⟨List.mem_of_getElem? found, by omega⟩

theorem eq_of_number_eq {text : List Char} {a b : Line} (ha : a ∈ ofText text)
    (hb : b ∈ ofText text) (same : a.number = b.number) : a = b := by
  have left := (getElem?_of_mem_ofText ha).2
  rw [same, (getElem?_of_mem_ofText hb).2] at left
  exact (Option.some.inj left).symm

theorem pairwise_number (text : List Char) :
    (ofText text).Pairwise fun a b => a.number < b.number := by
  have numbers : ((lines text).zipIdx 1).map Prod.snd = (ofText text).map Line.number := by
    rw [zipIdx_lines, List.map_map]
    rfl
  rw [← List.pairwise_map (f := Line.number), ← numbers, List.zipIdx_map_snd]
  exact List.pairwise_lt_range'

theorem nodup_numbers (text : List Char) : ((ofText text).map Line.number).Nodup :=
  List.pairwise_map.2 ((pairwise_number text).imp Nat.ne_of_lt)

theorem map_text_ofText (text : List Char) : (ofText text).map Line.text = lines text :=
  map_text_numberFrom 1 (length_kindsFrom none (lines text))

theorem map_kind_ofText (text : List Char) :
    (ofText text).map Line.kind = kindsFrom none (lines text) :=
  map_kind_numberFrom 1 (length_kindsFrom none (lines text))

theorem ofText_ne_nil (text : List Char) : ofText text ≠ [] := by
  intro empty
  have := map_text_ofText text
  rw [empty] at this
  exact lines_ne_nil text this.symm

theorem getLast?_lines (text : List Char) :
    (lines text).getLast? = (ofText text).getLast?.map Line.text := by
  rw [← map_text_ofText, List.getLast?_map]

theorem text_mem_lines {text : List Char} {line : Line} (h : line ∈ ofText text) :
    line.text ∈ lines text := by
  rw [← map_text_ofText]
  exact List.mem_map_of_mem h

theorem heading?_eq_some {line : Line} {heading : Heading} :
    line.heading? = some heading ↔
      line.kind.isCode = false ∧ Heading.parse? line.text = some heading := by
  rw [heading?]
  cases line.kind.isCode <;> simp

end Line

end DocCheck
