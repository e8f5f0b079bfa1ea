import DocCheck.Proofs.Splice
import DocCheck.Rule.Whitespace

set_option autoImplicit false

namespace DocCheck.HardTabs

open Text

def cut (text : List Char) (run : Span) : List Char :=
  (text.drop (run.column - 1)).take run.length

/-- Each run begins where the reading stands or later and ends within the text. -/
theorem bounds_of_mem_runsFrom {before tabs : Nat} {text : List Char} {run : Span}
    (le : tabs ≤ before) (h : run ∈ runsFrom before tabs text) :
    before - tabs + 1 ≤ run.column ∧ 0 < run.length ∧
      run.column + run.length ≤ before + text.length + 1 := by
  fun_induction runsFrom before tabs text with
  | case1 before tabs positive =>
    obtain rfl := List.mem_singleton.1 h
    simp only [List.length_nil]
    omega
  | case2 => cases h
  | case3 before tabs rest ih =>
    have := ih (by omega) h
    simp only [List.length_cons]
    omega
  | case4 before tabs c rest _ positive ih =>
    simp only [List.length_cons]
    rcases List.mem_cons.1 h with rfl | h
    · simp only
      omega
    · have := ih (by omega) h
      omega
  | case5 before tabs c rest _ _ ih =>
    have := ih (by omega) h
    simp only [List.length_cons]
    omega

/-- Between two runs stands at least one other character. -/
theorem pairwise_runsFrom {before tabs : Nat} (le : tabs ≤ before) (text : List Char) :
    (runsFrom before tabs text).Pairwise fun a b => a.column + a.length < b.column := by
  fun_induction runsFrom before tabs text with
  | case1 | case2 => simp
  | case3 before tabs rest ih => exact ih (by omega)
  | case4 before tabs c rest _ positive ih =>
    refine List.pairwise_cons.2 ⟨fun run found => ?_, ih (by omega)⟩
    have := bounds_of_mem_runsFrom (by omega) found
    simp only
    omega
  | case5 before tabs c rest _ _ ih => exact ih (by omega)

/-- A run holds nothing but tabs. The reading stands after `front` and `tabs` tabs. -/
theorem cut_of_mem_runsFrom (front : List Char) {text : List Char} {tabs : Nat} {run : Span}
    (h : run ∈ runsFrom (front.length + tabs) tabs text) :
    cut (front ++ (List.replicate tabs '\t' ++ text)) run = List.replicate run.length '\t' := by
  generalize eq : front.length + tabs = before at h
  fun_induction runsFrom before tabs text generalizing front with
  | case1 before tabs positive =>
    obtain rfl := List.mem_singleton.1 h
    have start : before - tabs = front.length := by omega
    simp [cut, start]
  | case2 => cases h
  | case3 before tabs rest ih =>
    have shifted := ih front (by omega) h
    rwa [List.replicate_succ', List.append_assoc] at shifted
  | case4 before tabs c rest _ positive ih =>
    rcases List.mem_cons.1 h with rfl | h
    · have start : before - tabs = front.length := by omega
      simp [cut, start]
    · have shifted := ih (front ++ (List.replicate tabs '\t' ++ [c]))
        (by simp; omega) h
      simpa using shifted
  | case5 before tabs c rest _ zero ih =>
    obtain rfl : tabs = 0 := by omega
    have shifted := ih (front ++ [c]) (by simp; omega) h
    simpa using shifted

theorem cut_eq_replicate {text : List Char} {run : Span} (h : run ∈ runsFrom 0 0 text) :
    cut text run = List.replicate run.length '\t' := by
  have tabs : cut ([] ++ (List.replicate 0 '\t' ++ text)) run = List.replicate run.length '\t' :=
    cut_of_mem_runsFrom [] h
  simpa using tabs

theorem getElem?_of_mem_runsFrom {text : List Char} {run : Span} (h : run ∈ runsFrom 0 0 text) :
    text[run.column - 1]? = some '\t' := by
  have positive := (bounds_of_mem_runsFrom (Nat.le_refl 0) h).2.1
  have first := congrArg (·[0]?) (cut_eq_replicate h)
  simpa [cut, List.getElem?_take, List.getElem?_replicate, positive] using first

/-- The text with spaces in the place of tabs, after `tabs` tabs. -/
def expandFrom (options : HardTabs) (tabs : Nat) : List Char → List Char
  | [] => options.spaces tabs
  | '\t' :: rest => expandFrom options (tabs + 1) rest
  | c :: rest => options.spaces tabs ++ c :: expandFrom options 0 rest

def expand (options : HardTabs) (text : List Char) : List Char :=
  expandFrom options 0 text

variable (options : HardTabs)

@[simp] theorem spaces_zero : options.spaces 0 = [] := by
  simp [spaces]

theorem eq_space_of_mem_spaces {count : Nat} {c : Char} (h : c ∈ options.spaces count) : c = ' ' :=
  List.eq_of_mem_replicate h

/-- Expanding is over when the tabs at the end of the first part are known. -/
theorem expandFrom_cons {c : Char} (h : c ≠ '\t') (tabs : Nat) (rest : List Char) :
    options.expandFrom tabs (c :: rest) = options.spaces tabs ++ c :: options.expand rest := by
  rw [expandFrom.eq_3 options tabs c rest h, expand]

theorem expandFrom_append_spaces (tabs : Nat) (text : List Char) (count : Nat) :
    options.expandFrom tabs (text ++ List.replicate count ' ') =
      options.expandFrom tabs text ++ List.replicate count ' ' := by
  fun_induction expandFrom options tabs text with
  | case1 tabs =>
    induction count generalizing tabs with
    | zero => simp [expandFrom]
    | succ count ih =>
      have rest := ih 0
      simp only [List.nil_append, spaces_zero] at rest
      rw [List.nil_append, List.replicate_succ, expandFrom_cons options (by decide), expand, rest]
  | case2 tabs rest ih => exact ih
  | case3 tabs c rest h ih =>
    rw [List.cons_append, expandFrom_cons options h, expand, ih, List.append_assoc,
      List.cons_append]

theorem runsFrom_append_spaces (before tabs : Nat) (text : List Char) (count : Nat) :
    runsFrom before tabs (text ++ List.replicate count ' ') = runsFrom before tabs text := by
  have none (before count : Nat) : runsFrom before 0 (List.replicate count ' ') = [] := by
    induction count generalizing before with
    | zero => rfl
    | succ count ih =>
      rw [List.replicate_succ, runsFrom.eq_3 _ _ _ _ (by decide), if_neg (by omega), ih]
  fun_induction runsFrom before tabs text with
  | case1 before tabs positive =>
    cases count with
    | zero => simp [runsFrom, positive]
    | succ count =>
      rw [List.nil_append, List.replicate_succ, runsFrom.eq_3 _ _ _ _ (by decide), if_pos positive,
        none]
  | case2 before tabs zero =>
    obtain rfl : tabs = 0 := by omega
    exact none before count
  | case3 before tabs rest ih => exact ih
  | case4 before tabs c rest h positive ih =>
    rw [List.cons_append, runsFrom.eq_3 _ _ _ _ h, if_pos positive, ih]
  | case5 before tabs c rest h zero ih =>
    rw [List.cons_append, runsFrom.eq_3 _ _ _ _ h, if_neg zero, ih]

def fill (number : Nat) (run : Span) : Edit :=
  .replacing number run.column run.length (options.spaces run.length)

theorem insertion_fill (number : Nat) (run : Span) (ending : LineEnding) :
    (options.fill number run).insertion ending = options.spaces run.length := by
  refine Edit.insertion_eq ?_ ending
  intro found
  exact absurd (options.eq_space_of_mem_spaces found) (by decide)

theorem pairwise_map_fill (number : Nat) {before tabs : Nat} (le : tabs ≤ before)
    (text : List Char) :
    ((runsFrom before tabs text).map (options.fill number)).Pairwise Edit.Apart := by
  refine List.pairwise_map.2 ((pairwise_runsFrom le text).imp_of_mem ?_)
  intro a b ha hb apart
  have first := bounds_of_mem_runsFrom le ha
  constructor <;> simp only [fill, Edit.replacing, Edit.start_mk, Edit.finish_mk] <;> omega

theorem not_steady (number : Nat) {text : List Char} {run : Span} (h : run ∈ runsFrom 0 0 text) :
    ¬ ∀ c ∈ (options.fill number run).removed text, c = ' ' := by
  intro steady
  have positive := (bounds_of_mem_runsFrom (Nat.le_refl 0) h).2.1
  have tabs : (options.fill number run).removed text = List.replicate run.length '\t' :=
    cut_eq_replicate h
  have tab : '\t' ∈ (options.fill number run).removed text := by
    rw [tabs, List.mem_replicate]
    exact ⟨by omega, rfl⟩
  exact absurd (steady _ tab) (by decide)

theorem splice_fill_cons (ending : LineEnding) (number : Nat) {before : Nat} {run : Span}
    (starts : run.column = before + 1) (edits : List Edit) (rest : List Char) :
    Edit.splice ending before (options.fill number run :: edits)
        (List.replicate run.length '\t' ++ rest) =
      options.spaces run.length ++ Edit.splice ending (before + run.length) edits rest := by
  rw [Edit.splice, insertion_fill]
  simp [fill, Edit.replacing, starts]

theorem lt_start_of_mem_fills {number before : Nat} {text : List Char} {edit : Edit}
    (h : edit ∈ (runsFrom (before + 1) 0 text).map (options.fill number)) :
    before < edit.start := by
  obtain ⟨run, found, rfl⟩ := List.mem_map.1 h
  have := (bounds_of_mem_runsFrom (Nat.zero_le (before + 1)) found).1
  simp only [fill, Edit.replacing, Edit.start_mk]
  omega

/-- Filling every run expands the tabs. -/
theorem splice_fill (ending : LineEnding) (number : Nat) {before tabs : Nat} (le : tabs ≤ before)
    (text : List Char) :
    Edit.splice ending (before - tabs) ((runsFrom before tabs text).map (options.fill number))
      (List.replicate tabs '\t' ++ text) = options.expandFrom tabs text := by
  fun_induction runsFrom before tabs text with
  | case1 before tabs positive =>
    rw [List.map_singleton, splice_fill_cons options ending number rfl]
    simp [expandFrom, Edit.splice]
  | case2 before tabs zero =>
    obtain rfl : tabs = 0 := by omega
    simp [Edit.splice, expandFrom]
  | case3 before tabs rest ih =>
    have shifted := ih (by omega)
    rw [Nat.add_sub_add_right, List.replicate_succ', List.append_assoc] at shifted
    exact shifted
  | case4 before tabs c rest h positive ih =>
    have tail := ih (by omega)
    rw [List.replicate_zero, List.nil_append, Nat.sub_zero] at tail
    rw [List.map_cons, splice_fill_cons options ending number rfl, Nat.sub_add_cancel le,
      Edit.splice_cons ending (fun _ => lt_start_of_mem_fills options), tail,
      expandFrom_cons options h, expand]
  | case5 before tabs c rest h zero ih =>
    obtain rfl : tabs = 0 := by omega
    have tail := ih (by omega)
    rw [List.replicate_zero, List.nil_append, Nat.sub_zero] at tail
    rw [List.replicate_zero, List.nil_append, Nat.sub_zero,
      Edit.splice_cons ending (fun _ => lt_start_of_mem_fills options), tail,
      expandFrom_cons options h, spaces_zero, List.nil_append, expand]

end DocCheck.HardTabs
