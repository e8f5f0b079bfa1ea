import DocCheck.Proofs.HashEdits
import DocCheck.Proofs.RegistryOrder
import Mathlib.Data.List.Sort

set_option autoImplicit false

namespace DocCheck

open Text

/-- The line has no hash behind its spaces. -/
def Plain (text : List Char) : Prop :=
  (text.dropWhile (· == ' ')).takeWhile (· == '#') = []

theorem plain_or_hashLine (text : List Char) : Plain text ∨
    ∃ indent level rest, text = hashLine indent level rest ∧ 0 < level ∧ rest.head? ≠ some '#' := by
  by_cases plain : Plain text
  · exact .inl plain
  · have hashes : ((text.dropWhile (· == ' ')).takeWhile (· == '#')).length ≠ 0 :=
      fun none => plain (List.length_eq_zero_iff.1 none)
    obtain ⟨indent, level, rest, eq, positive, head, -⟩ := exists_hashLine hashes
    exact .inr ⟨indent, level, rest, eq, positive, head⟩

theorem Plain.parse?_eq_none {text : List Char} (plain : Plain text) :
    Heading.parse? text = none := by
  rw [Plain] at plain
  simp [Heading.parse?, plain]

theorem Plain.lacksSpace_eq_false {text : List Char} (plain : Plain text) :
    lacksSpace text = false := by
  rw [Plain] at plain
  simp [lacksSpace, MissingSpace.checkLine, plain]

namespace Edit

def trimming (line : Line) : Edit :=
  .deleting line.number ((trimEnd (· == ' ') line.text).length + 1)
    (line.text.length - (trimEnd (· == ' ') line.text).length)

theorem eq_or_apart {edits : List Edit} (apart : edits.Pairwise Apart) {a b : Edit}
    (ha : a ∈ edits) (hb : b ∈ edits) : a = b ∨ Apart a b ∨ Apart b a :=
  List.Pairwise.forall_of_forall_of_flip (R := fun a b => a = b ∨ Apart a b ∨ Apart b a)
    (fun _ _ => .inl rfl) (apart.imp fun h => .inr (.inl h)) (apart.imp fun h => .inr (.inr h)) ha hb

/-- When the edits lie apart but for copies, all are applied. -/
theorem effective_eq {length : Nat} {edits distinct : List Edit}
    (fits : ∀ edit ∈ edits, Fits length edit)
    (sorted : edits.Pairwise fun a b => b.start ≤ a.start) (apart : distinct.Pairwise Apart)
    (same : ∀ edit, edit ∈ edits ↔ edit ∈ distinct) : effective edits = distinct := by
  have agree : ∀ a ∈ edits, ∀ b ∈ edits, a = b ∨ Apart a b ∨ Apart b a := fun a ha b hb =>
    eq_or_apart apart ((same a).1 ha) ((same b).1 hb)
  have members : ∀ edit, edit ∈ effective edits ↔ edit ∈ distinct := fun edit =>
    (mem_effective_iff fits sorted agree).trans (same edit)
  exact (pairwise_effective fits sorted).eq_of_mem_iff apart members

end Edit

namespace ConfiguredRule

/-- The options of the rule on tabs, if it checks the line. -/
def tabs? (configured : ConfiguredRule) (doc : Document) (line : Line) : Option HardTabs :=
  match configured.rule with
  | .hardTabs options =>
    if doc.suppresses line.number .hardTabs ∨ (line.kind.isCode ∧ ¬ options.inCode) then none
    else some options
  | _ => none

theorem tabs?_eq_some {configured : ConfiguredRule} {doc : Document} {line : Line}
    {options : HardTabs} :
    configured.tabs? doc line = some options ↔
      configured.rule = .hardTabs options ∧ doc.suppresses line.number .hardTabs = false ∧
        ¬ (line.kind.isCode = true ∧ ¬ options.inCode = true) := by
  rw [tabs?]
  split
  · rename_i others eq
    rw [eq, Rule.hardTabs.injEq]
    constructor
    · intro h
      split at h
      · cases h
      · rename_i checks
        obtain ⟨left, checked⟩ := not_or.1 checks
        obtain rfl := Option.some.inj h
        exact ⟨rfl, by simpa using left, checked⟩
    · rintro ⟨rfl, left, checked⟩
      rw [if_neg (not_or.2 ⟨by simp [left], checked⟩)]
  · rename_i other
    exact ⟨nofun, fun h => absurd h.1 (other options)⟩

end ConfiguredRule

namespace Ruleset

variable {ruleset : Ruleset} {text : List Char} {line : Line}

/-- The pass removes the trailing spaces of the line. -/
def trims (ruleset : Ruleset) (text : List Char) (line : Line) : Bool :=
  Edit.trimming line ∈ ruleset.edits text

/-- The options of the rule on tabs, if it is enabled and checks the line. -/
def tabs? (ruleset : Ruleset) (text : List Char) (line : Line) : Option HardTabs :=
  ruleset.rules.findSome? (·.tabs? (.ofText text) line)

theorem tabs?_eq_some {options : HardTabs} :
    ruleset.tabs? text line = some options ↔
      ∃ configured ∈ ruleset.rules, configured.tabs? (.ofText text) line = some options := by
  constructor
  · exact List.exists_of_findSome?_eq_some
  · rintro ⟨configured, found, checks⟩
    have some : (ruleset.tabs? text line).isSome = true :=
      List.findSome?_isSome_iff.2 ⟨configured, found, by rw [checks]; rfl⟩
    obtain ⟨others, eq⟩ := Option.isSome_iff_exists.1 some
    obtain ⟨other, enabled, checked⟩ := List.exists_of_findSome?_eq_some eq
    have same : other = configured := by
      apply eq_of_id_eq enabled found
      rw [ConfiguredRule.id, ConfiguredRule.id, (ConfiguredRule.tabs?_eq_some.1 checks).1,
        (ConfiguredRule.tabs?_eq_some.1 checked).1, Rule.id, Rule.id]
    rw [eq, ← checked, same, checks]

/-- The edits that put spaces in the place of the tabs of the line. -/
def fills (ruleset : Ruleset) (text : List Char) (line : Line) : List Edit :=
  match ruleset.tabs? text line with
  | none => []
  | some options => (HardTabs.runsFrom 0 0 line.text).map (options.fill line.number)

theorem mem_fills {edit : Edit} :
    edit ∈ ruleset.fills text line ↔ ∃ options, ruleset.tabs? text line = some options ∧
      ∃ run ∈ HardTabs.runsFrom 0 0 line.text, edit = options.fill line.number run := by
  rw [fills]
  split
  · rename_i none
    simp [none]
  · rename_i options eq
    simp [eq, eq_comm]

theorem asks_of_mem_fills {edit : Edit} (h : edit ∈ ruleset.fills text line) :
    ruleset.Asks text line edit := by
  obtain ⟨options, checks, run, found, rfl⟩ := mem_fills.1 h
  obtain ⟨configured, enabled, checks⟩ := tabs?_eq_some.1 checks
  obtain ⟨eq, left, checked⟩ := ConfiguredRule.tabs?_eq_some.1 checks
  refine ⟨configured, enabled, ?_, ?_⟩
  · rw [ConfiguredRule.id, eq]
    exact left
  · rw [eq]
    exact .tabs checked found

/-- The edits of a plain line that is kept. -/
theorem asks_plain (member : line ∈ Line.ofText text) (kept : ruleset.deletes text line = false)
    (plain : Plain line.text) {edit : Edit} :
    ruleset.Asks text line edit ↔
      (edit = .trimming line ∧ ruleset.trims text line = true) ∨
      (∃ options, ruleset.tabs? text line = some options ∧
        ∃ run ∈ HardTabs.runsFrom 0 0 line.text, edit = options.fill line.number run) ∨
      (edit = newline line ∧ ruleset.ends text line = true) := by
  have asked : edit ∈ ruleset.edits text ∧ edit.line = line.number ↔
      ruleset.Asks text line edit := by
    rw [← Edit.mem_onLine, mem_onLine_edits member]
  constructor
  · intro asks
    have found := (asked.2 asks).1
    obtain ⟨configured, enabled, left, mends⟩ := asks
    generalize eq : configured.rule = rule at mends
    cases mends with
    | trailing => exact .inl ⟨rfl, decide_eq_true found⟩
    | @tabs options run checked inside =>
      refine .inr (.inl ⟨options, tabs?_eq_some.2 ⟨configured, enabled, ?_⟩, run, inside, rfl⟩)
      rw [ConfiguredRule.id, eq] at left
      exact ConfiguredRule.tabs?_eq_some.2 ⟨eq, left, checked⟩
    | blank =>
      rw [deletes, decide_eq_false_iff_not] at kept
      exact absurd found kept
    | unspaced _ lacks =>
      rw [plain.lacksSpace_eq_false] at lacks
      cases lacks
    | spaced heading | indented heading | punctuated heading =>
      rw [Line.heading?_eq_some, plain.parse?_eq_none] at heading
      cases heading.2
    | unended => exact .inr (.inr ⟨rfl, decide_eq_true found⟩)
  · rintro (⟨rfl, trims⟩ | ⟨options, checks, run, inside, rfl⟩ | ⟨rfl, ends⟩)
    · exact asked.1 ⟨of_decide_eq_true trims, rfl⟩
    · exact asks_of_mem_fills (mem_fills.2 ⟨options, checks, run, inside, rfl⟩)
    · exact (ends_iff member).1 ends

/-- The edits of a plain line, from left to right. -/
def plainEdits (ruleset : Ruleset) (text : List Char) (line : Line) : List Edit :=
  ruleset.fills text line ++
    ((if ruleset.trims text line then [.trimming line] else []) ++
      if ruleset.ends text line then [newline line] else [])

theorem mem_plainEdits (member : line ∈ Line.ofText text)
    (kept : ruleset.deletes text line = false) (plain : Plain line.text) {edit : Edit} :
    edit ∈ ruleset.plainEdits text line ↔ ruleset.Asks text line edit := by
  rw [plainEdits, asks_plain member kept plain, List.mem_append, List.mem_append, mem_fills]
  have trims : (edit ∈ if ruleset.trims text line then [Edit.trimming line] else []) ↔
      edit = .trimming line ∧ ruleset.trims text line = true := by
    split <;> simp [*]
  have ends : (edit ∈ if ruleset.ends text line then [newline line] else []) ↔
      edit = newline line ∧ ruleset.ends text line = true := by
    split <;> simp [*]
  rw [trims, ends, or_left_comm]

/-- Tabs stand before the trailing spaces. -/
theorem finish_le_of_mem_fills {edit : Edit} (h : edit ∈ ruleset.fills text line) :
    edit.start < edit.finish ∧ edit.finish ≤ (trimEnd (· == ' ') line.text).length := by
  obtain ⟨options, -, run, found, rfl⟩ := mem_fills.1 h
  have split := trimEnd_append_tailOf (· == ' ') line.text
  rw [tailOf_beq_eq_replicate] at split
  rw [← split, HardTabs.runsFrom_append_spaces] at found
  have bounds := HardTabs.bounds_of_mem_runsFrom (Nat.le_refl 0) found
  simp only [HardTabs.fill, Edit.replacing, Edit.start_mk, Edit.finish_mk]
  omega

theorem pairwise_fills (ruleset : Ruleset) (text : List Char) (line : Line) :
    (ruleset.fills text line).Pairwise Edit.Apart := by
  rw [fills]
  split
  · exact List.Pairwise.nil
  · rename_i options _
    exact options.pairwise_map_fill line.number (Nat.le_refl 0) line.text

theorem length_lt_of_trims (member : line ∈ Line.ofText text)
    (trims : ruleset.trims text line = true) :
    (trimEnd (· == ' ') line.text).length < line.text.length := by
  have asks : ruleset.Asks text line (.trimming line) := by
    rw [← mem_onLine_edits member, Edit.mem_onLine]
    exact ⟨of_decide_eq_true trims, rfl⟩
  obtain ⟨_, -, -, mends⟩ := asks
  exact mends.start_lt rfl (by simp [Edit.trimming, Edit.deleting, Edit.inserting])

theorem pairwise_plainEdits (member : line ∈ Line.ofText text) :
    (ruleset.plainEdits text line).Pairwise Edit.Apart := by
  have shorter := length_trimEnd_le (· == ' ') line.text
  have finish : (Edit.trimming line).finish = line.text.length := by
    simp only [Edit.trimming, Edit.deleting, Edit.finish_mk]
    omega
  have last : (newline line).start = line.text.length := rfl
  have start : (Edit.trimming line).start = (trimEnd (· == ' ') line.text).length := rfl
  have back : ((if ruleset.trims text line then [Edit.trimming line] else []) ++
      if ruleset.ends text line then [newline line] else []).Pairwise Edit.Apart := by
    split
    · rename_i trims
      have shorter := length_lt_of_trims member trims
      split
      · refine List.pairwise_pair.2 ⟨?_, ?_⟩ <;> omega
      · exact List.pairwise_singleton _ _
    · split
      · exact List.pairwise_singleton _ _
      · exact List.Pairwise.nil
  refine List.pairwise_append.2 ⟨ruleset.pairwise_fills text line, back, ?_⟩
  intro fill filled edit found
  have bounds := finish_le_of_mem_fills filled
  have right : (trimEnd (· == ' ') line.text).length ≤ edit.start := by
    rcases List.mem_append.1 found with found | found
    · split at found
      · rw [List.mem_singleton.1 found, start]
      · cases found
    · split at found
      · rw [List.mem_singleton.1 found, last]
        exact shorter
      · cases found
  exact ⟨by omega, by omega⟩

theorem acting_plain (stored : Stored text) (member : line ∈ Line.ofText text)
    (kept : ruleset.deletes text line = false) (plain : Plain line.text) :
    ruleset.acting text line = ruleset.fills text line ++
      if ruleset.trims text line then [.trimming line] else [] := by
  have all : Edit.effective (Edit.onLine line.number (ruleset.edits text)) =
      ruleset.plainEdits text line := by
    refine Edit.effective_eq (fun _ => fits_onLine stored member kept)
      (Edit.pairwise_start_onLine fun _ found => (fits_onLine stored member kept found).keeps)
      (pairwise_plainEdits member) ?_
    intro edit
    rw [mem_onLine_edits member, mem_plainEdits member kept plain]
  have inner : ∀ edit ∈ ruleset.fills text line, edit ≠ newline line := by
    rintro edit found rfl
    have bounds := finish_le_of_mem_fills found
    exact absurd bounds.1 (Nat.lt_irrefl _)
  have differ : Edit.trimming line ≠ newline line := by
    simp [Edit.trimming, Edit.deleting, newline, Edit.inserting]
  rw [acting, all, plainEdits, List.filter_append, List.filter_append,
    List.filter_eq_self.2 (by simpa using inner)]
  split <;> split <;> simp [differ]

def trimmed (ruleset : Ruleset) (text : List Char) (line : Line) : List Char :=
  if ruleset.trims text line then trimEnd (· == ' ') line.text else line.text

/-- A part of the line with its tabs expanded, if they are reported. -/
def untabbed (ruleset : Ruleset) (text : List Char) (line : Line) (part : List Char) : List Char :=
  match ruleset.tabs? text line with
  | none => part
  | some options => options.expand part

/-- The fills act on the line without its trailing spaces as on the whole line. -/
theorem splice_fills (ending : LineEnding) (count : Nat) {part : List Char}
    (eq : line.text = part ++ List.replicate count ' ') :
    Edit.splice ending 0 (ruleset.fills text line) part = ruleset.untabbed text line part := by
  rw [fills, untabbed]
  split
  · rfl
  · rename_i options _
    rw [eq, HardTabs.runsFrom_append_spaces]
    exact options.splice_fill ending line.number (Nat.le_refl 0) part

theorem mended_plain (stored : Stored text) (member : line ∈ Line.ofText text)
    (kept : ruleset.deletes text line = false) (plain : Plain line.text) :
    ruleset.mended text line = ruleset.untabbed text line (ruleset.trimmed text line) := by
  rw [mended, acting_plain stored member kept plain, trimmed]
  split
  · have split := trimEnd_append_tailOf (· == ' ') line.text
    have spaces := tailOf_beq_eq_replicate ' ' line.text
    have width := length_trimEnd_add_length_tailOf (· == ' ') line.text
    have joined := Edit.splice_append (lineEnding text) [.trimming line] 0
      (trimEnd (· == ' ') line.text) (tailOf (· == ' ') line.text)
      (ruleset.pairwise_fills text line)
      (fun edit found => ⟨Nat.zero_le _, by simpa using (finish_le_of_mem_fills found).2⟩)
      (by simp [Edit.trimming, Edit.deleting])
    have nothing : Edit.splice (lineEnding text) (0 + (trimEnd (· == ' ') line.text).length)
        [.trimming line] (tailOf (· == ' ') line.text) = [] := by
      simp only [Edit.splice, Edit.trimming, Edit.deleting, Edit.insertion, Edit.start_mk,
        Edit.finish_mk]
      simp
      omega
    rw [split, nothing, List.append_nil] at joined
    rw [joined, splice_fills _ _ (by rw [← spaces, split])]
  · rw [List.append_nil, splice_fills _ 0 (by simp)]

end Ruleset

end DocCheck
