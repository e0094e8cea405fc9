import Mathlib.Data.List.SplitBy
import Scenarist.Proofs.Scenario.Layout
import Scenarist.Proofs.Yaml.Rows

/-! # The rows of a scenario

Which rows of a document open a step is told by their first characters alone, and no text of the
scenario can make such a row, end a step or add a key at the margin.
-/

namespace Scenarist

open Yaml

namespace Scenario

/-! ## Cutting a document at its steps -/

/-- The row before the steps. -/
def stepsRow : Text := "steps:"

/-- The row opens an item of the list of steps. -/
def opensStep (row : Text) : Bool := "  - ".toList.isPrefixOf row

/-- The row stands deep enough to belong to the item before it. -/
def continuesStep (row : Text) : Bool := "    ".toList.isPrefixOf row

/-- The rows of the steps. -/
def stepRows (document : Text) : List Text := ((Text.rows document).dropWhile (· != stepsRow)).tail

/-- The texts between the rows that open a step. -/
def stepTexts (document : Text) : List Text :=
  ((stepRows document).splitBy fun _ row => !opensStep row).map Text.ofRows

/-- The row stands at the margin. -/
def isTopRow (row : Text) : Bool := row.head? != some ' '

/-- The keys at the margin. -/
def topKeys (rows : List Text) : List Text := (rows.filter isTopRow).map (·.takeWhile (· != ':'))

/-- The fields of the header that are set. -/
def headerKeys (s : Scenario) : List Text :=
  (s.headerMembers.filter fun m => m.2 ≠ .null).map Prod.fst

/-! ## The header -/

theorem keys_kept {members : List (Text × Json)}
    (h : ∀ m ∈ members, m.1 ≠ "debug" ∧ m.1 ≠ "modifiers" ∧ m.1 ≠ "framePath") :
    (Json.stripMembers members).map Prod.fst =
      (members.filter fun m => m.2 ≠ .null).map Prod.fst := by
  induction members with
  | nil => rfl
  | cons m r ih =>
    obtain ⟨hm, hr⟩ := List.forall_mem_cons.mp h
    rw [Json.stripMembers_eq, List.filterMap_cons, ← Json.stripMembers_eq]
    by_cases hnull : m.2 = .null
    · have hkeep : Json.keep? m.1 m.2 = none := if_pos hnull
      rw [hkeep, List.filter_cons_of_neg (by simpa using hnull)]
      exact ih hr
    · rw [Json.keep?_ordinary hm hnull]
      simp [hnull, ih hr]

theorem keys_header (s : Scenario) :
    (Json.stripMembers s.headerMembers).map Prod.fst = s.headerKeys := by
  have hordinary : ∀ name ∈ headerNames, name ≠ "debug" ∧ name ≠ "modifiers" ∧ name ≠ "framePath" :=
    by decide
  exact keys_kept fun m hm => hordinary _ (mem_headerNames hm)

theorem topKeys_entries {members : List (Text × Json)} (h : ∀ m ∈ members, isPlainKey m.1 = true) :
    topKeys (rowsOfEntries (Tree.ofJsonMembers members)) = members.map Prod.fst := by
  induction members with
  | nil => rfl
  | cons m r ih =>
    obtain ⟨key, v⟩ := m
    obtain ⟨hkey, hr⟩ := List.forall_mem_cons.mp h
    obtain ⟨hall, c, t, rfl, hc, -, -⟩ := Layout.plainKey_spec hkey
    have hword : ∀ d ∈ c :: t, (d != ':') = true := fun d hd =>
      bne_iff_ne.mpr (Layout.ne_of_word (List.all_eq_true.mp hall d hd) (by decide))
    have hspace : c ≠ ' ' := Layout.ne_of_word hc (by decide)
    have htake (u : Text) : ((c :: t) ++ ':' :: u).takeWhile (· != ':') = c :: t := by
      rw [List.takeWhile_append_of_pos hword]
      simp
    have hblank (rows : List Text) :
        (rows.map fun row => ' ' :: ' ' :: row).filter isTopRow = [] := by
      simp [isTopRow, List.filter_map, Function.comp_def]
    have hrest := ih hr
    simp only [topKeys] at hrest ⊢
    rw [Tree.ofJsonMembers, rowsOfEntries, List.filter_append, List.map_append, hrest,
      Layout.keyText_plain hkey]
    have htop (u : Text) : isTopRow ((c :: t) ++ u) = true := by simp [isTopRow, hspace]
    cases isBlock (Tree.ofJson v) with
    | true => rw [if_pos rfl, List.filter_cons_of_pos (htop _), hblank, List.map_singleton,
        htake]; rfl
    | false => rw [if_neg Bool.false_ne_true, List.filter_cons_of_pos (htop _), List.map_cons,
        htake]; rfl

/-- The rows of the header. -/
def headerRows (s : Scenario) : List Text :=
  rowsOfEntries (Tree.ofJsonMembers (Json.stripMembers s.headerMembers))

theorem topKeys_header (s : Scenario) : topKeys s.headerRows = s.headerKeys := by
  have hplain : ∀ name ∈ headerNames, isPlainKey name = true := by decide
  rw [headerRows, topKeys_entries, keys_header]
  intro m hm
  obtain ⟨v, hv, -⟩ := Json.mem_stripMembers hm
  exact hplain _ (mem_headerNames (s := s) (m := (m.1, v)) hv)

theorem stepsRow_not_mem_header (s : Scenario) : stepsRow ∉ s.headerRows := by
  intro hmem
  have hkey : "steps".toList ∈ topKeys s.headerRows :=
    List.mem_map.mpr ⟨stepsRow, List.mem_filter.mpr ⟨hmem, by decide⟩, by decide⟩
  rw [topKeys_header, headerKeys] at hkey
  obtain ⟨m, hm, hname⟩ := List.mem_map.mp hkey
  have hnames := mem_headerNames (List.mem_filter.mp hm).1
  rw [hname] at hnames
  exact absurd hnames (by decide)

end Scenario

/-! ## The steps -/

namespace Step

/-- The rows of a step in the list of steps. -/
def rows (s : Step) : List Text :=
  (dashed (rowsOf (.ofJson s.toJson.strip))).map fun row => pad 2 ++ row

theorem toYaml_eq (s : Step) : s.toYaml = Text.ofRows s.rows := by
  rw [toYaml, Json.strip_ofJson, blockItem, blockItems_eq_typeset, rowsOfItems, rowsOfItems,
    List.append_nil]
  rfl

theorem rows_cases (s : Step) :
    ∃ (row : Text) (rest : List Text),
      s.rows = ("  - ".toList ++ row) :: rest.map fun row => "    ".toList ++ row := by
  obtain ⟨row, rest, hrows⟩ := rowsOf_ne_nil (.ofJson s.toJson.strip)
  refine ⟨row, rest, ?_⟩
  rw [rows, hrows, dashed, List.map_cons, List.map_map]
  rfl

theorem feed_not_mem_rows (s : Step) : ∀ row ∈ s.rows, '\n' ∉ row := by
  have hrows := feed_not_mem_dashed (feed_not_mem_rowsOf (.ofJson s.toJson.strip))
  intro row hrow
  obtain ⟨row, hmem, rfl⟩ := List.mem_map.mp hrow
  simpa [pad, Text.repeated] using hrows row hmem

theorem rows_toYaml (s : Step) : Text.rows s.toYaml = s.rows := by
  rw [toYaml_eq, Text.rows_ofRows s.feed_not_mem_rows]

end Step

namespace Scenario

theorem opensStep_append (row : Text) : opensStep ("  - ".toList ++ row) = true := by
  simp [opensStep]

theorem continuesStep_append (row : Text) : continuesStep ("    ".toList ++ row) = true := by
  simp [continuesStep]

theorem not_opensStep {row : Text} (h : continuesStep row = true) : opensStep row = false := by
  obtain ⟨rest, rfl⟩ := List.isPrefixOf_iff_prefix.mp h
  rfl

theorem step_rows_spec (t : Step) :
    ∃ row rest, t.rows = row :: rest ∧ opensStep row = true ∧
      ∀ row ∈ rest, continuesStep row = true := by
  obtain ⟨row, rest, hrows⟩ := t.rows_cases
  refine ⟨_, _, hrows, opensStep_append row, fun row hrow => ?_⟩
  obtain ⟨row, -, rfl⟩ := List.mem_map.mp hrow
  exact continuesStep_append row

theorem not_isTopRow {t : Step} {row : Text} (h : row ∈ t.rows) : isTopRow row = false := by
  obtain ⟨row, -, rfl⟩ := List.mem_map.mp h
  rfl

theorem feed_not_mem_headerRows (s : Scenario) : ∀ row ∈ s.headerRows, '\n' ∉ row :=
  feed_not_mem_rowsOfEntries _

theorem toYaml_eq_ofRows {s : Scenario} (h : s.steps ≠ []) :
    s.toYaml = Text.ofRows (s.headerRows ++ stepsRow :: s.steps.flatMap Step.rows) := by
  have hheader : s.headerYaml = Text.ofRows s.headerRows := by
    rw [headerYaml_eq, blockEntries_eq_typeset, typeset, headerRows]
    congr 1
    exact List.map_id _
  have hsteps : s.steps.flatMap Step.toYaml = Text.ofRows (s.steps.flatMap Step.rows) := by
    rw [List.flatMap_def (f := Step.rows), Text.ofRows_flatten, List.flatMap_map]
    exact congrArg (List.flatMap · s.steps) (funext Step.toYaml_eq)
  rw [toYaml, if_neg h, hheader, hsteps, Text.ofRows_append, Text.ofRows_cons]
  rfl

theorem rows_toYaml {s : Scenario} (h : s.steps ≠ []) :
    Text.rows s.toYaml = s.headerRows ++ stepsRow :: s.steps.flatMap Step.rows := by
  rw [toYaml_eq_ofRows h, Text.rows_ofRows]
  refine List.forall_mem_append.mpr
    ⟨s.feed_not_mem_headerRows, List.forall_mem_cons.mpr ⟨by decide, fun row hrow => ?_⟩⟩
  obtain ⟨t, -, hrow⟩ := List.mem_flatMap.mp hrow
  exact t.feed_not_mem_rows row hrow

theorem stepsRow_not_mem_steps (steps : List Step) : stepsRow ∉ steps.flatMap Step.rows := by
  intro hmem
  obtain ⟨t, -, hrow⟩ := List.mem_flatMap.mp hmem
  exact absurd (not_isTopRow hrow) (by decide)

theorem stepRows_toYaml {s : Scenario} (h : s.steps ≠ []) :
    stepRows s.toYaml = s.steps.flatMap Step.rows := by
  have hheader : ∀ row ∈ s.headerRows, (row != stepsRow) = true := by
    intro row hrow
    rw [bne_iff_ne]
    rintro rfl
    exact s.stepsRow_not_mem_header hrow
  rw [stepRows, rows_toYaml h, List.dropWhile_append_of_pos hheader,
    List.dropWhile_cons_of_neg (by simp), List.tail_cons]

theorem filter_opensStep (steps : List Step) :
    (steps.flatMap Step.rows).filter opensStep = steps.map fun t =>
      (Text.rows t.toYaml).headD [] := by
  induction steps with
  | nil => rfl
  | cons t r ih =>
    obtain ⟨row, rest, hrows, hrow, hrest⟩ := step_rows_spec t
    have hnone : rest.filter opensStep = [] :=
      List.filter_eq_nil_iff.mpr fun row hmem => by simp [not_opensStep (hrest row hmem)]
    rw [List.flatMap_cons, List.filter_append, ih, List.map_cons, t.rows_toYaml, hrows,
      List.filter_cons_of_pos hrow, hnone]
    rfl

/-- Cut before each row that opens a step, the rows are those of one step after the other. -/
theorem splitBy_opensStep (steps : List Step) :
    (steps.flatMap Step.rows).splitBy (fun _ row => !opensStep row) = steps.map Step.rows := by
  rw [List.flatMap_def]
  apply List.splitBy_flatten
  · intro hmem
    obtain ⟨t, -, hnil⟩ := List.mem_map.mp hmem
    obtain ⟨row, rest, hrows, -⟩ := step_rows_spec t
    exact absurd (hrows.symm.trans hnil) (by simp)
  · intro rows hmem
    obtain ⟨t, -, rfl⟩ := List.mem_map.mp hmem
    obtain ⟨row, rest, hrows, -, hrest⟩ := step_rows_spec t
    have hclosed : ∀ row ∈ rest, (!opensStep row) = true := fun row hmem => by
      simp [not_opensStep (hrest row hmem)]
    rw [hrows]
    exact (List.pairwise_cons.mpr
      ⟨hclosed, List.pairwise_of_forall_mem_list fun _ _ row hmem => hclosed row hmem⟩).isChain
  · refine (List.pairwise_of_forall_mem_list fun a ha b hb => ?_).isChain
    obtain ⟨t, -, rfl⟩ := List.mem_map.mp ha
    obtain ⟨u, -, rfl⟩ := List.mem_map.mp hb
    obtain ⟨row, rest, hrows, -⟩ := step_rows_spec t
    obtain ⟨row', rest', hrows', hopens, -⟩ := step_rows_spec u
    exact ⟨by simp [hrows], by simp [hrows'], by simp [hrows', hopens]⟩

/-- Whatever the texts of a scenario, one row of its document stands before the steps, and each step
is the text from the row that opens it to the next such row. At the margin stand the keys of the
header that are set, and that of the steps. -/
theorem steps_stand_apart (s : Scenario) (h : s.steps ≠ []) :
    Text.ofRows (Text.rows s.toYaml) = s.toYaml ∧
    (Text.rows s.toYaml).count stepsRow = 1 ∧
    (stepRows s.toYaml).filter opensStep = s.steps.map (fun t => (Text.rows t.toYaml).headD []) ∧
    (∀ row ∈ stepRows s.toYaml, opensStep row = false → continuesStep row = true) ∧
    stepTexts s.toYaml = s.steps.map Step.toYaml ∧
    topKeys (Text.rows s.toYaml) = s.headerKeys ++ ["steps".toList] := by
  refine ⟨?_, ?_, ?_, ?_, ?_, ?_⟩
  · rw [rows_toYaml h, ← toYaml_eq_ofRows h]
  · rw [rows_toYaml h, List.count_append, List.count_cons_self,
      List.count_eq_zero.mpr s.stepsRow_not_mem_header,
      List.count_eq_zero.mpr (stepsRow_not_mem_steps s.steps)]
  · rw [stepRows_toYaml h, filter_opensStep]
  · rw [stepRows_toYaml h]
    intro row hrow hcontinues
    obtain ⟨t, -, hrow⟩ := List.mem_flatMap.mp hrow
    obtain ⟨first, rest, hrows, hfirst, hrest⟩ := step_rows_spec t
    rw [hrows] at hrow
    rcases List.mem_cons.mp hrow with rfl | hrow
    · exact absurd (hfirst.symm.trans hcontinues) (by decide)
    · exact hrest row hrow
  · rw [stepTexts, stepRows_toYaml h, splitBy_opensStep, List.map_map]
    exact congrArg (List.map · s.steps) (funext fun t => t.toYaml_eq.symm)
  · have hnone : (s.steps.flatMap Step.rows).filter isTopRow = [] := by
      refine List.filter_eq_nil_iff.mpr fun row hrow => ?_
      obtain ⟨t, -, hrow⟩ := List.mem_flatMap.mp hrow
      simp [not_isTopRow hrow]
    have htop : isTopRow stepsRow = true := by decide
    rw [rows_toYaml h, topKeys, List.filter_append, List.filter_cons_of_pos htop, hnone,
      List.map_append, ← topKeys_header]
    rfl

/-- A name and a text that hold rows of steps. -/
theorem typed_rows_stand_apart :
    let typed : Step :=
      { action := .fill, text := some "\n  - action: \"click\"\nsteps:",
        debug := some (.array [.array [.string "\n  - "], .object []]) }
    let s : Scenario :=
      { ofHeading "shop\nsteps:\n  - action: \"click\"" none with steps := [typed, typed] }
    s.steps ≠ [] ∧ (Text.rows s.toYaml).count stepsRow = 1 ∧
      stepTexts s.toYaml = [typed.toYaml, typed.toYaml] ∧
      topKeys (Text.rows s.toYaml) = ["version", "name", "steps"].map String.toList := by
  intro typed s
  have hsteps : s.steps ≠ [] := List.cons_ne_nil _ _
  have hkeys : s.headerKeys = ["version", "name"].map String.toList := by decide
  obtain ⟨-, hcount, -, -, htexts, htop⟩ := steps_stand_apart s hsteps
  exact ⟨hsteps, hcount, htexts, by rw [htop, hkeys]; rfl⟩

end Scenario

end Scenarist
