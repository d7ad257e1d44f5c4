import UmlSketch.Proofs.Sequence.Activations
import UmlSketch.Proofs.Sequence.Columns
import UmlSketch.Proofs.Sequence.Documents

/-! # Bounds of activation boxes
The activation boxes of a sequence diagram lie between the upper and the lower edge of its drawing, and
none reaches over the left edge. To the right they are moved by their levels, which the width of the
drawing does not know of: it holds the columns and what reaches over the last one of them. So the boxes
of a participant lie in the drawing exactly if no more of them are open at once than there is room
for (`Layout.holdsBoxes_of_compile`). There is always room for eight, and at a participant with a short
name on the right for no more than that. -/

namespace UmlSketch

open UmlSketch.Measure

/-! ## Levels -/

namespace Activation

/-- How many boxes are open afterwards. Where none is open, none can be closed. -/
def openAfter (count : Nat) : Activation → Nat
  | .opens => count + 1
  | .closes => count - 1

/-- The **depth** of some activations: the greatest number of boxes that are open at once. -/
def depthFrom (count : Nat) : List Activation → Nat
  | [] => count
  | activation :: rest => max count (depthFrom (activation.openAfter count) rest)

theorem le_depthFrom (count : Nat) (activations : List Activation) :
    count ≤ depthFrom count activations := by
  cases activations with
  | nil => exact le_rfl
  | cons activation rest => exact le_max_left _ _

end Activation

namespace Lifeline

/-- The levels of the open boxes of a lifeline are those below their number. -/
theorem exists_open_level_iff {line : Lifeline ℚ} {participant : Nat} {bottom : ℚ} {level : Nat} :
    (∃ box ∈ FocusState.openBoxes participant line.openTops bottom, box.level = level) ↔
      level < line.openTops.length := by
  rw [← List.length_reverse]
  constructor
  · rintro ⟨box, hbox, rfl⟩
    obtain ⟨level, top, htop, rfl⟩ := mem_openBoxes_iff.mp hbox
    exact (List.getElem?_eq_some_iff.mp htop).1
  · intro hlt
    exact ⟨⟨participant, level, _, bottom⟩,
      mem_openBoxes_iff.mpr ⟨level, _, List.getElem?_eq_getElem hlt, rfl⟩, rfl⟩

/-- A lifeline with some marks has a box of a level exactly if it had a closed one, or if its depth is
greater. -/
theorem exists_level_iff {line : Lifeline ℚ} {marks : List (FocusMark ℚ)} {participant : Nat}
    {bottom : ℚ} {level : Nat} :
    (∃ box ∈ (marks.foldl apply line).boxes participant bottom, box.level = level) ↔
      (∃ box ∈ line.closed, box.level = level) ∨
        level < Activation.depthFrom line.openTops.length (marks.map FocusMark.activation) := by
  induction marks generalizing line with
  | nil =>
    simp only [List.foldl_nil, boxes, List.mem_append, or_and_right, exists_or,
      exists_open_level_iff]
    rfl
  | cons mark rest ih =>
    obtain ⟨tops, closed⟩ := line
    obtain ⟨owner, activation, y⟩ := mark
    rw [List.foldl_cons, ih, List.map_cons, Activation.depthFrom]
    cases activation with
    | opens =>
      have hle := Activation.le_depthFrom (tops.length + 1) (rest.map FocusMark.activation)
      refine or_congr Iff.rfl ?_
      simp only [apply, List.length_cons, Activation.openAfter]
      omega
    | closes =>
      cases tops with
      | nil =>
        refine or_congr Iff.rfl ?_
        simp only [apply, List.length_nil, Activation.openAfter, Nat.zero_sub]
        omega
      | cons top outer =>
        -- The box that is closed has the level that was the highest one.
        have hle := Activation.le_depthFrom outer.length (rest.map FocusMark.activation)
        simp only [apply, List.mem_append, List.mem_singleton, or_and_right, exists_or,
          exists_eq_left, or_assoc]
        refine or_congr Iff.rfl ?_
        simp only [List.length_cons, Activation.openAfter, Nat.add_sub_cancel]
        omega

end Lifeline

/-- The **depth** of a participant: the greatest number of its boxes that are open at once. -/
def SequenceModel.depthOf (model : SequenceModel) (participant : Nat) : Nat :=
  Activation.depthFrom 0 (model.activationsOf participant)

/-! ## Edges -/

theorem ActivationBox.x_eq (box : ActivationBox ℚ) (center : ℚ) :
    box.x center = center - 5 + box.level * 5 := by
  rw [x, half_eq, activationWidth_eq, activationNesting_eq]
  norm_num

namespace Layout

variable {model : SequenceModel} {participant : Nat} {column : Column ℚ}

/-- The levels of a participant's boxes are those below its depth. -/
theorem exists_level_iff (h : model.InRange) {level : Nat} :
    (∃ box ∈ (compute model : Layout ℚ).activationsOf participant, box.level = level) ↔
      level < model.depthOf participant := by
  simp only [(activationsOf_compute_perm h participant).mem_iff]
  rw [lifelineOf, Lifeline.exists_level_iff,
    map_filter_marks participant (length_rows_compute model), SequenceModel.depthOf]
  simp

/-- A lifeline keeps away from the left edge, and from the right one by eight steps of nested boxes. -/
theorem le_center_of_mem_columns (h : column ∈ (compute model : Layout ℚ).columns) :
    20 ≤ column.center ∧ column.center + 40 ≤ (compute model : Layout ℚ).width := by
  have hwidth : 40 ≤ column.width := by
    obtain ⟨x, hx⟩ := exists_columns_eq model
    rw [hx, List.mem_ofFn] at h
    obtain ⟨i, rfl⟩ := h
    exact Column.le_width_ofParticipant _
  have hspaced := areSpaced_columns model
  have hnonneg := hspaced.nonneg column h
  have hedge := hspaced.edge column h
  rw [twice_eq, diagramMargin_eq] at hedge
  rw [Column.center, half_eq]
  constructor <;> linarith

/-- The boxes of the participants keep away from the upper and the lower edge. -/
theorem bottomActorsY_le_height (model : SequenceModel) :
    0 ≤ (compute model : Layout ℚ).topActorsY + (compute model : Layout ℚ).actorsHeight ∧
      (compute model : Layout ℚ).bottomActorsY ≤ (compute model : Layout ℚ).height := by
  have hactors : 0 ≤ (compute model : Layout ℚ).actorsHeight := actorsHeight_nonneg model.participants
  have hheight : (compute model : Layout ℚ).height =
      twice diagramMargin + twice (compute model : Layout ℚ).actorsHeight +
        (compute model : Layout ℚ).signalsHeight := rfl
  rw [hheight, bottomActorsY, topActorsY, twice_eq, twice_eq, diagramMargin_eq]
  constructor <;> linarith

/-- How a drawing **holds** the activation boxes of a diagram. -/
structure HoldsBoxes (model : SequenceModel) (layout : Layout ℚ) : Prop where
  /-- A box is on the lifeline of a column, and does not reach over the left, the upper or the lower
  edge of the drawing. -/
  inside : ∀ box ∈ layout.activations, ∃ column, layout.columns[box.participant]? = some column ∧
    0 ≤ box.x column.center ∧ 0 ≤ box.top ∧ box.top ≤ box.bottom ∧ box.bottom ≤ layout.height
  /-- The boxes of a participant do not reach over the right edge exactly if there is room for as many
  as are open at once. -/
  right : ∀ participant column, layout.columns[participant]? = some column →
    ((∀ box ∈ layout.activationsOf participant,
        box.x column.center + activationWidth ≤ layout.width) ↔
      activationNesting * model.depthOf participant ≤ layout.width - column.center)
  /-- There is room for eight boxes at once. -/
  room : ∀ column ∈ layout.columns, activationNesting * 8 ≤ layout.width - column.center

/-- The boxes of a participant do not reach over the right edge exactly if there is room for as many as
are open at once. -/
theorem forall_x_add_le_iff (h : model.InRange)
    (hcolumn : (compute model : Layout ℚ).columns[participant]? = some column) :
    (∀ box ∈ (compute model : Layout ℚ).activationsOf participant,
        box.x column.center + activationWidth ≤ (compute model : Layout ℚ).width) ↔
      activationNesting * model.depthOf participant ≤
        (compute model : Layout ℚ).width - column.center := by
  simp only [ActivationBox.x_eq, activationWidth_eq, activationNesting_eq]
  constructor
  · intro hboxes
    cases hdepth : model.depthOf participant with
    | zero =>
      have hroom := (le_center_of_mem_columns (List.mem_of_getElem? hcolumn)).2
      push_cast
      linarith
    | succ depth =>
      -- The innermost of the boxes that are open at once bounds the others.
      obtain ⟨box, hbox, hlevel⟩ := (exists_level_iff h).mpr (hdepth.ge : depth < _)
      have hright := hboxes box hbox
      rw [hlevel] at hright
      push_cast
      linarith
  · intro hroom box hbox
    have hlevel : box.level + 1 ≤ model.depthOf participant :=
      (exists_level_iff h).mp ⟨box, hbox, rfl⟩
    have hcast : (box.level : ℚ) + 1 ≤ model.depthOf participant := by exact_mod_cast hlevel
    linarith

/-- The boxes of a diagram whose events refer to its participants. -/
theorem holdsBoxes_compute (h : model.InRange) : HoldsBoxes model (compute model) where
  inside box hbox := by
    have hlt := participant_lt_of_mem_activations h hbox
    rw [← length_columns_compute (α := ℚ) model] at hlt
    have hcolumn := List.getElem?_eq_getElem hlt
    obtain ⟨hcenter, -⟩ := le_center_of_mem_columns (List.mem_of_getElem? hcolumn)
    obtain ⟨hstart, hstop⟩ := bottomActorsY_le_height model
    have howner : box ∈ (compute model : Layout ℚ).activationsOf box.participant :=
      List.mem_filter.mpr ⟨hbox, decide_eq_true rfl⟩
    obtain ⟨htop, hupright, hbottom⟩ := (areNested_activationsOf h box.participant).upright box howner
    have hlevel : (0 : ℚ) ≤ box.level := Nat.cast_nonneg _
    refine ⟨_, hcolumn, ?_, hstart.trans htop, hupright, hbottom.trans hstop⟩
    rw [ActivationBox.x_eq]
    linarith
  right _ _ hcolumn := forall_x_add_le_iff h hcolumn
  room column hcolumn := by
    have hroom := (le_center_of_mem_columns hcolumn).2
    rw [activationNesting_eq]
    linarith

/-- **The activation boxes of a document** that is compiled as a sequence diagram: they lie in its
drawing but for its right edge, and there exactly those of the participants with room for as many as are
open at once. -/
theorem holdsBoxes_of_compile {source : Text} {options : CompileOptions} {compilation : Compilation}
    (h : compile source options = .ok compilation)
    (hmodel : compilation.artifact = .sequence model) : HoldsBoxes model (compute model) :=
  holdsBoxes_compute (SequenceModel.inRange_of_compile h hmodel)

/-- A call that is answered after a call of the receiver to itself: two boxes are open at once. -/
theorem holdsBoxes_of_compile_call :
    let source := ("// \x7btype:sequence\x7d\n[A]ask>([B]\n[B]think>([B]\n[B])done>[B]\n" ++
      "[B])answer.>[A]").toList
    ∃ compilation model, compile source {} = .ok compilation ∧
      compilation.artifact = .sequence model ∧
      (model.depthOf 0 = 0 ∧ model.depthOf 1 = 2) ∧ HoldsBoxes model (compute model) := by
  intro source
  have hresult : (compile source {}).toOption.bind (fun compilation =>
      compilation.artifact.sequence?.map fun model => (model.depthOf 0, model.depthOf 1)) =
      some (0, 2) := by
    decide +kernel
  cases hcompile : compile source {} with
  | error failure =>
    rw [hcompile] at hresult
    cases hresult
  | ok compilation =>
    rw [hcompile] at hresult
    obtain ⟨model, hmodel, hdepths⟩ := Option.map_eq_some_iff.mp hresult
    have hartifact := Artifact.eq_of_sequence? hmodel
    exact ⟨compilation, model, rfl, hartifact, Prod.mk.inj hdepths,
      holdsBoxes_of_compile hcompile hartifact⟩

/-- Nine calls that are not answered, to a participant with a short name: the innermost of their boxes
reaches over the right edge of the drawing. -/
theorem exists_box_beyond_width :
    let source := ("// \x7btype:sequence\x7d\n[A]>([B]\n[A]>([B]\n[A]>([B]\n[A]>([B]\n[A]>([B]\n" ++
      "[A]>([B]\n[A]>([B]\n[A]>([B]\n[A]>([B]").toList
    ∃ compilation model, compile source {} = .ok compilation ∧
      compilation.artifact = .sequence model ∧
      ∃ box ∈ (compute model : Layout ℚ).activations, ∃ column : Column ℚ,
        (compute model : Layout ℚ).columns[box.participant]? = some column ∧
        box.x column.center + activationWidth = 471 / 4 ∧
        (compute model : Layout ℚ).width = 117 := by
  intro source
  have hresult : (compile source {}).toOption.bind (fun compilation =>
      compilation.artifact.sequence?.map fun model => (model.depthOf 1,
        (compute model : Layout ℚ).columns[1]?.map Column.center,
        (compute model : Layout ℚ).width)) =
      some (9, some (291 / 4), 117) := by
    decide +kernel
  cases hcompile : compile source {} with
  | error failure =>
    rw [hcompile] at hresult
    cases hresult
  | ok compilation =>
    rw [hcompile] at hresult
    obtain ⟨model, hmodel, hparts⟩ := Option.map_eq_some_iff.mp hresult
    obtain ⟨hdepth, hcenter, hwidth⟩ := by simpa only [Prod.mk.injEq] using hparts
    obtain ⟨column, hcolumn, hcenter⟩ := Option.map_eq_some_iff.mp hcenter
    have hartifact := Artifact.eq_of_sequence? hmodel
    have hrange := SequenceModel.inRange_of_compile hcompile hartifact
    have hlevel : 8 < model.depthOf 1 := by omega
    obtain ⟨box, hbox, hlevel⟩ := (exists_level_iff hrange).mpr hlevel
    obtain ⟨hbox, howner⟩ := List.mem_filter.mp hbox
    refine ⟨compilation, model, rfl, hartifact, box, hbox, column, ?_, ?_, hwidth⟩
    · rwa [of_decide_eq_true howner]
    · rw [ActivationBox.x_eq, hcenter, hlevel, activationWidth_eq]
      norm_num

end Layout

end UmlSketch
