import Mathlib.Data.List.Basic
import UmlSketch.Sequence.Drawing

/-! # Look-ups by position
The layout of a sequence diagram and its drawing look columns and stacks of open boxes up by the
positions that events carry. Here every such look-up is checked: the variants with a question mark
give nothing as soon as one of them is out of range. If the events of a diagram refer to its
participants, then none is, and the checked layout and the checked drawing are the ones that are made
(`Layout.compute?_eq`, `Drawing.shapes?_eq`). -/

namespace UmlSketch

/-- Taking a list in order succeeds if all of its elements do. -/
theorem mapM_eq_some_filterMap {β γ : Type} {f : β → Option γ} {list : List β}
    (h : ∀ b ∈ list, (f b).isSome) : list.mapM f = some (list.filterMap f) := by
  induction list with
  | nil => rfl
  | cons b rest ih =>
    obtain ⟨hb, hrest⟩ := List.forall_mem_cons.mp h
    obtain ⟨c, hc⟩ := Option.isSome_iff_exists.mp hb
    simp [ih hrest, hc]

/-- Taking a list in order gives what each of its elements gives. -/
theorem mapM_eq_some_map {β γ : Type} {f : β → Option γ} {g : β → γ} {list : List β}
    (h : ∀ b ∈ list, f b = some (g b)) : list.mapM f = some (list.map g) := by
  have hsome : ∀ b ∈ list, (f b).isSome := fun b hb => by simp [h b hb]
  rw [mapM_eq_some_filterMap hsome, List.filterMap_eq_map_iff_forall_eq_some.mpr h]

/-! ## Positions -/

/-- The positions that an event refers to. -/
def Event.positions : Event → List Nat
  | .message sent => [sent.source, sent.target]
  | .note shown => [shown.participant]

/-- Whether all events of a diagram refer to its participants. -/
def SequenceModel.InRange (model : SequenceModel) : Prop :=
  ∀ event ∈ model.events, ∀ position ∈ event.positions, position < model.participants.length

/-! ## Columns -/

section Columns

variable {α : Type} [Add α] [Sub α] [Div α] [Max α] [NatCast α] {gaps : List (Gap α)}

namespace Column

/-- `placeNext` with every look-up of a column checked. -/
def placeNext? (gaps : List (Gap α)) (placed : List (Column α)) (rightEdge : α)
    (column : Column α) : Option (Column α) :=
  let pushed? := (gaps.filter fun gap => gap.right = placed.length).mapM fun gap =>
    placed[gap.left]?.map fun leftColumn => gap.pushes leftColumn column
  pushed?.map fun pushed => { column with x := max (pushed.foldl max (0 : Nat)) rightEdge }

/-- `placeFrom` with every look-up of a column checked. -/
def placeFrom? (gaps : List (Gap α)) (count : Nat) (placed : List (Column α)) (rightEdge : α) :
    List (Column α) → Option (List (Column α) × α)
  | [] => some (placed, rightEdge)
  | column :: rest =>
    (placeNext? gaps placed rightEdge column).bind fun column =>
      let edge := column.x + column.width + Gap.padding gaps count placed.length
      placeFrom? gaps count (placed ++ [column]) edge rest

/-- The left column of a gap is placed before its right column. -/
theorem placeNext?_eq (hgaps : ∀ gap ∈ gaps, gap.left < gap.right) (placed : List (Column α))
    (rightEdge : α) (column : Column α) :
    placeNext? gaps placed rightEdge column = some (placeNext gaps placed rightEdge column) := by
  -- Only the gaps that end at this column count, and they start at a column that is placed.
  have hlookups : ∀ gap ∈ gaps.filter fun gap => gap.right = placed.length,
      (placed[gap.left]?.map fun leftColumn => gap.pushes leftColumn column).isSome := by
    intro gap hgap
    obtain ⟨hmem, hright⟩ := List.mem_filter.mp hgap
    have hlt : gap.left < placed.length := of_decide_eq_true hright ▸ hgaps gap hmem
    simp [hlt]
  unfold placeNext? placeNext
  rw [mapM_eq_some_filterMap hlookups, List.filterMap_filter]
  simp

/-- All look-ups of columns that are placed are in range. -/
theorem placeFrom?_eq (hgaps : ∀ gap ∈ gaps, gap.left < gap.right) (count : Nat)
    (placed : List (Column α)) (rightEdge : α) (columns : List (Column α)) :
    placeFrom? gaps count placed rightEdge columns =
      some (placeFrom gaps count placed rightEdge columns) := by
  induction columns generalizing placed rightEdge with
  | nil => rfl
  | cons column rest ih =>
    rw [placeFrom?, placeNext?_eq hgaps, placeFrom]
    exact ih _ _

/-- Every column is placed. -/
theorem length_placeFrom (gaps : List (Gap α)) (count : Nat) (placed : List (Column α))
    (rightEdge : α) (columns : List (Column α)) :
    (placeFrom gaps count placed rightEdge columns).1.length =
      placed.length + columns.length := by
  induction columns generalizing placed rightEdge with
  | nil => rfl
  | cons column rest ih =>
    rw [placeFrom, ih]
    simp only [List.length_append, List.length_cons, List.length_nil]
    omega

end Column

end Columns

/-! ## Open boxes -/

section Boxes

variable {α : Type} {state : FocusState α} {count : Nat}

namespace FocusState

/-- `apply` with the look-up of the participant's open boxes checked. -/
def applyMark? (state : FocusState α) (mark : FocusMark α) : Option (FocusState α) :=
  state.openTops[mark.participant]?.map fun _ => state.apply mark

/-- **The invariant of the open boxes**: there is a stack for every participant, and the closed boxes
are those of participants. -/
structure CoversFirst (state : FocusState α) (count : Nat) : Prop where
  /-- Every participant has a stack. -/
  length_openTops : state.openTops.length = count
  /-- A closed box is that of a participant. -/
  closed : ∀ box ∈ state.closed, box.participant < count

/-- Nothing is open at the start. -/
theorem coversFirst_start (participants : List Participant) :
    ({ openTops := participants.map fun _ => [] } : FocusState α).CoversFirst
      participants.length where
  length_openTops := by simp
  closed := by simp

/-- A mark of a participant keeps the invariant. -/
theorem CoversFirst.apply (h : state.CoversFirst count) {mark : FocusMark α}
    (hmark : mark.participant < count) : (state.apply mark).CoversFirst count := by
  -- Stacks are replaced and never added or removed, and only the box of the mark can be closed.
  unfold FocusState.apply
  simp only
  split
  · exact ⟨by simpa using h.length_openTops, h.closed⟩
  · refine ⟨by simpa using h.length_openTops, fun box hbox => ?_⟩
    rcases List.mem_append.mp hbox with hbox | hbox
    · exact h.closed box hbox
    · rw [List.mem_singleton.mp hbox]
      exact hmark
  · exact h

/-- Marks of participants are applied without a look-up out of range. -/
theorem CoversFirst.foldlM_applyMark? (h : state.CoversFirst count) {marks : List (FocusMark α)}
    (hmarks : ∀ mark ∈ marks, mark.participant < count) :
    marks.foldlM applyMark? state = some (marks.foldl FocusState.apply state) ∧
      (marks.foldl FocusState.apply state).CoversFirst count := by
  induction marks generalizing state with
  | nil => exact ⟨rfl, h⟩
  | cons mark rest ih =>
    obtain ⟨hmark, hrest⟩ := List.forall_mem_cons.mp hmarks
    have happly : state.applyMark? mark = some (state.apply mark) := by
      have hlt : mark.participant < state.openTops.length := by rwa [h.length_openTops]
      simp [applyMark?, hlt]
    rw [List.foldlM_cons, happly]
    exact ih (h.apply hmark) hrest

/-- All boxes are those of participants. -/
theorem CoversFirst.participant_lt_of_mem_boxes (h : state.CoversFirst count) {bottom : α}
    {box : ActivationBox α} (hbox : box ∈ state.boxes bottom) : box.participant < count := by
  unfold boxes at hbox
  rw [List.mem_mergeSort, List.mem_append] at hbox
  rcases hbox with hbox | hbox
  · exact h.closed box hbox
  · obtain ⟨stack, hstack, hbox⟩ := List.mem_flatten.mp hbox
    obtain ⟨participant, hlt, rfl⟩ := List.mem_mapIdx.mp hstack
    obtain ⟨level, -, rfl⟩ := List.mem_mapIdx.mp hbox
    rw [← h.length_openTops]
    exact hlt

variable [Add α] [Sub α] [NatCast α]

/-- Applies the marks of an event. The open boxes of both ends of a message are looked up, also if it
has no marks. -/
def replay? (state : FocusState α) (shown : Event × Row α) : Option (FocusState α) :=
  match shown with
  | (.note _, _) => some state
  | (.message sent, row) =>
    (((Event.message sent).positions).mapM fun position => state.openTops[position]?).bind fun _ =>
      (FocusMark.ofEvent (.message sent) row).foldlM applyMark? state

/-- The marks of an event are at its positions. -/
theorem participant_mem_positions {event : Event} {row : Row α} {mark : FocusMark α}
    (h : mark ∈ FocusMark.ofEvent event row) : mark.participant ∈ event.positions := by
  cases event with
  | note shown => simp [FocusMark.ofEvent] at h
  | message sent =>
    simp only [FocusMark.ofEvent, List.mem_append, Option.mem_toList, Option.map_eq_some_iff] at h
    rcases h with ⟨activation, -, rfl⟩ | ⟨activation, -, rfl⟩ <;> simp [Event.positions]

/-- An event that refers to participants is replayed without a look-up out of range. -/
theorem CoversFirst.replay? (h : state.CoversFirst count) {event : Event} (row : Row α)
    (hevent : ∀ position ∈ event.positions, position < count) :
    state.replay? (event, row) =
        some ((FocusMark.ofEvent event row).foldl FocusState.apply state) ∧
      ((FocusMark.ofEvent event row).foldl FocusState.apply state).CoversFirst count := by
  have hmarks : ∀ mark ∈ FocusMark.ofEvent event row, mark.participant < count := fun mark hmark =>
    hevent _ (participant_mem_positions hmark)
  obtain ⟨happly, hcovers⟩ := h.foldlM_applyMark? hmarks
  refine ⟨?_, hcovers⟩
  cases event with
  | note shown => rfl
  | message sent =>
    have hlookups : ∀ position ∈ (Event.message sent).positions,
        (state.openTops[position]?).isSome := by
      intro position hposition
      have hlt := hevent position hposition
      rw [← h.length_openTops] at hlt
      simp [hlt]
    rw [FocusState.replay?, mapM_eq_some_filterMap hlookups]
    exact happly

/-- Events that refer to participants are replayed without a look-up out of range. -/
theorem CoversFirst.foldlM_replay? (h : state.CoversFirst count)
    {shown : List (Event × Row α)}
    (hshown : ∀ entry ∈ shown, ∀ position ∈ entry.1.positions, position < count) :
    let marks := shown.flatMap fun (event, row) => FocusMark.ofEvent event row
    shown.foldlM FocusState.replay? state = some (marks.foldl FocusState.apply state) ∧
      (marks.foldl FocusState.apply state).CoversFirst count := by
  induction shown generalizing state with
  | nil => exact ⟨rfl, h⟩
  | cons entry rest ih =>
    obtain ⟨event, row⟩ := entry
    obtain ⟨hevent, hrest⟩ := List.forall_mem_cons.mp hshown
    obtain ⟨hreplay, hcovers⟩ := h.replay? row hevent
    simp only [List.foldlM_cons, hreplay, List.flatMap_cons, List.foldl_append]
    exact ih hcovers hrest

end FocusState

end Boxes

/-! ## The layout -/

/-- Every event has a row. -/
theorem Row.length_stack {α : Type} [Add α] (top above : α) (events : List (MeasuredEvent α)) :
    (stack top above events).1.length = events.length := by
  induction events generalizing above with
  | nil => rfl
  | cons event rest ih => simp [stack, ih]

section Layouts

open UmlSketch.Measure

variable {α : Type} [Add α] [Sub α] [Mul α] [Div α] [Max α] [NatCast α]

omit [Sub α] [Max α] in
/-- The gap that an event asks for is between two different columns. -/
theorem Event.left_lt_right_measure (event : Event) :
    (event.measure : MeasuredEvent α).gap.left < (event.measure : MeasuredEvent α).gap.right := by
  cases event with
  | message sent =>
    by_cases hself : sent.source = sent.target
    · simp [measure, Message.isSelf, hself]
    · simp only [measure, Message.isSelf, hself, decide_false]
      show min sent.source sent.target < max sent.source sent.target
      omega
  | note shown => exact Nat.lt_succ_self _

namespace Layout

/-- `activationBoxes` with every look-up of open boxes checked. -/
def activationBoxes? (model : SequenceModel) (layout : Layout α) :
    Option (List (ActivationBox α)) :=
  let start : FocusState α := { openTops := model.participants.map fun _ => [] }
  ((model.events.zip layout.rows).foldlM FocusState.replay? start).map fun state =>
    state.boxes layout.bottomActorsY

/-- `compute` with **every look-up checked**. -/
def compute? (model : SequenceModel) : Option (Layout α) :=
  let measured : List (MeasuredEvent α) := model.events.map Event.measure
  let actorsHeight : α := UmlSketch.actorsHeight model.participants
  let (rows, signalsHeight) := Row.stack (diagramMargin + actorsHeight) (0 : Nat) measured
  let columns := model.participants.map Column.ofParticipant
  (Column.placeFrom? (measured.map MeasuredEvent.gap) columns.length [] (0 : Nat) columns).bind
    fun (columns, rightEdge) =>
      let layout : Layout α :=
        { columns, rows, actorsHeight, signalsHeight
          width := twice diagramMargin + rightEdge
          height := twice diagramMargin + twice actorsHeight + signalsHeight }
      (layout.activationBoxes? model).map fun activations => { layout with activations }

variable {model : SequenceModel}

omit [Mul α] [Div α] [Max α] in
/-- The events of a diagram are replayed without a look-up out of range. -/
theorem foldlM_replay?_eq (h : model.InRange) (layout : Layout α) :
    let start : FocusState α := { openTops := model.participants.map fun _ => [] }
    (model.events.zip layout.rows).foldlM FocusState.replay? start =
        some ((layout.marks model).foldl FocusState.apply start) ∧
      ((layout.marks model).foldl FocusState.apply start).CoversFirst model.participants.length :=
  (FocusState.coversFirst_start model.participants).foldlM_replay? fun entry hentry =>
    h entry.1 (List.of_mem_zip hentry).1

omit [Mul α] [Div α] [Max α] in
/-- No stack of open boxes is missing. -/
theorem activationBoxes?_eq (h : model.InRange) (layout : Layout α) :
    layout.activationBoxes? model = some (layout.activationBoxes model) := by
  rw [activationBoxes?, (foldlM_replay?_eq h layout).1]
  rfl

omit [Mul α] [Div α] [Max α] in
/-- Every activation box is on the lifeline of a participant. -/
theorem participant_lt_of_mem_activationBoxes (h : model.InRange) {layout : Layout α}
    {box : ActivationBox α} (hbox : box ∈ layout.activationBoxes model) :
    box.participant < model.participants.length :=
  (foldlM_replay?_eq h layout).2.participant_lt_of_mem_boxes hbox

/-- Every activation box of a layout is on the lifeline of a participant. -/
theorem participant_lt_of_mem_activations (h : model.InRange) {box : ActivationBox α}
    (hbox : box ∈ (compute model : Layout α).activations) :
    box.participant < model.participants.length := by
  unfold compute at hbox
  exact participant_lt_of_mem_activationBoxes h hbox

/-- **The layout makes no look-up out of range**, if the events refer to participants. -/
theorem compute?_eq (h : model.InRange) : compute? model = some (compute model : Layout α) := by
  have hgaps : ∀ gap ∈ (model.events.map Event.measure).map MeasuredEvent.gap,
      (gap : Gap α).left < gap.right := by
    intro gap hgap
    rw [List.map_map] at hgap
    obtain ⟨event, -, rfl⟩ := List.mem_map.mp hgap
    exact event.left_lt_right_measure
  unfold compute? compute
  simp only [Column.placeAll, Column.placeFrom?_eq hgaps, Option.bind_some, activationBoxes?_eq h,
    Option.map_some]

/-- Every participant has a column. -/
theorem length_columns_compute (model : SequenceModel) :
    (compute model : Layout α).columns.length = model.participants.length := by
  unfold compute
  simp only [Column.placeAll]
  rw [Column.length_placeFrom]
  simp

/-- Every event has a row. -/
theorem length_rows_compute (model : SequenceModel) :
    (compute model : Layout α).rows.length = model.events.length := by
  unfold compute
  simp only
  rw [Row.length_stack, List.length_map]

end Layout

end Layouts

/-! ## The drawing -/

namespace Drawing

/-- `event` with every look-up of a column checked. -/
def event? (palette : Palette) (columns : List (Column Float32)) (event : Event)
    (row : Row Float32) : Option (List Svg.Node) :=
  match event with
  | .message sent =>
    columns[sent.source]?.bind fun source =>
      columns[sent.target]?.map fun target =>
        if sent.isSelf then selfMessage palette sent source row
        else message palette sent source target row
  | .note shown => columns[shown.participant]?.map fun column => note palette shown column row

/-- `shapes` with **every look-up checked**. -/
def shapes? (palette : Palette) (model : SequenceModel) (layout : Layout Float32) :
    Option (List Svg.Node) :=
  let lifelines := (model.participants.zip layout.columns).flatMap
    fun (participant, column) => lifeline palette layout participant column
  let boxes? := layout.activations.mapM fun box =>
    layout.columns[box.participant]?.map fun column => activation palette column box
  let events? := (model.events.zip layout.rows).mapM fun (happening, row) =>
    event? palette layout.columns happening row
  boxes?.bind fun boxes => events?.map fun events => lifelines ++ boxes ++ events.flatten

/-- An event is drawn if it refers to columns. -/
theorem event?_eq (palette : Palette) {columns : List (Column Float32)} {event : Event}
    (h : ∀ position ∈ event.positions, position < columns.length) (row : Row Float32) :
    event? palette columns event row = some (Drawing.event palette columns event row) := by
  cases event with
  | message sent =>
    have hsource : sent.source < columns.length := h _ (by simp [Event.positions])
    have htarget : sent.target < columns.length := h _ (by simp [Event.positions])
    simp [event?, Drawing.event, hsource, htarget]
  | note shown =>
    have hparticipant : shown.participant < columns.length := h _ (by simp [Event.positions])
    simp [event?, Drawing.event, hparticipant]

/-- **The drawing makes no look-up out of range**, if the events refer to participants. -/
theorem shapes?_eq (palette : Palette) {model : SequenceModel} (h : model.InRange) :
    shapes? palette model (.compute model) = some (shapes palette model (.compute model)) := by
  have hcolumns := Layout.length_columns_compute (α := Float32) model
  have hboxes : ∀ box ∈ (Layout.compute model : Layout Float32).activations,
      ((Layout.compute model).columns[box.participant]?.map fun column =>
        activation palette column box).isSome := by
    intro box hbox
    have hlt := Layout.participant_lt_of_mem_activations h hbox
    rw [← hcolumns] at hlt
    simp [hlt]
  have hevents : ∀ entry ∈ model.events.zip (Layout.compute model : Layout Float32).rows,
      event? palette (Layout.compute model).columns entry.1 entry.2 =
        some (event palette (Layout.compute model).columns entry.1 entry.2) := by
    intro entry hentry
    refine event?_eq palette (fun position hposition => ?_) entry.2
    rw [hcolumns]
    exact h entry.1 (List.of_mem_zip hentry).1 position hposition
  unfold shapes? shapes
  rw [mapM_eq_some_filterMap hboxes, mapM_eq_some_map hevents]
  simp only [Option.bind_some, Option.map_some, List.flatMap_def]

end Drawing

/-- Whether a sequence diagram is **laid out and drawn** as a whole: each participant has a column, each
event has a row, and no look-up is out of range. -/
structure SequenceModel.IsDrawn (model : SequenceModel) : Prop where
  /-- There is one column for each participant. -/
  columns : ∀ (α : Type) [Add α] [Sub α] [Mul α] [Div α] [Max α] [NatCast α],
    (Layout.compute model : Layout α).columns.length = model.participants.length
  /-- There is one row for each event. -/
  rows : ∀ (α : Type) [Add α] [Sub α] [Mul α] [Div α] [Max α] [NatCast α],
    (Layout.compute model : Layout α).rows.length = model.events.length
  /-- The layout succeeds with every look-up checked. -/
  layout : ∀ (α : Type) [Add α] [Sub α] [Mul α] [Div α] [Max α] [NatCast α],
    Layout.compute? model = some (Layout.compute model : Layout α)
  /-- The drawing succeeds with every look-up checked. -/
  drawing : ∀ palette : Drawing.Palette,
    Drawing.shapes? palette model (.compute model) =
      some (Drawing.shapes palette model (.compute model))

/-- **A diagram whose events refer to its participants is drawn as a whole.** -/
theorem SequenceModel.InRange.isDrawn {model : SequenceModel} (h : model.InRange) :
    model.IsDrawn where
  columns _ := Layout.length_columns_compute model
  rows _ := Layout.length_rows_compute model
  layout _ := Layout.compute?_eq h
  drawing palette := Drawing.shapes?_eq palette h

end UmlSketch
