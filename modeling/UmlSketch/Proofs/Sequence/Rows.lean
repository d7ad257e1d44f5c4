import Mathlib.Algebra.Order.Field.Rat
import Mathlib.Tactic.Linarith
import UmlSketch.Proofs.Sequence.Lookups

/-! # Rows over exact numbers
Over exact numbers the rows of a sequence diagram tile the space between the two boxes of its
participants (`Layout.tiles_rows_compute`). The marks of the messages lie in their rows, so that they
come in the order of their heights (`Layout.inOrder_marks`), which is what the activation boxes rely on. -/

namespace UmlSketch

open UmlSketch.Measure

/-! ## Exact measures -/

namespace Measure

@[simp] theorem diagramMargin_eq : (diagramMargin : ℚ) = 10 := rfl

@[simp] theorem actorMargin_eq : (actorMargin : ℚ) = 10 := rfl

@[simp] theorem actorPadding_eq : (actorPadding : ℚ) = 10 := rfl

@[simp] theorem signalMargin_eq : (signalMargin : ℚ) = 5 := rfl

@[simp] theorem signalPadding_eq : (signalPadding : ℚ) = 5 := rfl

@[simp] theorem noteMargin_eq : (noteMargin : ℚ) = 10 := rfl

@[simp] theorem notePadding_eq : (notePadding : ℚ) = 5 := rfl

@[simp] theorem lineHeight_eq : (lineHeight : ℚ) = 18 := rfl

@[simp] theorem charWidth_eq : (charWidth : ℚ) = 17 / 2 := rfl

@[simp] theorem activationWidth_eq : (activationWidth : ℚ) = 10 := rfl

@[simp] theorem activationNesting_eq : (activationNesting : ℚ) = 5 := rfl

@[simp] theorem twice_eq (length : ℚ) : twice length = 2 * length := rfl

@[simp] theorem half_eq (length : ℚ) : half length = length / 2 := rfl

end Measure

/-- The greatest of some lengths, but for a least one, is below a bound if all of them are. -/
theorem foldl_max_le_iff {lengths : List ℚ} {least bound : ℚ} :
    lengths.foldl max least ≤ bound ↔ least ≤ bound ∧ ∀ length ∈ lengths, length ≤ bound := by
  induction lengths generalizing least with
  | nil => simp
  | cons length rest ih => rw [List.foldl_cons, ih, max_le_iff, List.forall_mem_cons, and_assoc]

theorem TextSize.width_nonneg (text : Text) : 0 ≤ (TextSize.of text : TextSize ℚ).width := by
  simp only [TextSize.of, charWidth_eq]
  positivity

/-- A text has at least one line. -/
theorem TextSize.le_height (text : Text) : 18 ≤ (TextSize.of text : TextSize ℚ).height := by
  have hlines : (1 : ℚ) ≤ ((Text.fields '\n' text).length : ℚ) :=
    Nat.one_le_cast.mpr (List.length_pos_iff.mpr (Text.fields_ne_nil '\n' text))
  simp only [TextSize.of, lineHeight_eq]
  linarith

theorem actorsHeight_nonneg (participants : List Participant) :
    (0 : ℚ) ≤ actorsHeight participants := by
  unfold actorsHeight
  exact (foldl_max_le_iff.mp le_rfl).1

/-- A row holds a line of text and the margins of a message. -/
theorem Event.le_height_measure (event : Event) :
    38 ≤ (event.measure : MeasuredEvent ℚ).height := by
  cases event with
  | message sent =>
    have htext := TextSize.le_height sent.text
    simp only [measure, signalMargin_eq, signalPadding_eq]
    split <;> push_cast <;> linarith
  | note shown =>
    have htext := TextSize.le_height shown.text
    simp only [measure, noteMargin_eq, notePadding_eq]
    push_cast
    linarith

/-! ## Tilings -/

namespace Row

/-- Whether some rows **tile** the space between two heights: each has an extent and begins where the one
above it ends. -/
def Tiles : ℚ → ℚ → List (Row ℚ) → Prop
  | top, bottom, [] => top = bottom
  | top, bottom, row :: rest => row.y = top ∧ 0 < row.height ∧ Tiles (top + row.height) bottom rest

/-- A tiling does not end above its start. -/
theorem Tiles.le {top bottom : ℚ} {rows : List (Row ℚ)} (h : Tiles top bottom rows) :
    top ≤ bottom := by
  induction rows generalizing top with
  | nil => exact le_of_eq h
  | cons row rest ih =>
    obtain ⟨-, hheight, hrest⟩ := h
    linarith [ih hrest]

/-- Rows that are stacked tile the space that they take. -/
theorem tiles_stack (top above : ℚ) {events : List (MeasuredEvent ℚ)}
    (h : ∀ event ∈ events, 0 < event.height) :
    Tiles (top + above) (top + (stack top above events).2) (stack top above events).1 := by
  induction events generalizing above with
  | nil => rfl
  | cons event rest ih =>
    obtain ⟨hevent, hrest⟩ := List.forall_mem_cons.mp h
    refine ⟨rfl, hevent, ?_⟩
    rw [add_assoc]
    exact ih (above + event.height) hrest

/-- The widths of rows are those of their events. -/
theorem map_width_stack {α : Type} [Add α] (top above : α) (events : List (MeasuredEvent α)) :
    (stack top above events).1.map Row.width = events.map MeasuredEvent.width := by
  induction events generalizing above with
  | nil => rfl
  | cons event rest ih => exact congrArg (event.width :: ·) (ih _)

/-- The heights of rows are those of their events. -/
theorem map_height_stack {α : Type} [Add α] (top above : α) (events : List (MeasuredEvent α)) :
    (stack top above events).1.map Row.height = events.map MeasuredEvent.height := by
  induction events generalizing above with
  | nil => rfl
  | cons event rest ih => exact congrArg (event.height :: ·) (ih _)

end Row

/-! ## Marks in order -/

namespace FocusMark

/-- Whether some marks are **in order** between two heights: none is above the one before it. -/
def InOrder : ℚ → ℚ → List (FocusMark ℚ) → Prop
  | start, stop, [] => start ≤ stop
  | start, stop, mark :: rest => start ≤ mark.y ∧ InOrder mark.y stop rest

/-- Marks that are in order may start further up. -/
theorem InOrder.of_le {start above stop : ℚ} {marks : List (FocusMark ℚ)}
    (h : InOrder start stop marks) (hle : above ≤ start) : InOrder above stop marks := by
  cases marks with
  | nil => exact hle.trans h
  | cons mark rest => exact ⟨hle.trans h.1, h.2⟩

/-- Marks that are in order are in order in front of others that start where they stop. -/
theorem InOrder.append {start middle stop : ℚ} {first second : List (FocusMark ℚ)}
    (hfirst : InOrder start middle first) (hsecond : InOrder middle stop second) :
    InOrder start stop (first ++ second) := by
  induction first generalizing start with
  | nil => exact hsecond.of_le hfirst
  | cons mark rest ih => exact ⟨hfirst.1, ih hfirst.2⟩

/-- Some of the marks that are in order are in order. -/
theorem InOrder.filter {start stop : ℚ} {marks : List (FocusMark ℚ)} (h : InOrder start stop marks)
    (keeps : FocusMark ℚ → Bool) : InOrder start stop (marks.filter keeps) := by
  induction marks generalizing start with
  | nil => exact h
  | cons mark rest ih =>
    cases hkeeps : keeps mark with
    | true => rw [List.filter_cons_of_pos hkeeps]; exact ⟨h.1, ih h.2⟩
    | false => rw [List.filter_cons_of_neg (by simp [hkeeps])]; exact (ih h.2).of_le h.1

/-- The mark that an end of a message may have is in order where its height is. -/
theorem inOrder_toList {start y stop : ℚ} (participant : Nat) (activation : Option Activation)
    (hstart : start ≤ y) (hstop : y ≤ stop) :
    InOrder start stop
      (activation.map fun activation => (⟨participant, activation, y⟩ : FocusMark ℚ)).toList := by
  cases activation with
  | none => exact hstart.trans hstop
  | some activation => exact ⟨hstart, hstop⟩

/-- The marks of an event are in order in its row. -/
theorem inOrder_ofEvent (event : Event) {row : Row ℚ} (h : 10 ≤ row.height) :
    InOrder row.y (row.y + row.height) (ofEvent event row) := by
  cases event with
  | note shown => exact le_add_of_nonneg_right (by linarith)
  | message sent =>
    cases hself : sent.isSelf with
    | true =>
      -- The message leaves at the upper margin and returns at the end of the row.
      have hleaves : row.y ≤ row.y + signalMargin ∧ row.y + signalMargin ≤ row.y + row.height := by
        rw [signalMargin_eq]
        constructor <;> linarith
      simp only [ofEvent, hself, if_true]
      exact (inOrder_toList _ _ hleaves.1 le_rfl).append (inOrder_toList _ _ hleaves.2 le_rfl)
    | false =>
      have hsignal : row.y ≤ row.signalY ∧ row.signalY ≤ row.y + row.height := by
        rw [Row.signalY, signalMargin_eq, signalPadding_eq]
        constructor <;> linarith
      simp only [ofEvent, hself, Bool.false_eq_true, if_false]
      exact (inOrder_toList _ _ hsignal.1 le_rfl).append (inOrder_toList _ _ le_rfl hsignal.2)

/-- The marks of events in rows that tile a space are in order in it. -/
theorem inOrder_of_tiles {top bottom : ℚ} (events : List Event) {rows : List (Row ℚ)}
    (htiles : Row.Tiles top bottom rows) (hheights : ∀ row ∈ rows, 10 ≤ row.height) :
    InOrder top bottom ((events.zip rows).flatMap fun (event, row) => ofEvent event row) := by
  induction rows generalizing top events with
  | nil => rw [List.zip_nil_right]; exact htiles.le
  | cons row rest ih =>
    obtain ⟨hheight, hrest⟩ := List.forall_mem_cons.mp hheights
    obtain ⟨rfl, hextent, hbelow⟩ := htiles
    cases events with
    | nil => exact (le_add_of_nonneg_right hextent.le).trans hbelow.le
    | cons event later =>
      rw [List.zip_cons_cons, List.flatMap_cons]
      exact (inOrder_ofEvent event hheight).append (ih later hbelow hrest)

end FocusMark

/-! ## The rows of a diagram -/

namespace Layout

/-- The rows are stacked below the upper boxes of the participants. -/
theorem rows_compute (model : SequenceModel) :
    (compute model : Layout ℚ).rows =
      (Row.stack (diagramMargin + UmlSketch.actorsHeight model.participants) 0
        (model.events.map Event.measure)).1 := rfl

/-- **The rows of a diagram tile** the space from the bottom of the upper boxes of its participants to
the top of the lower ones. -/
theorem tiles_rows_compute (model : SequenceModel) :
    Row.Tiles ((compute model : Layout ℚ).topActorsY + (compute model : Layout ℚ).actorsHeight)
      (compute model : Layout ℚ).bottomActorsY (compute model : Layout ℚ).rows := by
  have hheights : ∀ event ∈ model.events.map Event.measure,
      0 < (event : MeasuredEvent ℚ).height := by
    intro event hevent
    obtain ⟨event, -, rfl⟩ := List.mem_map.mp hevent
    linarith [event.le_height_measure]
  have htiles := Row.tiles_stack (diagramMargin + UmlSketch.actorsHeight model.participants) 0 hheights
  rw [add_zero] at htiles
  exact htiles

/-- The widths of the rows are those that the events ask for. -/
theorem map_width_rows_compute (model : SequenceModel) :
    (compute model : Layout ℚ).rows.map Row.width =
      model.events.map fun event => (event.measure : MeasuredEvent ℚ).width := by
  rw [rows_compute, Row.map_width_stack, List.map_map]
  rfl

/-- A row has the height of an event. -/
theorem le_height_of_mem_rows {model : SequenceModel} {row : Row ℚ}
    (h : row ∈ (compute model : Layout ℚ).rows) : 38 ≤ row.height := by
  have hheight : row.height ∈ (compute model : Layout ℚ).rows.map Row.height := List.mem_map_of_mem h
  rw [rows_compute, Row.map_height_stack, List.map_map] at hheight
  obtain ⟨event, -, heq⟩ := List.mem_map.mp hheight
  rw [← heq]
  exact event.le_height_measure

/-- **The marks of a diagram are in order** between the two boxes of its participants. -/
theorem inOrder_marks (model : SequenceModel) :
    FocusMark.InOrder ((compute model : Layout ℚ).topActorsY + (compute model : Layout ℚ).actorsHeight)
      (compute model : Layout ℚ).bottomActorsY ((compute model).marks model) :=
  FocusMark.inOrder_of_tiles model.events (tiles_rows_compute model) fun _ hrow =>
    le_trans (by norm_num) (le_height_of_mem_rows hrow)

end Layout

end UmlSketch
