import Mathlib.Data.List.OfFn
import Mathlib.Order.Bounds.Basic
import UmlSketch.Proofs.Sequence.Rows

/-! # Columns over exact numbers
Every event asks for a distance between two columns. Over exact numbers the columns of a diagram stand at
the least positions that keep all of these distances and do not let two columns overlap
(`Layout.isTight_compute`): a column is placed once, after all columns that it has to keep a distance
to, and it is placed where the first bound on it allows (`Column.x_placeNext_le_iff`). -/

namespace UmlSketch

open UmlSketch.Measure

/-! ## Gaps -/

namespace Gap

/-- Whether columns of some widths at some positions **keep** a list of gaps. -/
structure AreKept {count : Nat} (gaps : List (Gap ℚ)) (width x : Fin count → ℚ) : Prop where
  /-- No column is left of the diagram. -/
  nonneg : 0 ≤ x
  /-- A column ends before the next one begins. -/
  apart : ∀ i j : Fin count, i.val + 1 = j.val → x i + width i ≤ x j
  /-- The centers of two columns are as far apart as a gap between them asks. -/
  distances : ∀ gap ∈ gaps, ∀ i j : Fin count, i.val = gap.left → j.val = gap.right →
    x i + half (width i) + gap.distance ≤ x j + half (width j)

/-- Columns that do not overlap their neighbours come one after the other. -/
theorem add_width_le {count : Nat} {width x : Fin count → ℚ} (hwidth : ∀ i, 0 ≤ width i)
    (hapart : ∀ i j : Fin count, i.val + 1 = j.val → x i + width i ≤ x j) {i j : Fin count}
    (hlt : i < j) : x i + width i ≤ x j := by
  obtain ⟨i, hi⟩ := i
  obtain ⟨j, hj⟩ := j
  rw [Fin.mk_lt_mk] at hlt
  induction j, hlt using Nat.le_induction with
  | base => exact hapart _ _ rfl
  | succ j hle ih =>
    have hstep := hapart ⟨j, Nat.lt_of_succ_lt hj⟩ ⟨j + 1, hj⟩ rfl
    linarith [ih (Nat.lt_of_succ_lt hj), hwidth ⟨j, Nat.lt_of_succ_lt hj⟩]

/-- What a gap asks of its right column: the distance between the centers, room for the left column, and
not to reach over its center. -/
theorem pushes_le_iff {gap : Gap ℚ} {left column : Column ℚ} {bound : ℚ} :
    gap.pushes left column ≤ bound ↔
      left.center + gap.distance ≤ bound + half column.width ∧
        left.x + left.width ≤ bound + half column.width ∧ left.center ≤ bound := by
  have hmove : ∀ distance : ℚ, left.x + left.width / 2 + distance - column.width / 2 ≤ bound ↔
      distance ≤ bound + column.width / 2 - (left.x + left.width / 2) := fun distance => by
    constructor <;> intro h <;> linarith
  simp only [pushes, Column.center, half_eq, hmove, max_le_iff, and_assoc]
  refine and_congr ?_ (and_congr ?_ ?_) <;> constructor <;> intro h <;> linarith

/-- The room on the right of a column is the least that the gaps ask for. -/
theorem padding_le_iff {gaps : List (Gap ℚ)} {count left : Nat} {bound : ℚ} :
    padding gaps count left ≤ bound ↔
      0 ≤ bound ∧ ∀ gap ∈ gaps, gap.left = left → count ≤ gap.right → gap.distance ≤ bound := by
  have hdistances : (∀ distance ∈ (gaps.filter fun gap =>
        gap.left = left && count ≤ gap.right).map Gap.distance, distance ≤ bound) ↔
      ∀ gap ∈ gaps, gap.left = left → count ≤ gap.right → gap.distance ≤ bound := by
    simp only [List.forall_mem_map, List.mem_filter, Bool.and_eq_true, decide_eq_true_eq, and_imp]
  unfold padding
  rw [foldl_max_le_iff, hdistances, Nat.cast_zero]

theorem padding_nonneg (gaps : List (Gap ℚ)) (count left : Nat) : 0 ≤ padding gaps count left :=
  (padding_le_iff.mp le_rfl).1

/-- No room is kept on the right of a column that no gap leaves to the outside. -/
theorem padding_eq_zero {gaps : List (Gap ℚ)} {count left : Nat}
    (h : ∀ gap ∈ gaps, count ≤ gap.right → gap.left ≠ left) : padding gaps count left = 0 :=
  le_antisymm
    (padding_le_iff.mpr ⟨le_rfl, fun gap hgap hleft hright => absurd hleft (h gap hgap hright)⟩)
    (padding_nonneg gaps count left)

end Gap

/-! ## Placing columns -/

namespace Column

variable {gaps : List (Gap ℚ)} {placed : List (Column ℚ)} {edge : ℚ}

/-- **Where the next column stands**: at the least position on the right of the edge that is reached
and of all that the gaps to the placed columns ask for. -/
theorem x_placeNext_le_iff {column : Column ℚ} {bound : ℚ} :
    (placeNext gaps placed edge column).x ≤ bound ↔
      0 ≤ bound ∧ edge ≤ bound ∧ ∀ gap ∈ gaps, gap.right = placed.length →
        ∀ left, placed[gap.left]? = some left → gap.pushes left column ≤ bound := by
  have hpushed : (∀ x ∈ gaps.filterMap (fun gap =>
        if gap.right = placed.length then
          placed[gap.left]?.map fun left => gap.pushes left column
        else none), x ≤ bound) ↔
      ∀ gap ∈ gaps, gap.right = placed.length →
        ∀ left, placed[gap.left]? = some left → gap.pushes left column ≤ bound := by
    simp only [List.mem_filterMap, Option.ite_none_right_eq_some, Option.map_eq_some_iff]
    constructor
    · intro h gap hgap hright left hleft
      exact h _ ⟨gap, hgap, hright, left, hleft, rfl⟩
    · rintro h x ⟨gap, hgap, hright, left, hleft, rfl⟩
      exact h gap hgap hright left hleft
  unfold placeNext
  rw [max_le_iff, foldl_max_le_iff, hpushed, Nat.cast_zero, and_assoc]
  exact and_congr_right fun _ => and_comm

/-- **The invariant of placed columns** that end at an edge. -/
structure AreSpaced (gaps : List (Gap ℚ)) (placed : List (Column ℚ)) (edge : ℚ) : Prop where
  /-- No column is left of the diagram. -/
  nonneg : ∀ column ∈ placed, 0 ≤ column.x
  /-- A column ends before those on its right begin. -/
  apart : placed.Pairwise fun left right => left.x + left.width ≤ right.x
  /-- All columns end at the edge or before. -/
  edge : ∀ column ∈ placed, column.x + column.width ≤ edge
  /-- The gaps between placed columns are kept. -/
  distances : ∀ gap ∈ gaps, ∀ left right, placed[gap.left]? = some left →
    placed[gap.right]? = some right → left.center + gap.distance ≤ right.center

/-- The next column keeps the invariant. -/
theorem AreSpaced.placeNext (h : AreSpaced gaps placed edge) (column : Column ℚ) {room : ℚ}
    (hgaps : ∀ gap ∈ gaps, gap.left < gap.right) (hroom : 0 ≤ room) (hwidth : 0 ≤ column.width) :
    AreSpaced gaps (placed ++ [Column.placeNext gaps placed edge column])
      ((Column.placeNext gaps placed edge column).x + column.width + room) := by
  obtain ⟨hnonneg, hedge, hpushes⟩ := x_placeNext_le_iff.mp
    (le_refl (Column.placeNext gaps placed edge column).x)
  have hcolumns {P : Column ℚ → Prop} (hplaced : ∀ other ∈ placed, P other)
      (hnew : P (Column.placeNext gaps placed edge column)) :
      ∀ other ∈ placed ++ [Column.placeNext gaps placed edge column], P other :=
    List.forall_mem_append.mpr ⟨hplaced, List.forall_mem_singleton.mpr hnew⟩
  refine ⟨hcolumns h.nonneg hnonneg, ?_, ?_, ?_⟩
  · refine List.pairwise_append.mpr ⟨h.apart, List.pairwise_singleton _ _, ?_⟩
    intro left hleft right hright
    rw [List.mem_singleton.mp hright]
    exact (h.edge left hleft).trans hedge
  · refine hcolumns (fun other hother => ?_) (le_add_of_nonneg_right hroom)
    linarith [h.edge other hother]
  · intro gap hgap left right hleft hright
    have hlt := hgaps gap hgap
    obtain ⟨hrightlt, -⟩ := List.getElem?_eq_some_iff.mp hright
    rw [List.length_append, List.length_singleton] at hrightlt
    rw [List.getElem?_append_left (by omega)] at hleft
    by_cases heq : gap.right = placed.length
    · -- The gap ends at the new column, which is placed behind all that it asks for.
      rw [heq, List.getElem?_concat_length, Option.some_inj] at hright
      have hpushed := (Gap.pushes_le_iff.mp (hpushes gap hgap heq left hleft)).1
      rw [← hright]
      exact hpushed
    · rw [List.getElem?_append_left (by omega)] at hright
      exact h.distances gap hgap left right hleft hright

/-- **Placed columns keep the gaps** and do not overlap. -/
theorem AreSpaced.placeFrom (h : AreSpaced gaps placed edge)
    (hgaps : ∀ gap ∈ gaps, gap.left < gap.right) (count : Nat) {rest : List (Column ℚ)}
    (hwidth : ∀ column ∈ rest, 0 ≤ column.width) :
    AreSpaced gaps (Column.placeFrom gaps count placed edge rest).1
      (Column.placeFrom gaps count placed edge rest).2 := by
  induction rest generalizing placed edge with
  | nil => exact h
  | cons column rest ih =>
    obtain ⟨hcolumn, hrest⟩ := List.forall_mem_cons.mp hwidth
    exact ih (h.placeNext column hgaps (Gap.padding_nonneg gaps count placed.length) hcolumn) hrest

/-- The width of a column of a list whose widths are given. -/
theorem width_eq {count : Nat} {width : Fin count → ℚ} {columns : List (Column ℚ)}
    (h : columns.map Column.width = List.ofFn width) {i : Fin count} {column : Column ℚ}
    (hcolumn : columns[i.val]? = some column) : column.width = width i := by
  have hwidth : (columns.map Column.width)[i.val]? = some column.width := by
    rw [List.getElem?_map, hcolumn, Option.map_some]
  rw [h, List.getElem?_ofFn, dif_pos i.isLt] at hwidth
  exact (Option.some.inj hwidth).symm

/-- **Columns are placed as far left as can be**: wherever columns of the same widths keep the gaps,
none of them is left of the placed one. -/
theorem x_placeFrom_le {count : Nat} {width y : Fin count → ℚ} (hy : Gap.AreKept gaps width y)
    (hpositive : ∀ i, 0 ≤ width i)
    (houtside : ∀ gap ∈ gaps, count ≤ gap.right → gap.left + 1 = count) {rest : List (Column ℚ)}
    (hwidth : (placed ++ rest).map Column.width = List.ofFn width)
    (hplaced : ∀ (i : Fin count) column, placed[i.val]? = some column → column.x ≤ y i)
    (hedge : ∀ i : Fin count, i.val = placed.length → edge ≤ y i) :
    ∀ (i : Fin count) column,
      (placeFrom gaps count placed edge rest).1[i.val]? = some column → column.x ≤ y i := by
  induction rest generalizing placed edge with
  | nil => exact hplaced
  | cons column rest ih =>
    have hlt : placed.length < count := by
      have hlength := congrArg List.length hwidth
      simp only [List.length_map, List.length_append, List.length_cons, List.length_ofFn] at hlength
      omega
    let j : Fin count := ⟨placed.length, hlt⟩
    have hj : column.width = width j := width_eq hwidth (by simp [j])
    -- The column is bounded by the edge, and by gaps that begin at columns which are bounded already.
    have hx : (placeNext gaps placed edge column).x ≤ y j := by
      refine x_placeNext_le_iff.mpr ⟨hy.nonneg j, hedge j rfl, fun gap hgap hright left hleft => ?_⟩
      obtain ⟨hleftlt, -⟩ := List.getElem?_eq_some_iff.mp hleft
      let i : Fin count := ⟨gap.left, hleftlt.trans hlt⟩
      have hi : left.width = width i := width_eq hwidth (by
        rw [List.getElem?_append_left hleftlt]; exact hleft)
      have hleftx : left.x ≤ y i := hplaced i left hleft
      have hdistance := hy.distances gap hgap i j rfl hright.symm
      have hapart := Gap.add_width_le hpositive hy.apart (Fin.mk_lt_mk.mpr hleftlt : i < j)
      have hwidthi := hpositive i
      have hwidthj := hpositive j
      rw [half_eq, half_eq] at hdistance
      rw [Gap.pushes_le_iff, center, hi, hj, half_eq, half_eq]
      refine ⟨?_, ?_, ?_⟩ <;> linarith
    refine ih ?_ ?_ ?_
    · rw [← hwidth, List.append_assoc]
      simp [placeNext]
    · intro i other hother
      by_cases heq : i.val = placed.length
      · obtain rfl : i = j := Fin.ext heq
        rw [List.getElem?_concat_length] at hother
        rw [← Option.some.inj hother]
        exact hx
      · obtain ⟨hotherlt, -⟩ := List.getElem?_eq_some_iff.mp hother
        rw [List.length_append, List.length_singleton] at hotherlt
        rw [List.getElem?_append_left (by omega)] at hother
        exact hplaced i other hother
    · intro i hi
      rw [List.length_append, List.length_singleton] at hi
      -- There is another column on the right, so that no room is kept on this side of it.
      have hroom : Gap.padding gaps count placed.length = 0 :=
        Gap.padding_eq_zero fun gap hgap hright hleft => by
          have := houtside gap hgap hright
          omega
      have hapart := hy.apart j i hi.symm
      rw [hroom]
      change (placeNext gaps placed edge column).x + column.width + 0 ≤ y i
      linarith

/-- Placing columns moves them, and changes nothing else. -/
theorem map_unplaced_placeFrom {α : Type} [Add α] [Sub α] [Div α] [Max α] [NatCast α]
    (gaps : List (Gap α)) (count : Nat) (placed : List (Column α)) (edge : α)
    (rest : List (Column α)) (x : α) :
    ((placeFrom gaps count placed edge rest).1.map fun column => { column with x }) =
      (placed ++ rest).map fun column => { column with x } := by
  induction rest generalizing placed edge with
  | nil => rw [placeFrom, List.append_nil]
  | cons column rest ih =>
    rw [placeFrom, ih]
    simp [placeNext]

/-- Behind the last column there is the room that the gaps ask for. -/
theorem snd_placeFrom {α : Type} [Add α] [Sub α] [Div α] [Max α] [NatCast α]
    (gaps : List (Gap α)) (count : Nat) (placed : List (Column α)) (edge : α)
    {rest : List (Column α)} {last : Column α}
    (h : (placeFrom gaps count placed edge rest).1.getLast? = some last) (hrest : rest ≠ []) :
    (placeFrom gaps count placed edge rest).2 =
      last.x + last.width + Gap.padding gaps count (placed.length + rest.length - 1) := by
  induction rest generalizing placed edge with
  | nil => exact absurd rfl hrest
  | cons column rest ih =>
    cases rest with
    | nil =>
      rw [placeFrom, placeFrom, List.getLast?_concat] at h
      rw [← Option.some.inj h]
      rfl
    | cons next rest =>
      have hnext := ih (placed ++ [placeNext gaps placed edge column]) _ h (List.cons_ne_nil _ _)
      rw [placeFrom, hnext]
      simp [Nat.add_assoc, Nat.add_comm 1]

end Column

/-! ## The columns of a diagram -/

/-- A column holds the margins of a participant. -/
theorem Column.le_width_ofParticipant (participant : Participant) :
    40 ≤ (ofParticipant participant : Column ℚ).width := by
  have htext := TextSize.width_nonneg participant.label
  simp only [ofParticipant, actorPadding_eq, actorMargin_eq]
  push_cast
  linarith

namespace Event

/-- The width of the row of an event. -/
def rowWidth (event : Event) : ℚ := (event.measure : MeasuredEvent ℚ).width

/-- How far an event **reaches** to the right of the lifeline that it stands at: a message to its own
sender by its width, and a note by its width and the margins of a participant. Other messages stand
between two lifelines. -/
def reach? : Event → Option (Nat × ℚ)
  | .message sent =>
    if sent.isSelf then some (sent.source, (Event.message sent).rowWidth) else none
  | .note shown => some (shown.participant, (Event.note shown).rowWidth + twice actorMargin)

/-- The gap of an event that reaches to the right is one to the next column. -/
theorem gap_of_reach? {event : Event} {position : Nat} {distance : ℚ}
    (h : event.reach? = some (position, distance)) :
    (event.measure : MeasuredEvent ℚ).gap = ⟨position, position + 1, distance⟩ := by
  cases event with
  | note shown =>
    obtain ⟨rfl, rfl⟩ := Prod.mk.inj (Option.some.inj h)
    rfl
  | message sent =>
    cases hself : sent.isSelf with
    | false => simp [reach?, hself] at h
    | true =>
      rw [reach?, hself, if_pos rfl, rowWidth] at h
      obtain ⟨rfl, rfl⟩ := Prod.mk.inj (Option.some.inj h)
      simp only [measure, hself, if_true]

/-- An event reaches to the right of a participant that it refers to. -/
theorem position_mem_of_reach? {event : Event} {position : Nat} {distance : ℚ}
    (h : event.reach? = some (position, distance)) : position ∈ event.positions := by
  cases event with
  | note shown =>
    obtain ⟨rfl, -⟩ := Prod.mk.inj (Option.some.inj h)
    exact List.mem_singleton_self _
  | message sent =>
    obtain ⟨-, hreach⟩ := Option.ite_none_right_eq_some.mp h
    obtain ⟨rfl, -⟩ := Prod.mk.inj (Option.some.inj hreach)
    exact List.mem_cons_self

/-- The gap of a message to another participant is one between their columns. -/
theorem gap_of_ne {sent : Message} (h : sent.source ≠ sent.target) :
    ((Event.message sent).measure : MeasuredEvent ℚ).gap =
      ⟨min sent.source sent.target, max sent.source sent.target, (Event.message sent).rowWidth⟩ := by
  have hself : sent.isSelf = false := decide_eq_false h
  simp only [rowWidth, measure, hself, Bool.false_eq_true, if_false]

/-- An event reaches to the right, or it is a message to another participant. -/
theorem reach?_or_ne (event : Event) :
    (∃ position distance, event.reach? = some (position, distance)) ∨
      ∃ sent, event = .message sent ∧ sent.source ≠ sent.target := by
  cases event with
  | note shown => exact Or.inl ⟨_, _, rfl⟩
  | message sent =>
    by_cases h : sent.source = sent.target
    · exact Or.inl ⟨_, _, if_pos (decide_eq_true h)⟩
    · exact Or.inr ⟨sent, rfl, h⟩

end Event

namespace SequenceModel

variable (model : SequenceModel)

/-- The gaps that the events of a diagram ask for. -/
def gaps : List (Gap ℚ) := (model.events.map Event.measure).map MeasuredEvent.gap

theorem mem_gaps_iff {model : SequenceModel} {gap : Gap ℚ} :
    gap ∈ model.gaps ↔ ∃ event ∈ model.events, (event.measure : MeasuredEvent ℚ).gap = gap := by
  simp only [gaps, List.map_map, List.mem_map, Function.comp_apply]

/-- The width of the column of a participant. -/
def columnWidth (i : Fin model.participants.length) : ℚ :=
  (Column.ofParticipant (model.participants.get i) : Column ℚ).width

theorem columnWidth_nonneg (i : Fin model.participants.length) : 0 ≤ model.columnWidth i :=
  le_trans (by norm_num) (Column.le_width_ofParticipant _)

/-- Where the lifeline of a participant runs when its column stands at a position. -/
def center (x : Fin model.participants.length → ℚ) (i : Fin model.participants.length) : ℚ :=
  x i + half (model.columnWidth i)

/-- Whether the participants of a diagram may stand at some positions. -/
structure Allows (x : Fin model.participants.length → ℚ) : Prop where
  /-- No column is left of the diagram. -/
  nonneg : 0 ≤ x
  /-- A column ends before the next one begins. -/
  apart : ∀ i j : Fin model.participants.length, i.val + 1 = j.val → x i + model.columnWidth i ≤ x j
  /-- The row of a message fits between its ends. -/
  messages : ∀ sent, Event.message sent ∈ model.events → ∀ i j : Fin model.participants.length,
    i.val = sent.source → j.val = sent.target → i ≠ j →
      (Event.message sent).rowWidth ≤ |model.center x i - model.center x j|
  /-- What reaches to the right of a lifeline does not reach over the next one. -/
  reaches : ∀ event ∈ model.events, ∀ i j : Fin model.participants.length, ∀ distance,
    event.reach? = some (i.val, distance) → i.val + 1 = j.val →
      model.center x i + distance ≤ model.center x j

variable {model}

/-- Columns that do not overlap have their centers in order. -/
theorem center_le {x : Fin model.participants.length → ℚ}
    (hapart : ∀ i j : Fin model.participants.length,
      i.val + 1 = j.val → x i + model.columnWidth i ≤ x j)
    {i j : Fin model.participants.length} (hlt : i < j) : model.center x i ≤ model.center x j := by
  have hle := Gap.add_width_le model.columnWidth_nonneg hapart hlt
  have hi := model.columnWidth_nonneg i
  have hj := model.columnWidth_nonneg j
  rw [center, center, half_eq, half_eq]
  linarith

/-- The distance between two columns is that from the left one to the right one. -/
theorem forall_le_abs_iff {x : Fin model.participants.length → ℚ}
    (hapart : ∀ i j : Fin model.participants.length,
      i.val + 1 = j.val → x i + model.columnWidth i ≤ x j)
    {source target : Nat} (hne : source ≠ target) {distance : ℚ} :
    (∀ i j : Fin model.participants.length, i.val = source → j.val = target →
        distance ≤ |model.center x i - model.center x j|) ↔
      ∀ i j : Fin model.participants.length, i.val = min source target → j.val = max source target →
        model.center x i + distance ≤ model.center x j := by
  have habs : ∀ i j : Fin model.participants.length, i.val < j.val →
      (distance ≤ |model.center x j - model.center x i| ↔
        model.center x i + distance ≤ model.center x j) := fun i j hlt => by
    rw [abs_of_nonneg (sub_nonneg.mpr (center_le hapart hlt)), le_sub_iff_add_le']
  rcases Nat.lt_or_gt_of_ne hne with hlt | hlt
  · rw [min_eq_left hlt.le, max_eq_right hlt.le]
    refine forall₄_congr fun i j hi hj => ?_
    rw [abs_sub_comm, habs i j (by omega)]
  · rw [min_eq_right hlt.le, max_eq_left hlt.le]
    constructor
    · exact fun h i j hi hj => (habs i j (by omega)).mp (h j i hj hi)
    · exact fun h i j hi hj => (habs j i (by omega)).mpr (h j i hj hi)

/-- **What events ask of columns** are the gaps that they are measured by. -/
theorem allows_iff {x : Fin model.participants.length → ℚ} :
    model.Allows x ↔ Gap.AreKept model.gaps model.columnWidth x := by
  constructor
  · intro h
    refine ⟨h.nonneg, h.apart, fun gap hgap i j hi hj => ?_⟩
    obtain ⟨event, hevent, rfl⟩ := mem_gaps_iff.mp hgap
    rcases event.reach?_or_ne with ⟨position, distance, hreach⟩ | ⟨sent, rfl, hne⟩
    · rw [Event.gap_of_reach? hreach] at hi hj ⊢
      subst hi
      exact h.reaches event hevent i j distance hreach hj.symm
    · rw [Event.gap_of_ne hne] at hi hj ⊢
      refine (forall_le_abs_iff h.apart hne).mp (fun i j hi hj => ?_) i j hi hj
      exact h.messages sent hevent i j hi hj fun heq => hne (by rw [← hi, ← hj, heq])
  · intro h
    refine ⟨h.nonneg, h.apart, fun sent hsent i j hi hj hne => ?_,
      fun event hevent i j distance hreach hj => ?_⟩
    · have hends : sent.source ≠ sent.target := fun heq => hne (Fin.ext (by rw [hi, hj, heq]))
      have hdistance := h.distances _ (mem_gaps_iff.mpr ⟨_, hsent, rfl⟩)
      rw [Event.gap_of_ne hends] at hdistance
      exact (forall_le_abs_iff h.apart hends).mpr hdistance i j hi hj
    · have hdistance := h.distances _ (mem_gaps_iff.mpr ⟨event, hevent, rfl⟩) i j
      rw [Event.gap_of_reach? hreach] at hdistance
      exact hdistance rfl hj.symm

/-- A gap that ends on the right of all columns is that of an event that reaches there from the last
one, if the events of the diagram refer to its participants. -/
theorem reach?_of_le_right (h : model.InRange) {gap : Gap ℚ} (hgap : gap ∈ model.gaps)
    (hright : model.participants.length ≤ gap.right) :
    gap.left + 1 = model.participants.length ∧
      ∃ event ∈ model.events, event.reach? = some (gap.left, gap.distance) := by
  obtain ⟨event, hevent, rfl⟩ := mem_gaps_iff.mp hgap
  rcases event.reach?_or_ne with ⟨position, distance, hreach⟩ | ⟨sent, rfl, hne⟩
  · have hposition := h event hevent position (Event.position_mem_of_reach? hreach)
    rw [Event.gap_of_reach? hreach] at hright ⊢
    exact ⟨le_antisymm hposition hright, event, hevent, hreach⟩
  · have hsource := h _ hevent sent.source (by simp [Event.positions])
    have htarget := h _ hevent sent.target (by simp [Event.positions])
    rw [Event.gap_of_ne hne] at hright
    exact absurd (max_lt hsource htarget) (Nat.not_lt.mpr hright)

/-- The room on the right of the last column is the least that what reaches there asks for. -/
theorem isLeast_padding (h : model.InRange) {left : Nat}
    (hleft : left + 1 = model.participants.length) :
    IsLeast
      {room : ℚ | 0 ≤ room ∧ ∀ event ∈ model.events, ∀ distance,
        event.reach? = some (left, distance) → distance ≤ room}
      (Gap.padding model.gaps model.participants.length left) := by
  have hiff : ∀ room : ℚ, Gap.padding model.gaps model.participants.length left ≤ room ↔
      0 ≤ room ∧ ∀ event ∈ model.events, ∀ distance,
        event.reach? = some (left, distance) → distance ≤ room := by
    intro room
    rw [Gap.padding_le_iff]
    refine and_congr_right fun _ => ⟨fun hgaps event hevent distance hreach => ?_,
      fun hreaches gap hgap hgapleft hright => ?_⟩
    · have hgap := mem_gaps_iff.mpr ⟨event, hevent, Event.gap_of_reach? hreach⟩
      exact hgaps _ hgap rfl hleft.ge
    · obtain ⟨-, event, hevent, hreach⟩ := reach?_of_le_right h hgap hright
      exact hreaches event hevent gap.distance (hgapleft ▸ hreach)
  exact ⟨(hiff _).mp le_rfl, fun room hroom => (hiff room).mpr hroom⟩

end SequenceModel

namespace Layout

/-- Whether the layout of a diagram is as **tight** as its texts allow. -/
structure IsTight (model : SequenceModel) (layout : Layout ℚ) : Prop where
  /-- The columns are those of the participants, at the least positions that the events allow. -/
  columns : ∃ x : Fin model.participants.length → ℚ, IsLeast {y | model.Allows y} x ∧
    layout.columns =
      List.ofFn fun i => { Column.ofParticipant (model.participants.get i) with x := x i }
  /-- The margin on the right of the last column holds what reaches there, and no more. -/
  margin : ∀ last ∈ layout.columns.getLast?,
    IsLeast
      {room : ℚ | 0 ≤ room ∧ ∀ event ∈ model.events, ∀ distance,
        event.reach? = some (model.participants.length - 1, distance) → distance ≤ room}
      (layout.width - twice diagramMargin - (last.x + last.width))
  /-- Each event has a row of its width. -/
  widths : layout.rows.map Row.width = model.events.map Event.rowWidth
  /-- The rows fill the space between the upper and the lower boxes of the participants. -/
  rows : Row.Tiles (layout.topActorsY + layout.actorsHeight) layout.bottomActorsY layout.rows

theorem columns_compute (model : SequenceModel) :
    (compute model : Layout ℚ).columns =
      (Column.placeAll model.gaps (model.participants.map Column.ofParticipant)).1 := rfl

theorem width_compute (model : SequenceModel) :
    (compute model : Layout ℚ).width =
      twice diagramMargin +
        (Column.placeAll model.gaps (model.participants.map Column.ofParticipant)).2 := rfl

/-- The columns of a diagram keep its gaps, and its width holds them. -/
theorem areSpaced_columns (model : SequenceModel) :
    Column.AreSpaced model.gaps (compute model : Layout ℚ).columns
      ((compute model : Layout ℚ).width - twice diagramMargin) := by
  have hgaps : ∀ gap ∈ model.gaps, gap.left < gap.right := by
    intro gap hgap
    obtain ⟨event, -, rfl⟩ := SequenceModel.mem_gaps_iff.mp hgap
    exact event.left_lt_right_measure
  have hwidths : ∀ column ∈ model.participants.map Column.ofParticipant,
      0 ≤ (column : Column ℚ).width :=
    List.forall_mem_map.mpr fun participant _ =>
      le_trans (by norm_num) (Column.le_width_ofParticipant participant)
  have hnone : Column.AreSpaced model.gaps [] 0 :=
    ⟨by simp, List.Pairwise.nil, by simp, by simp⟩
  rw [columns_compute, width_compute, add_sub_cancel_left]
  exact hnone.placeFrom hgaps _ hwidths

/-- The columns of a diagram are those of its participants, at some positions. -/
theorem exists_columns_eq (model : SequenceModel) :
    ∃ x : Fin model.participants.length → ℚ, (compute model : Layout ℚ).columns =
      List.ofFn fun i => { Column.ofParticipant (model.participants.get i) with x := x i } := by
  have hlength : (compute model : Layout ℚ).columns.length = model.participants.length :=
    length_columns_compute model
  have hmap : ((compute model : Layout ℚ).columns.map fun column => { column with x := 0 }) =
      (model.participants.map Column.ofParticipant).map fun column => { column with x := 0 } := by
    rw [columns_compute, Column.placeAll, Column.map_unplaced_placeFrom, List.nil_append]
  refine ⟨fun i => ((compute model : Layout ℚ).columns.get (i.cast hlength.symm)).x,
    List.ext_getElem (by simp [hlength]) fun index hcolumn hindex => ?_⟩
  have hget := List.getElem_of_eq hmap (by rwa [List.length_map] : index < _)
  rw [List.getElem_map, List.getElem_map, List.getElem_map] at hget
  obtain ⟨-, hwidth, htext⟩ := (Column.mk.injEq ..).mp hget
  rw [List.getElem_ofFn]
  exact (Column.mk.injEq ..).mpr ⟨rfl, hwidth, htext⟩

section Positions

variable {model : SequenceModel} {x : Fin model.participants.length → ℚ}

/-- The column of a participant, when the positions of all columns are known. -/
theorem getElem?_columns
    (hx : (compute model : Layout ℚ).columns =
      List.ofFn fun i => { Column.ofParticipant (model.participants.get i) with x := x i })
    (i : Fin model.participants.length) :
    (compute model : Layout ℚ).columns[i.val]? =
      some { Column.ofParticipant (model.participants.get i) with x := x i } := by
  rw [hx, List.getElem?_ofFn, dif_pos i.isLt]

/-- The columns stand where the events allow. -/
theorem allows_of_columns_eq
    (hx : (compute model : Layout ℚ).columns =
      List.ofFn fun i => { Column.ofParticipant (model.participants.get i) with x := x i }) :
    model.Allows x := by
  have hcolumn := getElem?_columns hx
  have hspaced := areSpaced_columns model
  refine SequenceModel.allows_iff.mpr ⟨fun i => ?_, fun i j hij => ?_, fun gap hgap i j hi hj => ?_⟩
  · exact hspaced.nonneg _ (List.mem_of_getElem? (hcolumn i))
  · obtain ⟨hi, hleft⟩ := List.getElem?_eq_some_iff.mp (hcolumn i)
    obtain ⟨hj, hright⟩ := List.getElem?_eq_some_iff.mp (hcolumn j)
    have hapart := List.pairwise_iff_getElem.mp hspaced.apart i.val j.val hi hj (by omega)
    rwa [hleft, hright] at hapart
  · exact hspaced.distances gap hgap _ _ (hi ▸ hcolumn i) (hj ▸ hcolumn j)

/-- No column stands further to the left anywhere that the events allow. -/
theorem le_of_allows (h : model.InRange)
    (hx : (compute model : Layout ℚ).columns =
      List.ofFn fun i => { Column.ofParticipant (model.participants.get i) with x := x i })
    {y : Fin model.participants.length → ℚ} (hy : model.Allows y) : x ≤ y := by
  intro i
  have hwidths : (model.participants.map Column.ofParticipant).map Column.width =
      List.ofFn model.columnWidth := by
    rw [List.map_map]
    exact (List.ofFn_getElem_eq_map model.participants _).symm
  have hcolumn := getElem?_columns hx i
  rw [columns_compute, Column.placeAll, List.length_map] at hcolumn
  exact Column.x_placeFrom_le (SequenceModel.allows_iff.mp hy) model.columnWidth_nonneg
    (fun gap hgap hright => (SequenceModel.reach?_of_le_right h hgap hright).1) hwidths
    (fun _ _ hplaced => by simp at hplaced) (fun i _ => hy.nonneg i) i _ hcolumn

end Positions

/-- A diagram with a last column has a participant. -/
theorem length_participants_pos {model : SequenceModel} {last : Column ℚ}
    (h : (compute model : Layout ℚ).columns.getLast? = some last) :
    0 < model.participants.length := by
  rw [← length_columns_compute (α := ℚ) model]
  exact List.length_pos_of_mem (List.mem_of_getLast? h)

/-- The width of a diagram ends with the room on the right of its last column. -/
theorem width_eq_add_padding {model : SequenceModel} {last : Column ℚ}
    (h : (compute model : Layout ℚ).columns.getLast? = some last) :
    (compute model : Layout ℚ).width =
      twice diagramMargin + (last.x + last.width +
        Gap.padding model.gaps model.participants.length (model.participants.length - 1)) := by
  have hrest : model.participants.map (Column.ofParticipant (α := ℚ)) ≠ [] :=
    List.map_eq_nil_iff.not.mpr (List.ne_nil_of_length_pos (length_participants_pos h))
  rw [columns_compute, Column.placeAll] at h
  rw [width_compute, Column.placeAll, Column.snd_placeFrom _ _ _ _ h hrest, List.length_nil,
    zero_add, List.length_map]

/-- **The layout of a diagram** whose events refer to its participants **is tight**. -/
theorem isTight_compute {model : SequenceModel} (h : model.InRange) :
    IsTight model (compute model) where
  columns := by
    obtain ⟨x, hx⟩ := exists_columns_eq model
    exact ⟨x, ⟨allows_of_columns_eq hx, fun _ hy => le_of_allows h hx hy⟩, hx⟩
  margin last hlast := by
    have hleft : model.participants.length - 1 + 1 = model.participants.length :=
      Nat.succ_pred_eq_of_pos (length_participants_pos hlast)
    rw [width_eq_add_padding hlast, add_sub_cancel_left, add_sub_cancel_left]
    exact SequenceModel.isLeast_padding h hleft
  widths := map_width_rows_compute model
  rows := tiles_rows_compute model

/-- A long message between the outer of three participants, a message of the middle one to itself, and a
note that reaches over the last one: the message pushes the last column to the right, and the note is
given room on the right of it. -/
theorem isTight_compute_long_message :
    let participant (name : String) : Participant := ⟨name.toList, name.toList, none⟩
    let message (source target : Nat) (text : String) : Event :=
      .message ⟨source, target, text.toList, .solid, .filled, none, none⟩
    let model : SequenceModel :=
      { participants := [participant "A", participant "B", participant "C"]
        events := [message 2 0 "a long way to go", message 1 1 "think",
          .note ⟨2, "done".toList, none⟩] }
    model.InRange ∧
      ((compute model : Layout ℚ).columns.map Column.x = [0, 97 / 2, 156] ∧
        (compute model : Layout ℚ).width = 617 / 2) ∧
      IsTight model (compute model) := by
  intro participant message model
  have hrange : model.InRange := by
    unfold SequenceModel.InRange
    decide
  exact ⟨hrange, by decide +kernel, isTight_compute hrange⟩

end Layout

end UmlSketch
