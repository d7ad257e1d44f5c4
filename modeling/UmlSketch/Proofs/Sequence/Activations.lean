import Mathlib.Data.List.GetD
import Mathlib.Data.List.Induction
import UmlSketch.Proofs.Sequence.Rows

/-! # Activation boxes
The marks of a participant act on its lifeline alone: on the stack of its open boxes and on its closed
ones (`FocusState.lifeline_foldl`). Since marks come in the order of their heights, boxes of one level
follow one another, and a box lies within the one that it is opened in (`Lifeline.IsNested`). So the
activation boxes of a diagram are nested as its marks are. -/

namespace UmlSketch

open UmlSketch.Measure

/-! ## Lifelines -/

/-- What has become of the marks of one participant, its **lifeline**. -/
structure Lifeline (α : Type) where
  /-- The tops of the open boxes, the innermost first. -/
  openTops : List α
  /-- The closed boxes, in the order in which they were closed. -/
  closed : List (ActivationBox α)
  deriving DecidableEq, Repr

namespace Lifeline

variable {α : Type}

/-- Applies a mark of the participant. One that closes a box where none is open does nothing. -/
def apply (line : Lifeline α) (mark : FocusMark α) : Lifeline α :=
  match mark.activation, line.openTops with
  | .opens, tops => { line with openTops := mark.y :: tops }
  | .closes, top :: outer =>
    ⟨outer, line.closed ++ [⟨mark.participant, outer.length, top, mark.y⟩]⟩
  | .closes, [] => line

/-- All boxes of the participant, when those that are open run down to `bottom`. -/
def boxes (line : Lifeline α) (participant : Nat) (bottom : α) : List (ActivationBox α) :=
  line.closed ++ FocusState.openBoxes participant line.openTops bottom

/-- The top of the open box of a level. -/
def topAt? (line : Lifeline α) (level : Nat) : Option α := line.openTops.reverse[level]?

/-- The innermost of the open boxes has the highest level. -/
theorem topAt?_cons (top : α) (outer : List α) (closed : List (ActivationBox α)) (level : Nat) :
    topAt? ⟨top :: outer, closed⟩ level =
      if level = outer.length then some top else topAt? ⟨outer, closed⟩ level := by
  simp only [topAt?, List.reverse_cons, List.getElem?_append, List.length_reverse]
  split_ifs with hlt heq heq
  · omega
  · rfl
  · simp [heq]
  · rw [List.getElem?_eq_none (by simp; omega), List.getElem?_eq_none (by simp; omega)]

theorem length_boxes (line : Lifeline α) (participant : Nat) (bottom : α) :
    (line.boxes participant bottom).length = line.closed.length + line.openTops.length := by
  simp [boxes, FocusState.openBoxes]

/-- Every mark that opens a box adds one, and no other does. -/
theorem length_foldl_apply (line : Lifeline α) (marks : List (FocusMark α)) :
    (marks.foldl apply line).closed.length + (marks.foldl apply line).openTops.length =
      line.closed.length + line.openTops.length +
        (marks.map FocusMark.activation).count .opens := by
  induction marks generalizing line with
  | nil => rfl
  | cons mark rest ih =>
    obtain ⟨tops, closed⟩ := line
    obtain ⟨participant, activation, y⟩ := mark
    rw [List.foldl_cons, ih, List.map_cons]
    match activation, tops with
    | .opens, tops => simp only [apply, List.length_cons, List.count_cons_self]; omega
    | .closes, top :: outer => simp [apply]; omega
    | .closes, [] => simp [apply]

theorem mem_openBoxes_iff {line : Lifeline α} {participant : Nat} {bottom : α}
    {box : ActivationBox α} :
    box ∈ FocusState.openBoxes participant line.openTops bottom ↔
      ∃ level, ∃ top ∈ line.topAt? level, box = ⟨participant, level, top, bottom⟩ := by
  simp only [FocusState.openBoxes, List.mem_mapIdx, topAt?, Option.mem_def,
    List.getElem?_eq_some_iff]
  constructor
  · rintro ⟨level, hlt, rfl⟩
    exact ⟨level, _, ⟨hlt, rfl⟩, rfl⟩
  · rintro ⟨level, top, ⟨hlt, rfl⟩, rfl⟩
    exact ⟨level, hlt, rfl⟩

end Lifeline

/-- No two open boxes of a participant have the same level. -/
theorem FocusState.pairwise_openBoxes {α : Type} (participant : Nat) (tops : List α) (bottom : α) :
    (openBoxes participant tops bottom).Pairwise fun first second => first.level ≠ second.level := by
  rw [List.pairwise_iff_getElem]
  intro i j hi hj hlt
  simp only [openBoxes, List.getElem_mapIdx]
  omega

/-! ## Projecting onto a participant -/

namespace FocusState

variable {α : Type}

/-- The lifeline of a participant. -/
def lifeline (state : FocusState α) (participant : Nat) : Lifeline α :=
  ⟨state.openTops.getD participant [], state.closed.filter fun box => box.participant = participant⟩

/-- A mark acts on the lifeline of its participant. -/
theorem lifeline_apply_self {state : FocusState α} {mark : FocusMark α}
    (h : mark.participant < state.openTops.length) :
    (state.apply mark).lifeline mark.participant = (state.lifeline mark.participant).apply mark := by
  obtain ⟨participant, activation, y⟩ := mark
  cases activation with
  | opens => simp_all [FocusState.apply, lifeline, Lifeline.apply, List.getD]
  | closes =>
    cases hstack : state.openTops.getD participant [] with
    | nil => simp only [FocusState.apply, lifeline, Lifeline.apply, hstack]
    | cons top outer =>
      simp only [FocusState.apply, lifeline, Lifeline.apply, hstack]
      simp_all [List.getD]

/-- A mark leaves the lifelines of the other participants alone. -/
theorem lifeline_apply_other {participant : Nat} (state : FocusState α) {mark : FocusMark α}
    (h : mark.participant ≠ participant) :
    (state.apply mark).lifeline participant = state.lifeline participant := by
  unfold FocusState.apply lifeline
  simp only
  split <;> simp [List.getD, h]

/-- A mark keeps the number of stacks. -/
theorem length_openTops_apply (state : FocusState α) (mark : FocusMark α) :
    (state.apply mark).openTops.length = state.openTops.length := by
  unfold FocusState.apply
  simp only
  split <;> simp

/-- **The marks of a participant make its lifeline.** -/
theorem lifeline_foldl {state : FocusState α} {marks : List (FocusMark α)} (participant : Nat)
    (h : ∀ mark ∈ marks, mark.participant < state.openTops.length) :
    (marks.foldl FocusState.apply state).lifeline participant =
      (marks.filter fun mark => mark.participant = participant).foldl Lifeline.apply
        (state.lifeline participant) := by
  induction marks generalizing state with
  | nil => rfl
  | cons mark rest ih =>
    obtain ⟨hmark, hrest⟩ := List.forall_mem_cons.mp h
    rw [← length_openTops_apply state mark] at hrest
    rw [List.foldl_cons, ih hrest]
    by_cases heq : mark.participant = participant
    · subst heq
      rw [List.filter_cons_of_pos (by simp), List.foldl_cons, lifeline_apply_self hmark]
    · rw [List.filter_cons_of_neg (by simpa using heq), lifeline_apply_other state heq]

/-- Among the open boxes of all participants, those of one are made of its stack. -/
theorem filter_flatten_openBoxes (allTops : List (List α)) (participant : Nat) (bottom : α) :
    (allTops.mapIdx fun index tops => openBoxes index tops bottom).flatten.filter
        (fun box => box.participant = participant) =
      openBoxes participant (allTops.getD participant []) bottom := by
  have hone : ∀ index tops, (openBoxes index tops bottom).filter
      (fun box : ActivationBox α => box.participant = participant) =
        if index = participant then openBoxes index tops bottom else [] := by
    intro index tops
    split_ifs with heq
    · exact List.filter_eq_self.mpr fun box hbox => by
        obtain ⟨level, -, rfl⟩ := List.mem_mapIdx.mp hbox
        simpa using heq
    · exact List.filter_eq_nil_iff.mpr fun box hbox => by
        obtain ⟨level, -, rfl⟩ := List.mem_mapIdx.mp hbox
        simpa using heq
  induction allTops using List.reverseRecOn with
  | nil => rfl
  | append_singleton others tops ih =>
    rw [List.mapIdx_concat, List.flatten_concat, List.filter_append, ih, hone]
    rcases Nat.lt_trichotomy participant others.length with hlt | rfl | hgt
    · rw [if_neg (by omega), List.append_nil, List.getD_append _ _ _ _ hlt]
    · rw [if_pos rfl, List.getD_append_right _ _ _ _ le_rfl, List.getD_eq_default _ _ le_rfl]
      simp [openBoxes]
    · rw [if_neg (by omega), List.append_nil, List.getD_eq_default _ _ hgt.le,
        List.getD_eq_default _ _ (by simp; omega)]

/-- The boxes of a participant are those of its lifeline. -/
theorem filter_boxes_perm (state : FocusState α) (participant : Nat) (bottom : α) :
    ((state.boxes bottom).filter fun box => box.participant = participant).Perm
      ((state.lifeline participant).boxes participant bottom) := by
  unfold FocusState.boxes
  refine ((List.mergeSort_perm _ _).filter _).trans (List.Perm.of_eq ?_)
  rw [List.filter_append, filter_flatten_openBoxes]
  rfl

/-- The boxes are listed by their levels. -/
theorem pairwise_level_boxes (state : FocusState α) (bottom : α) :
    (state.boxes bottom).Pairwise fun first second => first.level ≤ second.level := by
  unfold FocusState.boxes
  refine List.Pairwise.imp (fun hle => of_decide_eq_true hle)
    (List.pairwise_mergeSort (fun first second third hfirst hsecond => ?_) (fun first second => ?_) _)
  · exact decide_eq_true ((of_decide_eq_true hfirst).trans (of_decide_eq_true hsecond))
  · simpa using Nat.le_total first.level second.level

end FocusState

/-! ## Nesting -/

/-- Whether the boxes of one participant between two heights are **nested**. -/
structure ActivationBox.AreNested (boxes : List (ActivationBox ℚ)) (start stop : ℚ) : Prop where
  /-- No box ends above its top. -/
  upright : ∀ box ∈ boxes, start ≤ box.top ∧ box.top ≤ box.bottom ∧ box.bottom ≤ stop
  /-- Of two boxes of one level, one ends where the other begins or above. -/
  apart : boxes.Pairwise fun first second =>
    first.level = second.level → first.bottom ≤ second.top ∨ second.bottom ≤ first.top
  /-- A box of a higher level lies within one of the level below. -/
  inside : ∀ box ∈ boxes, ∀ level, box.level = level + 1 →
    ∃ outer ∈ boxes, outer.level = level ∧ outer.top ≤ box.top ∧ box.bottom ≤ outer.bottom

/-- Whether boxes are nested does not depend on how they are listed. -/
theorem ActivationBox.AreNested.of_perm {boxes others : List (ActivationBox ℚ)} {start stop : ℚ}
    (h : AreNested boxes start stop) (hperm : boxes.Perm others) : AreNested others start stop where
  upright box hbox := h.upright box (hperm.mem_iff.mpr hbox)
  apart := (hperm.pairwise_iff fun hapart heq => (hapart heq.symm).symm).mp h.apart
  inside box hbox level hlevel := by
    obtain ⟨outer, houter, hinside⟩ := h.inside box (hperm.mem_iff.mpr hbox) level hlevel
    exact ⟨outer, hperm.mem_iff.mp houter, hinside⟩

namespace Lifeline

/-- **The invariant of a lifeline** whose marks so far are between two heights. -/
structure IsNested (line : Lifeline ℚ) (start now : ℚ) : Prop where
  /-- The open boxes were opened between the two heights. -/
  opened : ∀ top ∈ line.openTops, start ≤ top ∧ top ≤ now
  /-- A box was opened after the ones that it is in. -/
  ordered : line.openTops.Pairwise fun inner outer => outer ≤ inner
  /-- The closed boxes lie between the two heights. -/
  closed : ∀ box ∈ line.closed, start ≤ box.top ∧ box.top ≤ box.bottom ∧ box.bottom ≤ now
  /-- Closed boxes of one level follow one another. -/
  apart : line.closed.Pairwise fun first second =>
    first.level = second.level → first.bottom ≤ second.top
  /-- The closed boxes of a level end before the open one begins. -/
  before : ∀ box ∈ line.closed, ∀ top ∈ line.topAt? box.level, box.bottom ≤ top
  /-- The box that a closed box lies in is closed or still open. -/
  inside : ∀ box ∈ line.closed, ∀ level, box.level = level + 1 →
    (∃ outer ∈ line.closed,
        outer.level = level ∧ outer.top ≤ box.top ∧ box.bottom ≤ outer.bottom) ∨
      ∃ top ∈ line.topAt? level, top ≤ box.top

namespace IsNested

variable {line : Lifeline ℚ} {start now : ℚ}

/-- A lifeline without boxes is nested. -/
theorem empty (start now : ℚ) : IsNested ⟨[], []⟩ start now where
  opened := by simp
  ordered := .nil
  closed := by simp
  apart := .nil
  before := by simp
  inside := by simp

/-- Time may pass without a mark. -/
theorem of_le (h : line.IsNested start now) {later : ℚ} (hle : now ≤ later) :
    line.IsNested start later where
  opened top htop := ⟨(h.opened top htop).1, (h.opened top htop).2.trans hle⟩
  ordered := h.ordered
  closed box hbox :=
    ⟨(h.closed box hbox).1, (h.closed box hbox).2.1, (h.closed box hbox).2.2.trans hle⟩
  apart := h.apart
  before := h.before
  inside := h.inside

/-- The top of an open box lies between the two heights. -/
theorem le_topAt? (h : line.IsNested start now) {level : Nat} {top : ℚ}
    (htop : top ∈ line.topAt? level) : start ≤ top ∧ top ≤ now :=
  h.opened top (List.mem_reverse.mp (List.mem_of_getElem? htop))

/-- The box that an open box is in was opened before it. -/
theorem exists_topAt? (h : line.IsNested start now) {level : Nat} {top : ℚ}
    (htop : top ∈ line.topAt? (level + 1)) : ∃ outer ∈ line.topAt? level, outer ≤ top := by
  have hordered : line.openTops.reverse.Pairwise fun outer inner => outer ≤ inner :=
    List.pairwise_reverse.mpr h.ordered
  obtain ⟨hlt, rfl⟩ := List.getElem?_eq_some_iff.mp htop
  have houter : level < line.openTops.reverse.length := Nat.lt_of_succ_lt hlt
  exact ⟨_, List.getElem?_eq_getElem houter,
    List.pairwise_iff_getElem.mp hordered level (level + 1) houter hlt (Nat.lt_succ_self level)⟩

/-- A box may be opened. -/
theorem opens {tops : List ℚ} {closed : List (ActivationBox ℚ)}
    (h : IsNested ⟨tops, closed⟩ start now) (hstart : start ≤ now) :
    IsNested ⟨now :: tops, closed⟩ start now where
  opened := List.forall_mem_cons.mpr ⟨⟨hstart, le_rfl⟩, h.opened⟩
  ordered := List.pairwise_cons.mpr ⟨fun top htop => (h.opened top htop).2, h.ordered⟩
  closed := h.closed
  apart := h.apart
  before box hbox top htop := by
    rw [topAt?_cons] at htop
    split_ifs at htop
    · rw [← Option.some.inj htop]
      exact (h.closed box hbox).2.2
    · exact h.before box hbox top htop
  inside box hbox level hlevel := by
    rcases h.inside box hbox level hlevel with hclosed | ⟨top, htop, hle⟩
    · exact Or.inl hclosed
    · -- The box that it lies in is not the new one, which is further in than all that are open.
      have hne : level ≠ tops.length := by
        rintro rfl
        simp [topAt?] at htop
      exact Or.inr ⟨top, by rwa [topAt?_cons, if_neg hne], hle⟩

/-- The innermost of the open boxes may be closed. -/
theorem closes {participant : Nat} {top : ℚ} {outer : List ℚ} {closed : List (ActivationBox ℚ)}
    (h : IsNested ⟨top :: outer, closed⟩ start now) :
    IsNested ⟨outer, closed ++ [⟨participant, outer.length, top, now⟩]⟩ start now := by
  obtain ⟨⟨hstart, hnow⟩, houter⟩ := List.forall_mem_cons.mp h.opened
  obtain ⟨hinner, hordered⟩ := List.pairwise_cons.mp h.ordered
  -- The levels below that of the closed box keep their tops, and its own has none any more.
  have hnone : topAt? ⟨outer, closed⟩ outer.length = none := by simp [topAt?]
  have htops : ∀ level ≠ outer.length,
      topAt? ⟨top :: outer, closed⟩ level = topAt? ⟨outer, closed⟩ level := fun level hne => by
    rw [topAt?_cons, if_neg hne]
  have htop : top ∈ topAt? ⟨top :: outer, closed⟩ outer.length := by
    rw [topAt?_cons, if_pos rfl]
    rfl
  refine ⟨houter, hordered, ?_, ?_, ?_, ?_⟩
  · intro box hbox
    rcases List.mem_append.mp hbox with hbox | hbox
    · exact h.closed box hbox
    · rw [List.mem_singleton.mp hbox]
      exact ⟨hstart, hnow, le_rfl⟩
  · refine List.pairwise_append.mpr ⟨h.apart, List.pairwise_singleton _ _, ?_⟩
    rintro box hbox last hlast hlevel
    obtain rfl := List.mem_singleton.mp hlast
    exact h.before box hbox top (hlevel ▸ htop)
  · intro box hbox other hother
    rcases List.mem_append.mp hbox with hbox | hbox
    · by_cases hlevel : box.level = outer.length
      · rw [hlevel] at hother
        exact absurd (hnone.symm.trans hother) (by simp)
      · exact h.before box hbox other (htops _ hlevel ▸ hother)
    · rw [List.mem_singleton.mp hbox] at hother
      exact absurd (hnone.symm.trans hother) (by simp)
  · intro box hbox level hlevel
    rcases List.mem_append.mp hbox with hbox | hbox
    · rcases h.inside box hbox level hlevel with ⟨other, hother, hinside⟩ | ⟨other, hother, hle⟩
      · exact Or.inl ⟨other, List.mem_append_left _ hother, hinside⟩
      · by_cases heq : level = outer.length
        · -- The box that it lies in is the one that is closed now.
          subst heq
          obtain rfl := Option.some.inj (htop.symm.trans hother)
          exact Or.inl ⟨_, List.mem_append_right _ (List.mem_singleton_self _), rfl, hle,
            (h.closed box hbox).2.2⟩
        · exact Or.inr ⟨other, htops level heq ▸ hother, hle⟩
    · obtain rfl := List.mem_singleton.mp hbox
      have hsucc : top ∈ topAt? ⟨top :: outer, closed⟩ (level + 1) := hlevel ▸ htop
      obtain ⟨other, hother, hle⟩ := h.exists_topAt? hsucc
      have hne : level ≠ outer.length := by
        rintro rfl
        simp at hlevel
      exact Or.inr ⟨other, htops level hne ▸ hother, hle⟩

/-- **A mark keeps the invariant**, if it is not above the height that is reached. -/
theorem apply (h : line.IsNested start now) {mark : FocusMark ℚ} (hstart : start ≤ now)
    (hmark : now ≤ mark.y) : (line.apply mark).IsNested start mark.y := by
  have hlater := h.of_le hmark
  obtain ⟨tops, closed⟩ := line
  obtain ⟨participant, activation, y⟩ := mark
  match activation, tops with
  | .opens, tops => exact hlater.opens (hstart.trans hmark)
  | .closes, top :: outer => exact hlater.closes
  | .closes, [] => exact hlater

/-- **Marks that are in order keep the invariant.** -/
theorem foldl_apply (h : line.IsNested start now) {marks : List (FocusMark ℚ)} {stop : ℚ}
    (hstart : start ≤ now) (hmarks : FocusMark.InOrder now stop marks) :
    (marks.foldl Lifeline.apply line).IsNested start stop := by
  induction marks generalizing line now with
  | nil => exact h.of_le hmarks
  | cons mark rest ih =>
    obtain ⟨hmark, hrest⟩ := hmarks
    exact ih (h.apply hstart hmark) (hstart.trans hmark) hrest

/-- The boxes of a lifeline that keeps the invariant are nested. -/
theorem areNested_boxes (h : line.IsNested start now) (participant : Nat) :
    ActivationBox.AreNested (line.boxes participant now) start now where
  upright box hbox := by
    rcases List.mem_append.mp hbox with hbox | hbox
    · exact h.closed box hbox
    · obtain ⟨level, top, htop, rfl⟩ := mem_openBoxes_iff.mp hbox
      exact ⟨(h.le_topAt? htop).1, (h.le_topAt? htop).2, le_rfl⟩
  apart := by
    refine List.pairwise_append.mpr ⟨h.apart.imp fun hbefore heq => Or.inl (hbefore heq),
      (FocusState.pairwise_openBoxes _ _ _).imp fun hne heq => absurd heq hne, ?_⟩
    intro box hbox other hother heq
    obtain ⟨level, top, htop, rfl⟩ := mem_openBoxes_iff.mp hother
    exact Or.inl (h.before box hbox top (heq ▸ htop))
  inside box hbox level hlevel := by
    -- An open box that it lies in runs down to the height that is reached.
    have hopen : ∀ top ∈ line.topAt? level, top ≤ box.top → box.bottom ≤ now →
        ∃ outer ∈ line.boxes participant now,
          outer.level = level ∧ outer.top ≤ box.top ∧ box.bottom ≤ outer.bottom :=
      fun top htop hle hbottom => ⟨⟨participant, level, top, now⟩,
        List.mem_append_right _ (mem_openBoxes_iff.mpr ⟨level, top, htop, rfl⟩), rfl, hle, hbottom⟩
    rcases List.mem_append.mp hbox with hbox | hbox
    · rcases h.inside box hbox level hlevel with ⟨outer, houter, hinside⟩ | ⟨top, htop, hle⟩
      · exact ⟨outer, List.mem_append_left _ houter, hinside⟩
      · exact hopen top htop hle (h.closed box hbox).2.2
    · obtain ⟨level', top, htop, rfl⟩ := mem_openBoxes_iff.mp hbox
      obtain rfl : level' = level + 1 := hlevel
      obtain ⟨outer, houter, hle⟩ := h.exists_topAt? htop
      exact hopen outer houter hle le_rfl

end IsNested

end Lifeline

/-! ## The activations of a diagram -/

/-- What an event does with the focus of a participant: as the sender of a message, then as its
receiver. -/
def Event.activationsOf (participant : Nat) : Event → List Activation
  | .message sent =>
    (if sent.source = participant then sent.sourceActivation.toList else []) ++
      if sent.target = participant then sent.targetActivation.toList else []
  | .note _ => []

/-- What the events of a diagram do with the focus of a participant, from top to bottom. -/
def SequenceModel.activationsOf (model : SequenceModel) (participant : Nat) : List Activation :=
  model.events.flatMap (Event.activationsOf participant)

/-- The marks of an event at a participant are what it does with the focus of the participant. -/
theorem FocusMark.map_filter_ofEvent {α : Type} [Add α] [Sub α] [NatCast α] (participant : Nat)
    (event : Event) (row : Row α) :
    ((ofEvent event row).filter fun mark => mark.participant = participant).map activation =
      event.activationsOf participant := by
  cases event with
  | note shown => rfl
  | message sent =>
    have hend : ∀ (position : Nat) (activation : Option Activation) (y : α),
        ((activation.map fun activation => (⟨position, activation, y⟩ : FocusMark α)).toList.filter
            fun mark => mark.participant = participant).map FocusMark.activation =
          if position = participant then activation.toList else [] := by
      intro position activation y
      cases activation with
      | none => simp
      | some activation => by_cases h : position = participant <;> simp [h]
    simp only [ofEvent, Event.activationsOf, List.filter_append, List.map_append, hend]

namespace Layout

/-- The marks of a diagram at a participant are what its events do with the focus of the participant. -/
theorem map_filter_marks {model : SequenceModel} {layout : Layout ℚ} (participant : Nat)
    (h : layout.rows.length = model.events.length) :
    ((layout.marks model).filter fun mark => mark.participant = participant).map
        FocusMark.activation = model.activationsOf participant := by
  rw [marks, SequenceModel.activationsOf, List.filter_flatMap, List.map_flatMap]
  simp only [FocusMark.map_filter_ofEvent]
  rw [← List.flatMap_map Prod.fst, List.map_fst_zip h.ge]

/-- The activation boxes of a participant. -/
def activationsOf (layout : Layout ℚ) (participant : Nat) : List (ActivationBox ℚ) :=
  layout.activations.filter fun box => box.participant = participant

/-- The lifeline of a participant at the end of a diagram. -/
def lifelineOf (model : SequenceModel) (participant : Nat) : Lifeline ℚ :=
  (((compute model).marks model).filter fun mark => mark.participant = participant).foldl
    Lifeline.apply ⟨[], []⟩

/-- The activation boxes of a participant are those of its lifeline. -/
theorem activationsOf_compute_perm {model : SequenceModel} (h : model.InRange) (participant : Nat) :
    ((compute model : Layout ℚ).activationsOf participant).Perm
      ((lifelineOf model participant).boxes participant
        (compute model : Layout ℚ).bottomActorsY) := by
  let start : FocusState ℚ := { openTops := model.participants.map fun _ => [] }
  have hmarks : ∀ mark ∈ (compute model : Layout ℚ).marks model,
      mark.participant < start.openTops.length := by
    intro mark hmark
    obtain ⟨⟨event, row⟩, hshown, hmark⟩ := List.mem_flatMap.mp hmark
    rw [List.length_map]
    exact h event (List.of_mem_zip hshown).1 _ (FocusState.participant_mem_positions hmark)
  have hstart : start.lifeline participant = ⟨[], []⟩ := by
    simp only [start, FocusState.lifeline, List.getD_eq_getElem?_getD, List.getElem?_map]
    cases model.participants[participant]? <;> rfl
  have hline := FocusState.lifeline_foldl participant hmarks
  rw [hstart] at hline
  rw [lifelineOf, ← hline]
  exact FocusState.filter_boxes_perm _ participant _

/-- The lifelines of a diagram are nested. -/
theorem isNested_lifelineOf (model : SequenceModel) (participant : Nat) :
    (lifelineOf model participant).IsNested
      ((compute model : Layout ℚ).topActorsY + (compute model : Layout ℚ).actorsHeight)
      (compute model : Layout ℚ).bottomActorsY :=
  (Lifeline.IsNested.empty _ _).foldl_apply le_rfl ((inOrder_marks model).filter _)

/-- The activation boxes of a participant are nested. -/
theorem areNested_activationsOf {model : SequenceModel} (h : model.InRange) (participant : Nat) :
    ActivationBox.AreNested ((compute model : Layout ℚ).activationsOf participant)
      ((compute model : Layout ℚ).topActorsY + (compute model : Layout ℚ).actorsHeight)
      (compute model : Layout ℚ).bottomActorsY :=
  ((isNested_lifelineOf model participant).areNested_boxes participant).of_perm
    (activationsOf_compute_perm h participant).symm

/-- A participant has as many activation boxes as its focus is opened. -/
theorem length_activationsOf {model : SequenceModel} (h : model.InRange) (participant : Nat) :
    ((compute model : Layout ℚ).activationsOf participant).length =
      (model.activationsOf participant).count .opens := by
  rw [(activationsOf_compute_perm h participant).length_eq, Lifeline.length_boxes, lifelineOf,
    Lifeline.length_foldl_apply, map_filter_marks participant (length_rows_compute model)]
  simp

/-- **The activation boxes of a diagram** whose events refer to its participants: each participant has
one for each mark that opens its focus, they are nested between the boxes of the participants, and all
are listed by their levels. -/
theorem areNested_activations {model : SequenceModel} (h : model.InRange) :
    (∀ participant,
      ((compute model : Layout ℚ).activationsOf participant).length =
          (model.activationsOf participant).count .opens ∧
        ActivationBox.AreNested ((compute model : Layout ℚ).activationsOf participant)
          ((compute model : Layout ℚ).topActorsY + (compute model : Layout ℚ).actorsHeight)
          (compute model : Layout ℚ).bottomActorsY) ∧
      (compute model : Layout ℚ).activations.Pairwise fun first second =>
        first.level ≤ second.level :=
  ⟨fun participant => ⟨length_activationsOf h participant, areNested_activationsOf h participant⟩,
    FocusState.pairwise_level_boxes _ _⟩

/-- A participant that is called twice and sends itself a message, which closes its inner box and opens
another one in its place; its answer closes this one, and none at the other end, where none is open. -/
theorem areNested_activations_calls :
    let message (source target : Nat) (leaves reaches : Option Activation) : Event :=
      .message ⟨source, target, "x".toList, .solid, .filled, leaves, reaches⟩
    let model : SequenceModel :=
      { participants := [⟨"A".toList, "A".toList, none⟩, ⟨"B".toList, "B".toList, none⟩]
        events := [message 0 1 none (some .opens), message 0 1 none (some .opens),
          .note ⟨1, "busy".toList, none⟩, message 1 1 (some .closes) (some .opens),
          message 1 0 (some .closes) (some .closes)] }
    model.InRange ∧
      (model.activationsOf 0 = [.closes] ∧
        model.activationsOf 1 = [.opens, .opens, .closes, .opens, .closes]) ∧
      (∀ participant,
        ((compute model : Layout ℚ).activationsOf participant).length =
            (model.activationsOf participant).count .opens ∧
          ActivationBox.AreNested ((compute model : Layout ℚ).activationsOf participant)
            ((compute model : Layout ℚ).topActorsY + (compute model : Layout ℚ).actorsHeight)
            (compute model : Layout ℚ).bottomActorsY) ∧
        (compute model : Layout ℚ).activations.Pairwise fun first second =>
          first.level ≤ second.level := by
  intro message model
  have hrange : model.InRange := by
    unfold SequenceModel.InRange
    decide
  exact ⟨hrange, by decide +kernel, areNested_activations hrange⟩

end Layout

end UmlSketch
