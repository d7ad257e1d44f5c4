import Mathlib.Data.List.Forall2
import UmlSketch.Proofs.Dialect.Reading

/-! # What a sequence diagram shows
The brackets of a document that are not notes are its objects. Each object that is named for the first
time becomes a participant, and every three neighbours of a line that stand for a message or a note
become an event; no event is left out, since the objects of a line are declared before its events are
read. `Sequences.depicts_modelOf` says so of the diagram of a list of lines. -/

namespace UmlSketch.Sequences

/-! ## Participants -/

/-- The **objects** of some brackets: those that are not notes. -/
def objectsOf (brackets : List NodeExpr) : List NodeExpr :=
  brackets.filter fun bracket => !bracket.isNote

/-- The participant that an object stands for. -/
def participantOf (object : NodeExpr) : Participant :=
  ⟨object.name, Label.plain object.label Label.width, object.fill⟩

/-- The **participants** that some objects stand for: one for each record name, told by the first
object with that name. -/
def participantsOf (objects : List NodeExpr) : List Participant :=
  (recordNames objects).filterMap fun name => (firstNamed? objects name).map participantOf

/-- Every name is told by the first object that has it. -/
theorem forall₂_participantsOf (objects : List NodeExpr) :
    List.Forall₂
      (fun name participant =>
        ∃ object, firstNamed? objects name = some object ∧ participant = participantOf object)
      (recordNames objects) (participantsOf objects) := by
  have hfirst : ∀ name ∈ recordNames objects, ∃ object, firstNamed? objects name = some object :=
    fun name hname => Option.isSome_iff_exists.mp (firstNamed?_isSome.mpr hname)
  unfold participantsOf
  generalize recordNames objects = names at hfirst ⊢
  induction names with
  | nil => exact .nil
  | cons name rest ih =>
    obtain ⟨⟨object, hobject⟩, hrest⟩ := List.forall_mem_cons.mp hfirst
    simp only [List.filterMap_cons, hobject, Option.map_some]
    exact .cons ⟨object, hobject, rfl⟩ (ih hrest)

/-- The participants have the names of the objects. -/
theorem map_name_participantsOf (objects : List NodeExpr) :
    (participantsOf objects).map Participant.name = recordNames objects := by
  have hnames : List.Forall₂ (fun name participant => name = Participant.name participant)
      (recordNames objects) (participantsOf objects) :=
    (forall₂_participantsOf objects).imp fun name participant ⟨object, hobject, hparticipant⟩ => by
      rw [hparticipant]
      exact (name_of_firstNamed? hobject).symm
  rw [← List.forall₂_map_right_iff (R := Eq), List.forall₂_eq_eq_eq] at hnames
  exact hnames.symm

/-- An object at the end of a list stands for a participant if its name is new. -/
theorem participantsOf_concat (objects : List NodeExpr) (object : NodeExpr) :
    participantsOf (objects ++ [object]) =
      if object.name ∈ recordNames objects then participantsOf objects
      else participantsOf objects ++ [participantOf object] := by
  have hbefore : ∀ name ∈ recordNames objects,
      (firstNamed? (objects ++ [object]) name).map participantOf =
        (firstNamed? objects name).map participantOf := by
    intro name hname
    obtain ⟨first, hfirst⟩ := Option.isSome_iff_exists.mp (firstNamed?_isSome.mpr hname)
    rw [firstNamed?_concat, hfirst, Option.some_or]
  rw [participantsOf, recordNames_concat]
  split
  · exact List.filterMap_congr hbefore
  · rename_i hnew
    have hnone : firstNamed? objects object.name = none := by
      rwa [← Option.not_isSome_iff_eq_none, firstNamed?_isSome]
    have hlast : firstNamed? (objects ++ [object]) object.name = some object := by
      rw [firstNamed?_concat, hnone, Option.none_or, if_pos rfl]
    rw [List.filterMap_append, List.filterMap_congr hbefore, ← participantsOf]
    simp [hlast]

/-! ## Events -/

/-- A **cue**: three neighbours of a line that stand for a message or a note. -/
inductive Cue
  /-- A message between two objects. -/
  | message (sender : NodeExpr) (signal : SignalExpr) (receiver : NodeExpr)
  /-- A note beside an object. -/
  | note (object : NodeExpr) (remark : NodeExpr)
  deriving DecidableEq, Repr

/-- The **neighbours** of a line: every three expressions that follow one another. -/
def neighbours (exprs : List Expr) : List (Expr × Expr × Expr) :=
  exprs.zip (exprs.tail.zip exprs.tail.tail)

/-- What three neighbours stand for. -/
def cue? : Expr × Expr × Expr → Option Cue
  | (.node left, .signal sent, .node right) =>
    if left.isNote then none
    else if right.isNote then some (.note left right)
    else some (.message left sent right)
  | (.node left, .edge _, .node right) =>
    if !left.isNote && right.isNote then some (.note left right) else none
  | _ => none

/-- Two objects around a message stand for that message; an object, a connector and a note stand for a
note beside the object; other neighbours stand for nothing. -/
theorem cue?_eq_some_iff {first second third : Expr} {cue : Cue} :
    cue? (first, second, third) = some cue ↔
      ∃ left right, first = .node left ∧ third = .node right ∧ left.isNote = false ∧
        ((∃ sent, second = .signal sent ∧ right.isNote = false ∧ cue = .message left sent right) ∨
          second.isConnector = true ∧ right.isNote = true ∧ cue = .note left right) := by
  match first, second, third with
  | .node left, .signal sent, .node right =>
    cases hleft : left.isNote <;> cases hright : right.isNote <;>
      simp [cue?, Expr.isConnector, hleft, hright]
    all_goals exact eq_comm
  | .node left, .edge link, .node right =>
    cases hleft : left.isNote <;> cases hright : right.isNote <;>
      simp [cue?, Expr.isConnector, hleft, hright]
    all_goals exact eq_comm
  | .edge _, _, _ | .signal _, _, _ | .node _, .node _, _ | .node _, _, .edge _
  | .node _, _, .signal _ => simp [cue?, Expr.isConnector]

/-- The cues of a line, from left to right. -/
def cues (exprs : List Expr) : List Cue := (neighbours exprs).filterMap cue?

/-- The cue at the start of a line comes first. -/
theorem cues_cons (first second third : Expr) (rest : List Expr) :
    cues (first :: second :: third :: rest) =
      (cue? (first, second, third)).toList ++ cues (second :: third :: rest) := by
  cases hcue : cue? (first, second, third) with
  | none => exact List.filterMap_cons_none hcue
  | some cue => exact List.filterMap_cons_some hcue

/-- The objects that a cue refers to. -/
def Cue.objects : Cue → List NodeExpr
  | .message sender _ receiver => [sender, receiver]
  | .note object _ => [object]

/-- The event of a cue, given the names of the participants. -/
def Cue.event (names : List Text) : Cue → Event
  | .message sender sent receiver =>
    .message
      { source := names.idxOf sender.name
        target := names.idxOf receiver.name
        text := sent.text
        line := (strokeOf sent.style).1
        arrow := (strokeOf sent.style).2
        sourceActivation := sent.source
        targetActivation := sent.target }
  | .note object remark =>
    .note ⟨names.idxOf object.name, Label.plain remark.label Label.width, remark.fill⟩

/-- Whether a bracket is a note, or an object whose name has been taken up. -/
def IsSettled (names : List Text) (bracket : NodeExpr) : Prop :=
  bracket.role = .note ∨ bracket.role = .record ∧ bracket.name ∈ names

/-- Whether a script **finds** some names: an object with one of them has the position of its name. -/
def Script.Finds (script : Script) (names : List Text) : Prop :=
  ∀ object : NodeExpr, object.name ∈ names →
    script.position? object = some (names.idxOf object.name)

variable {script : Script} {names : List Text}

/-- A note beside a settled object is an event. -/
theorem noteOf?_eq (hfinds : script.Finds names) {left right : NodeExpr}
    (hleft : IsSettled names left) (hright : IsSettled names right) :
    noteOf? script left right =
      if !left.isNote && right.isNote then some ((Cue.note left right).event names) else none := by
  rcases hleft with hleft | ⟨hleft, hname⟩
  · simp [noteOf?, NodeExpr.isNote, hleft]
  · rcases hright with hright | ⟨hright, -⟩
    · simp only [noteOf?, NodeExpr.isNote, hleft, hright, hfinds left hname]
      rfl
    · simp [noteOf?, NodeExpr.isNote, hright]

/-- A message between two settled objects is an event. -/
theorem messageOf?_eq (hfinds : script.Finds names) {left right : NodeExpr} (sent : SignalExpr)
    (hleft : IsSettled names left) (hright : IsSettled names right) :
    messageOf? script left sent right =
      if !left.isNote && !right.isNote then some ((Cue.message left sent right).event names)
      else none := by
  rcases hleft with hleft | ⟨hleft, hsource⟩
  · simp [messageOf?, NodeExpr.isNote, hleft]
  · rcases hright with hright | ⟨hright, htarget⟩
    · simp [messageOf?, NodeExpr.isNote, hright]
    · simp only [messageOf?, NodeExpr.isNote, hleft, hright, hfinds left hsource,
        hfinds right htarget]
      rfl

/-- Three neighbours whose brackets are settled give the event of their cue. -/
theorem eventOf?_eq (hfinds : script.Finds names) {first second third : Expr}
    (h : ∀ bracket ∈ Expr.nodes [first, second, third], IsSettled names bracket) :
    eventOf? script first second third = (cue? (first, second, third)).map (Cue.event names) := by
  match first, second, third with
  | .node left, .signal sent, .node right =>
    rw [eventOf?, messageOf?_eq hfinds sent (h left (by simp)) (h right (by simp)),
      noteOf?_eq hfinds (h left (by simp)) (h right (by simp)), cue?]
    cases left.isNote <;> cases right.isNote <;> rfl
  | .node left, .edge link, .node right =>
    rw [eventOf?, noteOf?_eq hfinds (h left (by simp)) (h right (by simp)), cue?]
    cases left.isNote <;> cases right.isNote <;> rfl
  | .edge _, _, _ | .signal _, _, _ | .node _, .node _, _ | .node _, .edge _, .edge _
  | .node _, .edge _, .signal _ | .node _, .signal _, .edge _ | .node _, .signal _, .signal _ => rfl

/-- **A line whose brackets are settled gives the events of its cues.** -/
theorem eventsOf_eq (hfinds : script.Finds names) {exprs : List Expr}
    (h : ∀ bracket ∈ Expr.nodes exprs, IsSettled names bracket) :
    eventsOf script exprs = (cues exprs).map (Cue.event names) := by
  simp only [Expr.mem_nodes] at h
  fun_induction eventsOf script exprs with
  | case1 first second third rest ih =>
    have hfirst : eventOf? script first second third =
        (cue? (first, second, third)).map (Cue.event names) := by
      refine eventOf?_eq hfinds fun bracket hbracket => h bracket ?_
      rw [Expr.mem_nodes] at hbracket
      exact List.mem_of_mem_take (i := 3) hbracket
    have hrest := ih fun bracket hbracket => h bracket (List.mem_cons_of_mem _ hbracket)
    rw [hrest, hfirst, cues_cons, List.map_append]
    cases cue? (first, second, third) <;> rfl
  | case2 exprs hshort =>
    rcases exprs with _ | ⟨first, _ | ⟨second, _ | ⟨third, rest⟩⟩⟩
    · rfl
    · rfl
    · rfl
    · exact absurd rfl (hshort first second third rest)

/-- The event of a cue depends on the places of its objects' names alone. -/
theorem Cue.event_congr {cue : Cue} {names others : List Text}
    (h : ∀ object ∈ cue.objects, names.idxOf object.name = others.idxOf object.name) :
    cue.event names = cue.event others := by
  cases cue with
  | message sender sent receiver =>
    rw [event, event, h sender (by simp [objects]), h receiver (by simp [objects])]
  | note object remark => rw [event, event, h object (by simp [objects])]

/-- A cue refers to objects of its line. -/
theorem mem_of_mem_cues {exprs : List Expr} {cue : Cue} (hcue : cue ∈ cues exprs)
    {object : NodeExpr} (hobject : object ∈ cue.objects) : object ∈ objectsOf (Expr.nodes exprs) := by
  -- The first and the third of the neighbours stand in the line, and a cue refers to no other bracket.
  obtain ⟨⟨first, second, third⟩, hmem, hread⟩ := List.mem_filterMap.mp hcue
  obtain ⟨hfirst, hothers⟩ := List.of_mem_zip hmem
  have hthird : third ∈ exprs :=
    List.mem_of_mem_tail (List.mem_of_mem_tail (List.of_mem_zip hothers).2)
  have hstands {bracket : NodeExpr} (hline : .node bracket ∈ exprs)
      (hnote : bracket.isNote = false) : bracket ∈ objectsOf (Expr.nodes exprs) :=
    List.mem_filter.mpr ⟨Expr.mem_nodes.mpr hline, by simp [hnote]⟩
  obtain ⟨left, right, rfl, rfl, hleft, ⟨sent, -, hright, rfl⟩ | ⟨-, -, rfl⟩⟩ :=
    cue?_eq_some_iff.mp hread
  · rcases List.mem_pair.mp hobject with rfl | rfl
    · exact hstands hfirst hleft
    · exact hstands hthird hright
  · obtain rfl := List.mem_singleton.mp hobject
    exact hstands hfirst hleft

/-! ## The invariant of a script -/

namespace Script

variable {script : Script} {object : NodeExpr}

/-- An object whose name is known is not declared again. -/
theorem declare_of_mem (h : object.name ∈ script.registry.names) :
    script.declare object = script := by
  have hknown : Label.recordName object.label ∈ script.registry.names := h
  simp [declare, Registry.create, hknown]

/-- An object with a new name becomes the last participant. -/
theorem declare_of_not_mem (h : object.name ∉ script.registry.names) :
    script.declare object =
      { registry := ⟨script.registry.names ++ [object.name]⟩
        positions :=
          (NodeId.box script.registry.size, script.model.participants.length) :: script.positions
        model := script.model.addParticipant (participantOf object) } := by
  have hunknown : Label.recordName object.label ∉ script.registry.names := h
  simp only [declare, Registry.create, List.contains_iff_mem, if_neg hunknown]
  rfl

end Script

/-- **The invariant of a script** in which some objects have been declared and some events shown. -/
structure Script.Has (script : Script) (objects : List NodeExpr) (events : List Event) : Prop where
  /-- The names of the objects are known. -/
  names : script.registry.names = recordNames objects
  /-- The position of a name is found by the identifier that the name was given. -/
  positions : ∀ number < (recordNames objects).length,
    script.positions.lookup (NodeId.box number) = some number
  /-- The participants are those of the objects. -/
  participants : script.model.participants = participantsOf objects
  /-- The events are shown. -/
  events : script.model.events = events

namespace Script.Has

variable {script : Script} {objects : List NodeExpr} {events : List Event}

/-- The empty script has nothing. -/
theorem empty : Script.empty.Has [] [] := ⟨rfl, by simp, rfl, rfl⟩

/-- **The names of the objects are found.** -/
theorem finds (h : script.Has objects events) : script.Finds (recordNames objects) := by
  intro object hname
  have hknown : Label.recordName object.label ∈ script.registry.names := by rwa [h.names]
  rw [Script.position?, Registry.get?_eq_some_of_mem hknown, Option.bind_some, h.names]
  exact h.positions _ (List.idxOf_lt_length_of_mem hname)

/-- There is a participant for each name. -/
theorem length_participants (h : script.Has objects events) :
    script.model.participants.length = (recordNames objects).length := by
  rw [h.participants, ← map_name_participantsOf, List.length_map]

/-- An object is declared, if its name is new, as the participant it stands for. -/
theorem declare (h : script.Has objects events) (object : NodeExpr) :
    (script.declare object).Has (objects ++ [object]) events := by
  have hnames := recordNames_concat objects object
  have hparticipants := participantsOf_concat objects object
  by_cases hname : object.name ∈ recordNames objects
  · rw [if_pos hname] at hnames hparticipants
    rw [Script.declare_of_mem (h.names ▸ hname)]
    exact ⟨h.names.trans hnames.symm, hnames ▸ h.positions, h.participants.trans hparticipants.symm,
      h.events⟩
  · rw [if_neg hname] at hnames hparticipants
    rw [Script.declare_of_not_mem (h.names ▸ hname), Registry.size, h.names, h.length_participants]
    refine ⟨hnames.symm, ?_, ?_, h.events⟩
    · intro number hnumber
      rw [hnames, List.length_append, List.length_singleton] at hnumber
      -- The new entry is that of the last name, and it hides no other.
      by_cases hlast : number = (recordNames objects).length
      · rw [hlast, List.lookup_cons_self]
      · have hother : NodeId.box number ≠ NodeId.box (recordNames objects).length :=
          NodeId.box_injective.ne hlast
        rw [List.lookup_cons, beq_false_of_ne hother]
        exact h.positions number (by omega)
    · rw [SequenceModel.participants_addParticipant, h.participants, hparticipants]

/-- The objects of a line are declared in order. -/
theorem foldl_declare (h : script.Has objects events) (more : List NodeExpr) :
    (more.foldl Script.declare script).Has (objects ++ more) events := by
  induction more generalizing script objects with
  | nil => simpa using h
  | cons object rest ih => simpa using ih (h.declare object)

/-- Events are shown in order. -/
theorem foldl_addEvent (h : script.Has objects events) (more : List Event) :
    ({ script with model := more.foldl SequenceModel.addEvent script.model }).Has objects
      (events ++ more) := by
  induction more generalizing script events with
  | nil => simpa using h
  | cons event rest ih =>
    have hnext : ({ script with model := script.model.addEvent event }).Has objects
        (events ++ [event]) := ⟨h.names, h.positions, h.participants, congrArg (· ++ [event]) h.events⟩
    simpa using ih hnext

/-- **A line declares its objects and shows its cues.** -/
theorem addLine (h : script.Has objects events) {exprs : List Expr}
    (hroles : ∀ bracket ∈ Expr.nodes exprs, bracket.role = .record ∨ bracket.role = .note) :
    (script.addLine exprs).Has (objects ++ objectsOf (Expr.nodes exprs))
      (events ++ (cues exprs).map
        (Cue.event (recordNames (objects ++ objectsOf (Expr.nodes exprs))))) := by
  -- All brackets are objects or notes, so what is declared are the objects.
  have hobjects : ((Expr.nodes exprs).filter fun node => node.role = .record) =
      objectsOf (Expr.nodes exprs) := by
    refine List.filter_congr fun bracket hbracket => ?_
    rcases hroles bracket hbracket with hrole | hrole <;> simp [NodeExpr.isNote, hrole]
  have hdeclared := h.foldl_declare (objectsOf (Expr.nodes exprs))
  -- The events are read when the objects of the line are known.
  have hsettled : ∀ bracket ∈ Expr.nodes exprs,
      IsSettled (recordNames (objects ++ objectsOf (Expr.nodes exprs))) bracket := by
    intro bracket hbracket
    rcases hroles bracket hbracket with hrole | hrole
    · have hobject : bracket ∈ objectsOf (Expr.nodes exprs) :=
        List.mem_filter.mpr ⟨hbracket, by simp [NodeExpr.isNote, hrole]⟩
      exact Or.inr ⟨hrole,
        mem_recordNames.mpr ⟨bracket, List.mem_append_right _ hobject, rfl⟩⟩
    · exact Or.inl hrole
  rw [Script.addLine]
  simp only [hobjects]
  rw [eventsOf_eq hdeclared.finds hsettled]
  exact hdeclared.foldl_addEvent _

/-- **Lines declare their objects and show their cues**, in order. -/
theorem foldl_addLine (h : script.Has objects events) {lines : List (List Expr)}
    (hroles : ∀ bracket ∈ Expr.brackets lines, bracket.role = .record ∨ bracket.role = .note) :
    (lines.foldl Script.addLine script).Has (objects ++ objectsOf (Expr.brackets lines))
      (events ++ (lines.flatMap cues).map
        (Cue.event (recordNames (objects ++ objectsOf (Expr.brackets lines))))) := by
  induction lines generalizing script objects events with
  | nil => simpa [objectsOf] using h
  | cons line rest ih =>
    have hbrackets : Expr.brackets (line :: rest) = Expr.nodes line ++ Expr.brackets rest := rfl
    rw [hbrackets] at hroles ⊢
    have hline := h.addLine fun bracket hbracket => hroles bracket (List.mem_append_left _ hbracket)
    have hrest := ih hline fun bracket hbracket => hroles bracket (List.mem_append_right _ hbracket)
    -- The objects of the lines below come later, so they do not move the names of this line.
    have hevents : (cues line).map (Cue.event (recordNames (objects ++ objectsOf (Expr.nodes line)))) =
        (cues line).map (Cue.event (recordNames
          (objects ++ objectsOf (Expr.nodes line) ++ objectsOf (Expr.brackets rest)))) := by
      refine List.map_congr_left fun cue hcue => Cue.event_congr fun object hobject => ?_
      have hknown : object.name ∈ recordNames (objects ++ objectsOf (Expr.nodes line)) :=
        mem_recordNames.mpr
          ⟨object, List.mem_append_right _ (mem_of_mem_cues hcue hobject), rfl⟩
      rw [idxOf_recordNames_append hknown]
    rw [hevents, List.append_assoc, List.append_assoc, ← List.map_append] at hrest
    rwa [objectsOf, List.filter_append, List.flatMap_cons]

end Script.Has

/-! ## The diagram of a list of lines -/

/-- Whether a position is that of the participant with the record name of an object. -/
def IsPositionOf (participants : List Participant) (object : NodeExpr) (position : Nat) : Prop :=
  ∃ h : position < participants.length, participants[position].name = object.name

/-- Whether an event **shows** a cue: it has its text, its style and its marks, and refers to the
participants of its objects. -/
def Cue.IsShownBy (participants : List Participant) : Cue → Event → Prop
  | .message sender sent receiver, .message shown =>
    IsPositionOf participants sender shown.source ∧
      IsPositionOf participants receiver shown.target ∧ shown.text = sent.text ∧
      (shown.line, shown.arrow) = strokeOf sent.style ∧
      shown.sourceActivation = sent.source ∧ shown.targetActivation = sent.target
  | .note object remark, .note shown =>
    IsPositionOf participants object shown.participant ∧
      shown.text = Label.plain remark.label Label.width ∧ shown.fill = remark.fill
  | _, _ => False

/-- Whether a sequence diagram **depicts** a list of lines. -/
structure Depicts (model : SequenceModel) (lines : List (List Expr)) : Prop where
  /-- There is one participant for each record name, told by the first object with that name. -/
  participants : List.Forall₂
    (fun name participant =>
      ∃ object, firstNamed? (objectsOf (Expr.brackets lines)) name = some object ∧
        participant = participantOf object)
    (recordNames (objectsOf (Expr.brackets lines))) model.participants
  /-- No two participants have the same name. -/
  distinct : (model.participants.map Participant.name).Nodup
  /-- There is one event for each cue, in order. -/
  events : List.Forall₂ (Cue.IsShownBy model.participants) (lines.flatMap cues) model.events

/-- The place of an object's name is the position of its participant. -/
theorem isPositionOf_idxOf {objects : List NodeExpr} {object : NodeExpr} (h : object ∈ objects) :
    IsPositionOf (participantsOf objects) object ((recordNames objects).idxOf object.name) := by
  have hname : object.name ∈ (participantsOf objects).map Participant.name := by
    rw [map_name_participantsOf]
    exact mem_recordNames.mpr ⟨object, h, rfl⟩
  have hlt := List.idxOf_lt_length_of_mem hname
  rw [← map_name_participantsOf]
  refine ⟨by simpa using hlt, ?_⟩
  rw [← List.getElem_map Participant.name]
  exact List.getElem_idxOf hlt

/-- A cue between objects that stand for the participants is shown by its event. -/
theorem Cue.isShownBy_event {objects : List NodeExpr} {cue : Cue}
    (h : ∀ object ∈ cue.objects, object ∈ objects) :
    cue.IsShownBy (participantsOf objects) (cue.event (recordNames objects)) := by
  cases cue with
  | message sender sent receiver =>
    exact ⟨isPositionOf_idxOf (h sender (by simp [Cue.objects])),
      isPositionOf_idxOf (h receiver (by simp [Cue.objects])), rfl, rfl, rfl, rfl⟩
  | note object remark => exact ⟨isPositionOf_idxOf (h object (by simp [Cue.objects])), rfl, rfl⟩

/-- **The diagram of a list of lines depicts the lines**, if their brackets are objects and notes. -/
theorem depicts_modelOf {lines : List (List Expr)}
    (hroles : ∀ bracket ∈ Expr.brackets lines, bracket.role = .record ∨ bracket.role = .note) :
    Depicts (modelOf lines) lines := by
  have h := Script.Has.empty.foldl_addLine hroles
  have hparticipants : (modelOf lines).participants = _ := h.participants
  have hevents : (modelOf lines).events = _ := h.events
  rw [List.nil_append] at hparticipants hevents
  refine ⟨?_, ?_, ?_⟩
  · rw [hparticipants]
    exact forall₂_participantsOf _
  · rw [hparticipants, map_name_participantsOf]
    exact nodup_recordNames _
  · rw [hparticipants, hevents, List.nil_append, List.forall₂_map_right_iff, List.forall₂_same]
    intro cue hcue
    obtain ⟨line, hline, hcue⟩ := List.mem_flatMap.mp hcue
    refine Cue.isShownBy_event fun object hobject => ?_
    obtain ⟨hmem, hnote⟩ := List.mem_filter.mp (mem_of_mem_cues hcue hobject)
    exact List.mem_filter.mpr ⟨List.mem_flatMap.mpr ⟨line, hline, hmem⟩, hnote⟩

/-- A bracket that is read in a sequence diagram is an object or a note. -/
theorem role_of_readToken {token : Token} {bracket : NodeExpr}
    (h : readToken token = .ok (.node bracket)) :
    bracket.role = .record ∨ bracket.role = .note := by
  unfold readToken at h
  split at h
  · rename_i content hcontent
    cases h
    cases (BracketContent.ofText content true).isNote <;> simp
  · split at h
    · unfold signal at h
      simp only at h
      split at h <;> cases h
    · split at h <;> cases h

/-- The brackets of lines that are read in a sequence diagram are objects and notes. -/
theorem role_of_mapM_parseLine {lines : List SourceLine} {read : List (List Expr)}
    (h : lines.mapM (Kind.parseLine .sequence) = .ok read) {bracket : NodeExpr}
    (hbracket : bracket ∈ Expr.brackets read) :
    bracket.role = .record ∨ bracket.role = .note := by
  obtain ⟨token, hread⟩ := Kind.exists_token_of_mem_brackets h hbracket
  exact role_of_readToken hread

/-- A sequence diagram is compiled from what is read in its lines. -/
theorem eq_modelOf_of_compileLines {kind : Kind} {direction : Direction} {lines : List SourceLine}
    {model : SequenceModel} (h : kind.compileLines direction lines = .ok (.sequence model)) :
    ∃ read, lines.mapM (Kind.parseLine .sequence) = .ok read ∧ model = modelOf read := by
  cases hread : lines.mapM kind.parseLine with
  | error failure =>
    rw [Kind.compileLines, hread] at h
    cases h
  | ok read =>
    rw [Kind.compileLines, hread] at h
    have hartifact : kind.artifactOf direction read = .sequence model := Except.ok.inj h
    unfold Kind.artifactOf at hartifact
    split at hartifact
    · cases hartifact
    · rename_i hnone
      obtain rfl : kind = .sequence := by
        cases kind <;> first | rfl | cases hnone
      cases hartifact
      exact ⟨read, hread, rfl⟩

end UmlSketch.Sequences
