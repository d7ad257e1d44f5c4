import UmlSketch.Proofs.Dialect.Reading
import UmlSketch.Proofs.Draft.Growth

/-! # Documents that are continued
What some lines describe does not depend on the lines below them. If they fail, then so they do with
other lines below, and for the same cause; and if all lines together describe a diagram, then the first
ones describe one that is found again at its start (`Kind.growsInto_compileLines_append`). -/

namespace UmlSketch

/-! ## Sequence diagrams -/

/-- Whether a sequence diagram **grows into** another: participants are added on the right and events
at the bottom. -/
structure SequenceModel.GrowsInto (model later : SequenceModel) : Prop where
  /-- The participants come first, in their order. -/
  participants : model.participants <+: later.participants
  /-- The events come first, in their order. -/
  events : model.events <+: later.events

namespace SequenceModel.GrowsInto

variable {model later last : SequenceModel}

theorem refl (model : SequenceModel) : model.GrowsInto model :=
  ⟨List.prefix_refl _, List.prefix_refl _⟩

theorem trans (h : model.GrowsInto later) (hnext : later.GrowsInto last) : model.GrowsInto last :=
  ⟨h.participants.trans hnext.participants, h.events.trans hnext.events⟩

/-- A participant may be added. -/
theorem addParticipant (model : SequenceModel) (participant : Participant) :
    model.GrowsInto (model.addParticipant participant) :=
  ⟨List.prefix_append _ _, List.prefix_refl _⟩

/-- An event may be added. -/
theorem addEvent (model : SequenceModel) (event : Event) :
    model.GrowsInto (model.addEvent event) :=
  ⟨List.prefix_refl _, List.prefix_append _ _⟩

end SequenceModel.GrowsInto

namespace Sequences.Script

/-- An object adds at most a participant. -/
theorem growsInto_declare (script : Script) (object : NodeExpr) :
    script.model.GrowsInto (script.declare object).model := by
  unfold declare
  split
  · exact .addParticipant _ _
  · exact .refl _

/-- A line adds participants and events. -/
theorem growsInto_addLine (script : Script) (exprs : List Expr) :
    script.model.GrowsInto (script.addLine exprs).model := by
  simp only [addLine]
  generalize (Expr.nodes exprs).filter _ = objects
  have hdeclared : script.model.GrowsInto (objects.foldl declare script).model :=
    List.foldlRecOn (motive := fun later : Script => script.model.GrowsInto later.model) objects
      declare (.refl _) fun later h object _ => h.trans (later.growsInto_declare object)
  exact List.foldlRecOn (motive := fun later => script.model.GrowsInto later) _
    SequenceModel.addEvent hdeclared fun later h event _ => h.trans (.addEvent later event)

/-- Lines add participants and events. -/
theorem growsInto_foldl_addLine (script : Script) (lines : List (List Expr)) :
    script.model.GrowsInto (lines.foldl addLine script).model :=
  List.foldlRecOn (motive := fun later : Script => script.model.GrowsInto later.model) lines
    addLine (.refl _) fun later h line _ => h.trans (later.growsInto_addLine line)

end Sequences.Script

/-! ## Diagrams -/

/-- Whether the diagram of some lines **grows into** that of these and further lines. Outside of
activity diagrams all statements of a graph stay as they are. -/
def Artifact.GrowsInto (kind : Kind) : Artifact → Artifact → Prop
  | .graph drawn, .graph later =>
    drawn.GrowsInto kind later ∧ (kind ≠ .activity → drawn.statements <+: later.statements)
  | .sequence model, .sequence later => model.GrowsInto later
  | _, _ => False

/-- The diagram of some lines grows into that of these and further lines. -/
theorem Kind.growsInto_artifactOf_append (kind : Kind) (direction : Direction)
    (lines more : List (List Expr)) :
    (kind.artifactOf direction lines).GrowsInto kind
      (kind.artifactOf direction (lines ++ more)) := by
  unfold artifactOf
  split
  · rename_i dialect hdialect
    have hnames := GraphDialect.names_foldl_addLine hdialect
      (Draft.names_empty ⟨dialect.rankSep, direction⟩) lines
    have hgrows := GraphDialect.growsInto_foldl_addLine hdialect hnames more
    rw [← List.foldl_append] at hgrows
    exact ⟨hgrows, hgrows.prefix_of_ne⟩
  · have hgrows := (lines.foldl Sequences.Script.addLine .empty).growsInto_foldl_addLine more
    rw [← List.foldl_append] at hgrows
    exact hgrows

/-- **Lines do not depend on the lines below them.** If some lines fail, then they fail with the same
error in front of others; and if they are part of a longer list that compiles, then they compile by
themselves, to a diagram that the longer list only lets grow. -/
theorem Kind.growsInto_compileLines_append (kind : Kind) (direction : Direction)
    (lines more : List SourceLine) :
    (∀ error, kind.compileLines direction lines = .error error →
      kind.compileLines direction (lines ++ more) = .error error) ∧
    ∀ later, kind.compileLines direction (lines ++ more) = .ok later →
      ∃ earlier, kind.compileLines direction lines = .ok earlier ∧ earlier.GrowsInto kind later := by
  unfold compileLines
  rw [List.mapM_append]
  cases lines.mapM kind.parseLine with
  | error failure =>
    refine ⟨fun error h => h, fun later h => ?_⟩
    cases h
  | ok read =>
    refine ⟨fun error h => ?_, fun later h => ?_⟩
    · cases h
    · cases hmore : more.mapM kind.parseLine with
      | error failure =>
        rw [hmore] at h
        cases h
      | ok others =>
        rw [hmore] at h
        cases h
        exact ⟨_, rfl, kind.growsInto_artifactOf_append direction read others⟩

/-- A second arrow into a bar extends the bar's label, and a line that is rejected is rejected in front
of another. -/
theorem Kind.growsInto_compileLines_append_bar :
    let first : SourceLine := ⟨"(a)->|b|".toList, 0⟩
    let second : SourceLine := ⟨"(c)->|b|".toList, 9⟩
    let rejected : SourceLine := ⟨"(a) b (c)".toList, 0⟩
    (∃ earlier later, Kind.compileLines .activity .topDown [first] = .ok earlier ∧
      Kind.compileLines .activity .topDown ([first] ++ [second]) = .ok (.graph later) ∧
      later.nodes.map (fun node => String.ofList node.label) = ["a", "<f1>|<f2>", "c"] ∧
      earlier.GrowsInto .activity (.graph later)) ∧
    ∃ error, Kind.compileLines .activity .topDown [rejected] = .error error ∧
      Kind.compileLines .activity .topDown ([rejected] ++ [first]) = .error error := by
  intro first second rejected
  have hlabels : (Kind.compileLines .activity .topDown ([first] ++ [second])).map (fun artifact =>
      artifact.graph?.map fun graph => graph.nodes.map fun node => String.ofList node.label) =
      .ok (some ["a", "<f1>|<f2>", "c"]) := by decide +kernel
  have hrejected : Kind.compileLines .activity .topDown [rejected] =
      .error (.unrecognized .activity ⟨['b'], .ofLength 4 1⟩) := by decide +kernel
  obtain ⟨later, hlater, hlabels⟩ := Artifact.exists_of_map_graph? hlabels
  obtain ⟨earlier, hearlier, hgrows⟩ :=
    (Kind.growsInto_compileLines_append .activity .topDown [first] [second]).2 _ hlater
  exact ⟨⟨earlier, later, hearlier, hlater, hlabels, hgrows⟩, _, hrejected,
    (Kind.growsInto_compileLines_append .activity .topDown [rejected] [first]).1 _ hrejected⟩

end UmlSketch
