import UmlSketch.Proofs.Description.Documents
import UmlSketch.Proofs.Document.Failures
import UmlSketch.Proofs.Sequence.Lookups
import UmlSketch.Proofs.Sequence.Scripts

/-! # Documents with a sequence diagram
A document that is compiled as a sequence diagram has the participants and events that its instructions
stand for. The positions in its events are those of participants, which is all that its layout and its
drawing rely on. -/

namespace UmlSketch

namespace Sequences

variable {model : SequenceModel} {lines : List (List Expr)}

/-- An event that shows a cue refers to participants. -/
theorem Cue.IsShownBy.position_lt {participants : List Participant} {cue : Cue} {event : Event}
    (h : cue.IsShownBy participants event) :
    ∀ position ∈ event.positions, position < participants.length := by
  cases cue with
  | message sender sent receiver =>
    cases event with
    | message shown =>
      obtain ⟨⟨hsource, -⟩, ⟨htarget, -⟩, -⟩ := h
      simp [Event.positions, hsource, htarget]
    | note shown => exact h.elim
  | note object remark =>
    cases event with
    | message shown => exact h.elim
    | note shown =>
      obtain ⟨⟨hparticipant, -⟩, -⟩ := h
      simp [Event.positions, hparticipant]

/-- The events of a diagram that depicts some lines refer to its participants. -/
theorem Depicts.inRange (h : Depicts model lines) : model.InRange := by
  intro event hevent
  obtain ⟨index, hindex, rfl⟩ := List.getElem_of_mem hevent
  obtain ⟨hlength, hshown⟩ := List.forall₂_iff_get.mp h.events
  exact (hshown index (hlength ▸ hindex) hindex).position_lt

end Sequences

/-- The sequence diagram, if it is one. -/
def Artifact.sequence? : Artifact → Option SequenceModel
  | .sequence model => some model
  | _ => none

theorem Artifact.eq_of_sequence? {artifact : Artifact} {model : SequenceModel}
    (h : artifact.sequence? = some model) : artifact = .sequence model := by
  cases artifact <;> cases h
  rfl

/-- The events of a document that is compiled as a sequence diagram refer to its participants. -/
theorem SequenceModel.inRange_of_compile {model : SequenceModel} {source : Text} {options : CompileOptions}
    {compilation : Compilation} (h : compile source options = .ok compilation)
    (hmodel : compilation.artifact = .sequence model) : model.InRange := by
  rcases Document.eq_empty_or_compileLines (artifact_of_compile h) with hempty | ⟨kind, hcompile⟩
  · rw [hempty] at hmodel
    cases hmodel
  · rw [hmodel] at hcompile
    obtain ⟨read, hread, rfl⟩ := Sequences.eq_modelOf_of_compileLines hcompile
    exact (Sequences.depicts_modelOf fun _ => Sequences.role_of_mapM_parseLine hread).inRange

/-- **What a document with a sequence diagram shows.** If there are instructions, then the diagram has
the participants and the events that they stand for, every position names the participant of the object
that stands there, and layout and drawing make no look-up out of range. -/
theorem depicts_of_compile {source : Text} {options : CompileOptions} {compilation : Compilation}
    (h : compile source options = .ok compilation) (hkind : compilation.kind = some .sequence) :
    ∃ read, (Document.instructions source).mapM (Kind.parseLine .sequence) = .ok read ∧
      match compilation.artifact with
      | .empty => Document.instructions source = []
      | .graph _ => False
      | .sequence model => Sequences.Depicts model read ∧ model.InRange ∧ model.IsDrawn := by
  have hartifact := artifact_of_compile h
  have hsettings : (Document.settings source options).kind = some .sequence := by
    rw [← hkind, kind_of_compile h, Document.scan_eq]
  rw [Document.artifact_scan, hsettings] at hartifact
  split at hartifact
  · rename_i hlines
    refine ⟨[], by rw [hlines]; rfl, ?_⟩
    rw [← Except.ok.inj hartifact]
    exact hlines
  · cases hread : (Document.instructions source).mapM (Kind.parseLine .sequence) with
    | error failure =>
      simp only [Kind.compileLines, hread] at hartifact
      cases hartifact
    | ok read =>
      have hmodel : .sequence (Sequences.modelOf read) = compilation.artifact := by
        simp only [Kind.compileLines, hread] at hartifact
        exact Except.ok.inj hartifact
      have hdepicts := Sequences.depicts_modelOf fun _ => Sequences.role_of_mapM_parseLine hread
      refine ⟨read, rfl, ?_⟩
      rw [← hmodel]
      exact ⟨hdepicts, hdepicts.inRange, hdepicts.inRange.isDrawn⟩

/-- A call and its answer, a message of an object to itself and two notes, the second one behind a
dash. -/
theorem depicts_of_compile_conversation :
    let source :=
      ("[Patron]order>([Cook\x7bbg:red\x7d]\n// \x7btype:sequence\x7d\n" ++
        "[Cook|chef]taste>>[Cook]taste>[note: salty]\n[Cook])serve.>[Patron]-[note: hot]").toList
    ∃ compilation, compile source {} = .ok compilation ∧ compilation.kind = some .sequence ∧
      (∃ model, compilation.artifact = .sequence model ∧
        model.participants.map (fun participant => String.ofList participant.label) =
          ["Patron", "Cook"] ∧
        model.events.map Event.positions = [[0, 1], [1, 1], [1], [1, 0], [0]]) ∧
      ∃ read, (Document.instructions source).mapM (Kind.parseLine .sequence) = .ok read ∧
        match compilation.artifact with
        | .empty => Document.instructions source = []
        | .graph _ => False
        | .sequence model => Sequences.Depicts model read ∧ model.InRange ∧ model.IsDrawn := by
  intro source
  have hresult : (compile source {}).toOption.map (fun compilation =>
      (compilation.kind, compilation.artifact.sequence?.map fun model =>
        (model.participants.map fun participant => String.ofList participant.label,
          model.events.map Event.positions))) =
      some (some .sequence,
        some (["Patron", "Cook"], [[0, 1], [1, 1], [1], [1, 0], [0]])) := by
    decide +kernel
  cases hcompile : compile source {} with
  | error failure =>
    rw [hcompile] at hresult
    cases hresult
  | ok compilation =>
    rw [hcompile] at hresult
    obtain ⟨hkind, hmodel⟩ := Prod.mk.inj (Option.some.inj hresult)
    obtain ⟨model, hmodel, hparts⟩ := Option.map_eq_some_iff.mp hmodel
    obtain ⟨hparticipants, hevents⟩ := Prod.mk.inj hparts
    exact ⟨compilation, rfl, hkind,
      ⟨model, Artifact.eq_of_sequence? hmodel, hparticipants, hevents⟩,
      depicts_of_compile hcompile hkind⟩

end UmlSketch
