import UmlSketch.Proofs.Document.Cover

/-! # Settings of a document
A document is its instructions and its directives. Each directive names a kind of diagram, names a
direction or is warned about, on its own account and wherever it stands; of those that name something
the last one counts. `Document.scan_eq` puts the document that is scanned line by line together from
these parts. -/

namespace UmlSketch

/-! ## A directive by itself -/

namespace Directive

/-- The kind of diagram that a directive names. -/
def kind? (directive : Directive) : Option Kind :=
  if String.ofList directive.key.text = "type" then Kind.ofText? directive.value.text else none

/-- The direction that a directive names. -/
def direction? (directive : Directive) : Option Direction :=
  if String.ofList directive.key.text = "direction" then
    Direction.ofDirective? directive.value.text
  else none

/-- What is warned about a directive: that its value names nothing, or that its key has no effect. -/
def warning? (directive : Directive) : Option DirectiveWarning :=
  if String.ofList directive.key.text = "type" then
    if directive.kind?.isNone then some (.invalidKind directive.value) else none
  else if String.ofList directive.key.text = "direction" then
    if directive.direction?.isNone then some (.invalidDirection directive.value) else none
  else if String.ofList directive.key.text = "generate" then some (.generate directive.value)
  else some (.unknownKey directive.key)

/-- What a directive sets and what is warned about it do not depend on the settings before it. -/
theorem apply_eq (options : CompileOptions) (directive : Directive) :
    options.apply directive =
      (⟨directive.kind?.or options.kind, directive.direction?.getD options.direction⟩,
        directive.warning?) := by
  unfold CompileOptions.apply warning?
  by_cases htype : String.ofList directive.key.text = "type"
  · have hdirection : directive.direction? = none := by simp [direction?, htype]
    cases hkind : Kind.ofText? directive.value.text <;>
      simp [htype, kind?, hkind, hdirection]
  · have hkind : directive.kind? = none := by simp [kind?, htype]
    by_cases hdirection : String.ofList directive.key.text = "direction"
    · cases hvalue : Direction.ofDirective? directive.value.text <;>
        simp [hdirection, direction?, hvalue, hkind]
    · have hnone : directive.direction? = none := by simp [direction?, hdirection]
      by_cases hgenerate : String.ofList directive.key.text = "generate" <;>
        simp [htype, hdirection, hgenerate, hkind, hnone]

end Directive

/-! ## The parts of a document -/

/-- The directive of a line, if it is one. -/
def SourceLine.directive? (line : SourceLine) : Option Directive :=
  if line.isComment then Directive.ofLine? line else none

namespace Document

/-- The **instructions** of a source: its lines that are neither comments nor directives. -/
def instructions (source : Text) : List SourceLine :=
  (sourceLines source).filter fun line => !line.isComment

/-- The **directives** of a source, in order. -/
def directives (source : Text) : List Directive :=
  (sourceLines source).filterMap SourceLine.directive?

/-- The settings after some directives: of each kind the last one counts, or else what was set before
them. -/
def settingsAfter (directives : List Directive) (options : CompileOptions) : CompileOptions where
  kind := (directives.filterMap Directive.kind?).getLast?.or options.kind
  direction := (directives.filterMap Directive.direction?).getLast?.getD options.direction

/-- The settings after a first directive and others. -/
theorem settingsAfter_cons (directive : Directive) (rest : List Directive)
    (options : CompileOptions) :
    settingsAfter (directive :: rest) options =
      settingsAfter rest (options.apply directive).1 := by
  rw [Directive.apply_eq]
  unfold settingsAfter
  congr 1
  · cases hkind : directive.kind? with
    | none => rw [List.filterMap_cons_none hkind, Option.none_or]
    | some kind => simp [List.filterMap_cons_some hkind, List.getLast?_cons]
  · cases hdirection : directive.direction? with
    | none => rw [List.filterMap_cons_none hdirection, Option.getD_none]
    | some direction => simp [List.filterMap_cons_some hdirection, List.getLast?_cons]

/-- The settings in which a source is compiled. -/
def settings (source : Text) (options : CompileOptions) : CompileOptions :=
  settingsAfter (directives source) options

/-- The warnings about the directives of a source, in order. -/
def warningsOf (source : Text) : List DirectiveWarning :=
  (directives source).filterMap Directive.warning?

/-- A line that is no directive leaves the settings and the warnings as they are. -/
theorem addLine_of_no_directive {line : SourceLine} (h : line.directive? = none)
    (document : Document) :
    (document.addLine line).options = document.options ∧
      (document.addLine line).warnings = document.warnings := by
  unfold SourceLine.directive? at h
  unfold addLine
  split
  · rename_i hcomment
    rw [if_pos hcomment] at h
    rw [h]
    exact ⟨rfl, rfl⟩
  · exact ⟨rfl, rfl⟩

/-- A directive is applied, and what is warned about it is noted. -/
theorem addLine_of_directive {line : SourceLine} {directive : Directive}
    (h : line.directive? = some directive) (document : Document) :
    (document.addLine line).options = (document.options.apply directive).1 ∧
      (document.addLine line).warnings = document.warnings ++ directive.warning?.toList := by
  unfold SourceLine.directive? at h
  split at h
  · rename_i hcomment
    simp [addLine, hcomment, h, Directive.apply_eq]
  · cases h

/-- The directives among some lines are applied one after the other. -/
theorem options_foldl_addLine (document : Document) (lines : List SourceLine) :
    (lines.foldl addLine document).options =
      settingsAfter (lines.filterMap SourceLine.directive?) document.options := by
  induction lines generalizing document with
  | nil => rfl
  | cons line rest ih =>
    rw [List.foldl_cons, ih]
    cases hline : line.directive? with
    | none => rw [List.filterMap_cons_none hline, (addLine_of_no_directive hline document).1]
    | some directive =>
      rw [List.filterMap_cons_some hline, settingsAfter_cons, (addLine_of_directive hline document).1]

/-- The warnings about the directives among some lines are noted in order. -/
theorem warnings_foldl_addLine (document : Document) (lines : List SourceLine) :
    (lines.foldl addLine document).warnings =
      document.warnings ++ (lines.filterMap SourceLine.directive?).filterMap Directive.warning? := by
  induction lines generalizing document with
  | nil => simp
  | cons line rest ih =>
    rw [List.foldl_cons, ih]
    cases hline : line.directive? with
    | none => rw [List.filterMap_cons_none hline, (addLine_of_no_directive hline document).2]
    | some directive =>
      rw [List.filterMap_cons_some hline, (addLine_of_directive hline document).2,
        List.filterMap_cons]
      cases directive.warning? <;> simp

/-- **A document is its instructions and its directives.** -/
theorem scan_eq (source : Text) (options : CompileOptions) :
    scan source options =
      { options := settings source options
        lines := instructions source
        warnings := warningsOf source } := by
  have hlines : (scan source options).lines = instructions source := lines_scan source options
  have hoptions : (scan source options).options = settings source options :=
    options_foldl_addLine _ _
  have hwarnings : (scan source options).warnings = warningsOf source := by
    rw [scan, warnings_foldl_addLine, List.nil_append]
    rfl
  rw [← hlines, ← hoptions, ← hwarnings]

/-- No kind of diagram is known if no directive names one and none is given. -/
theorem kind_settings_eq_none_iff {source : Text} {options : CompileOptions} :
    (settings source options).kind = none ↔
      options.kind = none ∧ ∀ directive ∈ directives source, directive.kind? = none := by
  simp only [settings, settingsAfter, Option.or_eq_none_iff, List.getLast?_eq_none_iff,
    List.filterMap_eq_nil_iff]
  exact And.comm

end Document

end UmlSketch
