import UmlSketch.CommandLine.Run
import UmlSketch.Proofs.Document.Failures

/-! # Which settings count
The kind and the direction of a diagram may be set by the directives of its document, by the arguments
of the command line and in the configuration, and there are defaults. Arguments and configuration are
looked at first, and a name that is not known there ends the run whatever the document says. After
that the document has the first word, then the arguments, then the configuration
(`CommandLine.resolution_compile`). -/

namespace UmlSketch

/-! ## Spellings -/

/-- Whether a name **spells** a kind of diagram. -/
def Kind.IsSpelled (kind : Kind) (name : Text) : Prop := name = kind.name.toList

/-- Whether a name **spells** a direction, in the way of a layout engine or of a directive. -/
def Direction.IsSpelled (direction : Direction) (name : Text) : Prop :=
  name = direction.rankDir.toList ∨ name = direction.directiveName.toList

theorem Kind.ofText?_eq_some_iff {name : Text} {kind : Kind} :
    ofText? name = some kind ↔ kind.IsSpelled name := by
  constructor
  · intro h
    have hname := List.find?_some h
    exact (of_decide_eq_true hname).symm
  · rintro rfl
    exact ofText?_name kind

theorem Direction.ofDirective?_eq_some_iff {name : Text} {direction : Direction} :
    ofDirective? name = some direction ↔ name = direction.directiveName.toList := by
  constructor
  · intro h
    have hname := List.find?_some h
    exact (of_decide_eq_true hname).symm
  · rintro rfl
    cases direction <;> decide +kernel

theorem Direction.ofText?_eq_some_iff {name : Text} {direction : Direction} :
    ofText? name = some direction ↔ direction.IsSpelled name := by
  constructor
  · intro h
    rcases Option.or_eq_some_iff.mp h with hname | ⟨-, hname⟩
    · have hspelled := List.find?_some hname
      exact Or.inl (of_decide_eq_true hspelled).symm
    · exact Or.inr (ofDirective?_eq_some_iff.mp hname)
  · rintro (rfl | rfl) <;> cases direction <;> decide +kernel

/-! ## The directive that counts -/

/-- Whether a directive **names** a kind of diagram. -/
def Directive.NamesKind (directive : Directive) (kind : Kind) : Prop :=
  directive.key.text = "type".toList ∧ directive.value.text = kind.name.toList

/-- Whether a directive **names** a direction. -/
def Directive.NamesDirection (directive : Directive) (direction : Direction) : Prop :=
  directive.key.text = "direction".toList ∧
    directive.value.text = direction.directiveName.toList

theorem Directive.kind?_eq_some_iff {directive : Directive} {kind : Kind} :
    directive.kind? = some kind ↔ directive.NamesKind kind := by
  simp only [kind?, NamesKind, Option.ite_none_right_eq_some, Kind.ofText?_eq_some_iff,
    Kind.IsSpelled, ← String.toList_inj, String.toList_ofList]

theorem Directive.direction?_eq_some_iff {directive : Directive} {direction : Direction} :
    directive.direction? = some direction ↔ directive.NamesDirection direction := by
  simp only [direction?, NamesDirection, Option.ite_none_right_eq_some,
    Direction.ofDirective?_eq_some_iff, ← String.toList_inj, String.toList_ofList]

/-- The last result of a reader along a list is that of the last element that the reader accepts. -/
theorem exists_of_getLast?_filterMap {α β : Type} {f : α → Option β} {list : List α} {b : β}
    (h : (list.filterMap f).getLast? = some b) :
    ∃ before a after, list = before ++ a :: after ∧ f a = some b ∧ ∀ later ∈ after, f later = none := by
  rw [List.getLast?_filterMap, List.findSome?_eq_some_iff] at h
  obtain ⟨after, a, before, hlist, ha, hafter⟩ := h
  refine ⟨before.reverse, a, after.reverse, ?_, ha, fun later hlater => ?_⟩
  · rw [← List.reverse_reverse list, hlist]
    simp
  · exact hafter later (List.mem_reverse.mp hlater)

/-- The value that **counts** among those which some directives name, which an argument and a
configuration spell, and a default: the last directive that names one comes first, then the argument,
then the configuration, then the default. -/
inductive Counts {α : Type} (Names : Directive → α → Prop) (Spells : Text → α → Prop)
    (directives : List Directive) (argument configured : Option Text) (default : α) : α → Prop
  /-- A directive names the value, and none below it names any. -/
  | directive {before after : List Directive} {directive : Directive} {value : α}
    (hsplit : directives = before ++ directive :: after) (hvalue : Names directive value)
    (hlast : ∀ later ∈ after, ∀ other, ¬ Names later other) :
    Counts Names Spells directives argument configured default value
  /-- The argument spells the value. -/
  | argument {name : Text} {value : α}
    (hnone : ∀ directive ∈ directives, ∀ other, ¬ Names directive other)
    (hargument : argument = some name) (hvalue : Spells name value) :
    Counts Names Spells directives argument configured default value
  /-- The configuration spells the value. -/
  | configured {name : Text} {value : α}
    (hnone : ∀ directive ∈ directives, ∀ other, ¬ Names directive other)
    (hargument : argument = none) (hconfigured : configured = some name)
    (hvalue : Spells name value) :
    Counts Names Spells directives argument configured default value
  /-- Nothing is said. -/
  | default (hnone : ∀ directive ∈ directives, ∀ other, ¬ Names directive other)
    (hargument : argument = none) (hconfigured : configured = none) :
    Counts Names Spells directives argument configured default default

/-- Whether a setting **gives** a value: it spells the value, or it is left out and the value is the
default. -/
def Gives {α : Type} (Spells : Text → α → Prop) (default : α) (setting : Option Text) (value : α) : Prop :=
  setting = none ∧ value = default ∨ ∃ name, setting = some name ∧ Spells name value

/-- A setting gives a value if it spells none that is not known. -/
theorem exists_gives {α : Type} {Spells : Text → α → Prop} {setting : Option Text}
    (h : ∀ name, setting = some name → ∃ value, Spells name value) (default : α) :
    ∃ value, Gives Spells default setting value := by
  cases setting with
  | none => exact ⟨default, Or.inl ⟨rfl, rfl⟩⟩
  | some name =>
    obtain ⟨value, hvalue⟩ := h name rfl
    exact ⟨value, Or.inr ⟨name, rfl, hvalue⟩⟩

/-- Taking the last value that a directive names, or else the one that argument and configuration give,
takes the one that counts. -/
theorem counts_getLast? {α : Type} {names? : Directive → Option α} {Names : Directive → α → Prop}
    {Spells : Text → α → Prop}
    (hnames : ∀ directive value, names? directive = some value ↔ Names directive value)
    (directives : List Directive) {argument configured : Option Text} {default given : α}
    (hgiven : Gives Spells default (argument.or configured) given) :
    Counts Names Spells directives argument configured default
      ((directives.filterMap names?).getLast?.getD given) := by
  cases hlast : (directives.filterMap names?).getLast? with
  | some value =>
    obtain ⟨before, directive, after, hsplit, hvalue, hafter⟩ := exists_of_getLast?_filterMap hlast
    refine .directive hsplit ((hnames _ _).mp hvalue) fun later hlater other hother => ?_
    rw [← hnames, hafter later hlater] at hother
    cases hother
  | none =>
    have hnone : ∀ directive ∈ directives, ∀ other, ¬ Names directive other := by
      intro directive hdirective other hother
      rw [← hnames] at hother
      have hempty := List.getLast?_eq_none_iff.mp hlast
      rw [List.filterMap_eq_nil_iff.mp hempty directive hdirective] at hother
      cases hother
    rcases hgiven with ⟨hnothing, rfl⟩ | ⟨name, hname, hspells⟩
    · obtain ⟨hargument, hconfigured⟩ := Option.or_eq_none_iff.mp hnothing
      exact .default hnone hargument hconfigured
    · rcases Option.or_eq_some_iff.mp hname with hargument | ⟨hargument, hconfigured⟩
      · exact .argument hnone hargument hspells
      · exact .configured hnone hargument hconfigured hspells

/-! ## Settings -/

/-- Whether a setting gives a kind of diagram. -/
abbrev GivesKind : Option Text → Kind → Prop := Gives (fun name kind => kind.IsSpelled name) .classes

/-- Whether a setting gives a direction. -/
abbrev GivesDirection : Option Text → Direction → Prop :=
  Gives (fun name direction => direction.IsSpelled name) .topDown

namespace DiagramSettings

variable {settings : DiagramSettings} {name : Text} {kind : Kind} {direction : Direction}

/-- A kind that is not known is refused, whatever the direction is. -/
theorem compileOptions_of_unknown_kind (h : settings.kind = some name)
    (hname : ∀ kind : Kind, ¬ kind.IsSpelled name) :
    settings.compileOptions = .error (.unknownKind name) := by
  have hnone : Kind.ofText? name = none :=
    Option.eq_none_iff_forall_ne_some.mpr fun kind hkind =>
      hname kind (Kind.ofText?_eq_some_iff.mp hkind)
  simp only [compileOptions, h, hnone]
  rfl

/-- Next to a kind that is given, a direction that is not known is refused. -/
theorem compileOptions_of_unknown_direction (hkind : GivesKind settings.kind kind)
    (h : settings.direction = some name)
    (hname : ∀ direction : Direction, ¬ direction.IsSpelled name) :
    settings.compileOptions = .error (.unknownDirection name) := by
  have hnone : Direction.ofText? name = none :=
    Option.eq_none_iff_forall_ne_some.mpr fun direction hdirection =>
      hname direction (Direction.ofText?_eq_some_iff.mp hdirection)
  rcases hkind with ⟨hkind, -⟩ | ⟨spelling, hkind, hspelling⟩
  · simp only [compileOptions, hkind, h, hnone]
    rfl
  · simp only [compileOptions, hkind, Kind.ofText?_eq_some_iff.mpr hspelling, h, hnone]
    rfl

/-- A document starts from the kind and the direction that are given. -/
theorem compileOptions_of_gives (hkind : GivesKind settings.kind kind)
    (hdirection : GivesDirection settings.direction direction) :
    settings.compileOptions = .ok ⟨some kind, direction⟩ := by
  rcases hkind with ⟨hkind, rfl⟩ | ⟨name, hkind, hname⟩ <;>
    rcases hdirection with ⟨hdirection, rfl⟩ | ⟨spelling, hdirection, hspelling⟩
  · simp only [compileOptions, hkind, hdirection]
    rfl
  · simp only [compileOptions, hkind, hdirection, Direction.ofText?_eq_some_iff.mpr hspelling]
    rfl
  · simp only [compileOptions, hkind, hdirection, Kind.ofText?_eq_some_iff.mpr hname]
    rfl
  · simp only [compileOptions, hkind, hdirection, Kind.ofText?_eq_some_iff.mpr hname,
      Direction.ofText?_eq_some_iff.mpr hspelling]
    rfl

end DiagramSettings

/-! ## Documents -/

/-- A document compiled **as** a diagram of a kind in a direction, whatever its directives set. -/
def Document.compileAs (kind : Kind) (direction : Direction) (source : Text) :
    Except Failure Compilation :=
  if instructions source = [] then .ok ⟨some kind, direction, .empty, warningsOf source⟩
  else
    match kind.compileLines direction (instructions source) with
    | .ok artifact => .ok ⟨some kind, direction, artifact, warningsOf source⟩
    | .error error => .error (.document ⟨.token error, warningsOf source⟩ source)

/-- A document is compiled as the kind and in the direction that its last directives name, or else that
it starts from. -/
theorem Document.compile_eq_compileAs (source : Text) (kind : Kind) (direction : Direction) :
    (compile source ⟨some kind, direction⟩).mapError (Failure.document · source) =
      compileAs (((directives source).filterMap Directive.kind?).getLast?.getD kind)
        (((directives source).filterMap Directive.direction?).getLast?.getD direction) source := by
  have hsettings : settings source ⟨some kind, direction⟩ =
      ⟨some (((directives source).filterMap Directive.kind?).getLast?.getD kind),
        ((directives source).filterMap Directive.direction?).getLast?.getD direction⟩ := by
    simp only [settings, settingsAfter]
    cases ((directives source).filterMap Directive.kind?).getLast? <;> rfl
  simp only [compile, scan_eq, hsettings, artifact, compileAs]
  by_cases hlines : instructions source = []
  · simp only [if_pos hlines]
    rfl
  · simp only [if_neg hlines]
    cases Kind.compileLines _ _ (instructions source) <;> rfl

/-! ## Failures -/

/-- The codes of the diagnostics of a failure. -/
def Failure.codes (failure : Failure) : List Code :=
  (failure.diagnostics?.elim [] Prod.fst).filterMap Diagnostic.code

/-- A document that is compiled as a given kind is not refused for want of one. -/
theorem Document.missingKind_not_mem_codes {kind : Kind} {direction : Direction} {source : Text}
    {failure : Failure} (h : compileAs kind direction source = .error failure) :
    .missingKind ∉ failure.codes := by
  unfold compileAs at h
  split at h
  · cases h
  · split at h
    · cases h
    · rename_i error _
      cases h
      intro hmem
      obtain ⟨diagnostic, hdiagnostic, hcode⟩ := List.mem_filterMap.mp hmem
      -- The diagnostics are that of a token and those of directives.
      rcases List.mem_cons.mp hdiagnostic with rfl | hwarning
      · cases error <;> cases hcode
      · obtain ⟨warning, -, rfl⟩ := List.mem_map.mp hwarning
        cases warning <;> cases hcode

/-- A document that does not compile is not built. -/
theorem CommandLine.Arguments.build_eq_error {arguments : Arguments} {configuration : Configuration}
    {source : Text} {failure : Failure}
    (h : (arguments.configure configuration).compile source = .error failure)
    (renderer : Option Renderer) : arguments.build configuration renderer source = .error failure := by
  unfold build
  split
  · simp only [Configuration.build, h]
    rfl
  · simp only [Configuration.draw, Configuration.build, h]
    rfl

/-- A document that compiles can only fail to be drawn. -/
theorem CommandLine.Arguments.eq_render_of_build {arguments : Arguments}
    {configuration : Configuration} {source : Text} {compilation : Compilation} {failure : Failure}
    (hcompile : (arguments.configure configuration).compile source = .ok compilation)
    {renderer : Option Renderer}
    (h : arguments.build configuration renderer source = .error failure) :
    ∃ error, failure = .render error := by
  unfold build at h
  split at h
  · simp only [Configuration.build, hcompile] at h
    cases h
  · simp only [Configuration.draw, Configuration.build, hcompile] at h
    cases houtput : compilation.artifact.output (arguments.configure configuration) with
    | drawing text =>
      simp only [Except.map, houtput] at h
      cases h
    | description text =>
      simp only [Except.map, houtput] at h
      cases renderer with
      | none =>
        cases h
        exact ⟨_, rfl⟩
      | some render =>
        change ((render text (arguments.configure configuration).engine).mapError
          Failure.render).bind _ = _ at h
        cases hdrawing : render text (arguments.configure configuration).engine with
        | error error =>
          rw [hdrawing] at h
          cases h
          exact ⟨_, rfl⟩
        | ok drawing =>
          rw [hdrawing] at h
          cases h

/-! ## Resolution -/

namespace CommandLine

section

variable (arguments : Arguments) (configuration : Configuration) (source : Text)

/-- Whether the kind that arguments and configuration name, if they do, is known. -/
def KindIsKnown : Prop :=
  ∀ name, arguments.kind.or configuration.diagram.kind = some name →
    ∃ kind : Kind, kind.IsSpelled name

/-- Whether the direction that arguments and configuration name, if they do, is known. -/
def DirectionIsKnown : Prop :=
  ∀ name, arguments.direction.or configuration.diagram.direction = some name →
    ∃ direction : Direction, direction.IsSpelled name

/-- Whether a kind of diagram is the one that counts; class diagrams are the default. -/
def KindCounts : Kind → Prop :=
  Counts Directive.NamesKind (fun name kind => kind.IsSpelled name) (Document.directives source)
    arguments.kind configuration.diagram.kind .classes

/-- Whether a direction is the one that counts; from top to bottom is the default. -/
def DirectionCounts : Direction → Prop :=
  Counts Directive.NamesDirection (fun name direction => direction.IsSpelled name)
    (Document.directives source) arguments.direction configuration.diagram.direction .topDown

/-- How the settings of a document are **resolved** between the directives of the document, the
arguments of a command line and a configuration. -/
structure Resolution : Prop where
  /-- A kind that is not known is refused before anything else. -/
  unknown_kind : ∀ name, arguments.kind.or configuration.diagram.kind = some name →
    (∀ kind : Kind, ¬ kind.IsSpelled name) →
      (arguments.configure configuration).compile source = .error (.setting (.unknownKind name)) ∧
        (Failure.codes (.setting (.unknownKind name))).map Code.name = ["E201"]
  /-- A direction that is not known is refused next. -/
  unknown_direction : ∀ name, arguments.direction.or configuration.diagram.direction = some name →
    (∀ direction : Direction, ¬ direction.IsSpelled name) → KindIsKnown arguments configuration →
      (arguments.configure configuration).compile source =
          .error (.setting (.unknownDirection name)) ∧
        (Failure.codes (.setting (.unknownDirection name))).map Code.name = ["E202"]
  /-- Otherwise the document is compiled as the kind and in the direction that count. -/
  known : KindIsKnown arguments configuration → DirectionIsKnown arguments configuration →
    ∃ kind direction, KindCounts arguments configuration source kind ∧
      DirectionCounts arguments configuration source direction ∧
      (arguments.configure configuration).compile source = Document.compileAs kind direction source
  /-- A document that does not compile is not built, for the same cause. -/
  build_of_error : ∀ (renderer : Option Renderer) failure,
    (arguments.configure configuration).compile source = .error failure →
      arguments.build configuration renderer source = .error failure
  /-- No document is refused for want of a kind. -/
  has_kind : ∀ (renderer : Option Renderer) failure,
    arguments.build configuration renderer source = .error failure →
      "E200" ∉ failure.codes.map Code.name

end

variable {arguments : Arguments} {configuration : Configuration} {source : Text}

/-- With names that are known, a document is compiled as the kind and in the direction that count. -/
theorem exists_compile_eq_compileAs (hkind : KindIsKnown arguments configuration)
    (hdirection : DirectionIsKnown arguments configuration) :
    ∃ kind direction, KindCounts arguments configuration source kind ∧
      DirectionCounts arguments configuration source direction ∧
      (arguments.configure configuration).compile source =
        Document.compileAs kind direction source := by
  obtain ⟨kind, hgivenKind⟩ := exists_gives hkind .classes
  obtain ⟨direction, hgivenDirection⟩ := exists_gives hdirection .topDown
  have hoptions : (arguments.configure configuration).diagram.compileOptions =
      .ok ⟨some kind, direction⟩ :=
    DiagramSettings.compileOptions_of_gives hgivenKind hgivenDirection
  refine ⟨_, _, counts_getLast? (fun _ _ => Directive.kind?_eq_some_iff) _ hgivenKind,
    counts_getLast? (fun _ _ => Directive.direction?_eq_some_iff) _ hgivenDirection, ?_⟩
  rw [← Document.compile_eq_compileAs, Configuration.compile, hoptions]
  rfl

/-- A kind that is not known is refused. -/
theorem compile_of_unknown_kind {name : Text}
    (hname : arguments.kind.or configuration.diagram.kind = some name)
    (hunknown : ∀ kind : Kind, ¬ kind.IsSpelled name) :
    (arguments.configure configuration).compile source = .error (.setting (.unknownKind name)) := by
  rw [Configuration.compile, DiagramSettings.compileOptions_of_unknown_kind hname hunknown]
  rfl

/-- A direction that is not known is refused, unless the kind is. -/
theorem compile_of_unknown_direction {name : Text}
    (hname : arguments.direction.or configuration.diagram.direction = some name)
    (hunknown : ∀ direction : Direction, ¬ direction.IsSpelled name)
    (hkind : KindIsKnown arguments configuration) :
    (arguments.configure configuration).compile source =
      .error (.setting (.unknownDirection name)) := by
  obtain ⟨kind, hgiven⟩ := exists_gives hkind .classes
  rw [Configuration.compile,
    DiagramSettings.compileOptions_of_unknown_direction hgiven hname hunknown]
  rfl

/-- No document is refused for want of a kind: there is always one, at least the default. -/
theorem missingKind_not_mem_codes_of_compile {failure : Failure}
    (h : (arguments.configure configuration).compile source = .error failure) :
    .missingKind ∉ failure.codes := by
  by_cases hkind : KindIsKnown arguments configuration
  · by_cases hdirection : DirectionIsKnown arguments configuration
    · obtain ⟨kind, direction, -, -, hcompile⟩ := exists_compile_eq_compileAs hkind hdirection
      exact Document.missingKind_not_mem_codes (hcompile.symm.trans h)
    · simp only [DirectionIsKnown, not_forall, not_exists] at hdirection
      obtain ⟨name, hname, hunknown⟩ := hdirection
      cases (compile_of_unknown_direction hname hunknown hkind).symm.trans h
      exact (by decide : Code.missingKind ∉ [Code.invalidDirection])
  · simp only [KindIsKnown, not_forall, not_exists] at hkind
    obtain ⟨name, hname, hunknown⟩ := hkind
    cases (compile_of_unknown_kind hname hunknown).symm.trans h
    exact (by decide : Code.missingKind ∉ [Code.invalidKind])

/-- **Which settings count.** Names that are not known are refused first, the kind before the
direction; else the last directive decides, then the arguments, then the configuration. -/
theorem resolution_compile (arguments : Arguments) (configuration : Configuration) (source : Text) :
    Resolution arguments configuration source where
  unknown_kind name hname hunknown := ⟨compile_of_unknown_kind hname hunknown, rfl⟩
  unknown_direction name hname hunknown hkind :=
    ⟨compile_of_unknown_direction hname hunknown hkind, rfl⟩
  known := exists_compile_eq_compileAs
  build_of_error renderer failure h := Arguments.build_eq_error h renderer
  has_kind renderer failure h := by
    have hcodes : .missingKind ∉ failure.codes := by
      cases hcompile : (arguments.configure configuration).compile source with
      | ok compilation =>
        obtain ⟨error, rfl⟩ := Arguments.eq_render_of_build hcompile h
        exact List.not_mem_nil
      | error refusal =>
        cases (Arguments.build_eq_error hcompile renderer).symm.trans h
        exact missingKind_not_mem_codes_of_compile hcompile
    -- No other code has this short form.
    rw [List.mem_map]
    rintro ⟨code, hcode, hname⟩
    cases code
    case missingKind => exact hcodes hcode
    all_goals exact absurd hname (by decide)

/-- The last directive names no kind, so the one before it counts, and not the argument; the direction
is that of the configuration. -/
example :
    (Arguments.configure { kind := some "state".toList }
        { diagram := { kind := some "package".toList, direction := some "LR".toList } }).compile
      "// \x7btype:activity\x7d\n// \x7btype:flowchart\x7d".toList =
      .ok ⟨some .activity, .leftToRight, .empty,
        [.invalidKind ⟨"flowchart".toList, .ofLength 28 9⟩]⟩ := by
  decide +kernel

end CommandLine

end UmlSketch
