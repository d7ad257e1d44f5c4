import UmlSketch.Proofs.Dialect.Reading
import UmlSketch.Proofs.Document.Places

/-! # Diagrams without places
Every token knows where it stands, and what is read off it is told the place. The places serve the
labels of diagnostics and nothing else: without them the readers give the same expressions and errors
(`Kind.mapM_parseText`), and the same diagram is drawn (`Kind.artifactOf_unplaced`). -/

namespace UmlSketch

/-! ## Taking places away -/

/-- A **token without its place**. -/
def Token.unplaced (token : Token) : Token := { token with span := .empty }

/-- A bracket without its place. -/
def NodeExpr.unplaced (bracket : NodeExpr) : NodeExpr := { bracket with span := .empty }

/-- A connector without its place. -/
def EdgeExpr.unplaced (link : EdgeExpr) : EdgeExpr := { link with span := .empty }

/-- An **expression without its place**. -/
def Expr.unplaced : Expr → Expr
  | .node bracket => .node bracket.unplaced
  | .edge link => .edge link.unplaced
  | .signal message => .signal { message with span := .empty }

/-- An error without the place of its token. -/
def TokenError.unplaced : TokenError → TokenError
  | .unrecognized kind token => .unrecognized kind token.unplaced
  | .malformedAssociation token => .malformedAssociation token.unplaced
  | .malformedMessage token => .malformedMessage token.unplaced

/-- A **reading without places**. -/
def Reading.unplaced (result : Except TokenError Expr) : Except TokenError Expr :=
  (result.map Expr.unplaced).mapError TokenError.unplaced

/-- Without their places the tokens of a line are told by their texts. -/
theorem map_unplaced_tokenize (openers line : Text) (offset : Nat) :
    (tokenize openers line offset).map Token.unplaced =
      (Token.textsOf openers line).map fun text => ⟨text, .empty⟩ := by
  rw [← Token.map_text_tokenize openers line offset, List.map_map]
  rfl

/-! ## Readers -/

namespace Reading

theorem unplaced_recordOrNote (content : Option Text) (span : Span) :
    (content.map fun content => recordOrNote content .empty) =
      (content.map fun content => recordOrNote content span).map Expr.unplaced := by
  cases content <;> rfl

theorem unplaced_bareNode (role : Role) (content : Option Text) (span : Span) :
    (content.map fun content => bareNode role content .empty) =
      (content.map fun content => bareNode role content span).map Expr.unplaced := by
  cases content <;> rfl

theorem arrow?_unplaced (token : Token) (line : LineStyle) :
    arrow? token.unplaced line = (arrow? token line).map Expr.unplaced := by
  have htext : token.unplaced.text = token.text := rfl
  rw [arrow?, arrow?, htext]
  cases Text.dropUnescapedSuffix? ['-', '>'] token.text <;> rfl

theorem dash?_unplaced (token : Token) (line : LineStyle) :
    dash? token.unplaced line = (dash? token line).map Expr.unplaced := by
  have htext : token.unplaced.text = token.text := rfl
  rw [dash?, dash?, htext]
  split <;> rfl

/-- The first reading of a token is the same without places. -/
theorem firstOf_unplaced (kind : Kind) (token : Token) (readings : List (Option Expr)) :
    firstOf kind token.unplaced (readings.map (Option.map Expr.unplaced)) =
      unplaced (firstOf kind token readings) := by
  have hfirst : (readings.map (Option.map Expr.unplaced)).findSome? id =
      (readings.findSome? id).map Expr.unplaced := by
    induction readings with
    | nil => rfl
    | cons reading rest ih => cases reading <;> simp [ih]
  unfold firstOf
  rw [hfirst]
  cases readings.findSome? id <;> rfl

end Reading

/-- An association is read without regard to its place. -/
theorem Classes.association_unplaced (token : Token) :
    association token.unplaced = Reading.unplaced (association token) := by
  have htext : token.unplaced.text = token.text := rfl
  simp only [association, htext]
  generalize Text.splitUnescaped _ token.text = sides
  match sides with
  | [left, right] => rfl
  | [] | [_] | _ :: _ :: _ :: _ => rfl

/-- A message is read without regard to its place. -/
theorem Sequences.signal_unplaced (token : Token) :
    signal token.unplaced = Reading.unplaced (signal token) := by
  have htext : token.unplaced.text = token.text := rfl
  simp only [signal, htext]
  generalize splitArrow? _ = parts
  cases parts <;> rfl

/-- The connector of a use case diagram is read without regard to its place. -/
theorem UseCases.edge?_unplaced (token : Token) :
    (edge? token.unplaced).map Expr.edge =
      ((edge? token).map Expr.edge).map Expr.unplaced := by
  have htext : token.unplaced.text = token.text := rfl
  simp only [edge?, htext]
  split <;> rfl

namespace Kind

/-- A token is read without regard to its place. -/
theorem readToken_unplaced (kind : Kind) (token : Token) :
    kind.readToken token.unplaced = Reading.unplaced (kind.readToken token) := by
  have htext : token.unplaced.text = token.text := rfl
  have henclosed (opener closer : Char) :
      token.unplaced.enclosed? opener closer = token.enclosed? opener closer := rfl
  -- The tests of a reader look at the text alone, so both sides take the same branch.
  cases kind with
  | classes =>
    simp only [readToken, Classes.readToken, henclosed, htext, Classes.association_unplaced]
    split
    · rfl
    · split
      · rfl
      · split <;> rfl
  | sequence =>
    simp only [readToken, Sequences.readToken, henclosed, htext, Sequences.signal_unplaced]
    split
    · rfl
    · split
      · rfl
      · split <;> rfl
  | deployment =>
    have hlabel : ((Text.dropUnescapedSuffix? ['-'] token.text).map fun label =>
          (.edge { label := nonEmptyLabel? label, span := .empty } : Expr)) =
        ((Text.dropUnescapedSuffix? ['-'] token.text).map fun label =>
          (.edge { label := nonEmptyLabel? label, span := token.span } : Expr)).map
            Expr.unplaced := by
      cases Text.dropUnescapedSuffix? ['-'] token.text <;> rfl
    simp only [readToken, Deployments.readToken, ← Reading.firstOf_unplaced, List.map_cons,
      List.map_nil, ← Reading.unplaced_recordOrNote, ← hlabel]
    rfl
  | useCase | activity | state | package =>
    simp only [readToken, UseCases.readToken, Activities.readToken, States.readToken,
      Packages.readToken, ← Reading.firstOf_unplaced, List.map_cons, List.map_nil,
      ← Reading.unplaced_recordOrNote, ← Reading.unplaced_bareNode, ← Reading.arrow?_unplaced,
      ← Reading.dash?_unplaced, ← UseCases.edge?_unplaced]
    rfl

/-- The expressions of the **text of a line**, without places. -/
def parseText (kind : Kind) (text : Text) : Except TokenError (List Expr) :=
  ((Token.textsOf kind.openers text).map fun text => ⟨text, .empty⟩).mapM kind.readToken

/-- Without places the expressions of a line are those of its text. -/
theorem parseText_eq (kind : Kind) (line : SourceLine) :
    kind.parseText line.text =
      ((kind.parseLine line).map (List.map Expr.unplaced)).mapError TokenError.unplaced := by
  rw [parseText, ← map_unplaced_tokenize kind.openers line.text line.offset]
  exact mapM_map_eq kind.readToken_unplaced _

/-- Without places the expressions of a list of lines are those of their texts. -/
theorem mapM_parseText (kind : Kind) (lines : List SourceLine) :
    (lines.map SourceLine.text).mapM kind.parseText =
      ((lines.mapM kind.parseLine).map (List.map (List.map Expr.unplaced))).mapError
        TokenError.unplaced :=
  mapM_map_eq kind.parseText_eq lines

end Kind

/-! ## Drawing -/

namespace Expr

@[simp] theorem nodes_map_unplaced (exprs : List Expr) :
    nodes (exprs.map unplaced) = (nodes exprs).map NodeExpr.unplaced := by
  induction exprs with
  | nil => rfl
  | cons expr rest ih =>
    cases expr with
    | node bracket => exact congrArg (bracket.unplaced :: ·) ih
    | edge | signal => exact ih

/-- A connector between two brackets without their places. -/
def unplacedLink (link : NodeExpr × EdgeExpr × NodeExpr) : NodeExpr × EdgeExpr × NodeExpr :=
  (link.1.unplaced, link.2.1.unplaced, link.2.2.unplaced)

theorem sandwiched_map_unplaced (exprs : List Expr) :
    sandwiched (exprs.map unplaced) = (sandwiched exprs).map unplacedLink := by
  induction exprs with
  | nil => rfl
  | cons first rest ih =>
    -- Only this shape of the next three expressions is a connector between two brackets.
    match first, rest with
    | .node source, .edge link :: .node target :: others =>
      exact congrArg (unplacedLink (source, link, target) :: ·) ih
    | .node _, .edge _ :: .edge _ :: _ | .node _, .edge _ :: .signal _ :: _ | .node _, [.edge _]
    | .node _, .node _ :: _ | .node _, .signal _ :: _ | .node _, []
    | .edge _, _ | .signal _, _ => exact ih

end Expr

namespace Draft

variable {draw : Direction → NodeId → NodeExpr → Node}

/-- Declaring a bracket does not depend on its place if drawing it does not. -/
theorem declare_unplaced
    (hdraw : ∀ direction id bracket,
      draw direction id (NodeExpr.unplaced bracket) = draw direction id bracket)
    (draft : Draft) (bracket : NodeExpr) :
    draft.declare draw bracket.unplaced = draft.declare draw bracket := by
  have hlabel : bracket.unplaced.label = bracket.label := rfl
  simp only [declare, hlabel, hdraw]

/-- Declaring the brackets of a line does not depend on their places. -/
theorem declareAll_unplaced
    (hdraw : ∀ direction id bracket,
      draw direction id (NodeExpr.unplaced bracket) = draw direction id bracket)
    (draft : Draft) (exprs : List Expr) :
    draft.declareAll draw (exprs.map Expr.unplaced) = draft.declareAll draw exprs := by
  simp only [declareAll, Expr.nodes_map_unplaced, List.foldl_map, declare_unplaced hdraw]

/-- The edges of a line do not depend on places. -/
theorem connectAll_unplaced (finish : NodeExpr → NodeExpr → Edge → Edge)
    (place : Draft → NodeExpr → Edge → Draft)
    (hfinish : ∀ source target edge,
      finish (NodeExpr.unplaced source) (NodeExpr.unplaced target) edge = finish source target edge)
    (hplace : ∀ draft target edge,
      place draft (NodeExpr.unplaced target) edge = place draft target edge)
    (draft : Draft) (exprs : List Expr) :
    draft.connectAll finish place (exprs.map Expr.unplaced) =
      draft.connectAll finish place exprs := by
  have hedge (draft : Draft) (source : NodeExpr) (link : EdgeExpr) (target : NodeExpr) :
      draft.edgeBetween? source.unplaced link.unplaced target.unplaced =
        draft.edgeBetween? source link target := rfl
  simp only [connectAll, Expr.sandwiched_map_unplaced, List.foldl_map, Expr.unplacedLink, hedge,
    hfinish, hplace]

theorem connectAt_unplaced (labelDistance : Decimal) (draft : Draft) (exprs : List Expr) :
    draft.connectAt labelDistance (exprs.map Expr.unplaced) = draft.connectAt labelDistance exprs :=
  connectAll_unplaced _ _ (fun _ _ _ => rfl) (fun _ _ _ => rfl) draft exprs

end Draft

namespace Kind

variable {kind : Kind} {dialect : GraphDialect}

/-- A bracket is drawn without regard to its place. -/
theorem draw_unplaced (h : kind.graphDialect? = some dialect) (direction : Direction) (id : NodeId)
    (bracket : NodeExpr) :
    dialect.draw direction id bracket.unplaced = dialect.draw direction id bracket := by
  cases kind <;> cases h <;> rfl

end Kind

/-- The edges of a line of a class diagram do not depend on places. -/
theorem Classes.connect_unplaced (draft : Draft) (exprs : List Expr) :
    connect draft (exprs.map Expr.unplaced) = connect draft exprs := by
  have heach := Draft.connectAll_unplaced finishEdge (fun draft _ edge => draft.addEdge edge)
    (fun _ _ _ => rfl) (fun _ _ _ => rfl) draft exprs
  -- A line of exactly this shape may be a qualified association; any other goes link by link.
  match exprs with
  | [.node left, .edge link, .node right, .node qualifier] =>
    exact ite_congr rfl (fun _ => rfl) fun _ => heach
  | [] | .edge _ :: _ | .signal _ :: _
  | [.node _] | .node _ :: .node _ :: _ | .node _ :: .signal _ :: _
  | [.node _, .edge _] | .node _ :: .edge _ :: .edge _ :: _ | .node _ :: .edge _ :: .signal _ :: _
  | [.node _, .edge _, .node _] | .node _ :: .edge _ :: .node _ :: .edge _ :: _
  | .node _ :: .edge _ :: .node _ :: .signal _ :: _
  | .node _ :: .edge _ :: .node _ :: .node _ :: _ :: _ => exact heach

/-- The edges of a line do not depend on places. -/
theorem Kind.connect_unplaced {kind : Kind} {dialect : GraphDialect}
    (h : kind.graphDialect? = some dialect) (draft : Draft) (exprs : List Expr) :
    dialect.connect draft (exprs.map Expr.unplaced) = dialect.connect draft exprs := by
  cases kind <;> cases h
  case classes => exact Classes.connect_unplaced draft exprs
  case activity =>
    exact Draft.connectAll_unplaced (fun _ _ edge => { edge with labelDistance := some (.ofNat 1) })
      Activities.place (fun _ _ _ => rfl) (fun _ _ _ => rfl) draft exprs
  all_goals exact Draft.connectAt_unplaced (.ofNat 2) draft exprs

/-- A graph does not depend on the places of its expressions. -/
theorem Kind.graphOf_unplaced {kind : Kind} {dialect : GraphDialect}
    (h : kind.graphDialect? = some dialect) (direction : Direction) (lines : List (List Expr)) :
    dialect.graphOf direction (lines.map (List.map Expr.unplaced)) =
      dialect.graphOf direction lines := by
  have hline (draft : Draft) (exprs : List Expr) :
      dialect.addLine draft (exprs.map Expr.unplaced) = dialect.addLine draft exprs := by
    rw [GraphDialect.addLine, Draft.declareAll_unplaced (draw_unplaced h), connect_unplaced h]
    rfl
  simp only [GraphDialect.graphOf, List.foldl_map, hline]

namespace Sequences

/-- The events of a line do not depend on places. -/
theorem eventsOf_unplaced (script : Script) (exprs : List Expr) :
    eventsOf script (exprs.map Expr.unplaced) = eventsOf script exprs := by
  have hevent (first second third : Expr) :
      eventOf? script first.unplaced second.unplaced third.unplaced =
        eventOf? script first second third := by
    cases first <;> cases second <;> cases third <;> rfl
  induction exprs with
  | nil => rfl
  | cons first rest ih =>
    match rest with
    | [] | [_] => rfl
    | second :: third :: others =>
      change (eventOf? script first.unplaced second.unplaced third.unplaced).toList ++
          eventsOf script ((second :: third :: others).map Expr.unplaced) =
        (eventOf? script first second third).toList ++ eventsOf script (second :: third :: others)
      rw [hevent, ih]

/-- A sequence diagram does not depend on the places of its expressions. -/
theorem modelOf_unplaced (lines : List (List Expr)) :
    modelOf (lines.map (List.map Expr.unplaced)) = modelOf lines := by
  have hline (script : Script) (exprs : List Expr) :
      script.addLine (exprs.map Expr.unplaced) = script.addLine exprs := by
    have hdeclare (script : Script) (bracket : NodeExpr) :
        script.declare bracket.unplaced = script.declare bracket := rfl
    have hrole (bracket : NodeExpr) : bracket.unplaced.role = bracket.role := rfl
    simp only [Script.addLine, Expr.nodes_map_unplaced, List.filter_map, Function.comp_def, hrole,
      List.foldl_map, hdeclare, eventsOf_unplaced]
  simp only [modelOf, List.foldl_map, hline]

end Sequences

/-- **Diagrams do not depend on places.** -/
theorem Kind.artifactOf_unplaced (kind : Kind) (direction : Direction) (lines : List (List Expr)) :
    kind.artifactOf direction (lines.map (List.map Expr.unplaced)) =
      kind.artifactOf direction lines := by
  unfold Kind.artifactOf
  split
  · rename_i dialect hdialect
    rw [graphOf_unplaced hdialect]
  · rw [Sequences.modelOf_unplaced]

/-- The diagram of a list of lines is that of their texts, and so is the error but for its place. -/
theorem Kind.compileTexts_eq (kind : Kind) (direction : Direction) (lines : List SourceLine) :
    ((lines.map SourceLine.text).mapM kind.parseText).map (kind.artifactOf direction) =
      (kind.compileLines direction lines).mapError TokenError.unplaced := by
  rw [mapM_parseText, compileLines]
  cases lines.mapM kind.parseLine with
  | error failure => rfl
  | ok read => exact congrArg Except.ok (kind.artifactOf_unplaced direction read)

end UmlSketch
