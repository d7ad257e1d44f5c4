import UmlSketch.Proofs.Bracket
import UmlSketch.Proofs.Dialect.Reading
import UmlSketch.Proofs.Document.Places

/-! # Texts of expressions
Every text that an expression carries into a graph unescaped is a part of the token it was read off:
the texts at an edge and a color that is kept as it is written. A line of a document has no line
break, so none of these texts has one. -/

namespace UmlSketch

/-! ## Parts of texts -/

namespace Text

/-- A trimmed text is a part of the text. -/
theorem trim_subset (text : Text) : trim text ⊆ text := (standsAt_trim 0 text).subset

/-- What is left without a start is a part of the text. -/
theorem subset_of_dropStart? {pattern text rest : Text} (h : dropStart? pattern text = some rest) :
    rest ⊆ text := by
  rw [dropStart?_eq_some h]
  exact List.subset_append_right pattern rest

/-- What is left without an end is a part of the text. -/
theorem subset_of_dropEnd? {pattern text rest : Text} (h : dropEnd? pattern text = some rest) :
    rest ⊆ text := by
  rw [dropEnd?_eq_some h]
  exact List.subset_append_left rest pattern

/-- What is left without an end that is not escaped is a part of the text. -/
theorem subset_of_dropUnescapedSuffix? {suffix text rest : Text}
    (h : dropUnescapedSuffix? suffix text = some rest) : rest ⊆ text :=
  subset_of_dropEnd? (Option.filter_eq_some_iff.mp h).1

/-- The parts of a text that is split are parts of the text. -/
theorem subset_of_mem_splitUnescapedFrom {separator part : Text} {escaped : Bool}
    {passing dropping : Nat} {text : Text}
    (h : part ∈ splitUnescapedFrom separator escaped passing dropping text) : part ⊆ text := by
  induction text generalizing escaped passing dropping part with
  | nil =>
    have hpart : part = [] := by
      unfold splitUnescapedFrom at h
      split at h <;> simpa using h
    rw [hpart]
    exact List.nil_subset []
  | cons c rest ih =>
    -- The first character goes to the first of the later parts.
    have hlater {parts : List Text} (hparts : ∀ other ∈ parts, other ⊆ rest) :
        ∀ other ∈ consFirst c parts, other ⊆ c :: rest := by
      cases parts with
      | nil => simp [consFirst]
      | cons first others =>
        rw [List.forall_mem_cons] at hparts
        rw [consFirst_cons, List.forall_mem_cons]
        exact ⟨List.cons_subset_cons c hparts.1, fun other hother =>
          List.subset_cons_of_subset c (hparts.2 other hother)⟩
    -- A part either starts with the first character or lies in the rest.
    simp only [splitUnescapedFrom] at h
    split at h
    · rcases List.mem_cons.mp h with rfl | h
      · exact List.nil_subset _
      · split at h
        · exact hlater (fun other => ih) part h
        · exact List.subset_cons_of_subset c (ih h)
    · split at h
      · exact hlater (fun other => ih) part h
      · exact List.subset_cons_of_subset c (ih h)

end Text

/-- A label that is kept is a part of the text it is taken from. -/
theorem subset_of_mem_nonEmptyLabel? {text label : Text} (h : label ∈ nonEmptyLabel? text) :
    label ⊆ text := by
  unfold nonEmptyLabel? at h
  split at h
  · simp at h
  · cases h
    exact Text.trim_subset text

/-- What stands between the ends of a token is a part of it. -/
theorem Token.subset_of_enclosed? {token : Token} {opener closer : Char} {content : Text}
    (h : token.enclosed? opener closer = some content) : content ⊆ token.text := by
  unfold enclosed? at h
  split at h
  · simp at h
  · rename_i c rest htext
    split at h
    · cases h
      rw [htext]
      exact List.subset_cons_of_subset c (List.dropLast_subset rest)
    · simp at h

/-! ## Colors -/

/-- A hexadecimal digit is no line break. -/
theorem Color.hexDigit_ne {value : Nat} (h : value < 16) : hexDigit value ≠ '\n' := by
  have hall : ∀ digit : Fin 16, hexDigit digit ≠ '\n' := by decide
  exact hall ⟨value, h⟩

/-- A color that is written out has no line break. -/
theorem Color.not_mem_toHex (color : Color) : '\n' ∉ color.toHex := by
  have hbyte (channel : UInt8) : '\n' ∉ hexByte channel := by
    have hchannel := channel.toNat_lt
    simp only [hexByte, List.mem_cons, List.not_mem_nil, or_false, not_or]
    exact ⟨(hexDigit_ne (by omega)).symm, (hexDigit_ne (by omega)).symm⟩
  simp [toHex, hbyte]

/-- The color of a fill has no line break if its specification has none. -/
theorem Fill.not_mem_ofSpec {spec : Text} (h : '\n' ∉ spec) : '\n' ∉ (Fill.ofSpec spec).color := by
  unfold ofSpec
  split
  · exact Color.not_mem_toHex _
  · exact fun hmem => h (Text.trim_subset spec hmem)

/-- The color of a bracket has no line break if its content has none. -/
theorem BracketContent.not_mem_fill {content : Text} {allowNote : Bool} (h : '\n' ∉ content) :
    ∀ fill ∈ (ofText content allowNote).fill, '\n' ∉ fill.color := by
  rw [fill_ofText]
  intro fill hmem
  obtain ⟨⟨before, spec⟩, hsplit, rfl⟩ := Option.map_eq_some_iff.mp hmem
  exact Fill.not_mem_ofSpec fun hspec => h (subset_of_splitColor? hsplit hspec)

/-! ## Expressions -/

/-- Whether the color of a bracket has no line break. -/
def NodeExpr.IsOneLine (bracket : NodeExpr) : Prop := ∀ fill ∈ bracket.fill, '\n' ∉ fill.color

/-- Whether the texts of a connector have no line break. -/
structure EdgeExpr.IsOneLine (link : EdgeExpr) : Prop where
  /-- The text in the middle has no line break. -/
  label : ∀ text ∈ link.label, '\n' ∉ text
  /-- The text at the left end has no line break. -/
  tailLabel : ∀ text ∈ link.tailLabel, '\n' ∉ text
  /-- The text at the right end has no line break. -/
  headLabel : ∀ text ∈ link.headLabel, '\n' ∉ text

/-- Whether the texts that an expression carries into a graph unescaped have no line break. A message
has no place in a graph. -/
def Expr.IsOneLine : Expr → Prop
  | .node bracket => bracket.IsOneLine
  | .edge link => link.IsOneLine
  | .signal _ => True

/-- A label that is kept has no line break if the text it is taken from has none. -/
theorem not_mem_nonEmptyLabel? {text : Text} (h : '\n' ∉ text) :
    ∀ label ∈ nonEmptyLabel? text, '\n' ∉ label :=
  fun _ hlabel hmem => h (subset_of_mem_nonEmptyLabel? hlabel hmem)

/-- A connector without texts has no line break. -/
theorem EdgeExpr.isOneLine_of_none {link : EdgeExpr} (hlabel : link.label = none)
    (htail : link.tailLabel = none) (hhead : link.headLabel = none) : link.IsOneLine where
  label := by simp [hlabel]
  tailLabel := by simp [htail]
  headLabel := by simp [hhead]

/-- A connector that has only a text in the middle has no line break if that text has none. -/
theorem EdgeExpr.isOneLine_of_label {link : EdgeExpr} {text : Text} (htext : '\n' ∉ text)
    (hlabel : link.label = nonEmptyLabel? text) (htail : link.tailLabel = none)
    (hhead : link.headLabel = none) : link.IsOneLine where
  label := by
    rw [hlabel]
    exact not_mem_nonEmptyLabel? htext
  tailLabel := by simp [htail]
  headLabel := by simp [hhead]

namespace Reading

/-- A record or note carries the color of its content. -/
theorem isOneLine_recordOrNote {content : Text} (h : '\n' ∉ content) (span : Span) :
    (recordOrNote content span).IsOneLine := BracketContent.not_mem_fill h

/-- A bracket that has only a label carries nothing. -/
theorem isOneLine_bareNode (role : Role) (content : Text) (span : Span) :
    (bareNode role content span).IsOneLine := fun _ hfill => by cases hfill

/-- An arrow carries the text before it. -/
theorem isOneLine_of_arrow? {token : Token} {line : LineStyle} {expr : Expr}
    (htoken : '\n' ∉ token.text) (h : arrow? token line = some expr) : expr.IsOneLine := by
  obtain ⟨label, hlabel, rfl⟩ := Option.map_eq_some_iff.mp h
  exact EdgeExpr.isOneLine_of_label
    (fun hmem => htoken (Text.subset_of_dropUnescapedSuffix? hlabel hmem)) rfl rfl rfl

/-- A dash carries nothing. -/
theorem isOneLine_of_dash? {token : Token} {line : LineStyle} {expr : Expr}
    (h : dash? token line = some expr) : expr.IsOneLine := by
  unfold dash? at h
  split at h
  · cases h
    exact EdgeExpr.isOneLine_of_none rfl rfl rfl
  · cases h

/-- An enclosed content is read into an expression without line breaks if the reading of every content
without line breaks is one. -/
theorem isOneLine_of_enclosed? {token : Token} {opener closer : Char} {read : Text → Expr}
    {expr : Expr} (htoken : '\n' ∉ token.text)
    (h : (token.enclosed? opener closer).map read = some expr)
    (hread : ∀ content, '\n' ∉ content → (read content).IsOneLine) : expr.IsOneLine := by
  obtain ⟨content, hcontent, rfl⟩ := Option.map_eq_some_iff.mp h
  exact hread content fun hmem => htoken (Token.subset_of_enclosed? hcontent hmem)

end Reading

/-! ## Associations -/

namespace Classes

/-- The first reading of an end that succeeds leaves a text with a property that each of them, and the
default, leaves it with. -/
theorem snd_of_findSome? {P : Text → Prop} {readings : List (ArrowKind × Option Text)}
    {default : ArrowKind × Text} (hdefault : P default.2)
    (h : ∀ reading ∈ readings, ∀ rest, reading.2 = some rest → P rest) :
    P ((readings.findSome? fun (arrow, rest?) => rest?.map (Prod.mk arrow)).getD default).2 := by
  cases hfound : readings.findSome? fun (arrow, rest?) => rest?.map (Prod.mk arrow) with
  | none => exact hdefault
  | some found =>
    obtain ⟨reading, hreading, heq⟩ := List.exists_of_findSome?_eq_some hfound
    obtain ⟨rest, hrest, rfl⟩ := Option.map_eq_some_iff.mp heq
    exact h reading hreading rest hrest

/-- The text at the left end of an association is a part of its side. -/
theorem leftEnd_subset (side : Text) : (leftEnd side).2 ⊆ side := by
  refine snd_of_findSome? (P := (· ⊆ side)) (List.Subset.refl side) ?_
  simp only [List.forall_mem_cons]
  exact ⟨fun _ => Text.subset_of_dropStart?, fun _ => Text.subset_of_dropStart?,
    fun _ => Text.subset_of_dropStart?, fun _ => Text.subset_of_dropStart?,
    fun _ => Text.subset_of_dropEnd?, fun _ => Text.subset_of_dropStart?, by simp⟩

/-- The text at the right end of an association is a part of its side. -/
theorem rightEnd_subset (side : Text) : (rightEnd side).2 ⊆ side := by
  refine snd_of_findSome? (P := (· ⊆ side)) (leftEnd_subset side) ?_
  simp only [List.forall_mem_cons]
  exact ⟨fun _ => Text.subset_of_dropEnd?, fun _ => Text.subset_of_dropEnd?,
    fun _ => Text.subset_of_dropEnd?, fun _ => Text.subset_of_dropEnd?,
    fun _ => Text.subset_of_dropEnd?, fun _ => Text.subset_of_dropStart?, by simp⟩

/-- An association carries the texts at its ends. -/
theorem isOneLine_of_association {token : Token} {expr : Expr} (htoken : '\n' ∉ token.text)
    (h : association token = .ok expr) : expr.IsOneLine := by
  unfold association at h
  simp only at h
  split at h
  · rename_i left right hsplit
    cases h
    have hleft : left ⊆ token.text :=
      Text.subset_of_mem_splitUnescapedFrom (by rw [← Text.splitUnescaped, hsplit]; simp)
    have hright : right ⊆ token.text :=
      Text.subset_of_mem_splitUnescapedFrom (by rw [← Text.splitUnescaped, hsplit]; simp)
    exact {
      label := fun _ hmem => by cases hmem
      tailLabel := not_mem_nonEmptyLabel? fun hmem => htoken (hleft (leftEnd_subset left hmem))
      headLabel := not_mem_nonEmptyLabel? fun hmem =>
        htoken (hright (rightEnd_subset right hmem)) }
  · cases h

end Classes

/-! ## Tokens and lines -/

/-- A connector of a use case diagram carries a fixed text or nothing. -/
theorem UseCases.isOneLine_of_edge? {token : Token} {link : EdgeExpr}
    (h : edge? token = some link) : link.IsOneLine := by
  unfold edge? at h
  split at h
  all_goals cases h
  · exact ⟨fun _ hmem => by cases hmem; decide, by simp, by simp⟩
  · exact ⟨fun _ hmem => by cases hmem; decide, by simp, by simp⟩
  · exact EdgeExpr.isOneLine_of_none rfl rfl rfl
  · exact EdgeExpr.isOneLine_of_none rfl rfl rfl

namespace Kind

/-- **An expression that is read off a token** without line breaks has none in its texts. -/
theorem isOneLine_of_readToken {kind : Kind} {token : Token} {expr : Expr}
    (htoken : '\n' ∉ token.text) (h : kind.readToken token = .ok expr) : expr.IsOneLine := by
  have hrecord {opener closer : Char} {other : Expr} (hother : (token.enclosed? opener closer).map
      (fun content => Reading.recordOrNote content token.span) = some other) : other.IsOneLine :=
    Reading.isOneLine_of_enclosed? htoken hother fun _ hcontent =>
      Reading.isOneLine_recordOrNote hcontent token.span
  have hbare {opener closer : Char} {role : Role} {other : Expr}
      (hother : (token.enclosed? opener closer).map
        (fun content => Reading.bareNode role content token.span) = some other) : other.IsOneLine :=
    Reading.isOneLine_of_enclosed? htoken hother fun content _ =>
      Reading.isOneLine_bareNode role content token.span
  cases kind with
  | classes =>
    simp only [readToken, Classes.readToken] at h
    split at h
    · rename_i content hcontent
      cases h
      exact Reading.isOneLine_recordOrNote
        (fun hmem => htoken (Token.subset_of_enclosed? hcontent hmem)) token.span
    split at h
    · cases h
      exact EdgeExpr.isOneLine_of_none rfl rfl rfl
    split at h
    · exact Classes.isOneLine_of_association htoken h
    · cases h
  | useCase =>
    refine Reading.of_firstOf (P := Expr.IsOneLine) h ?_
    simp only [List.forall_mem_cons]
    refine ⟨fun _ => hrecord, fun _ => hbare, fun other hother => ?_, by simp⟩
    obtain ⟨link, hlink, rfl⟩ := Option.map_eq_some_iff.mp hother
    exact UseCases.isOneLine_of_edge? hlink
  | activity =>
    refine Reading.of_firstOf (P := Expr.IsOneLine) h ?_
    simp only [List.forall_mem_cons]
    exact ⟨fun _ => hrecord, fun _ => hbare, fun _ => hbare,
      fun _ => Reading.isOneLine_of_arrow? htoken, fun _ => Reading.isOneLine_of_dash?, by simp⟩
  | state =>
    refine Reading.of_firstOf (P := Expr.IsOneLine) h ?_
    simp only [List.forall_mem_cons]
    exact ⟨fun _ => hrecord, fun _ => Reading.isOneLine_of_arrow? htoken,
      fun _ => Reading.isOneLine_of_dash?, by simp⟩
  | package =>
    refine Reading.of_firstOf (P := Expr.IsOneLine) h ?_
    simp only [List.forall_mem_cons]
    exact ⟨fun _ => hrecord, fun _ => Reading.isOneLine_of_dash?,
      fun _ => Reading.isOneLine_of_arrow? htoken, by simp⟩
  | deployment =>
    refine Reading.of_firstOf (P := Expr.IsOneLine) h ?_
    simp only [List.forall_mem_cons]
    refine ⟨fun _ => hrecord, fun other hother => ?_, by simp⟩
    obtain ⟨label, hlabel, rfl⟩ := Option.map_eq_some_iff.mp hother
    exact EdgeExpr.isOneLine_of_label
      (fun hmem => htoken (Text.subset_of_dropUnescapedSuffix? hlabel hmem)) rfl rfl rfl
  | sequence =>
    simp only [readToken, Sequences.readToken] at h
    split at h
    · rename_i content hcontent
      cases h
      exact Reading.isOneLine_recordOrNote
        (fun hmem => htoken (Token.subset_of_enclosed? hcontent hmem)) token.span
    split at h
    · unfold Sequences.signal at h
      simp only at h
      split at h
      · cases h
        trivial
      · cases h
    split at h
    · cases h
      exact EdgeExpr.isOneLine_of_none rfl rfl rfl
    · cases h

/-- The expressions of a line without line breaks have none in their texts. -/
theorem isOneLine_of_parseLine {kind : Kind} {line : SourceLine} {exprs : List Expr}
    (hline : '\n' ∉ line.text) (h : kind.parseLine line = .ok exprs) :
    ∀ expr ∈ exprs, expr.IsOneLine := by
  intro expr hexpr
  obtain ⟨token, htoken, hread⟩ := exists_of_mem_mapM_eq_ok h hexpr
  exact isOneLine_of_readToken
    (fun hmem => hline ((Token.standsIn_of_mem_tokenize htoken).standsAt.subset hmem)) hread

end Kind

end UmlSketch
