import UmlSketch.Proofs.Draft.Nodes
import UmlSketch.Proofs.Text.Breaks
import UmlSketch.Proofs.Text.Escapes

/-! # Guarded labels
Spaces, braces and angle brackets have a meaning in the record syntax of the layout engine, unless a
backslash stands before them that is not itself escaped. Escaping a label puts a backslash before each
of them without a look at the text before: so a label is guarded exactly if the text it is made from
has none of these characters behind an odd run of backslashes (`Label.allEscaped_escape_iff`). The
boxes of class and state diagrams are records with such labels. -/

namespace UmlSketch

namespace Label

/-- Whether a character has a meaning in the record syntax. -/
def isRecordSyntax (c : Char) : Bool := c = ' ' || c = '{' || c = '}' || c = '<' || c = '>'

/-- A character with a meaning is written behind a backslash. -/
theorem escapeChar_of_isRecordSyntax {c : Char} (h : isRecordSyntax c = true) :
    escapeChar c = ['\\', c] := by
  simp only [isRecordSyntax, Bool.or_eq_true, decide_eq_true_eq] at h
  rw [escapeChar, if_pos (by tauto)]

/-- A character without a meaning is written as a line break or as it is. -/
theorem escapeChar_cases {c : Char} (h : isRecordSyntax c = false) :
    (escapeChar c = ['\\', 'n'] ∧ c ≠ '\\') ∨ escapeChar c = [c] := by
  simp only [isRecordSyntax, Bool.or_eq_false_iff, decide_eq_false_iff_not] at h
  rw [escapeChar, if_neg (by tauto)]
  split
  · rename_i hbreak
    refine Or.inl ⟨rfl, ?_⟩
    rcases hbreak with rfl | rfl <;> decide
  · exact Or.inr rfl

theorem escape_concat (text : Text) (c : Char) : escape (text ++ [c]) = escape text ++ escapeChar c := by
  simp [escape]

/-- A character with a meaning is no backslash. -/
theorem ne_backslash_of_isRecordSyntax {c : Char} (h : isRecordSyntax c = true) : c ≠ '\\' := by
  rintro rfl
  exact absurd h (by decide)

/-- Escaping a text keeps the run of backslashes at its end even or odd. -/
theorem endsEscaping_escape (text : Text) :
    Text.endsEscaping (escape text) = Text.endsEscaping text := by
  induction text using List.reverseRecOn with
  | nil => rfl
  | append_singleton text c ih =>
    rw [escape_concat, Text.endsEscaping_concat]
    by_cases hc : isRecordSyntax c = true
    · -- What is written ends with the character itself, which is no backslash.
      rw [escapeChar_of_isRecordSyntax hc, List.append_cons, Text.endsEscaping_concat,
        Text.escapesNext_of_ne (ne_backslash_of_isRecordSyntax hc),
        Text.escapesNext_of_ne (ne_backslash_of_isRecordSyntax hc)]
    · rcases escapeChar_cases (Bool.eq_false_iff.mpr hc) with ⟨hwritten, hne⟩ | hwritten
      · rw [hwritten, List.append_cons, Text.endsEscaping_concat, Text.escapesNext_of_ne hne,
          Text.escapesNext_of_ne (by decide)]
      · rw [hwritten, Text.endsEscaping_concat, ih]

/-- **When a label is guarded**: the characters with a meaning are all escaped in what is written for a
text exactly if none of them is escaped in the text itself. -/
theorem allEscaped_escape_iff (text : Text) :
    (escape text).AllEscaped isRecordSyntax ↔ text.NoneEscaped isRecordSyntax := by
  induction text using List.reverseRecOn with
  | nil => simp
  | append_singleton text c ih =>
    have hbackslash : isRecordSyntax '\\' = false := by decide
    have hletter : isRecordSyntax 'n' = false := by decide
    rw [Text.NoneEscaped, Text.StandEscaped.concat_iff, ← Text.NoneEscaped, ← ih, escape_concat,
      Text.AllEscaped, Text.AllEscaped]
    by_cases hc : isRecordSyntax c = true
    · -- The backslash that is written escapes the character unless it is escaped itself.
      rw [escapeChar_of_isRecordSyntax hc, List.append_cons, Text.StandEscaped.concat_iff,
        Text.StandEscaped.concat_iff, Text.endsEscaping_concat, endsEscaping_escape]
      simp [hc, hbackslash]
    · rcases escapeChar_cases (Bool.eq_false_iff.mpr hc) with ⟨hwritten, -⟩ | hwritten
      · rw [hwritten, List.append_cons, Text.StandEscaped.concat_iff, Text.StandEscaped.concat_iff]
        simp [hc, hbackslash, hletter]
      · rw [hwritten, Text.StandEscaped.concat_iff]
        simp [hc]

/-- Turning spaces into line breaks escapes no other character. -/
theorem noneEscaped_of_breaksInto {text wrapped : Text} (h : text.BreaksInto wrapped)
    (htext : text.NoneEscaped isRecordSyntax) : wrapped.NoneEscaped isRecordSyntax := by
  rintro before d after rfl hd
  -- The character stands where the text has the same one, behind the same backslashes.
  have hfront := List.forall₂_take_append text before (d :: after) h
  obtain ⟨c, rest, hcd, -, hback⟩ :=
    List.forall₂_cons_right_iff.mp (List.forall₂_drop_append text before (d :: after) h)
  have hsplit : text = text.take before.length ++ c :: rest := by
    rw [← hback, List.take_append_drop]
  have hc : d = c := by
    rcases hcd with hcd | ⟨-, rfl⟩
    · exact hcd
    · exact absurd hd (by decide)
  have hagree : List.Forall₂ Text.AgreeInBackslash (text.take before.length) before := by
    refine hfront.imp fun a b hab => ?_
    rcases hab with rfl | ⟨rfl, rfl⟩
    · exact Iff.rfl
    · exact iff_of_false (by decide) (by decide)
  rw [← Text.endsEscaping_congr hagree]
  exact htext _ c rest hsplit (hc ▸ hd)

end Label

/-! ## Records -/

/-- Whether a label is **guarded** in a direction: every character with a meaning in the record syntax
is escaped, apart from one pair of braces around a label with compartments where the ranks are
stacked. -/
def Label.IsGuarded (label : Text) (direction : Direction) : Prop :=
  label.AllEscaped isRecordSyntax ∨
    direction.isVertical = true ∧ ∃ inner : Text, label = '\x7b' :: inner ++ ['\x7d'] ∧ '|' ∈ inner ∧
      inner.AllEscaped isRecordSyntax

/-- A text that is set in braces if it has compartments that are stacked is guarded exactly if all its
characters with a meaning are escaped. -/
theorem Label.isGuarded_braces_iff (written : Text) (direction : Direction) :
    IsGuarded (if direction.isVertical && written.contains '|' then '\x7b' :: written ++ ['\x7d']
      else written) direction ↔ written.AllEscaped isRecordSyntax := by
  unfold IsGuarded
  split
  · rename_i hbraces
    simp only [Bool.and_eq_true, List.contains_iff_mem] at hbraces
    constructor
    · rintro (hall | ⟨-, inner, heq, -, hinner⟩)
      · -- Nothing stands before the brace at the start.
        have hbrace := hall [] '\x7b' (written ++ ['\x7d']) rfl (by decide)
        simp at hbrace
      · have hwritten : written = inner := by simpa using heq
        rwa [hwritten]
    · exact fun hall => Or.inr ⟨hbraces.1, written, rfl, hbraces.2, hall⟩
  · rename_i hplain
    constructor
    · rintro (hall | ⟨hvertical, inner, rfl, hbar, -⟩)
      · exact hall
      · -- A label with a bar is set in braces where the ranks are stacked.
        refine absurd ?_ hplain
        simp [hvertical, hbar]
    · exact Or.inl

/-- A label with compartments is guarded exactly if its text, once it is wrapped, has no character with
a meaning behind an odd run of backslashes. -/
theorem Boxes.isGuarded_recordLabel_iff (label : Text) (direction : Direction) :
    Label.IsGuarded (recordLabel label direction) direction ↔
      (Label.wrap label Label.width true).NoneEscaped Label.isRecordSyntax := by
  rw [← Label.allEscaped_escape_iff]
  exact Label.isGuarded_braces_iff _ direction

/-- A label is guarded if its text has no character with a meaning behind an odd run of backslashes. -/
theorem Boxes.isGuarded_recordLabel {label : Text} (direction : Direction)
    (h : label.NoneEscaped Label.isRecordSyntax) :
    Label.IsGuarded (recordLabel label direction) direction :=
  (isGuarded_recordLabel_iff label direction).mpr
    (Label.noneEscaped_of_breaksInto (Label.breaksInto_wrap label Label.width true) h)

/-! ## Class and state diagrams -/

/-- The kinds of diagrams whose boxes are **records** with compartments. -/
def Kind.HasRecords (kind : Kind) : Prop := kind = .classes ∨ kind = .state

/-- The start and the end of a flow are no records. -/
theorem Boxes.shape_of_terminal? {id : NodeId} {label : Text} {circle : Node}
    (h : terminal? id label = some circle) : circle.shape ≠ .record := by
  unfold terminal? at h
  split at h
  · cases h
    simp [mark]
  split at h
  · cases h
    simp [mark]
  · cases h

/-- A record of a class or a state diagram has the label of the bracket it is drawn from. -/
theorem Kind.label_of_draw {kind : Kind} {dialect : GraphDialect} (hkind : kind.HasRecords)
    (hdialect : kind.graphDialect? = some dialect) {direction : Direction} {id : NodeId}
    {bracket : NodeExpr} (hshape : (dialect.draw direction id bracket).shape = .record) :
    (dialect.draw direction id bracket).label = Boxes.recordLabel bracket.label direction := by
  rcases hkind with rfl | rfl
  · cases hdialect
    change (Classes.draw direction id bracket).shape = .record at hshape
    change (Classes.draw direction id bracket).label = _
    unfold Classes.draw at hshape ⊢
    by_cases hnote : bracket.isNote = true
    · simp [hnote, Boxes.boxed] at hshape
    · simp [hnote, Boxes.boxed]
  · cases hdialect
    change (States.draw direction id bracket).shape = .record at hshape
    change (States.draw direction id bracket).label = _
    unfold States.draw at hshape ⊢
    split at hshape
    · -- The start and the end of a flow are circles.
      cases hterminal : Boxes.terminal? id bracket.label with
      | none => simp [Boxes.boxed]
      | some circle =>
        rw [hterminal] at hshape
        exact absurd hshape (Boxes.shape_of_terminal? hterminal)
    · simp [Boxes.boxed] at hshape
    · simp [Boxes.boxed]

/-- **When the records of a class or a state diagram are guarded**: each has the label of a bracket of
the document, and is guarded exactly if the text of that bracket, once it is wrapped, has no character
with a meaning behind an odd run of backslashes; it is guarded if the text has none before. -/
theorem Kind.isGuarded_iff_of_compileLines {kind : Kind} (hkind : kind.HasRecords)
    {direction : Direction} {lines : List SourceLine} {graph : Graph}
    (h : kind.compileLines direction lines = .ok (.graph graph)) :
    ∃ read, lines.mapM kind.parseLine = .ok read ∧
      ∀ node ∈ graph.nodes, node.shape = .record → ∃ bracket ∈ Expr.brackets read,
        node.label = Boxes.recordLabel bracket.label direction ∧
        (Label.IsGuarded node.label direction ↔
          (Label.wrap bracket.label Label.width true).NoneEscaped Label.isRecordSyntax) ∧
        (bracket.label.NoneEscaped Label.isRecordSyntax → Label.IsGuarded node.label direction) := by
  obtain ⟨dialect, read, hdialect, hread, hdrawn⟩ := Kind.isDrawnFrom_of_compileLines h
  refine ⟨read, hread, fun node hnode hshape => ?_⟩
  have hactivity : kind ≠ .activity := by
    rcases hkind with rfl | rfl <;> decide
  rcases (hdrawn node hnode).eq_draw hactivity with ⟨bracket, hbracket, id, rfl⟩ | ⟨-, id, rfl⟩
  · rw [Kind.label_of_draw hkind hdialect hshape]
    exact ⟨bracket, hbracket, rfl, Boxes.isGuarded_recordLabel_iff bracket.label direction,
      Boxes.isGuarded_recordLabel direction⟩
  · -- A junction is a point.
    simp [Classes.junctionNode] at hshape

/-- Two classes with compartments: one with backslashes in pairs is guarded, and one whose angle
bracket is escaped in the document is not. -/
theorem Kind.isGuarded_iff_of_compileLines_pair :
    ∃ graph read,
      Kind.compileLines .classes .topDown [⟨"[a\\\\<b c|d]-[e\\<f|g]".toList, 0⟩] =
        .ok (.graph graph) ∧
      List.mapM (Kind.parseLine .classes) [⟨"[a\\\\<b c|d]-[e\\<f|g]".toList, 0⟩] = .ok read ∧
      graph.nodes.map (fun node => (node.shape, String.ofList node.label)) =
        [(.record, "\x7ba\\\\\\<b\\ c|d\x7d"), (.record, "\x7be\\\\<f|g\x7d")] ∧
      ∀ node ∈ graph.nodes, node.shape = .record → ∃ bracket ∈ Expr.brackets read,
        node.label = Boxes.recordLabel bracket.label .topDown ∧
        (Label.IsGuarded node.label .topDown ↔
          (Label.wrap bracket.label Label.width true).NoneEscaped Label.isRecordSyntax) ∧
        (bracket.label.NoneEscaped Label.isRecordSyntax → Label.IsGuarded node.label .topDown) := by
  have hlabels : (Kind.compileLines .classes .topDown
      [⟨"[a\\\\<b c|d]-[e\\<f|g]".toList, 0⟩]).map (fun artifact => artifact.graph?.map fun graph =>
        graph.nodes.map fun node => (node.shape, String.ofList node.label)) =
      .ok (some [(.record, "\x7ba\\\\\\<b\\ c|d\x7d"), (.record, "\x7be\\\\<f|g\x7d")]) := by
    decide +kernel
  obtain ⟨graph, hgraph, hlabels⟩ := Artifact.exists_of_map_graph? hlabels
  obtain ⟨read, hread, hguarded⟩ := Kind.isGuarded_iff_of_compileLines (Or.inl rfl) hgraph
  exact ⟨graph, read, hgraph, hread, hlabels, hguarded⟩

/-- **A character that is escaped in the document ends up without an escape** in the label of its box:
the backslash that is written escapes the one in the document. -/
theorem Kind.not_isGuarded_of_escaped :
    ∃ graph, Kind.compileLines .classes .leftToRight [⟨"[a\\<b]".toList, 0⟩] = .ok (.graph graph) ∧
      ∃ node ∈ graph.nodes, node.shape = .record ∧ ¬ Label.IsGuarded node.label .leftToRight := by
  have hnodes : (Kind.compileLines .classes .leftToRight [⟨"[a\\<b]".toList, 0⟩]).map
      (fun artifact => artifact.graph?.map fun graph =>
        graph.nodes.map fun node => (node.shape, node.label)) =
      .ok (some [(.record, "a\\\\<b".toList)]) := by
    decide +kernel
  obtain ⟨graph, hgraph, hnodes⟩ := Artifact.exists_of_map_graph? hnodes
  obtain ⟨node, hlist, hnode⟩ := List.map_eq_singleton_iff.mp hnodes
  obtain ⟨hshape, hlabel⟩ := Prod.mk.inj hnode
  refine ⟨graph, hgraph, node, by rw [hlist]; exact List.mem_singleton_self node, hshape, ?_⟩
  rw [hlabel]
  rintro (hall | ⟨hvertical, -⟩)
  · revert hall
    decide +kernel
  · cases hvertical

end UmlSketch
