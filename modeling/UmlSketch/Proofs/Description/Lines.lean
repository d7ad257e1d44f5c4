import UmlSketch.Proofs.Description.Statements

/-! # The lines of a description
The description of a graph whose statements keep to one line each has exactly the lines that are
meant: the opening line, the defaults, the settings, a line for every statement, and the closing
line. -/

namespace UmlSketch

/-! ## The line of a statement -/

namespace Statement

/-- The attributes of a statement. -/
def attributes : Statement → Attributes
  | .node declared => declared.attributes
  | .edge declared => declared.attributes

/-- What stands in a statement's line before the attributes. -/
def before : Statement → Text
  | .node declared => "    ".toList ++ declared.id ++ [' ']
  | .edge declared =>
    "    ".toList ++ (if declared.sameRank then "\x7b rank=same; ".toList else []) ++
      declared.source.render ++ " -> ".toList ++ declared.target.render ++ [' ']

/-- What stands in a statement's line behind the attributes. -/
def after : Statement → Text
  | .node _ => []
  | .edge declared => if declared.sameRank then "; \x7d".toList else []

/-- The **line of a statement**. -/
def line (statement : Statement) : Text := "    ".toList ++ statement.render

/-- The attributes of a statement stand in brackets in its line. -/
theorem line_eq (statement : Statement) :
    statement.line =
      statement.before ++ (statement.attributes.renderBracketed ++ statement.after) := by
  cases statement with
  | node declared =>
    show "    ".toList ++ (declared.id ++ ' ' :: declared.attributes.renderBracketed) = _
    unfold before after
    generalize "    ".toList = indent
    simp [attributes]
  | edge declared =>
    unfold line render before after
    -- Only the places of the fixed texts matter, not their characters.
    generalize "    ".toList = indent, "\x7b rank=same; ".toList = opening,
      " -> ".toList = arrow, "; \x7d".toList = closing
    cases hrank : declared.sameRank <;> simp [attributes, hrank]

/-- Whether a statement keeps to one line. -/
def IsOneLine : Statement → Prop
  | .node declared => declared.IsOneLine
  | .edge declared => declared.IsOneLine

variable {statement : Statement}

/-- The attributes of a statement that keeps to one line can be read back. -/
theorem IsOneLine.isReadable (h : statement.IsOneLine) :
    ∀ entry ∈ statement.attributes, Attributes.IsReadable entry := by
  cases statement with
  | node declared => exact Node.IsOneLine.isReadable h
  | edge declared => exact Edge.IsOneLine.isReadable h

/-- What stands before the attributes has only plain characters and those of a few fixed texts. -/
theorem IsOneLine.not_mem_before (h : statement.IsOneLine) {c : Char}
    (hplain : Text.isPlainChar c = false) (hfixed : c ∉ " \x7brank=same;->".toList) :
    c ∉ statement.before := by
  have hpart {part : Text} (hsubset : part ⊆ " \x7brank=same;->".toList) : c ∉ part :=
    fun hc => hfixed (hsubset hc)
  cases statement with
  | node declared =>
    unfold before
    rw [List.mem_append, List.mem_append, not_or, not_or]
    exact ⟨⟨hpart (by decide), (Node.IsOneLine.id h).not_mem hplain⟩, hpart (by decide)⟩
  | edge declared =>
    have hmark : c ∉ (if declared.sameRank then "\x7b rank=same; ".toList else []) := by
      split
      · exact hpart (by decide)
      · exact List.not_mem_nil
    unfold before
    rw [List.mem_append, List.mem_append, List.mem_append, List.mem_append, List.mem_append,
      not_or, not_or, not_or, not_or, not_or]
    exact ⟨⟨⟨⟨⟨hpart (by decide), hmark⟩, (Edge.IsOneLine.source h).not_mem hplain⟩,
      hpart (by decide)⟩, (Edge.IsOneLine.target h).not_mem hplain⟩, hpart (by decide)⟩

/-- **The attributes of a statement are read back** from its line. -/
theorem IsOneLine.ofLine?_line (h : statement.IsOneLine) :
    Attributes.ofLine? statement.line =
      some (statement.before, statement.attributes, statement.after) := by
  rw [line_eq]
  refine Attributes.ofLine?_renderBracketed (h.not_mem_before (by decide) (by decide)) ?_ h.isReadable _
  cases statement <;> simp [attributes, Node.attributes, Edge.attributes]

/-- The line of a statement that keeps to one line is one line. -/
theorem IsOneLine.not_mem_line (h : statement.IsOneLine) : '\n' ∉ statement.line := by
  have hafter : '\n' ∉ statement.after := by
    cases statement with
    | node declared => exact List.not_mem_nil
    | edge declared =>
      show '\n' ∉ if declared.sameRank then "; \x7d".toList else []
      split
      · decide
      · exact List.not_mem_nil
  simp only [line_eq, List.mem_append, not_or]
  exact ⟨h.not_mem_before (by decide) (by decide), Attributes.not_mem_renderBracketed h.isReadable, hafter⟩

end Statement

/-! ## Descriptions -/

namespace Graph

/-- The lines for the defaults of a description, in a light or a dark palette. -/
def paletteLines (dark : Bool) : List Text :=
  if dark then
    ["    graph [fontname=Helvetica, bgcolor=transparent]".toList,
      "    node [fontname=Helvetica, shape=none, margin=0, color=white, fontcolor=white]".toList,
      "    edge [fontname=Helvetica, color=white, fontcolor=white]".toList]
  else
    ["    graph [fontname=Helvetica]".toList,
      "    node [fontname=Helvetica, shape=none, margin=0]".toList,
      "    edge [fontname=Helvetica]".toList]

/-- The lines for the settings of a layout. -/
def settingLines (settings : GraphSettings) : List Text :=
  ["    ranksep=".toList ++ settings.rankSep.render,
    "    rankdir=".toList ++ settings.direction.rankDir.toList]

/-- The **lines of a description**. -/
def expectedLines (graph : Graph) (dark : Bool) : List Text :=
  "digraph G \x7b".toList ::
    (paletteLines dark ++ settingLines graph.settings ++ graph.statements.map Statement.line ++
      ["\x7d".toList])

/-- The lines for the defaults are those of the header without changes. -/
theorem paletteLines_eq (dark : Bool) :
    paletteLines dark = ["graph ".toList ++ (DescriptionStyle.graphHeader ⟨dark, {}⟩).renderBracketed,
      "node ".toList ++ (DescriptionStyle.nodeHeader ⟨dark, {}⟩).renderBracketed,
      "edge ".toList ++ (DescriptionStyle.edgeHeader ⟨dark, {}⟩).renderBracketed].map
        ("    ".toList ++ ·) := by
  cases dark <;> decide +kernel

/-- The lines for the settings are indented as well. -/
theorem settingLines_eq (settings : GraphSettings) :
    settingLines settings = ["ranksep=".toList ++ settings.rankSep.render,
      "rankdir=".toList ++ settings.direction.rankDir.toList].map ("    ".toList ++ ·) := rfl

/-- The lines between the braces are indented. -/
theorem expectedLines_eq (graph : Graph) (dark : Bool) :
    graph.expectedLines dark = "digraph G \x7b".toList ::
      ((graph.descriptionLines ⟨dark, {}⟩).map ("    ".toList ++ ·) ++ ["\x7d".toList]) := by
  have hstatements : (graph.statements.map Statement.render).map ("    ".toList ++ ·) =
      graph.statements.map Statement.line := List.map_map
  have hheader (first second third fourth fifth : Text) :
      [first, second, third] ++ [fourth, fifth] = [first, second, third, fourth, fifth] := rfl
  rw [expectedLines, paletteLines_eq, settingLines_eq, ← hstatements, ← List.map_append,
    ← List.map_append, hheader, descriptionLines]

/-- A description ends each of its lines. -/
theorem describe_eq (graph : Graph) (dark : Bool) :
    graph.describe ⟨dark, {}⟩ =
      (graph.expectedLines dark).flatMap fun line => line ++ ['\n'] := by
  have hopen : "digraph G \x7b\n".toList = "digraph G \x7b".toList ++ ['\n'] := rfl
  have hclose : "\x7d\n".toList = "\x7d".toList ++ ['\n'] := rfl
  rw [expectedLines_eq, List.flatMap_cons, List.flatMap_append, List.flatMap_map,
    List.flatMap_singleton, ← List.append_assoc, ← hopen, ← hclose]
  unfold describe
  rfl

/-- **The lines of a description** of a graph whose statements keep to one line. -/
theorem fields_describe {graph : Graph} (h : ∀ statement ∈ graph.statements, statement.IsOneLine)
    (dark : Bool) :
    Text.fields '\n' (graph.describe ⟨dark, {}⟩) = graph.expectedLines dark ++ [[]] := by
  have hpalette : ∀ line ∈ paletteLines dark, '\n' ∉ line := by
    cases dark <;> decide +kernel
  have hsettings : ∀ line ∈ settingLines graph.settings, '\n' ∉ line := by
    have hrank := (Decimal.isPlain_render graph.settings.rankSep).not_mem (c := '\n') (by decide)
    have hdirection : '\n' ∉ graph.settings.direction.rankDir.toList := by
      cases graph.settings.direction <;> decide
    simp [settingLines, hrank, hdirection]
  have hlines : ∀ line ∈ graph.expectedLines dark, '\n' ∉ line := by
    simp only [expectedLines, List.forall_mem_cons, List.forall_mem_append, List.forall_mem_map]
    exact ⟨by decide, ⟨⟨hpalette, hsettings⟩, fun statement hstatement =>
      (h statement hstatement).not_mem_line⟩, by decide, by simp⟩
  have hfields := Text.fields_flatMap hlines []
  rwa [List.append_nil, ← describe_eq] at hfields

end Graph

end UmlSketch
