import UmlSketch.Proofs.Description.Reading

/-! # Statements on lines of their own
A description gives every statement a line. The line holds no other line break if the texts of the
statement hold none, and what stands in its brackets is read back as the attributes of the node or the
edge. -/

namespace UmlSketch

/-! ## Line breaks -/

namespace Text

/-- Lines that are ended one after the other are the fields of what they make up. -/
theorem fields_flatMap {separator : Char} {lines : List Text}
    (h : ∀ line ∈ lines, separator ∉ line) (rest : Text) :
    fields separator (lines.flatMap (fun line => line ++ [separator]) ++ rest) =
      lines ++ fields separator rest := by
  induction lines with
  | nil => rfl
  | cons line lines ih =>
    rw [List.forall_mem_cons] at h
    rw [List.flatMap_cons, List.append_assoc, List.append_assoc, List.singleton_append,
      fields_of_not_mem h.1, ih h.2, List.cons_append]

/-- The inside of a quoted text has the characters of the text and backslashes. -/
theorem mem_of_mem_quoteFrom {c : Char} {escaped : Bool} {text : Text}
    (h : c ∈ quoteFrom escaped text) : c ∈ text ∨ c = '\\' := by
  induction text generalizing escaped with
  | nil =>
    cases escaped with
    | true => exact Or.inr (List.mem_singleton.mp h)
    | false => simp [quoteFrom] at h
  | cons d rest ih =>
    have hstep : c = '\\' ∨ c ∈ d :: quoteFrom (d = '\\' && !escaped) rest := by
      simp only [quoteFrom] at h
      split at h
      · exact List.mem_cons.mp h
      · exact Or.inr h
    rcases hstep with hescape | hstep
    · exact Or.inr hescape
    rcases List.mem_cons.mp hstep with rfl | hrest
    · exact Or.inl List.mem_cons_self
    · exact (ih hrest).imp_left (List.mem_cons_of_mem d)

/-- A quoted text of one line is of one line. -/
theorem not_mem_quote {text : Text} (h : '\n' ∉ text) : '\n' ∉ quote text := by
  have hinside : '\n' ∉ quoteFrom false text := fun hmem =>
    (mem_of_mem_quoteFrom hmem).elim h (by decide)
  simp [quote, hinside]

end Text

/-! ## Attributes -/

namespace Attributes

/-- An attribute with a plain key and a quoted text of one line can be read back. -/
theorem isReadable_quotedAttribute {key : String} {text : Text} (hkey : Text.IsPlain key.toList)
    (htext : '\n' ∉ text) : IsReadable (quotedAttribute key text) :=
  ⟨hkey, Or.inr ⟨text, htext, rfl⟩⟩

/-- An attribute with a plain key and a number can be read back. -/
theorem isReadable_bareAttribute {key : String} (hkey : Text.IsPlain key.toList) (number : Decimal) :
    IsReadable (bareAttribute key number.render) :=
  ⟨hkey, Or.inl (Decimal.isPlain_render number)⟩

/-- An attribute that can be read back holds no line break. -/
theorem IsReadable.not_mem {entry : Text × Text} (h : IsReadable entry) :
    '\n' ∉ entryText entry := by
  have hvalue : '\n' ∉ entry.2 := by
    rcases h.2 with hplain | ⟨text, htext, hentry⟩
    · exact hplain.not_mem (by decide)
    · rw [hentry]
      exact Text.not_mem_quote htext
  simp only [entryText, List.mem_append, List.mem_cons, not_or]
  exact ⟨h.1.not_mem (by decide), by decide, hvalue⟩

/-- Parts that are joined have no other characters than the parts and what stands between them. -/
theorem not_mem_join {c : Char} {separator : Text} {parts : List Text} (hseparator : c ∉ separator)
    (h : ∀ part ∈ parts, c ∉ part) : c ∉ Text.join separator parts := by
  induction parts with
  | nil => simp
  | cons first rest ih =>
    rw [List.forall_mem_cons] at h
    cases rest with
    | nil => rw [Text.join_singleton]; exact h.1
    | cons second rest =>
      rw [Text.join_cons_cons, List.mem_append, List.mem_append, not_or, not_or]
      exact ⟨⟨h.1, hseparator⟩, ih h.2⟩

/-- Attributes that can be read back hold no line break. -/
theorem not_mem_renderBracketed {attributes : Attributes}
    (h : ∀ entry ∈ attributes, IsReadable entry) : '\n' ∉ attributes.renderBracketed := by
  have hrender : '\n' ∉ attributes.render := by
    rw [render_eq]
    refine not_mem_join (by decide) ?_
    rw [List.forall_mem_map]
    exact fun entry hentry => (h entry hentry).not_mem
  simp only [renderBracketed, List.cons_append, List.mem_cons, List.mem_append, List.not_mem_nil,
    or_false, not_or]
  exact ⟨by decide, hrender, by decide⟩

end Attributes

/-! ## Statements -/

/-- Whether a node keeps to one line: its identifier is plain, and its texts hold no line break. -/
structure Node.IsOneLine (node : Node) : Prop where
  /-- The identifier is plain. -/
  id : Text.IsPlain node.id
  /-- The label holds no line break. -/
  label : '\n' ∉ node.label
  /-- The background color holds no line break. -/
  fill : ∀ fill ∈ node.fill, '\n' ∉ fill.color

/-- Whether an edge keeps to one line: its ends are plain, and its texts hold no line break. -/
structure Edge.IsOneLine (edge : Edge) : Prop where
  /-- The start is plain. -/
  source : edge.source.render.IsPlain
  /-- The end is plain. -/
  target : edge.target.render.IsPlain
  /-- The text in the middle holds no line break. -/
  label : ∀ text ∈ edge.label, '\n' ∉ text
  /-- The text at the start holds no line break. -/
  tailLabel : ∀ text ∈ edge.tailLabel, '\n' ∉ text
  /-- The text at the end holds no line break. -/
  headLabel : ∀ text ∈ edge.headLabel, '\n' ∉ text

/-- A list of at most one attribute can be read back if that attribute can. -/
theorem Attributes.isReadable_map_toList {α : Type} {write : α → Text × Text} {value? : Option α}
    (h : ∀ value ∈ value?, IsReadable (write value)) :
    ∀ entry ∈ (value?.map write).toList, IsReadable entry := by
  intro entry hentry
  obtain ⟨value, hvalue, rfl⟩ := Option.map_eq_some_iff.mp (Option.mem_toList.mp hentry)
  exact h value hvalue

/-- A size that may be missing can be read back. -/
theorem Attributes.isReadable_size {key : String} (hkey : Text.IsPlain key.toList)
    (size? : Option Decimal) :
    ∀ entry ∈ (size?.map fun size => bareAttribute key size.render).toList, IsReadable entry :=
  isReadable_map_toList fun size _ => isReadable_bareAttribute hkey size

/-- The names that a description has for shapes, styles, arrows and lines are plain. -/
theorem Shape.isPlain_name (shape : Shape) : Text.IsPlain shape.name.toList := by
  cases shape <;> decide

theorem ArrowKind.isPlain_name (arrow : ArrowKind) : Text.IsPlain arrow.name.toList := by
  cases arrow <;> decide

theorem LineStyle.isPlain_name (line : LineStyle) : Text.IsPlain line.name.toList := by
  cases line <;> decide

theorem TextColor.isPlain_name (color : TextColor) : Text.IsPlain color.name.toList := by
  cases color <;> decide

theorem NodeStyle.isPlain_name (style : NodeStyle) : Text.IsPlain style.name.toList := by
  cases style <;> decide

open Attributes in
/-- The attributes of a node that keeps to one line can be read back. -/
theorem Node.IsOneLine.isReadable {node : Node} (h : node.IsOneLine) :
    ∀ entry ∈ node.attributes, IsReadable entry := by
  have hmargin : ∀ entry ∈ (node.margin.map fun size =>
      quotedAttribute "margin" (size.1.render ++ ',' :: size.2.render)).toList,
      IsReadable entry := by
    refine isReadable_map_toList fun size _ => isReadable_quotedAttribute (by decide) ?_
    have hx := (Decimal.isPlain_render size.1).not_mem (c := '\n') (by decide)
    have hy := (Decimal.isPlain_render size.2).not_mem (c := '\n') (by decide)
    simp [hx, hy]
  have hstyles : '\n' ∉ Text.join [','] (node.styles.map (·.name.toList)) := by
    refine not_mem_join (by decide) ?_
    rw [List.forall_mem_map]
    exact fun style _ => (NodeStyle.isPlain_name style).not_mem (by decide)
  unfold Node.attributes
  simp only [List.forall_mem_append]
  -- In the order in which they are written: the shape, the sizes, the styles, the fill, the label.
  refine ⟨⟨⟨⟨⟨⟨⟨⟨?_, isReadable_size (by decide) _⟩, isReadable_size (by decide) _⟩, hmargin⟩,
    isReadable_size (by decide) _⟩, ?_⟩, ?_⟩, isReadable_size (by decide) _⟩, ?_⟩
  · rw [List.forall_mem_singleton]
    exact isReadable_quotedAttribute (by decide)
      ((Shape.isPlain_name node.effectiveShape).not_mem (by decide))
  · split
    · simp
    · rw [List.forall_mem_singleton]
      exact isReadable_quotedAttribute (by decide) hstyles
  · split
    · simp
    · rename_i fill hfill
      rw [List.forall_mem_cons]
      exact ⟨isReadable_quotedAttribute (by decide) (h.fill fill hfill),
        isReadable_map_toList fun color _ => isReadable_quotedAttribute (by decide)
          ((TextColor.isPlain_name color).not_mem (by decide))⟩
  · rw [List.forall_mem_singleton]
    exact isReadable_quotedAttribute (by decide) h.label

open Attributes in
/-- The attributes of an edge that keeps to one line can be read back. -/
theorem Edge.IsOneLine.isReadable {edge : Edge} (h : edge.IsOneLine) :
    ∀ entry ∈ edge.attributes, IsReadable entry := by
  have htext (key : String) (hkey : Text.IsPlain key.toList) {text? : Option Text}
      (htext : ∀ text ∈ text?, '\n' ∉ text) :
      ∀ entry ∈ ((text?.filter (· ≠ [])).map (quotedAttribute key)).toList, IsReadable entry :=
    isReadable_map_toList fun text hmem =>
      isReadable_quotedAttribute hkey (htext text (Option.mem_filter_iff.mp hmem).1)
  unfold Edge.attributes
  simp only [List.forall_mem_append]
  -- The four fixed attributes come first, then the texts and the sizes that are given.
  refine ⟨⟨⟨⟨⟨?_, htext _ (by decide) h.label⟩, htext _ (by decide) h.tailLabel⟩,
    htext _ (by decide) h.headLabel⟩, isReadable_size (by decide) _⟩, isReadable_size (by decide) _⟩
  simp only [List.forall_mem_cons]
  exact ⟨isReadable_quotedAttribute (by decide) (by decide),
    isReadable_quotedAttribute (by decide) ((LineStyle.isPlain_name _).not_mem (by decide)),
    isReadable_quotedAttribute (by decide) ((ArrowKind.isPlain_name _).not_mem (by decide)),
    isReadable_quotedAttribute (by decide) ((ArrowKind.isPlain_name _).not_mem (by decide)),
    by simp⟩

end UmlSketch
