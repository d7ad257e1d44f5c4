import UmlSketch.Graph.Description
import UmlSketch.Proofs.Text.Plain
import UmlSketch.Proofs.Text.Sealed

/-! # Reading attributes back
The attributes of a statement stand between brackets, separated by a comma and a blank. A reader that
knows strings cuts at these only outside of double quotes, where a backslash takes the next character
with it, and stops at the first closing bracket outside of them. Whatever text is quoted, the reader
passes over it as a whole, so it gives back the attributes that were written. -/

namespace UmlSketch

/-! ## Strings -/

namespace Text

/-- Whether a text is one **string**: behind its opening quote the first quote that is not escaped is
its last character. -/
def IsString (text : Text) : Prop :=
  ∃ inside, text = '"' :: inside ++ ['"'] ∧
    spanUnescaped (· == '"') (inside ++ ['"']) = (inside, ['"'])

@[simp] theorem quoteFrom_pair (c : Char) (rest : Text) :
    quoteFrom false ('\\' :: c :: rest) = '\\' :: c :: quoteFrom false rest := by
  simp [quoteFrom]

@[simp] theorem quoteFrom_quote (rest : Text) :
    quoteFrom false ('"' :: rest) = '\\' :: '"' :: quoteFrom false rest := by
  simp [quoteFrom]

theorem quoteFrom_cons_of_ne {c : Char} (hescape : c ≠ '\\') (hquote : c ≠ '"') (rest : Text) :
    quoteFrom false (c :: rest) = c :: quoteFrom false rest := by
  simp [quoteFrom, hescape, hquote]

/-- In the inside of a quoted text every quote is escaped, and no escape is open at its end. -/
theorem isSealed_quoteFrom (text : Text) : (quoteFrom false text).isSealed (· == '"') = true := by
  induction text using pairs_induction with
  | nil => rfl
  | backslash => rfl
  | pair c rest ih => rwa [quoteFrom_pair, isSealed_pair]
  | char c rest hescape ih =>
    by_cases hquote : c = '"'
    · rwa [hquote, quoteFrom_quote, isSealed_pair]
    · rw [quoteFrom_cons_of_ne hescape hquote, isSealed_cons_of_ne hescape, ih]
      simp [hquote]

/-- **A quoted text is one string**, whatever stands in it. -/
theorem isString_quote (text : Text) : IsString (quote text) := by
  have hread := spanUnescaped_append_of_isSealed (isSealed_quoteFrom text) ['"']
  have hend : spanUnescaped (· == '"') ['"'] = ([], ['"']) := by decide
  rw [hend, List.append_nil] at hread
  exact ⟨quoteFrom false text, rfl, hread⟩

end Text

/-! ## The reader -/

namespace Attributes

/-- Where a reader of attributes stands. -/
inductive ReadState
  /-- Outside of strings. -/
  | bare
  /-- Outside of strings, behind a comma that separates attributes. -/
  | separated
  /-- In a string. -/
  | quoted
  /-- In a string, behind a backslash that takes the next character with it. -/
  | escaped
  deriving DecidableEq, Repr

/-- What a reader of attributes **has read**. -/
structure Items where
  /-- The item under way. -/
  first : Text
  /-- The items after it. -/
  others : List Text
  /-- What follows the bracket that closes them. -/
  after : Text
  deriving DecidableEq, Repr

namespace Items

/-- Puts a text in front of the item under way. -/
def prepend (part : Text) (items : Items) : Items := { items with first := part ++ items.first }

/-- Starts a new item in front of the one under way. -/
def separate (items : Items) : Items := ⟨[], items.first :: items.others, items.after⟩

@[simp] theorem prepend_nil (items : Items) : items.prepend [] = items := rfl

@[simp] theorem prepend_prepend (first second : Text) (items : Items) :
    (items.prepend second).prepend first = items.prepend (first ++ second) := by
  simp [prepend]

end Items

/-- Reads items up to the bracket that closes them. -/
def readItems : ReadState → Text → Option Items
  | _, [] => none
  | .separated, _ :: rest => readItems .bare rest
  | .escaped, c :: rest => (readItems .quoted rest).map (Items.prepend [c])
  | .quoted, c :: rest =>
    let next : ReadState := if c = '"' then .bare else if c = '\\' then .escaped else .quoted
    (readItems next rest).map (Items.prepend [c])
  | .bare, c :: rest =>
    if c = ']' then some ⟨[], [], rest⟩
    else if c = ',' ∧ rest.head? = some ' ' then (readItems .separated rest).map Items.separate
    else (readItems (if c = '"' then .quoted else .bare) rest).map (Items.prepend [c])

/-- Reads the attributes of a line: what stands before the first bracket, the attributes, and what
stands behind the bracket that closes them. -/
def ofLine? (line : Text) : Option (Text × Attributes × Text) := do
  let (before, list) ← Text.splitFirst ['['] line
  let items ← readItems .bare list
  let attributes ← (items.first :: items.others).mapM (Text.splitFirst ['='])
  return (before, attributes, items.after)

/-! ## Passing over a text -/

/-- Whether a reader **passes** over a text as a part of one item, whatever comes after it. -/
def Passes (part : Text) : Prop :=
  ∀ rest, readItems .bare (part ++ rest) = (readItems .bare rest).map (Items.prepend part)

/-- Nothing is passed over. -/
theorem passes_nil : Passes [] := fun rest => by
  cases h : readItems .bare rest <;> simp [h]

/-- Two texts that are passed over one after the other are passed over together. -/
theorem Passes.append {first second : Text} (hfirst : Passes first) (hsecond : Passes second) :
    Passes (first ++ second) := by
  intro rest
  rw [List.append_assoc, hfirst, hsecond, Option.map_map]
  congr 1
  funext items
  exact Items.prepend_prepend first second items

/-- Outside of strings only quotes, brackets and commas have a meaning. -/
theorem passes_singleton {c : Char} (hquote : c ≠ '"') (hbracket : c ≠ ']') (hcomma : c ≠ ',') :
    Passes [c] := by
  intro rest
  rw [List.singleton_append, readItems, if_neg hbracket, if_neg (fun h => hcomma h.1),
    if_neg hquote]

/-- A plain text is passed over. -/
theorem passes_of_isPlain {text : Text} (h : text.IsPlain) : Passes text := by
  induction text with
  | nil => exact passes_nil
  | cons c rest ih =>
    rw [Text.isPlain_cons] at h
    have hne (d : Char) (hd : Text.isPlainChar d = false) : c ≠ d := by
      rintro rfl
      exact Bool.noConfusion (hd.symm.trans h.1)
    exact (passes_singleton (hne _ (by decide)) (hne _ (by decide)) (hne _ (by decide))).append
      (ih h.2)

/-- The inside of a quoted text is passed over together with the quote that closes it. The induction
carries whether the next character is escaped, which is where the reader stands as well. -/
theorem readItems_quoteFrom (escaped : Bool) (text rest : Text) :
    readItems (if escaped then .escaped else .quoted)
        (Text.quoteFrom escaped text ++ '"' :: rest) =
      (readItems .bare rest).map (Items.prepend (Text.quoteFrom escaped text ++ ['"'])) := by
  induction text generalizing escaped with
  | nil => cases escaped <;> simp [Text.quoteFrom, readItems, Function.comp_def]
  | cons c text ih =>
    cases escaped with
    | true =>
      -- The character is taken with the backslash before it, whatever it is.
      have ih := ih false
      simp only [Text.quoteFrom, Bool.not_true, Bool.and_false, Bool.false_eq_true, if_false,
        if_true, List.cons_append, readItems] at ih ⊢
      rw [ih, Option.map_map]
      congr 1
    | false =>
      by_cases hquote : c = '"'
      · -- A quote was given a backslash, which takes it into the string.
        subst hquote
        have ih := ih false
        simp only [if_false, Bool.false_eq_true] at ih
        simp [Text.quoteFrom, readItems, ih, Function.comp_def]
      · by_cases hescape : c = '\\'
        · -- From here on the next character is escaped on both sides.
          subst hescape
          have ih := ih true
          simp only [if_true] at ih
          simp [Text.quoteFrom, readItems, ih, Function.comp_def]
        · have ih := ih false
          simp only [if_false, Bool.false_eq_true] at ih
          simp [Text.quoteFrom, readItems, ih, hquote, hescape, Function.comp_def]

/-- **A quoted text is passed over**, whatever stands in it. -/
theorem passes_quote (text : Text) : Passes (Text.quote text) := by
  intro rest
  have hinside := readItems_quoteFrom false text rest
  simp only [Bool.false_eq_true, if_false] at hinside
  rw [Text.quote, List.append_assoc, List.cons_append, List.singleton_append, readItems,
    if_neg (by decide), if_neg (by simp), if_pos rfl, hinside, Option.map_map]
  rfl

/-! ## Lists of attributes -/

/-- An attribute as it is written. -/
def entryText (entry : Text × Text) : Text := entry.1 ++ '=' :: entry.2

/-- Attributes are written one after the other. -/
theorem render_eq (attributes : Attributes) :
    attributes.render = Text.join [',', ' '] (attributes.map entryText) := rfl

/-- Whether an attribute can be read back: its key is plain, and its value is plain or the quoted form
of a text without line breaks. -/
def IsReadable (entry : Text × Text) : Prop :=
  entry.1.IsPlain ∧ (entry.2.IsPlain ∨ ∃ text, '\n' ∉ text ∧ entry.2 = Text.quote text)

/-- An attribute that can be read back is passed over. -/
theorem IsReadable.passes {entry : Text × Text} (h : IsReadable entry) :
    Passes (entryText entry) := by
  have hvalue : Passes entry.2 := by
    rcases h.2 with hplain | ⟨text, -, htext⟩
    · exact passes_of_isPlain hplain
    · rw [htext]
      exact passes_quote text
  exact (passes_of_isPlain h.1).append
    ((passes_singleton (by decide) (by decide) (by decide)).append hvalue)

/-- Items that are joined are read one by one. -/
theorem readItems_join {first : Text} {others : List Text}
    (h : ∀ item ∈ first :: others, Passes item) (after : Text) :
    readItems .bare (Text.join [',', ' '] (first :: others) ++ ']' :: after) =
      some ⟨first, others, after⟩ := by
  induction others generalizing first with
  | nil =>
    rw [Text.join_singleton, h first List.mem_cons_self, readItems, if_pos rfl, Option.map_some]
    simp [Items.prepend]
  | cons second rest ih =>
    have hrest := ih fun item hitem => h item (List.mem_cons_of_mem first hitem)
    rw [Text.join_cons_cons, List.append_assoc, List.append_assoc, h first List.mem_cons_self]
    simp only [List.cons_append, List.nil_append]
    -- Behind the first item the reader stands before a comma and a blank.
    rw [readItems, if_neg (by decide), if_pos ⟨rfl, rfl⟩, readItems, hrest]
    simp [Items.separate, Items.prepend]

/-- A text is cut at the first place of a character that does not occur before. -/
theorem splitFirst_of_not_mem {c : Char} {before : Text} (h : c ∉ before) (after : Text) :
    Text.splitFirst [c] (before ++ c :: after) = some (before, after) := by
  induction before with
  | nil => simp [Text.splitFirst]
  | cons d rest ih =>
    rw [List.mem_cons, not_or] at h
    simp [Text.splitFirst, h.1, ih h.2]

/-- The key and the value of every item are told apart at its first equals sign. -/
theorem mapM_splitFirst {attributes : Attributes} (h : ∀ entry ∈ attributes, IsReadable entry) :
    (attributes.map entryText).mapM (Text.splitFirst ['=']) = some attributes := by
  induction attributes with
  | nil => rfl
  | cons entry rest ih =>
    rw [List.forall_mem_cons] at h
    have hkey : '=' ∉ entry.1 := h.1.1.not_mem (by decide)
    rw [List.map_cons, List.mapM_cons, entryText, splitFirst_of_not_mem hkey, ih h.2]
    rfl

/-- **Attributes are read back** from between their brackets, whatever stands around them. -/
theorem ofLine?_renderBracketed {before : Text} {attributes : Attributes} (hbefore : '[' ∉ before)
    (hne : attributes ≠ []) (h : ∀ entry ∈ attributes, IsReadable entry) (after : Text) :
    ofLine? (before ++ (attributes.renderBracketed ++ after)) = some (before, attributes, after) := by
  obtain ⟨entry, rest, rfl⟩ := List.exists_cons_of_ne_nil hne
  have hitems : ∀ item ∈ entryText entry :: rest.map entryText, Passes item := by
    rw [← List.map_cons, List.forall_mem_map]
    exact fun other hother => (h other hother).passes
  have hline : before ++ (renderBracketed (entry :: rest) ++ after) =
      before ++ '[' :: (render (entry :: rest) ++ ']' :: after) := by
    simp [renderBracketed]
  have hsplit := mapM_splitFirst h
  rw [List.map_cons] at hsplit
  rw [hline, ofLine?, splitFirst_of_not_mem hbefore, render_eq, List.map_cons]
  simp only [Option.bind_eq_bind, Option.bind_some, readItems_join hitems after, hsplit]
  rfl

end Attributes

end UmlSketch
