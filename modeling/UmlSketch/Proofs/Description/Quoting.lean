import UmlSketch.Proofs.Description.Reading

/-! # Quoted texts
Quoting puts a backslash before every quote that is not escaped and, if need be, one at the end, so that
what stands in a quoted text is sealed against quotes. Sealed texts are kept by quoting: quoting what
stands in a quoted text changes nothing more. A text can be read back from its quoted form exactly if
none of its quotes is escaped and no escape is open at its end; otherwise a backslash of the text could
not be told from one that was put there (`Text.quote_inside_quote`). -/

namespace UmlSketch.Text

/-- A text that is sealed against quotes is kept by quoting. -/
theorem quoteFrom_of_isSealed {text : Text} (h : text.isSealed (· == '"') = true) :
    quoteFrom false text = text := by
  induction text using pairs_induction with
  | nil => rfl
  | backslash => simp at h
  | pair c rest ih => rw [quoteFrom_pair, ih h]
  | char c rest hescape ih =>
    rw [isSealed_cons_of_ne hescape, Bool.and_eq_true, Bool.not_eq_true', beq_eq_false_iff_ne] at h
    rw [quoteFrom_cons_of_ne hescape h.1, ih h.2]

/-- What stands between the first and the last character of a text. -/
def inside (text : Text) : Text := text.tail.dropLast

@[simp] theorem inside_quote (text : Text) : inside (quote text) = quoteFrom false text := by
  rw [inside, quote, List.cons_append, List.tail_cons, List.dropLast_concat]

/-- The inside of a quoted text **read back**: a backslash and a quote stand for the quote, and any other
pair and any other character stands for itself. -/
def unquote : Text → Text
  | [] => []
  | '\\' :: c :: rest => if c = '"' then '"' :: unquote rest else '\\' :: c :: unquote rest
  | c :: rest => c :: unquote rest

theorem unquote_cons_of_ne {c : Char} (h : c ≠ '\\') (rest : Text) :
    unquote (c :: rest) = c :: unquote rest := by
  rw [unquote]
  rintro d after rfl
  exact absurd rfl h

/-- **When a text is read back** from its quoted form: none of its quotes is escaped, and neither would
be what follows its end. -/
theorem unquote_quoteFrom_eq_iff (text : Text) :
    unquote (quoteFrom false text) = text ↔
      text.NoneEscaped (· == '"') ∧ endsEscaping text = false := by
  induction text using pairs_induction with
  | nil => decide
  | backslash => decide
  | pair c rest ih =>
    rw [quoteFrom_pair, unquote, noneEscaped_pair, endsEscaping_pair]
    by_cases hquote : c = '"'
    · -- The backslash is taken for one that quoting has put there.
      simp [hquote]
    · simp [hquote, ih]
  | char c rest hescape ih =>
    rw [noneEscaped_cons_of_ne hescape, endsEscaping_cons_of_ne hescape, ← ih]
    by_cases hquote : c = '"'
    · simp [hquote, unquote]
    · rw [quoteFrom_cons_of_ne hescape hquote, unquote_cons_of_ne hescape, List.cons.injEq]
      simp

/-- **Quoted texts.** A text in quotes is one string; quoting what stands in it gives the same string
again; and what stands in it is read back as the text exactly if every quote of the text and its end
stand behind an even run of backslashes. -/
theorem quote_inside_quote (text : Text) :
    IsString (quote text) ∧ quote (inside (quote text)) = quote text ∧
      (unquote (inside (quote text)) = text ↔
        text.NoneEscaped (· == '"') ∧ endsEscaping text = false) := by
  have hkept : quoteFrom false (quoteFrom false text) = quoteFrom false text :=
    quoteFrom_of_isSealed (isSealed_quoteFrom text)
  rw [inside_quote]
  refine ⟨isString_quote text, ?_, unquote_quoteFrom_eq_iff text⟩
  rw [quote, hkept, ← quote]

end UmlSketch.Text
