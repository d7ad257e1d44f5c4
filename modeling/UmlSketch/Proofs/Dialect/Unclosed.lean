import UmlSketch.Proofs.Dialect.Messages
import UmlSketch.Proofs.Dialect.Reading
import UmlSketch.Proofs.Text.Occurrences
import UmlSketch.Proofs.Token.Unclosed

/-! # Reading a bracket without closer
A bracket that is not closed is an ordinary token, and the dialects read a token by its first and last
characters. Unless it ends with the character that would close it, such a token is never read as a
box; it is read as a connector if its text has the form of one, and rejected otherwise
(`Kind.exists_parseLine_iff_of_openAfter`). -/

namespace UmlSketch

/-- A token is not enclosed if what follows its opener does not end with the closer. -/
theorem Token.enclosed?_eq_none {token : Token} {opener : Char} {rest : Text}
    (htext : token.text = opener :: rest) (hlast : rest.getLast? ≠ some (closerOf opener))
    (other : Char) : token.enclosed? other (closerOf other) = none := by
  rw [enclosed?, htext]
  refine if_neg ?_
  rintro ⟨rfl, hcloser⟩
  exact hlast hcloser

/-- A token without an opener is not enclosed by it. -/
theorem Token.enclosed?_eq_none_of_not_mem {token : Token} {opener : Char} (closer : Char)
    (h : opener ∉ token.text) : token.enclosed? opener closer = none := by
  unfold enclosed?
  split
  · rfl
  · rename_i c rest htext
    rw [htext, List.mem_cons, not_or] at h
    exact if_neg fun hends => h.1 hends.1.symm

/-- The **form of an association**: one dashed separator, or no dashed one and one solid one. The
separators are those that cut the text: a search from the left, in which they do not overlap, finds them,
and they are not escaped. -/
def Classes.IsAssociationText (text : Text) : Prop :=
  (∃! position, Text.IsCutAt ['-', '.', '-'] text position) ∨
    (∀ position, ¬ Text.IsCutAt ['-', '.', '-'] text position) ∧
      ∃! position, Text.IsCutAt ['-'] text position

namespace Kind

/-- The **form of a connector** that starts with an opening character. An association has one
separator, a flow, a transition or a dependency ends with an arrow, a link with a dash, and a message
with an arrow that a marker may follow. The connectors of use cases are single characters. -/
def IsConnectorText (kind : Kind) (text : Text) : Prop :=
  match kind with
  | .classes => Classes.IsAssociationText text
  | .useCase => False
  | .activity | .state | .package =>
    ∃ label, text = label ++ ['-', '>'] ∧ Text.endsEscaping label = false
  | .deployment => ∃ label, text = label ++ ['-'] ∧ Text.endsEscaping label = false
  | .sequence =>
    ∃ label marker, text = label ++ '>' :: marker ∧ marker ∈ [[], ['('], [')']]

/-- The opening characters of a dialect are neither backslashes nor blanks. -/
theorem areOpening_openers (kind : Kind) : Token.AreOpening kind.openers := by
  have hall : (kind.openers.all fun c => decide (c ≠ '\\' ∧ Text.isBlank c = false)) = true := by
    cases kind <;> decide
  exact fun c hc => of_decide_eq_true (List.all_eq_true.mp hall c hc)

end Kind

/-! ## Connectors -/

namespace Reading

variable {token : Token} {line : LineStyle} {expr : Expr}

theorem isConnector_of_arrow? (h : arrow? token line = some expr) : expr.isConnector = true := by
  obtain ⟨label, -, rfl⟩ := Option.map_eq_some_iff.mp h
  rfl

/-- An arrow is read off a text that ends with it, unless it is escaped. -/
theorem exists_arrow?_iff : (∃ expr, arrow? token line = some expr) ↔
    ∃ label, token.text = label ++ ['-', '>'] ∧ Text.endsEscaping label = false := by
  simp only [arrow?, Option.map_eq_some_iff, Text.dropUnescapedSuffix?_eq_some_iff]
  constructor
  · rintro ⟨_, label, hlabel, -⟩
    exact ⟨label, hlabel⟩
  · rintro ⟨label, hlabel⟩
    exact ⟨_, label, hlabel, rfl⟩

/-- A text that starts with another character is no dash. -/
theorem dash?_eq_none {opener : Char} {rest : Text} (htext : token.text = opener :: rest)
    (hopener : opener ≠ '-') (line : LineStyle) : dash? token line = none := by
  refine if_neg fun hdash => hopener ?_
  rw [htext] at hdash
  exact (List.cons.inj hdash).1

end Reading

/-- A token is an association if it has the form of one. -/
theorem Classes.exists_association_iff {token : Token} :
    (∃ expr, association token = .ok expr) ↔ IsAssociationText token.text := by
  have hsplit : (∃ expr, association token = .ok expr) ↔
      ∃ left right, Text.splitUnescaped (separatorOf token.text) token.text = [left, right] := by
    simp only [association_eq_ok_iff]
    constructor
    · rintro ⟨expr, left, right, hsplit, -⟩
      exact ⟨left, right, hsplit⟩
    · rintro ⟨left, right, hsplit⟩
      exact ⟨_, left, right, hsplit, rfl⟩
  have hdashed := @Text.containsUnescaped_iff_exists_isCutAt ['-', '.', '-'] token.text (by decide)
  rw [hsplit, separatorOf, IsAssociationText]
  by_cases hcut : ∃ position, Text.IsCutAt ['-', '.', '-'] token.text position
  · rw [if_pos (hdashed.mpr hcut), Text.exists_splitUnescaped_eq_pair_iff (by decide)]
    refine ⟨Or.inl, ?_⟩
    rintro (hone | ⟨hnone, -⟩)
    · exact hone
    · obtain ⟨position, hposition⟩ := hcut
      exact absurd hposition (hnone position)
  · rw [if_neg (mt hdashed.mp hcut), Text.exists_splitUnescaped_eq_pair_iff (by decide)]
    constructor
    · intro hone
      exact .inr ⟨not_exists.mp hcut, hone⟩
    · rintro (⟨position, hposition, -⟩ | ⟨-, hone⟩)
      · exact absurd ⟨position, hposition⟩ hcut
      · exact hone

/-- An association has a dash that is not escaped. -/
theorem Classes.IsAssociationText.containsUnescaped {text : Text} (h : IsAssociationText text) :
    Text.containsUnescaped ['-'] text = true := by
  rw [Text.containsUnescaped_iff_exists_isCutAt (by decide)]
  rcases h with ⟨position, hcut, -⟩ | ⟨-, position, hcut, -⟩
  · exact ⟨position, hcut.head⟩
  · exact ⟨position, hcut⟩

/-- An association is a connector. -/
theorem Classes.isConnector_of_association {token : Token} {expr : Expr}
    (h : association token = .ok expr) : expr.isConnector = true := by
  obtain ⟨left, right, -, rfl⟩ := association_eq_ok_iff.mp h
  rfl

/-- A message is a connector. -/
theorem Sequences.isConnector_of_signal {token : Token} {expr : Expr}
    (h : signal token = .ok expr) : expr.isConnector = true := by
  unfold signal at h
  simp only at h
  split at h
  · cases h
    rfl
  · cases h

namespace Kind

variable {token : Token} {opener : Char} {rest : Text}

/-- Whether a token is read as a connector if it has the form of one, and rejected otherwise. -/
def ReadsConnector (kind : Kind) (token : Token) : Prop :=
  (∀ expr, kind.readToken token = .ok expr → expr.isConnector = true) ∧
    ((∃ expr, kind.readToken token = .ok expr) ↔ kind.IsConnectorText token.text)

theorem readsConnector_classes (htext : token.text = '[' :: rest)
    (henclosed : token.enclosed? '[' ']' = none) : ReadsConnector .classes token := by
  have hread : readToken .classes token =
      if Text.containsUnescaped ['-'] token.text then Classes.association token
      else .error (.unrecognized .classes token) := by
    have hcaret : token.text ≠ ['^'] := by simp [htext]
    rw [readToken, Classes.readToken, henclosed, if_neg hcaret]
  rw [ReadsConnector, hread]
  split
  · rename_i hcontains
    exact ⟨fun expr => Classes.isConnector_of_association, Classes.exists_association_iff⟩
  · rename_i hcontains
    constructor
    · intro expr h
      cases h
    constructor
    · rintro ⟨expr, h⟩
      cases h
    · intro h
      exact absurd (Classes.IsAssociationText.containsUnescaped h) hcontains

theorem readsConnector_sequence (htext : token.text = '[' :: rest)
    (henclosed : token.enclosed? '[' ']' = none) : ReadsConnector .sequence token := by
  have hread : readToken .sequence token =
      if token.text.contains '>' then Sequences.signal token
      else .error (.unrecognized .sequence token) := by
    have hdash : token.text ≠ ['-'] := by simp [htext]
    rw [readToken, Sequences.readToken, henclosed, if_neg hdash]
  -- The opener is no marker, so the whole token is searched for the arrow.
  have hsignal : (∃ expr, Sequences.signal token = .ok expr) ↔
      ∃ read, Sequences.splitArrow? token.text = some read := by
    have hsource : token.text.head?.bind Activation.ofMarker? = none := by
      rw [htext]
      rfl
    unfold Sequences.signal
    simp only [hsource, Option.isSome_none, Bool.false_eq_true, if_false]
    split <;> simp_all
  rw [ReadsConnector, hread]
  split
  · refine ⟨fun expr => Sequences.isConnector_of_signal, ?_⟩
    rw [hsignal, Sequences.exists_splitArrow?_iff]
    rfl
  · rename_i hcontains
    constructor
    · intro expr h
      cases h
    constructor
    · rintro ⟨expr, h⟩
      cases h
    · rintro ⟨label, marker, h, -⟩
      simp [h] at hcontains

theorem readsConnector_deployment (henclosed : token.enclosed? '[' ']' = none) :
    ReadsConnector .deployment token := by
  have hread (expr : Expr) : readToken .deployment token = .ok expr ↔
      ∃ label, Text.dropUnescapedSuffix? ['-'] token.text = some label ∧
        .edge { label := nonEmptyLabel? label, span := token.span } = expr := by
    rw [readToken, Deployments.readToken, Reading.firstOf_eq_ok_iff, henclosed,
      ← Option.map_eq_some_iff]
    cases Text.dropUnescapedSuffix? ['-'] token.text <;> simp
  simp only [ReadsConnector, hread, Text.dropUnescapedSuffix?_eq_some_iff]
  constructor
  · rintro expr ⟨label, -, rfl⟩
    rfl
  · constructor
    · rintro ⟨_, label, hlabel, -⟩
      exact ⟨label, hlabel⟩
    · rintro ⟨label, hlabel⟩
      exact ⟨_, label, hlabel, rfl⟩

theorem readsConnector_useCase (hopener : opener ∈ Kind.useCase.openers)
    (htext : token.text = opener :: rest) (hround : token.enclosed? '(' ')' = none)
    (hsquare : token.enclosed? '[' ']' = none) : ReadsConnector .useCase token := by
  have hedge : UseCases.edge? token = none := by
    have hne (c : Char) (hc : c ∉ Kind.useCase.openers) : token.text ≠ [c] := by
      rw [htext]
      rintro heq
      exact hc ((List.cons.inj heq).1 ▸ hopener)
    unfold UseCases.edge?
    split
    · exact absurd ‹_› (hne '<' (by decide))
    · exact absurd ‹_› (hne '>' (by decide))
    · exact absurd ‹_› (hne '-' (by decide))
    · exact absurd ‹_› (hne '^' (by decide))
    · rfl
  have hread : readToken .useCase token = .error (.unrecognized .useCase token) := by
    rw [readToken, UseCases.readToken, hround, hsquare, hedge]
    rfl
  simp [ReadsConnector, hread, IsConnectorText]

/-- A token that is read by its arrow alone. -/
theorem readsConnector_of_arrow? {kind : Kind} (line : LineStyle)
    (hform : kind.IsConnectorText token.text ↔
      ∃ label, token.text = label ++ ['-', '>'] ∧ Text.endsEscaping label = false)
    (hread : ∀ expr, kind.readToken token = .ok expr ↔ Reading.arrow? token line = some expr) :
    kind.ReadsConnector token :=
  ⟨fun expr h => Reading.isConnector_of_arrow? ((hread expr).mp h),
    (exists_congr hread).trans (Reading.exists_arrow?_iff.trans hform.symm)⟩

/-- A bracket without closer is read as a connector or rejected. -/
theorem readsConnector_of_unclosed {kind : Kind} (hopener : opener ∈ kind.openers)
    (htext : token.text = opener :: rest)
    (hlast : rest.getLast? ≠ some (Token.closerOf opener)) : kind.ReadsConnector token := by
  have henclosed := Token.enclosed?_eq_none htext hlast
  have hsquare : token.enclosed? '[' ']' = none := henclosed '['
  have hround : token.enclosed? '(' ')' = none := henclosed '('
  have hangle : token.enclosed? '<' '>' = none := henclosed '<'
  have hbar : token.enclosed? '|' '|' = none := henclosed '|'
  have hdash : opener ≠ '-' := by
    rintro rfl
    revert hopener
    cases kind <;> decide
  cases kind with
  | classes =>
    obtain rfl : opener = '[' := List.mem_singleton.mp hopener
    exact readsConnector_classes htext hsquare
  | useCase => exact readsConnector_useCase hopener htext hround hsquare
  | activity =>
    refine readsConnector_of_arrow? .solid Iff.rfl fun expr => ?_
    rw [readToken, Activities.readToken, Reading.firstOf_eq_ok_iff, hround, hangle, hbar,
      Reading.dash?_eq_none htext hdash]
    cases Reading.arrow? token .solid <;> simp
  | state =>
    refine readsConnector_of_arrow? .solid Iff.rfl fun expr => ?_
    rw [readToken, States.readToken, Reading.firstOf_eq_ok_iff, hround,
      Reading.dash?_eq_none htext hdash]
    cases Reading.arrow? token .solid <;> simp
  | deployment => exact readsConnector_deployment hsquare
  | package =>
    refine readsConnector_of_arrow? .dashed Iff.rfl fun expr => ?_
    rw [readToken, Packages.readToken, Reading.firstOf_eq_ok_iff, hsquare,
      Reading.dash?_eq_none htext hdash]
    cases Reading.arrow? token .dashed <;> simp
  | sequence =>
    obtain rfl : opener = '[' := List.mem_singleton.mp hopener
    exact readsConnector_sequence htext hsquare

/-- **A line that ends inside a bracket is read by the form of its last token**, which is this bracket.
Unless the token ends with the character that would close it, it is never a box, and the line is
accepted exactly if the other tokens are and this one has the form of a connector. -/
theorem exists_parseLine_iff_of_openAfter {kind : Kind} {line : SourceLine} {opener : Char}
    (h : Token.openAfter kind.openers none line.text = some opener) :
    ∃ earlier token, tokenize kind.openers line.text line.offset = earlier ++ [token] ∧
      token.IsUnclosed opener line.text line.offset ∧
      (token.text.tail.getLast? ≠ some (Token.closerOf opener) →
        (∀ expr, kind.readToken token = .ok expr → expr.isConnector = true) ∧
          ((∃ exprs, kind.parseLine line = .ok exprs) ↔
            (∀ other ∈ earlier, ∃ expr, kind.readToken other = .ok expr) ∧
              kind.IsConnectorText token.text)) := by
  obtain ⟨hopener, earlier, token, htokens, hunclosed⟩ :=
    Token.exists_tokenize_of_openAfter kind.areOpening_openers h line.offset
  refine ⟨earlier, token, htokens, hunclosed, fun hlast => ?_⟩
  obtain ⟨before, rest, -, -, htext, -⟩ := hunclosed
  rw [htext, List.tail_cons] at hlast
  obtain ⟨hconnector, hform⟩ := readsConnector_of_unclosed hopener htext hlast
  refine ⟨hconnector, ?_⟩
  rw [parseLine, exists_mapM_eq_ok_iff, htokens, List.forall_mem_append, List.forall_mem_singleton,
    hform]

/-- A class whose closer is escaped, so that the rest of the line makes it an association. -/
theorem exists_parseLine_iff_of_openAfter_escaped :
    Token.openAfter Kind.classes.openers none "[A]-[B\\]-C".toList = some '[' ∧
      ∃ earlier token, tokenize Kind.classes.openers "[A]-[B\\]-C".toList 0 = earlier ++ [token] ∧
        token.text = "[B\\]-C".toList ∧ token.text.tail.getLast? ≠ some (Token.closerOf '[') ∧
        (∀ expr, readToken .classes token = .ok expr → expr.isConnector = true) ∧
        ∃ exprs, parseLine .classes ⟨"[A]-[B\\]-C".toList, 0⟩ = .ok exprs := by
  have hopen : Token.openAfter Kind.classes.openers none "[A]-[B\\]-C".toList = some '[' := by decide
  obtain ⟨earlier, token, htokens, -, hread⟩ :=
    @exists_parseLine_iff_of_openAfter .classes ⟨"[A]-[B\\]-C".toList, 0⟩ '[' hopen
  have hall : tokenize Kind.classes.openers "[A]-[B\\]-C".toList 0 =
      [⟨"[A]".toList, .between 0 3⟩, ⟨"-".toList, .between 3 4⟩] ++
        [⟨"[B\\]-C".toList, .between 4 10⟩] := by
    decide +kernel
  obtain ⟨rfl, hlast⟩ := List.append_inj' (htokens.symm.trans hall) rfl
  obtain rfl := (List.cons.inj hlast).1
  obtain ⟨hconnector, hiff⟩ := hread (by decide)
  refine ⟨hopen, _, _, htokens, rfl, by decide, hconnector, hiff.mpr ⟨?_, ?_⟩⟩
  · intro other hother
    rcases List.mem_pair.mp hother with rfl | rfl
    · exact ⟨_, rfl⟩
    · exact ⟨_, rfl⟩
  · exact Classes.exists_association_iff.mp ⟨_, rfl⟩

/-- **A bracket without closer can be an association**: it holds a dash. -/
theorem exists_parseLine_eq_ok_of_openAfter :
    Token.openAfter Kind.classes.openers none "[A-B".toList = some '[' ∧
      ∃ edge, Kind.parseLine .classes ⟨"[A-B".toList, 0⟩ = .ok [.edge edge] :=
  ⟨by decide, { tailLabel := some "[A".toList, headLabel := some "B".toList, span := .between 0 4 },
    by decide +kernel⟩

end Kind

end UmlSketch
