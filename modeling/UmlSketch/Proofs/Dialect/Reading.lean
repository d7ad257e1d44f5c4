import UmlSketch.Proofs.Draft.Lines

/-! # Reading lines
The tokens of a line are read one by one until one is rejected. The error then names the token that
was given to the reader, so it is a token of one of the lines; and if none is rejected, every
expression of a line was read off a token of that line. -/

namespace UmlSketch

/-! ## Taking a list in order -/

section Order

variable {α β ε : Type}

/-- What is made of a result fails as the result does. -/
theorem map_eq_error_iff {f : α → β} {result : Except ε α} {error : ε} :
    result.map f = .error error ↔ result = .error error := by
  cases result <;> simp [Except.map]

/-- A result with another kind of error fails as the result does. -/
theorem mapError_eq_error_iff {φ : Type} {f : ε → φ} {result : Except ε α} {error : φ} :
    result.mapError f = .error error ↔ ∃ cause, error = f cause ∧ result = .error cause := by
  cases result with
  | ok a =>
    constructor
    · intro h
      cases h
    · rintro ⟨cause, -, h⟩
      cases h
  | error cause =>
    constructor
    · intro h
      exact ⟨cause, (Except.error.inj h).symm, rfl⟩
    · rintro ⟨other, rfl, h⟩
      cases h
      rfl

/-- A list fails with the error of the first of its elements that fails. -/
theorem mapM_eq_error_iff {f : α → Except ε β} {list : List α} {error : ε} :
    list.mapM f = .error error ↔
      ∃ before a after, list = before ++ a :: after ∧ (∀ b ∈ before, ∃ result, f b = .ok result) ∧
        f a = .error error := by
  induction list with
  | nil =>
    constructor
    · intro h
      cases h
    · rintro ⟨before, a, after, h, -⟩
      simp at h
  | cons a rest ih =>
    rw [List.mapM_cons]
    cases ha : f a with
    | error failure =>
      constructor
      · intro h
        cases h
        exact ⟨[], a, rest, rfl, by simp, ha⟩
      · rintro ⟨before, b, after, heq, hbefore, hb⟩
        -- Nothing stands before an element that fails.
        cases before with
        | nil =>
          obtain ⟨rfl, rfl⟩ := List.cons.inj heq
          rw [← ha, hb]
          rfl
        | cons c others =>
          obtain ⟨rfl, -⟩ := List.cons.inj heq
          obtain ⟨result, hresult⟩ := hbefore a List.mem_cons_self
          rw [ha] at hresult
          cases hresult
    | ok first =>
      have hrest : (do
          let others ← rest.mapM f
          return first :: others : Except ε (List β)) = .error error ↔
            rest.mapM f = .error error := by
        cases rest.mapM f with
        | error failure => rfl
        | ok others =>
          constructor <;>
            · intro h
              cases h
      refine hrest.trans (ih.trans ?_)
      constructor
      · rintro ⟨before, b, after, rfl, hbefore, hb⟩
        exact ⟨a :: before, b, after, rfl, List.forall_mem_cons.mpr ⟨⟨first, ha⟩, hbefore⟩, hb⟩
      · rintro ⟨before, b, after, heq, hbefore, hb⟩
        cases before with
        | nil =>
          obtain ⟨rfl, rfl⟩ := List.cons.inj heq
          rw [ha] at hb
          cases hb
        | cons c others =>
          obtain ⟨rfl, rfl⟩ := List.cons.inj heq
          exact ⟨others, b, after, rfl, (List.forall_mem_cons.mp hbefore).2, hb⟩

/-- A list fails with the error of one of its elements. -/
theorem exists_of_mapM_eq_error {f : α → Except ε β} {list : List α} {error : ε}
    (h : list.mapM f = .error error) : ∃ a ∈ list, f a = .error error := by
  obtain ⟨before, a, after, rfl, -, ha⟩ := mapM_eq_error_iff.mp h
  exact ⟨a, by simp, ha⟩

/-- If no element of a list fails, every result is that of an element. -/
theorem exists_of_mem_mapM_eq_ok {f : α → Except ε β} {list : List α} {results : List β}
    (h : list.mapM f = .ok results) {b : β} (hb : b ∈ results) : ∃ a ∈ list, f a = .ok b := by
  induction list generalizing results with
  | nil =>
    cases h
    simp at hb
  | cons a rest ih =>
    rw [List.mapM_cons] at h
    cases ha : f a with
    | error failure =>
      rw [ha] at h
      cases h
    | ok first =>
      rw [ha] at h
      cases hrest : rest.mapM f with
      | error failure =>
        rw [hrest] at h
        cases h
      | ok others =>
        rw [hrest] at h
        cases h
        rcases List.mem_cons.mp hb with rfl | hb
        · exact ⟨a, List.mem_cons_self, ha⟩
        · obtain ⟨a', ha', hf⟩ := ih hrest hb
          exact ⟨a', List.mem_cons_of_mem a ha', hf⟩

/-- A list is taken to its end exactly if none of its elements fails. -/
theorem exists_mapM_eq_ok_iff {f : α → Except ε β} {list : List α} :
    (∃ results, list.mapM f = .ok results) ↔ ∀ a ∈ list, ∃ b, f a = .ok b := by
  constructor
  · rintro ⟨results, h⟩ a ha
    obtain ⟨before, after, rfl⟩ := List.append_of_mem ha
    rw [List.mapM_append, List.mapM_cons] at h
    cases hbefore : before.mapM f with
    | error failure =>
      rw [hbefore] at h
      cases h
    | ok first =>
      cases hread : f a with
      | error failure =>
        rw [hbefore, hread] at h
        cases h
      | ok b => exact ⟨b, rfl⟩
  · intro h
    cases hread : list.mapM f with
    | ok results => exact ⟨results, rfl⟩
    | error failure =>
      obtain ⟨a, ha, hfailure⟩ := exists_of_mapM_eq_error hread
      obtain ⟨b, hb⟩ := h a ha
      rw [hfailure] at hb
      cases hb

/-- If one reader gives what another gives, but for a change of the results and of the errors, then it
does so along a whole list. -/
theorem mapM_map_eq {γ : Type} {f : α → Except ε β} {other : γ → Except ε β} {view : α → γ}
    {good : β → β} {bad : ε → ε} (h : ∀ a, other (view a) = ((f a).map good).mapError bad)
    (list : List α) :
    (list.map view).mapM other = ((list.mapM f).map (List.map good)).mapError bad := by
  induction list with
  | nil => rfl
  | cons a rest ih =>
    rw [List.map_cons, List.mapM_cons, List.mapM_cons, ih, h]
    cases f a with
    | error failure => rfl
    | ok result => cases rest.mapM f <;> rfl

/-- Taking the parts of a list one by one is taking them all in order. -/
theorem mapM_flatMap {γ : Type} (f : α → Except ε β) (parts : γ → List α) (list : List γ) :
    (list.flatMap parts).mapM f = (list.mapM fun c => (parts c).mapM f).map List.flatten := by
  induction list with
  | nil => rfl
  | cons c rest ih =>
    rw [List.flatMap_cons, List.mapM_append, ih, List.mapM_cons]
    cases (parts c).mapM f with
    | error failure => rfl
    | ok first => cases rest.mapM fun c => (parts c).mapM f <;> rfl

/-- A state that takes up the elements of a list in turn is the one that takes up all the results, if
the list is taken to its end. -/
theorem foldlM_map_eq {σ : Type} (f : α → Except ε β) (step : σ → β → σ) (state : σ)
    (list : List α) :
    list.foldlM (fun state a => (f a).map (step state)) state =
      (list.mapM f).map fun results => results.foldl step state := by
  induction list generalizing state with
  | nil => rfl
  | cons a rest ih =>
    rw [List.foldlM_cons, List.mapM_cons]
    cases f a with
    | error failure => rfl
    | ok result =>
      refine (ih (step state result)).trans ?_
      cases rest.mapM f <;> rfl

end Order

/-! ## Rejected tokens -/

/-- A token without reading is rejected as unrecognized. -/
theorem Reading.eq_of_firstOf_error {kind : Kind} {token : Token} {readings : List (Option Expr)}
    {error : TokenError} (h : Reading.firstOf kind token readings = .error error) :
    error = .unrecognized kind token := by
  unfold Reading.firstOf at h
  split at h
  · cases h
  · exact (Except.error.inj h).symm

/-- A token is read as its first reading that succeeds. -/
theorem Reading.firstOf_eq_ok_iff {kind : Kind} {token : Token} {readings : List (Option Expr)}
    {expr : Expr} :
    Reading.firstOf kind token readings = .ok expr ↔ readings.findSome? id = some expr := by
  unfold Reading.firstOf
  split
  · rename_i first hfirst
    rw [hfirst, Except.ok.injEq, Option.some.injEq]
  · rename_i hnone
    simp [hnone]

/-- What holds of every reading of a token holds of the one that is taken. -/
theorem Reading.of_firstOf {P : Expr → Prop} {kind : Kind} {token : Token}
    {readings : List (Option Expr)} {expr : Expr} (h : Reading.firstOf kind token readings = .ok expr)
    (hreadings : ∀ reading ∈ readings, ∀ other, reading = some other → P other) : P expr := by
  obtain ⟨reading, hreading, heq⟩ :=
    List.exists_of_findSome?_eq_some (Reading.firstOf_eq_ok_iff.mp h)
  exact hreadings reading hreading expr heq

namespace Kind

/-- An error names the token that was rejected. -/
theorem token_of_readToken_error {kind : Kind} {token : Token} {error : TokenError}
    (h : kind.readToken token = .error error) : error.token = token := by
  cases kind with
  | classes =>
    simp only [readToken, Classes.readToken] at h
    split at h
    · cases h
    split at h
    · cases h
    split at h
    · unfold Classes.association at h
      simp only at h
      split at h
      · cases h
      · cases h
        rfl
    · cases h
      rfl
  | sequence =>
    simp only [readToken, Sequences.readToken] at h
    split at h
    · cases h
    split at h
    · unfold Sequences.signal at h
      simp only at h
      split at h
      · cases h
      · cases h
        rfl
    split at h
    · cases h
    · cases h
      rfl
  | useCase | activity | state | deployment | package =>
    rw [Reading.eq_of_firstOf_error h]
    rfl

/-- A line fails with the error of one of its tokens. -/
theorem token_mem_of_parseLine_error {kind : Kind} {line : SourceLine} {error : TokenError}
    (h : kind.parseLine line = .error error) :
    error.token ∈ tokenize kind.openers line.text line.offset := by
  obtain ⟨token, htoken, hread⟩ := exists_of_mapM_eq_error h
  rwa [token_of_readToken_error hread]

/-- Every bracket of some lines was read off a token. -/
theorem exists_token_of_mem_brackets {kind : Kind} {lines : List SourceLine}
    {read : List (List Expr)} (h : lines.mapM kind.parseLine = .ok read) {bracket : NodeExpr}
    (hbracket : bracket ∈ Expr.brackets read) :
    ∃ token, kind.readToken token = .ok (.node bracket) := by
  obtain ⟨exprs, hexprs, hmem⟩ := List.mem_flatMap.mp hbracket
  obtain ⟨line, -, hparse⟩ := exists_of_mem_mapM_eq_ok h hexprs
  obtain ⟨token, -, hread⟩ := exists_of_mem_mapM_eq_ok hparse (Expr.mem_nodes.mp hmem)
  exact ⟨token, hread⟩

/-- Whether an error is that of the **first token** that a dialect rejects. -/
def RejectsFirst (kind : Kind) (tokens : List Token) (error : TokenError) : Prop :=
  ∃ before token after, tokens = before ++ token :: after ∧
    (∀ earlier ∈ before, ∃ expr, kind.readToken earlier = .ok expr) ∧
    kind.readToken token = .error error

/-- A list of lines fails if its lines cannot be read; drawing them does not fail. -/
theorem compileLines_eq_error_iff {kind : Kind} {direction : Direction} {lines : List SourceLine}
    {error : TokenError} :
    kind.compileLines direction lines = .error error ↔ lines.mapM kind.parseLine = .error error :=
  map_eq_error_iff

/-- A list of lines fails with the error of the first of its tokens that is rejected. -/
theorem rejectsFirst_iff {kind : Kind} {direction : Direction} {lines : List SourceLine}
    {error : TokenError} :
    kind.compileLines direction lines = .error error ↔
      kind.RejectsFirst
        (lines.flatMap fun line => tokenize kind.openers line.text line.offset) error := by
  rw [RejectsFirst, ← mapM_eq_error_iff, mapM_flatMap, compileLines_eq_error_iff, map_eq_error_iff]
  rfl

/-- A list of lines fails with the error of a token of one of them. -/
theorem exists_line_of_compileLines_error {kind : Kind} {direction : Direction}
    {lines : List SourceLine} {error : TokenError}
    (h : kind.compileLines direction lines = .error error) :
    ∃ line ∈ lines, error.token ∈ tokenize kind.openers line.text line.offset := by
  obtain ⟨line, hline, hparse⟩ := exists_of_mapM_eq_error (compileLines_eq_error_iff.mp h)
  exact ⟨line, hline, token_mem_of_parseLine_error hparse⟩

/-- A list of lines fails exactly if one of them does. -/
theorem exists_compileLines_eq_error_iff {kind : Kind} {direction : Direction}
    {lines : List SourceLine} :
    (∃ error, kind.compileLines direction lines = .error error) ↔
      ∃ line ∈ lines, ∃ error, kind.parseLine line = .error error := by
  simp only [compileLines_eq_error_iff]
  constructor
  · rintro ⟨error, h⟩
    obtain ⟨line, hline, hparse⟩ := exists_of_mapM_eq_error h
    exact ⟨line, hline, error, hparse⟩
  · rintro ⟨line, hline, error, hparse⟩
    cases hread : lines.mapM kind.parseLine with
    | error failure => exact ⟨failure, rfl⟩
    | ok read =>
      obtain ⟨exprs, hexprs⟩ := exists_mapM_eq_ok_iff.mp ⟨read, hread⟩ line hline
      rw [hparse] at hexprs
      cases hexprs

end Kind

/-! ## Accepted tokens -/

/-- A token is not enclosed if it starts with another character. -/
theorem Token.enclosed?_eq_none_of_head {token : Token} {opener : Char}
    (h : token.text.head? ≠ some opener) (closer : Char) : token.enclosed? opener closer = none := by
  unfold enclosed?
  split
  · rfl
  · rename_i c rest htext
    refine if_neg fun hends => h ?_
    rw [htext, hends.1, List.head?_cons]

/-- The separator of an association: dashed if it occurs, else solid. -/
def Classes.separatorOf (text : Text) : Text :=
  if Text.containsUnescaped ['-', '.', '-'] text then ['-', '.', '-'] else ['-']

/-- A token is an association if it is split in two; the arrows and labels are those of the sides. -/
theorem Classes.association_eq_ok_iff {token : Token} {expr : Expr} :
    association token = .ok expr ↔
      ∃ left right, Text.splitUnescaped (separatorOf token.text) token.text = [left, right] ∧
        expr = .edge
          { tail := (leftEnd left).1
            head := (rightEnd right).1
            tailLabel := nonEmptyLabel? (leftEnd left).2
            headLabel := nonEmptyLabel? (rightEnd right).2
            line := if Text.containsUnescaped ['-', '.', '-'] token.text then .dashed else .solid
            span := token.span } := by
  unfold association separatorOf
  simp only
  split
  · rename_i left right hsplit
    constructor
    · intro h
      exact ⟨left, right, hsplit, (Except.ok.inj h).symm⟩
    · rintro ⟨left', right', hsplit', rfl⟩
      obtain ⟨rfl, hright⟩ := List.cons.inj (hsplit.symm.trans hsplit')
      obtain rfl := (List.cons.inj hright).1
      rfl
  · rename_i hother
    constructor
    · intro h
      cases h
    · rintro ⟨left, right, hsplit, -⟩
      exact absurd hsplit (hother left right)

end UmlSketch
