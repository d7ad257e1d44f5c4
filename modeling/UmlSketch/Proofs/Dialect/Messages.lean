import Mathlib.Data.List.Induction
import UmlSketch.Dialect.Sequences

/-! # Messages
A message is read from its end: a marker, if there is one, and before it the arrow, as long as it can
be. Told forwards, a message is its text, an arrow and a marker (`Sequences.splitArrow?_eq_some_iff`),
and it has an arrow whenever the point of one stands in this place
(`Sequences.exists_splitArrow?_iff`). -/

namespace UmlSketch

/-- A marker is a round bracket. -/
theorem Activation.exists_ofMarker?_iff {c : Char} :
    (∃ activation, Activation.ofMarker? c = some activation) ↔ c = '(' ∨ c = ')' := by
  unfold Activation.ofMarker?
  split
  · simp_all
  split
  · simp_all
  · simp_all

namespace Sequences

/-- A pattern is found in a text if it stands somewhere in it. -/
theorem contains_iff {pattern text : Text} :
    contains pattern text = true ↔ ∃ before after, text = before ++ (pattern ++ after) := by
  rw [contains]
  fun_induction Text.splitFirst pattern text with
  | case1 hpattern => exact iff_of_true rfl ⟨[], [], by rw [hpattern]; rfl⟩
  | case2 hpattern =>
    refine iff_of_false (by simp) ?_
    rintro ⟨before, after, h⟩
    have happend := (List.append_eq_nil_iff.mp h.symm).2
    exact hpattern (List.append_eq_nil_iff.mp happend).1
  | case3 c rest hprefix =>
    obtain ⟨after, hafter⟩ := List.isPrefixOf_iff_prefix.mp hprefix
    exact iff_of_true rfl ⟨[], after, hafter.symm⟩
  | case4 c rest hprefix ih =>
    rw [Option.isSome_map, ih]
    constructor
    · rintro ⟨before, after, rfl⟩
      exact ⟨c :: before, after, rfl⟩
    · rintro ⟨before, after, h⟩
      cases before with
      | nil => exact absurd (List.isPrefixOf_iff_prefix.mpr ⟨after, h.symm⟩) hprefix
      | cons d before => exact ⟨before, after, (List.cons.inj h).2⟩

/-- Whether a text is the **arrow** behind another: the point alone is one only if no part of a longer
arrow stands before it. -/
def IsArrow (before arrow : Text) : Prop :=
  arrow = ['.', '>'] ∨ arrow = ['>', '>'] ∨
    (arrow = ['>'] ∧ before.getLast? ≠ some '.' ∧ before.getLast? ≠ some '>')

/-- Whether a text is the **marker** for what the receiver does, nothing if it does nothing. -/
def IsMarker (marker : Text) (target : Option Activation) : Prop :=
  (marker = [] ∧ target = none) ∨
    ∃ c activation, marker = [c] ∧ Activation.ofMarker? c = some activation ∧ target = some activation

/-- The arrow taken off a message that is read backwards is the longest. -/
theorem dropArrow?_eq_some_iff {reversed rest : Text} :
    dropArrow? reversed = some rest ↔
      reversed = '>' :: '.' :: rest ∨ reversed = '>' :: '>' :: rest ∨
        (reversed = '>' :: rest ∧ rest.head? ≠ some '.' ∧ rest.head? ≠ some '>') := by
  constructor
  · intro h
    unfold dropArrow? at h
    split at h
    · cases h
      exact Or.inl rfl
    · cases h
      exact Or.inr (Or.inl rfl)
    · rename_i hdot hpoint
      cases h
      refine Or.inr (Or.inr ⟨rfl, fun hhead => ?_, fun hhead => ?_⟩)
      · obtain ⟨after, rfl⟩ := List.head?_eq_some_iff.mp hhead
        exact hdot after rfl
      · obtain ⟨after, rfl⟩ := List.head?_eq_some_iff.mp hhead
        exact hpoint after rfl
    · cases h
  · rintro (rfl | rfl | ⟨rfl, hdot, hpoint⟩)
    · rfl
    · rfl
    · unfold dropArrow?
      split <;> simp_all

/-- An arrow ends with its point. -/
theorem IsArrow.exists_eq {before arrow : Text} (h : IsArrow before arrow) :
    ∃ shaft, arrow = shaft ++ ['>'] := by
  rcases h with rfl | rfl | ⟨rfl, -⟩
  · exact ⟨['.'], rfl⟩
  · exact ⟨['>'], rfl⟩
  · exact ⟨[], rfl⟩

/-- Told forwards, the arrow stands behind the text. -/
theorem dropArrow?_reverse_eq_some_iff {body text : Text} :
    dropArrow? body.reverse = some text.reverse ↔ ∃ arrow, body = text ++ arrow ∧ IsArrow text arrow := by
  have hreverse (arrow : Text) : body.reverse = arrow.reverse ++ text.reverse ↔ body = text ++ arrow := by
    rw [← List.reverse_append, List.reverse_inj]
  rw [dropArrow?_eq_some_iff, List.head?_reverse]
  constructor
  · rintro (h | h | ⟨h, hlast⟩)
    · exact ⟨_, (hreverse ['.', '>']).mp h, Or.inl rfl⟩
    · exact ⟨_, (hreverse ['>', '>']).mp h, Or.inr (Or.inl rfl)⟩
    · exact ⟨_, (hreverse ['>']).mp h, Or.inr (Or.inr ⟨rfl, hlast⟩)⟩
  · rintro ⟨arrow, hbody, rfl | rfl | ⟨rfl, hlast⟩⟩
    · exact Or.inl ((hreverse _).mpr hbody)
    · exact Or.inr (Or.inl ((hreverse _).mpr hbody))
    · exact Or.inr (Or.inr ⟨(hreverse _).mpr hbody, hlast⟩)

/-- A message is read as what stands before its arrow, with the marker behind it. -/
theorem map_dropArrow?_eq_some_iff {body text : Text} {marker? target : Option Activation} :
    (dropArrow? body.reverse).map (fun rest => (rest.reverse, marker?)) = some (text, target) ↔
      (∃ arrow, body = text ++ arrow ∧ IsArrow text arrow) ∧ target = marker? := by
  simp only [← dropArrow?_reverse_eq_some_iff, Option.map_eq_some_iff, Prod.mk.injEq]
  constructor
  · rintro ⟨rest, hrest, rfl, rfl⟩
    exact ⟨by rw [List.reverse_reverse]; exact hrest, rfl⟩
  · rintro ⟨hrest, rfl⟩
    exact ⟨_, hrest, List.reverse_reverse text, rfl⟩

/-- A message that ends with a marker has its arrow before it. -/
theorem splitArrow?_concat_of_marker {before : Text} {c : Char} {activation : Activation}
    (hmarker : Activation.ofMarker? c = some activation) :
    splitArrow? (before ++ [c]) =
      (dropArrow? before.reverse).map fun rest => (rest.reverse, some activation) := by
  rw [splitArrow?, List.reverse_append, List.reverse_singleton, List.singleton_append]
  simp only [hmarker]

/-- Every other message ends with its arrow. -/
theorem splitArrow?_concat_of_no_marker {before : Text} {c : Char}
    (hmarker : Activation.ofMarker? c = none) :
    splitArrow? (before ++ [c]) =
      (dropArrow? (before ++ [c]).reverse).map fun rest => (rest.reverse, none) := by
  rw [splitArrow?, List.reverse_append, List.reverse_singleton, List.singleton_append]
  simp only [hmarker]

/-- A message taken apart is its text, its arrow and its marker. -/
theorem splitArrow?_eq_some_iff {body text : Text} {target : Option Activation} :
    splitArrow? body = some (text, target) ↔
      ∃ arrow marker, body = text ++ (arrow ++ marker) ∧ IsArrow text arrow ∧
        IsMarker marker target := by
  cases body using List.reverseRecOn with
  | nil =>
    constructor
    · intro h
      cases h
    · rintro ⟨arrow, marker, hbody, harrow, -⟩
      obtain ⟨shaft, rfl⟩ := harrow.exists_eq
      simp at hbody
  | append_singleton before c =>
    cases hmarker : Activation.ofMarker? c with
    | some activation =>
      rw [splitArrow?_concat_of_marker hmarker, map_dropArrow?_eq_some_iff]
      constructor
      · rintro ⟨⟨arrow, rfl, harrow⟩, rfl⟩
        exact ⟨arrow, [c], by simp, harrow, Or.inr ⟨c, activation, rfl, hmarker, rfl⟩⟩
      · rintro ⟨arrow, marker, hbody, harrow, ⟨rfl, -⟩ | ⟨d, other, rfl, hother, rfl⟩⟩
        · -- The point of an arrow is no marker.
          obtain ⟨shaft, rfl⟩ := harrow.exists_eq
          rw [List.append_nil, ← List.append_assoc] at hbody
          obtain ⟨-, hc⟩ := List.append_inj' hbody rfl
          obtain rfl := (List.cons.inj hc).1
          cases hmarker
        · rw [← List.append_assoc] at hbody
          obtain ⟨rfl, hc⟩ := List.append_inj' hbody rfl
          obtain rfl := (List.cons.inj hc).1
          exact ⟨⟨arrow, rfl, harrow⟩, hother.symm.trans hmarker⟩
    | none =>
      rw [splitArrow?_concat_of_no_marker hmarker, map_dropArrow?_eq_some_iff]
      constructor
      · rintro ⟨⟨arrow, hbody, harrow⟩, rfl⟩
        exact ⟨arrow, [], by rw [List.append_nil, hbody], harrow, Or.inl ⟨rfl, rfl⟩⟩
      · rintro ⟨arrow, marker, hbody, harrow, ⟨rfl, rfl⟩ | ⟨d, other, rfl, hother, rfl⟩⟩
        · exact ⟨⟨arrow, by rw [hbody, List.append_nil], harrow⟩, rfl⟩
        · rw [← List.append_assoc] at hbody
          obtain ⟨-, hc⟩ := List.append_inj' hbody rfl
          obtain rfl := (List.cons.inj hc).1
          rw [hmarker] at hother
          cases hother

/-- An arrow ends at every point. -/
theorem exists_isArrow (label : Text) :
    ∃ before arrow, label ++ ['>'] = before ++ arrow ∧ IsArrow before arrow := by
  cases label using List.reverseRecOn with
  | nil => exact ⟨[], ['>'], rfl, Or.inr (Or.inr ⟨rfl, by simp, by simp⟩)⟩
  | append_singleton before c =>
    by_cases hdot : c = '.'
    · exact ⟨before, ['.', '>'], by simp [hdot], Or.inl rfl⟩
    by_cases hpoint : c = '>'
    · exact ⟨before, ['>', '>'], by simp [hpoint], Or.inr (Or.inl rfl)⟩
    · exact ⟨before ++ [c], ['>'], rfl, Or.inr (Or.inr ⟨rfl, by simp [hdot], by simp [hpoint]⟩)⟩

/-- A message has an arrow exactly if it ends with the point of one, or with this and a marker. -/
theorem exists_splitArrow?_iff {body : Text} :
    (∃ read, splitArrow? body = some read) ↔
      ∃ label marker, body = label ++ '>' :: marker ∧ marker ∈ [[], ['('], [')']] := by
  simp only [Prod.exists, splitArrow?_eq_some_iff]
  constructor
  · rintro ⟨text, target, arrow, marker, rfl, harrow, hmarker⟩
    obtain ⟨shaft, rfl⟩ := harrow.exists_eq
    refine ⟨text ++ shaft, marker, by simp, ?_⟩
    rcases hmarker with ⟨rfl, -⟩ | ⟨c, activation, rfl, hc, -⟩
    · simp
    · rcases Activation.exists_ofMarker?_iff.mp ⟨activation, hc⟩ with rfl | rfl <;> simp
  · rintro ⟨label, marker, rfl, hmarker⟩
    obtain ⟨text, arrow, htext, harrow⟩ := exists_isArrow label
    have htarget : ∃ target, IsMarker marker target := by
      simp only [List.mem_cons, List.not_mem_nil, or_false] at hmarker
      rcases hmarker with rfl | rfl | rfl
      · exact ⟨none, Or.inl ⟨rfl, rfl⟩⟩
      · exact ⟨some .opens, Or.inr ⟨'(', .opens, rfl, rfl, rfl⟩⟩
      · exact ⟨some .closes, Or.inr ⟨')', .closes, rfl, rfl, rfl⟩⟩
    obtain ⟨target, htarget⟩ := htarget
    refine ⟨text, target, arrow, marker, ?_, harrow, htarget⟩
    rw [← List.append_assoc, ← htext, List.append_assoc, List.singleton_append]

/-- A message without the marker for what the sender does. -/
def bodyOf (text : Text) : Text :=
  if (text.head?.bind Activation.ofMarker?).isSome then text.tail else text

/-- The marker of the sender is taken off before the arrow is looked for. -/
theorem signal_eq_ok_iff {token : Token} {expr : Expr} :
    signal token = .ok expr ↔ ∃ text target, splitArrow? (bodyOf token.text) = some (text, target) ∧
      expr = .signal ⟨Text.trim text, styleOf token.text,
        token.text.head?.bind Activation.ofMarker?, target, token.span⟩ := by
  unfold signal bodyOf
  simp only
  split
  · rename_i text target hsplit
    constructor
    · intro h
      exact ⟨text, target, hsplit, (Except.ok.inj h).symm⟩
    · rintro ⟨text', target', hsplit', rfl⟩
      obtain ⟨rfl, rfl⟩ := Prod.mk.inj (Option.some.inj (hsplit.symm.trans hsplit'))
      rfl
  · rename_i hnone
    constructor
    · intro h
      cases h
    · rintro ⟨text, target, hsplit, -⟩
      cases hnone.symm.trans hsplit

/-- A message is its body, behind the marker of the sender if there is one. -/
theorem exists_eq_append_bodyOf (text : Text) :
    ∃ opening, text = opening ++ bodyOf text ∧ (opening = [] ∨ opening = ['('] ∨ opening = [')']) := by
  cases text with
  | nil => exact ⟨[], rfl, Or.inl rfl⟩
  | cons c rest =>
    cases hmarker : Activation.ofMarker? c with
    | none =>
      refine ⟨[], ?_, Or.inl rfl⟩
      rw [bodyOf, List.head?_cons, Option.bind_some, hmarker]
      rfl
    | some activation =>
      refine ⟨[c], ?_, Or.inr ?_⟩
      · rw [bodyOf, List.head?_cons, Option.bind_some, hmarker]
        rfl
      · simpa using Activation.exists_ofMarker?_iff.mp ⟨activation, hmarker⟩

/-- Every message has the point of an arrow. -/
theorem point_mem_of_signal {token : Token} {expr : Expr} (h : signal token = .ok expr) :
    '>' ∈ token.text := by
  obtain ⟨text, target, hsplit, -⟩ := signal_eq_ok_iff.mp h
  obtain ⟨label, marker, hbody, -⟩ := exists_splitArrow?_iff.mp ⟨_, hsplit⟩
  obtain ⟨opening, htext, -⟩ := exists_eq_append_bodyOf token.text
  rw [htext, hbody]
  simp

end Sequences

end UmlSketch
