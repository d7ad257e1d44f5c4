import UmlSketch.Text.Basic

/-! # Escapes
A backslash takes the character after it with it, so that the two stand for themselves. Read from
the left, a character is escaped when an odd run of backslashes stands directly before it. A text is
split at the occurrences of a separator that are not escaped (`Text.splitUnescaped`); the escapes
stay in the parts as they are written. -/

namespace UmlSketch.Text

/-- Whether the character after `before` is escaped: `before` ends with an odd run of backslashes. -/
def endsEscaping (before : Text) : Bool :=
  (before.reverse.takeWhile (· = '\\')).length % 2 = 1

/-- Whether the character at a position of the text is escaped. -/
def isEscapedAt (text : Text) (position : Nat) : Bool := endsEscaping (text.take position)

/-- Whether the character after `c` is escaped, when `escaped` tells whether `c` is. -/
def escapesNext (escaped : Bool) (c : Char) : Bool := c = '\\' && !escaped

/-- Reads up to the first character that satisfies `stop`, a backslash taking the next character
with it; the second part is what was not read. -/
def spanUnescaped (stop : Char → Bool) : Text → Text × Text
  | [] => ([], [])
  | '\\' :: c :: rest =>
    let (read, unread) := spanUnescaped stop rest
    ('\\' :: c :: read, unread)
  | c :: rest =>
    if stop c then ([], c :: rest)
    else
      let (read, unread) := spanUnescaped stop rest
      (c :: read, unread)

/-- Nothing is lost: what is read and what is left make up the text. -/
theorem spanUnescaped_append (stop : Char → Bool) (text : Text) :
    (spanUnescaped stop text).1 ++ (spanUnescaped stop text).2 = text := by
  fun_induction spanUnescaped stop text <;> simp_all

theorem length_spanUnescaped_snd_le (stop : Char → Bool) (text : Text) :
    (spanUnescaped stop text).2.length ≤ text.length := by
  have h := congrArg List.length (spanUnescaped_append stop text)
  simp only [List.length_append] at h
  omega

/-- Unless the first character stops the reading, something is read. -/
theorem length_spanUnescaped_snd_lt {stop : Char → Bool} {c : Char} (h : stop c = false)
    (rest : Text) : (spanUnescaped stop (c :: rest)).2.length < (c :: rest).length := by
  unfold spanUnescaped
  split
  · simp_all
  · rename_i after heq
    have := length_spanUnescaped_snd_le stop after
    simp only [List.cons.injEq] at heq
    simp only [heq, List.length_cons]
    omega
  · rename_i first after _ heq
    have := length_spanUnescaped_snd_le stop after
    simp only [List.cons.injEq] at heq
    obtain ⟨rfl, rfl⟩ := heq
    simp only [h, List.length_cons]
    exact Nat.lt_succ_of_le this

/-! ## Splitting at a separator -/

/-- The parts of the rest of a text; the first continues the part under way. `escaped` tells whether
the next character is escaped. Occurrences do not overlap: for the next `passing` characters none is
looked for, and the next `dropping` characters belong to a separator that has cut the text. -/
def splitUnescapedFrom (separator : Text) (escaped : Bool) (passing dropping : Nat) :
    Text → List Text
  | [] => if passing = 0 ∧ separator = [] ∧ !escaped then [[], []] else [[]]
  | c :: rest =>
    let found : Bool := passing = 0 && separator.isPrefixOf (c :: rest)
    let cuts : Bool := found && !escaped
    let passing' := if found then separator.length else passing
    let dropping' := if cuts then separator.length else dropping
    let after :=
      splitUnescapedFrom separator (escapesNext escaped c) (passing' - 1) (dropping' - 1) rest
    let parts := if dropping' = 0 then consFirst c after else after
    if cuts then [] :: parts else parts

/-- The parts of a text between the occurrences of a separator that are not escaped. Occurrences are
found from the left without overlap, and an escaped one is passed over as a whole. -/
def splitUnescaped (separator text : Text) : List Text := splitUnescapedFrom separator false 0 0 text

/-- Whether the text has an occurrence of the separator that is not escaped. -/
def containsUnescaped (separator text : Text) : Bool := 1 < (splitUnescaped separator text).length

/-- Takes a suffix off a text, unless the suffix's first character is escaped. -/
def dropUnescapedSuffix? (suffix text : Text) : Option Text :=
  (dropEnd? suffix text).filter fun before => !endsEscaping before

end UmlSketch.Text
