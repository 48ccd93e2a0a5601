import SqlTemplate.Text.Blank
import SqlTemplate.Text.Word

/-! A heading is a comment that names the statement after it. -/

namespace SqlTemplate

/-- A heading as it stands in a source. -/
structure Heading where
  /-- All its text, with the blanks around it that belong to it. -/
  source : Text
  /-- The name as it is written. -/
  name : Text

namespace Heading

/-- A text after a given beginning, in which the case of ASCII letters does not count. -/
def after? (start text : Text) : Option Text :=
  match start, text with
  | [], rest => some rest
  | _ :: _, [] => none
  | c :: start, d :: text => if c = d.toLower then after? start text else none

/-- The word at the beginning of a text, up to the first blank. -/
def firstWord (text : Text) : Text :=
  text.takeWhile (!isBlank ·)

/-- Whether a word is a name: word characters and hyphens, and then none but other characters. -/
def isName (word : Text) : Bool :=
  let isInner (c : Char) : Bool := isWordChar c || c = '-'
  !(word.takeWhile isInner).isEmpty && (word.dropWhile isInner).all (!isWordChar ·)

/-- The text after the name of a heading, less the blanks that belong to the heading. Those run to
the end of the text or up to the last newline among them, and a heading has to reach one. -/
def endOfLine? (text : Text) : Option Text :=
  let blanks := text.takeWhile isBlank
  let rest := text.dropWhile isBlank
  if rest.isEmpty then some []
  else if blanks.contains '\n' then
    let lastLine := (blanks.reverse.takeWhile (· ≠ '\n')).reverse
    some ('\n' :: lastLine ++ rest)
  else none

/-- The name of a heading at the beginning of a text, and the text after the heading. -/
def parts? (text : Text) : Option (Text × Text) := do
  let afterDashes ← after? ['-', '-'] text.trimStart
  let afterWord ← after? ['n', 'a', 'm', 'e'] (Text.trimStart afterDashes)
  let afterColon ← after? [':'] (Text.trimStart afterWord)
  let name := firstWord (Text.trimStart afterColon)
  if isName name then
    let rest ← endOfLine? ((Text.trimStart afterColon).drop name.length)
    return (name, rest)
  else none

/-- The heading at the beginning of a text, and the text after it. -/
def read? (text : Text) : Option (Heading × Text) := do
  let (name, rest) ← parts? text
  return (⟨text.take (text.length - rest.length), name⟩, rest)

/-- What follows a given beginning is shorter by just that beginning. -/
private theorem length_of_after? {start text rest : Text} (read : after? start text = some rest) :
    rest.length + start.length = text.length := by
  -- Both texts lose one character at each step.
  induction start generalizing text with
  | nil => cases read; rfl
  | cons c start shorter =>
    cases text with
    | nil => simp [after?] at read
    | cons d text =>
      simp only [after?] at read
      split at read
      · have := shorter read
        simp only [List.length_cons]; omega
      · contradiction

/-- Dropping blanks makes no text longer. -/
private theorem length_trimStart_le (text : Text) : text.trimStart.length ≤ text.length :=
  (List.dropWhile_suffix _).length_le

/-- The characters before the last newline are fewer than all of them. -/
private theorem length_lastLine_lt {blanks : Text} (newline : '\n' ∈ blanks) :
    (blanks.reverse.takeWhile (· ≠ '\n')).length < blanks.length := by
  have parts := congrArg List.length
    (List.takeWhile_append_dropWhile (p := (· ≠ '\n')) (l := blanks.reverse))
  have stopped : blanks.reverse.dropWhile (· ≠ '\n') ≠ [] := by
    -- Otherwise every blank would come before a newline, and a newline is among them.
    intro empty
    have whole := List.takeWhile_append_dropWhile (p := (· ≠ '\n')) (l := blanks.reverse)
    rw [empty, List.append_nil] at whole
    have others := List.all_takeWhile (p := (· ≠ '\n')) (l := blanks.reverse)
    rw [whole, List.all_eq_true] at others
    simpa using others '\n' (by simpa using newline)
  have := List.length_pos_iff.mpr stopped
  simp only [List.length_append, List.length_reverse] at parts
  omega

/-- The end of a heading's line is no longer than what follows its name. -/
private theorem length_of_endOfLine? {text rest : Text} (read : endOfLine? text = some rest) :
    rest.length ≤ text.length := by
  -- What is left are blanks that were passed over, and what follows them.
  have whole := congrArg List.length (List.takeWhile_append_dropWhile (p := isBlank) (l := text))
  simp only [List.length_append] at whole
  simp only [endOfLine?] at read
  split at read
  · cases read; exact Nat.zero_le _
  · split at read
    · next newline =>
      cases read
      have := length_lastLine_lt (by simpa using newline : '\n' ∈ text.takeWhile isBlank)
      simp only [List.length_cons, List.length_append, List.length_reverse]
      omega
    · contradiction

/-- A heading takes at least one character. -/
theorem length_of_read? {text rest : Text} {heading : Heading}
    (read : read? text = some (heading, rest)) : rest.length < text.length := by
  -- The dashes alone take two characters, and no other part gives any back.
  simp only [read?, parts?, Option.bind_eq_bind, Option.bind_eq_some_iff, Option.pure_def] at read
  obtain ⟨⟨name, after⟩, ⟨afterDashes, dashes, afterWord, word, afterColon, colon, ended⟩, same⟩ :=
    read
  split at ended
  · simp only [Option.bind_eq_some_iff] at ended
    obtain ⟨left, line, paired⟩ := ended
    cases paired
    cases same
    have := length_of_after? dashes
    have := length_of_after? word
    have := length_of_after? colon
    have := length_of_endOfLine? line
    have := length_trimStart_le text
    have := length_trimStart_le afterDashes
    have := length_trimStart_le afterWord
    have := length_trimStart_le afterColon
    simp only [List.length_cons, List.length_nil, List.length_drop] at *
    omega
  · contradiction

end Heading

end SqlTemplate
