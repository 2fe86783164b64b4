import Toolbench.Text.Blank

/-! The lines of a file of variables. A line sets a variable by `NAME=value`; the word `export`
may stand in front, and a comment after it. A value is bare, up to the end of the line or a
comment, or stands between apostrophes or quotation marks, where it may go on over several lines.
A name without `=` has no value. A line that does not fit is passed over. Every line takes
something away from the text (`length_line_lt`), so reading line after line comes to an end. -/

namespace Toolbench.DotEnv

/-- A variable as a line of the file sets it. -/
abbrev Entry := String × Option String

/-- The text with every end of line written as a line feed. -/
def unifyNewlines : List Char → List Char
  | '\r' :: '\n' :: text => '\n' :: unifyNewlines text
  | '\r' :: text => '\n' :: unifyNewlines text
  | c :: text => c :: unifyNewlines text
  | [] => []

/-- A blank within a line. -/
def isSpace (c : Char) : Bool :=
  Text.isBlank c && c != '\n'

def skipSpaces (text : List Char) : List Char :=
  text.dropWhile isSpace

/-- The text after the current line. -/
def nextLine (text : List Char) : List Char :=
  (text.dropWhile (· != '\n')).drop 1

/-- The text after the word `export` and the blanks that follow it. -/
def skipExport (text : List Char) : List Char :=
  if "export".toList.isPrefixOf text && (text.drop 6).head?.any isSpace then
    skipSpaces (text.drop 6)
  else text

/-- The meaning of a character after a backslash, in a value between the given delimiters. -/
def escape? (delimiter c : Char) : Option Char :=
  if c = '\x5c' ∨ c = '\x27' then some c
  else if delimiter = '\x27' then none
  else
    ([('\x22', '\x22'), ('a', '\x07'), ('b', '\x08'), ('f', '\x0c'), ('n', '\n'), ('r', '\r'),
      ('t', '\t'), ('v', '\x0b')] : List (Char × Char)).lookup c

/-- What a backslash and the character after it stand for: themselves, when they have no other
meaning. -/
def unescaped (delimiter c : Char) : List Char :=
  match escape? delimiter c with
  | some d => [d]
  | none => ['\x5c', c]

/-- A value up to its closing delimiter, and the text after that. A backslash and the character
after it belong together, so that a delimiter after a backslash closes nothing. -/
def quoted? (delimiter : Char) : List Char → Option (List Char × List Char)
  | [] => none
  | '\x5c' :: c :: text =>
    (quoted? delimiter text).map fun (value, rest) => (unescaped delimiter c ++ value, rest)
  | c :: text =>
    if c = delimiter then some ([], text)
    else (quoted? delimiter text).map fun (value, rest) => (c :: value, rest)

/-- A bare value: a mark after a blank begins a comment. -/
def bare : List Char → List Char
  | c :: '#' :: text => if Text.isBlank c then [] else c :: bare ('#' :: text)
  | c :: text => c :: bare text
  | [] => []

/-- The value after `=`, and the text after it. The blanks before a bare value are no part of it,
but a comment may begin after them. -/
def value? (text : List Char) : Option (List Char × List Char) :=
  match skipSpaces text with
  | '\x27' :: body => quoted? '\x27' body
  | '\x22' :: body => quoted? '\x22' body
  | _ => some (Text.trim (bare (text.takeWhile (· != '\n'))), text.dropWhile (· != '\n'))

/-- A character of a name that does not stand between apostrophes. -/
def isNameCharacter (c : Char) : Bool :=
  c != '=' && c != '#' && !Text.isBlank c

/-- The characters up to the end of a name, which may be none, and the text after them. A name
may stand between apostrophes. -/
def spelled (text : List Char) : List Char × List Char :=
  match text with
  | '\x27' :: body =>
    let name := body.takeWhile (· != '\x27')
    match body.drop name.length with
    | [] => ([], text)
    | _ :: rest => (name, rest)
  | _ => (text.takeWhile isNameCharacter, text.dropWhile isNameCharacter)

/-- The name at the start of a line, and the text after it. -/
def name? (text : List Char) : Option (List Char × List Char) :=
  if (spelled text).1 = [] then none else some (spelled text)

/-- The text after a comment up to the end of its line. -/
def skipComment (text : List Char) : List Char :=
  if text.head? = some '#' then text.dropWhile (· != '\n') else text

/-- The text after the end of a line, which may follow blanks and a comment. -/
def endOfLine? (text : List Char) : Option (List Char) :=
  match skipComment (skipSpaces text) with
  | [] => some []
  | '\n' :: rest => some rest
  | _ => none

/-- What was read of a line that has to end here, and where the rest of the text is looked for:
when the line goes on, that is the next line. -/
def ended {α : Type} (a : α) (text : List Char) : Option α × List Char :=
  match endOfLine? text with
  | some rest => (some a, rest)
  | none => (none, nextLine text)

/-- The value of the name that stands before a text, if it has one, and the rest of the text;
nothing when the line does not fit. -/
def setting (text : List Char) : Option (Option (List Char)) × List Char :=
  match skipSpaces text with
  | '=' :: rest =>
    match value? rest with
    | some (value, rest) => ended (some value) rest
    | none => (none, nextLine rest)
  | rest => ended none rest

/-- The variable that a line sets, and the rest of the text. -/
def line (text : List Char) : Option Entry × List Char :=
  let start := skipExport text
  match name? start with
  | none => (none, nextLine start)
  | some (name, rest) =>
    let (value, rest) := setting rest
    (value.map fun value => (String.ofList name, value.map String.ofList), rest)

theorem length_skipSpaces_le (text : List Char) : (skipSpaces text).length ≤ text.length :=
  (List.dropWhile_sublist _).length_le

theorem length_nextLine_le (text : List Char) : (nextLine text).length ≤ text.length - 1 := by
  have h : (text.dropWhile (· != '\n')).length ≤ text.length :=
    (List.dropWhile_sublist _).length_le
  simp only [nextLine, List.length_drop]
  omega

theorem length_skipExport_le (text : List Char) : (skipExport text).length ≤ text.length := by
  have h := length_skipSpaces_le (text.drop 6)
  rw [List.length_drop] at h
  unfold skipExport
  split <;> omega

theorem length_spelled (text : List Char) :
    (spelled text).1.length + (spelled text).2.length ≤ text.length := by
  unfold spelled
  split
  · next body =>
    dsimp only
    split
    · simp
    · next rest hd =>
      have h := congrArg List.length hd
      have hle : (body.takeWhile (· != '\x27')).length ≤ body.length :=
        (List.takeWhile_sublist _).length_le
      rw [List.length_drop, List.length_cons] at h
      simp only [List.length_cons]
      omega
  · exact Nat.le_of_eq (by rw [← List.length_append, List.takeWhile_append_dropWhile])

theorem length_of_name? {text name rest : List Char} (h : name? text = some (name, rest)) :
    rest.length < text.length := by
  unfold name? at h
  split at h
  · cases h
  · next visible =>
    have hp := List.length_pos_iff.2 visible
    have hs := length_spelled text
    rw [Option.some.inj h] at hp hs
    dsimp only at hp hs
    omega

theorem length_of_quoted? {delimiter : Char} {text value rest : List Char}
    (h : quoted? delimiter text = some (value, rest)) : rest.length ≤ text.length := by
  fun_induction quoted? delimiter text generalizing value with
  | case1 => cases h
  | case2 c text ih =>
    obtain ⟨⟨tail, remainder⟩, ht, h⟩ := Option.map_eq_some_iff.1 h
    cases h
    have := ih ht
    simp only [List.length_cons]
    omega
  | case3 =>
    cases h
    exact Nat.le_succ _
  | case4 c text _ _ ih =>
    obtain ⟨⟨tail, remainder⟩, ht, h⟩ := Option.map_eq_some_iff.1 h
    cases h
    exact Nat.le_succ_of_le (ih ht)

theorem length_of_value? {text value rest : List Char} (h : value? text = some (value, rest)) :
    rest.length ≤ text.length := by
  have hle := length_skipSpaces_le text
  unfold value? at h
  split at h
  · next heq =>
    have hq := length_of_quoted? h
    rw [heq, List.length_cons] at hle
    omega
  · next heq =>
    have hq := length_of_quoted? h
    rw [heq, List.length_cons] at hle
    omega
  · cases h
    exact (List.dropWhile_sublist _).length_le

theorem length_skipComment_le (text : List Char) : (skipComment text).length ≤ text.length := by
  unfold skipComment
  split
  · exact (List.dropWhile_sublist _).length_le
  · exact Nat.le_refl _

theorem length_of_endOfLine? {text rest : List Char} (h : endOfLine? text = some rest) :
    rest.length ≤ text.length := by
  have hle := Nat.le_trans (length_skipComment_le (skipSpaces text)) (length_skipSpaces_le text)
  unfold endOfLine? at h
  split at h
  · cases h
    exact Nat.zero_le _
  · next heq =>
    cases h
    rw [heq, List.length_cons] at hle
    omega
  · cases h

theorem length_ended_le {α : Type} (a : α) (text : List Char) :
    (ended a text).2.length ≤ text.length := by
  have h := length_nextLine_le text
  unfold ended
  split
  · next rest hr => exact length_of_endOfLine? hr
  · dsimp only
    omega

theorem length_setting_le (text : List Char) : (setting text).2.length ≤ text.length := by
  have hle := length_skipSpaces_le text
  unfold setting
  split
  · next rest heq =>
    rw [heq, List.length_cons] at hle
    split
    · next value tail hv =>
      have hv := length_of_value? hv
      have he := length_ended_le (some value) tail
      omega
    · have hn := length_nextLine_le rest
      dsimp only
      omega
  · exact Nat.le_trans (length_ended_le ..) hle

/-- Every line takes something away from the text. -/
theorem length_line_lt {text : List Char} (h : text ≠ []) :
    (line text).2.length < text.length := by
  have hp := List.length_pos_iff.2 h
  have hx := length_skipExport_le text
  unfold line
  dsimp only
  split
  · have hn := length_nextLine_le (skipExport text)
    dsimp only
    omega
  · next name rest hr =>
    have hr := length_of_name? hr
    have hs := length_setting_le rest
    dsimp only
    omega

/-- The variables that a text sets, line after line. -/
def entries (text : List Char) : List Entry :=
  match h : text.dropWhile Text.isBlank with
  | [] => []
  | c :: rest =>
    let result := line (c :: rest)
    have : result.2.length < text.length :=
      Nat.lt_of_lt_of_le (length_line_lt (List.cons_ne_nil c rest))
        (h ▸ (List.dropWhile_sublist _).length_le)
    result.1.toList ++ entries result.2
termination_by text.length

end Toolbench.DotEnv
