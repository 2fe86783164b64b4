import Toolbench.Settings.DotEnv.Line

/-! The variables of a file. A value may refer to other variables by `${NAME}`, and to a
substitute for one that is nowhere set by `${NAME:-substitute}`. Of two lines for one variable the
later counts, and a name without a value hides an earlier one. -/

namespace Toolbench.DotEnv

/-- Sets a variable: one that is known keeps its place. -/
def set (known : List Entry) (name : String) (value : Option String) : List Entry :=
  match known with
  | [] => [(name, value)]
  | entry :: rest =>
    if entry.1 = name then (name, value) :: rest else entry :: set rest name value

/-- The value of a variable: one of the file before one of the environment. A variable without
a value is empty. -/
def resolve (environment : List (String × String)) (known : List Entry) (name : String)
    (instead : String) : String :=
  match known.lookup name with
  | some value => value.getD ""
  | none => (environment.lookup name).getD instead

/-- The name and the substitute in a reference, after its opening brace, and the text after its
closing brace. -/
def reference? (text : List Char) : Option (String × String × List Char) :=
  let name := text.takeWhile fun c => c != '\x7d' && c != ':'
  match text.drop name.length with
  | '\x7d' :: rest => some (String.ofList name, "", rest)
  | ':' :: '-' :: rest =>
    let instead := rest.takeWhile (· != '\x7d')
    match rest.drop instead.length with
    | [] => none
    | _ :: rest => some (String.ofList name, String.ofList instead, rest)
  | _ => none

theorem length_of_reference? {text rest : List Char} {name instead : String}
    (h : reference? text = some (name, instead, rest)) : rest.length < text.length := by
  simp only [reference?] at h
  split at h
  · next hd =>
    cases h
    have := congrArg List.length hd
    simp at this
    omega
  · next hd =>
    split at h
    · cases h
    · next ht =>
      cases h
      have hd := congrArg List.length hd
      have ht := congrArg List.length ht
      simp at hd ht
      omega
  · cases h

/-- A value with the references to other variables replaced. -/
def expand (resolve : String → String → String) (text : List Char) : List Char :=
  match text with
  | [] => []
  | '$' :: '\x7b' :: body =>
    match h : reference? body with
    | some (name, instead, rest) =>
      have : rest.length < body.length := length_of_reference? h
      (resolve name instead).toList ++ expand resolve rest
    | none => '$' :: expand resolve ('\x7b' :: body)
  | c :: rest => c :: expand resolve rest
termination_by text.length

/-- A text without the byte order mark at its start. -/
def skipMark : List Char → List Char
  | '\ufeff' :: text => text
  | text => text

/-- The variables of a file, each once, with the value that was set last. -/
def assignments (environment : List (String × String)) (text : String) : List Entry :=
  (entries (unifyNewlines (skipMark text.toList))).foldl
    (fun known entry =>
      set known entry.1 (entry.2.map fun value =>
        String.ofList (expand (resolve environment known) value.toList)))
    []

end Toolbench.DotEnv
