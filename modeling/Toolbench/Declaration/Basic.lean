import Toolbench.Reader.Standard

/-! Declarations of tools. A declaration has a visible name and parameters with visible and
pairwise distinct names; the order of the parameters is the order in which a tool takes its
arguments. A draft is a declaration that has not been checked yet. -/

namespace Toolbench

/-- The reasons for which a declaration or a registration is refused. -/
inductive RegistrationError where
  | blankParameter
  | blankTool
  | repeatedParameter (tool parameter : String)
  | notCallable (tool : String)
  | alreadyRegistered (tool : String)
deriving DecidableEq, Repr

namespace RegistrationError

def message : RegistrationError → String
  | .blankParameter => "Parameter name must not be empty"
  | .blankTool => "Tool name must not be empty"
  | .repeatedParameter tool parameter =>
    "Tool '" ++ tool ++ "' declares parameter '" ++ parameter ++ "' more than once"
  | .notCallable tool => "Handler for tool '" ++ tool ++ "' is not callable"
  | .alreadyRegistered tool => "Tool '" ++ tool ++ "' is already registered"

def fault (error : RegistrationError) : Fault :=
  .message .rejectedRegistration error.message

end RegistrationError

/-- What a parameter shows of itself. -/
structure Parameter.Outline where
  name : String
  label : String
  usage : String
  required : Bool
deriving DecidableEq, Repr

/-- A parameter without a reader of its own is read by the reader that its label names. -/
structure Parameter.Draft extends Parameter.Outline where
  ownReader : Option Reader

structure Parameter extends Parameter.Draft where
  visible : Text.Visible name

namespace Parameter

def reader (p : Parameter) : Reader :=
  p.ownReader.getD (.ofLabel p.label)

def Draft.check (draft : Draft) : Except RegistrationError Parameter :=
  if visible : Text.Visible draft.name then .ok ⟨draft, visible⟩ else .error .blankParameter

end Parameter

/-- What a declaration shows of itself. -/
structure Declaration.Outline where
  name : String
  usage : String
  parameters : List Parameter.Outline
deriving DecidableEq, Repr

structure Declaration.Draft where
  name : String
  usage : String
  parameters : List Parameter.Draft

structure Declaration where
  name : String
  usage : String
  parameters : List Parameter
  visible : Text.Visible name
  distinct : (parameters.map (·.name)).Nodup

/-- The first of the names that has come before, among them or among those already seen. -/
def firstRepeated? (seen : List String) : List String → Option String
  | [] => none
  | name :: names => if name ∈ seen then some name else firstRepeated? (name :: seen) names

theorem firstRepeated?_eq_none_iff {seen names : List String} :
    firstRepeated? seen names = none ↔ names.Nodup ∧ ∀ name ∈ names, name ∉ seen := by
  induction names generalizing seen with
  | nil => simp [firstRepeated?]
  | cons name names ih =>
    by_cases h : name ∈ seen
    · simp [firstRepeated?, h]
    · simp only [firstRepeated?, h, if_false, ih, List.nodup_cons, List.mem_cons]
      grind

namespace Declaration

/-- Declares a tool with checked parameters. -/
def ofParameters (name usage : String) (parameters : List Parameter) :
    Except RegistrationError Declaration :=
  if visible : Text.Visible name then
    match repeated : firstRepeated? [] (parameters.map (·.name)) with
    | some parameter => .error (.repeatedParameter name parameter)
    | none =>
      .ok ⟨name, usage, parameters, visible, (firstRepeated?_eq_none_iff.1 repeated).1⟩
  else .error .blankTool

/-- Checks the parameters in their order, and then the tool. -/
def Draft.check (draft : Draft) : Except RegistrationError Declaration := do
  let parameters ← draft.parameters.mapM Parameter.Draft.check
  ofParameters draft.name draft.usage parameters

def outline (d : Declaration) : Outline :=
  ⟨d.name, d.usage, d.parameters.map (·.toOutline)⟩

/-- The number of arguments that the tool takes. -/
def arity (d : Declaration) : Nat :=
  d.parameters.length

/-- The names of the required parameters. -/
def requiredNames (d : Declaration) : List String :=
  (d.parameters.filter (·.required)).map (·.name)

/-- The name of the tool with the names and labels of its parameters. -/
def signature (d : Declaration) : String :=
  d.name ++ "(" ++ ", ".intercalate (d.parameters.map fun p => p.name ++ ": " ++ p.label) ++ ")"

/-- The three lines that describe a tool to a person. -/
def describe (d : Declaration) : String :=
  "\tName:  " ++ d.name ++ "\n\tUsage: " ++ d.usage ++ "\n\tFunc:  " ++ d.signature ++ "\n"

end Declaration

end Toolbench
