import Toolbench.Settings.Basic
import Toolbench.Settings.DotEnv.Assignment
import Toolbench.Text.LetterCase
import Toolbench.Value.Basic

/-! Where settings come from. A setting that the caller gives comes before one in the
environment, that before one in a file of variables, and that before the default; a source that
has a setting hides the later ones even when it is empty. Names may be written in small and
capital letters. What is wrong with the values is told for all settings at once. -/

namespace Toolbench.Settings

/-- The settings by their public names. -/
inductive Key where
  | strictRegistration | preamble | reportFallbacks | logLevel
deriving DecidableEq, Repr

def Key.name : Key → String
  | .strictRegistration => "strict_registration"
  | .preamble => "observation_prefix"
  | .reportFallbacks => "report_fallbacks"
  | .logLevel => "log_level"

/-- All settings, in the order in which their problems are told. -/
def Key.all : List Key :=
  [.strictRegistration, .preamble, .reportFallbacks, .logLevel]

/-- What can be wrong with the value of a setting. -/
inductive Problem where
  | boolParsing | boolType | stringType
deriving DecidableEq, Repr

def Problem.name : Problem → String
  | .boolParsing => "bool_parsing"
  | .boolType => "bool_type"
  | .stringType => "string_type"

structure Sources where
  given : List (String × Value) := []
  environment : List (String × String) := []
  file : Option String := none

/-- What the names of variables for settings begin with. -/
def scope : String := "functool_"

/-- A name in small letters; of the characters beyond ASCII only the Kelvin sign has an ASCII
letter as its small form. -/
def smallName (name : String) : String :=
  String.ofList (name.toList.map fun c => if c = '\u212a' then 'k' else c.toLower)

/-- The last entry for a name, which may be written in small and capital letters. -/
def lastFor? {α : Type} (entries : List (String × α)) (name : String) : Option α :=
  (entries.reverse.find? fun entry => smallName entry.1 = name).map (·.2)

/-- The value of a setting from the first source that has it. -/
def Sources.find? (sources : Sources) (key : Key) : Option Value :=
  let inFile := (sources.file.map (DotEnv.assignments sources.environment)).getD []
  lastFor? sources.given key.name
    <|> (lastFor? sources.environment (scope ++ key.name)).map .str
    <|> (lastFor? inFile (scope ++ key.name)).join.map .str

def trueWords : List String := ["1", "on", "t", "true", "y", "yes"]

def falseWords : List String := ["0", "off", "f", "false", "n", "no"]

/-- A whole number as a truth value. -/
def truthOfInt (n : Int) : Except Problem Bool :=
  if n = 0 then .ok false
  else if n = 1 then .ok true
  else .error .boolParsing

/-- A value as a truth value. Numbers that are not whole, or that need more than 64 bits, do not
count as one. -/
def truth : Value → Except Problem Bool
  | .bool b => .ok b
  | .str s =>
    if Text.isKeyword trueWords s.toList then .ok true
    else if Text.isKeyword falseWords s.toList then .ok false
    else .error .boolParsing
  | .int n => if -Int.pow 2 63 ≤ n ∧ n < Int.pow 2 63 then truthOfInt n else .error .boolType
  | .float x =>
    match x.units? with
    | none => .error .boolType
    | some units =>
      let n := units / Binary64.unitsInOne
      if n * Binary64.unitsInOne = units ∧ -Int.pow 2 63 < n ∧ n < Int.pow 2 63 then
        truthOfInt n
      else .error .boolType
  | _ => .error .boolType

def string : Value → Except Problem String
  | .str s => .ok s
  | _ => .error .stringType

/-- One setting: its value in the sources, or the default. -/
def Sources.read {α : Type} (sources : Sources) (key : Key) (convert : Value → Except Problem α)
    (default : α) : Except Problem α :=
  match sources.find? key with
  | none => .ok default
  | some value => convert value

/-- The problem of a setting, with its name. -/
def problem {α : Type} (key : Key) : Except Problem α → List (Key × Problem)
  | .ok _ => []
  | .error problem => [(key, problem)]

/-- The settings that the sources give, or all that is wrong with them in the order of the
settings. -/
def load (sources : Sources) : Except (List (Key × Problem)) Settings :=
  let default : Settings := {}
  let strict := sources.read .strictRegistration truth default.strictRegistration
  let preamble := sources.read .preamble string default.preamble
  let report := sources.read .reportFallbacks truth default.reportFallbacks
  let level := sources.read .logLevel string default.logLevel
  match strict, preamble, report, level with
  | .ok strict, .ok preamble, .ok report, .ok level => .ok ⟨strict, preamble, report, level⟩
  | strict, preamble, report, level =>
    .error (problem .strictRegistration strict ++ problem .preamble preamble ++
      problem .reportFallbacks report ++ problem .logLevel level)

end Toolbench.Settings
