/-! The log. An event is what happened; its message is the text of its record, and every record
has a level and comes from one of two parts of the library. -/

namespace Toolbench

inductive Level where
  | info | warning | error
deriving DecidableEq, Repr

inductive Origin where
  | reading | catalog
deriving DecidableEq, Repr

inductive Event where
  /-- The fallback took the place of an argument; both are given in their quoted text. -/
  | defaulted (parameter label raw fallback : String)
  | registered (signature : String)
  | replaced (tool : String)
  | removed (tool : String)
  | unknownTool (tool : String)
  | wrongArity (tool : String) (given expected : Nat)
  | failed (tool : String)
deriving DecidableEq, Repr

namespace Event

def level : Event → Level
  | .registered _ | .removed _ => .info
  | .defaulted .. | .replaced _ | .unknownTool _ | .wrongArity .. => .warning
  | .failed _ => .error

def origin : Event → Origin
  | .defaulted .. => .reading
  | _ => .catalog

def message : Event → String
  | .defaulted parameter label raw fallback =>
    "Argument '" ++ parameter ++ "' could not be parsed as " ++ label ++ " (got " ++ raw ++
      "); using default " ++ fallback
  | .registered signature => "Registered tool: " ++ signature
  | .replaced tool => "Replacing registered tool: " ++ tool
  | .removed tool => "Unregistered tool: " ++ tool
  | .unknownTool tool => "Call to unknown tool '" ++ tool ++ "'"
  | .wrongArity tool given expected =>
    "Tool '" ++ tool ++ "' called with " ++ toString given ++ " arguments, expected " ++
      toString expected
  | .failed tool => "Tool '" ++ tool ++ "' execution failed"

end Event

end Toolbench
