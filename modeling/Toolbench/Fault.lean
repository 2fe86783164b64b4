/-! Faults: what goes wrong while arguments are read and tools run. A fault has a kind and a text
that explains it; one that has no text has another fault in its place. An exception is a fault
that a call reports to its caller; the other faults stop the whole run and pass through every
call. -/

namespace Toolbench

/-- A kind of fault, by its public name. -/
structure FaultKind where
  name : String
  /-- Whether a call reports a fault of this kind instead of letting it through. -/
  isException : Bool
  /-- Whether a fault of this kind says that a text is not in a reader's language. -/
  isRejection : Bool
  isException_of_isRejection : isRejection = true → isException = true := by decide
deriving DecidableEq

namespace FaultKind

/-- A kind of rejections. -/
def rejection (name : String) : FaultKind where
  name := name
  isException := true
  isRejection := true

/-- A kind of exceptions that are no rejections. -/
def exceptional (name : String) : FaultKind where
  name := name
  isException := true
  isRejection := false

/-- A kind of faults that are no exceptions. -/
def stopping (name : String) : FaultKind where
  name := name
  isException := false
  isRejection := false

/-! The kinds that the library raises itself. Tools may come with others. -/

def badValue : FaultKind := rejection "ValueError"
def badType : FaultKind := rejection "TypeError"
def rejectedRegistration : FaultKind := rejection "ToolRegistrationError"
def missingKey : FaultKind := exceptional "KeyError"
def badIndex : FaultKind := exceptional "IndexError"
def runtime : FaultKind := exceptional "RuntimeError"
def zeroDivision : FaultKind := exceptional "ZeroDivisionError"
def overflow : FaultKind := exceptional "OverflowError"
def exhausted : FaultKind := exceptional "StopIteration"
def tooDeep : FaultKind := exceptional "RecursionError"
def outOfMemory : FaultKind := exceptional "MemoryError"
def cancelled : FaultKind := stopping "CancelledError"

end FaultKind

/-- A fault has a text, or it is mute: then another fault comes up where its text is asked for. -/
inductive Fault where
  | message (kind : FaultKind) (text : String)
  | mute (kind : FaultKind) (reason : Fault)

namespace Fault

def kind : Fault → FaultKind
  | .message kind _ | .mute kind _ => kind

def text : Fault → Except Fault String
  | .message _ text => .ok text
  | .mute _ reason => .error reason

def text? (fault : Fault) : Option String :=
  fault.text.toOption

/-- A fault of which nothing but its kind is told. -/
def bare (kind : FaultKind) : Fault :=
  .message kind ""

/-- The fault whose text is made in the given way. -/
def ofText (kind : FaultKind) : Except Fault String → Fault
  | .ok text => .message kind text
  | .error reason => .mute kind reason

/-- An integer beyond the digit limit was to be written. -/
def digitLimit : Fault :=
  .message .badValue ("Exceeds the limit (4300 digits) for integer string conversion; " ++
    "use sys.set_int_max_str_digits() to increase the limit")

/-- A numeral of so many digits, beyond the limit, was to be read as an integer. -/
def longNumeral (digits : Nat) : Fault :=
  .message .badValue ("Exceeds the limit (4300 digits) for integer string conversion: " ++
    "value has " ++ toString digits ++
    " digits; use sys.set_int_max_str_digits() to increase the limit")

/-- Calls are nested beyond the depth that the bench allows. -/
def tooDeep : Fault :=
  .message .tooDeep "maximum recursion depth exceeded"

/-- The task was cancelled while it waited. -/
def cancelled : Fault :=
  .bare .cancelled

end Fault

end Toolbench
