import Toolbench.Script
import Toolbench.Stock.Positional
import Toolbench.Value.Arithmetic

/-! Handlers to build tools from: constants, arithmetic, failures of every kind, work on the
catalog, calls of other tools, and work that has to be waited for. Each notes the arguments that
it was started with. -/

namespace Toolbench

namespace Script

def ofExcept {mode : Mode} : Except Fault Reply → Script mode
  | .ok reply => .finish reply
  | .error fault => .fail fault

/-- Replies with the observation of a nested call. -/
def ofCall {mode : Mode} : Except Fault Observation → Script mode
  | .ok observation => .finish observation.toReply
  | .error fault => .fail fault

/-- A script as awaited work. Work that it puts off is not started, and is replied as such. -/
def asWork : {mode : Mode} → Script mode → Script .awaited
  | .direct, .finish reply => .finish reply
  | .direct, .fail fault => .fail fault
  | .direct, .postpone form _ => .finish form.reply
  | .direct, .deliver values next => .deliver values next.asWork
  | .direct, .register declaration handler next =>
    .register declaration handler fun answer => (next answer).asWork
  | .direct, .remove tool next => .remove tool fun answer => (next answer).asWork
  | .direct, .list next => .list fun answer => (next answer).asWork
  | .direct, .call tool values next => .call tool values fun answer => (next answer).asWork
  | .awaited, script => script

end Script

namespace Stock

/-- A handler that works out its reply from its arguments alone. -/
def pure (reply : List Value → Except Fault Reply) : Handler := fun values =>
  .deliver values (.ofExcept (reply values))

/-- The argument at a position; there may be none. -/
def argument (values : List Value) (position : Nat) : Except Fault Value :=
  (values[position]?.map Except.ok).getD (.error (.message .badIndex "tuple index out of range"))

def const (value : Value) : Handler := pure fun _ => .ok (.data value)

def first : Handler := pure fun values => (argument values 0).map .data

def list : Handler := pure fun values => .ok (.data (.list values))

def tuple : Handler := pure fun values => .ok (.data (.tuple values))

/-- The texts of the arguments between bars. -/
def join : Handler := pure fun values =>
  (values.mapM Value.text).map fun texts => .data (.str ("|".intercalate texts))

def len : Handler := pure fun values => do
  let n ← (← argument values 0).length
  return .data (.int n)

def sum : Handler := pure fun values => (Value.sum values).map .data

/-- A handler that combines its first two arguments. -/
def binary (combine : Value → Value → Except Fault Value) : Handler := pure fun values => do
  let result ← combine (← argument values 0) (← argument values 1)
  return .data result

def mul : Handler := binary Value.mul

def div : Handler := binary Value.div

def fail (fault : Fault) : Handler := pure fun _ => .error fault

/-- Fails with its first argument as the detail. -/
def failWithFirst : Handler := pure fun values =>
  (argument values 0).bind fun value => .error (.carrying .badValue value)

/-- Replies with an object of the given type and text. -/
def object (typeName : String) (text : Except Fault String) : Handler :=
  pure fun _ => .ok (.object typeName text)

/-- The text of an object that gives no text when asked for one. -/
def noText : Except Fault String :=
  .error (.message .badType "__str__ returned non-string (type int)")

/-- Registers a tool. -/
def install (draft : Declaration.Draft) (handler : Option Handler) : Handler := fun values =>
  .deliver values <|
    match draft.check, handler with
    | .error error, _ => .fail error.fault
    | .ok declaration, none => .fail (RegistrationError.notCallable declaration.name).fault
    | .ok declaration, some handler =>
      .register declaration handler fun
        | none => .finish (.data (.str "installed"))
        | some error => .fail error.fault

/-- Removes a tool, and replies whether there was one of that name. -/
def uninstall (tool : String) : Handler := fun values =>
  .deliver values (.remove tool fun removed => .finish (.data (.bool removed)))

def names : Handler := fun values =>
  .deliver values (.list fun names => .finish (.data (.list (names.map .str))))

/-- Hands its arguments on to another tool, and replies with the observation. -/
def forward (tool : String) : Handler := fun values =>
  .deliver values (.call tool values .ofCall)

/-- The same, waiting for the other tool. -/
def forwardAwaited (tool : String) : Handler := fun values =>
  .postpone .coroutine (.deliver values (.await tool values .ofCall))

/-- Lets the others take a turn and then goes on as another handler. -/
def later (form : Deferral) (handler : Handler) : Handler := fun values =>
  .postpone form (.pause (handler values).asWork (.fail .cancelled))

/-- A value in the place of a handler; to start it is a fault. -/
def notCallable (value : Value) : Handler := fun _ =>
  .fail (.message .badType ("'" ++ value.typeName ++ "' object is not callable"))

/-- Waits for its cancellation. -/
def forever : Handler := fun values =>
  .postpone .coroutine (.deliver values (.park (.fail .cancelled)))

/-- Waits for its cancellation, and then replies all the same. -/
def stubborn : Handler := fun values =>
  .postpone .coroutine (.deliver values (.park (.finish (.data (.str "swallowed")))))

end Stock

end Toolbench
