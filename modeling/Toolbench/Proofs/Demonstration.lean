import Toolbench.Demo
import Toolbench.Proofs.Fallbacks
import Toolbench.Proofs.WholeNumerals

/-! # The tools of the demonstration

The demonstration has three tools of two parameters each. Under the settings that hold when nothing
else is said, a call with two texts reads both of them, whatever they are, and the tool replies; so
all that can go wrong is that the reply has no text (`pair_replies`). The name and the age of a
person always have one. The sum of two integers that were read may have one digit more than an
integer with a text can have, and then the call fails after the work is done (`bench_works`). -/

namespace Toolbench

/-! ## Calls with two arguments -/

namespace Bench

section
variable {bench : Bench} {mode : Mode} {name : String} {fallbacks : List String} {reply : Reply}

theorem conclude_of_success {o : Observation}
    (h : Observation.success bench.settings name reply fallbacks = .ok o) :
    (bench.conclude mode name fallbacks reply).1 = .ok o := by
  simp only [conclude, h]

theorem conclude_of_digitLimit {o : Observation} (h : reply.text = .error .digitLimit)
    (ho : Observation.failure bench.settings name .digitLimit fallbacks = .ok o) :
    (bench.conclude mode name fallbacks reply).1 = .ok o := by
  have hs : Observation.success bench.settings name reply fallbacks = .error .digitLimit :=
    Observation.success_eq_error_iff.mpr h
  simp only [conclude, hs]
  exact congrArg Prod.fst (capture_of_failure rfl ho)

end

section
variable (answer : Answer) (mode : Mode) {tool : Tool} {bench : Bench} {reply : Reply}

/-- A tool that replies at once leaves nothing to a call but to show its reply. -/
theorem callWith_of_finish {args : List Value} {readings : List (Argument × List Event)}
    (hf : bench.catalog.find? tool.name = some tool)
    (hl : args.length = tool.declaration.arity)
    (hread : Argument.Completes tool.declaration.parameters args readings)
    (hwork : tool.handler (Argument.values readings) = .finish reply) :
    callWith answer mode tool.name args bench =
      (bench.record (Argument.events readings)).conclude mode tool.name
        (fallbacksOf tool readings) reply := by
  have hreply : workOn answer mode tool readings bench =
      (.ok reply, bench.record (Argument.events readings)) := by
    rw [workOn, hwork]
    rfl
  rw [callWith_of_length_eq hf hl, apply_of_completes hread, hreply, settle]

theorem pair_replies {p q : Parameter} {first second : Value} {a b : Argument}
    {events events' : List Event} (hf : bench.catalog.find? tool.name = some tool)
    (hparameters : tool.declaration.parameters = [p, q]) (hp : p.read first = .ok (a, events))
    (hq : q.read second = .ok (b, events'))
    (hwork : tool.handler [a.value, b.value] = .finish reply) :
    ∃ after : Bench, after.settings = bench.settings ∧
      callWith answer mode tool.name [first, second] bench = after.conclude mode tool.name
        ((if a.defaulted then [p.name] else []) ++ if b.defaulted then [q.name] else []) reply := by
  have hl : [first, second].length = tool.declaration.arity := by
    rw [Declaration.arity, hparameters]
    rfl
  have hread : Argument.Completes tool.declaration.parameters [first, second]
      [(a, events), (b, events')] := by
    rw [hparameters]
    exact .cons hp (.cons hq .nil)
  have hfallbacks : fallbacksOf tool [(a, events), (b, events')] =
      (if a.defaulted then [p.name] else []) ++ if b.defaulted then [q.name] else [] := by
    have hnil : Argument.fallbackNames [] [] = [] := rfl
    simp only [fallbacksOf, hparameters, List.map_cons, List.map_nil, Argument.fallbackNames_cons,
      hnil, List.append_nil]
  refine ⟨bench.record (Argument.events [(a, events), (b, events')]), rfl, ?_⟩
  rw [callWith_of_finish answer mode hf hl hread hwork, hfallbacks]

end

end Bench

namespace Demo

open Bench (visible_a visible_b)

/-! ## Terms -/

/-- The integer that an argument stands for, and the names of the parameters that are told of as
replaced: an argument that is no integer stands for zero. -/
inductive Term (name text : String) : Int → List String → Prop
  | read {n : Int} : Reader.ReadsInteger text n → Term name text n []
  | replaced : Reader.integer.Rejects text → Term name text 0 [name]

/-- A parameter for integers reads every text, and to an integer within the digit limit. -/
theorem exists_term {p : Parameter} (hp : p.reader = .integer) (text : String) :
    ∃ n told argument events, Term p.name text n told ∧ n.natAbs < Value.magnitudeBound ∧
      p.read (.str text) = .ok (argument, events) ∧ argument.value = .int n ∧
      (if argument.defaulted then [p.name] else []) = told := by
  have hp : p.reader = Standard.integer.reader := hp
  cases hv : Standard.integer.value? text with
  | some value =>
    obtain ⟨n, rfl, hn⟩ : Standard.integer.Fits text value := Standard.fits_of_value? hv
    exact ⟨n, [], _, _, .read (Standard.read_of_value? hv), (Value.digits_within hn).1,
      Parameter.read_of_value? hp hv, rfl, rfl⟩
  | none =>
    obtain ⟨events, hread⟩ := Parameter.read_of_rejected hp hv
    exact ⟨0, [p.name], _, events, .replaced (Standard.rejects_iff.mpr hv),
      Value.magnitudeBound_pos, hread, rfl, rfl⟩

/-! ## The bench -/

/-- A parameter for integers, as it is after its check. -/
def integer (name : String) (visible : Text.Visible name) (required : Bool) : Parameter :=
  ⟨parameter name "integer" required, visible⟩

/-- The parameters of a sum. -/
def terms (required : Bool) : List Parameter :=
  [integer "a" visible_a required, integer "b" visible_b required]

theorem nodup_terms (required : Bool) : ((terms required).map (·.name)).Nodup := by
  have hnames : (terms required).map (·.name) = ["a", "b"] := rfl
  rw [hnames]
  decide

/-! The tools, as they are after their checks. -/

def foo : Tool where
  declaration :=
    ⟨"foo", "Adds together two numbers a + b", terms true, by decide, nodup_terms true⟩
  handler := quiet sum

def personTool : Tool where
  declaration := ⟨"makePerson", "",
    [⟨parameter "name" "string" true, by decide⟩, integer "age" (by decide) true], by decide,
    by decide⟩
  handler := quiet makePerson

def add : Tool where
  declaration := ⟨"add", "", terms false, by decide, nodup_terms false⟩
  handler := quiet sumOfUpToTwo

/-- The bench as it is before the first call. -/
def stocked : Bench where
  catalog := ⟨false, [foo, personTool, add], by decide⟩
  settings := {}
  log := [foo, personTool, add].map fun tool => .registered tool.declaration.signature
  deliveries := []
  cancelAfter := none

theorem bench_eq : bench {} = .ok stocked := rfl

theorem reader_integer (name : String) (visible : Text.Visible name) (required : Bool) :
    (integer name visible required).reader = .integer :=
  (Parameter.reader_eq rfl).trans Bench.ofLabel_integer

/-! ## Sums -/

/-- The error of a sum without a text. -/
def limitError : String :=
  "ValueError: Exceeds the limit (4300 digits) for integer string conversion; " ++
    "use sys.set_int_max_str_digits() to increase the limit"

/-- The observation of a reply that is shown by a text, with the names of the parameters whose
arguments were replaced. -/
def shown (tool text : String) (reply : Reply) (told : List String) : Observation :=
  ⟨tool, .success, "Observation: the tool '" ++ tool ++ "' returned: " ++ text ++
    Observation.warning {} told, reply, told, none⟩

/-- What a tool reports of a sum. -/
structure Sums (tool : String) (n : Int) (told : List String) (o : Observation) : Prop where
  within : n.natAbs < 10 ^ 4300 → o = shown tool (toString n) (.data (.int n)) told
  beyond : 10 ^ 4300 ≤ n.natAbs → o =
    ⟨tool, .failure, "Observation: Error using tool named '" ++ tool ++ "'. The tool '" ++ tool ++
      "' failed: " ++ limitError, .data .null, told, some limitError⟩

theorem magnitudeBound_eq : Value.magnitudeBound = 10 ^ 4300 := by
  have hlimit : Numeral.digitLimit = 4300 := rfl
  unfold Value.magnitudeBound
  rewrite [← hlimit]
  -- the bound itself is not to be computed
  generalize Numeral.digitLimit = limit
  rfl

variable {after : Bench} {mode : Mode} {tool : String} {told : List String} {n : Int}

theorem conclude_shown {reply : Reply} {text : String} (hs : after.settings = {})
    (ht : reply.text = .ok text) :
    (after.conclude mode tool told reply).1 = .ok (shown tool text reply told) := by
  refine Bench.conclude_of_success (Observation.success_eq_ok_iff.mpr ⟨text, ht, ?_⟩)
  have hopening : ({} : Settings).preamble ++ "the tool '" = "Observation: the tool '" := by decide
  rw [hs, hopening]
  rfl

/-- A sum is told by its decimal text, or else by the fault of having none. -/
theorem exists_sums (hs : after.settings = {}) (tool : String) (n : Int) (told : List String) :
    ∃ o, (after.conclude mode tool told (.data (.int n))).1 = .ok o ∧ Sums tool n told o := by
  rcases Nat.lt_or_ge n.natAbs (10 ^ 4300) with hlt | hge
  · have ht : (Reply.data (.int n)).text = .ok (toString n) :=
      Value.text_int (hlt.trans_eq magnitudeBound_eq.symm)
    exact ⟨_, conclude_shown hs ht, fun _ => rfl, fun hge => absurd hge (Nat.not_le_of_lt hlt)⟩
  · have ht : (Reply.data (.int n)).text = .error .digitLimit :=
      (Value.text_eq_error_iff (.int n)).mpr
        ⟨Value.oversized_int_iff.mpr (magnitudeBound_eq.trans_le hge), rfl⟩
    have hfailure : Observation.failure {} tool .digitLimit told = .ok ⟨tool, .failure,
        "Observation: Error using tool named '" ++ tool ++ "'. The tool '" ++ tool ++
          "' failed: " ++ limitError, .data .null, told, some limitError⟩ := by
      have hopening : ({} : Settings).preamble ++ "Error using tool named '" =
          "Observation: Error using tool named '" := by decide
      have herror : FaultKind.badValue.name ++ ": " ++
          ("Exceeds the limit (4300 digits) for integer string conversion; " ++
            "use sys.set_int_max_str_digits() to increase the limit") = limitError := by decide
      refine Observation.failure_eq_ok_iff.mpr ⟨_, rfl, ?_⟩
      rw [hopening, ← herror]
      rfl
    -- the reply is there, and the failure is that it cannot be shown
    exact ⟨_, Bench.conclude_of_digitLimit ht (hs.symm ▸ hfailure),
      fun hlt => absurd hge (Nat.not_le_of_lt hlt), fun _ => rfl⟩

/-- A tool of the bench whose two parameters are for integers and whose reply is their sum. -/
structure IsSum (tool : Tool) : Prop where
  found : stocked.catalog.find? tool.name = some tool
  parameters : ∃ required, tool.declaration.parameters = terms required
  handler : ∀ a b : Int, tool.handler [.int a, .int b] = .finish (.data (.int (a + b)))

/-- The answer of a tool to a call with two terms. -/
def AddsUp (bench : Bench) (tool : String) (depth : Nat) (mode : Mode) (first second : String) :
    Prop :=
  ∃ a b told told' o, Term "a" first a told ∧ Term "b" second b told' ∧
    (Bench.call depth mode tool [.str first, .str second] bench).1 = .ok o ∧
    Sums tool (a + b) (told ++ told') o

/-- What a tool that adds two integers answers to calls with texts. -/
structure Adds (bench : Bench) (tool : String) : Prop where
  wrongArity_iff : ∀ depth mode (args : List String),
    (∃ o, (Bench.call depth mode tool (args.map .str) bench).1 = .ok o ∧
      o.outcome = .wrongArity) ↔ args.length ≠ 2
  addsUp : ∀ depth mode first second, AddsUp bench tool depth mode first second

theorem IsSum.addsUp {tool : Tool} (h : IsSum tool) (depth : Nat) (mode : Mode)
    (first second : String) : AddsUp stocked tool.name depth mode first second := by
  obtain ⟨required, hparameters⟩ := h.parameters
  obtain ⟨a, told, argument, events, hterm, _, hread, hvalue, htold⟩ :=
    exists_term (reader_integer "a" visible_a required) first
  obtain ⟨b, told', argument', events', hterm', _, hread', hvalue', htold'⟩ :=
    exists_term (reader_integer "b" visible_b required) second
  have hwork : tool.handler [argument.value, argument'.value] =
      .finish (.data (.int (a + b))) := by
    rw [hvalue, hvalue', h.handler]
  obtain ⟨after, hsettings, hcall⟩ := Bench.pair_replies (Bench.answerUpTo depth) mode h.found
    hparameters hread hread' hwork
  rw [htold, htold'] at hcall
  obtain ⟨o, ho, hsums⟩ := exists_sums hsettings tool.name (a + b) (told ++ told')
  exact ⟨a, b, told, told', o, hterm, hterm', by rw [Bench.call, hcall, ho], hsums⟩

end Demo

end Toolbench
