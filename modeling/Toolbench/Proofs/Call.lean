import Toolbench.Bench.Call
import Toolbench.Proofs.Catalog
import Toolbench.Proofs.Reading
import Toolbench.Proofs.Value

/-! # The courses of a call

Past the checks of the name and of the number of arguments a call has two courses: the tool
returns a reply that has a text (`Returns`), or a fault comes up on the way (`Raises`), at one
of three places. `returns_or_raises` says that there is no third, and `Returns.apply` and
`Raises.apply` say what the call answers. Everything about calls is derived from these. -/

namespace Toolbench

/-! ## Replies that are waited for -/

/-- How a script comes to a reply or a fault in a call. Work that it puts off is waited for if the
mode allows it. -/
inductive Script.Obtains (answer : Answer) (tool : String) (script : Script .direct)
    (bench : Bench) : Mode → Except Fault Reply × Bench → Prop
  | fault {mode : Mode} {fault : Fault} {after : Bench} :
      script.run answer bench = (.error fault, after) →
      Obtains answer tool script bench mode (.error fault, after)
  | reply {mode : Mode} {reply : Reply} {after : Bench} :
      script.run answer bench = (.ok (.reply reply), after) →
      Obtains answer tool script bench mode (.ok reply, after)
  | unawaited {form : Deferral} {work : Script .awaited} {after : Bench} :
      script.run answer bench = (.ok (.pending form work), after) →
      Obtains answer tool script bench .direct (.error (.mustAwait tool), after)
  | workFault {form : Deferral} {work : Script .awaited} {between after : Bench} {fault : Fault} :
      script.run answer bench = (.ok (.pending form work), between) →
      work.run answer between = (.error fault, after) →
      Obtains answer tool script bench .awaited (.error (fault.ofWork form), after)
  | workReply {form : Deferral} {work : Script .awaited} {between after : Bench} {reply : Reply} :
      script.run answer bench = (.ok (.pending form work), between) →
      work.run answer between = (.ok (.reply reply), after) →
      Obtains answer tool script bench .awaited (.ok reply, after)

theorem Script.obtain_eq_iff {answer : Answer} {mode : Mode} {tool : String}
    {script : Script .direct} {bench : Bench} {outcome : Except Fault Reply × Bench} :
    script.obtain answer mode tool bench = outcome ↔
      script.Obtains answer tool bench mode outcome := by
  constructor
  · rintro rfl
    rw [obtain]
    split
    next hr => exact .fault hr
    next hr => exact .reply hr
    next hr =>
      cases mode with
      | direct => exact .unawaited hr
      | awaited =>
        simp only
        split
        next hw => exact .workReply hr hw
        next hw => exact .workFault hr hw
  · intro h
    cases h with
    | fault hr | reply hr | unawaited hr => rw [obtain, hr]
    | workFault hr hw | workReply hr hw => simp only [obtain, hr, hw]

/-! ## Observations -/

namespace Observation

variable {settings : Settings} {tool : String} {reply : Reply} {fallbacks : List String}
  {fault : Fault} {o : Observation}

theorem success_eq_ok_iff :
    success settings tool reply fallbacks = .ok o ↔ ∃ text, reply.text = .ok text ∧
      o = ⟨tool, .success, settings.preamble ++ "the tool '" ++ tool ++ "' returned: " ++ text ++
        warning settings fallbacks, reply, fallbacks, none⟩ := by
  rw [success]
  cases reply.text with
  | error => simp [Except.map]
  | ok text =>
    simp only [Except.map, Except.ok.injEq, exists_eq_left']
    exact eq_comm

theorem exists_success {text : String} (h : reply.text = .ok text) :
    ∃ o, success settings tool reply fallbacks = .ok o :=
  ⟨_, success_eq_ok_iff.mpr ⟨text, h, rfl⟩⟩

theorem success_eq_error_iff :
    success settings tool reply fallbacks = .error fault ↔ reply.text = .error fault := by
  rw [success]
  cases reply.text <;> simp [Except.map]

theorem failure_eq_ok_iff :
    failure settings tool fault fallbacks = .ok o ↔ ∃ text, fault.text? = some text ∧
      o = ⟨tool, .failure, settings.preamble ++ "Error using tool named '" ++ tool ++
        "'. The tool '" ++ tool ++ "' failed: " ++ (fault.kind.name ++ ": " ++ text),
        .data .null, fallbacks, some (fault.kind.name ++ ": " ++ text)⟩ := by
  simp only [failure, ← Fault.text_eq_ok_iff]
  cases fault.text with
  | error => simp [Except.map]
  | ok text =>
    simp only [Except.map, Except.ok.injEq, exists_eq_left']
    exact eq_comm

theorem exists_failure {text : String} (h : fault.text? = some text) :
    ∃ o, failure settings tool fault fallbacks = .ok o :=
  ⟨_, failure_eq_ok_iff.mpr ⟨text, h, rfl⟩⟩

theorem failure_eq_error_iff {reason : Fault} :
    failure settings tool fault fallbacks = .error reason ↔ fault.text = .error reason := by
  rw [failure]
  cases fault.text <;> simp [Except.map]

theorem outcome_of_success (h : success settings tool reply fallbacks = .ok o) :
    o.outcome = .success := by
  obtain ⟨_, _, rfl⟩ := success_eq_ok_iff.mp h
  rfl

theorem fallbacks_of_success (h : success settings tool reply fallbacks = .ok o) :
    o.fallbacks = fallbacks := by
  obtain ⟨_, _, rfl⟩ := success_eq_ok_iff.mp h
  rfl

theorem fallbacks_of_failure (h : failure settings tool fault fallbacks = .ok o) :
    o.fallbacks = fallbacks := by
  obtain ⟨_, _, rfl⟩ := failure_eq_ok_iff.mp h
  rfl

theorem tool_of_success (h : success settings tool reply fallbacks = .ok o) : o.tool = tool := by
  obtain ⟨_, _, rfl⟩ := success_eq_ok_iff.mp h
  rfl

theorem tool_of_failure (h : failure settings tool fault fallbacks = .ok o) : o.tool = tool := by
  obtain ⟨_, _, rfl⟩ := failure_eq_ok_iff.mp h
  rfl

theorem outcome_of_failure (h : failure settings tool fault fallbacks = .ok o) :
    o.outcome = .failure := by
  obtain ⟨_, _, rfl⟩ := failure_eq_ok_iff.mp h
  rfl

end Observation

namespace Bench

open Argument (Completes Stops events values)

/-! ## Faults that leave a call -/

theorem leaving_eq_self {fault : Fault} (h : fault.kind ≠ .exhausted) (mode : Mode) :
    fault.leaving mode = fault := by
  cases mode with
  | direct => rfl
  | awaited => exact if_neg h

theorem mapError_leaving_eq_self {result : Except Fault Observation}
    (h : ∀ fault, result = .error fault → fault.kind ≠ .exhausted) (mode : Mode) :
    result.mapError (·.leaving mode) = result := by
  cases result with
  | ok => rfl
  | error fault => exact congrArg Except.error (leaving_eq_self (h fault rfl) mode)

theorem kind_ne_exhausted_of_not_isException {fault : Fault}
    (h : fault.kind.isException = false) : fault.kind ≠ .exhausted := by
  intro he
  rw [he] at h
  cases h

/-! ## Faults that are captured -/

section
variable {bench : Bench} {mode : Mode} {tool : String} {fallbacks : List String} {fault : Fault}

theorem capture_of_not_isException (h : fault.kind.isException = false) :
    bench.capture mode tool fallbacks fault = (.error fault, bench) := by
  rw [capture, if_neg (by simp [h])]

theorem capture_of_isException (h : fault.kind.isException = true) :
    bench.capture mode tool fallbacks fault =
      ((Observation.failure bench.settings tool fault fallbacks).mapError (·.leaving mode),
        bench.record [.failed tool]) := by
  rw [capture, if_pos h]

/-- An exception with a text is reported. -/
theorem capture_of_failure {o : Observation} (h : fault.kind.isException = true)
    (ho : Observation.failure bench.settings tool fault fallbacks = .ok o) :
    bench.capture mode tool fallbacks fault = (.ok o, bench.record [.failed tool]) := by
  rw [capture_of_isException h, ho]
  rfl

/-- What leaves a call that captures a fault: the fault itself if it is no exception, and the
fault that comes up in the place of its text if it is one that has none. -/
theorem capture_fst_eq_error_iff {escaped : Fault} :
    (bench.capture mode tool fallbacks fault).1 = .error escaped ↔
      fault.kind.isException = false ∧ escaped = fault ∨
      fault.kind.isException = true ∧
        ∃ reason, fault.text = .error reason ∧ escaped = reason.leaving mode := by
  cases h : fault.kind.isException with
  | false => simpa [capture_of_not_isException h] using eq_comm
  | true =>
    rw [capture_of_isException h]
    cases ho : Observation.failure bench.settings tool fault fallbacks with
    | error reason =>
      have ht := Observation.failure_eq_error_iff.mp ho
      simpa [Except.mapError, ht] using eq_comm
    | ok o =>
      obtain ⟨text, ht, _⟩ := Observation.failure_eq_ok_iff.mp ho
      simp [Except.mapError, Fault.text_eq_ok_iff.mpr ht]

theorem capture_fst_eq_ok_iff {o : Observation} :
    (bench.capture mode tool fallbacks fault).1 = .ok o ↔ fault.kind.isException = true ∧
      Observation.failure bench.settings tool fault fallbacks = .ok o := by
  cases h : fault.kind.isException with
  | false => simp [capture_of_not_isException h]
  | true =>
    rw [capture_of_isException h]
    cases Observation.failure bench.settings tool fault fallbacks <;> simp [Except.mapError]

end

/-- A fault leaves an awaited call as it leaves a direct one, but for the mark of the end of a
sequence. -/
theorem capture_awaited (bench : Bench) (tool : String) (fallbacks : List String)
    (fault : Fault) :
    bench.capture .awaited tool fallbacks fault =
      ((bench.capture .direct tool fallbacks fault).1.mapError (·.leaving .awaited),
        (bench.capture .direct tool fallbacks fault).2) := by
  cases h : fault.kind.isException with
  | false =>
    rw [capture_of_not_isException h, capture_of_not_isException h, Except.mapError,
      leaving_eq_self (kind_ne_exhausted_of_not_isException h)]
  | true =>
    rw [capture_of_isException h, capture_of_isException h]
    cases Observation.failure bench.settings tool fault fallbacks <;> rfl

/-! ## The end of a call -/

section
variable {mode : Mode} {name : String} {fallbacks : List String}

/-- Ends a call with what came of the work of its tool. -/
def settle (mode : Mode) (name : String) (fallbacks : List String) :
    Except Fault Reply × Bench → Except Fault Observation × Bench
  | (.error fault, after) => after.capture mode name fallbacks fault
  | (.ok reply, after) => after.conclude mode name fallbacks reply

theorem record_nil (bench : Bench) : bench.record [] = bench := by
  simp only [record, List.append_nil]

theorem record_record (bench : Bench) (events events' : List Event) :
    (bench.record events).record events' = bench.record (events ++ events') := by
  simp only [record, List.append_assoc]

theorem capture_snd (bench : Bench) (mode : Mode) (name : String) (fallbacks : List String)
    (fault : Fault) :
    ∃ events, (bench.capture mode name fallbacks fault).2 = bench.record events := by
  cases h : fault.kind.isException with
  | false =>
    rw [capture_of_not_isException h]
    exact ⟨[], bench.record_nil.symm⟩
  | true =>
    rw [capture_of_isException h]
    exact ⟨_, rfl⟩

/-- The end of a call does nothing but log. -/
theorem settle_snd (mode : Mode) (name : String) (fallbacks : List String)
    (result : Except Fault Reply) (after : Bench) :
    ∃ events, (settle mode name fallbacks (result, after)).2 = after.record events := by
  cases result with
  | error fault => exact after.capture_snd mode name fallbacks fault
  | ok reply =>
    rw [settle, conclude]
    split
    next => exact ⟨[], after.record_nil.symm⟩
    next fault _ => exact after.capture_snd mode name fallbacks fault

section
variable (change : Bench → Bench) (bench : Bench)
  (hs : (change bench).settings = bench.settings)
  (hr : ∀ events, (change bench).record events = change (bench.record events))
include hs hr

theorem capture_map (mode : Mode) (name : String) (fallbacks : List String) (fault : Fault) :
    (change bench).capture mode name fallbacks fault =
      ((bench.capture mode name fallbacks fault).1,
        change (bench.capture mode name fallbacks fault).2) := by
  cases h : fault.kind.isException with
  | false => rw [capture_of_not_isException h, capture_of_not_isException h]
  | true => rw [capture_of_isException h, capture_of_isException h, hs, hr]

/-- What a change of a bench leaves alone, the end of a call does not see. -/
theorem settle_map (mode : Mode) (name : String) (fallbacks : List String)
    (result : Except Fault Reply) :
    settle mode name fallbacks (result, change bench) =
      ((settle mode name fallbacks (result, bench)).1,
        change (settle mode name fallbacks (result, bench)).2) := by
  cases result with
  | error fault => exact capture_map change bench hs hr mode name fallbacks fault
  | ok reply =>
    rw [settle, settle, conclude, conclude, hs]
    split
    next => rfl
    next fault _ => exact capture_map change bench hs hr mode name fallbacks fault

end

/-- The mode makes no difference to the end of a call but for the mark of the end of a
sequence. -/
theorem settle_awaited (name : String) (fallbacks : List String)
    (outcome : Except Fault Reply × Bench) :
    settle .awaited name fallbacks outcome =
      ((settle .direct name fallbacks outcome).1.mapError (·.leaving .awaited),
        (settle .direct name fallbacks outcome).2) := by
  obtain ⟨fault | reply, after⟩ := outcome
  · exact capture_awaited after name fallbacks fault
  · rw [settle, settle, conclude, conclude]
    split
    next => rfl
    next fault _ => exact capture_awaited after name fallbacks fault

/-- An observation at the end of a call tells of a reply or of a failure. -/
theorem observation_of_settle {result : Except Fault Reply} {after : Bench} {o : Observation}
    (h : (settle mode name fallbacks (result, after)).1 = .ok o) :
    (∃ reply, result = .ok reply ∧
      Observation.success after.settings name reply fallbacks = .ok o) ∨
    ∃ fault, Observation.failure after.settings name fault fallbacks = .ok o := by
  cases result with
  | error fault => exact .inr ⟨fault, (capture_fst_eq_ok_iff.mp h).2⟩
  | ok reply =>
    rw [settle, conclude] at h
    split at h
    next hs =>
      cases h
      exact .inl ⟨reply, rfl, hs⟩
    next fault _ => exact .inr ⟨fault, (capture_fst_eq_ok_iff.mp h).2⟩

theorem fallbacks_of_settle {outcome : Except Fault Reply × Bench} {o : Observation}
    (h : (settle mode name fallbacks outcome).1 = .ok o) : o.fallbacks = fallbacks := by
  rcases observation_of_settle h with ⟨_, _, hs⟩ | ⟨_, hf⟩
  · exact Observation.fallbacks_of_success hs
  · exact Observation.fallbacks_of_failure hf

theorem tool_of_settle {outcome : Except Fault Reply × Bench} {o : Observation}
    (h : (settle mode name fallbacks outcome).1 = .ok o) : o.tool = name := by
  rcases observation_of_settle h with ⟨_, _, hs⟩ | ⟨_, hf⟩
  · exact Observation.tool_of_success hs
  · exact Observation.tool_of_failure hf

end

/-! ## The two courses -/

variable {answer : Answer} {mode : Mode} {tool : Tool} {args : List Value} {bench : Bench}

/-- The names of the parameters that were given their fallback. -/
def fallbacksOf (tool : Tool) (readings : List (Argument × List Event)) : List String :=
  Argument.fallbackNames tool.declaration.parameters (readings.map (·.1))

/-- The work of a tool on the values it was given, in a bench that has logged the fallbacks. -/
def workOn (answer : Answer) (mode : Mode) (tool : Tool)
    (readings : List (Argument × List Event)) (bench : Bench) : Except Fault Reply × Bench :=
  (tool.handler (values readings)).obtain answer mode tool.name (bench.record (events readings))

theorem workOn_eq_iff {readings : List (Argument × List Event)}
    {outcome : Except Fault Reply × Bench} :
    workOn answer mode tool readings bench = outcome ↔
      (tool.handler (values readings)).Obtains answer tool.name (bench.record (events readings))
        mode outcome :=
  Script.obtain_eq_iff

/-- The tool reads all its arguments and returns a reply that has a text. -/
inductive Returns (answer : Answer) (mode : Mode) (tool : Tool) (args : List Value)
    (bench : Bench) : List String → Reply → String → Bench → Prop
  | intro {readings : List (Argument × List Event)} {reply : Reply} {text : String}
      {after : Bench} : Completes tool.declaration.parameters args readings →
      (tool.handler (values readings)).Obtains answer tool.name (bench.record (events readings))
        mode (.ok reply, after) → reply.text = .ok text →
      Returns answer mode tool args bench (fallbacksOf tool readings) reply text after

/-- A fault comes up while the arguments are read, while the tool works or is waited for, or
when the text of its reply is asked for. Only in the first case the fallbacks are not known. -/
inductive Raises (answer : Answer) (mode : Mode) (tool : Tool) (args : List Value)
    (bench : Bench) : List String → Fault → Bench → Prop
  | reading {i : Nat} {fault : Fault} {readings : List (Argument × List Event)} :
      Stops tool.declaration.parameters args i fault readings →
      Raises answer mode tool args bench [] fault (bench.record (events readings))
  | work {readings : List (Argument × List Event)} {fault : Fault} {after : Bench} :
      Completes tool.declaration.parameters args readings →
      (tool.handler (values readings)).Obtains answer tool.name (bench.record (events readings))
        mode (.error fault, after) →
      Raises answer mode tool args bench (fallbacksOf tool readings) fault after
  | text {readings : List (Argument × List Event)} {reply : Reply} {fault : Fault}
      {after : Bench} : Completes tool.declaration.parameters args readings →
      (tool.handler (values readings)).Obtains answer tool.name (bench.record (events readings))
        mode (.ok reply, after) → reply.text = .error fault →
      Raises answer mode tool args bench (fallbacksOf tool readings) fault after

theorem returns_or_raises (answer : Answer) (mode : Mode) (tool : Tool) (args : List Value)
    (bench : Bench) :
    (∃ fallbacks reply text after,
      Returns answer mode tool args bench fallbacks reply text after) ∨
    ∃ fallbacks fault after, Raises answer mode tool args bench fallbacks fault after := by
  rcases Argument.completes_or_stops tool.declaration.parameters args with
    ⟨readings, hread⟩ | ⟨i, fault, readings, hread⟩
  · rcases hwork : workOn answer mode tool readings bench with ⟨fault | reply, after⟩
    · exact .inr ⟨_, _, _, .work hread (workOn_eq_iff.mp hwork)⟩
    · cases ht : reply.text with
      | error fault => exact .inr ⟨_, _, _, .text hread (workOn_eq_iff.mp hwork) ht⟩
      | ok text => exact .inl ⟨_, _, _, _, .intro hread (workOn_eq_iff.mp hwork) ht⟩
  · exact .inr ⟨_, _, _, .reading hread⟩

theorem apply_of_completes {readings : List (Argument × List Event)}
    (h : Completes tool.declaration.parameters args readings) :
    bench.apply answer mode tool args =
      settle mode tool.name (fallbacksOf tool readings)
        (workOn answer mode tool readings bench) := by
  have hstart : (tool.handler ((readings.map (·.1)).map (·.value))).obtain answer mode tool.name
      (bench.record (events readings)) = workOn answer mode tool readings bench := by
    rw [List.map_map]
    rfl
  rcases hwork : workOn answer mode tool readings bench with ⟨fault | reply, after⟩ <;>
    simp only [apply, h.readAll, hstart, hwork, fallbacksOf, settle]

theorem apply_of_stops {i : Nat} {fault : Fault} {readings : List (Argument × List Event)}
    (h : Stops tool.declaration.parameters args i fault readings) :
    bench.apply answer mode tool args =
      (bench.record (events readings)).capture mode tool.name [] fault := by
  simp only [apply, h.readAll]

theorem Returns.apply {fallbacks : List String} {reply : Reply} {text : String} {after : Bench}
    (h : Returns answer mode tool args bench fallbacks reply text after) :
    ∃ o, Observation.success after.settings tool.name reply fallbacks = .ok o ∧
      bench.apply answer mode tool args = (.ok o, after) := by
  obtain ⟨hread, hwork, ht⟩ := h
  obtain ⟨o, ho⟩ := Observation.exists_success ht
  refine ⟨o, ho, ?_⟩
  simp only [apply_of_completes hread, workOn_eq_iff.mpr hwork, settle, conclude, ho]

theorem Raises.apply {fallbacks : List String} {fault : Fault} {after : Bench}
    (h : Raises answer mode tool args bench fallbacks fault after) :
    bench.apply answer mode tool args = after.capture mode tool.name fallbacks fault := by
  cases h with
  | reading hread => exact apply_of_stops hread
  | work hread hwork => rw [apply_of_completes hread, workOn_eq_iff.mpr hwork, settle]
  | text hread hwork ht =>
    simp only [apply_of_completes hread, workOn_eq_iff.mpr hwork, settle, conclude,
      Observation.success_eq_error_iff.mpr ht]

/-! ## Calls by name -/

variable {name : String}

/-- What comes of a name and arguments before any work is done. -/
theorem entry_cases (name : String) (args : List Value) (bench : Bench) :
    bench.catalog.find? name = none ∨ ∃ tool, bench.catalog.find? name = some tool ∧
      (args.length ≠ tool.declaration.arity ∨ args.length = tool.declaration.arity ∧
        ((∃ readings, Completes tool.declaration.parameters args readings) ∨
        ∃ i fault readings, Stops tool.declaration.parameters args i fault readings)) := by
  cases hf : bench.catalog.find? name with
  | none => exact .inl rfl
  | some tool =>
    refine .inr ⟨tool, rfl, ?_⟩
    by_cases hl : args.length = tool.declaration.arity
    · exact .inr ⟨hl, Argument.completes_or_stops tool.declaration.parameters args⟩
    · exact .inl hl

theorem callWith_of_find?_none (h : bench.catalog.find? name = none) :
    callWith answer mode name args bench =
      (.ok (.unknownTool bench.settings name), bench.record [.unknownTool name]) := by
  simp only [callWith, h]

theorem callWith_of_length_ne (hf : bench.catalog.find? name = some tool)
    (hl : args.length ≠ tool.declaration.arity) :
    callWith answer mode name args bench =
      (.ok (.wrongArity bench.settings name tool.declaration.arity args.length),
        bench.record [.wrongArity name args.length tool.declaration.arity]) := by
  simp only [callWith, hf, if_neg hl]

theorem callWith_of_length_eq (hf : bench.catalog.find? name = some tool)
    (hl : args.length = tool.declaration.arity) :
    callWith answer mode name args bench = bench.apply answer mode tool args := by
  simp only [callWith, hf, if_pos hl]

theorem callWith_of_stops {i : Nat} {fault : Fault} {readings : List (Argument × List Event)}
    (hf : bench.catalog.find? name = some tool) (hl : args.length = tool.declaration.arity)
    (h : Stops tool.declaration.parameters args i fault readings) :
    callWith answer mode name args bench =
      (bench.record (events readings)).capture mode name [] fault := by
  rw [callWith_of_length_eq hf hl, apply_of_stops h, Catalog.name_of_find? hf]

theorem callWith_of_raises {fallbacks : List String} {fault : Fault} {after : Bench}
    (hf : bench.catalog.find? name = some tool) (hl : args.length = tool.declaration.arity)
    (h : Raises answer mode tool args bench fallbacks fault after) :
    callWith answer mode name args bench = after.capture mode name fallbacks fault := by
  rw [callWith_of_length_eq hf hl, h.apply, Catalog.name_of_find? hf]

/-- A call that reads all its arguments tells of their fallbacks, however it goes on. -/
theorem fallbacks_of_completes {o : Observation} {readings : List (Argument × List Event)}
    (hf : bench.catalog.find? name = some tool) (hl : args.length = tool.declaration.arity)
    (hc : Completes tool.declaration.parameters args readings)
    (ho : (callWith answer mode name args bench).1 = .ok o) :
    o.fallbacks = fallbacksOf tool readings := by
  rw [callWith_of_length_eq hf hl, apply_of_completes hc] at ho
  exact fallbacks_of_settle ho

/-- A call that stops reading its arguments tells of none. -/
theorem fallbacks_of_stops {o : Observation} {i : Nat} {fault : Fault}
    {readings : List (Argument × List Event)} (hf : bench.catalog.find? name = some tool)
    (hl : args.length = tool.declaration.arity)
    (hs : Stops tool.declaration.parameters args i fault readings)
    (ho : (callWith answer mode name args bench).1 = .ok o) : o.fallbacks = [] := by
  rw [callWith_of_stops hf hl hs] at ho
  exact Observation.fallbacks_of_failure (capture_fst_eq_ok_iff.mp ho).2

theorem callWith_cases (answer : Answer) (mode : Mode) (name : String) (args : List Value)
    (bench : Bench) :
    (bench.catalog.find? name = none ∧ callWith answer mode name args bench =
      (.ok (.unknownTool bench.settings name), bench.record [.unknownTool name])) ∨
    ∃ tool, bench.catalog.find? name = some tool ∧
      ((args.length ≠ tool.declaration.arity ∧ callWith answer mode name args bench =
        (.ok (.wrongArity bench.settings name tool.declaration.arity args.length),
          bench.record [.wrongArity name args.length tool.declaration.arity])) ∨
      args.length = tool.declaration.arity ∧
        ((∃ fallbacks reply text after o,
          Returns answer mode tool args bench fallbacks reply text after ∧
          Observation.success after.settings name reply fallbacks = .ok o ∧
          callWith answer mode name args bench = (.ok o, after)) ∨
        ∃ fallbacks fault after, Raises answer mode tool args bench fallbacks fault after ∧
          callWith answer mode name args bench = after.capture mode name fallbacks fault)) := by
  cases hf : bench.catalog.find? name with
  | none => exact .inl ⟨rfl, callWith_of_find?_none hf⟩
  | some tool =>
    refine .inr ⟨tool, rfl, ?_⟩
    by_cases hl : args.length = tool.declaration.arity
    · refine .inr ⟨hl, ?_⟩
      rw [callWith_of_length_eq hf hl, ← Catalog.name_of_find? hf]
      rcases returns_or_raises answer mode tool args bench with
        ⟨fallbacks, reply, text, after, h⟩ | ⟨fallbacks, fault, after, h⟩
      · obtain ⟨o, ho, happly⟩ := h.apply
        exact .inl ⟨fallbacks, reply, text, after, o, h, ho, happly⟩
      · exact .inr ⟨fallbacks, fault, after, h, h.apply⟩
    · exact .inl ⟨hl, callWith_of_length_ne hf hl⟩

/-- The outcome of an observation tells the course of the call. -/
theorem outcome_cases {o : Observation}
    (h : (callWith answer mode name args bench).1 = .ok o) :
    (o.outcome = .unknownTool ∧ bench.catalog.find? name = none) ∨
    ∃ tool, bench.catalog.find? name = some tool ∧
      ((o.outcome = .wrongArity ∧ args.length ≠ tool.declaration.arity) ∨
      args.length = tool.declaration.arity ∧
        ((o.outcome = .success ∧ ∃ fallbacks reply text after,
          Returns answer mode tool args bench fallbacks reply text after) ∨
        (o.outcome = .failure ∧ ∃ fallbacks fault after,
          Raises answer mode tool args bench fallbacks fault after ∧
          fault.kind.isException = true ∧ fault.text? ≠ none))) := by
  rcases callWith_cases answer mode name args bench with ⟨hf, hc⟩ | ⟨tool, hf,
    ⟨hl, hc⟩ | ⟨hl, ⟨_, _, _, _, _, hr, hs, hc⟩ | ⟨fallbacks, fault, after, hr, hc⟩⟩⟩ <;>
    rw [hc] at h
  · cases h
    exact .inl ⟨rfl, hf⟩
  · cases h
    exact .inr ⟨tool, hf, .inl ⟨rfl, hl⟩⟩
  · cases h
    exact .inr ⟨tool, hf, .inr ⟨hl, .inl ⟨Observation.outcome_of_success hs, _, _, _, _, hr⟩⟩⟩
  · obtain ⟨he, ho⟩ := capture_fst_eq_ok_iff.mp h
    refine .inr ⟨tool, hf, .inr ⟨hl, .inr ⟨Observation.outcome_of_failure ho,
      fallbacks, fault, after, hr, he, ?_⟩⟩⟩
    obtain ⟨_, ht, _⟩ := Observation.failure_eq_ok_iff.mp ho
    rw [ht]
    exact Option.some_ne_none _

theorem callWith_unknownTool_iff :
    (∃ o, (callWith answer mode name args bench).1 = .ok o ∧ o.outcome = .unknownTool) ↔
      name ∉ bench.catalog.names := by
  rw [← Catalog.find?_eq_none_iff]
  constructor
  · intro h
    obtain ⟨o, hc, ho⟩ := h
    rcases outcome_cases hc with ⟨_, hf⟩ | ⟨_, _, ⟨hw, _⟩ | ⟨_, ⟨hw, _⟩ | ⟨hw, _⟩⟩⟩
    · exact hf
    all_goals
      rw [hw] at ho
      cases ho
  · intro hf
    exact ⟨_, by rw [callWith_of_find?_none hf], rfl⟩

theorem callWith_wrongArity_iff :
    (∃ o, (callWith answer mode name args bench).1 = .ok o ∧ o.outcome = .wrongArity) ↔
      ∃ tool, bench.catalog.find? name = some tool ∧
        args.length ≠ tool.declaration.arity := by
  constructor
  · intro h
    obtain ⟨o, hc, ho⟩ := h
    rcases outcome_cases hc with ⟨hw, _⟩ | ⟨tool, hf, ⟨_, hl⟩ | ⟨_, ⟨hw, _⟩ | ⟨hw, _⟩⟩⟩
    case inr.inl => exact ⟨tool, hf, hl⟩
    all_goals
      rw [hw] at ho
      cases ho
  · intro h
    obtain ⟨tool, hf, hl⟩ := h
    exact ⟨_, by rw [callWith_of_length_ne hf hl], rfl⟩

theorem callWith_success_iff :
    (∃ o, (callWith answer mode name args bench).1 = .ok o ∧ o.outcome = .success) ↔
      ∃ tool fallbacks reply text after, bench.catalog.find? name = some tool ∧
        args.length = tool.declaration.arity ∧
        Returns answer mode tool args bench fallbacks reply text after := by
  constructor
  · intro h
    obtain ⟨o, hc, ho⟩ := h
    rcases outcome_cases hc with ⟨hw, _⟩ | ⟨tool, hf, ⟨hw, _⟩ |
      ⟨hl, ⟨_, fallbacks, reply, text, after, h⟩ | ⟨hw, _⟩⟩⟩
    case inr.inr.inl => exact ⟨tool, fallbacks, reply, text, after, hf, hl, h⟩
    all_goals
      rw [hw] at ho
      cases ho
  · intro h
    obtain ⟨tool, fallbacks, reply, text, after, hf, hl, h⟩ := h
    obtain ⟨o, ho, happly⟩ := h.apply
    exact ⟨o, by rw [callWith_of_length_eq hf hl, happly], Observation.outcome_of_success ho⟩

theorem callWith_failure_iff :
    (∃ o, (callWith answer mode name args bench).1 = .ok o ∧ o.outcome = .failure) ↔
      ∃ tool fallbacks fault after, bench.catalog.find? name = some tool ∧
        args.length = tool.declaration.arity ∧
        Raises answer mode tool args bench fallbacks fault after ∧
        fault.kind.isException = true ∧ fault.text? ≠ none := by
  constructor
  · intro h
    obtain ⟨o, hc, ho⟩ := h
    rcases outcome_cases hc with ⟨hw, _⟩ | ⟨tool, hf, ⟨hw, _⟩ | ⟨hl, ⟨hw, _⟩ |
      ⟨_, fallbacks, fault, after, h, he, ht⟩⟩⟩
    case inr.inr.inr => exact ⟨tool, fallbacks, fault, after, hf, hl, h, he, ht⟩
    all_goals
      rw [hw] at ho
      cases ho
  · intro h
    obtain ⟨tool, fallbacks, fault, after, hf, hl, h, he, ht⟩ := h
    obtain ⟨text, ht⟩ := Option.ne_none_iff_exists'.mp ht
    obtain ⟨o, ho⟩ : ∃ o, Observation.failure after.settings name fault fallbacks = .ok o :=
      Observation.exists_failure ht
    refine ⟨o, ?_, Observation.outcome_of_failure ho⟩
    rw [callWith_of_raises hf hl h]
    exact capture_fst_eq_ok_iff.mpr ⟨he, ho⟩

/-- A fault goes on to the caller if it is no exception, or has no text to be reported by. -/
theorem callWith_fst_eq_error_iff {escaped : Fault} :
    (callWith answer mode name args bench).1 = .error escaped ↔
      ∃ tool fallbacks fault after, bench.catalog.find? name = some tool ∧
        args.length = tool.declaration.arity ∧
        Raises answer mode tool args bench fallbacks fault after ∧
        (fault.kind.isException = false ∧ escaped = fault ∨
          fault.kind.isException = true ∧
            ∃ reason, fault.text = .error reason ∧ escaped = reason.leaving mode) := by
  constructor
  · intro hc
    rcases callWith_cases answer mode name args bench with ⟨_, h⟩ | ⟨tool, hf, ⟨_, h⟩ |
      ⟨hl, ⟨_, _, _, _, _, _, _, h⟩ | ⟨fallbacks, fault, after, hr, h⟩⟩⟩ <;> rw [h] at hc
    · cases hc
    · cases hc
    · cases hc
    · exact ⟨tool, fallbacks, fault, after, hf, hl, hr, capture_fst_eq_error_iff.mp hc⟩
  · intro h
    obtain ⟨tool, fallbacks, fault, after, hf, hl, h, he⟩ := h
    rw [callWith_of_raises hf hl h]
    exact capture_fst_eq_error_iff.mpr he

/-! ## Another tool in its place -/

/-- The bench with a tool put into its catalog, in the place of the one of its name. -/
def put (bench : Bench) (tool : Tool) : Bench :=
  { bench with catalog := bench.catalog.insert tool }

theorem find?_put (h : tool.name = name) : (bench.put tool).catalog.find? name = some tool := by
  rw [← h]
  exact bench.catalog.find?_insert_self tool

/-- A bench that was empty before one tool was registered on it. -/
def holding (tool : Tool) : Bench :=
  ((start {} none).put tool).record [.registered tool.declaration.signature]

theorem register_holding (tool : Tool) :
    (start {} none).register tool.declaration (some tool.handler) = .ok (holding tool) := rfl

theorem find?_holding (tool : Tool) : (holding tool).catalog.find? tool.name = some tool :=
  find?_put rfl

theorem visible_t : Text.Visible "t" := by decide

/-- A tool without parameters. -/
def nullary (handler : Handler) : Tool where
  declaration :=
    { name := "t"
      usage := ""
      parameters := []
      visible := visible_t
      distinct := List.nodup_nil }
  handler := handler

theorem nullary_completes (handler : Handler) :
    Completes (nullary handler).declaration.parameters [] [] := .nil

theorem find?_nullary (handler : Handler) :
    (holding (nullary handler)).catalog.find? "t" = some (nullary handler) :=
  find?_holding (nullary handler)

end Bench
end Toolbench
