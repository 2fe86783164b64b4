import Toolbench.Proofs.Call
import Toolbench.Stock.Handlers

/-! # What escapes from a call

A tool that raises nothing but exceptions is still not always answered for. The report of a
failure shows the text of the fault, and a fault may be mute: then the fault that comes up in the
place of the text takes the place of the report too, and goes on to the caller
(`call_answers_iff`). A fault that carries an integer beyond the digit limit is mute. -/

namespace Toolbench

theorem Fault.isException_ofWork (fault : Fault) (form : Deferral) :
    (fault.ofWork form).kind.isException = fault.kind.isException := by
  rw [Fault.ofWork]
  split
  next h =>
    rw [h]
    rfl
  next => rfl

/-- The texts of a value are there, or only exceptions keep them from being made. -/
def Value.FailsByExceptions (value : Value) : Prop :=
  ∀ fault, value.text = .error fault ∨ value.quoted = .error fault → fault.kind.isException = true

theorem Value.IsData.failsByExceptions {value : Value} (h : value.IsData) :
    value.FailsByExceptions := by
  rintro fault (ht | hq)
  · obtain ⟨_, rfl⟩ := (Value.text_eq_error_iff h).mp ht
    rfl
  · obtain ⟨_, rfl⟩ := (Value.quoted_eq_error_iff h).mp hq
    rfl

namespace Bench

open Argument (Completes Stops events values)

/-- In this call the readers of a tool, its handler, the work it puts off and the text of its
reply raise nothing but exceptions, and so do the objects among the arguments and fallbacks. -/
structure OnlyExceptions (answer : Answer) (mode : Mode) (tool : Tool) (args : List Value)
    (bench : Bench) : Prop where
  given : ∀ arg ∈ args, arg.FailsByExceptions
  parse : ∀ p ∈ tool.declaration.parameters, ∀ text fault,
    p.reader.parse text = .error fault → fault.kind.isException = true
  fallback : ∀ p ∈ tool.declaration.parameters, ∀ fault,
    p.reader.fallback = .error fault → fault.kind.isException = true
  fallback_shown : ∀ p ∈ tool.declaration.parameters, ∀ value,
    p.reader.fallback = .ok value → value.FailsByExceptions
  handler : ∀ readings, Completes tool.declaration.parameters args readings → ∀ fault after,
    (tool.handler (values readings)).run answer (bench.record (events readings)) =
      (.error fault, after) → fault.kind.isException = true
  work : mode = .awaited → ∀ readings, Completes tool.declaration.parameters args readings →
    ∀ form work between, (tool.handler (values readings)).run answer
      (bench.record (events readings)) = (.ok (.pending form work), between) →
    ∀ fault after, work.run answer between = (.error fault, after) →
      fault.kind.isException = true
  text : ∀ readings, Completes tool.declaration.parameters args readings → ∀ reply after,
    (tool.handler (values readings)).Obtains answer tool.name (bench.record (events readings))
      mode (.ok reply, after) → ∀ fault,
        reply.text = .error fault → fault.kind.isException = true

section
variable {answer : Answer} {mode : Mode} {tool : Tool} {args : List Value} {bench after : Bench}
  {fallbacks : List String} {fault : Fault} {readings : List (Argument × List Event)}

theorem OnlyExceptions.of_stops (h : OnlyExceptions answer mode tool args bench) {i : Nat}
    (hs : Stops tool.declaration.parameters args i fault readings) :
    fault.kind.isException = true := by
  obtain ⟨p, raw, hp, hraw, hr⟩ := hs.here
  have hm : p ∈ tool.declaration.parameters := List.mem_of_getElem? hp
  have hraw : raw.FailsByExceptions := h.given raw (List.mem_of_getElem? hraw)
  rcases Parameter.read_eq_error_iff.mp hr with hr | ⟨argument, hread, hn⟩
  · rcases Reader.read_eq_error_iff.mp hr with ht | ⟨text, _, ⟨hparse, _⟩ | ⟨_, _, _, hf⟩⟩
    · exact hraw fault (.inl ht)
    · exact h.parse p hm text fault hparse
    · exact h.fallback p hm fault hf
  · obtain ⟨hdefaulted, hq | ⟨_, _, hq⟩⟩ := Parameter.notices_eq_error_iff.mp hn
    · exact hraw fault (.inr hq)
    · have hfallback := Reader.fallback_of_defaulted hread hdefaulted
      exact h.fallback_shown p hm argument.value hfallback fault (.inr hq)

theorem OnlyExceptions.of_obtains (h : OnlyExceptions answer mode tool args bench)
    (hc : Completes tool.declaration.parameters args readings)
    (hw : (tool.handler (values readings)).Obtains answer tool.name
      (bench.record (events readings)) mode (.error fault, after)) :
    fault.kind.isException = true := by
  cases hw with
  | fault hr => exact h.handler readings hc fault after hr
  | unawaited => rfl
  | @workFault form work between _ raised hr hwork =>
    rw [Fault.isException_ofWork]
    exact h.work rfl readings hc form work between hr raised after hwork

/-- Then every fault that comes up is an exception. -/
theorem OnlyExceptions.of_raises (h : OnlyExceptions answer mode tool args bench)
    (hr : Raises answer mode tool args bench fallbacks fault after) :
    fault.kind.isException = true := by
  cases hr with
  | reading hs => exact h.of_stops hs
  | work hc hw => exact h.of_obtains hc hw
  | text hc hw ht => exact h.text _ hc _ _ hw fault ht

end

/-- What becomes of the faults in the call of a tool that raises only exceptions. -/
structure Answering (depth : Nat) (mode : Mode) (name : String) (args : List Value)
    (bench : Bench) : Prop where
  /-- The call is answered exactly if every fault that comes up in it has a text. -/
  answers_iff : (∃ o, (call depth mode name args bench).1 = .ok o) ↔
    ∀ tool fallbacks fault after, bench.catalog.find? name = some tool →
      args.length = tool.declaration.parameters.length →
      Raises (answerUpTo depth) mode tool args bench fallbacks fault after →
        ∃ text, fault.text = .ok text
  /-- What escapes from it is what comes up in the place of such a text. -/
  escapes_iff : ∀ escaped, (call depth mode name args bench).1 = .error escaped ↔
    ∃ tool fallbacks fault after, bench.catalog.find? name = some tool ∧
      args.length = tool.declaration.parameters.length ∧
      Raises (answerUpTo depth) mode tool args bench fallbacks fault after ∧
      ∃ reason, fault.text = .error reason ∧ escaped = reason.leaving mode
  /-- A fault that carries a value has the text of the value, and a missing key its quoted form. -/
  carrying : ∀ kind value, (Fault.carrying kind value).text =
    if kind = .missingKey then value.quoted else value.text
  /-- So a fault that carries plain data is mute exactly if the data is oversized, and then the
  fault of the digit limit comes up. -/
  carrying_data : ∀ kind value reason, value.IsData →
    ((Fault.carrying kind value).text = .error reason ↔ value.Oversized ∧ reason = .digitLimit)
  /-- Plain data among the arguments and the fallbacks raises nothing but exceptions. -/
  data : ∀ value : Value, value.IsData → value.FailsByExceptions

/-- **What escapes from a call.** The call of a tool that raises only exceptions is answered exactly
if no mute fault comes up in it, and else the fault in the place of its text escapes. -/
theorem call_answers_iff (depth : Nat) (mode : Mode) (name : String) (args : List Value)
    (bench : Bench) (h : ∀ tool, bench.catalog.find? name = some tool →
      OnlyExceptions (answerUpTo depth) mode tool args bench) :
    Answering depth mode name args bench where
  answers_iff := by
    constructor
    · rintro ⟨o, ho⟩ tool fallbacks fault after hf hl hr
      rw [call, callWith_of_raises hf hl hr] at ho
      obtain ⟨_, hfail⟩ := capture_fst_eq_ok_iff.mp ho
      obtain ⟨text, ht, _⟩ := Observation.failure_eq_ok_iff.mp hfail
      exact ⟨text, Fault.text_eq_ok_iff.mpr ht⟩
    · intro hall
      rcases callWith_cases (answerUpTo depth) mode name args bench with ⟨_, hc⟩ | ⟨tool, hf,
        ⟨_, hc⟩ | ⟨hl, ⟨_, _, _, _, o, _, _, hc⟩ | ⟨fallbacks, fault, after, hr, hc⟩⟩⟩ <;>
        rw [call, hc]
      · exact ⟨_, rfl⟩
      · exact ⟨_, rfl⟩
      · exact ⟨o, rfl⟩
      · obtain ⟨text, ht⟩ := hall tool fallbacks fault after hf hl hr
        obtain ⟨o, ho⟩ : ∃ o, Observation.failure after.settings name fault fallbacks = .ok o :=
          Observation.exists_failure (Fault.text_eq_ok_iff.mp ht)
        exact ⟨o, capture_fst_eq_ok_iff.mpr ⟨(h tool hf).of_raises hr, ho⟩⟩
  escapes_iff escaped := by
    refine callWith_fst_eq_error_iff.trans ?_
    constructor
    · rintro ⟨tool, fallbacks, fault, after, hf, hl, hr, ⟨hn, _⟩ | ⟨_, reason, ht, he⟩⟩
      · rw [(h tool hf).of_raises hr] at hn
        cases hn
      · exact ⟨tool, fallbacks, fault, after, hf, hl, hr, reason, ht, he⟩
    · rintro ⟨tool, fallbacks, fault, after, hf, hl, hr, ht⟩
      exact ⟨tool, fallbacks, fault, after, hf, hl, hr, .inr ⟨(h tool hf).of_raises hr, ht⟩⟩
  carrying := Fault.text_carrying
  carrying_data _ _ _ := Fault.text_carrying_eq_error_iff
  data _ := Value.IsData.failsByExceptions

/-! ## A call that is not answered -/

/-- A tool that fails with a value. -/
def failingWith (value : Value) : Tool :=
  nullary (Stock.fail (.carrying .badValue value))

section
variable (answer : Answer) (mode : Mode) (value : Value) (bench : Bench)

theorem isException_carrying : (Fault.carrying .badValue value).kind.isException = true := by
  rw [Fault.carrying, Fault.kind_ofText]
  rfl

theorem failingWith_run (values : List Value) :
    ((failingWith value).handler values).run answer bench =
      (.error (.carrying .badValue value), bench.deliver values) := rfl

theorem failingWith_raises : Raises answer mode (failingWith value) [] bench []
    (.carrying .badValue value) ((bench.record []).deliver []) :=
  .work (nullary_completes _) (.fault (failingWith_run answer value _ _))

theorem failingWith_onlyExceptions : OnlyExceptions answer mode (failingWith value) [] bench where
  given := nofun
  parse := nofun
  fallback := nofun
  fallback_shown := nofun
  handler readings _ fault after hr := by
    rw [failingWith_run] at hr
    cases hr
    exact isException_carrying value
  work _ readings _ form work between hr := by
    rw [failingWith_run] at hr
    cases hr
  text readings _ reply after hw := by
    have hobtain := Script.obtain_eq_iff.mpr hw
    rw [Script.obtain, failingWith_run] at hobtain
    cases hobtain

end

/-- The least integer without a text. -/
def leastOversized : Value := .int Value.magnitudeBound

theorem leastOversized_oversized : leastOversized.Oversized :=
  .int (Nat.le_of_eq (Int.natAbs_natCast _).symm)

/-- The integer is never written out: that it has no text is a matter of its size alone. -/
theorem carrying_leastOversized :
    (Fault.carrying .badValue leastOversized).text = .error .digitLimit :=
  (Fault.text_carrying_eq_error_iff (.int _)).mpr ⟨leastOversized_oversized, rfl⟩

/-- An empty bench on which a tool is registered that fails with the least such integer. -/
def failingBench : Bench := holding (failingWith leastOversized)

theorem find?_failingBench :
    failingBench.catalog.find? "t" = some (failingWith leastOversized) :=
  find?_nullary _

theorem call_failingBench_escapes :
    (Bench.start {} none).register (failingWith leastOversized).declaration
        (some (failingWith leastOversized).handler) = .ok failingBench ∧
      failingBench.catalog.find? "t" = some (failingWith leastOversized) ∧
      ∀ mode, OnlyExceptions (answerUpTo 0) mode (failingWith leastOversized) [] failingBench ∧
        (call 0 mode "t" [] failingBench).1 = .error .digitLimit := by
  refine ⟨register_holding _, find?_failingBench,
    fun mode => ⟨failingWith_onlyExceptions .., ?_⟩⟩
  rw [call, callWith_of_raises find?_failingBench rfl (failingWith_raises (answerUpTo 0) mode _ _)]
  refine capture_fst_eq_error_iff.mpr
    (.inr ⟨isException_carrying _, .digitLimit, carrying_leastOversized, ?_⟩)
  cases mode <;> rfl

theorem call_answers_iff_failingBench :
    (∀ tool, failingBench.catalog.find? "t" = some tool →
      OnlyExceptions (answerUpTo 0) .direct tool [] failingBench) ∧
    ¬ ∃ o, (call 0 .direct "t" [] failingBench).1 = .ok o := by
  have hexceptions : ∀ tool, failingBench.catalog.find? "t" = some tool →
      OnlyExceptions (answerUpTo 0) .direct tool [] failingBench := fun tool ht => by
    rw [find?_failingBench] at ht
    cases ht
    exact failingWith_onlyExceptions ..
  have h := call_answers_iff 0 .direct "t" [] failingBench hexceptions
  refine ⟨hexceptions, fun ho => ?_⟩
  obtain ⟨text, ht⟩ := h.answers_iff.mp ho _ _ _ _ find?_failingBench rfl
    (failingWith_raises (answerUpTo 0) .direct _ _)
  rw [carrying_leastOversized] at ht
  cases ht

end Bench
end Toolbench
