import Toolbench.Proofs.Modes
import Toolbench.Proofs.Run

/-! # Tools that work apart from the catalog

A handler that neither looks at the catalog nor changes it, and calls no tool, works apart. What
a call of such a tool answers, what it logs and what its handler is started with depend on the
tool that its name finds, on the arguments and on the settings alone (`callWith_local`). The call
adds to the log and to the notes, and leaves the rest of the bench as it was. -/

namespace Toolbench

/-- A script that leaves the catalog alone, as does the work that it puts off. -/
def Script.Apart : {mode : Mode} → Script mode → Prop
  | _, .finish _ | _, .fail _ => True
  | _, .postpone _ work => work.Apart
  | _, .deliver _ next => next.Apart
  | _, .register .. | _, .remove .. | _, .list .. | _, .call .. | _, .await .. => False
  | _, .pause next cancelled => next.Apart ∧ cancelled.Apart
  | _, .park cancelled => cancelled.Apart

def Ending.Apart : {mode : Mode} → Ending mode → Prop
  | _, .reply _ => True
  | _, .pending _ work => work.Apart

/-- A handler that works apart on all arguments. -/
def Handler.Apart (handler : Handler) : Prop := ∀ values, (handler values).Apart

theorem Stock.pure_apart (reply : List Value → Except Fault Reply) :
    (Stock.pure reply).Apart := by
  intro values
  change (Script.ofExcept (reply values) : Script .direct).Apart
  cases reply values <;> trivial

/-- What is added to a bench, and the turns that are left on it. -/
structure Imprint where
  events : List Event
  notes : List (List Value)
  turns : Option Nat

namespace Imprint

def on (imprint : Imprint) (bench : Bench) : Bench :=
  { bench with
    log := bench.log ++ imprint.events
    deliveries := bench.deliveries ++ imprint.notes
    cancelAfter := imprint.turns }

/-- One imprint after another. -/
def append (first second : Imprint) : Imprint :=
  ⟨first.events ++ second.events, first.notes ++ second.notes, second.turns⟩

theorem on_append (first second : Imprint) (bench : Bench) :
    (first.append second).on bench = second.on (first.on bench) := by
  simp only [on, append, List.append_assoc]

theorem on_turns (turns : Option Nat) (bench : Bench) :
    (Imprint.mk [] [] turns).on bench = { bench with cancelAfter := turns } := by
  simp only [on, List.append_nil]

theorem on_deliver (values : List Value) (bench : Bench) :
    (Imprint.mk [] [values] bench.cancelAfter).on bench = bench.deliver values := by
  simp only [on, List.append_nil, Bench.deliver]

theorem on_record (events : List Event) (bench : Bench) :
    (Imprint.mk events [] bench.cancelAfter).on bench = bench.record events := by
  simp only [on, List.append_nil, Bench.record]

end Imprint

/-- A script that works apart does the same on all benches that have the same turns left. -/
theorem Script.Apart.run {mode : Mode} {script : Script mode} (h : script.Apart)
    (turns : Option Nat) : ∃ (result : Except Fault (Ending mode)) (imprint : Imprint),
      (∀ ending, result = .ok ending → ending.Apart) ∧
      ∀ answer bench, bench.cancelAfter = turns →
        script.run answer bench = (result, imprint.on bench) := by
  induction script generalizing turns with
  | finish reply =>
    refine ⟨.ok (.reply reply), ⟨[], [], turns⟩, ?_, ?_⟩
    · rintro _ ⟨⟩
      trivial
    · rintro answer bench rfl
      rw [Imprint.on_turns]
      rfl
  | fail fault =>
    refine ⟨.error fault, ⟨[], [], turns⟩, nofun, ?_⟩
    rintro answer bench rfl
    rw [Imprint.on_turns]
    rfl
  | postpone form work =>
    refine ⟨.ok (.pending form work), ⟨[], [], turns⟩, ?_, ?_⟩
    · rintro _ ⟨⟩
      exact h
    · rintro answer bench rfl
      rw [Imprint.on_turns]
      rfl
  | deliver values next ih =>
    obtain ⟨result, imprint, hending, hrun⟩ := ih h turns
    refine ⟨result, .append ⟨[], [values], turns⟩ imprint, hending, ?_⟩
    rintro answer bench rfl
    rw [Script.run, Imprint.on_append, Imprint.on_deliver]
    exact hrun answer _ rfl
  | register | remove | list | call | await => exact h.elim
  | pause next cancelled ih ih' =>
    cases turns with
    | none =>
      obtain ⟨result, imprint, hending, hrun⟩ := ih h.1 none
      refine ⟨result, imprint, hending, fun answer bench hb => ?_⟩
      rw [Script.run, hb]
      exact hrun answer bench hb
    | some turns =>
      cases turns with
      | zero =>
        obtain ⟨result, imprint, hending, hrun⟩ := ih' h.2 none
        refine ⟨result, .append ⟨[], [], none⟩ imprint, hending, fun answer bench hb => ?_⟩
        rw [Script.run, hb, Imprint.on_append, Imprint.on_turns]
        exact hrun answer _ rfl
      | succ turns =>
        obtain ⟨result, imprint, hending, hrun⟩ := ih h.1 (some turns)
        refine ⟨result, .append ⟨[], [], some turns⟩ imprint, hending, fun answer bench hb => ?_⟩
        rw [Script.run, hb, Imprint.on_append, Imprint.on_turns]
        exact hrun answer _ rfl
  | park cancelled ih =>
    obtain ⟨result, imprint, hending, hrun⟩ := ih h none
    refine ⟨result, .append ⟨[], [], none⟩ imprint, hending, fun answer bench _ => ?_⟩
    rw [Script.run, Imprint.on_append, Imprint.on_turns]
    exact hrun answer _ rfl

theorem Script.Apart.obtain {script : Script .direct} (h : script.Apart) (mode : Mode)
    (tool : String) (turns : Option Nat) :
    ∃ (result : Except Fault Reply) (imprint : Imprint), ∀ answer bench,
      bench.cancelAfter = turns →
        script.obtain answer mode tool bench = (result, imprint.on bench) := by
  obtain ⟨result, imprint, hending, hrun⟩ := h.run turns
  simp only [Script.obtain_eq_iff]
  rcases result with fault | ⟨reply | ⟨form, work⟩⟩
  · exact ⟨.error fault, imprint, fun answer bench hb => .fault (hrun answer bench hb)⟩
  · exact ⟨.ok reply, imprint, fun answer bench hb => .reply (hrun answer bench hb)⟩
  · cases mode with
    | direct =>
      exact ⟨.error (.mustAwait tool), imprint, fun answer bench hb =>
        .unawaited (hrun answer bench hb)⟩
    | awaited =>
      have hwork : work.Apart := hending _ rfl
      obtain ⟨ended, later, _, hlater⟩ := hwork.run imprint.turns
      rcases ended with fault | ⟨⟨reply⟩⟩
      · refine ⟨.error (fault.ofWork form), imprint.append later, fun answer bench hb => ?_⟩
        rw [Imprint.on_append]
        exact .workFault (hrun answer bench hb) (hlater answer (imprint.on bench) rfl)
      · refine ⟨.ok reply, imprint.append later, fun answer bench hb => ?_⟩
        rw [Imprint.on_append]
        exact .workReply (hrun answer bench hb) (hlater answer (imprint.on bench) rfl)

namespace Bench

open Argument (values events)

/-- The end of a call answers and logs the same under the same settings. -/
theorem settle_local (settings : Settings) (mode : Mode) (name : String)
    (fallbacks : List String) (result : Except Fault Reply) :
    ∃ (answer : Except Fault Observation) (events : List Event),
      ∀ bench : Bench, bench.settings = settings →
        settle mode name fallbacks (result, bench) = (answer, bench.record events) := by
  have hcapture (fault : Fault) : ∃ (answer : Except Fault Observation) (events : List Event),
      ∀ bench : Bench, bench.settings = settings →
        bench.capture mode name fallbacks fault = (answer, bench.record events) := by
    cases hk : fault.kind.isException with
    | false =>
      refine ⟨.error fault, [], fun bench _ => ?_⟩
      rw [capture_of_not_isException hk, record_nil]
    | true =>
      refine ⟨(Observation.failure settings name fault fallbacks).mapError (·.leaving mode),
        [.failed name], ?_⟩
      rintro bench rfl
      rw [capture_of_isException hk]
  cases result with
  | error fault => exact hcapture fault
  | ok reply =>
    cases hs : Observation.success settings name reply fallbacks with
    | ok o =>
      refine ⟨.ok o, [], ?_⟩
      rintro bench rfl
      simp only [settle, conclude, hs, record_nil]
    | error fault =>
      obtain ⟨answer, events, hcaptured⟩ := hcapture fault
      refine ⟨answer, events, ?_⟩
      rintro bench rfl
      simp only [settle, conclude, hs, hcaptured bench rfl]

/-- A call of a name that finds nothing, or a tool that works apart, depends on what it finds, the
arguments and the settings. -/
theorem callWith_local {found : Option Tool} (h : ∀ tool, found = some tool → tool.handler.Apart)
    (settings : Settings) (turns : Option Nat) (mode : Mode) (name : String)
    (args : List Value) : ∃ (result : Except Fault Observation) (imprint : Imprint),
      ∀ answer bench, bench.catalog.find? name = found → bench.settings = settings →
        bench.cancelAfter = turns →
          callWith answer mode name args bench = (result, imprint.on bench) := by
  cases found with
  | none =>
    refine ⟨.ok (.unknownTool settings name), ⟨[.unknownTool name], [], turns⟩, ?_⟩
    rintro answer bench hf rfl rfl
    rw [callWith_of_find?_none hf, Imprint.on_record]
  | some tool =>
    by_cases hl : args.length = tool.declaration.arity
    · rcases Argument.completes_or_stops tool.declaration.parameters args with
        ⟨readings, hc⟩ | ⟨_, fault, readings, hs⟩
      · obtain ⟨result, imprint, hobtain⟩ := (h tool rfl (values readings)).obtain mode name turns
        obtain ⟨observed, ending, hsettle⟩ :=
          settle_local settings mode name (fallbacksOf tool readings) result
        refine ⟨observed, .append (.append ⟨events readings, [], turns⟩ imprint)
          ⟨ending, [], imprint.turns⟩, ?_⟩
        rintro answer bench hf rfl rfl
        rw [callWith_of_length_eq hf hl, apply_of_completes hc, workOn, Catalog.name_of_find? hf,
          hobtain answer (bench.record (events readings)) rfl,
          hsettle (imprint.on (bench.record (events readings))) rfl, Imprint.on_append,
          Imprint.on_append, Imprint.on_record]
        exact congrArg (Prod.mk observed) (Imprint.on_record ending _).symm
      · obtain ⟨observed, ending, hsettle⟩ := settle_local settings mode name [] (.error fault)
        refine ⟨observed, ⟨events readings ++ ending, [], turns⟩, ?_⟩
        rintro answer bench hf rfl rfl
        rw [callWith_of_stops hf hl hs, Imprint.on_record, ← record_record]
        exact hsettle _ rfl
    · refine ⟨.ok (.wrongArity settings name tool.declaration.arity args.length),
        ⟨[.wrongArity name args.length tool.declaration.arity], [], turns⟩, ?_⟩
      rintro answer bench hf rfl rfl
      rw [callWith_of_length_ne hf hl, Imprint.on_record]

end Bench

end Toolbench
