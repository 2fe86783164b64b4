import Toolbench.Proofs.Apart
import Toolbench.Proofs.Declaration
import Toolbench.Proofs.Fallbacks
import Toolbench.Proofs.Stages

/-! # Steps that pass unseen

Steps that only look at the bench, and calls of tools that work apart, leave nothing behind that
a later step could see. In a session they may be left out, added and moved about: the entries of
all other steps and the catalog at the end stay the same (`calls_unseen`). A plan is a script in
which such steps are marked. -/

namespace Toolbench

/-- The bench with an empty log and without notes, as every step of a session finds it. -/
def Bench.cleared (bench : Bench) : Bench :=
  { bench with log := [], deliveries := [] }

namespace Session

/-- A step that leaves nothing behind but what it logs: it looks at the bench only, or calls a
tool that works apart. -/
def Step.Idle (bench : Bench) : Step → Prop
  | .find _ | .contains _ | .size | .functionSchemas | .toolSchemas | .describe | .summary
  | .isStrict => True
  | .call _ tool _ => ∀ found, bench.catalog.find? tool = some found → found.handler.Apart
  | .register .. | .remove _ | .callCancelled .. | .applyDirectly .. | .change _ | .setStrict _ =>
    False

/-- A script with a mark at some of its steps. -/
abbrev Plan := List (Step × Bool)

namespace Plan

def script (plan : Plan) : List Step :=
  plan.map (·.1)

/-- The steps without a mark. -/
def fixed (plan : Plan) : List Step :=
  (plan.filter (!·.2)).map (·.1)

/-- The entries of the steps without a mark, among those of all steps. -/
def fixedEntries (plan : Plan) (entries : List Entry) : List Entry :=
  ((plan.zip entries).filter (!·.1.2)).map (·.2)

/-- The marked steps are idle when they are taken. -/
def Idle : Plan → Bench → Prop
  | [], _ => True
  | (step, marked) :: rest, bench =>
    (marked = true → step.Idle bench) ∧ Idle rest (step.entry bench).2

end Plan

/-! ## Calls of tools that work apart -/

theorem callTool_local {found : Option Tool}
    (h : ∀ tool, found = some tool → tool.handler.Apart) (settings : Settings)
    (turns : Option Nat) (mode : Mode) (tool : String) (args : Arguments) :
    ∃ (result : Except Fault Observation) (imprint : Imprint), ∀ bench : Bench,
      bench.catalog.find? tool = found → bench.settings = settings →
        bench.cancelAfter = turns → callTool mode tool args bench = (result, imprint.on bench) := by
  cases ha : args.toList? with
  | some values =>
    obtain ⟨result, imprint, hcall⟩ := Bench.callWith_local h settings turns mode tool values
    refine ⟨result, imprint, fun bench hf hs ht => ?_⟩
    simp only [callTool, ha]
    exact hcall _ bench hf hs ht
  | none =>
    cases found with
    | none =>
      obtain ⟨result, imprint, hcall⟩ := Bench.callWith_local h settings turns mode tool []
      refine ⟨result, imprint, fun bench hf hs ht => ?_⟩
      simp only [callTool, ha, Catalog.contains, hf]
      exact hcall _ bench hf hs ht
    | some found =>
      refine ⟨.error (.message .badType "object of type 'NoneType' has no len()"),
        ⟨[], [], turns⟩, fun bench hf _ ht => ?_⟩
      subst ht
      simp only [callTool, ha, Catalog.contains, hf, Option.isSome_some, if_true, Imprint.on_turns]

/-! ## What the next step finds -/

/-- A step depends on nothing of a bench but what it is when it is cleared. -/
theorem Step.entry_congr (step : Step) {bench other : Bench} (h : bench.cleared = other.cleared) :
    step.entry bench = step.entry other := by
  have hrun : step.run { bench with log := [], deliveries := [] } =
      step.run { other with log := [], deliveries := [] } := congrArg step.run h
  simp only [Step.entry, hrun]

/-- No step leaves a cancellation set. -/
theorem Step.uncancelled (step : Step) {bench : Bench} (h : bench.cancelAfter = none) :
    (step.entry bench).2.cancelAfter = none := by
  change (step.run bench.cleared).2.cancelAfter = none
  have h : bench.cleared.cancelAfter = none := h
  cases step with
  | register draft handler returned =>
    rw [Step.run]
    split
    next => exact h
    next hr => exact kept_uncancelled.register_draft hr h
  | remove tool => exact kept_uncancelled.remove _ tool h
  | call mode tool args => exact kept_uncancelled.callTool mode tool args _ h
  | callCancelled tool args => rfl
  | applyDirectly name args =>
    rw [Step.run]
    split
    next => exact h
    next tool _ => exact kept_uncancelled.applyTool tool args _ h
  | change | setStrict | find | contains | size | functionSchemas | toolSchemas | describe
  | summary | isStrict => exact h

theorem Step.Idle.cleared {step : Step} {bench : Bench} (h : step.Idle bench)
    (hc : bench.cancelAfter = none) : (step.entry bench).2.cleared = bench.cleared := by
  have hnone : (step.entry bench).2.cancelAfter = none := step.uncancelled hc
  cases step with
  | call mode tool args =>
    obtain ⟨result, imprint, hcall⟩ :=
      callTool_local (fun found hf => h found hf) bench.settings none mode tool args
    have hentry : ((Step.call mode tool args).entry bench).2 = imprint.on bench.cleared :=
      congrArg Prod.snd (hcall bench.cleared rfl rfl hc)
    have hturns : imprint.turns = bench.cancelAfter := by
      rw [hentry] at hnone
      exact hnone.trans hc.symm
    rw [hentry, Imprint.on, hturns]
    rfl
  | find | contains | size | functionSchemas | toolSchemas | describe | summary | isStrict => rfl
  | register | remove | callCancelled | applyDirectly | change | setStrict => exact h.elim

theorem Setup.uncancelled (settings : Settings) (setup : Setup) :
    (setup.run settings).2.cancelAfter = none := by
  obtain ⟨_, h⟩ := kept_uncancelled.setup settings setup
  exact h rfl

/-! ## Plans -/

/-- The bench after all steps of a script. -/
def last (script : List Step) (bench : Bench) : Bench :=
  script.foldl (fun bench step => (step.entry bench).2) bench

theorem getLast?_following (script : List Step) (bench : Bench) :
    (bench :: following script bench).getLast? = some (last script bench) := by
  induction script generalizing bench with
  | nil => rfl
  | cons step rest ih => exact List.getLast?_cons_cons.trans (ih (step.entry bench).2)

/-- Without the marked steps of a plan the other steps find the same, and so does who looks at
the bench at the end. -/
theorem Plan.Idle.fixed {plan : Plan} {bench other : Bench} (h : plan.Idle bench)
    (hc : bench.cancelAfter = none) (he : bench.cleared = other.cleared) :
    plan.fixedEntries (steps plan.script bench) = steps plan.fixed other ∧
      (last plan.script bench).cleared = (last plan.fixed other).cleared := by
  induction plan generalizing bench other with
  | nil => exact ⟨rfl, he⟩
  | cons item plan ih =>
    obtain ⟨step, marked⟩ := item
    obtain ⟨hidle, hrest⟩ := h
    have hnone := step.uncancelled hc
    cases marked with
    | true =>
      -- the step is not among the fixed ones, and clearing the bench leaves no trace of it
      have hcleared := (hidle rfl).cleared hc
      exact ih hrest hnone (hcleared.trans he)
    | false =>
      have hentry := step.entry_congr he
      obtain ⟨hentries, hlast⟩ := ih hrest hnone (congrArg (fun e => e.2.cleared) hentry)
      have hhead : (step.entry bench).1 = (step.entry other).1 := congrArg Prod.fst hentry
      exact ⟨congrArg₂ List.cons hhead hentries, hlast⟩

/-- The bench that a step of a script finds makes its entry. -/
theorem steps_getElem? {script : List Step} {bench found : Bench} {i : Nat} {step : Step}
    (hs : script[i]? = some step) (hb : (bench :: following script bench)[i]? = some found) :
    (steps script bench)[i]? = some (step.entry found).1 := by
  induction script generalizing bench i with
  | nil => cases hs
  | cons first rest ih =>
    cases i with
    | zero =>
      cases hs
      cases hb
      rfl
    | succ i => exact ih hs hb

theorem uncancelled_of_getElem? {script : List Step} {bench found : Bench} {i : Nat}
    (hc : bench.cancelAfter = none) (hb : (bench :: following script bench)[i]? = some found) :
    found.cancelAfter = none := by
  induction script generalizing bench i with
  | nil =>
    cases i with
    | zero =>
      cases hb
      exact hc
    | succ i => cases hb
  | cons first rest ih =>
    cases i with
    | zero =>
      cases hb
      exact hc
    | succ i => exact ih (first.uncancelled hc) hb

theorem Plan.Idle.of_getElem? {plan : Plan} {bench found : Bench} {i : Nat} {step : Step}
    (h : plan.Idle bench) (hp : plan[i]? = some (step, true))
    (hb : (bench :: following plan.script bench)[i]? = some found) : step.Idle found := by
  induction plan generalizing bench i with
  | nil => cases hp
  | cons item plan ih =>
    cases i with
    | zero =>
      cases hp
      cases hb
      exact h.1 rfl
    | succ i => exact ih h.2 hp hb

theorem Plan.script_getElem? {plan : Plan} {i : Nat} {step : Step} {marked : Bool}
    (h : plan[i]? = some (step, marked)) : plan.script[i]? = some step := by
  rw [Plan.script, List.getElem?_map, h, Option.map_some]

/-- The marked steps of a plan are idle when they are taken after a setup. -/
def Plan.IdleAfter (settings : Settings) (setup : Setup) (plan : Plan) : Prop :=
  ∀ bench, setup.run settings = (.ok (), bench) → plan.Idle bench

/-- What two plans with the same fixed steps show of them, and of the calls that were moved. -/
structure Unseen (settings : Settings) (setup : Setup) (plan other : Plan) : Prop where
  setup_eq : (run settings setup plan.script).head? = (run settings setup other.script).head?
  /-- The entries of the fixed steps are the same. -/
  fixed_eq : plan.fixedEntries (run settings setup plan.script).tail =
    other.fixedEntries (run settings setup other.script).tail
  /-- The catalog at the end is the same. -/
  final_eq : (stages settings setup plan.script).getLast?.map (·.catalog) =
    (stages settings setup other.script).getLast?.map (·.catalog)
  /-- A call that has been moved answers and logs the same, and its handler is started with the
  same arguments, if its name finds the same tool and the settings are the same. -/
  moved : ∀ {i j : Nat} {mode : Mode} {tool : String} {args : Arguments} {before before' : Bench},
    plan[i]? = some (.call mode tool args, true) →
    other[j]? = some (.call mode tool args, true) →
    (stages settings setup plan.script)[i]? = some before →
    (stages settings setup other.script)[j]? = some before' →
    before.catalog.find? tool = before'.catalog.find? tool →
    before.settings = before'.settings →
      ∀ {entry entry' : Entry},
        (run settings setup plan.script)[i + 1]? = some entry →
        (run settings setup other.script)[j + 1]? = some entry' →
          entry.result = entry'.result ∧ entry.log = entry'.log ∧
            entry.deliveries = entry'.deliveries

/-- What a call of a tool that works apart shows on two benches that agree on this tool and on the
settings: it has the same result, and it adds the same to their logs and notes. -/
def CallsLocally : Prop :=
  ∀ {depth depth' : Nat} {mode : Mode} {name : String} {args : List Value} {bench other : Bench},
    bench.catalog.find? name = other.catalog.find? name → bench.settings = other.settings →
    bench.cancelAfter = other.cancelAfter →
    (∀ found, bench.catalog.find? name = some found → found.handler.Apart) →
      ∃ (result : Except Fault Observation) (imprint : Imprint),
        Bench.call depth mode name args bench = (result, imprint.on bench) ∧
          Bench.call depth' mode name args other = (result, imprint.on other)

/-- A call of a tool that works apart leaves the same in its entry, wherever it is made. -/
theorem Step.Idle.entry_call {mode : Mode} {tool : String} {args : Arguments}
    {bench other : Bench} (h : (Step.call mode tool args).Idle bench)
    (hf : bench.catalog.find? tool = other.catalog.find? tool)
    (hs : bench.settings = other.settings) (ht : bench.cancelAfter = other.cancelAfter) :
    ((Step.call mode tool args).entry bench).1.result =
        ((Step.call mode tool args).entry other).1.result ∧
      ((Step.call mode tool args).entry bench).1.log =
        ((Step.call mode tool args).entry other).1.log ∧
      ((Step.call mode tool args).entry bench).1.deliveries =
        ((Step.call mode tool args).entry other).1.deliveries := by
  obtain ⟨result, imprint, hcall⟩ :=
    callTool_local (fun found hm => h found hm) bench.settings bench.cancelAfter mode tool args
  have hbench := hcall bench.cleared rfl rfl rfl
  have hother := hcall other.cleared hf.symm hs.symm ht.symm
  have hrun (b : Bench) (hb : callTool mode tool args b.cleared = (result, imprint.on b.cleared)) :
      (Step.call mode tool args).entry b = (⟨result.map .observation, imprint.events, imprint.notes,
        some b.catalog.names⟩, imprint.on b.cleared) := by
    have hb : callTool mode tool args { b with log := [], deliveries := [] } =
      (result, imprint.on b.cleared) := hb
    simp only [Step.entry, Step.run, hb]
    rfl
  rw [hrun bench hbench, hrun other hother]
  exact ⟨rfl, rfl, rfl⟩

theorem callsLocally : CallsLocally := by
  intro depth depth' mode name args bench other hf hs ht h
  obtain ⟨result, imprint, hcall⟩ :=
    Bench.callWith_local (fun found hm => h found hm) bench.settings bench.cancelAfter mode name
      args
  exact ⟨result, imprint, hcall _ bench rfl rfl rfl, hcall _ other hf.symm hs.symm ht.symm⟩

/-- Calls of tools that work apart depend on nothing but the tool, the arguments and the settings.
In a session they, and the steps that only look at the bench, may be left out, added and moved
without any other step or the end of the session showing it. A handler has no state of its own
(`Handler`): one whose answers change from call to call is another tool each time, and then the
calls that are moved do not find the same. -/
theorem calls_unseen (settings : Settings) (setup : Setup) (plan other : Plan) :
    CallsLocally ∧
    (plan.fixed = other.fixed → plan.IdleAfter settings setup → other.IdleAfter settings setup →
      Unseen settings setup plan other) := by
  refine ⟨callsLocally, fun hfixed hplan hother => ?_⟩
  have hnone : (setup.run settings).2.cancelAfter = none := Setup.uncancelled settings setup
  rcases hr : setup.run settings with ⟨error | _, bench⟩
  · refine ⟨?_, ?_, ?_, fun _ _ _ _ _ _ _ _ he => ?_⟩
    · simp only [run, hr]
    · simp only [run, hr, List.tail_cons, Plan.fixedEntries, List.zip_nil_right]
    · simp only [stages, hr]
    · simp only [run, hr, List.getElem?_cons_succ, List.getElem?_nil] at he
      cases he
  · rw [hr] at hnone
    have hsame : bench.cleared = bench.cleared := rfl
    have hp := (hplan bench hr).fixed hnone hsame
    have ho := (hother bench hr).fixed hnone hsame
    rw [← hfixed] at ho
    constructor
    · simp only [run, hr, List.head?_cons]
    · simp only [run, hr, List.tail_cons]
      exact hp.1.trans ho.1.symm
    · simp only [stages, hr, getLast?_following, Option.map_some, Option.some.injEq]
      have hlast : (last plan.script bench).cleared.catalog =
          (last other.script bench).cleared.catalog :=
        congrArg Bench.catalog (hp.2.trans ho.2.symm)
      exact hlast
    · intro i j mode tool args before before' hi hj hb hb' hf hs entry entry' he he'
      simp only [stages, hr] at hb hb'
      simp only [run, hr, List.getElem?_cons_succ] at he he'
      have hidle := (hplan bench hr).of_getElem? hi hb
      have ht := (uncancelled_of_getElem? hnone hb).trans (uncancelled_of_getElem? hnone hb').symm
      have hentry := steps_getElem? (Plan.script_getElem? hi) hb
      have hentry' := steps_getElem? (Plan.script_getElem? hj) hb'
      rw [he] at hentry
      rw [he'] at hentry'
      cases hentry
      cases hentry'
      exact hidle.entry_call hf hs ht

open Bench (dividing holding find?_holding)

theorem run_setup_dividing :
    (Setup.fresh none [(dividing.declaration.draft, some dividing.handler)]).run {} =
      (.ok (), holding dividing) := by
  simp only [Setup.run, List.mapM_cons, List.mapM_nil, Declaration.check_draft]
  rfl

/-- A call before the removal of its tool, and a look at the catalog after it, are unseen. -/
theorem calls_unseen_dividing :
    Unseen {} (.fresh none [(dividing.declaration.draft, some dividing.handler)])
      [(.call .direct "div" (.oneByOne [.str "10", .str "zero"]), true), (.remove "div", false)]
      [(.remove "div", false), (.describe, true)] := by
  refine (calls_unseen _ _ _ _).2 rfl ?_ ?_
  · intro bench hb
    obtain rfl : holding dividing = bench :=
      congrArg Prod.snd (run_setup_dividing.symm.trans hb)
    refine ⟨fun _ found hf => ?_, nofun, trivial⟩
    have hf : (holding dividing).catalog.find? "div" = some found := hf
    obtain rfl : dividing = found := Option.some.inj ((find?_holding dividing).symm.trans hf)
    exact Stock.pure_apart _
  · intro bench _
    exact ⟨nofun, fun _ => trivial, trivial⟩

end Session
end Toolbench
