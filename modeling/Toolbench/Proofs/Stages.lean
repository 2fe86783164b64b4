import Toolbench.Proofs.Run
import Toolbench.Session

/-! # The stages of a session

The benches that a session goes through: the one that its setup leaves, and the one after each
step. What every operation on a bench keeps, every setup and every step keeps (`Kept.setup`,
`Kept.step`), whatever the handlers do that are started in it. -/

namespace Toolbench
namespace Session

/-- The benches after one step and the next. -/
def following : List Step → Bench → List Bench
  | [], _ => []
  | step :: rest, bench =>
    let bench := (step.entry bench).2
    bench :: following rest bench

/-- The benches of a session. A setup that fails has left a bench too. -/
def stages (settings : Settings) (setup : Setup) (script : List Step) : List Bench :=
  match setup.run settings with
  | (.error _, bench) => [bench]
  | (.ok (), bench) => bench :: following script bench

/-- What an entry of a session shows of the bench it was made from. -/
structure Entry.Shows (entry : Entry) (bench : Bench) : Prop where
  log : entry.log = bench.log
  deliveries : entry.deliveries = bench.deliveries
  names : ∀ names, entry.names = some names → names = bench.catalog.names

theorem steps_shows (script : List Step) (bench : Bench) :
    List.Forall₂ Entry.Shows (steps script bench) (following script bench) := by
  induction script generalizing bench with
  | nil => exact .nil
  | cons step rest ih => exact .cons ⟨rfl, rfl, fun _ h => (Option.some.inj h).symm⟩ (ih _)

/-- Each entry of a session shows its stage. -/
theorem run_shows (settings : Settings) (setup : Setup) (script : List Step) :
    List.Forall₂ Entry.Shows (run settings setup script) (stages settings setup script) := by
  rw [run, stages]
  rcases setup.run settings with ⟨_ | _, bench⟩
  · exact .cons ⟨rfl, rfl, nofun⟩ .nil
  · exact .cons ⟨rfl, rfl, fun _ h => (Option.some.inj h).symm⟩ (steps_shows script bench)

section
variable {entries : List Entry} {benches : List Bench}

theorem map_log_of_shows (h : List.Forall₂ Entry.Shows entries benches) :
    entries.map (·.log) = benches.map (·.log) := by
  induction h with
  | nil => rfl
  | cons h _ ih => rw [List.map_cons, List.map_cons, h.log, ih]

theorem exists_of_shows (h : List.Forall₂ Entry.Shows entries benches) {i : Nat} {entry : Entry}
    (he : entries[i]? = some entry) : ∃ bench, benches[i]? = some bench ∧ entry.Shows bench := by
  induction h generalizing i with
  | nil => cases he
  | cons h _ ih =>
    cases i with
    | zero =>
      cases he
      exact ⟨_, rfl, h⟩
    | succ i => exact ih he

end

/-- After its setup a session takes all its steps, or none if the setup has failed. -/
theorem exists_stages_eq (settings : Settings) (setup : Setup) (script : List Step) :
    ∃ taken, stages settings setup script =
      (setup.run settings).2 :: following taken (setup.run settings).2 := by
  rw [stages]
  rcases setup.run settings with ⟨_ | _, bench⟩
  · exact ⟨[], rfl⟩
  · exact ⟨script, rfl⟩

/-! ## What sessions keep -/

theorem Arguments.read_ofCall (parameters : List Parameter) (args : Arguments) :
    ∀ event ∈ (args.read parameters).1, event.OfCall := by
  intro event hm
  rw [read] at hm
  split at hm
  next values _ =>
    rcases Argument.completes_or_stops parameters values with
      ⟨readings, h⟩ | ⟨i, fault, readings, h⟩
    · rw [h.readAll] at hm
      exact Argument.Reads.ofCall h event hm
    · rw [h.readAll] at hm
      exact h.before.ofCall event hm
  next => cases hm

theorem exists_of_bind_eq_ok {α β ε : Type} {first : Except ε α} {next : α → Except ε β} {b : β}
    (h : first.bind next = .ok b) : ∃ a, first = .ok a ∧ next a = .ok b := by
  cases first with
  | error => cases h
  | ok a => exact ⟨a, rfl, h⟩

end Session

namespace Kept

open Session (Arguments Setup exists_of_bind_eq_ok)

variable {P : Bench → Bench → Prop}

theorem callTool (K : Kept P) (mode : Mode) (tool : String) (args : Arguments) (bench : Bench) :
    P bench (Session.callTool mode tool args bench).2 := by
  rw [Session.callTool]
  split
  next values _ => exact K.call Session.depth mode tool values bench
  next =>
    split
    next => exact K.refl bench
    next => exact K.call Session.depth mode tool [] bench

theorem applyTool (K : Kept P) (tool : Tool) (args : Arguments) (bench : Bench) :
    P bench (Session.applyTool tool args bench).2 := by
  have hread : P bench (bench.record (args.read tool.declaration.parameters).1) :=
    K.record bench _ (args.read_ofCall tool.declaration.parameters)
  simp only [Session.applyTool]
  split
  next => exact hread
  next arguments _ =>
    have hrun := K.trans hread
      (K.run (K.answerUpTo Session.depth) (tool.handler (arguments.map (·.value))) _)
    split
    next h => rwa [h] at hrun
    next h => rwa [h] at hrun
    next h => rwa [h] at hrun

/-- A draft is registered if it is declared and the registration is accepted. -/
theorem register_draft (K : Kept P) {draft : Declaration.Draft} {handler : Option Handler}
    {bench after : Bench}
    (h : (draft.check.bind fun declaration => bench.register declaration handler) = .ok after) :
    P bench after := by
  obtain ⟨declaration, _, hreg⟩ := exists_of_bind_eq_ok h
  exact K.register hreg

theorem registerAll (K : Kept P) (tools : List (Declaration × Option Handler)) (bench : Bench) :
    P bench (Session.registerAll bench tools).2 := by
  induction tools generalizing bench with
  | nil => exact K.refl bench
  | cons entry tools ih =>
    rw [Session.registerAll]
    split
    next => exact K.refl bench
    next after h => exact K.trans (K.register h) (ih after)

theorem foldlM (K : Kept P) {α ε : Type} {f : Bench → α → Except ε Bench}
    (hf : ∀ bench entry after, f bench entry = .ok after → P bench after) (entries : List α)
    {bench after : Bench} (h : entries.foldlM f bench = .ok after) : P bench after := by
  induction entries generalizing bench with
  | nil =>
    cases h
    exact K.refl _
  | cons entry entries ih =>
    rw [List.foldlM_cons] at h
    obtain ⟨middle, hfirst, hrest⟩ := exists_of_bind_eq_ok h
    exact K.trans (hf bench entry middle hfirst) (ih hrest)

/-- What every operation keeps, every setup keeps, as far as it comes. -/
theorem setup (K : Kept P) (settings : Settings) (setup : Setup) :
    ∃ strict, P (.start settings strict) (setup.run settings).2 := by
  cases setup with
  | fresh strict tools =>
    refine ⟨strict, ?_⟩
    simp only [Setup.run]
    split
    next => exact K.refl _
    next tools _ => exact K.registerAll tools _
  | demo =>
    refine ⟨none, ?_⟩
    simp only [Setup.run]
    split
    next bench h =>
      exact K.foldlM (fun _ _ _ hreg => K.register_draft hreg) Demo.tools h
    next => exact K.refl _

end Kept

namespace Session

/-- A relation that holds between a bench and the bench after any one operation on it or any
change of its settings. -/
structure Kept (P : Bench → Bench → Prop) : Prop extends Toolbench.Kept P where
  settings : ∀ (bench : Bench) settings, P bench { bench with settings }
  strict : ∀ bench strict, P bench { bench with catalog := { bench.catalog with strict } }
  limit : ∀ (bench : Bench) limit, P bench { bench with cancelAfter := limit }

namespace Kept

variable {P : Bench → Bench → Prop}

/-- What every operation keeps, every step keeps. -/
theorem step (K : Kept P) (step : Step) (bench : Bench) : P bench (step.run bench).2 := by
  cases step with
  | register draft handler returned =>
    rw [Step.run]
    split
    next => exact K.refl bench
    next after h => exact K.register_draft h
  | remove tool => exact K.remove bench tool
  | call mode tool args => exact K.callTool mode tool args bench
  | callCancelled tool args =>
    -- the turns that are left are set before the call and cleared after it
    have hcall := K.callTool .awaited tool args { bench with cancelAfter := some 2 }
    exact K.trans (K.limit bench (some 2)) (K.trans hcall (K.limit _ none))
  | applyDirectly name args =>
    rw [Step.run]
    split
    next => exact K.refl bench
    next tool _ => exact K.applyTool tool args bench
  | change settings => exact K.settings bench _
  | setStrict strict => exact K.strict bench strict
  | find | contains | size | functionSchemas | toolSchemas | describe | summary | isStrict =>
    exact K.refl bench

section
variable (K : Kept P) (clear : ∀ bench : Bench, P bench { bench with log := [], deliveries := [] })
include K clear

theorem following (script : List Step) (bench : Bench) :
    ∀ later ∈ following script bench, P bench later := by
  induction script generalizing bench with
  | nil => nofun
  | cons step rest ih =>
    intro later hm
    have hstep : P bench (step.entry bench).2 := K.trans (clear bench) (K.step step _)
    rcases List.mem_cons.mp hm with rfl | hm
    · exact hstep
    · exact K.trans hstep (ih _ later hm)

/-- What every operation keeps, if emptying the log keeps it too, a whole session keeps. -/
theorem stages (settings : Settings) (setup : Setup) (script : List Step) :
    ∃ strict, ∀ bench ∈ stages settings setup script, P (.start settings strict) bench := by
  obtain ⟨strict, hsetup⟩ := K.setup settings setup
  obtain ⟨taken, hs⟩ := exists_stages_eq settings setup script
  refine ⟨strict, fun bench hm => ?_⟩
  rw [hs] at hm
  rcases List.mem_cons.mp hm with rfl | hm
  · exact hsetup
  · exact K.trans hsetup (K.following clear taken _ bench hm)

end

end Kept

end Session
end Toolbench
