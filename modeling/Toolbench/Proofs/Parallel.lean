import Toolbench.Proofs.Likeness
import Toolbench.Proofs.Stages

/-! # Two sessions side by side

Sessions that are set up alike and take alike steps stay alike. Their entries have the same logs,
notes and names, and what the results of a step may differ in is told by the step
(`steps_relate`). -/

namespace Toolbench

/-! ## Results that agree -/

theorem Agree.bind {α β ε : Type} {R : α → α → Prop} {S : β → β → Prop} {first first' : Except ε α}
    {next next' : α → Except ε β} (h : Agree R first first')
    (hn : ∀ a a', R a a' → Agree S (next a) (next' a')) :
    Agree S (first.bind next) (first'.bind next') := by
  cases h with
  | ok h => exact hn _ _ h
  | error e => exact .error e

theorem Agree.mapM {α β ε : Type} {R : α → α → Prop} {S : β → β → Prop} {f f' : α → Except ε β}
    (hf : ∀ a a', R a a' → Agree S (f a) (f' a')) {as as' : List α} (h : List.Forall₂ R as as') :
    Agree (List.Forall₂ S) (as.mapM f) (as'.mapM f') := by
  induction h with
  | nil => exact .ok .nil
  | cons h _ ih =>
    rw [List.mapM_cons, List.mapM_cons]
    refine (hf _ _ h).bind fun b b' hb => ih.bind fun bs bs' hbs => ?_
    exact .ok (.cons hb hbs)

theorem Agree.foldlM {α β ε : Type} {R : β → β → Prop} {f : β → α → Except ε β} {as : List α}
    (hf : ∀ a ∈ as, ∀ b b', R b b' → Agree R (f b a) (f b' a)) {b b' : β} (h : R b b') :
    Agree R (as.foldlM f b) (as.foldlM f b') := by
  induction as generalizing b b' with
  | nil => exact .ok h
  | cons a as ih =>
    rw [List.foldlM_cons, List.foldlM_cons]
    refine (hf a List.mem_cons_self b b' h).bind fun _ _ h => ?_
    exact ih (fun a ha => hf a (List.mem_cons_of_mem _ ha)) h

namespace Session

/-- A likeness for sessions: alike drafts are checked alike, and a change of the settings keeps
them alike. -/
structure Likeness extends Toolbench.Likeness where
  draft : Declaration.Draft → Declaration.Draft → Prop
  draft_refl : ∀ d, draft d d
  reply_refl : ∀ r, reply r r
  check : ∀ {d d' : Declaration.Draft}, draft d d' → Agree declaration d.check d'.check
  strict_eq : ∀ {s s' : Settings}, settings s s' → s.strictRegistration = s'.strictRegistration
  change : ∀ {s s' : Settings}, settings s s' → ∀ change : Change,
    settings (change.apply s) (change.apply s')

section
variable (L : Likeness)

/-- Tools that are handed in alike. -/
def Given.Alike (given given' : Declaration.Draft × Option Handler) : Prop :=
  L.draft given.1 given'.1 ∧ Option.Rel (Handler.Alike L.toLikeness) given.2 given'.2

inductive Setup.Alike : Setup → Setup → Prop
  | demo : Setup.Alike .demo .demo
  | fresh (strict : Option Bool) {tools tools' : List (Declaration.Draft × Option Handler)} :
      List.Forall₂ (Given.Alike L) tools tools' →
      Setup.Alike (.fresh strict tools) (.fresh strict tools')

/-- Alike steps are the same but for the tools that they register. -/
inductive Step.Alike : Step → Step → Prop
  | register {draft draft' : Declaration.Draft} {handler handler' : Option Handler}
      (returned : Bool) : Given.Alike L (draft, handler) (draft', handler') →
      Step.Alike (.register draft handler returned) (.register draft' handler' returned)
  | same {step : Step} : (∀ draft handler returned, step ≠ .register draft handler returned) →
      Step.Alike step step

/-- How the results of a step are related. Most of them are the same. -/
def Step.Relates : Step → Result → Result → Prop
  | .find _, result, result' => ∃ found found', Option.Rel L.declaration found found' ∧
      result = .declaration found ∧ result' = .declaration found'
  | .functionSchemas, result, result' => ∃ catalog catalog' : Catalog,
      catalog.Alike L.toLikeness catalog' ∧ result = .documents catalog.functionSchemas ∧
        result' = .documents catalog'.functionSchemas
  | .toolSchemas, result, result' => ∃ catalog catalog' : Catalog,
      catalog.Alike L.toLikeness catalog' ∧ result = .documents catalog.toolSchemas ∧
        result' = .documents catalog'.toolSchemas
  | .describe, result, result' => ∃ catalog catalog' : Catalog,
      catalog.Alike L.toLikeness catalog' ∧ result = .text catalog.describe ∧
        result' = .text catalog'.describe
  | .call .., result, result' | .callCancelled .., result, result' =>
      ∃ o o', L.observation o o' ∧ result = .observation o ∧ result' = .observation o'
  | .applyDirectly .., result, result' => result = .application none ∧ result' = .application none ∨
      ∃ tool arguments fallbacks reply reply', L.reply reply reply' ∧
        result = .application (some ⟨tool, arguments, fallbacks, reply⟩) ∧
        result' = .application (some ⟨tool, arguments, fallbacks, reply'⟩)
  | _, result, result' => result = result'

/-- How the entries of a step are related. -/
structure Step.Entries (step : Step) (entry entry' : Entry) : Prop where
  result : Agree (step.Relates L) entry.result entry'.result
  log_eq : entry.log = entry'.log
  deliveries_eq : entry.deliveries = entry'.deliveries
  names_eq : entry.names = entry'.names

end

variable {L : Likeness} {bench bench' : Bench}

/-! ## Steps -/

theorem callTool_alike (hb : bench.Alike L.toLikeness bench') (mode : Mode) (tool : String)
    (args : Arguments) : L.Meets L.observation (callTool mode tool args bench)
      (callTool mode tool args bench') := by
  rw [callTool, callTool]
  split
  · exact hb.call depth mode tool _
  · rw [hb.catalog.contains_eq]
    split
    · exact ⟨.error _, hb⟩
    · exact hb.call depth mode tool []

theorem applyTool_alike {tool tool' : Tool} (ht : tool.Alike L.toLikeness tool')
    (args : Arguments) (hb : bench.Alike L.toLikeness bench') :
    L.Meets (fun a a' => a.tool = a'.tool ∧ a.arguments = a'.arguments ∧
        a.fallbacks = a'.fallbacks ∧ L.reply a.reply a'.reply)
      (applyTool tool args bench) (applyTool tool' args bench') := by
  have hread : args.read tool.declaration.parameters = args.read tool'.declaration.parameters := by
    rw [Arguments.read, Arguments.read]
    split
    · exact L.readAll_eq ht.declaration _
    · rfl
  simp only [applyTool, hread, L.fallbackNames_eq ht.declaration, ht.name_eq]
  have hstart := hb.record (args.read tool'.declaration.parameters).1
  split
  next fault _ => exact ⟨.error fault, hstart⟩
  next arguments _ =>
    obtain ⟨after, after', hb, ⟨fault, hrun, hrun'⟩ | ⟨ending, ending', hending, hrun, hrun'⟩⟩ :=
      ((ht.handler (arguments.map (·.value))).run (Bench.Alike.answerUpTo depth) hstart).cases
    · simp only [hrun, hrun']
      exact ⟨.error fault, hb⟩
    · simp only [hrun, hrun']
      cases hending with
      | reply hr => exact ⟨.ok ⟨rfl, rfl, rfl, hr⟩, hb⟩
      | pending form _ => exact ⟨.ok ⟨rfl, rfl, rfl, L.reply_refl _⟩, hb⟩

theorem register_alike {draft draft' : Declaration.Draft} {handler handler' : Option Handler}
    (h : Given.Alike L (draft, handler) (draft', handler')) (hb : bench.Alike L.toLikeness bench') :
    Agree (Bench.Alike L.toLikeness)
      (draft.check.bind fun declaration => bench.register declaration handler)
      (draft'.check.bind fun declaration => bench'.register declaration handler') :=
  (L.check h.1).bind fun _ _ hd => hb.register hd h.2

/-- Alike steps lead from alike benches to alike benches. -/
theorem Step.Alike.run {step step' : Step} (h : Step.Alike L step step')
    (hb : bench.Alike L.toLikeness bench') :
    L.Meets (step.Relates L) (step.run bench) (step'.run bench') := by
  cases h with
  | register returned hg =>
    rcases (register_alike hg hb).cases with ⟨error, hr, hr'⟩ | ⟨after, after', hb, hr, hr'⟩
    · simp only [Step.run, hr, hr']
      exact ⟨.error error.fault, hb⟩
    · simp only [Step.run, hr, hr']
      exact ⟨.ok rfl, hb⟩
  | same hne =>
    cases step with
    | register draft handler returned => exact absurd rfl (hne draft handler returned)
    | remove tool =>
      obtain ⟨hremoved, hb⟩ := hb.remove tool
      exact ⟨.ok (congrArg Result.flag hremoved), hb⟩
    | find tool =>
      exact ⟨.ok ⟨_, _, hb.catalog.find?_declaration tool, rfl, rfl⟩, hb⟩
    | contains tool =>
      have hc := hb.catalog.contains_eq tool
      exact ⟨.ok (congrArg₂ Result.flags hc hc), hb⟩
    | size => exact ⟨.ok (congrArg₂ Result.sizes hb.catalog.size_eq hb.catalog.size_eq), hb⟩
    | functionSchemas => exact ⟨.ok ⟨_, _, hb.catalog, rfl, rfl⟩, hb⟩
    | toolSchemas => exact ⟨.ok ⟨_, _, hb.catalog, rfl, rfl⟩, hb⟩
    | describe => exact ⟨.ok ⟨_, _, hb.catalog, rfl, rfl⟩, hb⟩
    | summary => exact ⟨.ok (congrArg Result.text hb.catalog.summary_eq), hb⟩
    | call mode tool args =>
      obtain ⟨hresult, hb⟩ := callTool_alike hb mode tool args
      exact ⟨hresult.map fun _ _ ho => ⟨_, _, ho, rfl, rfl⟩, hb⟩
    | callCancelled tool args =>
      obtain ⟨hresult, hb⟩ := callTool_alike (hb.turns (some 2)) .awaited tool args
      exact ⟨hresult.map fun _ _ ho => ⟨_, _, ho, rfl, rfl⟩, hb.turns none⟩
    | applyDirectly name args =>
      rcases rel_cases (hb.catalog.find? name) with ⟨hf, hf'⟩ | ⟨tool, tool', ht, hf, hf'⟩
      · simp only [Step.run, hf, hf']
        exact ⟨.ok (.inl ⟨rfl, rfl⟩), hb⟩
      · simp only [Step.run, hf, hf']
        obtain ⟨hresult, hb⟩ := applyTool_alike ht args hb
        refine ⟨hresult.map ?_, hb⟩
        rintro ⟨tool, arguments, fallbacks, reply⟩ ⟨_, _, _, reply'⟩ ⟨rfl, rfl, rfl, hr⟩
        exact .inr ⟨tool, arguments, fallbacks, reply, reply', hr, rfl, rfl⟩
    | change settings =>
      exact ⟨.ok rfl, hb.withSettings (L.change hb.settings settings)⟩
    | isStrict => exact ⟨.ok (congrArg Result.flag hb.catalog.strict_eq), hb⟩
    | setStrict strict => exact ⟨.ok rfl, hb.withCatalog ⟨rfl, hb.catalog.tools⟩⟩

/-- The entries of alike steps are related as the steps tell, and the next step finds alike
benches. -/
theorem Step.Alike.entry {step step' : Step} (h : Step.Alike L step step')
    (hb : bench.Alike L.toLikeness bench') :
    step.Entries L (step.entry bench).1 (step'.entry bench').1 ∧
      (step.entry bench).2.Alike L.toLikeness (step'.entry bench').2 := by
  have hclear : Bench.Alike L.toLikeness { bench with log := [], deliveries := [] }
      { bench' with log := [], deliveries := [] } :=
    ⟨hb.catalog, hb.settings, rfl, rfl, hb.cancelAfter_eq⟩
  obtain ⟨hresult, hb⟩ := h.run hclear
  exact ⟨⟨hresult, hb.log_eq, hb.deliveries_eq, congrArg some hb.catalog.names_eq⟩, hb⟩

theorem length_steps (script : List Step) (bench : Bench) :
    (steps script bench).length = script.length := by
  induction script generalizing bench with
  | nil => rfl
  | cons step rest ih => exact congrArg (· + 1) (ih _)

/-- All entries of alike scripts are related. -/
theorem steps_relate {script script' : List Step} (h : List.Forall₂ (Step.Alike L) script script')
    (hb : bench.Alike L.toLikeness bench') {i : Nat} {step : Step} {entry entry' : Entry}
    (hs : script[i]? = some step) (he : (steps script bench)[i]? = some entry)
    (he' : (steps script' bench')[i]? = some entry') : step.Entries L entry entry' := by
  induction h generalizing bench bench' i with
  | nil => cases hs
  | cons h _ ih =>
    obtain ⟨hentries, hb⟩ := h.entry hb
    cases i with
    | zero =>
      cases hs
      cases he
      cases he'
      exact hentries
    | succ i => exact ih hb hs he he'

/-! ## Setups -/

theorem registerAll_alike {tools tools' : List (Declaration × Option Handler)}
    (h : List.Forall₂ (fun entry entry' => L.declaration entry.1 entry'.1 ∧
      Option.Rel (Handler.Alike L.toLikeness) entry.2 entry'.2) tools tools')
    (hb : bench.Alike L.toLikeness bench') :
    (registerAll bench tools).1 = (registerAll bench' tools').1 ∧
      (registerAll bench tools).2.Alike L.toLikeness (registerAll bench' tools').2 := by
  induction h generalizing bench bench' with
  | nil => exact ⟨rfl, hb⟩
  | @cons entry entry' _ _ h _ ih =>
    rcases (hb.register h.1 h.2).cases with ⟨error, hr, hr'⟩ | ⟨after, after', hb, hr, hr'⟩
    · simp only [registerAll, hr, hr']
      exact ⟨trivial, hb⟩
    · simp only [registerAll, hr, hr']
      exact ih hb

theorem start_alike {settings settings' : Settings} (hs : L.settings settings settings')
    (strict : Option Bool) :
    (Bench.start settings strict).Alike L.toLikeness (Bench.start settings' strict) :=
  ⟨⟨congrArg strict.getD (L.strict_eq hs), .nil⟩, hs, rfl, rfl, rfl⟩

theorem ofExcept_alike {mode : Mode} (result : Except Fault Reply) :
    (Script.ofExcept result : Script mode).Alike L.toLikeness (.ofExcept result) := by
  cases result with
  | ok reply => exact .finish (L.reply_refl reply)
  | error fault => exact .fail fault

theorem demo_alike {settings settings' : Settings} (hs : L.settings settings settings') :
    Agree (Bench.Alike L.toLikeness) (Demo.bench settings) (Demo.bench settings') := by
  refine Agree.foldlM (fun entry hm bench bench' hb => ?_) (start_alike hs none)
  refine register_alike ⟨L.draft_refl entry.1, .some fun values => ?_⟩ hb
  simp only [Demo.tools, List.mem_cons, List.not_mem_nil, or_false] at hm
  rcases hm with rfl | rfl | rfl <;> exact ofExcept_alike _

/-- Alike setups succeed or fail alike. -/
theorem Setup.Alike.run {settings settings' : Settings} (hs : L.settings settings settings')
    {setup setup' : Setup} (h : Setup.Alike L setup setup') :
    (setup.run settings).1 = (setup'.run settings').1 ∧
      (setup.run settings).2.Alike L.toLikeness (setup'.run settings').2 := by
  cases h with
  | demo =>
    rcases (demo_alike hs).cases with ⟨error, hd, hd'⟩ | ⟨made, made', hb, hd, hd'⟩
    · simp only [Setup.run, hd, hd']
      exact ⟨trivial, start_alike hs none⟩
    · simp only [Setup.run, hd, hd']
      exact ⟨trivial, hb⟩
  | @fresh strict tools tools' ht =>
    have hm : Agree (List.Forall₂ fun given given' => L.declaration given.1 given'.1 ∧
          Option.Rel (Handler.Alike L.toLikeness) given.2 given'.2)
        (tools.mapM fun entry => entry.1.check.map fun declaration => (declaration, entry.2))
        (tools'.mapM fun entry => entry.1.check.map fun declaration => (declaration, entry.2)) :=
      Agree.mapM (fun _ _ hg => (L.check hg.1).map fun _ _ hd => ⟨hd, hg.2⟩) ht
    rcases hm.cases with ⟨error, hc, hc'⟩ | ⟨declared, declared', ht, hc, hc'⟩
    · simp only [Setup.run, hc, hc']
      exact ⟨trivial, start_alike hs strict⟩
    · simp only [Setup.run, hc, hc']
      exact registerAll_alike ht (start_alike hs strict)

/-! ## Sessions -/

/-- The entries of two sessions of alike scripts. -/
structure Parallel (L : Likeness) (script : List Step) (entries entries' : List Entry) : Prop where
  head_eq : entries.head? = entries'.head?
  length_eq : entries.length = entries'.length
  relates : ∀ {i : Nat} {step : Step} {entry entry' : Entry}, script[i]? = some step →
    entries[i + 1]? = some entry → entries'[i + 1]? = some entry' → step.Entries L entry entry'

/-- Alike sessions have alike entries. -/
theorem run_parallel {settings settings' : Settings} (hs : L.settings settings settings')
    {setup setup' : Setup} (h : Setup.Alike L setup setup') {script script' : List Step}
    (hp : List.Forall₂ (Step.Alike L) script script') :
    Parallel L script (run settings setup script) (run settings' setup' script') := by
  obtain ⟨hresult, hb⟩ := h.run hs
  rcases hr : setup.run settings with ⟨error | _, bench⟩ <;>
    rcases hr' : setup'.run settings' with ⟨error' | _, bench'⟩ <;>
    rw [hr, hr'] at hresult hb
  case error.error =>
    cases hresult
    have hb : bench.Alike L.toLikeness bench' := hb
    refine ⟨?_, ?_, fun _ he _ => ?_⟩
    · simp only [run, hr, hr', List.head?_cons, hb.log_eq, hb.deliveries_eq]
    · simp only [run, hr, hr', List.length_singleton]
    · simp only [run, hr] at he
      cases he
  case error.ok => cases hresult
  case ok.error => cases hresult
  case ok.ok =>
    have hb : bench.Alike L.toLikeness bench' := hb
    refine ⟨?_, ?_, fun hi he he' => ?_⟩
    · simp only [run, hr, hr', List.head?_cons, hb.log_eq, hb.deliveries_eq, hb.catalog.names_eq]
    · simp only [run, hr, hr', List.length_cons, length_steps, hp.length_eq]
    · simp only [run, hr, hr', List.getElem?_cons_succ] at he he'
      exact steps_relate hp hb hi he he'

end Session
end Toolbench
