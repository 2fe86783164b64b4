import Toolbench.Proofs.Forwarding
import Toolbench.Proofs.Idle
import Toolbench.Proofs.Remarks

/-! # The wording of observations

The preamble and the report of fallbacks are settings of the wording: they are seen in the texts
of observations and nowhere else. Two sessions under settings that differ in the wording show the
same entries once the texts are left out, as long as no handler looks into a text
(`run_reworded`). The text of an observation that carries no other one is the preamble, what
there is to be told, and the warning of the fallbacks (`Bench.text_of_call`). -/

namespace Toolbench

/-- Settings that differ in the wording of observations only. -/
structure Settings.Reworded (settings settings' : Settings) : Prop where
  strictRegistration_eq : settings.strictRegistration = settings'.strictRegistration
  logLevel_eq : settings.logLevel = settings'.logLevel

/-! ## Leaving out the texts -/

/-- A reply without the texts of the observations in it. -/
def Reply.untold : Reply → Reply
  | .observation tool outcome _ reply fallbacks error =>
    .observation tool outcome "" reply.untold fallbacks error
  | reply => reply

def Observation.untold (o : Observation) : Observation :=
  { o with text := "", reply := o.reply.untold }

theorem Observation.untold_toReply (o : Observation) : o.toReply.untold = o.untold.toReply := rfl

theorem Observation.untold_eq_iff {o o' : Observation} :
    o.untold = o'.untold ↔ o.toReply.untold = o'.toReply.untold := by
  rw [untold_toReply, untold_toReply]
  exact ⟨congrArg toReply, toReply_injective⟩

/-- Replies that are the same without their texts are the same, or two observations. -/
theorem Reply.untold_eq_cases {reply reply' : Reply} (h : reply.untold = reply'.untold) :
    reply = reply' ∨ ∃ o o' : Observation, reply = o.toReply ∧ reply' = o'.toReply := by
  cases reply with
  | observation tool outcome text inner fallbacks error =>
    cases reply' with
    | observation tool' outcome' text' inner' fallbacks' error' =>
      exact .inr ⟨⟨tool, outcome, text, inner, fallbacks, error⟩,
        ⟨tool', outcome', text', inner', fallbacks', error'⟩, rfl, rfl⟩
    | data | object => cases h
  | data | object =>
    cases reply' with
    | observation => cases h
    | data | object => exact .inl h

theorem Observation.fields_of_untold {o o' : Observation} (h : o.untold = o'.untold) :
    o.tool = o'.tool ∧ o.outcome = o'.outcome ∧ o.reply.untold = o'.reply.untold ∧
      o.fallbacks = o'.fallbacks ∧ o.error = o'.error := by
  simpa only [untold, Observation.mk.injEq, true_and] using h

/-- An observation that is the same without its text as one that carries no other has the same
reply. -/
theorem Observation.reply_eq_of_untold {o o' : Observation} (h : o.untold = o'.untold)
    (hr : o.reply.layers = []) : o.reply = o'.reply := by
  obtain ⟨_, _, hreply, _, _⟩ := fields_of_untold h
  rcases Reply.untold_eq_cases hreply with heq | ⟨inner, _, hinner, _⟩
  · exact heq
  · rw [hinner, layers_toReply] at hr
    cases hr

namespace Session

def Result.untold : Result → Result
  | .observation o => .observation o.untold
  | .application (some a) => .application (some { a with reply := a.reply.untold })
  | result => result

/-- An entry without the texts of the observations in it. -/
def Entry.untold (entry : Entry) : Entry :=
  { entry with result := entry.result.map Result.untold }

/-! ## Sessions that differ in the wording -/

/-- The likeness of sessions under settings that differ in the wording. -/
def wording : Likeness where
  settings := Settings.Reworded
  declaration := Eq
  reply reply reply' := reply.untold = reply'.untold
  draft := Eq
  name_eq h := by rw [h]
  signature_eq h := by rw [h]
  arity_eq h := by rw [h]
  readAll_eq h _ := by rw [h]
  fallbackNames_eq h _ := by rw [h]
  unknownTool _ _ := rfl
  wrongArity _ _ _ _ := rfl
  success {_ _ reply reply'} _ hr tool fallbacks := by
    rw [Observation.success, Observation.success]
    rcases Reply.untold_eq_cases hr with rfl | ⟨o, o', rfl, rfl⟩
    · cases reply.text with
      | error fault => exact .error fault
      | ok text => exact .ok rfl
    · refine .ok ?_
      change Reply.observation _ _ _ o.toReply.untold _ _ = .observation _ _ _ o'.toReply.untold _ _
      rw [hr]
  failure _ tool fault fallbacks := by
    rw [Observation.failure, Observation.failure]
    cases fault.text with
    | error fault => exact .error fault
    | ok text => exact .ok rfl
  draft_refl _ := rfl
  reply_refl _ := rfl
  check h := by
    rw [h]
    exact .refl (fun d => Eq.refl d) _
  strict_eq h := h.strictRegistration_eq
  change {s s'} h change := by
    refine ⟨?_, ?_⟩
    · exact congrArg change.strictRegistration.getD h.strictRegistration_eq
    · exact congrArg change.logLevel.getD h.logLevel_eq

end Session

/-! ## Handlers that do not look into texts -/

open Session (wording)

/-- A handler that does not look into the texts of observations. Whatever these are, it goes on
alike after the calls that it makes, and its replies differ in the texts of observations only. So
it is with the handlers that it registers. -/
def Handler.IgnoresWording (handler : Handler) : Prop :=
  Handler.Alike wording.toLikeness handler handler

theorem Stock.pure_ignoresWording (reply : List Value → Except Fault Reply) :
    (Stock.pure reply).IgnoresWording := by
  intro values
  exact .deliver values (Session.ofExcept_alike (reply values))

theorem Script.ofCall_alike {mode : Mode} {result result' : Except Fault Observation}
    (h : Agree wording.observation result result') :
    (Script.ofCall result : Script mode).Alike wording.toLikeness (.ofCall result') := by
  cases h with
  | ok ho => exact .finish ho
  | error fault => exact .fail fault

theorem Stock.forward_ignoresWording (tool : String) : (Stock.forward tool).IgnoresWording := by
  intro values
  exact .deliver values (.call tool values fun _ _ h => Script.ofCall_alike h)

namespace Session

def Step.IgnoresWording : Step → Prop
  | .register _ (some handler) _ => handler.IgnoresWording
  | _ => True

def Setup.IgnoresWording : Setup → Prop
  | .fresh _ tools => ∀ given ∈ tools, ∀ handler, given.2 = some handler → handler.IgnoresWording
  | .demo => True

theorem Step.IgnoresWording.alike {step : Step} (h : step.IgnoresWording) :
    Step.Alike wording step step := by
  cases step with
  | register draft handler returned =>
    cases handler with
    | none => exact .register returned ⟨rfl, .none⟩
    | some handler => exact .register returned ⟨rfl, .some h⟩
  | _ => exact .same nofun

theorem Setup.IgnoresWording.alike {setup : Setup} (h : setup.IgnoresWording) :
    Setup.Alike wording setup setup := by
  cases setup with
  | demo => exact .demo
  | fresh strict tools =>
    refine .fresh strict (List.forall₂_same.mpr fun given hm => ⟨rfl, ?_⟩)
    cases hh : given.2 with
    | none => exact .none
    | some handler => exact .some (h given hm handler hh)

/-! ## Entries without texts -/

theorem map_declaration_eq {α : Type} (form : Declaration → α) {tools tools' : List Tool}
    (h : List.Forall₂ (Tool.Alike wording.toLikeness) tools tools') :
    (tools.map fun tool => form tool.declaration) =
      tools'.map fun tool => form tool.declaration := by
  induction h with
  | nil => rfl
  | @cons tool tool' _ _ ht _ ih =>
    have hd : tool.declaration = tool'.declaration := ht.declaration
    rw [List.map_cons, List.map_cons, hd, ih]

/-- Under settings that differ in the wording a step shows the same but for texts. -/
theorem Step.Relates.untold_eq {step : Step} {result result' : Result}
    (h : step.Relates wording result result') : result.untold = result'.untold := by
  cases step with
  | find tool =>
    obtain ⟨found, found', hf, rfl, rfl⟩ := h
    cases hf with
    | none => rfl
    | some hd =>
      obtain rfl := (hd : _ = _)
      rfl
  | functionSchemas =>
    obtain ⟨catalog, catalog', hc, rfl, rfl⟩ := h
    exact congrArg Result.documents (map_declaration_eq (·.functionSchema) hc.tools)
  | toolSchemas =>
    obtain ⟨catalog, catalog', hc, rfl, rfl⟩ := h
    exact congrArg Result.documents (map_declaration_eq (·.toolSchema) hc.tools)
  | describe =>
    obtain ⟨catalog, catalog', hc, rfl, rfl⟩ := h
    have hparts := map_declaration_eq (fun d => d.describe ++ "\n") hc.tools
    exact congrArg (fun parts => Result.text ("\n" ++ String.join parts)) hparts
  | call | callCancelled =>
    obtain ⟨o, o', ho, rfl, rfl⟩ := h
    exact congrArg Result.observation (Observation.untold_eq_iff.mpr ho)
  | applyDirectly name args =>
    rcases h with ⟨rfl, rfl⟩ | ⟨tool, arguments, fallbacks, reply, reply', hr, rfl, rfl⟩
    · rfl
    · have hr : reply.untold = reply'.untold := hr
      rw [Result.untold, Result.untold, hr]
  | register | remove | contains | size | summary | change | isStrict | setStrict =>
    exact congrArg Result.untold h

theorem Step.Entries.untold_eq {step : Step} {entry entry' : Entry}
    (h : step.Entries wording entry entry') : entry.untold = entry'.untold := by
  obtain ⟨result, log, deliveries, names⟩ := entry
  obtain ⟨result', log', deliveries', names'⟩ := entry'
  obtain ⟨hresult, hlog, hdeliveries, hnames⟩ := h
  have hmap : result.map Result.untold = result'.map Result.untold := by
    rcases hresult.cases with ⟨fault, rfl, rfl⟩ | ⟨shown, shown', hshown, rfl, rfl⟩
    · rfl
    · exact congrArg Except.ok hshown.untold_eq
  cases hlog
  cases hdeliveries
  cases hnames
  rw [Entry.untold, Entry.untold, hmap]

theorem length_run_le (settings : Settings) (setup : Setup) (script : List Step) :
    (run settings setup script).length ≤ script.length + 1 := by
  rw [run]
  split
  · exact Nat.le_add_left 1 _
  · rw [List.length_cons, length_steps]

/-- Sessions under settings that differ in the wording have the same entries but for texts. -/
theorem Parallel.map_untold_eq {script : List Step} {entries entries' : List Entry}
    (h : Parallel wording script entries entries') (hl : entries.length ≤ script.length + 1) :
    entries.map Entry.untold = entries'.map Entry.untold := by
  refine List.ext_getElem? fun i => ?_
  rw [List.getElem?_map, List.getElem?_map]
  cases i with
  | zero => rw [← List.head?_eq_getElem?, ← List.head?_eq_getElem?, h.head_eq]
  | succ i =>
    by_cases hi : i + 1 < entries.length
    · have hi' : i + 1 < entries'.length := h.length_eq ▸ hi
      have hs : i < script.length := by omega
      have hentries := h.relates (List.getElem?_eq_getElem hs) (List.getElem?_eq_getElem hi)
        (List.getElem?_eq_getElem hi')
      rw [List.getElem?_eq_getElem hi, List.getElem?_eq_getElem hi', Option.map_some,
        Option.map_some, hentries.untold_eq]
    · have hi : entries.length ≤ i + 1 := Nat.le_of_not_lt hi
      rw [List.getElem?_eq_none hi, List.getElem?_eq_none (h.length_eq ▸ hi)]

end Session

/-! ## What the texts are made of -/

namespace Observation

/-- What the text of an observation tells after the preamble and before the warning. The counts
are those of the arguments that the tool takes and of those that were given. -/
def told (expected given : Nat) (o : Observation) : String :=
  match o.outcome with
  | .success => "the tool '" ++ o.tool ++ "' returned: " ++ o.reply.text.toOption.getD ""
  | .unknownTool => "Error. No tool named '" ++ o.tool ++ "' found in the tools registry."
  | .wrongArity => "Error using tool named '" ++ o.tool ++ "'. The tool '" ++ o.tool ++
      "' expects " ++ toString (expected : Int) ++ " arguments, but " ++
      toString (given : Int) ++ " were given."
  | .failure => "Error using tool named '" ++ o.tool ++ "'. The tool '" ++ o.tool ++
      "' failed: " ++ o.error.getD ""

/-- The warning at the end of a text. Only a success has one. -/
def remark (settings : Settings) (o : Observation) : String :=
  if o.outcome = .success then warning settings o.fallbacks else ""

variable {settings : Settings} {tool : String} {fallbacks : List String} {o : Observation}
  (expected given : Nat)

theorem text_of_success {reply : Reply} (h : success settings tool reply fallbacks = .ok o) :
    o.text = settings.preamble ++ o.told expected given ++ o.remark settings := by
  obtain ⟨text, ht, rfl⟩ := success_eq_ok_iff.mp h
  have ht : reply.text.toOption = some text := by
    rw [ht]
    rfl
  simp only [told, remark, ht, if_true, Option.getD_some, String.append_assoc]

/-- Observations that carry no others tell the same if they are the same without their texts. -/
theorem told_eq_of_untold {o' : Observation} (h : o.untold = o'.untold) (hr : o.reply.layers = []) :
    o.told expected given = o'.told expected given := by
  obtain ⟨htool, houtcome, _, _, herror⟩ := fields_of_untold h
  rw [told, told, htool, houtcome, herror, reply_eq_of_untold h hr]

theorem text_of_failure {fault : Fault} (h : failure settings tool fault fallbacks = .ok o) :
    o.text = settings.preamble ++ o.told expected given ++ o.remark settings := by
  obtain ⟨text, _, rfl⟩ := failure_eq_ok_iff.mp h
  simp only [told, remark, Option.getD_some, String.append_assoc, String.append_empty, reduceCtorEq,
    if_false]

end Observation

namespace Bench

/-- The number of the arguments that a tool of some name takes. -/
def arityOf (bench : Bench) (name : String) : Nat :=
  ((bench.catalog.find? name).map (·.declaration.arity)).getD 0

/-- The text of an observation is the preamble, what there is to be told, and the warning of the
fallbacks. -/
theorem text_of_call {depth : Nat} {mode : Mode} {name : String} {args : List Value}
    {bench : Bench} {o : Observation} (h : (call depth mode name args bench).1 = .ok o) :
    o.text = bench.settings.preamble ++ o.told (bench.arityOf name) args.length ++
      o.remark bench.settings := by
  have hs : (call depth mode name args bench).2.settings = bench.settings :=
    kept_settings.call depth mode name args bench
  rw [call] at h hs
  rcases callWith_cases (answerUpTo depth) mode name args bench with ⟨_, hc⟩ | ⟨tool, hf,
    ⟨_, hc⟩ | ⟨_, ⟨_, _, _, after, _, _, ho, hc⟩ | ⟨_, fault, after, _, hc⟩⟩⟩ <;>
    rw [hc] at h hs
  · cases h
    simp only [Observation.unknownTool, Observation.told, Observation.remark, reduceCtorEq,
      if_false, String.append_empty, String.append_assoc]
  · cases h
    simp only [Observation.wrongArity, Observation.told, Observation.remark, reduceCtorEq,
      if_false, String.append_empty, String.append_assoc, arityOf, hf, Option.map_some,
      Option.getD_some]
  · cases h
    have hs : after.settings = bench.settings := hs
    rw [hs] at ho
    exact Observation.text_of_success _ _ ho
  · obtain ⟨hk, ho⟩ := capture_fst_eq_ok_iff.mp h
    rw [capture_of_isException hk] at hs
    have hs : after.settings = bench.settings := hs
    rw [hs] at ho
    exact Observation.text_of_failure _ _ ho

theorem Alike.arityOf_eq {bench bench' : Bench} (hb : bench.Alike wording.toLikeness bench')
    (name : String) : bench.arityOf name = bench'.arityOf name := by
  rw [arityOf, arityOf]
  rcases rel_cases (hb.catalog.find? name) with ⟨hf, hf'⟩ | ⟨tool, tool', ht, hf, hf'⟩
  · rw [hf, hf']
  · have hd : tool.declaration = tool'.declaration := ht.declaration
    rw [hf, hf', Option.map_some, Option.map_some, hd]

end Bench

namespace Session

/-- The settings after a step. Only a change of them makes a difference. -/
def Step.adjust : Step → Settings → Settings
  | .change changed, settings => changed.apply settings
  | _, settings => settings

/-- The settings that are in force after some steps. -/
def inForce (settings : Settings) (script : List Step) : Settings :=
  script.foldl (fun settings step => step.adjust settings) settings

theorem Step.settings_entry (step : Step) (bench : Bench) :
    (step.entry bench).2.settings = step.adjust bench.settings := by
  change (step.run bench.cleared).2.settings = _
  have hs : bench.cleared.settings = bench.settings := rfl
  cases step with
  | register draft handler returned =>
    rw [run]
    split
    next => exact hs
    next hr => exact (kept_settings.register_draft hr).trans hs
  | remove tool => exact (kept_settings.remove _ tool).trans hs
  | call mode tool args => exact (kept_settings.callTool mode tool args _).trans hs
  | callCancelled tool args =>
    exact kept_settings.callTool .awaited tool args { bench.cleared with cancelAfter := some 2 }
  | applyDirectly name args =>
    rw [run]
    split
    next => exact hs
    next tool _ => exact (kept_settings.applyTool tool args _).trans hs
  | change | setStrict | find | contains | size | functionSchemas | toolSchemas | describe
  | summary | isStrict => rfl

/-- The entries of a session after the first are those of its steps. -/
theorem getElem?_steps_of_run {settings : Settings} {setup : Setup} {script : List Step} {i : Nat}
    {entry : Entry} (h : (run settings setup script)[i + 1]? = some entry) :
    (steps script (setup.run settings).2)[i]? = some entry := by
  rw [run] at h
  split at h
  next => cases h
  next hr =>
    rw [hr]
    exact h

theorem Setup.settings_run (settings : Settings) (setup : Setup) :
    (setup.run settings).2.settings = settings := by
  obtain ⟨strict, h⟩ := kept_settings.setup settings setup
  exact h

theorem text_of_callTool {mode : Mode} {tool : String} {args : Arguments} {bench : Bench}
    {o : Observation} (h : (callTool mode tool args bench).1 = .ok o) :
    o.text = bench.settings.preamble ++
      o.told (bench.arityOf tool) (args.toList?.getD []).length ++ o.remark bench.settings := by
  rw [callTool] at h
  cases ha : args.toList? with
  | some values =>
    simp only [ha] at h
    exact Bench.text_of_call h
  | none =>
    simp only [ha] at h
    split at h
    · cases h
    · exact Bench.text_of_call h

/-- The text of the observation that a step shows depends on the settings and on one of the counts
of arguments. -/
theorem Step.exists_text (step : Step) : ∃ name given, ∀ {bench : Bench} {o : Observation},
    (step.entry bench).1.result = .ok (.observation o) →
      o.text = bench.settings.preamble ++ o.told (bench.arityOf name) given ++
        o.remark bench.settings := by
  cases step with
  | call mode tool args =>
    refine ⟨tool, (args.toList?.getD []).length, fun {bench o} h => ?_⟩
    obtain ⟨first, hcall, hr⟩ := Bench.exists_of_map_eq_ok h
    obtain rfl : first = o := Result.observation.inj hr
    have htext := text_of_callTool hcall
    exact htext
  | callCancelled tool args =>
    refine ⟨tool, (args.toList?.getD []).length, fun {bench o} h => ?_⟩
    obtain ⟨first, hcall, hr⟩ := Bench.exists_of_map_eq_ok h
    obtain rfl : first = o := Result.observation.inj hr
    have htext := text_of_callTool hcall
    exact htext
  | register draft handler returned =>
    refine ⟨"", 0, fun {bench o} h => ?_⟩
    change ((Step.register draft handler returned).run bench.cleared).1 = _ at h
    rw [run] at h
    split at h
    · cases h
    · cases returned <;> cases h
  | applyDirectly name args =>
    refine ⟨"", 0, fun {bench o} h => ?_⟩
    change ((Step.applyDirectly name args).run bench.cleared).1 = _ at h
    rw [run] at h
    split at h
    · cases h
    · obtain ⟨_, _, hr⟩ := Bench.exists_of_map_eq_ok h
      cases hr
  | remove | find | contains | size | functionSchemas | toolSchemas | describe | summary | change
  | isStrict | setStrict =>
    refine ⟨"", 0, fun {bench o} h => ?_⟩
    cases h

/-- The texts of two observations of alike steps are made of the settings in force and of the same
counts of arguments. -/
theorem exists_texts {script : List Step} (hs : ∀ step ∈ script, step.IgnoresWording)
    {bench bench' : Bench} (hb : bench.Alike wording.toLikeness bench') {i : Nat}
    {entry entry' : Entry} {o o' : Observation} (he : (steps script bench)[i]? = some entry)
    (he' : (steps script bench')[i]? = some entry') (ho : entry.result = .ok (.observation o))
    (ho' : entry'.result = .ok (.observation o')) :
    ∃ expected given,
      o.text = (inForce bench.settings (script.take i)).preamble ++ o.told expected given ++
        o.remark (inForce bench.settings (script.take i)) ∧
      o'.text = (inForce bench'.settings (script.take i)).preamble ++ o'.told expected given ++
        o'.remark (inForce bench'.settings (script.take i)) := by
  induction script generalizing bench bench' i with
  | nil => cases he
  | cons step rest ih =>
    cases i with
    | zero =>
      cases he
      cases he'
      obtain ⟨name, given, htext⟩ := step.exists_text
      have htext' := htext ho'
      rw [← hb.arityOf_eq] at htext'
      exact ⟨_, given, htext ho, htext'⟩
    | succ i =>
      have hstep : step.IgnoresWording := hs step List.mem_cons_self
      have hrest := ih (fun step hm => hs step (List.mem_cons_of_mem _ hm))
        (hstep.alike.entry hb).2 he he'
      rw [step.settings_entry, step.settings_entry] at hrest
      exact hrest

end Session

/-! ## Sessions under other settings -/

/-- How the text of an observation changes with the wording. -/
structure Observation.Reworded (settings settings' : Settings) (o o' : Observation) : Prop where
  /-- A preamble stands before the text that is there without it. -/
  preamble : settings'.preamble = "" → settings.reportFallbacks = settings'.reportFallbacks →
    o.text = settings.preamble ++ o'.text
  /-- If fallbacks are reported, the text of a success with fallbacks ends with the warning of
  them, and all other texts stay as they are. -/
  report : settings.preamble = settings'.preamble → settings.reportFallbacks = true →
    settings'.reportFallbacks = false →
      o.text = o'.text ++
        if o.outcome = .success ∧ o.fallbacks ≠ [] then
          " (warning: could not parse arguments " ++ ", ".intercalate o.fallbacks ++
            "; default values were used)"
        else ""

namespace Observation

theorem remark_of_silent {settings : Settings} (h : settings.reportFallbacks = false)
    (o : Observation) : o.remark settings = "" := by
  rw [remark, warning, h]
  split <;> simp

theorem remark_eq_of_untold {settings settings' : Settings} {o o' : Observation}
    (h : o.untold = o'.untold) (hr : settings.reportFallbacks = settings'.reportFallbacks) :
    o.remark settings = o'.remark settings' := by
  obtain ⟨_, houtcome, _, hfallbacks, _⟩ := fields_of_untold h
  rw [remark, remark, warning, warning, houtcome, hfallbacks, hr]

theorem remark_of_reporting {settings : Settings} (h : settings.reportFallbacks = true)
    (o : Observation) : o.remark settings =
      if o.outcome = .success ∧ o.fallbacks ≠ [] then
        " (warning: could not parse arguments " ++ ", ".intercalate o.fallbacks ++
          "; default values were used)"
      else "" := by
  rw [remark, warning, h]
  by_cases hs : o.outcome = .success
  · simp only [hs, if_true, and_true, true_and]
  · simp only [hs, if_false, false_and]

/-- Texts that are made of the same parts under two settings. -/
theorem Reworded.of_texts {settings settings' : Settings} {o o' : Observation}
    {expected given : Nat} (h : o.untold = o'.untold) (hl : o.reply.layers = [])
    (ht : o.text = settings.preamble ++ o.told expected given ++ o.remark settings)
    (ht' : o'.text = settings'.preamble ++ o'.told expected given ++ o'.remark settings') :
    o.Reworded settings settings' o' := by
  have htold : o.told expected given = o'.told expected given := told_eq_of_untold _ _ h hl
  constructor
  · intro hp hr
    rw [ht, ht', htold, hp, remark_eq_of_untold h hr, String.empty_append, String.append_assoc]
  · intro hp hr hr'
    rw [ht, ht', htold, hp, remark_of_reporting hr, remark_of_silent hr', String.append_empty]

end Observation

namespace Session

/-- The entries of two sessions under settings that differ in the wording. -/
structure Reworded (settings settings' : Settings) (script : List Step)
    (entries entries' : List Entry) : Prop where
  /-- Without the texts of observations, at any depth, the entries are the same. -/
  untold_eq : entries.map Entry.untold = entries'.map Entry.untold
  /-- The text of an observation that carries no other one changes with the settings that are in
  force before the step. -/
  texts : ∀ {i : Nat} {entry entry' : Entry} {o o' : Observation},
    entries[i + 1]? = some entry → entries'[i + 1]? = some entry' →
    entry.result = .ok (.observation o) → entry'.result = .ok (.observation o') →
    o.reply.layers = [] →
      o.Reworded (inForce settings (script.take i)) (inForce settings' (script.take i)) o'

/-- The wording of observations is seen in their texts only, if no handler looks into a text. -/
theorem run_reworded {settings settings' : Settings} {setup : Setup} {script : List Step}
    (h : settings.Reworded settings') (hsetup : setup.IgnoresWording)
    (hscript : ∀ step ∈ script, step.IgnoresWording) :
    Reworded settings settings' script (run settings setup script)
      (run settings' setup script) := by
  have hsteps : List.Forall₂ (Step.Alike wording) script script :=
    List.forall₂_same.mpr fun step hm => (hscript step hm).alike
  have hparallel : Parallel wording script (run settings setup script)
      (run settings' setup script) := run_parallel h hsetup.alike hsteps
  have huntold := hparallel.map_untold_eq (length_run_le settings setup script)
  refine ⟨huntold, fun {i entry entry' o o'} he he' ho ho' hl => ?_⟩
  have hu : o.untold = o'.untold := by
    have hentry := congrArg (fun entries => entries[i + 1]?) huntold
    simp only [List.getElem?_map, he, he', Option.map_some, Option.some.injEq] at hentry
    have hresult := congrArg Entry.result hentry
    simp only [Entry.untold, ho, ho', Except.map, Result.untold, Except.ok.injEq,
      Result.observation.injEq] at hresult
    exact hresult
  obtain ⟨_, hb⟩ := Setup.Alike.run (show wording.settings settings settings' from h)
    hsetup.alike
  obtain ⟨_, _, ht, ht'⟩ := exists_texts hscript hb (getElem?_steps_of_run he)
    (getElem?_steps_of_run he') ho ho'
  rw [setup.settings_run] at ht ht'
  exact .of_texts hu hl ht ht'

open Bench (dividing relaying)

/-- A tool that hands its arguments on to another, under the default settings and under others that
have a preamble of their own and do not report fallbacks. -/
theorem run_reworded_relaying :
    Reworded {} { preamble := "> ", reportFallbacks := false }
      [.call .direct "relay" (.oneByOne [.str "10", .str "zero"]),
        .call .awaited "div" (.oneByOne [.str "10", .str "five"])]
      (run {} (.fresh none [(dividing.declaration.draft, some dividing.handler),
          (relaying.declaration.draft, some relaying.handler)])
        [.call .direct "relay" (.oneByOne [.str "10", .str "zero"]),
          .call .awaited "div" (.oneByOne [.str "10", .str "five"])])
      (run { preamble := "> ", reportFallbacks := false }
        (.fresh none [(dividing.declaration.draft, some dividing.handler),
          (relaying.declaration.draft, some relaying.handler)])
        [.call .direct "relay" (.oneByOne [.str "10", .str "zero"]),
          .call .awaited "div" (.oneByOne [.str "10", .str "five"])]) := by
  refine run_reworded ⟨rfl, rfl⟩ ?_ ?_
  · intro given hm handler hh
    simp only [List.mem_cons, List.not_mem_nil, or_false] at hm
    rcases hm with rfl | rfl
    · obtain rfl : dividing.handler = handler := Option.some.inj hh
      exact Stock.pure_ignoresWording _
    · obtain rfl : relaying.handler = handler := Option.some.inj hh
      exact Stock.forward_ignoresWording "div"
  · intro step hm
    simp only [List.mem_cons, List.not_mem_nil, or_false] at hm
    rcases hm with rfl | rfl <;> trivial

end Session
end Toolbench
