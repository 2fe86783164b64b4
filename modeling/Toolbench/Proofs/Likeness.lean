import Mathlib.Data.List.Forall2
import Toolbench.Proofs.Call

/-! # Two runs side by side

A likeness tells which settings, which declarations and which replies count as alike. Catalogs,
scripts and benches are alike when they differ in such things only. What is made of alike things
is alike again: the runs of alike scripts and the calls on alike benches end alike, and leave the
same log and the same notes (`Bench.Alike.call`). -/

namespace Toolbench

/-- Both fail with the same error, or both succeed with related values. -/
inductive Agree {α β ε : Type} (R : α → β → Prop) : Except ε α → Except ε β → Prop
  | ok {a : α} {b : β} : R a b → Agree R (.ok a) (.ok b)
  | error (e : ε) : Agree R (.error e) (.error e)

/-- When two settings, two declarations and two replies are alike. Alike declarations are read
and logged in the same way, and what a call reports of alike replies is alike. -/
structure Likeness where
  settings : Settings → Settings → Prop
  declaration : Declaration → Declaration → Prop
  reply : Reply → Reply → Prop
  name_eq : ∀ {d d' : Declaration}, declaration d d' → d.name = d'.name
  signature_eq : ∀ {d d' : Declaration}, declaration d d' → d.signature = d'.signature
  arity_eq : ∀ {d d' : Declaration}, declaration d d' → d.arity = d'.arity
  readAll_eq : ∀ {d d' : Declaration}, declaration d d' →
    ∀ args, Argument.readAll d.parameters args = Argument.readAll d'.parameters args
  fallbackNames_eq : ∀ {d d' : Declaration}, declaration d d' → ∀ arguments,
    Argument.fallbackNames d.parameters arguments =
      Argument.fallbackNames d'.parameters arguments
  unknownTool : ∀ {s s' : Settings}, settings s s' → ∀ tool,
    reply (Observation.unknownTool s tool).toReply (Observation.unknownTool s' tool).toReply
  wrongArity : ∀ {s s' : Settings}, settings s s' → ∀ tool expected given,
    reply (Observation.wrongArity s tool expected given).toReply
      (Observation.wrongArity s' tool expected given).toReply
  success : ∀ {s s' : Settings} {r r' : Reply}, settings s s' → reply r r' → ∀ tool fallbacks,
    Agree (fun o o' => reply o.toReply o'.toReply) (Observation.success s tool r fallbacks)
      (Observation.success s' tool r' fallbacks)
  failure : ∀ {s s' : Settings}, settings s s' → ∀ tool fault fallbacks,
    Agree (fun o o' => reply o.toReply o'.toReply) (Observation.failure s tool fault fallbacks)
      (Observation.failure s' tool fault fallbacks)

/-- Observations are alike if they are alike as replies. -/
def Likeness.observation (L : Likeness) (o o' : Observation) : Prop :=
  L.reply o.toReply o'.toReply

/-! ## Scripts, tools and benches that are alike -/

section
variable (L : Likeness)

/-- Scripts that do the same but for what is alike. They go on alike after an inner call if its
results are alike. -/
inductive Script.Alike : {mode : Mode} → Script mode → Script mode → Prop
  | finish {mode : Mode} {reply reply' : Reply} : L.reply reply reply' →
      Script.Alike (.finish reply : Script mode) (.finish reply')
  | fail {mode : Mode} (fault : Fault) : Script.Alike (.fail fault : Script mode) (.fail fault)
  | postpone (form : Deferral) {work work' : Script .awaited} : Script.Alike work work' →
      Script.Alike (.postpone form work) (.postpone form work')
  | deliver {mode : Mode} (values : List Value) {next next' : Script mode} :
      Script.Alike next next' → Script.Alike (.deliver values next) (.deliver values next')
  | register {mode : Mode} {declaration declaration' : Declaration}
      {handler handler' : List Value → Script .direct}
      {next next' : Option RegistrationError → Script mode} :
      L.declaration declaration declaration' →
      (∀ values, Script.Alike (handler values) (handler' values)) →
      (∀ refusal, Script.Alike (next refusal) (next' refusal)) →
      Script.Alike (.register declaration handler next) (.register declaration' handler' next')
  | remove {mode : Mode} (tool : String) {next next' : Bool → Script mode} :
      (∀ removed, Script.Alike (next removed) (next' removed)) →
      Script.Alike (.remove tool next) (.remove tool next')
  | list {mode : Mode} {next next' : List String → Script mode} :
      (∀ names, Script.Alike (next names) (next' names)) →
      Script.Alike (.list next) (.list next')
  | call {mode : Mode} (tool : String) (values : List Value)
      {next next' : Except Fault Observation → Script mode} :
      (∀ result result', Agree L.observation result result' →
        Script.Alike (next result) (next' result')) →
      Script.Alike (.call tool values next) (.call tool values next')
  | await (tool : String) (values : List Value)
      {next next' : Except Fault Observation → Script .awaited} :
      (∀ result result', Agree L.observation result result' →
        Script.Alike (next result) (next' result')) →
      Script.Alike (.await tool values next) (.await tool values next')
  | pause {next next' cancelled cancelled' : Script .awaited} : Script.Alike next next' →
      Script.Alike cancelled cancelled' →
      Script.Alike (.pause next cancelled) (.pause next' cancelled')
  | park {cancelled cancelled' : Script .awaited} : Script.Alike cancelled cancelled' →
      Script.Alike (.park cancelled) (.park cancelled')

def Handler.Alike (handler handler' : Handler) : Prop :=
  ∀ values, (handler values).Alike L (handler' values)

structure Tool.Alike (tool tool' : Tool) : Prop where
  declaration : L.declaration tool.declaration tool'.declaration
  handler : Handler.Alike L tool.handler tool'.handler

structure Catalog.Alike (catalog catalog' : Catalog) : Prop where
  strict_eq : catalog.strict = catalog'.strict
  tools : List.Forall₂ (Tool.Alike L) catalog.tools catalog'.tools

/-- Alike benches have the same log and the same notes. -/
structure Bench.Alike (bench bench' : Bench) : Prop where
  catalog : bench.catalog.Alike L bench'.catalog
  settings : L.settings bench.settings bench'.settings
  log_eq : bench.log = bench'.log
  deliveries_eq : bench.deliveries = bench'.deliveries
  cancelAfter_eq : bench.cancelAfter = bench'.cancelAfter

inductive Ending.Alike : {mode : Mode} → Ending mode → Ending mode → Prop
  | reply {mode : Mode} {reply reply' : Reply} : L.reply reply reply' →
      Ending.Alike (.reply reply : Ending mode) (.reply reply')
  | pending (form : Deferral) {work work' : Script .awaited} : work.Alike L work' →
      Ending.Alike (.pending form work) (.pending form work')

/-- What has come of something on two alike benches: results that agree, and alike benches. -/
structure Likeness.Meets {α : Type} (R : α → α → Prop) (outcome outcome' : Except Fault α × Bench) :
    Prop where
  result : Agree R outcome.1 outcome'.1
  bench : outcome.2.Alike L outcome'.2

end

variable {L : Likeness}

theorem Agree.cases {α β ε : Type} {R : α → β → Prop} {result : Except ε α} {result' : Except ε β}
    (h : Agree R result result') : (∃ e, result = .error e ∧ result' = .error e) ∨
      ∃ a b, R a b ∧ result = .ok a ∧ result' = .ok b := by
  cases h with
  | ok h => exact .inr ⟨_, _, h, rfl, rfl⟩
  | error e => exact .inl ⟨e, rfl, rfl⟩

theorem rel_cases {α β : Type} {R : α → β → Prop} {found : Option α} {found' : Option β}
    (h : Option.Rel R found found') : (found = none ∧ found' = none) ∨
      ∃ a b, R a b ∧ found = some a ∧ found' = some b := by
  cases h with
  | none => exact .inl ⟨rfl, rfl⟩
  | some h => exact .inr ⟨_, _, h, rfl, rfl⟩

theorem Agree.mapError {α β ε : Type} {R : α → β → Prop} {result : Except ε α}
    {result' : Except ε β} (h : Agree R result result') (f : ε → ε) :
    Agree R (result.mapError f) (result'.mapError f) := by
  cases h with
  | ok h => exact .ok h
  | error e => exact .error (f e)

theorem Agree.map {α γ ε : Type} {R : α → α → Prop} {S : γ → γ → Prop} {f f' : α → γ}
    {result result' : Except ε α} (h : Agree R result result')
    (hf : ∀ a a', R a a' → S (f a) (f' a')) : Agree S (result.map f) (result'.map f') := by
  cases h with
  | ok h => exact .ok (hf _ _ h)
  | error e => exact .error e

theorem Likeness.Meets.cases {α : Type} {R : α → α → Prop}
    {outcome outcome' : Except Fault α × Bench} (h : L.Meets R outcome outcome') :
    ∃ bench bench' : Bench, bench.Alike L bench' ∧
      ((∃ fault, outcome = (.error fault, bench) ∧ outcome' = (.error fault, bench')) ∨
        ∃ a a', R a a' ∧ outcome = (.ok a, bench) ∧ outcome' = (.ok a', bench')) := by
  obtain ⟨result, bench⟩ := outcome
  obtain ⟨result', bench'⟩ := outcome'
  obtain ⟨hresult, hb⟩ := h
  rcases hresult.cases with ⟨fault, rfl, rfl⟩ | ⟨a, a', hr, rfl, rfl⟩
  · exact ⟨bench, bench', hb, .inl ⟨fault, rfl, rfl⟩⟩
  · exact ⟨bench, bench', hb, .inr ⟨a, a', hr, rfl, rfl⟩⟩

/-! ## Catalogs -/

theorem Tool.Alike.name_eq {tool tool' : Tool} (h : tool.Alike L tool') :
    tool.name = tool'.name := L.name_eq h.declaration

section
variable {tools tools' : List Tool} (h : List.Forall₂ (Tool.Alike L) tools tools')
include h

theorem names_eq_of_alike : tools.map Tool.name = tools'.map Tool.name := by
  induction h with
  | nil => rfl
  | cons h _ ih => rw [List.map_cons, List.map_cons, h.name_eq, ih]

theorem find?_of_alike (name : String) :
    Option.Rel (Tool.Alike L) (tools.find? (·.name = name)) (tools'.find? (·.name = name)) := by
  induction h with
  | nil => exact .none
  | cons h _ ih =>
    rw [List.find?_cons, List.find?_cons, h.name_eq]
    split
    · exact .some h
    · exact ih

theorem put_of_alike {tool tool' : Tool} (ht : tool.Alike L tool') :
    List.Forall₂ (Tool.Alike L) (Catalog.put tool tools) (Catalog.put tool' tools') := by
  induction h with
  | nil => exact .cons ht .nil
  | cons h hrest ih =>
    rw [Catalog.put, Catalog.put, h.name_eq, ht.name_eq]
    split
    · exact .cons ht hrest
    · exact .cons h ih

theorem filter_of_alike (name : String) :
    List.Forall₂ (Tool.Alike L) (tools.filter (·.name ≠ name)) (tools'.filter (·.name ≠ name)) := by
  induction h with
  | nil => exact .nil
  | cons h _ ih =>
    rw [List.filter_cons, List.filter_cons, h.name_eq]
    split
    · exact .cons h ih
    · exact ih

end

namespace Catalog.Alike

variable {catalog catalog' : Catalog} (h : catalog.Alike L catalog')
include h

theorem names_eq : catalog.names = catalog'.names := names_eq_of_alike h.tools

theorem size_eq : catalog.size = catalog'.size := h.tools.length_eq

theorem find? (name : String) :
    Option.Rel (Tool.Alike L) (catalog.find? name) (catalog'.find? name) :=
  find?_of_alike h.tools name

theorem contains_eq (name : String) : catalog.contains name = catalog'.contains name := by
  rw [Catalog.contains_eq, Catalog.contains_eq, h.names_eq]

theorem find?_declaration (name : String) : Option.Rel L.declaration
    ((catalog.find? name).map (·.declaration)) ((catalog'.find? name).map (·.declaration)) := by
  rcases rel_cases (h.find? name) with ⟨hf, hf'⟩ | ⟨tool, tool', ht, hf, hf'⟩
  · rw [hf, hf']
    exact .none
  · rw [hf, hf']
    exact .some ht.declaration

theorem summary_eq : catalog.summary = catalog'.summary := by
  unfold summary
  rw [h.names_eq]

theorem insert {tool tool' : Tool} (ht : tool.Alike L tool') :
    (catalog.insert tool).Alike L (catalog'.insert tool') :=
  ⟨h.strict_eq, put_of_alike h.tools ht⟩

theorem erase (name : String) : (catalog.erase name).Alike L (catalog'.erase name) :=
  ⟨h.strict_eq, filter_of_alike h.tools name⟩

theorem notices_eq {declaration declaration' : Declaration}
    (hd : L.declaration declaration declaration') :
    catalog.notices declaration = catalog'.notices declaration' := by
  rw [notices, notices, h.names_eq, L.name_eq hd, L.signature_eq hd]

end Catalog.Alike

/-! ## Benches -/

namespace Bench.Alike

variable {bench bench' : Bench} (h : bench.Alike L bench')
include h

theorem record (events : List Event) : (bench.record events).Alike L (bench'.record events) :=
  ⟨h.catalog, h.settings, congrArg (· ++ events) h.log_eq, h.deliveries_eq, h.cancelAfter_eq⟩

theorem deliver (values : List Value) : (bench.deliver values).Alike L (bench'.deliver values) :=
  ⟨h.catalog, h.settings, h.log_eq, congrArg (· ++ [values]) h.deliveries_eq, h.cancelAfter_eq⟩

theorem turns (turns : Option Nat) :
    { bench with cancelAfter := turns }.Alike L { bench' with cancelAfter := turns } :=
  ⟨h.catalog, h.settings, h.log_eq, h.deliveries_eq, rfl⟩

theorem withCatalog {catalog catalog' : Catalog} (hc : catalog.Alike L catalog') :
    { bench with catalog }.Alike L { bench' with catalog := catalog' } :=
  ⟨hc, h.settings, h.log_eq, h.deliveries_eq, h.cancelAfter_eq⟩

theorem withSettings {settings settings' : Settings} (hs : L.settings settings settings') :
    { bench with settings }.Alike L { bench' with settings := settings' } :=
  ⟨h.catalog, hs, h.log_eq, h.deliveries_eq, h.cancelAfter_eq⟩

theorem register {declaration declaration' : Declaration} {handler handler' : Option Handler}
    (hd : L.declaration declaration declaration')
    (hh : Option.Rel (Handler.Alike L) handler handler') :
    Agree (Bench.Alike L) (bench.register declaration handler)
      (bench'.register declaration' handler') := by
  simp only [Bench.register, Catalog.register_eq]
  cases hh with
  | none =>
    rw [L.name_eq hd]
    exact .error _
  | some hh =>
    simp only [h.catalog.strict_eq, h.catalog.names_eq, L.name_eq hd, h.catalog.notices_eq hd]
    split
    · exact .error _
    · exact .ok ((h.withCatalog (h.catalog.insert ⟨hd, hh⟩)).record _)

theorem remove (tool : String) :
    (bench.remove tool).1 = (bench'.remove tool).1 ∧
      (bench.remove tool).2.Alike L (bench'.remove tool).2 := by
  rw [Bench.remove, Bench.remove, h.catalog.contains_eq]
  split
  · exact ⟨rfl, (h.withCatalog (h.catalog.erase tool)).record _⟩
  · exact ⟨rfl, h⟩

end Bench.Alike

/-! ## Runs -/

section
variable {answer answer' : Answer}
  (ha : ∀ mode tool values {bench bench' : Bench}, bench.Alike L bench' →
    L.Meets L.observation (answer mode tool values bench) (answer' mode tool values bench'))
include ha

/-- Alike scripts run alike. -/
theorem Script.Alike.run {mode : Mode} {script script' : Script mode} (h : script.Alike L script')
    {bench bench' : Bench} (hb : bench.Alike L bench') :
    L.Meets (Ending.Alike L) (script.run answer bench) (script'.run answer' bench') := by
  induction h generalizing bench bench' with
  | finish h => exact ⟨.ok (.reply h), hb⟩
  | fail fault => exact ⟨.error fault, hb⟩
  | postpone form h => exact ⟨.ok (.pending form h), hb⟩
  | deliver values _ ih => exact ih (hb.deliver values)
  | register hd hh _ _ ih =>
    rcases (hb.register hd (.some hh)).cases with ⟨error, hr, hr'⟩ | ⟨after, after', hb, hr, hr'⟩
    · simp only [Script.run, hr, hr']
      exact ih (some error) hb
    · simp only [Script.run, hr, hr']
      exact ih none hb
  | @remove _ tool next _ _ ih =>
    obtain ⟨hremoved, hb⟩ := hb.remove tool
    change L.Meets _ ((next (bench.remove tool).1).run answer (bench.remove tool).2) _
    rw [hremoved]
    exact ih _ hb
  | list _ ih =>
    rw [Script.run, Script.run, hb.catalog.names_eq]
    exact ih _ hb
  | call tool values _ ih =>
    have hcall := ha .direct tool values hb
    exact ih _ _ hcall.result hcall.bench
  | await tool values _ ih =>
    have hcall := ha .awaited tool values hb
    exact ih _ _ hcall.result hcall.bench
  | pause _ _ ih ih' =>
    rw [Script.run, Script.run, hb.cancelAfter_eq]
    split
    · exact ih hb
    · exact ih' (hb.turns none)
    · exact ih (hb.turns _)
  | park _ ih => exact ih (hb.turns none)

theorem Script.Alike.obtain {script script' : Script .direct} (h : script.Alike L script')
    (mode : Mode) (tool : String) {bench bench' : Bench} (hb : bench.Alike L bench') :
    L.Meets L.reply (script.obtain answer mode tool bench)
      (script'.obtain answer' mode tool bench') := by
  obtain ⟨after, after', hb, ⟨fault, hrun, hrun'⟩ | ⟨ending, ending', hending, hrun, hrun'⟩⟩ :=
    (h.run ha hb).cases
  · rw [Script.obtain_eq_iff.mpr (.fault hrun), Script.obtain_eq_iff.mpr (.fault hrun')]
    exact ⟨.error fault, hb⟩
  · cases hending with
    | reply hr =>
      rw [Script.obtain_eq_iff.mpr (.reply hrun), Script.obtain_eq_iff.mpr (.reply hrun')]
      exact ⟨.ok hr, hb⟩
    | pending form hwork =>
      cases mode with
      | direct =>
        rw [Script.obtain_eq_iff.mpr (.unawaited hrun), Script.obtain_eq_iff.mpr (.unawaited hrun')]
        exact ⟨.error _, hb⟩
      | awaited =>
        obtain ⟨last, last', hb, ⟨fault, hlast, hlast'⟩ |
          ⟨ending, ending', hending, hlast, hlast'⟩⟩ := (hwork.run ha hb).cases
        · rw [Script.obtain_eq_iff.mpr (.workFault hrun hlast),
            Script.obtain_eq_iff.mpr (.workFault hrun' hlast')]
          exact ⟨.error _, hb⟩
        · cases hending with
          | reply hr =>
            rw [Script.obtain_eq_iff.mpr (.workReply hrun hlast),
              Script.obtain_eq_iff.mpr (.workReply hrun' hlast')]
            exact ⟨.ok hr, hb⟩

end

/-! ## Calls -/

namespace Bench

section
variable {bench bench' : Bench} (hb : bench.Alike L bench')
include hb

theorem Alike.capture (mode : Mode) (tool : String) (fallbacks : List String) (fault : Fault) :
    L.Meets L.observation (bench.capture mode tool fallbacks fault)
      (bench'.capture mode tool fallbacks fault) := by
  cases hk : fault.kind.isException with
  | false =>
    rw [capture_of_not_isException hk, capture_of_not_isException hk]
    exact ⟨.error fault, hb⟩
  | true =>
    rw [capture_of_isException hk, capture_of_isException hk]
    exact ⟨(L.failure hb.settings tool fault fallbacks).mapError _, hb.record _⟩

theorem Alike.conclude (mode : Mode) (tool : String) (fallbacks : List String)
    {reply reply' : Reply} (hr : L.reply reply reply') :
    L.Meets L.observation (bench.conclude mode tool fallbacks reply)
      (bench'.conclude mode tool fallbacks reply') := by
  rcases (L.success hb.settings hr tool fallbacks).cases with
    ⟨fault, hs, hs'⟩ | ⟨o, o', ho, hs, hs'⟩
  · simp only [Bench.conclude, hs, hs']
    exact hb.capture mode tool fallbacks fault
  · simp only [Bench.conclude, hs, hs']
    exact ⟨.ok ho, hb⟩

variable {answer answer' : Answer}
  (ha : ∀ mode tool values {bench bench' : Bench}, bench.Alike L bench' →
    L.Meets L.observation (answer mode tool values bench) (answer' mode tool values bench'))
include ha

theorem Alike.apply (mode : Mode) {tool tool' : Tool} (ht : tool.Alike L tool')
    (args : List Value) : L.Meets L.observation (bench.apply answer mode tool args)
      (bench'.apply answer' mode tool' args) := by
  simp only [Bench.apply, L.readAll_eq ht.declaration, L.fallbackNames_eq ht.declaration,
    ht.name_eq]
  split
  next fault _ => exact (hb.record _).capture _ _ _ fault
  next arguments _ =>
    have hstart := hb.record (Argument.readAll tool'.declaration.parameters args).1
    obtain ⟨after, after', hb, ⟨fault, hwork, hwork'⟩ | ⟨reply, reply', hr, hwork, hwork'⟩⟩ :=
      ((ht.handler (arguments.map (·.value))).obtain ha mode tool'.name hstart).cases
    · simp only [hwork, hwork']
      exact hb.capture _ _ _ fault
    · simp only [hwork, hwork']
      exact hb.conclude _ _ _ hr

/-- Alike benches answer a call alike. -/
theorem Alike.callWith (mode : Mode) (name : String) (args : List Value) :
    L.Meets L.observation (callWith answer mode name args bench)
      (callWith answer' mode name args bench') := by
  rcases rel_cases (hb.catalog.find? name) with ⟨hf, hf'⟩ | ⟨tool, tool', ht, hf, hf'⟩
  · simp only [Bench.callWith, hf, hf']
    exact ⟨.ok (L.unknownTool hb.settings name), hb.record _⟩
  · simp only [Bench.callWith, hf, hf', L.arity_eq ht.declaration]
    split
    · exact hb.apply ha mode ht args
    · exact ⟨.ok (L.wrongArity hb.settings name _ _), hb.record _⟩

end

theorem Alike.answerUpTo (depth : Nat) (mode : Mode) (name : String) (args : List Value)
    {bench bench' : Bench} (hb : bench.Alike L bench') :
    L.Meets L.observation (answerUpTo depth mode name args bench)
      (answerUpTo depth mode name args bench') := by
  induction depth generalizing mode name args bench bench' with
  | zero => exact ⟨.error Fault.tooDeep, hb⟩
  | succ depth ih => exact hb.callWith ih mode name args

theorem Alike.call {bench bench' : Bench} (hb : bench.Alike L bench') (depth : Nat) (mode : Mode)
    (name : String) (args : List Value) :
    L.Meets L.observation (call depth mode name args bench) (call depth mode name args bench') :=
  hb.callWith (Alike.answerUpTo depth) mode name args

end Bench

end Toolbench
