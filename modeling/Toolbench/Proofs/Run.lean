import Toolbench.Proofs.Call

/-! # What runs and calls keep

A relation between benches that every single operation on a bench keeps is kept by every run of
a script and by every call, however deep calls are nested (`Kept.call`). The induction over
scripts is done here once. -/

namespace Toolbench

/-- The events that a call logs of its own accord. Those of a change of the catalog are logged
with the change. -/
def Event.OfCall : Event → Prop
  | .registered _ | .replaced _ | .removed _ => False
  | _ => True

theorem Argument.Reads.ofCall {pairs : List (Parameter × Value)}
    {readings : List (Argument × List Event)} (h : Argument.Reads pairs readings) :
    ∀ event ∈ Argument.events readings, event.OfCall := by
  intro event hm
  obtain ⟨_, _, _, _, rfl⟩ := h.events_defaulted event hm
  trivial

/-- A relation that holds between a bench and the bench after any one operation on it. No script
can set a cancellation. -/
structure Kept (P : Bench → Bench → Prop) : Prop where
  refl : ∀ bench, P bench bench
  trans : ∀ {a b c}, P a b → P b c → P a c
  record : ∀ bench events, (∀ event ∈ events, event.OfCall) → P bench (bench.record events)
  deliver : ∀ bench values, P bench (bench.deliver values)
  register : ∀ {bench declaration handler after},
    bench.register declaration handler = .ok after → P bench after
  remove : ∀ bench tool, P bench (bench.remove tool).2
  turns : ∀ bench turns, (bench.cancelAfter = none → turns = none) →
    P bench { bench with cancelAfter := turns }

namespace Kept

variable {P : Bench → Bench → Prop} {answer : Answer}

section
variable (K : Kept P)
  (ha : ∀ mode tool values bench, P bench (answer mode tool values bench).2)
include K ha

theorem run {mode : Mode} (script : Script mode) (bench : Bench) :
    P bench (script.run answer bench).2 := by
  induction script generalizing bench with
  | finish | fail | postpone => exact K.refl bench
  | deliver values next ih => exact K.trans (K.deliver bench values) (ih _)
  | register declaration handler next _ ih =>
    rw [Script.run]
    split
    next after h => exact K.trans (K.register h) (ih none after)
    next error _ => exact ih (some error) bench
  | remove tool next ih => exact K.trans (K.remove bench tool) (ih _ _)
  | list next ih => exact ih _ bench
  | call tool values next ih => exact K.trans (ha .direct tool values bench) (ih _ _)
  | await tool values next ih => exact K.trans (ha .awaited tool values bench) (ih _ _)
  | pause next cancelled ih ih' =>
    rw [Script.run]
    split
    next => exact ih bench
    next => exact K.trans (K.turns bench none fun _ => rfl) (ih' _)
    next turns hc =>
      have hset : bench.cancelAfter = none → some turns = none := fun h => by rw [hc] at h; cases h
      exact K.trans (K.turns bench (some turns) hset) (ih _)
  | park cancelled ih => exact K.trans (K.turns bench none fun _ => rfl) (ih _)

theorem obtain (mode : Mode) (tool : String) (script : Script .direct) (bench : Bench) :
    P bench (script.obtain answer mode tool bench).2 := by
  have hrun := K.run ha script bench
  generalize ho : script.obtain answer mode tool bench = outcome
  cases Script.obtain_eq_iff.mp ho with
  | fault hr | reply hr | unawaited hr => rwa [hr] at hrun
  | @workFault _ work between _ _ hr hw | @workReply _ work between _ _ hr hw =>
    rw [hr] at hrun
    have hwork := K.run ha work between
    rw [hw] at hwork
    exact K.trans hrun hwork

end

theorem record_one (K : Kept P) (bench : Bench) {event : Event} (h : event.OfCall) :
    P bench (bench.record [event]) :=
  K.record bench [event] fun _ hm => List.mem_singleton.mp hm ▸ h

theorem record_readings (K : Kept P) (bench : Bench) {pairs : List (Parameter × Value)}
    {readings : List (Argument × List Event)} (h : Argument.Reads pairs readings) :
    P bench (bench.record (Argument.events readings)) :=
  K.record bench _ h.ofCall

theorem capture (K : Kept P) (mode : Mode) (tool : String) (fallbacks : List String) (fault : Fault)
    (bench : Bench) : P bench (bench.capture mode tool fallbacks fault).2 := by
  rw [Bench.capture]
  split
  next => exact K.record_one bench trivial
  next => exact K.refl bench

theorem settle (K : Kept P) (mode : Mode) (tool : String) (fallbacks : List String)
    (outcome : Except Fault Reply × Bench) :
    P outcome.2 (Bench.settle mode tool fallbacks outcome).2 := by
  obtain ⟨fault | reply, after⟩ := outcome
  · exact K.capture mode tool fallbacks fault after
  · rw [Bench.settle, Bench.conclude]
    split
    next => exact K.refl after
    next fault _ => exact K.capture mode tool fallbacks fault after

section
variable (K : Kept P)
  (ha : ∀ mode tool values bench, P bench (answer mode tool values bench).2)
include K ha

theorem obtains {mode : Mode} {tool : Tool} {pairs : List (Parameter × Value)}
    {readings : List (Argument × List Event)} {bench : Bench}
    {outcome : Except Fault Reply × Bench} (h : Argument.Reads pairs readings)
    (hw : (tool.handler (Argument.values readings)).Obtains answer tool.name
      (bench.record (Argument.events readings)) mode outcome) : P bench outcome.2 := by
  obtain rfl := Bench.workOn_eq_iff.mpr hw
  exact K.trans (K.record_readings bench h) (K.obtain ha mode tool.name _ _)

theorem apply (mode : Mode) (tool : Tool) (args : List Value) (bench : Bench) :
    P bench (bench.apply answer mode tool args).2 := by
  rcases Bench.returns_or_raises answer mode tool args bench with
    ⟨_, _, _, _, h⟩ | ⟨fallbacks, fault, after, h⟩
  · obtain ⟨_, _, happly⟩ := h.apply
    obtain ⟨hread, hwork, _⟩ := h
    rw [happly]
    exact K.obtains ha hread hwork
  · rw [h.apply]
    refine K.trans ?_ (K.capture mode tool.name fallbacks fault after)
    cases h with
    | reading hread => exact K.record_readings bench hread.before
    | work hread hwork | text hread hwork _ => exact K.obtains ha hread hwork

theorem callWith (mode : Mode) (name : String) (args : List Value) (bench : Bench) :
    P bench (Bench.callWith answer mode name args bench).2 := by
  cases hf : bench.catalog.find? name with
  | none =>
    rw [Bench.callWith_of_find?_none hf]
    exact K.record_one bench trivial
  | some tool =>
    by_cases hl : args.length = tool.declaration.arity
    · rw [Bench.callWith_of_length_eq hf hl]
      exact K.apply ha mode tool args bench
    · rw [Bench.callWith_of_length_ne hf hl]
      exact K.record_one bench trivial

end

theorem answerUpTo (K : Kept P) (depth : Nat) (mode : Mode) (name : String) (args : List Value)
    (bench : Bench) : P bench (Bench.answerUpTo depth mode name args bench).2 := by
  induction depth generalizing mode name args bench with
  | zero => exact K.refl bench
  | succ depth ih => exact K.callWith ih mode name args bench

/-- What every operation keeps, every call keeps. -/
theorem call (K : Kept P) (depth : Nat) (mode : Mode) (name : String) (args : List Value)
    (bench : Bench) : P bench (Bench.call depth mode name args bench).2 :=
  K.callWith (K.answerUpTo depth) mode name args bench

end Kept

/-! ## Kept relations -/

theorem Bench.eq_of_register_eq_ok {bench after : Bench} {declaration : Declaration}
    {handler : Option Handler} (h : bench.register declaration handler = .ok after) :
    ∃ catalog events, after = { bench with catalog }.record events := by
  obtain ⟨_, _, _, rfl⟩ := Bench.register_eq_ok_iff.mp h
  exact ⟨_, _, rfl⟩

theorem Bench.exists_remove_eq (bench : Bench) (tool : String) :
    ∃ catalog events, (bench.remove tool).2 = { bench with catalog }.record events := by
  rw [remove]
  split
  next => exact ⟨_, _, rfl⟩
  next => exact ⟨bench.catalog, [], by simp [record]⟩

/-- What depends neither on the catalog nor on the log is kept if noting arguments and letting
turns pass keep it. -/
theorem Kept.of_rest {P : Bench → Bench → Prop} (refl : ∀ bench, P bench bench)
    (trans : ∀ {a b c}, P a b → P b c → P a c)
    (deliver : ∀ bench values, P bench (bench.deliver values))
    (turns : ∀ bench turns, P bench { bench with cancelAfter := turns })
    (change : ∀ bench catalog events, P bench ({ bench with catalog }.record events)) :
    Kept P where
  refl := refl
  trans := trans
  record bench events _ := change bench bench.catalog events
  deliver := deliver
  register h := by
    obtain ⟨_, _, rfl⟩ := Bench.eq_of_register_eq_ok h
    exact change _ _ _
  remove bench tool := by
    obtain ⟨_, _, h⟩ := bench.exists_remove_eq tool
    rw [h]
    exact change _ _ _
  turns bench left _ := turns bench left

/-- No operation changes the settings. -/
theorem kept_settings : Kept fun before after => after.settings = before.settings :=
  .of_rest (fun _ => rfl) (fun h h' => h'.trans h) (fun _ _ => rfl) (fun _ _ => rfl)
    fun _ _ _ => rfl

/-- Where no cancellation is set, no operation sets one. -/
theorem kept_uncancelled : Kept fun before after =>
    before.cancelAfter = none → after.cancelAfter = none where
  refl _ := id
  trans h h' := h' ∘ h
  record _ _ _ := id
  deliver _ _ := id
  register h := by
    obtain ⟨_, _, rfl⟩ := Bench.eq_of_register_eq_ok h
    exact id
  remove bench tool := by
    obtain ⟨_, _, h⟩ := bench.exists_remove_eq tool
    rw [h]
    exact id
  turns _ _ h := h

/-- The notes of the arguments that handlers were started with are only added to. -/
theorem kept_deliveries : Kept fun before after => before.deliveries <+: after.deliveries :=
  .of_rest (fun _ => List.prefix_rfl) (fun h h' => h.trans h')
    (fun _ _ => List.prefix_append _ _) (fun _ _ => List.prefix_rfl) fun _ _ _ => List.prefix_rfl

end Toolbench
