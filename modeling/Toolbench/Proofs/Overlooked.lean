import Toolbench.Proofs.Run

/-! # What calls overlook

A call does not see all of its bench. A change of the bench that no single operation notices is
overlooked by every script and by every call, however deep calls are nested: they do the same on
the changed bench (`Overlooked.call`). Two changes are overlooked. The log is written and not
read, so events in front of it make no difference (`overlooked_past`), and a cancellation that is
still ahead at the end of a call has not been noticed by it (`overlooked_cancellation`). -/

namespace Toolbench

/-- Something that is done on a bench overlooks a change of the bench: unless the change has been
noticed at the end, the same is done on the changed bench. -/
def Overlooks {α : Type} (change : Bench → Bench) (noticed : Bench → Prop)
    (act : Bench → α × Bench) : Prop :=
  ∀ bench, ¬ noticed (act bench).2 → act (change bench) = ((act bench).1, change (act bench).2)

/-- A change of benches that goes along with all operations. Once it has been noticed it stays
so. -/
structure Overlooked (change : Bench → Bench) (noticed : Bench → Prop) : Prop where
  kept : Kept fun before after => noticed before → noticed after
  catalog_eq : ∀ bench, (change bench).catalog = bench.catalog
  settings_eq : ∀ bench, (change bench).settings = bench.settings
  withCatalog : ∀ bench catalog, { change bench with catalog } = change { bench with catalog }
  record : ∀ bench events, (change bench).record events = change (bench.record events)
  deliver : ∀ bench values, (change bench).deliver values = change (bench.deliver values)
  pause : ∀ {answer : Answer} {next cancelled : Script .awaited},
    (∀ (script : Script .awaited) bench, noticed bench → noticed (script.run answer bench).2) →
    Overlooks change noticed (next.run answer) → Overlooks change noticed (cancelled.run answer) →
      Overlooks change noticed ((Script.pause next cancelled).run answer)
  park : ∀ {answer : Answer} {cancelled : Script .awaited},
    (∀ (script : Script .awaited) bench, noticed bench → noticed (script.run answer bench).2) →
    Overlooks change noticed (cancelled.run answer) →
      Overlooks change noticed ((Script.park cancelled).run answer)

namespace Bench

/-- What is left of a call when its arguments have been read. -/
def proceed (answer : Answer) (mode : Mode) (tool : Tool) (read : Except Fault (List Argument))
    (bench : Bench) : Except Fault Observation × Bench :=
  match read with
  | .error fault => bench.capture mode tool.name [] fault
  | .ok arguments =>
    settle mode tool.name (Argument.fallbackNames tool.declaration.parameters arguments)
      ((tool.handler (arguments.map (·.value))).obtain answer mode tool.name bench)

theorem apply_eq_proceed (answer : Answer) (mode : Mode) (tool : Tool) (args : List Value)
    (bench : Bench) : bench.apply answer mode tool args =
      (bench.record (Argument.readAll tool.declaration.parameters args).1).proceed answer mode tool
        (Argument.readAll tool.declaration.parameters args).2 := by
  rw [apply]
  generalize Argument.readAll tool.declaration.parameters args = outcome
  obtain ⟨events, fault | arguments⟩ := outcome
  · rfl
  · simp only [proceed]
    generalize (tool.handler (arguments.map (·.value))).obtain answer mode tool.name
      (bench.record events) = work
    obtain ⟨fault | reply, after⟩ := work <;> rfl

end Bench

namespace Overlooked

variable {change : Bench → Bench} {noticed : Bench → Prop} {answer : Answer}

theorem register (O : Overlooked change noticed) (bench : Bench) (declaration : Declaration)
    (handler : Option Handler) : (change bench).register declaration handler =
      (bench.register declaration handler).map change := by
  rw [Bench.register, Bench.register, O.catalog_eq]
  cases bench.catalog.register declaration handler with
  | error error => rfl
  | ok registered =>
    refine congrArg Except.ok ?_
    exact (congrArg (Bench.record · registered.2) (O.withCatalog bench _)).trans (O.record _ _)

theorem remove (O : Overlooked change noticed) (bench : Bench) (tool : String) :
    (change bench).remove tool = ((bench.remove tool).1, change (bench.remove tool).2) := by
  rw [Bench.remove, Bench.remove, O.catalog_eq]
  split
  · rw [O.withCatalog, O.record]
  · rfl

section
variable (O : Overlooked change noticed)
  (ha : ∀ mode tool values, Overlooks change noticed (answer mode tool values))
  (hk : ∀ mode tool values bench, noticed bench → noticed (answer mode tool values bench).2)
include O ha hk

/-- Every script overlooks what all operations overlook. -/
theorem run {mode : Mode} (script : Script mode) :
    Overlooks change noticed (script.run answer) := by
  induction script with
  | finish | fail | postpone =>
    intro bench _
    rfl
  | deliver values next ih =>
    intro bench h
    rw [Script.run, O.deliver]
    exact ih (bench.deliver values) h
  | register declaration handler next _ ih =>
    intro bench h
    rw [Script.run] at h
    rw [Script.run, Script.run, O.register]
    cases hr : bench.register declaration (some handler) with
    | error error =>
      rw [hr] at h
      exact ih (some error) bench h
    | ok after =>
      rw [hr] at h
      exact ih none after h
  | remove tool next ih =>
    intro bench h
    simp only [Script.run, O.remove]
    exact ih _ _ h
  | list next ih =>
    intro bench h
    rw [Script.run, O.catalog_eq]
    exact ih bench.catalog.names bench h
  | call tool values next ih =>
    intro bench h
    -- what has been noticed in the call is so at the end
    have hcall : ¬ noticed (answer .direct tool values bench).2 :=
      fun hn => h (O.kept.run hk (next _) _ hn)
    simp only [Script.run, ha .direct tool values bench hcall]
    exact ih _ _ h
  | await tool values next ih =>
    intro bench h
    have hcall : ¬ noticed (answer .awaited tool values bench).2 :=
      fun hn => h (O.kept.run hk (next _) _ hn)
    simp only [Script.run, ha .awaited tool values bench hcall]
    exact ih _ _ h
  | pause next cancelled ih ih' => exact O.pause (fun script => O.kept.run hk script) ih ih'
  | park cancelled ih => exact O.park (fun script => O.kept.run hk script) ih

theorem obtain (mode : Mode) (tool : String) (script : Script .direct) :
    Overlooks change noticed (script.obtain answer mode tool) := by
  intro bench h
  have hrun := O.run ha hk script bench
  generalize ho : script.obtain answer mode tool bench = outcome at h
  rw [Script.obtain_eq_iff]
  cases Script.obtain_eq_iff.mp ho with
  | fault hr =>
    rw [hr] at hrun
    exact .fault (hrun h)
  | reply hr =>
    rw [hr] at hrun
    exact .reply (hrun h)
  | unawaited hr =>
    rw [hr] at hrun
    exact .unawaited (hrun h)
  | @workFault _ work between _ _ hr hw =>
    have hwork := O.run ha hk work between
    have hkept := O.kept.run hk work between
    rw [hw] at hwork hkept
    rw [hr] at hrun
    exact .workFault (hrun fun hn => h (hkept hn)) (hwork h)
  | @workReply _ work between _ _ hr hw =>
    have hwork := O.run ha hk work between
    have hkept := O.kept.run hk work between
    rw [hw] at hwork hkept
    rw [hr] at hrun
    exact .workReply (hrun fun hn => h (hkept hn)) (hwork h)

theorem proceed (mode : Mode) (tool : Tool) (read : Except Fault (List Argument)) :
    Overlooks change noticed (Bench.proceed answer mode tool read) := by
  intro bench h
  cases read with
  | error fault =>
    exact Bench.capture_map change bench (O.settings_eq bench) (O.record bench) mode tool.name []
      fault
  | ok arguments =>
    simp only [Bench.proceed] at h ⊢
    have hwork := O.obtain ha hk mode tool.name (tool.handler (arguments.map (·.value))) bench
    generalize (tool.handler (arguments.map (·.value))).obtain answer mode tool.name bench =
      outcome at h hwork
    have hkept := O.kept.settle mode tool.name
      (Argument.fallbackNames tool.declaration.parameters arguments) outcome
    rw [hwork fun hn => h (hkept hn)]
    exact Bench.settle_map change _ (O.settings_eq _) (O.record _) mode tool.name _ _

theorem callWith (mode : Mode) (name : String) (args : List Value) :
    Overlooks change noticed (Bench.callWith answer mode name args) := by
  intro bench h
  cases hf : bench.catalog.find? name with
  | none => simp only [Bench.callWith, O.catalog_eq, O.settings_eq, O.record, hf]
  | some tool =>
    simp only [Bench.callWith, hf] at h
    simp only [Bench.callWith, O.catalog_eq, O.settings_eq, O.record, hf]
    by_cases hl : args.length = tool.declaration.arity
    · rw [if_pos hl, Bench.apply_eq_proceed] at h
      rw [if_pos hl, if_pos hl, Bench.apply_eq_proceed, Bench.apply_eq_proceed, O.record]
      exact O.proceed ha hk mode tool _ _ h
    · rw [if_neg hl, if_neg hl]

end

theorem answerUpTo (O : Overlooked change noticed) (depth : Nat) (mode : Mode) (name : String)
    (args : List Value) : Overlooks change noticed (Bench.answerUpTo depth mode name args) := by
  induction depth generalizing mode name args with
  | zero =>
    intro bench _
    rfl
  | succ depth ih => exact O.callWith ih (O.kept.answerUpTo depth) mode name args

/-- Every call overlooks what all operations overlook. -/
theorem call (O : Overlooked change noticed) (depth : Nat) (mode : Mode) (name : String)
    (args : List Value) : Overlooks change noticed (Bench.call depth mode name args) :=
  O.callWith (O.answerUpTo depth) (O.kept.answerUpTo depth) mode name args

end Overlooked

/-! ## Changes that are overlooked -/

/-- A bench with events in front of its log. -/
def Bench.preceded (past : List Event) (bench : Bench) : Bench :=
  { bench with log := past ++ bench.log }

/-- The log is never read. -/
theorem overlooked_past (past : List Event) : Overlooked (Bench.preceded past) fun _ => False where
  kept := .of_rest (fun _ => id) (fun h h' => h' ∘ h) (fun _ _ => id) (fun _ _ => id)
    fun _ _ _ => id
  catalog_eq _ := rfl
  settings_eq _ := rfl
  withCatalog _ _ := rfl
  record bench events := by simp only [Bench.preceded, Bench.record, List.append_assoc]
  deliver _ _ := rfl
  pause _ hnext hcancelled bench h := by
    have hturns : (bench.preceded past).cancelAfter = bench.cancelAfter := rfl
    rw [Script.run, Script.run, hturns]
    cases bench.cancelAfter with
    | none => exact hnext bench id
    | some turns =>
      cases turns with
      | zero => exact hcancelled { bench with cancelAfter := none } id
      | succ turns => exact hnext { bench with cancelAfter := some turns } id
  park _ hcancelled bench _ := hcancelled { bench with cancelAfter := none } id

namespace Bench

/-- The bench without a cancellation ahead. -/
def undisturbed (bench : Bench) : Bench :=
  { bench with cancelAfter := none }

/-- The bench with a cancellation ahead, after some turns. -/
def disturbed (bench : Bench) (turns : Nat) : Bench :=
  { bench with cancelAfter := some turns }

end Bench

/-- A cancellation is noticed when it arrives and not before. -/
theorem overlooked_cancellation :
    Overlooked Bench.undisturbed fun bench => bench.cancelAfter = none where
  kept := kept_uncancelled
  catalog_eq _ := rfl
  settings_eq _ := rfl
  withCatalog _ _ := rfl
  record _ _ := rfl
  deliver _ _ := rfl
  pause {answer next cancelled} hk hnext _ bench h := by
    have hnone : bench.undisturbed.cancelAfter = none := rfl
    rw [Script.run] at h
    rw [Script.run, Script.run, hnone]
    split at h
    next hc => exact absurd (hk next bench hc) h
    next => exact absurd (hk cancelled _ rfl) h
    next turns _ => exact hnext { bench with cancelAfter := some turns } h
  park {_ cancelled} hk _ bench h := absurd (hk cancelled _ rfl) h

end Toolbench
