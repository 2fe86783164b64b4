import Toolbench.Proofs.Call
import Toolbench.Stock.Handlers

/-! # Direct and awaited calls

A direct call and an awaited one take the same course unless the handler puts off its work.
Handlers that put off the work of another one (`Handler.Wraps`) make the difference: an awaited
call of such a handler does what a direct call does with the other one in its place, and a
direct call of it reports that the tool must be waited for. -/

namespace Toolbench

/-! ## Plain scripts and the work that waits for them -/

/-- A script that changes no catalog, calls no tool and puts nothing off. It may not fail by the
fault that marks the end of a sequence. -/
def Script.Plain : {mode : Mode} → Script mode → Prop
  | _, .finish _ => True
  | _, .fail fault => fault.kind ≠ .exhausted
  | _, .deliver _ next => next.Plain
  | _, .list next => ∀ names, (next names).Plain
  | _, .postpone .. | _, .register .. | _, .remove .. | _, .call .. | _, .await .. => False
  | _, .pause .. | _, .park .. => False

/-- Work that lets at most some number of turns pass and then goes on as a script. -/
inductive Script.Awaits (script : Script .direct) : Nat → Script .awaited → Prop
  | now {turns : Nat} : Awaits script turns script.asWork
  | pause {turns : Nat} {work cancelled : Script .awaited} : Awaits script turns work →
      Awaits script (turns + 1) (.pause work cancelled)

/-- A handler that does nothing but put off the work of another one. It lets no more turns pass
than there are until a cancellation. -/
def Handler.Wraps (handler plain : Handler) (limit : Option Nat) : Prop :=
  ∀ values, ∃ form turns work, handler values = .postpone form work ∧
    (plain values).Awaits turns work ∧ ∀ n, limit = some n → turns ≤ n

theorem Stock.later_wraps (form : Deferral) (handler : Handler) {limit : Option Nat}
    (h : limit ≠ some 0) : (Stock.later form handler).Wraps handler limit := fun values => by
  refine ⟨form, 1, _, rfl, .pause .now, fun n hn => ?_⟩
  subst hn
  exact Nat.pos_of_ne_zero fun hz => h (by rw [hz])

theorem Stock.pure_plain {reply : List Value → Except Fault Reply}
    (h : ∀ values fault, reply values = .error fault → fault.kind ≠ .exhausted)
    (values : List Value) : (Stock.pure reply values).Plain := by
  change (Script.ofExcept (reply values)).Plain
  cases hr : reply values with
  | ok => trivial
  | error fault => exact h values fault hr

namespace Bench

def deliverAll (bench : Bench) (noted : List (List Value)) : Bench :=
  { bench with deliveries := bench.deliveries ++ noted }

theorem deliverAll_nil (bench : Bench) : bench.deliverAll [] = bench := by
  simp only [deliverAll, List.append_nil]

theorem deliverAll_deliver (bench : Bench) (values : List Value) (noted : List (List Value)) :
    (bench.deliver values).deliverAll noted = bench.deliverAll (values :: noted) := by
  simp only [deliverAll, deliver, List.append_assoc, List.singleton_append]

end Bench

namespace Script

variable {answer : Answer}

/-- What a plain script does depends on the names in the catalog alone, and it does the same when
it is awaited. -/
theorem Plain.effect {mode : Mode} {script : Script mode} (h : script.Plain)
    (names : List String) : ∃ (noted : List (List Value)) (result : Except Fault Reply),
      (∀ fault, result = .error fault → fault.kind ≠ .exhausted) ∧
      ∀ answer bench, bench.catalog.names = names →
        script.run answer bench = (result.map .reply, bench.deliverAll noted) ∧
        script.asWork.run answer bench = (result.map .reply, bench.deliverAll noted) := by
  induction script with
  | @finish mode reply =>
    refine ⟨[], .ok reply, nofun, fun answer bench _ => ?_⟩
    rw [Bench.deliverAll_nil]
    cases mode <;> exact ⟨rfl, rfl⟩
  | @fail mode fault =>
    refine ⟨[], .error fault, fun _ he => ?_, fun answer bench _ => ?_⟩
    · cases he
      exact h
    · rw [Bench.deliverAll_nil]
      cases mode <;> exact ⟨rfl, rfl⟩
  | @deliver mode values next ih =>
    obtain ⟨noted, result, hk, heffect⟩ := ih h
    refine ⟨values :: noted, result, hk, fun answer bench hn => ?_⟩
    obtain ⟨hd, hw⟩ := heffect answer (bench.deliver values) hn
    rw [Bench.deliverAll_deliver] at hd hw
    cases mode with
    | direct => exact ⟨hd, hw⟩
    | awaited => exact ⟨hd, hd⟩
  | @list mode next ih =>
    obtain ⟨noted, result, hk, heffect⟩ := ih names (h names)
    refine ⟨noted, result, hk, fun answer bench hn => ?_⟩
    obtain ⟨hd, hw⟩ := heffect answer bench hn
    subst hn
    cases mode with
    | direct => exact ⟨hd, hw⟩
    | awaited => exact ⟨hd, hd⟩
  | postpone | register | remove | call | await | pause | park => exact h.elim

/-- The turns that work lets pass are all that is left of waiting for it. -/
theorem Awaits.run {script : Script .direct} {turns : Nat} {work : Script .awaited}
    (h : script.Awaits turns work) (answer : Answer) (bench : Bench)
    (hl : ∀ n, bench.cancelAfter = some n → turns ≤ n) :
    ∃ left, work.run answer bench =
      script.asWork.run answer { bench with cancelAfter := left } := by
  induction h generalizing bench with
  | now => exact ⟨bench.cancelAfter, rfl⟩
  | @pause turns work cancelled _ ih =>
    rw [Script.run]
    split
    next hc => exact ih bench fun n hn => by rw [hc] at hn; cases hn
    next hc => exact absurd (hl 0 hc) (Nat.not_succ_le_zero turns)
    next left hc =>
      exact ih { bench with cancelAfter := some left } fun n hn => by
        cases hn
        exact Nat.le_of_succ_le_succ (hl (left + 1) hc)

end Script

/-- To wait for a handler that wraps a plain one comes to the same as to start the plain one. -/
theorem Handler.Wraps.obtain {handler plain : Handler} {bench : Bench}
    (hw : handler.Wraps plain bench.cancelAfter) {values : List Value}
    (hp : (plain values).Plain) (answer : Answer) : ∃ noted result left, ∀ tool,
      (handler values).obtain answer .awaited tool bench =
        (result, { bench.deliverAll noted with cancelAfter := left }) ∧
      ∀ other : Bench, other.catalog.names = bench.catalog.names →
        (plain values).obtain answer .direct tool other = (result, other.deliverAll noted) := by
  obtain ⟨form, turns, work, hpost, hawaits, hlimit⟩ := hw values
  obtain ⟨noted, result, hkind, heffect⟩ := hp.effect bench.catalog.names
  obtain ⟨left, hrun⟩ := hawaits.run answer bench hlimit
  -- waiting uses up turns only, and a plain script does not look at them
  obtain ⟨_, hwork⟩ := heffect answer { bench with cancelAfter := left } rfl
  rw [hwork] at hrun
  refine ⟨noted, result, left, fun tool => ⟨?_, fun other hn => ?_⟩⟩
  · rw [hpost, Script.obtain, Script.run]
    simp only [hrun]
    cases result with
    | ok => rfl
    | error fault =>
      simp only [Except.map, Fault.ofWork, if_neg (hkind fault rfl)]
      rfl
  · rw [Script.obtain, (heffect answer other hn).1]
    cases result <;> rfl

namespace Bench

open Argument (Completes Stops events values)

/-- A later bench with another tool in it and with as many turns left as the bench has. -/
def swap (bench : Bench) (tool : Tool) (later : Bench) : Bench :=
  { later.put tool with cancelAfter := bench.cancelAfter }

section
variable {answer : Answer} {mode : Mode} {name : String} {args : List Value} {bench : Bench}
  {tool other plain : Tool} {limit : Option Nat}
  {readings : List (Argument × List Event)}

theorem names_put (h : other.name ∈ bench.catalog.names) :
    (bench.put other).catalog.names = bench.catalog.names := by
  rw [put, Catalog.names_insert, if_pos h]

theorem workOn_direct (h : ∀ form work after,
    (tool.handler (values readings)).run answer (bench.record (events readings)) ≠
      (.ok (.pending form work), after)) :
    workOn answer .direct tool readings bench = workOn answer .awaited tool readings bench := by
  rw [workOn, workOn, Script.obtain, Script.obtain]
  split
  next => rfl
  next => rfl
  next form work after hr => exact absurd hr (h form work after)

/-- Unless the handler is started and puts off its work, a call that is waited for does the same
as a direct one. But it is work itself, and lets no fault through that marks the end of a
sequence. -/
theorem callWith_awaited (h : ∀ tool readings form work after,
    bench.catalog.find? name = some tool → args.length = tool.declaration.parameters.length →
    Completes tool.declaration.parameters args readings →
      (tool.handler (values readings)).run answer (bench.record (events readings)) ≠
        (.ok (.pending form work), after)) :
    callWith answer .awaited name args bench =
      ((callWith answer .direct name args bench).1.mapError (·.leaving .awaited),
        (callWith answer .direct name args bench).2) := by
  rcases entry_cases name args bench with
    hf | ⟨tool, hf, hl | ⟨hl, ⟨readings, hc⟩ | ⟨_, _, _, hs⟩⟩⟩
  · rw [callWith_of_find?_none hf, callWith_of_find?_none hf]
    rfl
  · rw [callWith_of_length_ne hf hl, callWith_of_length_ne hf hl]
    rfl
  · rw [callWith_of_length_eq hf hl, callWith_of_length_eq hf hl, apply_of_completes hc,
      apply_of_completes hc, settle_awaited,
      workOn_direct fun form work after => h tool readings form work after hf hl hc]
  · rw [callWith_of_stops hf hl hs, callWith_of_stops hf hl hs, capture_awaited]

theorem workOn_of_wraps (answer : Answer) (hn : plain.name ∈ bench.catalog.names)
    (hw : tool.handler.Wraps plain.handler bench.cancelAfter)
    (hp : (plain.handler (values readings)).Plain) :
    workOn answer .direct plain readings (bench.put plain) =
      ((workOn answer .awaited tool readings bench).1,
        bench.swap plain (workOn answer .awaited tool readings bench).2) ∧
    (workOn answer .awaited tool readings bench).2.catalog = bench.catalog := by
  have hw' : tool.handler.Wraps plain.handler (bench.record (events readings)).cancelAfter := hw
  obtain ⟨noted, result, left, hboth⟩ := hw'.obtain hp answer
  obtain ⟨hawaited, _⟩ := hboth tool.name
  obtain ⟨_, hdirect⟩ := hboth plain.name
  rw [workOn, workOn, hawaited,
    hdirect ((bench.put plain).record (events readings)) (names_put hn)]
  exact ⟨rfl, rfl⟩

/-- A direct call with a plain tool in the place of the one that wraps it does what the awaited
call of the latter does. -/
theorem callWith_of_wraps (hf : bench.catalog.find? name = some tool)
    (hd : plain.declaration = tool.declaration)
    (hw : tool.handler.Wraps plain.handler bench.cancelAfter)
    (hp : ∀ values, (plain.handler values).Plain) :
    (callWith answer .awaited name args bench).1 =
      (callWith answer .direct name args (bench.put plain)).1.mapError (·.leaving .awaited) ∧
    (callWith answer .direct name args (bench.put plain)).2 =
      bench.swap plain (callWith answer .awaited name args bench).2 ∧
    (callWith answer .awaited name args bench).2.catalog = bench.catalog := by
  have hname : tool.name = name := Catalog.name_of_find? hf
  have hname' : plain.name = name := by rw [← hname, Tool.name, Tool.name, hd]
  have hf' : (bench.put plain).catalog.find? name = some plain := find?_put hname'
  by_cases hl : args.length = tool.declaration.arity
  · have hl' : args.length = plain.declaration.arity := by rw [hd, hl]
    rcases Argument.completes_or_stops tool.declaration.parameters args with
      ⟨readings, hc⟩ | ⟨i, fault, readings, hs⟩
    · have hc' : Completes plain.declaration.parameters args readings := by rwa [hd]
      have hn : plain.name ∈ bench.catalog.names := by
        rw [hname']
        exact Catalog.exists_find?_iff.mp ⟨tool, hf⟩
      have hfallbacks : fallbacksOf plain readings = fallbacksOf tool readings := by
        rw [fallbacksOf, fallbacksOf, hd]
      obtain ⟨hwork, hcatalog⟩ := workOn_of_wraps answer hn hw (hp (values readings))
      rw [callWith_of_length_eq hf hl, callWith_of_length_eq hf' hl', apply_of_completes hc,
        apply_of_completes hc', hwork, hname, hname', hfallbacks]
      rcases hr : workOn answer .awaited tool readings bench with ⟨result, after⟩
      rw [hr] at hcatalog
      obtain ⟨_, he⟩ := settle_snd .direct name (fallbacksOf tool readings) result after
      rw [settle_map (bench.swap plain) after rfl (fun _ => rfl), settle_awaited, he]
      exact ⟨rfl, rfl, hcatalog⟩
    · have hs' : Stops plain.declaration.parameters args i fault readings := by rwa [hd]
      obtain ⟨_, he⟩ := (bench.record (events readings)).capture_snd .direct name [] fault
      have hmap : ((bench.put plain).record (events readings)).capture .direct name [] fault = _ :=
        capture_map (bench.swap plain) (bench.record (events readings)) rfl (fun _ => rfl) .direct
          name [] fault
      rw [callWith_of_stops hf hl hs, callWith_of_stops hf' hl' hs', hmap, capture_awaited, he]
      exact ⟨rfl, rfl, rfl⟩
  · have hl' : args.length ≠ plain.declaration.arity := by rwa [hd]
    rw [callWith_of_length_ne hf hl, callWith_of_length_ne hf' hl', hd]
    exact ⟨rfl, rfl, rfl⟩

theorem callWith_mustAwait (hf : bench.catalog.find? name = some tool)
    (hl : args.length = tool.declaration.arity)
    (hc : Completes tool.declaration.parameters args readings)
    (hw : tool.handler.Wraps plain.handler limit) :
    callWith answer .direct name args bench =
      (bench.record (events readings)).capture .direct name (fallbacksOf tool readings)
        (.mustAwait name) := by
  obtain ⟨_, _, _, hpost, _⟩ := hw (values readings)
  rw [callWith_of_length_eq hf hl, apply_of_completes hc, workOn, hpost,
    Catalog.name_of_find? hf]
  rfl

/-- A direct call of a tool that wraps another does nothing but log. -/
theorem callWith_direct_snd (hf : bench.catalog.find? name = some tool)
    (hw : tool.handler.Wraps plain.handler limit) :
    ∃ events, (callWith answer .direct name args bench).2 = bench.record events := by
  by_cases hl : args.length = tool.declaration.arity
  · rcases Argument.completes_or_stops tool.declaration.parameters args with
      ⟨readings, hc⟩ | ⟨_, fault, readings, hs⟩
    · rw [callWith_mustAwait hf hl hc hw]
      obtain ⟨last, he⟩ := (bench.record (events readings)).capture_snd .direct name
        (fallbacksOf tool readings) (.mustAwait name)
      exact ⟨events readings ++ last, by rw [he, record_record]⟩
    · rw [callWith_of_stops hf hl hs]
      obtain ⟨last, he⟩ := (bench.record (events readings)).capture_snd .direct name [] fault
      exact ⟨events readings ++ last, by rw [he, record_record]⟩
  · rw [callWith_of_length_ne hf hl]
    exact ⟨_, rfl⟩

/-- What it wraps makes no difference to it. -/
theorem callWith_direct_put {wrapped : Tool} (hf : bench.catalog.find? name = some tool)
    (hd : other.declaration = tool.declaration) (hw : tool.handler.Wraps plain.handler limit)
    (hw' : other.handler.Wraps wrapped.handler limit) :
    callWith answer .direct name args (bench.put other) =
      ((callWith answer .direct name args bench).1,
        (callWith answer .direct name args bench).2.put other) := by
  have hname : other.name = name := by
    rw [← Catalog.name_of_find? hf, Tool.name, Tool.name, hd]
  have hf' : (bench.put other).catalog.find? name = some other := find?_put hname
  by_cases hl : args.length = tool.declaration.arity
  · have hl' : args.length = other.declaration.arity := by rw [hd, hl]
    rcases Argument.completes_or_stops tool.declaration.parameters args with
      ⟨readings, hc⟩ | ⟨i, fault, readings, hs⟩
    · have hc' : Completes other.declaration.parameters args readings := by rwa [hd]
      rw [callWith_mustAwait hf hl hc hw, callWith_mustAwait hf' hl' hc' hw', fallbacksOf, hd]
      exact capture_map (·.put other) (bench.record (events readings)) rfl (fun _ => rfl) .direct
        name _ _
    · have hs' : Stops other.declaration.parameters args i fault readings := by rwa [hd]
      rw [callWith_of_stops hf hl hs, callWith_of_stops hf' hl' hs']
      exact capture_map (·.put other) (bench.record (events readings)) rfl (fun _ => rfl) .direct
        name _ _
  · have hl' : args.length ≠ other.declaration.arity := by rwa [hd]
    rw [callWith_of_length_ne hf hl, callWith_of_length_ne hf' hl', hd]
    rfl

end

/-- How direct and awaited calls agree. -/
structure Agreement (depth : Nat) (name : String) (args : List Value) (bench : Bench) : Prop where
  /-- The mode makes no difference unless the handler is started and puts off its work, and but for
  the fault that marks the end of a sequence, which cannot leave a call that is waited for. -/
  same : (∀ tool readings form work after, bench.catalog.find? name = some tool →
    args.length = tool.declaration.parameters.length →
    Completes tool.declaration.parameters args readings →
      (tool.handler (values readings)).run (answerUpTo depth) (bench.record (events readings)) ≠
        (.ok (.pending form work), after)) →
    call depth .awaited name args bench =
      ((call depth .direct name args bench).1.mapError (·.leaving .awaited),
        (call depth .direct name args bench).2) ∧
    ((∀ fault, (call depth .direct name args bench).1 = .error fault → fault.kind ≠ .exhausted) →
      call depth .direct name args bench = call depth .awaited name args bench)
  /-- An awaited call of a tool that wraps a plain one is a direct call of the plain one. -/
  awaited : ∀ {tool plain : Tool}, bench.catalog.find? name = some tool →
    plain.declaration = tool.declaration →
    tool.handler.Wraps plain.handler bench.cancelAfter →
    (∀ values, (plain.handler values).Plain) →
      (call depth .awaited name args bench).1 =
        (call depth .direct name args (bench.put plain)).1.mapError (·.leaving .awaited) ∧
      (call depth .direct name args (bench.put plain)).2 =
        bench.swap plain (call depth .awaited name args bench).2 ∧
      (call depth .awaited name args bench).2.catalog = bench.catalog ∧
      ((∀ fault, (call depth .direct name args (bench.put plain)).1 = .error fault →
          fault.kind ≠ .exhausted) →
        call depth .direct name args (bench.put plain) =
          ((call depth .awaited name args bench).1,
            bench.swap plain (call depth .awaited name args bench).2))
  /-- A direct call of it changes nothing but the log, and starts nothing of what it wraps. -/
  direct : ∀ {tool plain : Tool} {limit : Option Nat}, bench.catalog.find? name = some tool →
    tool.handler.Wraps plain.handler limit →
      (∃ events, (call depth .direct name args bench).2 = bench.record events) ∧
      ∀ {other wrapped : Tool}, other.declaration = tool.declaration →
        other.handler.Wraps wrapped.handler limit →
          call depth .direct name args (bench.put other) =
            ((call depth .direct name args bench).1,
              (call depth .direct name args bench).2.put other)
  /-- If the arguments are read, the answer of the direct call is that the tool must be waited
  for. It tells of the same fallbacks as any answer of the awaited call. -/
  direct_failure : ∀ {tool plain : Tool} {limit : Option Nat}
    {readings : List (Argument × List Event)}, bench.catalog.find? name = some tool →
    args.length = tool.declaration.parameters.length →
    Completes tool.declaration.parameters args readings →
    tool.handler.Wraps plain.handler limit →
      ∃ o, (call depth .direct name args bench).1 = .ok o ∧ o.outcome = .failure ∧
        o.error = some ("TypeError: " ++ ("tool '" ++ name ++
          "' is asynchronous; call it with ToolRegistry.acall()")) ∧
        ∀ o', (call depth .awaited name args bench).1 = .ok o' → o'.fallbacks = o.fallbacks

/-- Direct and awaited calls agree. -/
theorem modes_agree (depth : Nat) (name : String) (args : List Value) (bench : Bench) :
    Agreement depth name args bench where
  same h := by
    have hawaited : call depth .awaited name args bench =
        ((call depth .direct name args bench).1.mapError (·.leaving .awaited),
          (call depth .direct name args bench).2) := callWith_awaited h
    refine ⟨hawaited, fun hk => ?_⟩
    rw [hawaited, mapError_leaving_eq_self hk]
  awaited {tool plain} hf hd hw hp := by
    obtain ⟨hfst, hsnd, hcatalog⟩ := callWith_of_wraps hf hd hw hp
    have hresult : (call depth .awaited name args bench).1 =
        (call depth .direct name args (bench.put plain)).1.mapError (·.leaving .awaited) := hfst
    refine ⟨hfst, hsnd, hcatalog, fun hk => Prod.ext ?_ hsnd⟩
    rw [hresult, mapError_leaving_eq_self hk]
  direct hf hw := ⟨callWith_direct_snd hf hw, fun hd hw' => callWith_direct_put hf hd hw hw'⟩
  direct_failure {tool plain limit readings} hf hl hc hw := by
    have ht : (Fault.mustAwait name).text? = some ("tool '" ++ name ++
      "' is asynchronous; call it with ToolRegistry.acall()") := rfl
    obtain ⟨o, hfail, herror⟩ : ∃ o, Observation.failure bench.settings name (.mustAwait name)
        (fallbacksOf tool readings) = .ok o ∧ o.error = some ("TypeError: " ++ ("tool '" ++
          name ++ "' is asynchronous; call it with ToolRegistry.acall()")) :=
      ⟨_, Observation.failure_eq_ok_iff.mpr ⟨_, ht, rfl⟩, rfl⟩
    have ho : (call depth .direct name args bench).1 = .ok o := by
      rw [call, callWith_mustAwait hf hl hc hw]
      exact capture_fst_eq_ok_iff.mpr ⟨rfl, hfail⟩
    refine ⟨o, ho, Observation.outcome_of_failure hfail, herror, fun o' ho' => ?_⟩
    rw [fallbacks_of_completes hf hl hc ho', Observation.fallbacks_of_failure hfail]

/-- A handler that replies at once. -/
def ready : Handler := Stock.const (.bool true)

/-- A bench with one tool, which puts off what `ready` does. -/
def deferring : Bench := holding (nullary (Stock.later .coroutine ready))

/-- Waited for, the reply that is put off is the one that is given at once. Called directly, the
tool does nothing and fails. -/
theorem modes_agree_deferring :
    call 0 .direct "t" [] (deferring.put (nullary ready)) =
      ((call 0 .awaited "t" [] deferring).1,
        deferring.swap (nullary ready) (call 0 .awaited "t" [] deferring).2) ∧
    (∃ o, (call 0 .awaited "t" [] deferring).1 = .ok o ∧ o.outcome = .success) ∧
    (∃ o, (call 0 .direct "t" [] deferring).1 = .ok o ∧ o.outcome = .failure) ∧
    (call 0 .direct "t" [] deferring).2.deliveries = [] := by
  have hagree := modes_agree 0 "t" [] deferring
  have hf : deferring.catalog.find? "t" = some (nullary (Stock.later .coroutine ready)) :=
    find?_nullary _
  have hd : (nullary ready).declaration = (nullary (Stock.later .coroutine ready)).declaration :=
    rfl
  have hwraps : (nullary (Stock.later .coroutine ready)).handler.Wraps (nullary ready).handler
      none := Stock.later_wraps .coroutine ready nofun
  have hplain : ∀ values, ((nullary ready).handler values).Plain :=
    Stock.pure_plain fun _ _ => nofun
  have hready : (call 0 .direct "t" [] (deferring.put (nullary ready))).1 =
      .ok ⟨"t", .success, "Observation: the tool 't' returned: True", .data (.bool true), [],
        none⟩ := rfl
  obtain ⟨_, _, _, hsame⟩ := hagree.awaited hf hd hwraps hplain
  have hequal := hsame fun fault hfault => by
    rw [hready] at hfault
    cases hfault
  obtain ⟨o, ho, houtcome, _⟩ := hagree.direct_failure hf rfl (nullary_completes _) hwraps
  obtain ⟨⟨events, hevents⟩, _⟩ := hagree.direct hf hwraps
  refine ⟨hequal, ?_, ⟨o, ho, houtcome⟩, ?_⟩
  · rw [hequal] at hready
    exact ⟨_, hready, rfl⟩
  · rw [hevents]
    rfl

end Bench
end Toolbench
