import Toolbench.Proofs.Coercion
import Toolbench.Proofs.Forwarding

/-! # Cancellation of awaited calls

Tools that wait for each other, each for the next one, and at the end of them a tool whose work
waits for its cancellation. What this work makes of the cancellation is what all calls make of it:
a cancellation that the work lets through ends them all, and none of them reports anything, and
one that the work answers by a reply lets them all succeed (`call_cancelled`). -/

namespace Toolbench

/-! ## The results of inner calls -/

/-- The results of a call and of the calls within it, in the order in which they end. -/
abbrev Nested := Mode → String → List Value → Bench → List (Except Fault Observation)

/-- The results of the calls that a script makes, and of those within them. -/
def Script.results (answer : Answer) (nested : Nested) :
    {mode : Mode} → Script mode → Bench → List (Except Fault Observation)
  | _, .finish _, _ | _, .fail _, _ | _, .postpone .., _ => []
  | _, .deliver values next, bench => next.results answer nested (bench.deliver values)
  | _, .register declaration handler next, bench =>
    match bench.register declaration (some handler) with
    | .ok after => (next none).results answer nested after
    | .error error => (next (some error)).results answer nested bench
  | _, .remove tool next, bench =>
    let (removed, after) := bench.remove tool
    (next removed).results answer nested after
  | _, .list next, bench => (next bench.catalog.names).results answer nested bench
  | _, .call tool values next, bench =>
    let (result, after) := answer .direct tool values bench
    nested .direct tool values bench ++ (next result).results answer nested after
  | _, .await tool values next, bench =>
    let (result, after) := answer .awaited tool values bench
    nested .awaited tool values bench ++ (next result).results answer nested after
  | _, .pause next cancelled, bench =>
    match bench.cancelAfter with
    | none => next.results answer nested bench
    | some 0 => cancelled.results answer nested { bench with cancelAfter := none }
    | some (turns + 1) => next.results answer nested { bench with cancelAfter := some turns }
  | _, .park cancelled, bench => cancelled.results answer nested { bench with cancelAfter := none }

/-- The results of the calls of a script and, if the mode allows to wait for it, of the work that
it puts off. -/
def Script.resultsOfWork (answer : Answer) (nested : Nested) (mode : Mode)
    (script : Script .direct) (bench : Bench) : List (Except Fault Observation) :=
  script.results answer nested bench ++
    match script.run answer bench with
    | (.error _, _) | (.ok (.reply _), _) => []
    | (.ok (.pending _ work), after) =>
      match mode with
      | .direct => []
      | .awaited => work.results answer nested after

namespace Bench

/-- The results of the calls that the handler of a call makes. -/
def innerResultsWith (answer : Answer) (nested : Nested) : Nested := fun mode name args bench =>
  match bench.catalog.find? name with
  | none => []
  | some tool =>
    if args.length = tool.declaration.arity then
      match Argument.readAll tool.declaration.parameters args with
      | (_, .error _) => []
      | (events, .ok arguments) =>
        (tool.handler (arguments.map (·.value))).resultsOfWork answer nested mode
          (bench.record events)
    else []

/-- The result of a call after the results of the calls within it. -/
def resultsWith (answer : Answer) (nested : Nested) : Nested := fun mode name args bench =>
  innerResultsWith answer nested mode name args bench ++ [(callWith answer mode name args bench).1]

/-- The same for calls nested at most `depth` deep. -/
def resultsUpTo : Nat → Nested
  | 0 => fun mode name args bench => [(answerUpTo 0 mode name args bench).1]
  | depth + 1 => resultsWith (answerUpTo depth) (resultsUpTo depth)

/-- The results of all levels of a call, the innermost ones first. -/
def results (depth : Nat) : Nested :=
  resultsWith (answerUpTo depth) (resultsUpTo depth)

end Bench

/-! ## Work that waits for its cancellation -/

/-- Work that waits until it is cancelled, and then ends with a result. It may note its arguments
and let the others take turns before. -/
inductive Script.Waits (result : Except Fault Reply) : Script .awaited → Prop
  | deliver {values : List Value} {next : Script .awaited} : Waits result next →
      Waits result (.deliver values next)
  | pause {next : Script .awaited} : Waits result next →
      Waits result (.pause next (.ofExcept result))
  | park : Waits result (.park (.ofExcept result))

/-- A handler that puts off such work. -/
def Handler.Waits (handler : Handler) (values : List Value) (result : Except Fault Reply) : Prop :=
  ∃ form work, handler values = .postpone form work ∧ work.Waits result

theorem Stock.forever_waits (values : List Value) :
    Stock.forever.Waits values (.error .cancelled) :=
  ⟨_, _, rfl, .deliver .park⟩

theorem Stock.stubborn_waits (values : List Value) :
    Stock.stubborn.Waits values (.ok (.data (.str "swallowed"))) :=
  ⟨_, _, rfl, .deliver .park⟩

section
variable {answer : Answer} {nested : Nested} {result : Except Fault Reply}

theorem Script.run_ofExcept {mode : Mode} (result : Except Fault Reply) (bench : Bench) :
    (ofExcept result : Script mode).run answer bench = (result.map .reply, bench) := by
  cases result <;> rfl

/-- The cancellation arrives, now or later, and the work ends with its result. -/
theorem Script.Waits.run {work : Script .awaited} (h : work.Waits result) (bench : Bench)
    (turns : Nat) : ∃ notes, work.run answer (bench.disturbed turns) =
      (result.map .reply, (bench.deliverAll notes).undisturbed) := by
  induction h generalizing bench turns with
  | @deliver values next _ ih =>
    obtain ⟨notes, hrun⟩ := ih (bench.deliver values) turns
    exact ⟨values :: notes, hrun.trans (by rw [Bench.deliverAll_deliver])⟩
  | @pause next _ ih =>
    cases turns with
    | zero => exact ⟨[], (run_ofExcept result _).trans (by rw [Bench.deliverAll_nil]; rfl)⟩
    | succ turns => exact ih bench turns
  | park => exact ⟨[], (run_ofExcept result _).trans (by rw [Bench.deliverAll_nil]; rfl)⟩

theorem Script.Waits.results {work : Script .awaited} (h : work.Waits result) (bench : Bench) :
    work.results answer nested bench = [] := by
  have hnone (bench : Bench) :
      (ofExcept result : Script .awaited).results answer nested bench = [] := by
    cases result <;> rfl
  induction h generalizing bench with
  | deliver _ ih => exact ih _
  | pause _ ih =>
    rw [Script.results]
    split
    · exact ih _
    · exact hnone _
    · exact ih _
  | park => exact hnone _

theorem Fault.ofWork_eq_self {fault : Fault} {form : Deferral} (h : fault.kind ≠ .exhausted) :
    fault.ofWork form = fault := by
  rw [ofWork, if_neg h]

theorem Fault.kind_ofWork_ne_exhausted (fault : Fault) (form : Deferral) :
    (fault.ofWork form).kind ≠ .exhausted := by
  rw [ofWork]
  split
  next =>
    change FaultKind.runtime ≠ .exhausted
    decide
  next h => exact h

theorem Handler.Waits.obtain {handler : Handler} {values : List Value}
    (h : handler.Waits values result)
    (hk : ∀ fault, result = .error fault → fault.kind ≠ .exhausted) (tool : String)
    (bench : Bench) (turns : Nat) : ∃ notes,
      (handler values).obtain answer .awaited tool (bench.disturbed turns) =
        (result, (bench.deliverAll notes).undisturbed) := by
  obtain ⟨form, work, hpost, hwaits⟩ := h
  obtain ⟨notes, hrun⟩ : ∃ notes, work.run answer _ = _ := hwaits.run bench turns
  refine ⟨notes, ?_⟩
  rw [hpost, Script.obtain_eq_iff]
  cases result with
  | ok reply => exact .workReply rfl hrun
  | error fault =>
    rw [← Fault.ofWork_eq_self (hk fault rfl)]
    exact .workFault rfl hrun

theorem Handler.Waits.resultsOfWork {handler : Handler} {values : List Value}
    (h : handler.Waits values result) (bench : Bench) :
    (handler values).resultsOfWork answer nested .awaited bench = [] := by
  obtain ⟨form, work, hpost, hwaits⟩ := h
  rw [hpost]
  exact hwaits.results bench

end

/-! ## Arguments that are texts -/

/-- A declaration of a tool that takes some number of arguments, each of them by its text. -/
structure Declaration.TakesTexts (count : Nat) (declaration : Declaration) : Prop where
  length : declaration.parameters.length = count
  reader : ∀ p ∈ declaration.parameters, p.reader = .string

theorem Declaration.TakesTexts.arity_eq {declaration : Declaration} {args : List Value}
    {texts : List String} (h : declaration.TakesTexts texts.length) (ht : Value.Texts args texts) :
    args.length = declaration.arity :=
  (List.Forall₂.length_eq ht).trans h.length.symm

theorem Value.texts_map_str (texts : List String) : Texts (texts.map .str) texts :=
  List.forall₂_map_left_iff.mpr (List.forall₂_same.mpr fun _ _ => rfl)

theorem Parameter.read_string {p : Parameter} (h : p.reader = .string) {raw : Value}
    {text : String} (ht : raw.text? = some text) :
    p.read raw = .ok (⟨text, .str text, false⟩, []) := by
  refine read_eq_ok_iff.mpr ⟨?_, rfl⟩
  rw [h, Reader.read, Value.text_of_text? ht]
  rfl

open Argument (Completes events values)

theorem Argument.exists_readings_of_strings {parameters : List Parameter} {args : List Value}
    {texts : List String} (hp : ∀ p ∈ parameters, p.reader = .string)
    (ht : Value.Texts args texts) (hl : parameters.length = texts.length) :
    ∃ readings, Completes parameters args readings ∧ values readings = texts.map .str ∧
      events readings = [] ∧ fallbackNames parameters (readings.map (·.1)) = [] := by
  induction ht generalizing parameters with
  | nil =>
    obtain rfl : parameters = [] := List.eq_nil_of_length_eq_zero hl
    exact ⟨[], .nil, rfl, rfl, rfl⟩
  | @cons raw text args texts ht _ ih =>
    cases parameters with
    | nil => cases hl
    | cons p parameters =>
      obtain ⟨readings, hc, hvalues, hevents, hnames⟩ :=
        ih (fun q hq => hp q (List.mem_cons_of_mem p hq)) (Nat.succ.inj hl)
      have hread := Parameter.read_string (hp p List.mem_cons_self) ht
      refine ⟨_ :: readings, .cons hread hc, congrArg (Value.str text :: ·) hvalues, hevents, ?_⟩
      rw [List.map_cons, fallbackNames_cons, hnames]
      rfl

/-! ## Observations around a reply -/

/-- Successes each of which carries the next one, from the outermost one to the one that carries
the reply. None of them tells of fallbacks. -/
inductive Observation.Carry (settings : Settings) (reply : Reply) :
    List String → List Observation → Prop
  | core {name : String} {o : Observation} : success settings name reply [] = .ok o →
      Carry settings reply [name] [o]
  | around {name : String} {names : List String} {o inner : Observation}
      {inners : List Observation} : Carry settings reply names (inner :: inners) →
      success settings name inner.toReply [] = .ok o →
      Carry settings reply (name :: names) (o :: inner :: inners)

theorem Observation.Carry.outcome {settings : Settings} {reply : Reply} {names : List String}
    {observations : List Observation} (h : Carry settings reply names observations) :
    ∀ o ∈ observations, o.outcome = .success := by
  induction h with
  | core hs =>
    intro o hm
    rw [List.mem_singleton.mp hm]
    exact outcome_of_success hs
  | around _ hs ih =>
    intro o hm
    rcases List.mem_cons.mp hm with rfl | hm
    · exact outcome_of_success hs
    · exact ih o hm

namespace Bench

/-! ## Tools that wait for each other -/

/-- Tools each of which waits for the next one, which it hands its arguments, and the tool at the
end. All take the same number of texts. The chain is named by its first tool, and lists the
others. -/
inductive AwaitedChain (catalog : Catalog) (count : Nat) (core : Tool) :
    String → List String → Prop
  | core : catalog.find? core.name = some core → core.declaration.TakesTexts count →
      AwaitedChain catalog count core core.name []
  | forward {tool : Tool} {next : String} {others : List String} :
      catalog.find? tool.name = some tool → tool.declaration.TakesTexts count →
      tool.handler = Stock.forwardAwaited next → AwaitedChain catalog count core next others →
      AwaitedChain catalog count core tool.name (next :: others)

theorem AwaitedChain.getLast? {catalog : Catalog} {count : Nat} {core : Tool} {name : String}
    {others : List String} (h : AwaitedChain catalog count core name others) :
    (name :: others).getLast? = some core.name := by
  induction h with
  | core => rfl
  | forward _ _ _ _ ih => rw [List.getLast?_cons_cons, ih]

/-- The results of the calls of a chain when its end is known, the innermost one first. All calls
are waited for. -/
def resultsThrough (name : String) (others : List String) (outcome : Except Fault Reply × Bench) :
    List (Except Fault Observation) :=
  match others with
  | [] => [(settleThrough .awaited .awaited [] name [] outcome).1]
  | next :: others =>
    resultsThrough next others outcome ++
      [(settleThrough .awaited .awaited [] name (next :: others) outcome).1]

section
variable {name : String} {others : List String} {after : Bench} {fault : Fault} {reply : Reply}

theorem resultsThrough_of_not_isException (hk : fault.kind.isException = false) :
    resultsThrough name others (.error fault, after) =
      List.replicate (others.length + 1) (.error fault) := by
  induction others generalizing name with
  | nil =>
    rw [resultsThrough, settleThrough_of_not_isException hk]
    rfl
  | cons next others ih =>
    rw [resultsThrough, ih, settleThrough_of_not_isException hk, List.length_cons,
      ← List.replicate_succ']

/-- A reply with a text lets all calls succeed. -/
theorem exists_settleThrough_of_text {text : String} (ht : reply.text = .ok text) :
    ∃ o inners, Observation.Carry after.settings reply (name :: others) (o :: inners) ∧
      settleThrough .awaited .awaited [] name others (.ok reply, after) = (.ok o, after) ∧
      resultsThrough name others (.ok reply, after) = (o :: inners).reverse.map .ok := by
  induction others generalizing name with
  | nil =>
    obtain ⟨o, ho⟩ : ∃ o, Observation.success after.settings name reply [] = .ok o :=
      Observation.exists_success ht
    have hsettle : settleThrough .awaited .awaited [] name [] (.ok reply, after) =
        (.ok o, after) := by
      rw [settleThrough, settle, conclude, ho]
    refine ⟨o, [], .core ho, hsettle, ?_⟩
    rw [resultsThrough, hsettle]
    rfl
  | cons next others ih =>
    obtain ⟨inner, inners, hcarry, hnext, hresults⟩ : ∃ inner inners,
        Observation.Carry after.settings reply (next :: others) (inner :: inners) ∧ _ := ih
    obtain ⟨o, ho⟩ : ∃ o, Observation.success after.settings name inner.toReply [] = .ok o :=
      Observation.exists_success rfl
    have hsettle : settleThrough .awaited .awaited [] name (next :: others) (.ok reply, after) =
        (.ok o, after) := by
      simp only [settleThrough, hnext, Except.map, settle, conclude, ho]
    refine ⟨o, inner :: inners, .around hcarry ho, hsettle, ?_⟩
    simp only [resultsThrough, hresults, hsettle, List.reverse_cons, List.map_append,
      List.map_singleton]

/-- A reply without a text comes to the same as the fault that keeps it from having one. -/
theorem settleThrough_of_textless {inner mode : Mode} (ht : reply.text = .error fault) :
    settleThrough inner mode [] name others (.ok reply, after) =
      settleThrough inner mode [] name others (.error fault, after) := by
  induction others generalizing mode name with
  | nil => simp only [settleThrough, settle, conclude, Observation.success_eq_error_iff.mpr ht]
  | cons next others ih => rw [settleThrough, settleThrough, ih]

end

section
variable {answer : Answer} {nested : Nested} {depth : Nat} {mode : Mode} {name : String}
  {others texts : List String} {args : List Value} {bench : Bench} {tool core : Tool}

/-- No call that is waited for lets the fault through that marks the end of a sequence. -/
theorem kind_ne_exhausted {fault : Fault}
    (h : (callWith answer .awaited name args bench).1 = .error fault) :
    fault.kind ≠ .exhausted := by
  obtain ⟨_, _, _, _, _, _, _, ⟨hk, rfl⟩ | ⟨_, reason, _, rfl⟩⟩ := callWith_fst_eq_error_iff.mp h
  · exact kind_ne_exhausted_of_not_isException hk
  · exact Fault.kind_ofWork_ne_exhausted reason .coroutine

section
variable (hf : bench.catalog.find? name = some tool)
  (hs : tool.declaration.TakesTexts texts.length) (ht : Value.Texts args texts)
include hf hs ht

/-- A tool that takes texts is started with the texts of the arguments. -/
theorem callWith_of_texts : callWith answer mode name args bench =
    settle mode name [] ((tool.handler (texts.map .str)).obtain answer mode name bench) := by
  obtain ⟨readings, hc, hvalues, hevents, hnames⟩ :=
    Argument.exists_readings_of_strings hs.reader ht hs.length
  have hfallbacks : fallbacksOf tool readings = [] := hnames
  rw [callWith_of_length_eq hf (hs.arity_eq ht), apply_of_completes hc, workOn, hvalues, hevents,
    record_nil, hfallbacks, Catalog.name_of_find? hf]

theorem innerResultsWith_of_texts : innerResultsWith answer nested mode name args bench =
    (tool.handler (texts.map .str)).resultsOfWork answer nested mode bench := by
  obtain ⟨readings, hc, hvalues, hevents, _⟩ :=
    Argument.exists_readings_of_strings hs.reader ht hs.length
  have hread : (readings.map (·.1)).map (·.value) = texts.map .str := by
    rw [List.map_map]
    exact hvalues
  simp only [innerResultsWith, hf, if_pos (hs.arity_eq ht), hc.readAll, hread, hevents, record_nil]

/-- A tool that waits for another ends its call with what comes of that one's call. -/
theorem call_forwardAwaited {next : String} {result : Except Fault Observation} {after : Bench}
    (hh : tool.handler = Stock.forwardAwaited next)
    (hn : call depth .awaited next (texts.map .str) (bench.deliver (texts.map .str)) =
      (result, after)) :
    call (depth + 1) .awaited name args bench =
      settle .awaited name [] (result.map Observation.toReply, after) := by
  have hobtain : (tool.handler (texts.map .str)).obtain (call depth) .awaited name bench =
      (result.map Observation.toReply, after) := by
    rw [hh, Script.obtain_eq_iff]
    have hrun : (Script.await next (texts.map .str) Script.ofCall).run (call depth)
        (bench.deliver (texts.map .str)) = (Script.ofCall result).run (call depth) after := by
      rw [Script.run, hn]
    cases result with
    | ok o => exact .workReply rfl hrun
    | error fault =>
      have hk := kind_ne_exhausted (congrArg Prod.fst hn)
      rw [← Fault.ofWork_eq_self hk]
      exact .workFault rfl hrun
  exact (callWith_of_texts hf hs ht).trans (congrArg _ hobtain)

theorem results_forwardAwaited {next : String} (hh : tool.handler = Stock.forwardAwaited next) :
    results (depth + 1) .awaited name args bench =
      results depth .awaited next (texts.map .str) (bench.deliver (texts.map .str)) ++
        [(call (depth + 1) .awaited name args bench).1] := by
  have hinner : innerResultsWith (call depth) (results depth) .awaited name args bench =
      results depth .awaited next (texts.map .str) (bench.deliver (texts.map .str)) := by
    rw [innerResultsWith_of_texts hf hs ht, hh]
    have hlast (result : Except Fault Observation) (after : Bench) :
        (Script.ofCall result : Script .awaited).results (call depth) (results depth) after =
          [] := by
      cases result <;> rfl
    simp only [Stock.forwardAwaited, Script.resultsOfWork, Script.results, Script.run, hlast,
      List.nil_append, List.append_nil]
  exact congrArg (· ++ _) hinner

end

/-- The cancellation reaches the end of a chain, and from there on the calls end one by one. -/
theorem AwaitedChain.exists_call_eq {catalog : Catalog} {result : Except Fault Reply}
    (h : AwaitedChain catalog texts.length core name others) (hb : bench.catalog = catalog)
    (hd : others.length ≤ depth) (ht : Value.Texts args texts)
    (hw : core.handler.Waits (texts.map .str) result)
    (hk : ∀ fault, result = .error fault → fault.kind ≠ .exhausted) (turns : Nat) :
    ∃ notes, call depth .awaited name args (bench.disturbed turns) =
        settleThrough .awaited .awaited [] name others
          (result, (bench.deliverAll notes).undisturbed) ∧
      results depth .awaited name args (bench.disturbed turns) =
        resultsThrough name others (result, (bench.deliverAll notes).undisturbed) := by
  induction h generalizing depth args bench with
  | core hf hs =>
    subst hb
    have hf : (bench.disturbed turns).catalog.find? core.name = some core := hf
    obtain ⟨notes, hobtain⟩ := hw.obtain hk core.name bench turns
    have hcall : call depth .awaited core.name args (bench.disturbed turns) =
        settleThrough .awaited .awaited [] core.name []
          (result, (bench.deliverAll notes).undisturbed) :=
      (callWith_of_texts hf hs ht).trans (congrArg _ hobtain)
    have hinner : innerResultsWith (answerUpTo depth) (resultsUpTo depth) .awaited core.name args
        (bench.disturbed turns) = [] :=
      (innerResultsWith_of_texts hf hs ht).trans (hw.resultsOfWork _)
    refine ⟨notes, hcall, ?_⟩
    rw [results, resultsWith, hinner, List.nil_append, resultsThrough]
    exact congrArg (fun outcome => [outcome.1]) hcall
  | @forward tool next others hf hs hh _ ih =>
    subst hb
    have hf : (bench.disturbed turns).catalog.find? tool.name = some tool := hf
    rw [List.length_cons] at hd
    obtain ⟨depth, rfl⟩ := Nat.exists_eq_succ_of_ne_zero (Nat.ne_zero_of_lt hd)
    obtain ⟨notes, hnext, hresults⟩ : ∃ notes,
        call depth .awaited next (texts.map .str)
          ((bench.deliver (texts.map .str)).disturbed turns) = _ ∧ _ :=
      ih rfl (Nat.le_of_lt_succ hd) (Value.texts_map_str texts)
    have hcall := call_forwardAwaited hf hs ht hh hnext
    rw [deliverAll_deliver] at hcall hresults
    refine ⟨texts.map .str :: notes, hcall, ?_⟩
    rw [results_forwardAwaited hf hs ht hh, hcall]
    exact congrArg (· ++ _) hresults

end

/-- What a cancellation of the outermost call of a chain comes to. The bench after the call and
the results of all levels are told of the chain with the cancellation ahead. -/
structure Cancellation (depth : Nat) (name : String) (others : List String) (args : List Value)
    (texts : List String) (core : Tool) (turns : Nat) (bench : Bench) : Prop where
  /-- If the work at the end lets the cancellation through, it goes through all levels. But for the
  notes of the handlers the bench is left as it was: nothing is logged, and the catalog is the
  same. -/
  escapes : ∀ fault, core.handler.Waits (texts.map .str) (.error fault) →
    fault.kind = .cancelled →
      results depth .awaited name args (bench.disturbed turns) =
        List.replicate (others.length + 1) (.error fault) ∧
      ∃ notes, call depth .awaited name args (bench.disturbed turns) =
        (.error fault, (bench.deliverAll notes).undisturbed)
  /-- If the work answers it by a reply, all levels succeed, each with the observation of the next
  one, and the innermost one with the reply. -/
  answered : ∀ reply text, core.handler.Waits (texts.map .str) (.ok reply) →
    reply.text = .ok text →
      ∃ o inners, Observation.Carry bench.settings reply (name :: others) (o :: inners) ∧
        (∀ level ∈ o :: inners, level.outcome = .success) ∧
        results depth .awaited name args (bench.disturbed turns) =
          (o :: inners).reverse.map .ok ∧
        ∃ notes, call depth .awaited name args (bench.disturbed turns) =
          (.ok o, (bench.deliverAll notes).undisturbed)
  /-- A reply without a text is a failure, as it is without a cancellation. The innermost level
  reports it, and the others succeed. -/
  unshown : ∀ reply fault text, core.handler.Waits (texts.map .str) (.ok reply) →
    reply.text = .error fault → fault.kind.isException = true → fault.text? = some text →
      ∃ o, (call depth .awaited name args (bench.disturbed turns)).1 = .ok o ∧
        o.Relays bench.settings name others [] (fault.kind.name ++ ": " ++ text)
  /-- If the chain has come to its end before the cancellation, it does the same without it. -/
  finished : (call depth .awaited name args (bench.disturbed turns)).2.cancelAfter ≠ none →
    call depth .awaited name args bench.undisturbed =
      ((call depth .awaited name args (bench.disturbed turns)).1,
        (call depth .awaited name args (bench.disturbed turns)).2.undisturbed)

/-- **Cancellations are not swallowed.** A chain of tools that wait for each other lets a
cancellation through from the inside to the outside. -/
theorem call_cancelled {depth : Nat} {name : String} {others texts : List String}
    {args : List Value} {core : Tool} {bench : Bench}
    (h : AwaitedChain bench.catalog texts.length core name others) (hd : others.length ≤ depth)
    (ht : Value.Texts args texts) (turns : Nat) :
    Cancellation depth name others args texts core turns bench := by
  refine ⟨?escapes, ?answered, ?unshown, ?finished⟩
  case escapes =>
    intro fault hw hk
    have hexception : fault.kind.isException = false := by
      rw [hk]
      rfl
    have hkind : ∀ raised, (.error fault : Except Fault Reply) = .error raised →
        raised.kind ≠ .exhausted := by
      intro raised he
      rw [← Except.error.inj he, hk]
      decide
    obtain ⟨notes, hcall, hresults⟩ := h.exists_call_eq rfl hd ht hw hkind turns
    rw [resultsThrough_of_not_isException hexception] at hresults
    rw [settleThrough_of_not_isException hexception] at hcall
    exact ⟨hresults, notes, hcall⟩
  case answered =>
    intro reply text hw hreply
    obtain ⟨notes, hcall, hresults⟩ := h.exists_call_eq rfl hd ht hw nofun turns
    obtain ⟨o, inners, hcarry, hsettle, hthrough⟩ := exists_settleThrough_of_text hreply
    rw [hthrough] at hresults
    rw [hsettle] at hcall
    exact ⟨o, inners, hcarry, hcarry.outcome, hresults, notes, hcall⟩
  case unshown =>
    intro reply fault text hw hreply hk hf
    obtain ⟨notes, hcall, _⟩ := h.exists_call_eq rfl hd ht hw nofun turns
    obtain ⟨o, ho, hrelays⟩ := settleThrough_of_isException hk hf h.getLast?
    rw [settleThrough_of_textless hreply, ho] at hcall
    exact ⟨o, congrArg Prod.fst hcall, hrelays⟩
  case finished =>
    intro hahead
    exact overlooked_cancellation.call depth .awaited name args (bench.disturbed turns) hahead

/-- A parameter for a text. -/
def stringParameter (name : String) (visible : Text.Visible name) : Parameter :=
  ⟨⟨⟨name, "string", "", true⟩, none⟩, visible⟩

theorem visible_park : Text.Visible "park" := by decide

/-- A tool that takes a text. -/
def parking (handler : Handler) : Tool where
  declaration :=
    { name := "park"
      usage := ""
      parameters := [stringParameter "a" visible_a]
      visible := visible_park
      distinct := List.nodup_singleton _ }
  handler := handler

/-- A tool that waits for `parking`. -/
def awaiting : Tool where
  declaration := { (parking Stock.forever).declaration with
    name := "relay", visible := visible_relay }
  handler := Stock.forwardAwaited "park"

theorem reader_stringParameter (name : String) (visible : Text.Visible name) :
    (stringParameter name visible).reader = .string := by
  have hlabel : (stringParameter name visible).reader = .ofLabel "string" :=
    Parameter.reader_eq rfl
  have hnone : Reader.labels.find?
      (fun entry => Text.isWord entry.1 (Text.trim "string".toList)) = none := rfl
  rw [hlabel, Reader.ofLabel, hnone]
  rfl

theorem parking_takesTexts (handler : Handler) : (parking handler).declaration.TakesTexts 1 := by
  refine ⟨rfl, fun p hm => ?_⟩
  rw [List.mem_singleton.mp hm]
  exact reader_stringParameter "a" visible_a

/-- A chain of two tools. At its end one handler lets the cancellation through, another one
answers it, and a third one does not wait for it. -/
theorem call_cancelled_parking :
    results 1 .awaited "relay" [.bool true]
        (((holding (parking Stock.forever)).put awaiting).disturbed 2) =
      [.error .cancelled, .error .cancelled] ∧
    (∃ o inner, Observation.Carry {} (.data (.str "swallowed")) ["relay", "park"] [o, inner] ∧
      results 1 .awaited "relay" [.bool true]
          (((holding (parking Stock.stubborn)).put awaiting).disturbed 2) =
        [.ok inner, .ok o]) ∧
    (call 1 .awaited "relay" [.bool true]
        ((holding (parking Stock.list)).put awaiting).undisturbed).1 =
      (call 1 .awaited "relay" [.bool true]
        (((holding (parking Stock.list)).put awaiting).disturbed 2)).1 := by
  have hcancelled (handler : Handler) : Cancellation 1 "relay" ["park"] [.bool true] ["True"]
      (parking handler) 2 ((holding (parking handler)).put awaiting) := by
    have hpark : ((holding (parking handler)).put awaiting).catalog.find? "park" =
        some (parking handler) := by
      rw [put, Catalog.find?_insert, if_neg (by decide)]
      exact find?_holding (parking handler)
    have hrelay : ((holding (parking handler)).put awaiting).catalog.find? awaiting.name =
        some awaiting := find?_put rfl
    have htexts : awaiting.declaration.TakesTexts 1 :=
      ⟨(parking_takesTexts handler).length, (parking_takesTexts handler).reader⟩
    have hchain : AwaitedChain ((holding (parking handler)).put awaiting).catalog 1
        (parking handler) "relay" ["park"] :=
      .forward hrelay htexts rfl (.core hpark (parking_takesTexts handler))
    exact call_cancelled hchain (Nat.le_refl 1) (.cons rfl .nil) 2
  refine ⟨((hcancelled _).escapes _ (Stock.forever_waits _) rfl).1, ?_, ?_⟩
  · obtain ⟨o, inners, hcarry, _, hresults, _⟩ :=
      (hcancelled _).answered _ _ (Stock.stubborn_waits _) rfl
    cases hcarry with
    | around hinner hs =>
      cases hinner with
      | core hcore => exact ⟨o, _, .around (.core hcore) hs, hresults⟩
      | around hnone _ => cases hnone
  · have hahead : (call 1 .awaited "relay" [.bool true]
        (((holding (parking Stock.list)).put awaiting).disturbed 2)).2.cancelAfter = some 2 := rfl
    have hne := Option.some_ne_none 2
    rw [← hahead] at hne
    rw [(hcancelled Stock.list).finished hne]

end Bench
end Toolbench
