import Toolbench.Proofs.Delivery
import Toolbench.Proofs.Modes
import Toolbench.Proofs.ReadBack

/-! # Tools that hand their arguments on

A chain of tools, each of which hands the values that it receives on to the next one and replies
with the observation of that call. Read once, values are read back as they are, so the tool at
the end of the chain receives what the outermost call has read (`ReadsBack`). A failure of this
tool is reported once, by the innermost call; all calls around it succeed, and each shows the
text of the next one in its own (`chain_call`). -/

namespace Toolbench

/-- A script that works on its own and comes to its end at once. The arguments that it notes on
the way are given with its result. -/
inductive Script.Ends : Script .direct → List (List Value) → Except Fault Reply → Prop
  | finish (reply : Reply) : Ends (.finish reply) [] (.ok reply)
  | fail (fault : Fault) : Ends (.fail fault) [] (.error fault)
  | deliver {values : List Value} {next : Script .direct} {notes : List (List Value)}
      {result : Except Fault Reply} : Ends next notes result →
      Ends (.deliver values next) (values :: notes) result

theorem Script.Ends.run {script : Script .direct} {notes : List (List Value)}
    {result : Except Fault Reply} (h : script.Ends notes result) (answer : Answer)
    (bench : Bench) : script.run answer bench = (result.map .reply, bench.deliverAll notes) := by
  induction h generalizing bench with
  | finish reply =>
    rw [Bench.deliverAll_nil]
    rfl
  | fail fault =>
    rw [Bench.deliverAll_nil]
    rfl
  | deliver _ ih => rw [Script.run, ih, Bench.deliverAll_deliver]

/-! ## Observations within observations -/

/-- The observations that a reply carries, from the outermost to the innermost. -/
def Reply.layers : Reply → List Observation
  | .observation tool outcome text reply fallbacks error =>
    ⟨tool, outcome, text, reply, fallbacks, error⟩ :: reply.layers
  | _ => []

namespace Observation

/-- An observation with those that it carries. -/
def layers (o : Observation) : List Observation :=
  o :: o.reply.layers

theorem layers_toReply (o : Observation) : o.toReply.layers = o.layers := rfl

/-- The text of an observation shows that of another one at its end, followed at most by the
warning of its fallbacks. -/
def Shows (settings : Settings) (outer inner : Observation) : Prop :=
  outer.text = settings.preamble ++ "the tool '" ++ outer.tool ++ "' returned: " ++ inner.text ++
    warning settings outer.fallbacks

/-- The observation of a tool around those of some others. All but the innermost of them report
a success, and this one reports a failure. Only the outermost one tells of fallbacks. -/
structure Relays (settings : Settings) (tool : String) (others fallbacks : List String)
    (reason : String) (o : Observation) : Prop where
  tools : o.layers.map (·.tool) = tool :: others
  outcomes : o.layers.map (·.outcome) = List.replicate others.length .success ++ [.failure]
  texts : o.layers.IsChain (Shows settings)
  reason : ∀ innermost, o.layers.getLast? = some innermost → innermost.error = some reason
  fallbacks : o.fallbacks = fallbacks
  unreplaced : ∀ inner ∈ o.layers.tail, inner.fallbacks = []

variable {settings : Settings} {tool : String} {fallbacks : List String} {o inner : Observation}

theorem Relays.of_failure {fault : Fault} {text : String} (ht : fault.text? = some text)
    (h : failure settings tool fault fallbacks = .ok o) :
    Relays settings tool [] fallbacks (fault.kind.name ++ ": " ++ text) o := by
  obtain ⟨text', ht', rfl⟩ := failure_eq_ok_iff.mp h
  obtain rfl : text = text' := Option.some.inj (ht.symm.trans ht')
  refine ⟨rfl, rfl, .singleton _, fun innermost hl => ?_, rfl, nofun⟩
  cases hl
  rfl

theorem Relays.of_success {next : String} {others : List String} {reason : String}
    (hi : Relays settings next others [] reason inner)
    (h : success settings tool inner.toReply fallbacks = .ok o) :
    Relays settings tool (next :: others) fallbacks reason o := by
  obtain ⟨text, ht, rfl⟩ := success_eq_ok_iff.mp h
  obtain rfl : inner.text = text := Except.ok.inj ht
  refine ⟨?_, ?_, .cons_cons rfl hi.texts, fun innermost hl => ?_, rfl, fun later hm => ?_⟩
  · rw [← hi.tools]
    rfl
  · rw [List.length_cons, List.replicate_succ, List.cons_append, ← hi.outcomes]
    rfl
  · exact hi.reason innermost hl
  · rcases List.mem_cons.mp hm with rfl | hm
    · exact hi.fallbacks
    · exact hi.unreplaced later hm

end Observation

/-! ## Values that are read again -/

/-- A parameter whose label names the reader of strings, integers or truth values. -/
def Parameter.Discrete (p : Parameter) : Prop :=
  p.ownReader = none ∧ (p.reader = .string ∨ p.reader = .integer ∨ p.reader = .boolean)

theorem Parameter.Discrete.exists_reader_eq {p : Parameter} (h : p.Discrete) :
    ∃ kind : Standard, p.reader = kind.reader ∧ kind ≠ .number := by
  rcases h.2 with hr | hr | hr
  · exact ⟨.string, hr, nofun⟩
  · exact ⟨.integer, hr, nofun⟩
  · exact ⟨.boolean, hr, nofun⟩

namespace Argument

variable {parameters : List Parameter}

/-- Parameters read values as they are, and replace none of them. -/
def ReadsBack (parameters : List Parameter) (received : List Value) : Prop :=
  ∃ back, Completes parameters received back ∧ values back = received ∧ events back = [] ∧
    fallbackNames parameters (back.map (·.1)) = []

theorem readsBack_of_discrete {texts : List String} {readings : List (Argument × List Event)}
    (hp : ∀ p ∈ parameters, p.Discrete)
    (h : Completes parameters (texts.map .str) readings) :
    ReadsBack parameters (values readings) := by
  induction parameters generalizing texts readings with
  | nil =>
    cases h
    exact ⟨[], .nil, rfl, rfl, rfl⟩
  | cons p parameters ih =>
    cases texts with
    | nil =>
      cases h
      exact ⟨[], .nil, rfl, rfl, rfl⟩
    | cons text texts =>
      cases h with
      | @cons _ reading _ readings hr h =>
        obtain ⟨back, hback, hvalues, hevents, hnames⟩ :=
          ih (fun q hq => hp q (List.mem_cons_of_mem p hq)) h
        obtain ⟨kind, hkind, hne⟩ := (hp p List.mem_cons_self).exists_reader_eq
        obtain ⟨argument, noticed, hr', hreading⟩ := Parameter.read_of_standard hkind text
        obtain rfl : reading = (argument, noticed) := Except.ok.inj (hr.symm.trans hr')
        obtain ⟨shown, hshown⟩ := Parameter.read_of_fits hkind hne hreading.fits
        refine ⟨(⟨shown, argument.value, false⟩, []) :: back, .cons hshown hback, ?_, hevents, ?_⟩
        · exact congrArg (argument.value :: ·) hvalues
        · rw [List.map_cons, fallbackNames_cons, hnames]
          rfl

end Argument

namespace Bench

open Argument (Completes ReadsBack events values)

/-! ## What is left of a chain when its end is known -/

/-- Ends the calls of a chain from the inside with what came of the work at its end. The inner
calls are all of one mode, and only the outermost call has fallbacks to tell of. -/
def settleThrough (inner mode : Mode) (fallbacks : List String) (name : String)
    (others : List String) (outcome : Except Fault Reply × Bench) :
    Except Fault Observation × Bench :=
  match others with
  | [] => settle mode name fallbacks outcome
  | next :: others =>
    let (result, after) := settleThrough inner inner [] next others outcome
    settle mode name fallbacks (result.map Observation.toReply, after)

section
variable {within mode : Mode} {fallbacks : List String} {name core : String} {others : List String}
  {result : Except Fault Reply} {after : Bench} {fault : Fault} {o : Observation}

theorem settleThrough_snd (within mode : Mode) (fallbacks : List String) (name : String)
    (others : List String) (result : Except Fault Reply) (after : Bench) :
    ∃ later, (settleThrough within mode fallbacks name others (result, after)).2 =
      after.record later := by
  induction others generalizing mode fallbacks name with
  | nil => exact settle_snd mode name fallbacks result after
  | cons next others ih =>
    obtain ⟨inner, hinner⟩ := ih within [] next
    obtain ⟨outer, houter⟩ := settle_snd mode name fallbacks
      ((settleThrough within within [] next others (result, after)).1.map Observation.toReply)
      (settleThrough within within [] next others (result, after)).2
    exact ⟨inner ++ outer, by rw [settleThrough, houter, hinner, record_record]⟩

/-- The reply of an observation is what the tool returned. A failure has none. -/
theorem reply_of_settle (h : (settle mode name fallbacks (result, after)).1 = .ok o) :
    o.reply = .data .null ∨ result = .ok o.reply := by
  rcases observation_of_settle h with ⟨_, hr, hs⟩ | ⟨_, hf⟩
  · obtain ⟨_, _, rfl⟩ := Observation.success_eq_ok_iff.mp hs
    exact .inr hr
  · obtain ⟨_, _, rfl⟩ := Observation.failure_eq_ok_iff.mp hf
    exact .inl rfl

theorem exists_of_map_eq_ok {α β ε : Type} {f : α → β} {first : Except ε α} {b : β}
    (h : first.map f = .ok b) : ∃ a, first = .ok a ∧ f a = b := by
  cases first with
  | error => cases h
  | ok a => exact ⟨a, rfl, Except.ok.inj h⟩

/-- No observation of the chain but the outermost one tells of fallbacks. -/
theorem fallbacks_of_settleThrough
    (h : (settleThrough within mode fallbacks name others (result, after)).1 = .ok o) :
    o.fallbacks = fallbacks ∧
      ∀ inner ∈ (o.layers.take (others.length + 1)).tail, inner.fallbacks = [] := by
  induction others generalizing mode fallbacks name o with
  | nil => exact ⟨fallbacks_of_settle h, nofun⟩
  | cons next others ih =>
    refine ⟨fallbacks_of_settle h, fun inner hm => ?_⟩
    have hm : inner ∈ o.reply.layers.take (others.length + 1) := hm
    rcases reply_of_settle h with hr | hr
    · rw [hr] at hm
      cases hm
    · obtain ⟨first, hfirst, hr⟩ := exists_of_map_eq_ok hr
      obtain ⟨hnone, hrest⟩ := ih hfirst
      rw [← hr, Observation.layers_toReply] at hm
      rcases List.mem_cons.mp hm with rfl | hm
      · exact hnone
      · exact hrest inner hm

/-- A fault that is an exception is reported by the innermost call, and all others succeed. -/
theorem settleThrough_of_isException {text : String} (hk : fault.kind.isException = true)
    (ht : fault.text? = some text) (hl : (name :: others).getLast? = some core) :
    ∃ o, settleThrough within mode fallbacks name others (.error fault, after) =
        (.ok o, after.record [.failed core]) ∧
      o.Relays after.settings name others fallbacks (fault.kind.name ++ ": " ++ text) := by
  induction others generalizing mode fallbacks name with
  | nil =>
    obtain rfl : name = core := Option.some.inj hl
    obtain ⟨o, ho⟩ : ∃ o, Observation.failure after.settings name fault fallbacks = .ok o :=
      Observation.exists_failure ht
    refine ⟨o, ?_, .of_failure ht ho⟩
    exact capture_of_failure hk ho
  | cons next others ih =>
    obtain ⟨inner, hinner, hrelays⟩ : ∃ inner,
        settleThrough within within [] next others (.error fault, after) =
          (.ok inner, after.record [.failed core]) ∧
      inner.Relays after.settings next others [] (fault.kind.name ++ ": " ++ text) := ih hl
    obtain ⟨o, ho⟩ : ∃ o, Observation.success after.settings name inner.toReply fallbacks = .ok o :=
      Observation.exists_success rfl
    refine ⟨o, ?_, hrelays.of_success ho⟩
    have hs : (after.record [.failed core]).settings = after.settings := rfl
    simp only [settleThrough, hinner, Except.map, settle, conclude, hs, ho]

/-- A fault that is no exception leaves all calls as it is. -/
theorem settleThrough_of_not_isException (hk : fault.kind.isException = false) :
    settleThrough within mode fallbacks name others (.error fault, after) =
      (.error fault, after) := by
  induction others generalizing mode fallbacks name with
  | nil => exact capture_of_not_isException hk
  | cons next others ih =>
    simp only [settleThrough, ih, Except.map, settle, capture_of_not_isException hk]

end

/-! ## Chains of calls -/

/-- Tools that hand their arguments on, each to the next one, and the tool at the end. All have
the same parameters. The chain is named by its first tool, and lists the others. -/
inductive Chain (catalog : Catalog) (parameters : List Parameter) (core : Tool) :
    String → List String → Prop
  | core : catalog.find? core.name = some core → core.declaration.parameters = parameters →
      Chain catalog parameters core core.name []
  | forward {tool : Tool} {next : String} {others : List String} :
      catalog.find? tool.name = some tool → tool.declaration.parameters = parameters →
      tool.handler = Stock.forward next → Chain catalog parameters core next others →
      Chain catalog parameters core tool.name (next :: others)

section
variable {depth : Nat} {mode : Mode} {name : String} {others : List String}
  {args : List Value} {parameters : List Parameter} {core tool : Tool} {bench : Bench}
  {readings : List (Argument × List Event)}

theorem Chain.getLast? {catalog : Catalog} (h : Chain catalog parameters core name others) :
    (name :: others).getLast? = some core.name := by
  induction h with
  | core => rfl
  | forward _ _ _ _ ih => rw [List.getLast?_cons_cons, ih]

/-- A tool that hands its arguments on ends its call with the observation of the next one. -/
theorem call_forward {next : String} (hf : bench.catalog.find? name = some tool)
    (hl : args.length = tool.declaration.parameters.length)
    (hc : Completes tool.declaration.parameters args readings)
    (hh : tool.handler = Stock.forward next) :
    call (depth + 1) mode name args bench =
      settle mode name (fallbacksOf tool readings)
        (Prod.map (Except.map Observation.toReply) id
          (call depth .direct next (values readings)
            ((bench.record (events readings)).deliver (values readings)))) := by
  rw [call, callWith_of_length_eq hf hl, apply_of_completes hc, workOn, hh,
    Catalog.name_of_find? hf, Stock.forward, Script.obtain, Script.run, Script.run]
  have ha : answerUpTo (depth + 1) = call depth := rfl
  rw [ha]
  rcases call depth .direct next (values readings)
    ((bench.record (events readings)).deliver (values readings)) with ⟨_ | _, _⟩ <;> rfl

/-- A chain of calls is settled from its end, where the last handler receives what the outermost
call has read. -/
theorem Chain.call_eq {handler : Handler} {notes : List (List Value)}
    {result : Except Fault Reply} (h : Chain bench.catalog parameters core name others)
    (hd : others.length ≤ depth) (hl : args.length = parameters.length)
    (hc : Completes parameters args readings) (hb : ReadsBack parameters (values readings))
    (hn : core.handler = handler.noted) (hq : (handler (values readings)).Ends notes result) :
    call depth mode name args bench =
      settleThrough .direct mode (Argument.fallbackNames parameters (readings.map (·.1))) name
        others (result, (bench.record (events readings)).deliverAll
          (List.replicate (others.length + 1) (values readings) ++ notes)) := by
  induction others generalizing name args readings bench depth mode with
  | nil =>
    obtain ⟨hf, rfl⟩ : bench.catalog.find? name = some core ∧
        core.declaration.parameters = parameters := by
      cases h with
      | core hf hp => exact ⟨hf, hp⟩
    rw [call, callWith_of_length_eq hf hl, apply_of_completes hc, workOn, hn,
      Script.obtain_noted, Script.obtain, hq.run, deliverAll_deliver, Catalog.name_of_find? hf]
    cases result <;> rfl
  | cons next others ih =>
    cases h with
    | @forward tool _ _ hf hp hh hchain =>
      subst hp
      rw [List.length_cons] at hd
      obtain ⟨depth, rfl⟩ := Nat.exists_eq_succ_of_ne_zero (Nat.ne_zero_of_lt hd)
      obtain ⟨back, hback, hvalues, hevents, hnames⟩ := hb
      have hl' : (values readings).length = tool.declaration.parameters.length := by
        rw [values, List.length_map, hc.length_eq hl]
      -- the next tool reads the values that it is handed as they are
      have hsame : ReadsBack tool.declaration.parameters (values back) := by
        rw [hvalues]
        exact ⟨back, hback, hvalues, hevents, hnames⟩
      have hinner : call depth .direct next (values readings)
          ((bench.record (events readings)).deliver (values readings)) = _ :=
        ih hchain (Nat.le_of_lt_succ hd) hl' hback hsame (hvalues.symm ▸ hq)
      rw [call_forward hf hl hc hh, hinner, hvalues, hevents, hnames, record_nil,
        deliverAll_deliver, ← List.cons_append, ← List.replicate_succ]
      rfl

end

/-- What a call of the first tool of a chain does. -/
structure ChainCall (depth : Nat) (mode : Mode) (name : String) (others : List String)
    (args : List Value) (bench : Bench) (parameters : List Parameter) (core : Tool)
    (handler : Handler) (readings : List (Argument × List Event)) : Prop where
  reads : Completes parameters args readings
  /-- All handlers receive what the outermost call has read from the arguments, that of the last
  tool too. -/
  delivered : ∀ notes result, (handler (values readings)).Ends notes result →
    (call depth mode name args bench).2.deliveries =
      bench.deliveries ++ List.replicate (others.length + 1) (values readings) ++ notes
  /-- The outermost observation alone tells of fallbacks. -/
  fallbacks : ∀ o, (call depth mode name args bench).1 = .ok o →
    o.fallbacks = Argument.fallbackNames parameters (readings.map (·.1)) ∧
    ∀ inner ∈ (o.layers.take (others.length + 1)).tail, inner.fallbacks = []
  /-- Nothing is logged before the end of the last handler but the fallbacks. -/
  warnings : ∀ event ∈ events readings, event.level = .warning
  /-- A failure is reported by the innermost call, and logged there once. -/
  captured : ∀ notes fault text, (handler (values readings)).Ends notes (.error fault) →
    fault.kind.isException = true → fault.text? = some text →
      (∃ o, (call depth mode name args bench).1 = .ok o ∧
        o.Relays bench.settings name others
          (Argument.fallbackNames parameters (readings.map (·.1)))
          (fault.kind.name ++ ": " ++ text)) ∧
      (call depth mode name args bench).2.log =
        bench.log ++ events readings ++ [.failed core.name]
  /-- A fault that is no exception goes on to the caller, and is not logged. -/
  escapes : ∀ notes fault, (handler (values readings)).Ends notes (.error fault) →
    fault.kind.isException = false →
      (call depth mode name args bench).1 = .error fault ∧
      (call depth mode name args bench).2.log = bench.log ++ events readings

/-- Texts that are handed along a chain of tools reach the end of it as the values that the first
tool has read from them, and a failure there is captured once. -/
theorem call_chain {depth : Nat} {mode : Mode} {name : String} {others texts : List String}
    {parameters : List Parameter} {core : Tool} {handler : Handler} {bench : Bench}
    (h : Chain bench.catalog parameters core name others)
    (hp : ∀ p ∈ parameters, p.Discrete) (hl : texts.length = parameters.length)
    (hd : others.length ≤ depth) (hn : core.handler = handler.noted)
    (hq : ∀ values, ∃ notes result, (handler values).Ends notes result) :
    ∃ readings, ChainCall depth mode name others (texts.map .str) bench parameters core handler
      readings := by
  obtain ⟨readings, hc⟩ := Argument.exists_completes texts fun p hm =>
    Parameter.exists_reader_eq (hp p hm).1
  have hl' : (texts.map Value.str).length = parameters.length := by rw [List.length_map, hl]
  have hb := Argument.readsBack_of_discrete hp hc
  have hcall {notes : List (List Value)} {result : Except Fault Reply}
      (he : (handler (values readings)).Ends notes result) :
      call depth mode name (texts.map .str) bench = _ := h.call_eq hd hl' hc hb hn he
  refine ⟨readings, hc, fun notes result he => ?_, fun o ho => ?_, fun event hm => ?_,
    fun notes fault text he hk ht => ?_, fun notes fault he hk => ?_⟩
  · obtain ⟨later, hlater⟩ := settleThrough_snd .direct mode
      (Argument.fallbackNames parameters (readings.map (·.1))) name others result
      ((bench.record (events readings)).deliverAll
        (List.replicate (others.length + 1) (values readings) ++ notes))
    rw [hcall he, hlater, List.append_assoc]
    rfl
  · obtain ⟨notes, result, he⟩ := hq (values readings)
    rw [hcall he] at ho
    exact fallbacks_of_settleThrough ho
  · obtain ⟨_, _, _, _, rfl⟩ := Argument.Reads.events_defaulted hc event hm
    rfl
  · rw [hcall he]
    obtain ⟨o, ho, hrelays⟩ := settleThrough_of_isException hk ht h.getLast?
    rw [ho]
    exact ⟨⟨o, rfl, hrelays⟩, rfl⟩
  · rw [hcall he, settleThrough_of_not_isException hk]
    exact ⟨rfl, rfl⟩

theorem visible_relay : Text.Visible "relay" := by decide

/-- A tool in front of `dividing`. -/
def relaying : Tool where
  declaration := { dividing.declaration with name := "relay", visible := visible_relay }
  handler := Stock.forward "div"

/-- The call divides by the zero that stands for a word. The inner observation reports it, and the
outer one tells that the word was replaced. -/
theorem call_chain_dividing :
    ∃ o, (call 1 .direct "relay" [.str "10", .str "zero"]
        ((holding dividing).put relaying)).1 = .ok o ∧
      o.Relays {} "relay" ["div"] ["divisor"] "ZeroDivisionError: division by zero" := by
  have hdiv : ((holding dividing).put relaying).catalog.find? "div" = some dividing := by
    rw [put, Catalog.find?_insert, if_neg (by decide)]
    exact find?_holding dividing
  have hrelay : ((holding dividing).put relaying).catalog.find? relaying.name = some relaying :=
    find?_put rfl
  have hchain : Chain ((holding dividing).put relaying).catalog dividing.declaration.parameters
      dividing "relay" ["div"] :=
    .forward hrelay rfl rfl (.core hdiv rfl)
  have hp : ∀ p ∈ dividing.declaration.parameters, p.Discrete := by
    intro p hm
    rcases List.mem_pair.mp hm with rfl | rfl <;>
      exact ⟨rfl, .inr (.inl (reader_integerParameter _ _))⟩
  obtain ⟨reply, hn, hzero⟩ : ∃ reply : List Value → Except Fault Reply,
      dividing.handler = Handler.noted (fun values => .ofExcept (reply values)) ∧
      reply [.int 10, .int 0] = .error (.message .zeroDivision "division by zero") :=
    ⟨_, rfl, rfl⟩
  have hends (values : List Value) :
      (Script.ofExcept (reply values) : Script .direct).Ends [] (reply values) := by
    cases reply values with
    | ok => exact .finish _
    | error => exact .fail _
  have hl : ["10", "zero"].length = dividing.declaration.parameters.length := rfl
  obtain ⟨readings, h⟩ : ∃ readings, ChainCall 1 .direct "relay" ["div"] [.str "10", .str "zero"]
      ((holding dividing).put relaying) dividing.declaration.parameters dividing
      (fun values => .ofExcept (reply values)) readings :=
    call_chain hchain hp hl (Nat.le_refl 1) hn fun values => ⟨_, _, hends values⟩
  obtain ⟨_, hten⟩ := dividing_completes
  obtain rfl := h.reads.unique hten
  have hfails : (Script.ofExcept (reply [.int 10, .int 0]) : Script .direct).Ends []
      (.error (.message .zeroDivision "division by zero")) := hzero ▸ hends [.int 10, .int 0]
  exact (h.captured [] _ "division by zero" hfails rfl rfl).1

end Bench

end Toolbench
