import Toolbench.Proofs.Classification

/-! # The alterations that a call makes

A handler may register, replace and remove tools while it runs, the one that is being called
among them. The call goes on with the tool that it found at its beginning, and the catalog after
it is the one before it with the alterations of the handler, in the order in which they were made
(`call_bound`). This holds for every end of a call, and through all calls that are made within
it. -/

namespace Toolbench

/-- A change of the tools in a catalog. -/
inductive Alteration where
  | put (tool : Tool)
  | erase (name : String)

def Catalog.alter (catalog : Catalog) : Alteration → Catalog
  | .put tool => catalog.insert tool
  | .erase name => catalog.erase name

namespace Alteration

/-- What a name finds after an alteration, from what it found before. -/
def resolve (name : String) (found : Option Tool) : Alteration → Option Tool
  | .put tool => if tool.name = name then some tool else found
  | .erase removed => if removed = name then none else found

theorem find?_alter (alteration : Alteration) (catalog : Catalog) (name : String) :
    (catalog.alter alteration).find? name = resolve name (catalog.find? name) alteration := by
  cases alteration with
  | put tool => exact catalog.find?_insert tool name
  | erase removed => exact catalog.find?_erase removed name

theorem find?_foldl_alter (alterations : List Alteration) (catalog : Catalog) (name : String) :
    (alterations.foldl Catalog.alter catalog).find? name =
      alterations.foldl (resolve name) (catalog.find? name) := by
  induction alterations generalizing catalog with
  | nil => rfl
  | cons alteration alterations ih =>
    rw [List.foldl_cons, ih, find?_alter, List.foldl_cons]

end Alteration

/-! ## The alterations of scripts and calls -/

/-- The alterations that are made within a call. -/
abbrev Inner := Mode → String → List Value → Bench → List Alteration

/-- The alterations that a script makes, in their order: the registrations that are accepted, the
removals of tools that are there, and those made within the calls. -/
def Script.alterations (answer : Answer) (inner : Inner) :
    {mode : Mode} → Script mode → Bench → List Alteration
  | _, .finish _, _ | _, .fail _, _ | _, .postpone .., _ => []
  | _, .deliver values next, bench => next.alterations answer inner (bench.deliver values)
  | _, .register declaration handler next, bench =>
    match bench.register declaration (some handler) with
    | .ok after => .put ⟨declaration, handler⟩ :: (next none).alterations answer inner after
    | .error error => (next (some error)).alterations answer inner bench
  | _, .remove tool next, bench =>
    let (removed, after) := bench.remove tool
    (if removed then [.erase tool] else []) ++ (next removed).alterations answer inner after
  | _, .list next, bench => (next bench.catalog.names).alterations answer inner bench
  | _, .call tool values next, bench =>
    let (result, after) := answer .direct tool values bench
    inner .direct tool values bench ++ (next result).alterations answer inner after
  | _, .await tool values next, bench =>
    let (result, after) := answer .awaited tool values bench
    inner .awaited tool values bench ++ (next result).alterations answer inner after
  | _, .pause next cancelled, bench =>
    match bench.cancelAfter with
    | none => next.alterations answer inner bench
    | some 0 => cancelled.alterations answer inner { bench with cancelAfter := none }
    | some (turns + 1) => next.alterations answer inner { bench with cancelAfter := some turns }
  | _, .park cancelled, bench =>
    cancelled.alterations answer inner { bench with cancelAfter := none }

/-- The alterations of a script and, if the mode allows to wait for it, of the work that it puts
off. -/
def Script.alterationsOfWork (answer : Answer) (inner : Inner) (mode : Mode)
    (script : Script .direct) (bench : Bench) : List Alteration :=
  script.alterations answer inner bench ++
    match script.run answer bench with
    | (.error _, _) | (.ok (.reply _), _) => []
    | (.ok (.pending _ work), after) =>
      match mode with
      | .direct => []
      | .awaited => work.alterations answer inner after

namespace Bench

/-- The alterations that the handler of a call makes. There are none if it is not started. -/
def alterationsWith (answer : Answer) (inner : Inner) : Inner := fun mode name args bench =>
  match bench.catalog.find? name with
  | none => []
  | some tool =>
    if args.length = tool.declaration.arity then
      match Argument.readAll tool.declaration.parameters args with
      | (_, .error _) => []
      | (events, .ok arguments) =>
        (tool.handler (arguments.map (·.value))).alterationsOfWork answer inner mode
          (bench.record events)
    else []

/-- The same for calls nested at most `depth` deep. -/
def alterationsUpTo : Nat → Inner
  | 0 => fun _ _ _ _ => []
  | depth + 1 => alterationsWith (answerUpTo depth) (alterationsUpTo depth)

def alterations (depth : Nat) : Inner :=
  alterationsWith (answerUpTo depth) (alterationsUpTo depth)

/-- A registration that is accepted puts its tool into the catalog, and does nothing else to
it. -/
theorem catalog_register {bench after : Bench} {declaration : Declaration} {handler : Handler}
    (h : bench.register declaration (some handler) = .ok after) :
    after.catalog = bench.catalog.alter (.put ⟨declaration, handler⟩) := by
  obtain ⟨_, hh, _, rfl⟩ := register_eq_ok_iff.mp h
  cases hh
  rfl

/-- A removal takes a tool out of the catalog if it is there. -/
theorem catalog_remove_eq_foldl (bench : Bench) (name : String) :
    (bench.remove name).2.catalog =
      (if (bench.remove name).1 then [Alteration.erase name] else []).foldl Catalog.alter
        bench.catalog := by
  rw [catalog_remove, remove_fst]
  by_cases h : name ∈ bench.catalog.names
  · rw [if_pos (decide_eq_true h)]
    rfl
  · rw [if_neg (by simpa using h), Catalog.erase_of_notMem h]
    rfl

end Bench

section
variable {answer : Answer} {inner : Inner}
  (ha : ∀ mode tool values bench, (answer mode tool values bench).2.catalog =
    (inner mode tool values bench).foldl Catalog.alter bench.catalog)
include ha

/-- A run of a script leaves the catalog with the alterations that the script has made. -/
theorem Script.catalog_run {mode : Mode} (script : Script mode) (bench : Bench) :
    (script.run answer bench).2.catalog =
      (script.alterations answer inner bench).foldl Catalog.alter bench.catalog := by
  induction script generalizing bench with
  | finish | fail | postpone => rfl
  | deliver values next ih => exact ih (bench.deliver values)
  | register declaration handler next _ ih =>
    rw [run, alterations]
    cases hr : bench.register declaration (some handler) with
    | ok after => exact (ih none after).trans (by rw [List.foldl_cons, Bench.catalog_register hr])
    | error error => exact ih (some error) bench
  | remove tool next ih =>
    rw [run, alterations, List.foldl_append, ← Bench.catalog_remove_eq_foldl]
    exact ih _ _
  | list next ih => exact ih bench.catalog.names bench
  | call tool values next ih =>
    rw [run, alterations, List.foldl_append, ← ha]
    exact ih _ _
  | await tool values next ih =>
    rw [run, alterations, List.foldl_append, ← ha]
    exact ih _ _
  | pause next cancelled ih ih' =>
    rw [run, alterations]
    cases bench.cancelAfter with
    | none => exact ih bench
    | some turns =>
      cases turns with
      | zero => exact ih' { bench with cancelAfter := none }
      | succ turns => exact ih { bench with cancelAfter := some turns }
  | park cancelled ih => exact ih { bench with cancelAfter := none }

theorem Script.catalog_obtain (mode : Mode) (tool : String) (script : Script .direct)
    (bench : Bench) : (script.obtain answer mode tool bench).2.catalog =
      (script.alterationsOfWork answer inner mode bench).foldl Catalog.alter bench.catalog := by
  rw [alterationsOfWork, List.foldl_append, ← script.catalog_run ha bench]
  generalize ho : script.obtain answer mode tool bench = outcome
  cases obtain_eq_iff.mp ho with
  | fault hr | reply hr | unawaited hr =>
    rw [hr]
    rfl
  | @workFault _ work between _ _ hr hw | @workReply _ work between _ _ hr hw =>
    simp only [hr, ← work.catalog_run ha between, hw]

end

namespace Bench

open Argument (Completes Stops events values)

section
variable {answer : Answer} {inner : Inner} {mode : Mode} {name : String} {args : List Value}
  {bench : Bench} {tool : Tool} {readings : List (Argument × List Event)}

theorem alterationsWith_of_find?_none (h : bench.catalog.find? name = none) :
    alterationsWith answer inner mode name args bench = [] := by
  simp only [alterationsWith, h]

theorem alterationsWith_of_length_ne (hf : bench.catalog.find? name = some tool)
    (hl : args.length ≠ tool.declaration.arity) :
    alterationsWith answer inner mode name args bench = [] := by
  simp only [alterationsWith, hf, if_neg hl]

theorem alterationsWith_of_stops {i : Nat} {fault : Fault}
    (hf : bench.catalog.find? name = some tool) (hl : args.length = tool.declaration.arity)
    (h : Stops tool.declaration.parameters args i fault readings) :
    alterationsWith answer inner mode name args bench = [] := by
  simp only [alterationsWith, hf, if_pos hl, h.readAll]

/-- The alterations of a call are those of the handler that was found at its beginning. -/
theorem alterationsWith_of_completes (hf : bench.catalog.find? name = some tool)
    (hl : args.length = tool.declaration.arity)
    (h : Completes tool.declaration.parameters args readings) :
    alterationsWith answer inner mode name args bench =
      (tool.handler (values readings)).alterationsOfWork answer inner mode
        (bench.record (events readings)) := by
  simp only [alterationsWith, hf, if_pos hl, h.readAll, List.map_map]
  rfl

/-- The end of a call leaves the catalog alone. -/
theorem catalog_settle (mode : Mode) (name : String) (fallbacks : List String)
    (outcome : Except Fault Reply × Bench) :
    (settle mode name fallbacks outcome).2.catalog = outcome.2.catalog := by
  obtain ⟨_, h⟩ := settle_snd mode name fallbacks outcome.1 outcome.2
  rw [h]
  rfl

/-- What a call leaves of the catalog is what the answers to inner calls and its handler leave. -/
theorem catalog_callWith
    (ha : ∀ mode tool values bench, (answer mode tool values bench).2.catalog =
      (inner mode tool values bench).foldl Catalog.alter bench.catalog)
    (mode : Mode) (name : String) (args : List Value) (bench : Bench) :
    (callWith answer mode name args bench).2.catalog =
      (alterationsWith answer inner mode name args bench).foldl Catalog.alter bench.catalog := by
  rcases entry_cases name args bench with
    hf | ⟨tool, hf, hl | ⟨hl, ⟨readings, hc⟩ | ⟨_, fault, readings, hs⟩⟩⟩
  · rw [callWith_of_find?_none hf, alterationsWith_of_find?_none hf]
    rfl
  · rw [callWith_of_length_ne hf hl, alterationsWith_of_length_ne hf hl]
    rfl
  · rw [callWith_of_length_eq hf hl, apply_of_completes hc, catalog_settle, workOn,
      Script.catalog_obtain ha, alterationsWith_of_completes hf hl hc]
    rfl
  · obtain ⟨_, he⟩ := (bench.record (events readings)).capture_snd mode name [] fault
    rw [callWith_of_stops hf hl hs, he, alterationsWith_of_stops hf hl hs]
    rfl

end

theorem catalog_answerUpTo (depth : Nat) (mode : Mode) (name : String) (args : List Value)
    (bench : Bench) : (answerUpTo depth mode name args bench).2.catalog =
      (alterationsUpTo depth mode name args bench).foldl Catalog.alter bench.catalog := by
  induction depth generalizing mode name args bench with
  | zero => rfl
  | succ depth ih => exact catalog_callWith ih mode name args bench

/-- What a call finds at its beginning, and what it leaves. -/
structure Bound (depth : Nat) (mode : Mode) (name : String) (args : List Value)
    (bench : Bench) : Prop where
  /-- The call goes on with the tool that it has found, with its parameters and its handler, and
  never looks for it again. -/
  call_eq : ∀ {tool : Tool} {readings : List (Argument × List Event)},
    bench.catalog.find? name = some tool →
    args.length = tool.declaration.parameters.length →
    Completes tool.declaration.parameters args readings →
      call depth mode name args bench = settle mode tool.name (fallbacksOf tool readings)
        ((tool.handler (values readings)).obtain (answerUpTo depth) mode tool.name
          (bench.record (events readings)))
  /-- Its handler is started with the values that its own parameters have read. -/
  received : ∀ {tool : Tool} {readings : List (Argument × List Event)} {handler : Handler},
    bench.catalog.find? name = some tool →
    args.length = tool.declaration.parameters.length →
    Completes tool.declaration.parameters args readings → tool.handler = handler.noted →
      bench.deliveries ++ [values readings] <+: (call depth mode name args bench).2.deliveries
  /-- The observation tells of this tool, and of the fallbacks of its own parameters. -/
  reported : ∀ {tool : Tool} {readings : List (Argument × List Event)} {o : Observation},
    bench.catalog.find? name = some tool →
    args.length = tool.declaration.parameters.length →
    Completes tool.declaration.parameters args readings →
    (call depth mode name args bench).1 = .ok o →
      o.tool = tool.name ∧ o.fallbacks = fallbacksOf tool readings
  /-- All alterations are those of its handler, and of the calls that this makes. -/
  alterations_eq : ∀ {tool : Tool} {readings : List (Argument × List Event)},
    bench.catalog.find? name = some tool →
    args.length = tool.declaration.parameters.length →
    Completes tool.declaration.parameters args readings →
      alterations depth mode name args bench =
        (tool.handler (values readings)).alterationsOfWork (answerUpTo depth)
          (alterationsUpTo depth) mode (bench.record (events readings))
  /-- There are none if no handler is started. -/
  unaltered : (∀ tool readings, bench.catalog.find? name = some tool →
    args.length = tool.declaration.parameters.length →
      ¬ Completes tool.declaration.parameters args readings) →
    alterations depth mode name args bench = []
  /-- However the call ends, it leaves the catalog with the alterations made to it in their
  order. -/
  catalog_eq : (call depth mode name args bench).2.catalog =
    (alterations depth mode name args bench).foldl Catalog.alter bench.catalog
  /-- A name finds afterwards what the alterations have left of what it found before. -/
  found : ∀ other : String, (call depth mode name args bench).2.catalog.find? other =
    (alterations depth mode name args bench).foldl (Alteration.resolve other)
      (bench.catalog.find? other)
  /-- The next call of the name takes the tool that it finds after these alterations. -/
  next : ∀ {tool : Tool} {depth' : Nat} {mode' : Mode} {args' : List Value},
    (alterations depth mode name args bench).foldl (Alteration.resolve name)
      (bench.catalog.find? name) = some tool →
    args'.length = tool.declaration.parameters.length →
      call depth' mode' name args' (call depth mode name args bench).2 =
        (call depth mode name args bench).2.apply (answerUpTo depth') mode' tool args'
  /-- It fails if there is none. -/
  next_unknown : ∀ {depth' : Nat} {mode' : Mode} {args' : List Value},
    (alterations depth mode name args bench).foldl (Alteration.resolve name)
      (bench.catalog.find? name) = none →
      (call depth' mode' name args' (call depth mode name args bench).2).1 =
        .ok (.unknownTool bench.settings name)

/-- Calls are bound to the tool that they find at their beginning, and change the catalog by
nothing but the alterations of its handler. -/
theorem call_bound (depth : Nat) (mode : Mode) (name : String) (args : List Value)
    (bench : Bench) : Bound depth mode name args bench := by
  have hcatalog : (call depth mode name args bench).2.catalog =
      (alterations depth mode name args bench).foldl Catalog.alter bench.catalog :=
    catalog_callWith (catalog_answerUpTo depth) mode name args bench
  have hfound (other : String) : (call depth mode name args bench).2.catalog.find? other =
      (alterations depth mode name args bench).foldl (Alteration.resolve other)
        (bench.catalog.find? other) := by
    rw [hcatalog, Alteration.find?_foldl_alter]
  have hcall {tool : Tool} {readings : List (Argument × List Event)}
      (hf : bench.catalog.find? name = some tool)
      (hl : args.length = tool.declaration.parameters.length)
      (hc : Completes tool.declaration.parameters args readings) :
      call depth mode name args bench = settle mode tool.name (fallbacksOf tool readings)
        (workOn (answerUpTo depth) mode tool readings bench) := by
    rw [call, callWith_of_length_eq hf hl, apply_of_completes hc]
  refine
    { call_eq := hcall
      received := fun hf hl hc hn => call_started depth mode hf hl hc hn
      reported := fun hf hl hc ho => ?reported
      alterations_eq := fun hf hl hc => alterationsWith_of_completes hf hl hc
      unaltered := fun h => ?unaltered
      catalog_eq := hcatalog
      found := hfound
      next := fun hn hl => callWith_of_length_eq ((hfound name).trans hn) hl
      next_unknown := fun hn => ?next_unknown }
  case reported =>
    rw [hcall hf hl hc] at ho
    exact ⟨tool_of_settle ho, fallbacks_of_settle ho⟩
  case unaltered =>
    rcases entry_cases name args bench with
      hf | ⟨tool, hf, hl | ⟨hl, ⟨readings, hc⟩ | ⟨_, _, _, hs⟩⟩⟩
    · exact alterationsWith_of_find?_none hf
    · exact alterationsWith_of_length_ne hf hl
    · exact absurd hc (h tool readings hf hl)
    · exact alterationsWith_of_stops hf hl hs
  case next_unknown =>
    have hs : (call depth mode name args bench).2.settings = bench.settings :=
      kept_settings.call depth mode name args bench
    rw [← hs]
    exact congrArg Prod.fst (callWith_of_find?_none ((hfound name).trans hn))

/-- A tool that notes its arguments. -/
def noting : Tool := nullary fun values => .deliver values (.finish (.data .null))

/-- A bench with one tool, which registers `noting` in its own place and then fails. -/
def replacing : Bench :=
  holding <| nullary fun values => .deliver values
    (.register noting.declaration noting.handler fun _ => .fail (.bare .runtime))

/-- The failing call leaves the other tool, and the next call takes it. -/
theorem call_bound_replacing :
    (∃ o, (call 0 .direct "t" [] replacing).1 = .ok o ∧ o.tool = "t" ∧ o.outcome = .failure) ∧
    (call 0 .direct "t" [] replacing).2.catalog.find? "t" = some noting ∧
    call 0 .awaited "t" [] (call 0 .direct "t" [] replacing).2 =
      (call 0 .direct "t" [] replacing).2.apply (answerUpTo 0) .awaited noting [] := by
  have hbound := call_bound 0 .direct "t" [] replacing
  have hf : replacing.catalog.find? "t" = some (nullary _) := find?_nullary _
  have halterations : alterations 0 .direct "t" [] replacing = [.put noting] :=
    (hbound.alterations_eq hf rfl (nullary_completes _)).trans rfl
  have hfound : ([.put noting] : List Alteration).foldl (Alteration.resolve "t")
      (replacing.catalog.find? "t") = some noting := rfl
  rw [← halterations] at hfound
  refine ⟨?_, (hbound.found "t").trans hfound, hbound.next hfound rfl⟩
  have hcall := hbound.call_eq hf rfl (nullary_completes _)
  obtain ⟨o, ho, houtcome⟩ : ∃ o, (call 0 .direct "t" [] replacing).1 = .ok o ∧
      o.outcome = .failure := by
    rw [hcall]
    exact ⟨_, rfl, rfl⟩
  exact ⟨o, ho, (hbound.reported hf rfl (nullary_completes _) ho).1, houtcome⟩

end Bench

end Toolbench
