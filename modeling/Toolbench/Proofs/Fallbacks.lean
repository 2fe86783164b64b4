import Toolbench.Proofs.Call
import Toolbench.Proofs.Standard
import Toolbench.Stock.Handlers
import Toolbench.Stock.Readers

/-! # The fallbacks that an observation tells of

An argument is replaced when its reader rejects the text and has a fallback for it. A call that
reads all its arguments tells of exactly the replaced ones, whether it ends in a success or in a
failure. A call that stops at a later argument tells of none, so the earlier ones that were
replaced are missing from its observation (`call_fallbacks_iff`). -/

namespace Toolbench
namespace Argument

/-- The names of the parameters whose argument is replaced, in their order, when arguments are
read up to the first fault. A fallback that cannot be noted in the log has been used all the
same. -/
def replaced : List Parameter → List Value → List String
  | p :: parameters, raw :: raws =>
    match p.reader.read raw with
    | .error _ => []
    | .ok argument =>
      (if argument.defaulted then [p.name] else []) ++
        match p.notices raw argument with
        | .error _ => []
        | .ok _ => replaced parameters raws
  | _, _ => []

variable {parameters : List Parameter} {args : List Value} {i : Nat} {fault : Fault}
  {readings others : List (Argument × List Event)}

theorem replaced_cons {p : Parameter} {raw : Value} {reading : Argument × List Event}
    (h : p.read raw = .ok reading) :
    replaced (p :: parameters) (raw :: args) =
      (if reading.1.defaulted then [p.name] else []) ++ replaced parameters args := by
  obtain ⟨hread, hnotices⟩ := Parameter.read_eq_ok_iff.mp h
  simp only [replaced, hread, hnotices]

/-- When all arguments are read, the replaced ones are those that remember it. -/
theorem Completes.replaced_eq (h : Completes parameters args readings) :
    replaced parameters args = fallbackNames parameters (readings.map (·.1)) := by
  induction parameters generalizing args readings with
  | nil => rfl
  | cons p parameters ih =>
    cases args with
    | nil =>
      cases h
      rfl
    | cons raw args =>
      obtain _ | ⟨hr, h⟩ := h
      rw [replaced_cons hr, ih h, List.map_cons, fallbackNames_cons]

/-- The parameter of an argument is named exactly if the argument was replaced, as no two
parameters share a name. -/
theorem mem_fallbackNames_iff {arguments : List Argument} {p : Parameter} {argument : Argument}
    (hd : (parameters.map (·.name)).Nodup) (hp : parameters[i]? = some p)
    (ha : arguments[i]? = some argument) :
    p.name ∈ fallbackNames parameters arguments ↔ argument.defaulted = true := by
  induction parameters generalizing arguments i with
  | nil => cases hp
  | cons q parameters ih =>
    cases arguments with
    | nil => cases ha
    | cons first arguments =>
      obtain ⟨hfresh, hd⟩ := List.nodup_cons.mp hd
      rw [fallbackNames_cons, List.mem_append]
      cases i with
      | zero =>
        cases hp
        cases ha
        have hlater : p.name ∉ fallbackNames parameters arguments := fun hm => by
          obtain ⟨⟨q, _⟩, hq, hn⟩ := List.mem_map.mp hm
          have hq : q ∈ parameters := (List.of_mem_zip (List.mem_filter.mp hq).1).1
          exact hfresh (List.mem_map.mpr ⟨q, hq, hn⟩)
        cases argument.defaulted <;> simp [hlater]
      | succ i =>
        have hne : p.name ≠ q.name := fun he =>
          hfresh (List.mem_map.mpr ⟨p, List.mem_of_getElem? hp, he⟩)
        have hfirst : p.name ∉ (if first.defaulted then [q.name] else []) := by
          split
          · rwa [List.mem_singleton]
          · exact List.not_mem_nil
        rw [or_iff_right hfirst]
        exact ih hd hp ha

theorem Completes.not_stops (h : Completes parameters args readings) :
    ¬ Stops parameters args i fault others := by
  intro hs
  have hread : Except.ok (readings.map (·.1)) = .error fault :=
    congrArg Prod.snd (h.readAll.symm.trans hs.readAll)
  cases hread

end Argument

namespace Bench

open Argument (Completes Stops replaced)

/-- An observation tells of exactly the replaced arguments if and only if all arguments of the
call are read or none is replaced. Otherwise it tells of none. -/
theorem call_fallbacks_iff {depth : Nat} {mode : Mode} {name : String} {args : List Value}
    {bench : Bench} {tool : Tool} {o : Observation}
    (hf : bench.catalog.find? name = some tool)
    (hl : args.length = tool.declaration.parameters.length)
    (ho : (call depth mode name args bench).1 = .ok o) :
    (o.fallbacks = replaced tool.declaration.parameters args ↔
      (∃ readings, Completes tool.declaration.parameters args readings) ∨
        replaced tool.declaration.parameters args = []) ∧
    ((¬ ∃ readings, Completes tool.declaration.parameters args readings) →
      o.fallbacks = []) := by
  rcases Argument.completes_or_stops tool.declaration.parameters args with
    ⟨readings, hc⟩ | ⟨i, fault, readings, hs⟩
  · have hall : o.fallbacks = replaced tool.declaration.parameters args := by
      rw [fallbacks_of_completes hf hl hc ho, hc.replaced_eq, fallbacksOf]
    exact ⟨iff_of_true hall (.inl ⟨readings, hc⟩), fun h => absurd ⟨readings, hc⟩ h⟩
  · have hnone : o.fallbacks = [] := fallbacks_of_stops hf hl hs ho
    have hstop : ¬ ∃ readings, Completes tool.declaration.parameters args readings := by
      rintro ⟨_, hc⟩
      exact hc.not_stops hs
    refine ⟨?_, fun _ => hnone⟩
    rw [hnone]
    exact ⟨fun h => .inr h.symm, fun h => (h.resolve_left hstop).symm⟩

/-- A parameter for an integer. -/
def integerParameter (name : String) (visible : Text.Visible name) : Parameter :=
  ⟨⟨⟨name, "integer", "", true⟩, none⟩, visible⟩

theorem ofLabel_integer : Reader.ofLabel "integer" = .integer := by
  have hkeyword : Text.isWord ["integer", "int"] (Text.trim "integer".toList) = true := by
    decide
  have hfind : Reader.labels.find?
      (fun entry => Text.isWord entry.1 (Text.trim "integer".toList)) =
        some (["integer", "int"], Reader.integer) := List.find?_cons_of_pos hkeyword
  rw [Reader.ofLabel, hfind, Option.map_some, Option.getD_some]

theorem reader_integerParameter (name : String) (visible : Text.Visible name) :
    (integerParameter name visible).reader = Standard.integer.reader :=
  (Parameter.reader_eq rfl).trans ofLabel_integer

/-- A tool that divides two integers. -/
def dividing : Tool where
  declaration :=
    { name := "div"
      usage := ""
      parameters :=
        [integerParameter "dividend" (by decide), integerParameter "divisor" (by decide)]
      visible := by decide
      distinct := List.pairwise_pair.mpr (by decide) }
  handler := Stock.div

theorem dividing_completes : ∃ events, Completes dividing.declaration.parameters
    [.str "10", .str "zero"] [(⟨"10", .int 10, false⟩, []), (⟨"zero", .int 0, true⟩, events)] := by
  have hten : Standard.integer.value? "10" = some (.int 10) := rfl
  have hzero : Standard.integer.value? "zero" = none := rfl
  obtain ⟨events, hb⟩ :=
    Parameter.read_of_rejected (reader_integerParameter "divisor" (by decide)) hzero
  have ha := Parameter.read_of_value? (reader_integerParameter "dividend" (by decide)) hten
  exact ⟨events, .cons ha (.cons hb .nil)⟩

theorem call_fallbacks_iff_dividing :
    ∃ o, (call 0 .direct "div" [.str "10", .str "zero"] (holding dividing)).1 = .ok o ∧
      o.outcome = .failure ∧ o.fallbacks = ["divisor"] := by
  obtain ⟨events, hc⟩ := dividing_completes
  have hf : (holding dividing).catalog.find? "div" = some dividing := find?_holding dividing
  have hr : ∃ after, Raises (answerUpTo 0) .direct dividing [.str "10", .str "zero"]
      (holding dividing) ["divisor"] (.message .zeroDivision "division by zero") after :=
    ⟨_, .work hc (.fault rfl)⟩
  obtain ⟨after, hr⟩ := hr
  obtain ⟨o, ho, hfail⟩ := callWith_failure_iff.mpr ⟨_, _, _, _, hf, rfl, hr, rfl, nofun⟩
  have hreplaced :
      replaced dividing.declaration.parameters [.str "10", .str "zero"] = ["divisor"] := by
    rw [hc.replaced_eq]
    rfl
  exact ⟨o, ho, hfail, hreplaced ▸ (call_fallbacks_iff hf rfl ho).1.mpr (.inl ⟨_, hc⟩)⟩

/-! ## A replaced argument that is not told of -/

theorem visible_a : Text.Visible "a" := by decide

theorem visible_b : Text.Visible "b" := by decide

/-- A tool with a parameter for an integer and one whose reader knows no text. -/
def halfReadable : Tool where
  declaration :=
    { name := "t"
      usage := ""
      parameters :=
        [integerParameter "a" visible_a,
         ⟨⟨⟨"b", "string", "", true⟩, some ⟨"custom", Stock.lookup [], .ok .null⟩⟩, visible_b⟩]
      visible := visible_t
      distinct := List.pairwise_pair.mpr (by decide) }
  handler := Stock.list

theorem halfReadable_stops : ∃ readings,
    Stops halfReadable.declaration.parameters [.str "x", .str "y"] 1
      (.carrying .missingKey (.str "y")) readings ∧
    replaced halfReadable.declaration.parameters [.str "x", .str "y"] = ["a"] := by
  have hx : Standard.integer.value? "x" = none := rfl
  obtain ⟨events, ha⟩ := Parameter.read_of_rejected (reader_integerParameter "a" visible_a) hx
  refine ⟨[(⟨"x", .int 0, true⟩, events)], ⟨.cons ha .nil, _, _, rfl, rfl, rfl⟩, ?_⟩
  rw [halfReadable, Argument.replaced_cons ha]
  rfl

/-- Its call fails at the second argument, after the first one has been replaced, and tells of no
fallback. -/
theorem call_halfReadable_omits :
    (start {} none).register halfReadable.declaration (some Stock.list) =
      .ok (holding halfReadable) ∧
    replaced halfReadable.declaration.parameters [.str "x", .str "y"] = ["a"] ∧
    (∃ o, (call 0 .direct "t" [.str "x", .str "y"] (holding halfReadable)).1 = .ok o ∧
      o.outcome = .failure ∧ o.fallbacks = []) ∧
    ∃ o, (call 0 .awaited "t" [.str "x", .str "y"] (holding halfReadable)).1 = .ok o ∧
      o.outcome = .failure ∧ o.fallbacks = [] := by
  obtain ⟨readings, hs, hreplaced⟩ := halfReadable_stops
  have hf : (holding halfReadable).catalog.find? "t" = some halfReadable :=
    find?_holding halfReadable
  have hcall (mode : Mode) :
      ∃ o, (call 0 mode "t" [.str "x", .str "y"] (holding halfReadable)).1 = .ok o ∧
        o.outcome = .failure ∧ o.fallbacks = [] := by
    obtain ⟨o, ho, hfail⟩ := callWith_failure_iff.mpr
      ⟨_, _, _, _, hf, rfl, Raises.reading hs, rfl, nofun⟩
    exact ⟨o, ho, hfail, fallbacks_of_stops hf rfl hs ho⟩
  exact ⟨rfl, hreplaced, hcall .direct, hcall .awaited⟩

end Bench
end Toolbench
