import Toolbench.Proofs.Classification
import Toolbench.Proofs.Fallbacks
import Toolbench.Proofs.Standard

/-! # What handlers receive

When the labels of a tool's parameters name its readers, a call with as many texts as there are
parameters cannot fail before the handler is started. The handler is started once, and the value
at each position is of the kind that the label names (`call_delivers`). -/

namespace Toolbench
namespace Argument

variable {parameters : List Parameter} {texts : List String}
  {readings : List (Argument × List Event)} {i : Nat} {p : Parameter} {text : String}

theorem Completes.exists_reading {kind : Standard}
    (h : Completes parameters (texts.map .str) readings) (hp : parameters[i]? = some p)
    (ht : texts[i]? = some text) (hr : p.reader = kind.reader) : ∃ argument events,
      readings[i]? = some (argument, events) ∧ p.reader.read (.str text) = .ok argument ∧
      kind.Reading text argument := by
  have hpair : (parameters.zip (texts.map Value.str))[i]? = some (p, .str text) := by
    refine List.getElem?_zip_eq_some.mpr ⟨hp, ?_⟩
    rw [List.getElem?_map, ht, Option.map_some]
  obtain ⟨⟨argument, events⟩, hi, hread⟩ := Reads.getElem? h hpair
  obtain ⟨argument', events', hread', hreading⟩ := Parameter.read_of_standard hr text
  obtain ⟨rfl, rfl⟩ : argument' = argument ∧ events' = events := by
    rw [hread] at hread'
    cases hread'
    exact ⟨rfl, rfl⟩
  exact ⟨_, _, hi, (Parameter.read_eq_ok_iff.mp hread).1, hreading⟩

/-- Standard readers read all texts. -/
theorem exists_completes (texts : List String)
    (h : ∀ p ∈ parameters, ∃ kind : Standard, p.reader = kind.reader) :
    ∃ readings, Completes parameters (texts.map .str) readings := by
  rcases completes_or_stops parameters (texts.map .str) with hc | ⟨i, fault, readings, hs⟩
  · exact hc
  · obtain ⟨p, raw, hp, hraw, hread⟩ := hs.here
    rw [List.getElem?_map] at hraw
    obtain ⟨text, _, rfl⟩ := Option.map_eq_some_iff.mp hraw
    obtain ⟨kind, hr⟩ := h p (List.mem_of_getElem? hp)
    obtain ⟨_, _, hread', _⟩ := Parameter.read_of_standard hr text
    rw [hread] at hread'
    cases hread'

end Argument

/-- What a parameter with a standard reader makes of a text, by the reader that its label
names. -/
structure Parameter.Receives (p : Parameter) (text : String) (value : Value) : Prop where
  standard : p.reader = .ofLabel p.label ∧ (p.reader = .string ∨ p.reader = .integer ∨
    p.reader = .number ∨ p.reader = .boolean)
  string : p.reader = .string → value = .str text
  integer : p.reader = .integer → ∃ n : Int, value = .int n ∧
    (Nat.digits 10 n.natAbs).length ≤ 4300 ∧ (p.reader.Rejects text → n = 0)
  number : p.reader = .number → ∃ x : Binary64, value = .float x ∧ x.IsFinite ∧
    (p.reader.Rejects text → x = .zero false)
  boolean : p.reader = .boolean → ∃ b : Bool, value = .bool b ∧
    (p.reader.Rejects text → b = false)
  accepted : ∀ v, p.reader.parse text = .ok v → value = v

namespace Parameter

variable {p : Parameter} {kind : Standard} {text : String} {argument : Argument}

theorem exists_reader_eq (h : p.ownReader = none) : ∃ kind : Standard, p.reader = kind.reader := by
  rw [reader_eq h]
  exact Reader.exists_reader_eq p.label

theorem receives_of_reading (hown : p.ownReader = none) (hr : p.reader = kind.reader)
    (h : kind.Reading text argument) : p.Receives text argument.value := by
  have hkind : ∀ other : Standard, p.reader = other.reader → kind = other := fun other ho =>
    Standard.reader_injective (hr.symm.trans ho)
  have hzero : p.reader.Rejects text → argument.value = kind.zero := hr ▸ h.rejected
  refine
    { standard := ⟨reader_eq hown, ?standard⟩
      string := fun hs => ?string
      integer := fun hs => ?integer
      number := fun hs => ?number
      boolean := fun hs => ?boolean
      accepted := hr ▸ h.accepted }
  case standard =>
    rw [hr]
    cases kind with
    | string => exact .inl rfl
    | integer => exact .inr (.inl rfl)
    | number => exact .inr (.inr (.inl rfl))
    | boolean => exact .inr (.inr (.inr rfl))
  case string =>
    obtain rfl := hkind .string hs
    exact h.fits
  case integer =>
    obtain rfl := hkind .integer hs
    obtain ⟨n, hn, hlimit⟩ := h.fits
    refine ⟨n, hn, hlimit, fun hrej => ?_⟩
    exact Value.int.inj (hn.symm.trans (hzero hrej))
  case number =>
    obtain rfl := hkind .number hs
    obtain ⟨x, hx, hfinite⟩ := h.fits
    refine ⟨x, hx, hfinite, fun hrej => ?_⟩
    exact Value.float.inj (hx.symm.trans (hzero hrej))
  case boolean =>
    obtain rfl := hkind .boolean hs
    obtain ⟨b, hb⟩ := h.fits
    refine ⟨b, hb, fun hrej => ?_⟩
    exact Value.bool.inj (hb.symm.trans (hzero hrej))

end Parameter

namespace Bench

open Argument (Completes events values)

/-- The values that a call hands to a handler, and what it tells of them. -/
structure Delivery (depth : Nat) (mode : Mode) (name : String) (texts : List String)
    (bench : Bench) (tool : Tool) (delivered : List Value) : Prop where
  /-- Reading the arguments does not fail, and neither does logging the fallbacks. -/
  reads : ∃ readings, Completes tool.declaration.parameters (texts.map .str) readings ∧
    delivered = values readings
  /-- The handler is started once, with these values. -/
  once : (call depth mode name (texts.map .str) bench).2.deliveries =
    bench.deliveries ++ [delivered]
  length_eq : delivered.length = tool.declaration.parameters.length
  /-- What stands at a position, and whether it is reported, depends on the parameter and the
  text there alone. -/
  positional : ∀ (i : Nat) (p : Parameter) (text : String),
    tool.declaration.parameters[i]? = some p → texts[i]? = some text →
      (∃ argument, p.reader.read (.str text) = .ok argument ∧
        delivered[i]? = some argument.value ∧ p.Receives text argument.value) ∧
      ∀ o, (call depth mode name (texts.map .str) bench).1 = .ok o →
        (p.name ∈ o.fallbacks ↔ p.reader.Rejects text)

/-- If no parameter has a reader of its own, and the handler works on its own once it is started,
then it is started once, with a value of the right kind at each position. -/
theorem call_delivers {depth : Nat} {mode : Mode} {name : String} {texts : List String}
    {bench : Bench} {tool : Tool} {handler : Handler}
    (hf : bench.catalog.find? name = some tool)
    (hown : ∀ p ∈ tool.declaration.parameters, p.ownReader = none)
    (hl : texts.length = tool.declaration.parameters.length)
    (hn : tool.handler = handler.noted) (hq : ∀ values, (handler values).Quiet) :
    ∃ delivered, Delivery depth mode name texts bench tool delivered := by
  obtain ⟨readings, hc⟩ := Argument.exists_completes texts fun p hp =>
    Parameter.exists_reader_eq (hown p hp)
  have hl' : (texts.map Value.str).length = tool.declaration.parameters.length := by
    rw [List.length_map, hl]
  refine ⟨values readings, ⟨readings, hc, rfl⟩, ?_, ?_, fun i p text hp ht => ?_⟩
  · rw [call_noted depth mode hf hl' hc hn, (hq (values readings)).obtain]
    rfl
  · rw [values, List.length_map, hc.length_eq hl']
  · have hown' : p.ownReader = none := hown p (List.mem_of_getElem? hp)
    obtain ⟨kind, hr⟩ := Parameter.exists_reader_eq hown'
    obtain ⟨argument, events, hi, hread, h⟩ := hc.exists_reading hp ht hr
    refine ⟨⟨argument, hread, ?_, Parameter.receives_of_reading hown' hr h⟩, fun o ho => ?_⟩
    · rw [values, List.getElem?_map, hi, Option.map_some]
    · have hm : (readings.map (·.1))[i]? = some argument := by
        rw [List.getElem?_map, hi, Option.map_some]
      rw [fallbacks_of_completes hf hl' hc ho, fallbacksOf,
        Argument.mem_fallbackNames_iff tool.declaration.distinct hp hm, hr]
      exact h.defaulted_iff

theorem quiet_ofExcept (result : Except Fault Reply) :
    (Script.ofExcept result : Script .direct).Quiet := by
  cases result <;> trivial

/-- The call of `dividing` divides by the zero that stands for a word, but it has been delivered
before. -/
theorem call_delivers_dividing : ∃ delivered,
    Delivery 0 .awaited "div" ["10", "zero"] (holding dividing) dividing delivered ∧
      delivered = [.int 10, .int 0] := by
  have hown : ∀ p ∈ dividing.declaration.parameters, p.ownReader = none := by
    intro p hp
    rcases List.mem_pair.mp hp with rfl | rfl <;> rfl
  obtain ⟨reply, hn⟩ : ∃ reply : List Value → Except Fault Reply, dividing.handler =
      Handler.noted fun values => .ofExcept (reply values) := ⟨_, rfl⟩
  have hl : ["10", "zero"].length = dividing.declaration.parameters.length := rfl
  obtain ⟨delivered, h⟩ := call_delivers (find?_holding dividing) hown hl hn fun values =>
    quiet_ofExcept (reply values)
  refine ⟨delivered, h, ?_⟩
  obtain ⟨readings, hc, rfl⟩ := h.reads
  obtain ⟨_, hten⟩ := dividing_completes
  obtain rfl := hc.unique hten
  rfl

end Bench
end Toolbench
