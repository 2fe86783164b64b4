import Toolbench.Proofs.Coercion
import Toolbench.Proofs.Normalisation
import Toolbench.Proofs.Shortest

/-! # Numbers that come back

A finite number is handed over by its text, which is a numeral of the number's sign and of a
shortest decimal fraction that is rounded to the number. So the number reader takes it back from
there as it is, down to the sign of a zero (`exists_roundTrip`), and whatever the reader has made
of a text it makes again of its own result. A number that is handed on to a tool arrives there
unchanged (`numbers_return`). -/

namespace Toolbench

open Binary64 (finiteCount IsShortest shortest)
open Numeral (IsDecimal)

/-- The text of a finite number, and what the number reader makes of it. -/
structure Binary64.RoundTrip (negative : Bool) (rank : Fin finiteCount) (text : String) : Prop where
  text?_eq : (Value.float (.finite negative rank)).text? = some text
  /-- The text is a numeral without blanks around it, and its value is a shortest one. -/
  numeral : ∃ d : Decimal, IsDecimal text.toList negative d ∧ IsShortest rank d ∧
    ('e' ∈ text.toList ↔ d.toRat ≠ 0 ∧ ¬ (10 ^ (-4 : ℤ) ≤ d.toRat ∧ d.toRat < 10 ^ (16 : ℤ)))
  read : Reader.number.read (.float (.finite negative rank)) =
    .ok ⟨text, .float (.finite negative rank), false⟩

namespace Binary64

theorem exists_numeral (negative : Bool) (rank : Fin finiteCount) : ∃ d : Decimal,
    IsDecimal (Value.layout.write (.finite negative rank)) negative d ∧
      d.toRat = (shortest rank).toRat := by
  have hwrites := Value.layout.writes_decimal (shortest rank)
  cases negative with
  | false => exact hwrites.isDecimal .absent
  | true => exact hwrites.isDecimal .minus

/-- The layout has an exponent for magnitudes below `0.0001` and from `10 ^ 16` on. -/
theorem mem_write_iff (negative : Bool) (rank : Fin finiteCount) :
    'e' ∈ Value.layout.write (.finite negative rank) ↔ (shortest rank).toRat ≠ 0 ∧
      ¬ (10 ^ (-4 : ℤ) ≤ (shortest rank).toRat ∧ (shortest rank).toRat < 10 ^ (16 : ℤ)) := by
  have hmark : 'e' ∉ if negative then ['-'] else [] := by
    cases negative <;> decide
  rw [Layout.write, List.mem_append, or_iff_right hmark]
  exact Value.layout.mem_decimal_iff (shortest rank)

theorem exists_roundTrip (negative : Bool) (rank : Fin finiteCount) :
    ∃ text, RoundTrip negative rank text := by
  obtain ⟨d, hd, hvalue⟩ := exists_numeral negative rank
  have htext : (Value.float (.finite negative rank)).text? =
      some (String.ofList (Value.layout.write (.finite negative rank))) := rfl
  have hshortest := (isShortest_shortest rank).of_toRat_eq hvalue
  refine ⟨_, htext, ⟨d, ?_, hshortest, ?_⟩, ?_⟩
  · rwa [String.toList_ofList]
  · rw [String.toList_ofList, hvalue]
    exact mem_write_iff negative rank
  · have hnumber : Reader.number? (Value.layout.write (.finite negative rank)) =
        some (.finite negative rank) :=
      Reader.number?_of_decimal? (Numeral.decimal?_eq_some_iff.mpr hd)
        (hshortest.readsBack.toBinary64 negative)
    have hread : Standard.number.value?
        (String.ofList (Value.layout.write (.finite negative rank))) =
          some (.float (.finite negative rank)) := by
      rw [Standard.value?, String.toList_ofList, Text.trim_of_not_isBlank hd.not_isBlank.2, hnumber,
        Option.map_some]
    rw [← Reader.read_str htext]
    exact Standard.read_of_value? hread

example : Value.layout.write (.finite true ⟨1, by decide⟩) = "-5e-324".toList := by decide +kernel

end Binary64

namespace Reader

theorem read_number {x : Binary64} (h : x.IsFinite) :
    ∃ text, Reader.number.read (.float x) = .ok ⟨text, .float x, false⟩ := by
  cases x with
  | nan | infinite => exact h.elim
  | finite negative rank =>
    obtain ⟨text, hr⟩ := Binary64.exists_roundTrip negative rank
    exact ⟨text, hr.read⟩

theorem normalises_number : Normalises .number := by
  intro raw text h
  obtain ⟨first, hread, htext, x, hx, hfinite⟩ := Standard.number.exists_read h
  obtain ⟨shown, hagain⟩ := read_number hfinite
  exact ⟨first, ⟨shown, .float x, false⟩, hread, htext, by rw [hx, hagain], hx.symm, rfl⟩

end Reader

/-! ## Numbers as arguments -/

namespace Argument

variable {parameters : List Parameter} {args : List Value}
  {readings : List (Argument × List Event)} {i : Nat} {p : Parameter} {x : Binary64}

/-- A parameter of numbers reads a finite number as it is, without a fallback or an event. -/
theorem Completes.number (h : Completes parameters args readings) (hp : parameters[i]? = some p)
    (hr : p.reader = .number) (ha : args[i]? = some (.float x)) (hx : x.IsFinite) :
    ∃ text, readings[i]? = some (⟨text, .float x, false⟩, []) := by
  obtain ⟨text, hread⟩ := Reader.read_number hx
  have hz : (parameters.zip args)[i]? = some (p, .float x) :=
    List.getElem?_zip_eq_some.mpr ⟨hp, ha⟩
  obtain ⟨reading, hi, hreading⟩ := Reads.getElem? h hz
  have hown : p.read (.float x) = .ok (⟨text, .float x, false⟩, []) :=
    Parameter.read_eq_ok_iff.mpr ⟨hr ▸ hread, Parameter.notices_of_not_defaulted⟩
  rw [hown] at hreading
  exact ⟨text, hi.trans (congrArg some (Except.ok.inj hreading).symm)⟩

/-- What a parameter of numbers has read is a finite number. -/
theorem Completes.exists_number (h : Completes parameters args readings)
    (hl : args.length = parameters.length) (hp : parameters[i]? = some p)
    (hr : p.reader = .number) :
    ∃ x : Binary64, (values readings)[i]? = some (.float x) ∧ x.IsFinite := by
  obtain ⟨hlt, _⟩ := List.getElem?_eq_some_iff.mp hp
  have ha : args[i]? = some args[i] := List.getElem?_eq_getElem (hl ▸ hlt)
  obtain ⟨argument, hread, hi⟩ := h.values_getElem? hp ha
  rw [hr] at hread
  cases ht : args[i].text with
  | error fault =>
    have hfail : Standard.number.reader.read args[i] = .error fault :=
      Standard.read_eq_error_iff.mpr ht
    rw [Standard.reader, hread] at hfail
    cases hfail
  | ok text =>
    obtain ⟨argument', hread', _, x, hx, hfinite⟩ :=
      Standard.number.exists_read (Value.text?_eq_some_iff.mpr ht)
    obtain rfl := Except.ok.inj (hread.symm.trans hread')
    exact ⟨x, hx ▸ hi, hfinite⟩

end Argument

namespace Bench

open Argument (Completes events values)

/-- What becomes of the numbers among the arguments of a call. -/
structure Arrivals (depth : Nat) (mode : Mode) (name : String) (args : List Value)
    (bench : Bench) : Prop where
  /-- A number never stops the reading. -/
  reads : ∀ {p : Parameter} {x : Binary64}, p.reader = .number → x.IsFinite →
    ∃ text, p.read (.float x) = .ok (⟨text, .float x, false⟩, [])
  /-- When all arguments are read, the handler is started with their values. -/
  started : ∀ {tool : Tool} {handler : Handler} {readings : List (Argument × List Event)},
    bench.catalog.find? name = some tool →
    args.length = tool.declaration.parameters.length →
    Completes tool.declaration.parameters args readings → tool.handler = handler.noted →
      bench.deliveries ++ [values readings] <+: (call depth mode name args bench).2.deliveries
  /-- A finite number is among them as it was handed in, and is not reported as replaced. -/
  arrives : ∀ {tool : Tool} {readings : List (Argument × List Event)},
    bench.catalog.find? name = some tool →
    args.length = tool.declaration.parameters.length →
    Completes tool.declaration.parameters args readings →
    ∀ (i : Nat) (p : Parameter) (x : Binary64), tool.declaration.parameters[i]? = some p →
      p.reader = .number → args[i]? = some (.float x) → x.IsFinite →
        (values readings)[i]? = some (.float x) ∧
        ∀ o, (call depth mode name args bench).1 = .ok o → p.name ∉ o.fallbacks
  /-- A handler that calls another tool on the values that it has received hands the numbers on as
  they are. -/
  forwards : ∀ {tool other : Tool} {next : String} {handler : Handler}
    {go : List Value → Except Fault Observation → Script .direct}
    {readings later : List (Argument × List Event)},
    bench.catalog.find? name = some tool → bench.catalog.find? next = some other →
    args.length = tool.declaration.parameters.length →
    other.declaration.parameters.length = tool.declaration.parameters.length →
    Completes tool.declaration.parameters args readings →
    Completes other.declaration.parameters (values readings) later →
    tool.handler = Handler.noted (fun received => .call next received (go received)) →
    other.handler = handler.noted →
      bench.deliveries ++ [values readings, values later] <+:
        (call (depth + 1) mode name args bench).2.deliveries ∧
      ∀ (i : Nat) (p q : Parameter), tool.declaration.parameters[i]? = some p →
        other.declaration.parameters[i]? = some q → p.reader = .number → q.reader = .number →
          ∃ x : Binary64, (values readings)[i]? = some (.float x) ∧
            (values later)[i]? = some (.float x)

theorem arrivals (depth : Nat) (mode : Mode) (name : String) (args : List Value) (bench : Bench) :
    Arrivals depth mode name args bench where
  reads {p x} hr hx := by
    obtain ⟨text, hread⟩ := Reader.read_number hx
    exact ⟨text, Parameter.read_eq_ok_iff.mpr ⟨hr ▸ hread, Parameter.notices_of_not_defaulted⟩⟩
  started hf hl hc hn := call_started depth mode hf hl hc hn
  arrives {tool readings} hf hl hc i p x hp hr ha hx := by
    obtain ⟨text, hi⟩ := hc.number hp hr ha hx
    refine ⟨by rw [values, List.getElem?_map, hi, Option.map_some], fun o ho => ?_⟩
    have hm : (readings.map (·.1))[i]? = some ⟨text, .float x, false⟩ := by
      rw [List.getElem?_map, hi, Option.map_some]
    rw [fallbacks_of_completes hf hl hc ho, fallbacksOf,
      Argument.mem_fallbackNames_iff tool.declaration.distinct hp hm]
    exact Bool.noConfusion
  forwards {tool other next handler go readings later} hf hf' hl hsame hc hc' hn hn' := by
    have hl' : (values readings).length = other.declaration.parameters.length := by
      rw [values, List.length_map, hc.length_eq hl, hsame]
    refine ⟨?_, fun i p q hp hq hr hr' => ?_⟩
    · have hstarted : ((bench.record (events readings)).deliver (values readings)).deliveries ++
          [values later] <+: _ := call_started depth .direct hf' hl' hc' hn'
      have hboth : bench.deliveries ++ [values readings, values later] =
          ((bench.record (events readings)).deliver (values readings)).deliveries ++
            [values later] :=
        (List.append_assoc bench.deliveries [values readings] [values later]).symm
      rw [call_noted (depth + 1) mode hf hl hc hn, hboth]
      exact hstarted.trans <|
        kept_deliveries.obtain (kept_deliveries.answerUpTo (depth + 1)) mode name _ _
    · obtain ⟨x, hx, hfinite⟩ := hc.exists_number hl hp hr
      obtain ⟨text, hi⟩ := hc'.number hq hr' hx hfinite
      exact ⟨x, hx, by rw [values, List.getElem?_map, hi, Option.map_some]⟩

end Bench

/-- **Numbers come back.** Every finite number is read back from its text as it is, what has been
read is read again as the same number, and a number that is handed to a tool arrives there. -/
theorem numbers_return :
    (∀ negative rank, ∃ text, Binary64.RoundTrip negative rank text) ∧
    Reader.Normalises .number ∧
    ∀ depth mode name args bench, Bench.Arrivals depth mode name args bench :=
  ⟨Binary64.exists_roundTrip, Reader.normalises_number, Bench.arrivals⟩

end Toolbench
