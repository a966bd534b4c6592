import ErrorTrail.Outcome
import ErrorTrail.Foreign
import ErrorTrail.Text.Decimal

/-! # Typed outcomes: outcomes of texts, 64-bit integers and the markers `Ok` and `Success`,
with their conversions and the steps that may fail. -/

namespace ErrorTrail

/-- The types of value an outcome may hold. -/
inductive ValueType where
  | text
  | integer
  | ok
  | success
  deriving DecidableEq, Repr

namespace ValueType

/-- The values of a value type; a marker has a single value. -/
@[reducible] def carrier : ValueType → Type
  | .text => String
  | .integer => Int
  | .ok => Unit
  | .success => Unit

/-- The name of a value type. -/
def name : ValueType → String
  | .text => "str"
  | .integer => "int"
  | .ok => "ok"
  | .success => "success"

/-- The value type with the given name. -/
def ofName? (s : String) : Option ValueType :=
  [ValueType.text, .integer, .ok, .success].find? (·.name == s)

/-- The text of a value: a text itself, an integer in decimal, a marker by its name. -/
def render : (t : ValueType) → t.carrier → String
  | .text, s => s
  | .integer, n => toString n
  | .ok, _ => "Ok"
  | .success, _ => "Success"

/-- The inspection form of a value: a text quoted, an integer in decimal, a marker by its name. -/
def inspect : (t : ValueType) → t.carrier → String
  | .text, s => Text.quote s
  | .integer, n => toString n
  | .ok, _ => "Ok"
  | .success, _ => "Success"

end ValueType

/-- A value seen from outside: a text or an integer. -/
inductive PlainValue where
  | text (s : String)
  | integer (n : Int)
  deriving DecidableEq, Repr

/-- A value as a text or an integer; a marker is given by its name. -/
def ValueType.plain : (t : ValueType) → t.carrier → PlainValue
  | .text, s => .text s
  | .integer, n => .integer n
  | .ok, _ => .text "Ok"
  | .success, _ => .text "Success"

/-- An outcome together with the type of value it holds or would have held. -/
structure TypedOutcome where
  type : ValueType
  outcome : Outcome type.carrier

/-- Functions on values. -/
inductive Conversion where
  /-- The number of bytes of a text in UTF-8. -/
  | length
  /-- The value as it is. -/
  | identity
  /-- The text of the value. -/
  | toText
  deriving DecidableEq, Repr

/-- The conversion with the given name. -/
def Conversion.ofName? : String → Option Conversion
  | "len" => some .length
  | "identity" => some .identity
  | "to_string" => some .toText
  | _ => none

/-- The conversions that apply to a value type, with the type of their result. -/
def ValueType.convert? : (t : ValueType) → Conversion → Option (Σ u : ValueType, t.carrier → u.carrier)
  | .text, .length => some ⟨.integer, fun s => (String.utf8ByteSize s : Int)⟩
  | .text, .identity => some ⟨.text, id⟩
  | .integer, .toText => some ⟨.text, fun n => toString n⟩
  | .integer, .identity => some ⟨.integer, id⟩
  | .ok, .toText => some ⟨.text, fun _ => "Ok"⟩
  | .success, .toText => some ⟨.text, fun _ => "Success"⟩
  | _, _ => none

/-- Steps that continue a computation and may fail. -/
inductive Step where
  /-- Reads a 64-bit integer from a text with blanks around it. -/
  | readInteger
  /-- Keeps an integer that is not negative. -/
  | nonNegative
  deriving DecidableEq, Repr

/-- The step with the given name. -/
def Step.ofName? : String → Option Step
  | "parse_int" => some .readInteger
  | "non_negative" => some .nonNegative
  | _ => none

/-- Reads an integer from a text with blanks around it; a text that is no integer gives an
unexpected error `not a number`, with the reading failure as details. -/
def readIntegerStep (s : String) (h : Heap) : Heap × Outcome Int :=
  match Text.readInt64 (Text.trimBlank s) with
  | .ok n => (h, .value n)
  | .error e =>
    let (h₁, err) := h.allocError ⟨Kind.unexpected, "not a number", some e.message, none⟩
    Outcome.ofError h₁ err

/-- Keeps an integer that is not negative; a negative one gives the failure `negative input`. -/
def nonNegativeStep (n : Int) (h : Heap) : Heap × Outcome Int :=
  if 0 ≤ n then (h, .value n)
  else
    let (h₁, err) := h.allocError ⟨Kind.failure, "negative input", none, none⟩
    Outcome.ofError h₁ err

/-- The steps that apply to a value type, with the type of their result. -/
def ValueType.step? : (t : ValueType) → Step →
    Option (Σ u : ValueType, t.carrier → Heap → Heap × Outcome u.carrier)
  | .text, .readInteger => some ⟨.integer, readIntegerStep⟩
  | .integer, .nonNegative => some ⟨.integer, nonNegativeStep⟩
  | _, _ => none

namespace TypedOutcome

/-- Converts the value; `none` when the conversion does not apply to the value type. -/
def convert? (o : TypedOutcome) (conversion : Conversion) : Option TypedOutcome :=
  (o.type.convert? conversion).map fun ⟨u, f⟩ => ⟨u, o.outcome.map f⟩

/-- Continues with a step; `none` when the step does not apply to the value type. -/
def andThen? (o : TypedOutcome) (step : Step) (h : Heap) : Option (Heap × TypedOutcome) :=
  (o.type.step? step).map fun ⟨u, f⟩ =>
    let (h₁, next) := o.outcome.bind f h
    (h₁, ⟨u, next⟩)

/-- The value as a text or an integer, if there is one. -/
def plain? (o : TypedOutcome) : Option PlainValue :=
  o.outcome.value?.map o.type.plain

/-- The value as a text or an integer, for an operation that needs one. -/
def plainFor (o : TypedOutcome) (operation : Operation) : Except Violation PlainValue :=
  (o.outcome.valueFor operation).map o.type.plain

/-- The rendered outcome. -/
def render (o : TypedOutcome) (h : Heap) (style : Style) : String :=
  o.outcome.render o.type.render h style

/-- The inspection form of the outcome. -/
def inspect (o : TypedOutcome) (h : Heap) : String :=
  o.outcome.inspect o.type.inspect h

end TypedOutcome

end ErrorTrail
