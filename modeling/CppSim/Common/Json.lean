import CppSim.Common.Text
import CppSim.Library.Rounding
import CppSim.Library.Utf8
import Mathlib.Data.Rat.Floor

/-!
# The JSON values of `nlohmann::json`

The library stores a number in one of three kinds: a signed integer, an unsigned
integer, or a double.  The kind is visible to the program, which asks for it before
it converts, so the model keeps it.  An object is the sorted association list of a
`std::map`.

The parser, the printer and the texts of the library's exceptions are not part of
the repository; they are the fields of `JsonLib`, a parameter of everything that
uses them.
-/

namespace CppSim

/-- A double: a rational number, an infinity or not a number. -/
inductive Double
  | finite (value : ℚ)
  | infinite (negative : Bool)
  | nan

inductive Json
  | null
  | boolean (value : Bool)
  | integer (value : Int64)
  | unsigned (value : UInt64)
  | float (value : Double)
  | string (value : Text)
  | array (items : List Json)
  | object (fields : List (Text × Json))

/-- The exceptions the library throws while a value is taken apart. -/
inductive JsonException
  /-- `out_of_range.403`: `at` on an object without the key. -/
  | keyNotFound (key : Text)
  /-- `type_error.302` and `type_error.304`: the value has another type. -/
  | wrongType (expected : String) (actual : Json)

/-- An exception thrown while a message is decoded. -/
inductive Exn
  | json (exception : JsonException)
  | std (what : Text)

/-- What the program uses of the JSON library besides the values themselves. -/
structure JsonLib where
  /-- `json::parse`, or the text of the exception it throws. -/
  parse : Text → Except Text Json
  /-- `dump`, or the text of the exception it throws on a string that is not UTF-8. -/
  dump : Json → Except Text Text
  /-- `what` of the library's own exceptions. -/
  what : JsonException → Text

/-- `what` of an exception. -/
def Exn.what (lib : JsonLib) : Exn → Text
  | .json exception => lib.what exception
  | .std what => what

/-- A computation that may throw returns a value when each of its parts does. -/
theorem except_bind_eq_ok {ε α β : Type*} {x : Except ε α} {f : α → Except ε β} {b : β} :
    x.bind f = .ok b ↔ ∃ a, x = .ok a ∧ f a = .ok b := by
  cases x with
  | error e => simp [Except.bind]
  | ok a => simp [Except.bind]

/-! ## Arithmetic and conversions -/

/-- The format of `double`. -/
def binary64 : FloatFormat := ⟨53, -1074⟩

/-- The double nearest to a rational number, or an infinity beyond the largest one: what an
arithmetic operation on doubles makes of its exact result.  The sign of a zero is not kept. -/
def Double.ofRational (q : ℚ) : Double :=
  let nearest := binary64.nearest q
  if |nearest| < 2 ^ 1024 then .finite nearest else .infinite (decide (q < 0))

/-- Integers of up to 53 bits are doubles. -/
theorem nearest_intCast {n : ℤ} (hn : |n| < 2 ^ 53) : binary64.nearest (n : ℚ) = n :=
  binary64.nearest_eq_self (binary64.isNumber_intCast (by decide) hn)

/-- `static_cast<int64_t>` of a double: truncation toward zero.  Out of the range of
`int64_t` the cast is undefined in C++; the value here is the one the conversion
instruction of x86-64 gives. -/
def Double.toInt64 : Double → Int64
  | .finite q =>
      let whole := if 0 ≤ q then ⌊q⌋ else ⌈q⌉
      if -2 ^ 63 ≤ whole ∧ whole < 2 ^ 63 then Int64.ofInt whole else Int64.minValue
  | _ => Int64.minValue

/-- `static_cast<int>` of a double, under the same convention. -/
def Double.toInt32 : Double → Int32
  | .finite q =>
      let whole := if 0 ≤ q then ⌊q⌋ else ⌈q⌉
      if -2 ^ 31 ≤ whole ∧ whole < 2 ^ 31 then Int32.ofInt whole else Int32.minValue
  | _ => Int32.minValue

/-- `static_cast<size_t>` of a double, under the same convention: below `2^63` the
signed conversion is used, and from `2^64` on the result is zero. -/
def Double.toSize : Double → UInt64
  | .finite q =>
      if q < 2 ^ 63 then (Double.finite q).toInt64.toUInt64
      else if q < 2 ^ 64 then UInt64.ofInt ⌊q⌋
      else 0
  | .infinite false => 0
  | .infinite true | .nan => Int64.minValue.toUInt64

/-- An integer in the range of `int64_t` is cast to itself. -/
theorem Double.toInt_toInt64_intCast {n : ℤ} (hlow : -2 ^ 63 ≤ n) (hhigh : n < 2 ^ 63) :
    (Double.finite (n : ℚ)).toInt64.toInt = n := by
  simp only [Double.toInt64, Int.floor_intCast, Int.ceil_intCast, ite_self]
  rw [if_pos ⟨hlow, hhigh⟩]
  exact Int64.toInt_ofInt_of_le hlow hhigh

namespace Json

/-! ## Inspecting a value -/

/-- The value under a key of an object. -/
def field? (j : Json) (key : Text) : Option Json :=
  match j with
  | .object fields => (fields.find? fun entry => entry.1 = key).map Prod.snd
  | _ => none

/-- `contains`: whether the value is an object with the key. -/
def contains (j : Json) (key : Text) : Bool := (j.field? key).isSome

def isNull : Json → Bool
  | .null => true
  | _ => false

/-- `is_number_integer`: true of both kinds of integer. -/
def isNumberInteger : Json → Bool
  | .integer _ | .unsigned _ => true
  | _ => false

/-- `is_number`. -/
def isNumber : Json → Bool
  | .integer _ | .unsigned _ | .float _ => true
  | _ => false

def isNumberUnsigned : Json → Bool
  | .unsigned _ => true
  | _ => false

/-! ## Taking a value apart -/

/-- `at`: the value under a key, which must be present. -/
def atKey (j : Json) (key : Text) : Except Exn Json :=
  match j with
  | .object _ =>
      match j.field? key with
      | some value => .ok value
      | none => .error (.json (.keyNotFound key))
  | _ => .error (.json (.wrongType "object" j))

theorem atKey_of_field? {j v : Json} {key : Text} (h : j.field? key = some v) :
    j.atKey key = .ok v := by
  cases j with
  | object fields => simp only [atKey, h]
  | _ => simp [field?] at h

theorem field?_of_atKey {j v : Json} {key : Text} (h : j.atKey key = .ok v) :
    j.field? key = some v := by
  cases j with
  | object fields =>
      simp only [atKey] at h
      split at h
      · rename_i hfield
        rw [hfield, Except.ok.inj h]
      · cases h
  | _ => cases h

/-- `get<std::string>`. -/
def getString : Json → Except Exn Text
  | .string s => .ok s
  | j => .error (.json (.wrongType "string" j))

theorem eq_string_of_getString {j : Json} {s : Text} (h : j.getString = .ok s) :
    j = .string s := by
  cases j with
  | string value => rw [Except.ok.inj h]
  | _ => cases h

/-- `get<int64_t>`: an unsigned integer is read modulo `2^64`, a double is truncated. -/
def getInt64 : Json → Except Exn Int64
  | .integer i => .ok i
  | .unsigned n => .ok n.toInt64
  | .float d => .ok d.toInt64
  | j => .error (.json (.wrongType "number" j))

/-- `get<uint64_t>` of an integer. -/
def getUInt64 : Json → Except Exn UInt64
  | .integer i => .ok i.toUInt64
  | .unsigned n => .ok n
  | j => .error (.json (.wrongType "number" j))

/-- `get<size_t>`. -/
def getSize : Json → Except Exn UInt64
  | .integer i => .ok i.toUInt64
  | .unsigned n => .ok n
  | .float d => .ok d.toSize
  | j => .error (.json (.wrongType "number" j))

/-- `get<double>`. -/
def getDouble : Json → Except Exn Double
  | .integer i => .ok (.finite i.toInt)
  | .unsigned n => .ok (.finite n.toNat)
  | .float d => .ok d
  | j => .error (.json (.wrongType "number" j))

/-- `get<bool>`. -/
def getBoolean : Json → Except Exn Bool
  | .boolean value => .ok value
  | j => .error (.json (.wrongType "boolean" j))

/-- `get<int>`: an integer is read modulo `2^32`, and a boolean as 0 or 1. -/
def getInt32 : Json → Except Exn Int32
  | .integer i => .ok i.toInt32
  | .unsigned n => .ok n.toInt64.toInt32
  | .float d => .ok d.toInt32
  | .boolean value => .ok (if value then 1 else 0)
  | j => .error (.json (.wrongType "number" j))

/-- `get<std::vector<T>>`, where `get` is `get<T>`. -/
def getVector {T : Type} (get : Json → Except Exn T) : Json → Except Exn (List T)
  | .array items => items.mapM get
  | j => .error (.json (.wrongType "array" j))

/-- The rational number a JSON number denotes. -/
def number? : Json → Option ℚ
  | .integer i => some i.toInt
  | .unsigned n => some n.toNat
  | .float (.finite q) => some q
  | _ => none

/-! ## Building an object -/

/-- Insert into a sorted association list, or overwrite the entry of the key. -/
def insertField (key : Text) (value : Json) : List (Text × Json) → List (Text × Json)
  | [] => [(key, value)]
  | (k, v) :: rest =>
      if key = k then (key, value) :: rest
      else if key < k then (key, value) :: (k, v) :: rest
      else (k, v) :: insertField key value rest

/-- An object from its fields, in any order. -/
def ofFields (fields : List (Text × Json)) : Json :=
  .object (fields.foldl (fun entries entry => insertField entry.1 entry.2 entries) [])

/-- `j[key] = value` on an object. -/
def setField (j : Json) (key : Text) (value : Json) : Json :=
  match j with
  | .object fields => .object (insertField key value fields)
  | _ => j

/-! ## A library that knows some values -/

/-- The compact print of a value of at most the given depth, for strings without
characters to escape; there are no doubles in what the server prints. -/
def print : ℕ → Json → Text
  | 0, _ => []
  | _, .null | _, .float _ => text "null"
  | _, .boolean value => text (toString value)
  | _, .integer value => toText value.toInt
  | _, .unsigned value => toText value.toNat
  | _, .string value => text "\"" ++ value ++ text "\""
  | depth + 1, .array items =>
      text "[" ++ (text ",").intercalate (items.map (print depth)) ++ text "]"
  | depth + 1, .object fields =>
      text "\x7b" ++ (text ",").intercalate (fields.map fun entry =>
        text "\"" ++ entry.1 ++ text "\":" ++ print depth entry.2) ++ text "\x7d"

end Json

/-- A library that parses the prints of the given values, and no other text. -/
def JsonLib.knowing (values : List Json) : JsonLib where
  parse s :=
    match values.find? fun value => value.print 4 = s with
    | some value => .ok value
    | none => .error (text "[json.exception.parse_error.101] parse error")
  dump value := .ok (value.print 4)
  what
    | .keyNotFound key => text "[json.exception.out_of_range.403] key '" ++ key ++ text "' not found"
    | .wrongType expected _ => text "[json.exception.type_error.302] type must be " ++ text expected

theorem JsonLib.parse_knowing_cons_self (value : Json) (values : List Json) :
    (JsonLib.knowing (value :: values)).parse (value.print 4) = .ok value := by
  simp only [knowing, List.find?_cons, decide_true]

theorem JsonLib.parse_knowing_cons_of_ne {value : Json} {values : List Json} {s : Text}
    (h : value.print 4 ≠ s) :
    (JsonLib.knowing (value :: values)).parse s = (JsonLib.knowing values).parse s := by
  simp only [knowing, List.find?_cons, decide_eq_false h]

end CppSim
