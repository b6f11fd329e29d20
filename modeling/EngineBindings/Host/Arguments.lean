import EngineBindings.Host.Conversion
import EngineBindings.Marshal.Argument

/-!
# Arguments of calls

How the values of a call's arguments are read.  The number of an enumeration has to fit its width;
a number that names no case is no value for a lenient reader and an error for a strict one.
-/

namespace EngineBindings

/-- Why an argument cannot be read. -/
inductive ArgumentError where
  | missing (index : Nat)
  | conversion (index : Nat) (error : ConversionError)
  | enumOutOfRange (index : Nat) (value : Int) (bits : Nat)
  | unknownEnumValue (index : Nat) (value : Int)
  deriving DecidableEq, Inhabited

/-- The text of an error. -/
def ArgumentError.message : ArgumentError → String
  | .missing index => "missing argument " ++ toString index
  | .conversion index error => "argument " ++ toString index ++ ": " ++ error.message
  | .enumOutOfRange index value bits =>
    "argument " ++ toString index ++ ": " ++ toString value ++ " does not fit in a " ++
      toString bits ++ "-bit enum"
  | .unknownEnumValue index value =>
    "argument " ++ toString index ++ ": unknown enum value " ++ toString value

namespace ArgumentDecoder

/-- The value of a type of an argument. -/
def readValue (view : ObjectView) (type : HostType) (args : List Variant) (index : Nat) :
    Except ArgumentError HostValue :=
  match args[index]? with
  | none => .error (.missing index)
  | some v => (type.decode view v).mapError (.conversion index)

/-- The number of an argument, which has to fit a width. -/
def readNumber (view : ObjectView) (width : EnumWidth) (args : List Variant) (index : Nat) :
    Except ArgumentError Int := do
  match ← readValue view (.primitive (.integer .i64)) args index with
  | .integer n =>
    if width = .bits32 ∧ !IntegerType.i32.contains n then
      throw (.enumOutOfRange index n width.bits)
    return n
  | _ => throw (.missing index)

/-- The case of an enumeration that an argument names, if it names one. -/
def readCase? (view : ObjectView) (e : DerivedEnum) (width : EnumWidth) (args : List Variant)
    (index : Nat) : Except ArgumentError (Option HostValue) := do
  let n ← readNumber view width args index
  return (e.ofNumber? n).map fun c => .enumeration c.number

/-- The case of an enumeration that an argument names. -/
def readCase (view : ObjectView) (e : DerivedEnum) (width : EnumWidth) (args : List Variant)
    (index : Nat) : Except ArgumentError HostValue := do
  let n ← readNumber view width args index
  match e.ofNumber? n with
  | some c => return .enumeration c.number
  | none => throw (.unknownEnumValue index n)

/-- What a decoder reads of an argument as a type; nothing, where a lenient one finds no case. -/
def read (d : ArgumentDecoder) (view : ObjectView) (type : HostType) (args : List Variant)
    (index : Nat) : Except ArgumentError (Option HostValue) :=
  match d, type with
  | .enumeration width true, .enumeration e => readCase? view e width args index
  | .enumeration width false, .enumeration e => (readCase view e width args index).map some
  | _, type => (readValue view type args index).map some

end ArgumentDecoder

end EngineBindings
