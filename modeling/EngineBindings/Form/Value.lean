import EngineBindings.Form.Basic
import EngineBindings.Variant.Array

/-!
# The JSON form of values

A value is an object with its kind and its content.  Floating-point numbers are hexadecimal bits,
or `nan` for any bits that are no number; value types are flat lists of components, and objects are
their places in the order of creation.  Whole numbers are cut to their width when they are read.
-/

namespace EngineBindings.Form

/-- The last hexadecimal digits of a number. -/
def hexDigits : Nat → Nat → List Char
  | 0, _ => []
  | digits + 1, n => hexDigits digits (n / 16) ++ [Json.hexChar (n % 16)]

/-- The bits of a floating-point number. -/
def bits (f : BinaryFormat) (digits n : Nat) : Json :=
  str (if f.isNaN n then "nan" else String.ofList (hexDigits digits n))

/-- A number of 32 bits. -/
def float32 (n : UInt32) : Json :=
  bits .binary32 8 n.toNat

/-- A number of 64 bits. -/
def float64 (n : UInt64) : Json :=
  bits .binary64 16 n.toNat

/-- An object. -/
def handle (h : ObjectHandle) : Json :=
  num h.index

/-- A typing of arrays. -/
def typing (t : ArrayTyping) : Json :=
  rec [("element", str t.element.caseName), ("class", opt str t.className?)]

/-- The items of a packed array. -/
def packedItems : PackedItems → Json
  | .bytes items => list (fun n => num n.toNat) items
  | .ints32 items => list (fun n => int n.toInt) items
  | .ints64 items => list (fun n => int n.toInt) items
  | .floats32 items => list float32 items
  | .floats64 items => list float64 items
  | .strings items => strs items
  | .reals _ items => list (fun v => list float32 v.toList) items

/-- An object or a value of some kind with its content. -/
def content (kind : VariantKind) (value : Json) : Json :=
  rec [("type", str kind.caseName), ("value", value)]

mutual

/-- A value. -/
def value : Variant → Json
  | .nil => rec [("type", str "Nil")]
  | .bool b => content .bool (bln b)
  | .int n => content .int (int n.toInt)
  | .float n => content .float (float64 n)
  | .text kind s => content kind.kind (str s)
  | .reals shape v => content shape.kind (list float32 v.toList)
  | .ints shape v => content shape.kind (list (fun n => int n.toInt) v.toList)
  | .rid n => content .rid (num n.toNat)
  | .object h => content .object (handle h)
  | .callable h m => content .callable (rec [("object", opt handle h), ("method", str m)])
  | .signal h n => content .signal (rec [("object", opt handle h), ("name", str n)])
  | .dictionary entries => content .dictionary (.array (valueEntries entries))
  | .array items typing? =>
    rec [("type", str "Array"), ("value", .array (values items)), ("typing", opt typing typing?)]
  | .packed items => content items.kind (packedItems items)

/-- Some values. -/
def values : List Variant → List Json
  | [] => []
  | v :: rest => value v :: values rest

/-- The entries of a dictionary. -/
def valueEntries : List (Variant × Variant) → List Json
  | [] => []
  | (k, v) :: rest => .array [value k, value v] :: valueEntries rest

end

/-! ## Reading -/

/-- Reads the kind of a value. -/
def readKind (name : String) : Read VariantKind :=
  need "kind" (VariantKind.all.find? (·.caseName == name))

/-- Reads hexadecimal bits. -/
def readBits (f : BinaryFormat) (j : Json) : Read Nat := do
  let s ← need "float" j.text?
  if s = "nan" then return f.infinity + f.leading / 2
  need "float" (s.toList.foldlM (fun n c => (Json.hexDigit? c).map (n * 16 + ·)) 0)

/-- Reads a number of 32 bits. -/
def readFloat32 (j : Json) : Read UInt32 :=
  return .ofNat (← readBits .binary32 j)

/-- Reads a number of 64 bits. -/
def readFloat64 (j : Json) : Read UInt64 :=
  return .ofNat (← readBits .binary64 j)

/-- Reads a whole number. -/
def readInt (j : Json) : Read Int :=
  need "integer" j.int?

/-- Reads an object. -/
def readHandle (j : Json) : Read ObjectHandle :=
  return ⟨(← readInt j).toNat⟩

/-- Reads an object that may be missing. -/
def readHandle? (j : Json) (name : String) : Read (Option ObjectHandle) :=
  (get? j name).mapM readHandle

/-- Reads a typing of arrays that may be missing. -/
def readTyping? (j : Json) : Read (Option ArrayTyping) :=
  (get? j "typing").mapM fun t => return ⟨← readKind (← textAt t "element"), optText t "class"⟩

/-- Reads a list of a known length. -/
def readVector {α : Type} (size : Nat) (read : Json → Read α) (j : Json) :
    Read (Vector α size) := do
  let items ← (← need "components" j.array?).mapM read
  if h : items.toArray.size = size then return ⟨items.toArray, h⟩
  throw "bad components"

/-- Reads the items of a packed array. -/
def readPacked (kind : VariantKind) (items : List Json) : Read PackedItems := do
  match kind with
  | .packedByteArray => return .bytes ((← items.mapM readInt).map (.ofInt ·))
  | .packedInt32Array => return .ints32 ((← items.mapM readInt).map Int32.ofInt)
  | .packedInt64Array => return .ints64 ((← items.mapM readInt).map Int64.ofInt)
  | .packedFloat32Array => return .floats32 (← items.mapM readFloat32)
  | .packedFloat64Array => return .floats64 (← items.mapM readFloat64)
  | .packedStringArray => return .strings (← items.mapM fun j => need "text" j.text?)
  | kind =>
    let shape ← need "kind" (PackedShape.all.find? (·.kind == kind))
    return .reals shape (← items.mapM (readVector shape.item.size readFloat32))

/-- Reads the content of a value without parts that are values. -/
def readPlain (kind : VariantKind) (content : Json) : Read Variant := do
  match kind with
  | .nil => return .nil
  | .bool => return .bool (← need "bool" content.bool?)
  | .int => return .int (.ofInt (← readInt content))
  | .float => return .float (← readFloat64 content)
  | .rid => return .rid (.ofNat (← readInt content).toNat)
  | .object => return .object (← readHandle content)
  | .callable => return .callable (← readHandle? content "object") (← textAt content "method")
  | .signal => return .signal (← readHandle? content "object") (← textAt content "name")
  | kind =>
    if let some k := TextKind.all.find? (·.kind == kind) then
      return .text k (← need "text" content.text?)
    if let some shape := RealShape.all.find? (·.kind == kind) then
      return .reals shape (← readVector shape.size readFloat32 content)
    if let some shape := IntShape.all.find? (·.kind == kind) then
      return .ints shape (← readVector shape.size (fun j => return .ofInt (← readInt j)) content)
    return .packed (← readPacked kind (← need "items" content.array?))

/-- `readValue` with a bound on the depth. -/
def readValueWithin : Nat → Json → Read Variant
  | 0, _ => .error "bad value"
  | fuel + 1, j => do
    let kind ← readKind (← textAt j "type")
    match kind with
    | .array =>
      return .array (← (listAt j "value").mapM (readValueWithin fuel)) (← readTyping? j)
    | .dictionary =>
      return .dictionary (← (listAt j "value").mapM fun
        | .array [k, v] => return (← readValueWithin fuel k, ← readValueWithin fuel v)
        | _ => .error "bad entry")
    | kind => readPlain kind ((get? j "value").getD .null)

/-- Reads a value. -/
def readValue (j : Json) : Read Variant :=
  readValueWithin (depth j) j

/-- Reads the values of a field. -/
def readValues (j : Json) (name : String) : Read (List Variant) :=
  (listAt j name).mapM readValue

end EngineBindings.Form
