import EngineBindings.Marshal.Argument

/-!
# Property setters

The code that reads the argument of a setter and puts its value into a field.  A value that cannot
be read is reported and leaves the field alone; so does an unknown number of an enumeration, without
a report.  A field that holds a counted object takes its reference to the new object before it gives
up the one to the old, so that an object put in its own place does not go away.
-/

namespace EngineBindings

/-- What putting a value into a field does to references. -/
inductive FieldOwnership where
  /-- Nothing. -/
  | untracked
  /-- The new object gains a reference and the old one loses its own; if `dynamic`, only objects
  that are counted do.  A nullable field may hold none. -/
  | shared (nullable dynamic : Bool)
  deriving DecidableEq, Inhabited

/-- What putting a value of a category into a field does to references. -/
def FieldOwnership.ofCategory : TypeCategory → FieldOwnership
  | .object _ nullable .counted => .shared nullable false
  | .object _ nullable .dynamic => .shared nullable true
  | _ => .untracked

namespace Marshal

open Code

/-- The code of a field of the instance. -/
def selfField (field : String) : Code :=
  fixed "self." ++ word field

/-- A call that changes the references of an object. -/
def changeReferences (change : String) (dynamic : Bool) (reference : Code) : Code :=
  fixed "::gdbind_runtime::object::" ++
    word (if dynamic then change ++ "_if_ref_counted" else change) ++ paren (handle reference) ++
    fixed ";"

/-- The code that puts the value into a field. -/
def assign (field : String) (ownership : FieldOwnership) : Code :=
  let store := selfField field ++ fixed "= value;"
  match ownership with
  | .untracked => store
  | .shared true dynamic =>
    fixed "if let Some(new) = &value" ++ brace (changeReferences "retain" dynamic (word "new")) ++
      fixed "if let Some(old) = &" ++ selfField field ++
      brace (changeReferences "release" dynamic (word "old")) ++ store
  | .shared false dynamic =>
    changeReferences "retain" dynamic (fixed "&value") ++
      changeReferences "release" dynamic (.mark '&' :: selfField field) ++ store

/-- The arms for a value that was read. -/
def valueArms : ArgumentDecoder → Code
  | .enumeration _ true =>
    arm (fixed "Ok(Some(value))") (word "value") ++ arm (fixed "Ok(None)") (word "return")
  | _ => arm (fixed "Ok(value)") (word "value")

/-- The body of the setter of a property. -/
def setter (className property field : String) (type : MarshaledType) : Code :=
  let decoder := ArgumentDecoder.ofCategory type.category true
  let failed :=
    report
        (text "Error setting `\x7b\x7d`: expected \x7b\x7d, \x7b\x7d" ++ fixed "," ++
          text (className ++ "." ++ property) ++ fixed "," ++ text type.category.text ++
          fixed ", err") ++
      fixed "; return;"
  fixed "let value:" ++ type.code ++ fixed "= match" ++ decoder.code 0 ++
    brace (valueArms decoder ++ armBlock (fixed "Err(err)") failed) ++ fixed ";" ++
    assign field (.ofCategory type.category)

/-- The body of the getter of a property. -/
def getter (field : String) : Code :=
  encode (selfField field)

end Marshal

end EngineBindings
