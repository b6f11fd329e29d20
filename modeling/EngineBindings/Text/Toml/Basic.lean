/-!
# TOML documents

The values of a TOML document and the reading of records from them.  A record is written as a
table by names or as an array by positions; unknown names and surplus positions are skipped.
-/

namespace EngineBindings

/-- A value of a TOML document.  Numbers, dates and times that nobody reads keep their spelling. -/
inductive Toml where
  | string (text : String)
  | boolean (value : Bool)
  | number (spelling : String)
  | moment (spelling : String)
  | array (items : List Toml)
  | table (entries : List (String × Toml))
  deriving Inhabited

namespace Toml

/-- A text. -/
def text? : Toml → Option String
  | .string text => some text
  | _ => none

/-- A list of values, each read by `read`. -/
def list? {α : Type} (read : Toml → Option α) : Toml → Option (List α)
  | .array items => items.mapM read
  | _ => none

/-- One of a few names: a text, or a table with that one key over an empty value. -/
def choice? {α : Type} (ofName? : String → Option α) : Toml → Option α
  | .string name => ofName? name
  | .table [(name, .array [])] => ofName? name
  | .table [(name, .table [])] => ofName? name
  | _ => none

/-- The known fields of a record. -/
structure Fields where
  entries : List (String × Toml)

/-- Reads a record with the given field names, in either form.  A date or a time counts as a table
that has none of them. -/
def fields? (names : List String) : Toml → Option Fields
  | .table entries => some ⟨entries.filter fun entry => names.contains entry.1⟩
  | .array items => some ⟨names.zip items⟩
  | .moment _ => some ⟨[]⟩
  | _ => none

/-- A field that may be left out. -/
def Fields.withDefault {α : Type} (f : Fields) (name : String) (fallback : α)
    (read : Toml → Option α) : Option α :=
  match f.entries.lookup name with
  | none => some fallback
  | some value => read value

end Toml

end EngineBindings
