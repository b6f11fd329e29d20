import EngineBindings.Text.Json

/-!
# JSON forms

How values are written as JSON and read from it.  Reading gives up with a note of what is missing or
of the wrong kind; a field that is null counts as missing.
-/

namespace EngineBindings.Form

/-- What was read, or what could not be. -/
abbrev Read := Except String

/-! ## Writing -/

/-- A text. -/
def str (s : String) : Json :=
  .ofText s

/-- A whole number. -/
def int (n : Int) : Json :=
  .ofInt n

/-- A natural number. -/
def num (n : Nat) : Json :=
  .ofInt n

/-- A truth value. -/
def bln (b : Bool) : Json :=
  .bool b

/-- An object with some fields. -/
def rec (fields : List (String × Json)) : Json :=
  .ofFields fields

/-- A list. -/
def list {α : Type} (write : α → Json) (items : List α) : Json :=
  .array (items.map write)

/-- A list of texts. -/
def strs (items : List String) : Json :=
  list str items

/-- A value that may be missing. -/
def opt {α : Type} (write : α → Json) (item? : Option α) : Json :=
  .ofOption write item?

/-- A failure with its kind and text. -/
def failure (kind message : String) : Json :=
  rec [("error", str kind), ("message", str message)]

/-! ## Reading -/

/-- The value of a field of an object; the last of a name counts. -/
def get? (j : Json) (name : String) : Option Json :=
  match j with
  | .object members => (members.reverse.lookup (some name)).bind fun
    | .null => none
    | v => some v
  | _ => none

/-- A value that has to be there. -/
def need {α : Type} (what : String) : Option α → Read α
  | some a => .ok a
  | none => .error ("bad " ++ what)

/-- The value of a field that has to be there. -/
def field (j : Json) (name : String) : Read Json :=
  need name (get? j name)

/-- The text of a field. -/
def textAt (j : Json) (name : String) : Read String := do
  need name (← field j name).text?

/-- The text of a field that may be missing. -/
def optText (j : Json) (name : String) : Option String :=
  (get? j name).bind Json.text?

/-- The items of a field; none if it is missing. -/
def listAt (j : Json) (name : String) : List Json :=
  ((get? j name).bind Json.array?).getD []

/-- The texts of a field; none if it is missing. -/
def textsAt (j : Json) (name : String) : Read (List String) :=
  (listAt j name).mapM fun t => need name t.text?

/-- The whole number of a field. -/
def intAt (j : Json) (name : String) : Read Int := do
  need name (← field j name).int?

/-- The truth value of a field; false if it is missing. -/
def flag (j : Json) (name : String) : Bool :=
  ((get? j name).bind Json.bool?).getD false

mutual

/-- How deep the parts of a value lie. -/
def depth : Json → Nat
  | .array items => depthOfItems items + 1
  | .object members => depthOfMembers members + 1
  | _ => 1

/-- How deep the parts of some values lie. -/
def depthOfItems : List Json → Nat
  | [] => 0
  | j :: rest => max (depth j) (depthOfItems rest)

/-- How deep the parts of some fields lie. -/
def depthOfMembers : List (Option String × Json) → Nat
  | [] => 0
  | (_, j) :: rest => max (depth j) (depthOfMembers rest)

end

end EngineBindings.Form
