import EngineBindings.Form.Basic
import EngineBindings.TypeCategory

/-!
# JSON forms of types

Declared types and their categories.
-/

namespace EngineBindings.Form

mutual

/-- A declared type. -/
def type : DeclaredType → Json
  | .named n args => rec [("named", str n), ("args", .array (types args))]
  | .optional t => rec [("optional", type t)]
  | .sequence t => rec [("sequence", type t)]
  | .enumeration n b => rec [("enum", str n), ("bitfield", bln b)]
  | .pointer n => rec [("pointer", str n)]

/-- Some declared types. -/
def types : List DeclaredType → List Json
  | [] => []
  | t :: rest => type t :: types rest

end

/-- `readType` with a bound on the depth. -/
def readTypeWithin : Nat → Json → Read DeclaredType
  | 0, _ => .error "bad type"
  | fuel + 1, j => do
    if let some n := optText j "named" then
      return .named n (← (listAt j "args").mapM (readTypeWithin fuel))
    if let some t := get? j "optional" then return .optional (← readTypeWithin fuel t)
    if let some t := get? j "sequence" then return .sequence (← readTypeWithin fuel t)
    if let some n := optText j "enum" then return .enumeration n (flag j "bitfield")
    if let some n := optText j "pointer" then return .pointer n
    return .ofEngine (← textAt j "engine") (optText j "meta")

/-- Reads a declared type. -/
def readType (j : Json) : Read DeclaredType :=
  readTypeWithin (depth j) j

/-- A category. -/
def category : TypeCategory → Json
  | .primitive p => rec [("kind", str "Primitive"), ("name", str p.hostName)]
  | .enumeration w => rec [("kind", str "Enum"), ("bits", num w.bits)]
  | .variant n => rec [("kind", str "OpaqueVariant"), ("nullable", bln n)]
  | .collection e => rec [("kind", str "HomogeneousCollection"), ("element", category e)]
  | .object c n r =>
    rec [("kind", str "ObjectReference"), ("class", str c), ("nullable", bln n),
      ("ref_counting", str r.name)]

/-- Reads a kind of reference counting. -/
def readCounting (s : String) : Read RefCounting :=
  need "ref_counting" ([RefCounting.counted, .uncounted, .dynamic].find? (·.name == s))

/-- `readCategory` with a bound on the depth. -/
def readCategoryWithin : Nat → Json → Read TypeCategory
  | 0, _ => .error "bad category"
  | fuel + 1, j => do
    match ← textAt j "kind" with
    | "Primitive" => return .primitive (← need "name" (Primitive.ofHostName? (← textAt j "name")))
    | "Enum" =>
      let bits? := (get? j "bits").bind Json.nat32?
      return .enumeration (← need "bits" (bits?.bind EnumWidth.ofBits?))
    | "OpaqueVariant" => return .variant (flag j "nullable")
    | "HomogeneousCollection" =>
      return .collection (← readCategoryWithin fuel (← field j "element"))
    | _ =>
      return .object (← textAt j "class") (flag j "nullable")
        (← readCounting (← textAt j "ref_counting"))

/-- Reads a category. -/
def readCategory (j : Json) : Read TypeCategory :=
  readCategoryWithin (depth j) j

/-- Why a type has no category. -/
def classifyError : ClassifyError → Json
  | e@(.rejected _ _) => failure "Rejected" e.message
  | e@(.unclassifiable _) => failure "Unclassifiable" e.message

end EngineBindings.Form
