import EngineBindings.Form.Basic
import EngineBindings.Registry.Extension

/-!
# JSON forms of registered members and of startup plans
-/

namespace EngineBindings.Form

/-- The record of a property. -/
def propertyInfo (p : PropertyInfo) : Json :=
  rec [("name", str p.name), ("variant_type", str p.kind.caseName),
    ("class_name", opt str p.className?), ("hint", str p.hint.name),
    ("hint_string", str p.hintString), ("usage", num p.usage.bits.toNat)]

/-- A registered member. -/
def member : RegisteredMember → Json
  | .group name lead => rec [("group", strs [name, lead])]
  | .subgroup name lead => rec [("subgroup", strs [name, lead])]
  | .property info setter getter =>
    rec [("property", propertyInfo info), ("setter", str setter), ("getter", str getter)]
  | .method m =>
    rec [("method", str m.name), ("arguments", list propertyInfo m.arguments),
      ("returns", opt propertyInfo m.returns?), ("flags", num m.flags.bits.toNat)]
  | .signal s => rec [("signal", str s.name), ("arguments", list propertyInfo s.arguments)]

/-- The fields of a startup plan. -/
def startupPlan (p : StartupPlan) : List (String × Json) :=
  let entry (e : Level × String) := strs [e.1.name, e.2]
  [("tiers", list (fun b => .array [str b.level.name, strs b.classes]) p.blocks),
    ("by_level", list (fun l => strs (p.classesAt l)) Level.all),
    ("registration", list entry p.registrationOrder),
    ("deregistration", list entry p.deregistrationOrder), ("len", num p.size),
    ("is_empty", bln (p.size == 0))]

/-- Why classes cannot be ordered. -/
def startupError (e : StartupError) : Json :=
  let kind := match e with
    | .parentInLaterLevel .. => "ParentInLaterTier"
    | .duplicateClass _ => "DuplicateClass"
    | .cycle _ => "Cycle"
  failure kind e.message

end EngineBindings.Form
