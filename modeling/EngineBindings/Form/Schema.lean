import EngineBindings.Form.Type
import EngineBindings.Schema.Basic

/-!
# The JSON form of a schema

All that is known of an engine, for tools that compare what was read with what was written.
-/

namespace EngineBindings.Form

/-- A name with a number. -/
def pair (p : String × Int) : Json :=
  .array [str p.1, int p.2]

/-- The call of a constructor that a constant stands for. -/
def constructorCall (value : String) : Json :=
  opt (fun (callee, args) => .array [str callee, strs args]) (constructorCall? value)

/-- A parameter. -/
def param (p : Param) : Json :=
  rec [("name", str p.name), ("type", type p.type), ("default", opt str p.default?)]

/-- An enumeration. -/
def enumeration (e : Enumeration) : Json :=
  rec [("name", str e.name), ("is_bitfield", bln e.isBitfield), ("values", list pair e.values)]

/-- A method. -/
def method (m : Method) : Json :=
  rec [("name", str m.name), ("params", list param m.params), ("returns", opt type m.returns?),
    ("scope", str m.scope.name), ("is_const", bln m.isConst), ("is_vararg", bln m.isVararg),
    ("hash", opt num m.hash?), ("uses_pointers", bln m.usesPointers)]

/-- A property. -/
def property (p : Property) : Json :=
  rec [("name", str p.name), ("type", type p.type), ("hint", str p.hint.name),
    ("hint_string", str p.hintString), ("usage", num p.usage.bits.toNat), ("getter", str p.getter),
    ("setter", opt str p.setter?), ("index", opt int p.index?),
    ("read_only", bln p.setter?.isNone)]

/-- A class. -/
def classDescriptor (c : ClassDescriptor) : Json :=
  rec [("name", str c.name), ("parent", opt str c.parent?), ("is_ref_counted", bln c.isRefCounted),
    ("is_instantiable", bln c.isInstantiable), ("api_type", str c.part.name),
    ("methods", list method c.methods), ("properties", list property c.properties),
    ("signals",
      list (fun s => rec [("name", str s.name), ("params", list param s.params)]) c.signals),
    ("enums", list enumeration c.enums),
    ("constants", list (fun k => pair (k.name, k.value)) c.constants)]

/-- A builtin type. -/
def builtin (b : Builtin) : Json :=
  rec [("name", str b.name), ("variant_type", str b.kind.caseName), ("host_name", str b.hostName),
    ("methods", list method b.methods), ("enums", list enumeration b.enums),
    ("members", list (fun m => rec [("name", str m.name), ("type", type m.type)]) b.members),
    ("is_keyed", bln b.isKeyed), ("indexing_return_type", opt type b.indexingReturns?),
    ("constructors",
      list (fun c => rec [("index", num c.index), ("params", list param c.params)])
        b.constructors),
    ("operators",
      list (fun o => rec [("operator", str o.operator.caseName), ("right", opt type o.right?),
        ("returns", type o.returns)]) b.operators),
    ("constants",
      list (fun k => rec [("name", str k.name), ("type", type k.type), ("value", str k.value),
        ("call", constructorCall k.value)]) b.constants)]

/-- A utility function. -/
def utilityFunction (f : UtilityFunction) : Json :=
  rec [("name", str f.name), ("category", str f.category), ("params", list param f.params),
    ("returns", opt type f.returns?), ("is_vararg", bln f.isVararg), ("hash", opt num f.hash?),
    ("uses_pointers", bln f.usesPointers)]

/-- A schema. -/
def schema (s : Schema) : Json :=
  rec [("header",
      .array [num s.version.major, num s.version.minor, num s.version.patch, str s.version.status,
        str s.version.fullName]),
    ("classes", list classDescriptor s.classes), ("builtins", list builtin s.builtins),
    ("global_enums", list enumeration s.globalEnums),
    ("singletons", list (fun e => strs [e.name, e.className]) s.singletons),
    ("utility_functions", list utilityFunction s.utilityFunctions)]

end EngineBindings.Form
