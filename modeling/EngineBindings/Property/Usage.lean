/-!
# Property usage and method flags

Flag sets of 32 bits: how the engine stores, shows and serializes a property, and how it
dispatches a method.
-/

namespace EngineBindings

/-- How the engine stores, shows and serializes a property. -/
structure PropertyUsage where
  bits : UInt32
  deriving DecidableEq, Inhabited

namespace PropertyUsage

def none : PropertyUsage := ⟨0⟩
def storage : PropertyUsage := ⟨0x2⟩
def editor : PropertyUsage := ⟨0x4⟩
def internal : PropertyUsage := ⟨0x8⟩
def checkable : PropertyUsage := ⟨0x10⟩
def checked : PropertyUsage := ⟨0x20⟩
def group : PropertyUsage := ⟨0x40⟩
def category : PropertyUsage := ⟨0x80⟩
def subgroup : PropertyUsage := ⟨0x100⟩
def classIsBitfield : PropertyUsage := ⟨0x200⟩
def noInstanceState : PropertyUsage := ⟨0x400⟩
def restartIfChanged : PropertyUsage := ⟨0x800⟩
def scriptVariable : PropertyUsage := ⟨0x1000⟩
def storeIfNull : PropertyUsage := ⟨0x2000⟩
def updateAllIfModified : PropertyUsage := ⟨0x4000⟩
def classIsEnum : PropertyUsage := ⟨0x10000⟩
def nilIsVariant : PropertyUsage := ⟨0x20000⟩
def array : PropertyUsage := ⟨0x40000⟩
def readOnly : PropertyUsage := ⟨0x8000000⟩

/-- Both sets of flags. -/
def union (a b : PropertyUsage) : PropertyUsage :=
  ⟨a.bits ||| b.bits⟩

/-- A property is stored and shown in the editor unless it says otherwise. -/
def usual : PropertyUsage :=
  storage.union editor

/-- The flags with the names of generated code. -/
def named : List (String × PropertyUsage) :=
  [("NONE", none), ("STORAGE", storage), ("EDITOR", editor), ("INTERNAL", internal),
    ("CHECKABLE", checkable), ("CHECKED", checked), ("GROUP", group), ("CATEGORY", category),
    ("SUBGROUP", subgroup), ("CLASS_IS_BITFIELD", classIsBitfield),
    ("NO_INSTANCE_STATE", noInstanceState), ("RESTART_IF_CHANGED", restartIfChanged),
    ("SCRIPT_VARIABLE", scriptVariable), ("STORE_IF_NULL", storeIfNull),
    ("UPDATE_ALL_IF_MODIFIED", updateAllIfModified), ("CLASS_IS_ENUM", classIsEnum),
    ("NIL_IS_VARIANT", nilIsVariant), ("ARRAY", array), ("READ_ONLY", readOnly),
    ("DEFAULT", usual)]

/-- The flag with a name of generated code. -/
def ofCaseName? (name : String) : Option PropertyUsage :=
  named.lookup name

end PropertyUsage

/-- How the engine dispatches a method. -/
structure MethodFlags where
  bits : UInt32
  deriving DecidableEq, Inhabited

namespace MethodFlags

def normal : MethodFlags := ⟨0x1⟩
def editor : MethodFlags := ⟨0x2⟩
def const : MethodFlags := ⟨0x4⟩
def virtual : MethodFlags := ⟨0x8⟩
def vararg : MethodFlags := ⟨0x10⟩
def static : MethodFlags := ⟨0x20⟩

/-- Both sets of flags. -/
def union (a b : MethodFlags) : MethodFlags :=
  ⟨a.bits ||| b.bits⟩

/-- The flags with the names of generated code. -/
def named : List (String × MethodFlags) :=
  [("NORMAL", normal), ("EDITOR", editor), ("CONST", const), ("VIRTUAL", virtual),
    ("VARARG", vararg), ("STATIC", static), ("DEFAULT", normal)]

/-- The flag with a name of generated code. -/
def ofCaseName? (name : String) : Option MethodFlags :=
  named.lookup name

end MethodFlags

end EngineBindings
