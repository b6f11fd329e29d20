import EngineBindings.Marshal.Argument
import EngineBindings.Syntax.Grammar

/-!
# Types of the host language as declared types

A field or a parameter of a class is written with a type of the host language.  Only its syntax is
at hand, so any unknown name of the form of a class name counts as an object class whose reference
counting shows at run time, and an enumeration is known only where an attribute says so.
-/

namespace EngineBindings

namespace TypeSyntax

/-- A name, with types as its arguments if there are some. -/
def named (name : String) (types : List TypeSyntax) : TypeSyntax :=
  let arguments :=
    if types.isEmpty then []
    else .mark '<' :: Code.commas (types.map TypeSyntax.code) ++ [.mark '>']
  path (Code.word name ++ arguments) .single name types 0

/-- Whether a type is a slice. -/
def isSlice : TypeSyntax → Bool
  | slice _ _ => true
  | _ => false

end TypeSyntax

namespace DeclaredType

/-- The declared type of a path, whose last name has some types as arguments. -/
def ofSegment (name : String) (args : List DeclaredType) : DeclaredType :=
  match args with
  | [inner] =>
    if name = "Option" then .optional inner
    else if name = "Gd" then inner
    else .named name args
  | args => .named name args

mutual

/-- The declared type of a type of the host language.  The last name of a path counts, a type in
parentheses is that type, an optional value is optional, and a handle to an object of a class stands
for the class.  Slices and arrays are sequences; any other type is a name that nothing has. -/
def ofSyntax : TypeSyntax → DeclaredType
  | .path code form name types _ =>
    if form = .qualified then .plain code.compact else ofSegment name (ofTypes types)
  | .enclosed _ inner => ofSyntax inner
  | .slice _ element => .sequence (ofSyntax element)
  | .array _ element => .sequence (ofSyntax element)
  | .reference code referent =>
    if referent.isSlice then ofSyntax referent else .plain code.compact
  | .other code => .plain code.compact

/-- The declared types of types. -/
def ofTypes : List TypeSyntax → List DeclaredType
  | [] => []
  | type :: rest => ofSyntax type :: ofTypes rest

end

mutual

/-- The innermost named type, by which an attribute means an enumeration. -/
def leafName? : DeclaredType → Option String
  | .optional inner => leafName? inner
  | .sequence inner => leafName? inner
  | .named name args => leafOfLast? (some name) args
  | .enumeration name _ => some name
  | .pointer _ => none

/-- The innermost named type of the last of some arguments, or a name if there are none. -/
def leafOfLast? (otherwise : Option String) : List DeclaredType → Option String
  | [] => otherwise
  | arg :: rest => leafOfLast? (leafName? arg) rest

end

end DeclaredType

namespace TypeContext

/-- Names of the host's own library that are never object classes. -/
def hostNames : List String :=
  ["String", "str", "char", "usize", "isize", "i128", "u128", "Box", "Rc", "Arc", "HashMap",
    "BTreeMap"]

/-- Whether a name has the form of a class name. -/
def looksLikeClass (name : String) : Bool :=
  (name.toList.head?.any Char.isUpper) && name.toList.all (fun c => c.isAlphanum || c == '_') &&
    !hostNames.contains name

/-- The context of a declaration, in which every name of the form of a class name is a class.  If
the declaration gives a width, the innermost name of its type is an enumeration of that width. -/
def ofDeclaration (type : DeclaredType) (width? : Option EnumWidth) : TypeContext where
  enumWidth? name := if type.leafName? = some name then width? else none
  classCounting? name := if looksLikeClass name then some .dynamic else none

end TypeContext

/-- The category of a type as it is written; an attribute may say that it is an enumeration. -/
def TypeCategory.ofSyntax (t : TypeSyntax) (width? : Option EnumWidth) :
    Except ClassifyError TypeCategory :=
  let declared := DeclaredType.ofSyntax t
  classify (.ofDeclaration declared width?) declared

/-- A type as it is written, with its category. -/
def MarshaledType.ofSyntax (t : TypeSyntax) (category : TypeCategory) : MarshaledType :=
  ⟨t.code, .ofSyntax t, category⟩

end EngineBindings
