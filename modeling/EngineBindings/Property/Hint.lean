/-!
# Property hints

How the editor is asked to present a property, with the numbers of the engine and the names by
which attributes ask for a hint.
-/

namespace EngineBindings

/-- An editor hint of a property. -/
inductive PropertyHint where
  | none
  | range
  | enumeration
  | enumSuggestion
  | expEasing
  | link
  | flags
  | layers2DRender
  | layers2DPhysics
  | layers2DNavigation
  | layers3DRender
  | layers3DPhysics
  | layers3DNavigation
  | file
  | dir
  | globalFile
  | globalDir
  | resourceType
  | multilineText
  | expression
  | placeholderText
  | colorNoAlpha
  | objectId
  | typeString
  | nodePathToEditedNode
  | objectTooBig
  | nodePathValidTypes
  | saveFile
  | globalSaveFile
  | intIsObjectId
  | intIsPointer
  | arrayType
  | localeId
  | localizableString
  | nodeType
  deriving DecidableEq, Inhabited

namespace PropertyHint

/-- All hints in the order of their numbers. -/
def all : List PropertyHint :=
  [none, range, enumeration, enumSuggestion, expEasing, link, flags, layers2DRender,
    layers2DPhysics, layers2DNavigation, layers3DRender, layers3DPhysics, layers3DNavigation,
    file, dir, globalFile, globalDir, resourceType, multilineText, expression, placeholderText,
    colorNoAlpha, objectId, typeString, nodePathToEditedNode, objectTooBig, nodePathValidTypes,
    saveFile, globalSaveFile, intIsObjectId, intIsPointer, arrayType, localeId,
    localizableString, nodeType]

/-- The number of a hint. -/
def bits (hint : PropertyHint) : Nat :=
  hint.ctorIdx

/-- The name of a hint in generated code. -/
def caseName : PropertyHint → String
  | none => "None"
  | range => "Range"
  | enumeration => "Enum"
  | enumSuggestion => "EnumSuggestion"
  | expEasing => "ExpEasing"
  | link => "Link"
  | flags => "Flags"
  | layers2DRender => "Layers2DRender"
  | layers2DPhysics => "Layers2DPhysics"
  | layers2DNavigation => "Layers2DNavigation"
  | layers3DRender => "Layers3DRender"
  | layers3DPhysics => "Layers3DPhysics"
  | layers3DNavigation => "Layers3DNavigation"
  | file => "File"
  | dir => "Dir"
  | globalFile => "GlobalFile"
  | globalDir => "GlobalDir"
  | resourceType => "ResourceType"
  | multilineText => "MultilineText"
  | expression => "Expression"
  | placeholderText => "PlaceholderText"
  | colorNoAlpha => "ColorNoAlpha"
  | objectId => "ObjectId"
  | typeString => "TypeString"
  | nodePathToEditedNode => "NodePathToEditedNode"
  | objectTooBig => "ObjectTooBig"
  | nodePathValidTypes => "NodePathValidTypes"
  | saveFile => "SaveFile"
  | globalSaveFile => "GlobalSaveFile"
  | intIsObjectId => "IntIsObjectId"
  | intIsPointer => "IntIsPointer"
  | arrayType => "ArrayType"
  | localeId => "LocaleId"
  | localizableString => "LocalizableString"
  | nodeType => "NodeType"

/-- The name by which an attribute asks for a hint. -/
def name : PropertyHint → String
  | none => "none"
  | range => "range"
  | enumeration => "enum"
  | enumSuggestion => "enum_suggestion"
  | expEasing => "exp_easing"
  | link => "link"
  | flags => "flags"
  | layers2DRender => "layers_2d_render"
  | layers2DPhysics => "layers_2d_physics"
  | layers2DNavigation => "layers_2d_navigation"
  | layers3DRender => "layers_3d_render"
  | layers3DPhysics => "layers_3d_physics"
  | layers3DNavigation => "layers_3d_navigation"
  | file => "file"
  | dir => "dir"
  | globalFile => "global_file"
  | globalDir => "global_dir"
  | resourceType => "resource_type"
  | multilineText => "multiline_text"
  | expression => "expression"
  | placeholderText => "placeholder_text"
  | colorNoAlpha => "color_no_alpha"
  | objectId => "object_id"
  | typeString => "type_string"
  | nodePathToEditedNode => "node_path_to_edited_node"
  | objectTooBig => "object_too_big"
  | nodePathValidTypes => "node_path_valid_types"
  | saveFile => "save_file"
  | globalSaveFile => "global_save_file"
  | intIsObjectId => "int_is_object_id"
  | intIsPointer => "int_is_pointer"
  | arrayType => "array_type"
  | localeId => "locale_id"
  | localizableString => "localizable_string"
  | nodeType => "node_type"

/-- The hint with a name in attributes. -/
def ofName? (name : String) : Option PropertyHint :=
  all.find? (fun hint => hint.name == name)

end PropertyHint

end EngineBindings
