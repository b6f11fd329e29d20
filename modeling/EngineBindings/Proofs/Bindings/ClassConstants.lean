import EngineBindings.Proofs.Bindings.RootFile

/-!
# Constants of classes in generated code

What a class is registered with, and at which level, are constants in its code.  They are read from
there (`ClassUnit.ofCode?_code`).
-/

namespace EngineBindings

open Naming Code Documentation

/-! ## Reading constants -/

/-- What a class is registered with, and when. -/
structure ClassConstants where
  ident : String
  name : String
  parent? : Option String
  isRefCounted : Bool
  level : Level

namespace ClassConstants

/-- The value of a constant: what stands between the sign of equality and the semicolon. -/
def value? (constant : String) (c : Code) : Option Code :=
  (after? constant c).map fun rest =>
    ((rest.dropWhile fun t => !isMark '=' t).drop 1).takeWhile fun t => !isMark ';' t
where
  isMark (c : Char) : Token → Bool
    | .mark d => d == c
    | _ => false

def textOf? : Code → Option String
  | [.text content _] => some content
  | _ => none

def parentOf? : Code → Option (Option String)
  | [.word "None"] => some none
  | [.word "Some", .group .paren [.text parent _]] => some (some parent)
  | _ => none

def boolOf? : Code → Option Bool
  | [.word "true"] => some true
  | [.word "false"] => some false
  | _ => none

def levelOf? (c : Code) : Option Level :=
  (words c).getLast?.bind fun name => Level.all.find? fun level => level.caseName == name

/-- The constants of a class, where code starts to say what the class is registered with. -/
def read? : Code → Option ClassConstants
  | .word "impl" :: .mark ':' :: .mark ':' :: .word "gdbind_runtime" :: .mark ':' :: .mark ':' ::
      .word "GodotClass" :: .word "for" :: .word ident :: .group .brace inner :: _ => do
    let name ← (value? "CLASS_NAME" inner).bind textOf?
    let parent? ← (value? "PARENT_CLASS" inner).bind parentOf?
    let isRefCounted ← (value? "REF_COUNTED" inner).bind boolOf?
    let level ← (value? "INIT_LEVEL" inner).bind levelOf?
    return { ident, name, parent?, isRefCounted, level }
  | _ => none

/-- The first constants of a class in code. -/
def ofCode? (c : Code) : Option ClassConstants :=
  (readAll read? c).head?

theorem read?_readsAt : ReadsAt read? ["impl"] := by
  intro c found h
  unfold read? at h
  split at h
  · exact ⟨_, List.mem_cons_self, rfl⟩
  · cases h

end ClassConstants

/-! ## Declarations of constants -/

/-- The declaration of a constant. -/
structure ConstantItem where
  name : String
  type : Code
  value : Code

namespace ConstantItem

open ClassConstants

def code (d : ConstantItem) : Code :=
  .word "const" :: .word d.name :: .mark ':' ::
    (d.type ++ .mark '=' :: (d.value ++ [.mark ';']))

/-- Whether the value of a constant can be told from what stands around it, and the constant from
others with some names. -/
structure IsApart (d : ConstantItem) (names : List String) : Prop where
  type_marks : ∀ t ∈ d.type, value?.isMark '=' t = false
  value_marks : ∀ t ∈ d.value, value?.isMark ';' t = false
  words : ∀ w ∈ Code.words (d.type ++ d.value), w ∉ names

variable {d : ConstantItem} {names : List String} {constant : String} {rest : Code}

theorem value?_code (hconst : constant ≠ "const") (hd : d.IsApart names)
    (hname : d.name = constant) :
    value? constant (d.code ++ rest) = some d.value := by
  have hafter : after? constant (d.code ++ rest) =
      some (.mark ':' :: d.type ++ .mark '=' :: (d.value ++ .mark ';' :: rest)) := by
    have hskip : constant ∉ Code.words [.word "const"] := by
      intro hmem
      exact hconst (List.mem_singleton.mp hmem)
    have hcode : d.code ++ rest = [.word "const"] ++ (word constant ++
        (.mark ':' :: d.type ++ .mark '=' :: (d.value ++ .mark ';' :: rest))) := by
      simp [code, word, hname]
    rw [hcode, after?_append hskip, after?_word_append]
  have hfront : ∀ t ∈ Token.mark ':' :: d.type, (!value?.isMark '=' t) = true := by
    refine List.forall_mem_cons.mpr ⟨rfl, fun t ht => ?_⟩
    rw [hd.type_marks t ht, Bool.not_false]
  have hinside : ∀ t ∈ d.value, (!value?.isMark ';' t) = true := fun t ht => by
    rw [hd.value_marks t ht, Bool.not_false]
  rw [value?, hafter, Option.map_some, List.dropWhile_append_of_pos hfront]
  refine congrArg some ((List.takeWhile_append_of_pos hinside).trans ?_)
  exact List.append_nil d.value

/-- Declarations of other constants are passed over. -/
theorem value?_skip (hconst : constant ≠ "const") (hd : d.IsApart names) (hmem : constant ∈ names)
    (hname : d.name ≠ constant) : value? constant (d.code ++ rest) = value? constant rest := by
  have hskip : constant ∉ Code.words d.code := by
    have hcode : d.code = word "const" ++ (word d.name ++ ([.mark ':'] ++ (d.type ++
        ([.mark '='] ++ (d.value ++ [.mark ';']))))) := by
      simp [code, word]
    have hmark (c : Char) : Code.words [.mark c] = [] := rfl
    have hwords : ¬constant ∈ Code.words (d.type ++ d.value) := fun hw => hd.words constant hw hmem
    rw [words_append, List.mem_append, not_or] at hwords
    rw [hcode]
    simp only [words_append, words_word, hmark, List.mem_append, List.mem_singleton,
      List.not_mem_nil, not_or]
    exact ⟨hconst, hname.symm, id, hwords.1, id, hwords.2, id⟩
  rw [value?, after?_append hskip, value?]

/-- A constant has the value of its first declaration. -/
theorem value?_flatMap (hconst : constant ≠ "const") (hmem : constant ∈ names)
    {ds : List ConstantItem} (hds : ∀ d ∈ ds, d.IsApart names) :
    value? constant (ds.flatMap code) =
      (ds.find? fun d => d.name == constant).map ConstantItem.value := by
  induction ds with
  | nil => rfl
  | cons d ds ih =>
    obtain ⟨hd, hrest⟩ := List.forall_mem_cons.mp hds
    rw [List.flatMap_cons, List.find?_cons]
    by_cases hname : d.name = constant
    · rw [value?_code hconst hd hname, beq_iff_eq.mpr hname]
      rfl
    · rw [value?_skip hconst hd hmem hname, beq_false_of_ne hname, ih hrest]

end ConstantItem

/-! ## Code of classes -/

namespace ClassUnit

/-- The constants of a class. -/
def constants (u : ClassUnit) : ClassConstants :=
  ⟨u.ident, u.name, u.parent?.map Prod.fst, u.isRefCounted, u.level⟩

/-- The texts around what is known of a class. -/
def classTexts : TextTable where
  entries :=
    [("const CLASS_NAME: &'static str =",
        [.inl "const", .inl "CLASS_NAME", .inr ':', .inr '&', .inl "'static", .inl "str",
          .inr '=']),
      ("; const PARENT_CLASS: Option<&'static str> =",
        [.inr ';', .inl "const", .inl "PARENT_CLASS", .inr ':', .inl "Option", .inr '<', .inr '&',
          .inl "'static", .inl "str", .inr '>', .inr '=']),
      ("; const REF_COUNTED: bool =",
        [.inr ';', .inl "const", .inl "REF_COUNTED", .inr ':', .inl "bool", .inr '=']),
      ("; const INIT_LEVEL: ::gdbind_runtime::InitializationLevel =",
        [.inr ';', .inl "const", .inl "INIT_LEVEL", .inr ':', .inr ':', .inr ':',
          .inl "gdbind_runtime", .inr ':', .inr ':', .inl "InitializationLevel", .inr '=']),
      ("impl ::gdbind_runtime::GodotClass for",
        [.inl "impl", .inr ':', .inr ':', .inl "gdbind_runtime", .inr ':', .inr ':',
          .inl "GodotClass", .inl "for"]),
      ("impl ::core::ops::Deref for",
        [.inl "impl", .inr ':', .inr ':', .inl "core", .inr ':', .inr ':', .inl "ops", .inr ':',
          .inr ':', .inl "Deref", .inl "for"]),
      ("::gdbind_runtime::", [.inr ':', .inr ':', .inl "gdbind_runtime", .inr ':', .inr ':']),
      ("::", [.inr ':', .inr ':']), ("Some", [.inl "Some"]), ("None", [.inl "None"]),
      (";", [.inr ';'])]
  reads := by decide +kernel

/-- The name of the parent of a class as an optional value. -/
def parentName (u : ClassUnit) : Code :=
  match u.parent? with
  | some (parent, _) => fixed "Some" ++ paren (text parent)
  | none => fixed "None"

/-- The constants of a class in its code. -/
def constantsCode (u : ClassUnit) : Code :=
  fixed "const CLASS_NAME: &'static str =" ++ text u.name ++
    fixed "; const PARENT_CLASS: Option<&'static str> =" ++ u.parentName ++
    fixed "; const REF_COUNTED: bool =" ++ word (toString u.isRefCounted) ++
    fixed "; const INIT_LEVEL: ::gdbind_runtime::InitializationLevel =" ++
    Marshal.level u.level ++ fixed ";"

/-- How the code of a class refers to that of its parent. -/
def derefCode (u : ClassUnit) : Code :=
  match u.parent? with
  | some (_, parent) =>
    fixed "impl ::core::ops::Deref for" ++ word u.ident ++
      brace
        (fixed "type Target =" ++ word parent ++ fixed "; fn deref(&self) -> &" ++ word parent ++
          brace (fixed "&self.base"))
  | none => []

theorem exists_code (u : ClassUnit) : ∃ docText field rest,
    u.code = Marshal.doc docText ++
      (fixed "#[derive(Debug, Clone, Copy, PartialEq, Eq, Hash)] pub struct" ++ (word u.ident ++
        (brace field ++ (u.derefCode ++ (fixed "impl ::gdbind_runtime::GodotClass for" ++
          (word u.ident ++ (brace u.constantsCode ++ rest))))))) := by
  unfold code definition constantsCode parentName derefCode
  cases u.parent? with
  | none =>
    simp only [List.append_assoc]
    exact ⟨_, _, _, rfl⟩
  | some parent =>
    simp only [List.append_assoc]
    exact ⟨_, _, _, rfl⟩

variable (u : ClassUnit)

/-- The name of the parent of a class as its constant has it. -/
def parentValue : Code :=
  u.parent?.elim [.word "None"] fun parent => [.word "Some", .group .paren [.text parent.1 none]]

/-- A level as the constant of a class has it. -/
def levelValue (level : Level) : Code :=
  [.mark ':', .mark ':', .word "gdbind_runtime", .mark ':', .mark ':', .word "InitializationLevel",
    .mark ':', .mark ':', .word level.caseName]

/-- The constants of a class with their types and values. -/
def constantItems : List ConstantItem :=
  [⟨"CLASS_NAME", [.mark '&', .word "'static", .word "str"], [.text u.name none]⟩,
    ⟨"PARENT_CLASS",
      [.word "Option", .mark '<', .mark '&', .word "'static", .word "str", .mark '>'],
      u.parentValue⟩,
    ⟨"REF_COUNTED", [.word "bool"], [.word (toString u.isRefCounted)]⟩,
    ⟨"INIT_LEVEL", [.mark ':', .mark ':', .word "gdbind_runtime", .mark ':', .mark ':',
      .word "InitializationLevel"], levelValue u.level⟩]

theorem settle_constantsCode :
    settle u.constantsCode = u.constantItems.flatMap ConstantItem.code := by
  have hclass : fixed "const CLASS_NAME: &'static str =" = _ := classTexts.fixed_eq
    [.inl "const", .inl "CLASS_NAME", .inr ':', .inr '&', .inl "'static", .inl "str", .inr '='] rfl
  have hparent : fixed "; const PARENT_CLASS: Option<&'static str> =" = _ := classTexts.fixed_eq
    [.inr ';', .inl "const", .inl "PARENT_CLASS", .inr ':', .inl "Option", .inr '<', .inr '&',
      .inl "'static", .inl "str", .inr '>', .inr '='] rfl
  have hcounted : fixed "; const REF_COUNTED: bool =" = _ := classTexts.fixed_eq
    [.inr ';', .inl "const", .inl "REF_COUNTED", .inr ':', .inl "bool", .inr '='] rfl
  have hlevel : fixed "; const INIT_LEVEL: ::gdbind_runtime::InitializationLevel =" = _ :=
    classTexts.fixed_eq [.inr ';', .inl "const", .inl "INIT_LEVEL", .inr ':', .inr ':', .inr ':',
      .inl "gdbind_runtime", .inr ':', .inr ':', .inl "InitializationLevel", .inr '='] rfl
  have hruntime : fixed "::gdbind_runtime::" = _ := classTexts.fixed_eq
    [.inr ':', .inr ':', .inl "gdbind_runtime", .inr ':', .inr ':'] rfl
  have hpath : fixed "::" = _ := classTexts.fixed_eq [.inr ':', .inr ':'] rfl
  have hsome : fixed "Some" = _ := classTexts.fixed_eq [.inl "Some"] rfl
  have hnone : fixed "None" = _ := classTexts.fixed_eq [.inl "None"] rfl
  have hend : fixed ";" = _ := classTexts.fixed_eq [.inr ';'] rfl
  rw [constantsCode, parentName, constantItems, parentValue, Marshal.level, Marshal.runtimeCase,
    runtime, hclass, hparent, hcounted, hlevel, hruntime, hpath, hend]
  cases u.parent? with
  | none =>
    dsimp only
    rw [hnone]
    rfl
  | some parent =>
    dsimp only
    rw [hsome]
    rfl

theorem parentOf?_parentValue :
    ClassConstants.parentOf? u.parentValue = some (u.parent?.map Prod.fst) := by
  unfold parentValue
  cases u.parent? <;> rfl

theorem levelOf?_levelValue (level : Level) :
    ClassConstants.levelOf? (levelValue level) = some level := by
  cases level <;> decide

theorem isApart_constantItems : ∀ d ∈ u.constantItems,
    d.IsApart ["CLASS_NAME", "PARENT_CLASS", "REF_COUNTED", "INIT_LEVEL"] := by
  rw [constantItems, parentValue, levelValue]
  refine List.forall_mem_cons.mpr ⟨?_, List.forall_mem_cons.mpr ⟨?_, List.forall_mem_cons.mpr
    ⟨?_, List.forall_mem_cons.mpr ⟨?_, nofun⟩⟩⟩⟩
  · have htype : ∀ t ∈ [Token.mark '&', .word "'static", .word "str"],
        ClassConstants.value?.isMark '=' t = false := by decide
    have hwords : ∀ w ∈ ["'static", "str"],
        w ∉ ["CLASS_NAME", "PARENT_CLASS", "REF_COUNTED", "INIT_LEVEL"] := by decide
    exact ⟨htype, List.forall_mem_singleton.mpr rfl, hwords⟩
  · cases u.parent? with
    | none => exact ⟨by decide, by decide, by decide⟩
    | some parent =>
      have htype : ∀ t ∈ [Token.word "Option", .mark '<', .mark '&', .word "'static", .word "str",
          .mark '>'], ClassConstants.value?.isMark '=' t = false := by decide
      have hwords : ∀ w ∈ ["Option", "'static", "str", "Some"],
          w ∉ ["CLASS_NAME", "PARENT_CLASS", "REF_COUNTED", "INIT_LEVEL"] := by decide
      exact ⟨htype, List.forall_mem_cons.mpr ⟨rfl, List.forall_mem_singleton.mpr rfl⟩, hwords⟩
  · cases u.isRefCounted <;> exact ⟨by decide, by decide, by decide⟩
  · cases u.level <;> exact ⟨by decide, by decide, by decide⟩

open ClassConstants in
theorem values_constantsCode :
    (value? "CLASS_NAME" (settle u.constantsCode)).bind textOf? = some u.name ∧
      (value? "PARENT_CLASS" (settle u.constantsCode)).bind parentOf? =
        some (u.parent?.map Prod.fst) ∧
      (value? "REF_COUNTED" (settle u.constantsCode)).bind boolOf? = some u.isRefCounted ∧
      (value? "INIT_LEVEL" (settle u.constantsCode)).bind levelOf? = some u.level := by
  have hvalue (constant : String) (hconst : constant ≠ "const")
      (hmem : constant ∈ ["CLASS_NAME", "PARENT_CLASS", "REF_COUNTED", "INIT_LEVEL"]) :=
    ConstantItem.value?_flatMap hconst hmem u.isApart_constantItems
  rw [settle_constantsCode, hvalue "CLASS_NAME" (by decide) (by decide),
    hvalue "PARENT_CLASS" (by decide) (by decide), hvalue "REF_COUNTED" (by decide) (by decide),
    hvalue "INIT_LEVEL" (by decide) (by decide)]
  have hbool : ∀ b, boolOf? [.word (toString b)] = some b := by decide
  exact ⟨rfl, u.parentOf?_parentValue, hbool u.isRefCounted, levelOf?_levelValue u.level⟩

theorem yields_derefCode (hkeyword : u.ident ∉ Text.keywords) :
    Yields ClassConstants.read? (settle u.derefCode) [] := by
  unfold derefCode
  cases u.parent? with
  | none => exact fun _ => rfl
  | some parent =>
    have hderef : fixed "impl ::core::ops::Deref for" = _ := classTexts.fixed_eq
      [.inl "impl", .inr ':', .inr ':', .inl "core", .inr ':', .inr ':', .inl "ops", .inr ':',
        .inr ':', .inl "Deref", .inl "for"] rfl
    dsimp only
    generalize fixed "type Target =" ++ _ ++ _ ++ _ ++ _ = inner
    rw [hderef]
    have hne : "impl" ≠ u.ident := fun heq => hkeyword (heq ▸ by decide)
    have hnotMem : "impl" ∉ ["core", "ops", "Deref", "for", u.ident] := by
      simp [hne]
    refine Yields.skip ?_ fun rest => rfl
    exact Yields.of_notMem_words ClassConstants.read?_readsAt hnotMem

/-- The documentation of a class and its structure are in front of its constants. -/
theorem yields_structCode (hkeyword : u.ident ∉ Text.keywords) (docText : String) (field : Code) :
    Yields ClassConstants.read? (settle (AssembledModule.useParent ++
      (Marshal.doc docText ++ (fixed
        "#[derive(Debug, Clone, Copy, PartialEq, Eq, Hash)] pub struct" ++
          (word u.ident ++ brace field))))) [] := by
  have hparent : words AssembledModule.useParent = ["use", "super"] :=
    AssembledModule.moduleTexts.words_fixed
      [.inl "use", .inl "super", .inr ':', .inr ':', .inr '*', .inr ';'] rfl
  have hstruct : words (fixed "#[derive(Debug, Clone, Copy, PartialEq, Eq, Hash)] pub struct") =
      ["pub", "struct"] := by decide +kernel
  have hne : "impl" ≠ u.ident := fun heq => hkeyword (heq ▸ by decide)
  refine Yields.of_notMem_words ClassConstants.read?_readsAt ?_
  rw [words_settle]
  simp [hparent, hstruct, hne]

theorem read?_constantsCode (rest : Code) :
    ClassConstants.read? (settle (fixed "impl ::gdbind_runtime::GodotClass for" ++
      (word u.ident ++ (brace u.constantsCode ++ rest)))) = some u.constants := by
  have himpl : fixed "impl ::gdbind_runtime::GodotClass for" = _ := classTexts.fixed_eq
    [.inl "impl", .inr ':', .inr ':', .inl "gdbind_runtime", .inr ':', .inr ':', .inl "GodotClass",
      .inl "for"] rfl
  obtain ⟨hname, hparent, hcounted, hlevel⟩ := u.values_constantsCode
  simp only [himpl, settle_append, settle_word, settle_brace]
  generalize settle u.constantsCode = inner at hname hparent hcounted hlevel
  change ClassConstants.read? (.word "impl" :: .mark ':' :: .mark ':' :: .word "gdbind_runtime" ::
    .mark ':' :: .mark ':' :: .word "GodotClass" :: .word "for" :: .word u.ident ::
      .group .brace inner :: settle rest) = _
  simp only [ClassConstants.read?, hname, hparent, hcounted, hlevel]
  rfl

/-- The constants are read from the code of a class. -/
theorem ofCode?_code {name : String} (hident : Naming.ident name = .ok u.ident) :
    ClassConstants.ofCode? (settle (AssembledModule.useParent ++ u.code)) = some u.constants := by
  obtain ⟨docText, field, rest, hcode⟩ := u.exists_code
  have hkeyword := notMem_keywords_of_ident hident
  have hread := u.read?_constantsCode rest
  have hsplit : AssembledModule.useParent ++ u.code = (AssembledModule.useParent ++
      (Marshal.doc docText ++ (fixed
        "#[derive(Debug, Clone, Copy, PartialEq, Eq, Hash)] pub struct" ++
          (word u.ident ++ brace field)))) ++ (u.derefCode ++
            (fixed "impl ::gdbind_runtime::GodotClass for" ++
              (word u.ident ++ (brace u.constantsCode ++ rest)))) := by
    rw [hcode]
    simp only [List.append_assoc]
  rw [ClassConstants.ofCode?, hsplit, settle_append, settle_append u.derefCode,
    u.yields_structCode hkeyword, u.yields_derefCode hkeyword]
  -- as a list of tokens the rest of the code is too long to compute with
  generalize settle (fixed "impl ::gdbind_runtime::GodotClass for" ++ _) = found at hread ⊢
  cases found with
  | nil => cases hread
  | cons token after =>
    rw [readAll, hread]
    rfl

end ClassUnit

end EngineBindings
