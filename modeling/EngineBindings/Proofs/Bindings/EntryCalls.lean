import EngineBindings.Bindings.StartupCalls
import EngineBindings.Proofs.Bindings.RootFile

/-!
# Startup functions as they are run

What the startup functions do is read off the code of the root file: a function of a level runs the
first case that matches the level, and the statements there register or remove one class each.
-/

namespace EngineBindings

open Code Documentation

namespace Code

/-! ## Running functions of levels -/

/-- What a match does with a case of an enumeration: the body of the first arm whose pattern ends in
the name of the case, or matches everything. -/
def caseFor? (name : String) (c : Code) : Option Code :=
  c.findSome? fun
    | .arm pattern _ body _ =>
      if (words pattern).getLast? = some name ∨ (words pattern).getLast? = some "_" then some body
      else none
    | _ => none

/-- The class of a statement that registers one. -/
def registered? : Code → Option String
  | .word "register_engine_class" :: .mark ':' :: .mark ':' :: .mark '<' :: .word ident ::
      .mark '>' :: .group .paren [] :: .mark ';' :: _ => some ident
  | _ => none

/-- The class of a statement that removes one by the name in its constants. -/
def removed? : Code → Option String
  | .word "unregister_class" :: .group .paren [.mark '<', .word ident, .word "as", .mark ':',
      .mark ':', .word "gdbind_runtime", .mark ':', .mark ':', .word "GodotClass", .mark '>',
      .mark ':', .mark ':', .word "CLASS_NAME", .mark ','] :: .mark ';' :: _ => some ident
  | _ => none

/-- The statements that a function runs for a level. -/
def statementsAt? (function : String) (level : Level) (c : Code) : Option Code :=
  ((functions c).lookup function).bind fun body => (block? body).bind (caseFor? level.caseName)

/-- The identifiers of the classes that are registered at a level, in order. -/
def registeredAt (c : Code) (level : Level) : Option (List String) :=
  (statementsAt? "initialize_level" level c).map (readAll registered?)

/-- The identifiers of the classes that are removed at a level, in order. -/
def removedAt (c : Code) (level : Level) : Option (List String) :=
  (statementsAt? "deinitialize_level" level c).map (readAll removed?)

end Code

namespace EntryUnit

/-- The texts around the names of classes. -/
def entryTexts : TextTable where
  entries :=
    [("::gdbind_runtime::ClassDb::register_engine_class::<",
        [.inr ':', .inr ':', .inl "gdbind_runtime", .inr ':', .inr ':', .inl "ClassDb", .inr ':',
          .inr ':', .inl "register_engine_class", .inr ':', .inr ':', .inr '<']),
      ("::gdbind_runtime::ClassDb::unregister_class",
        [.inr ':', .inr ':', .inl "gdbind_runtime", .inr ':', .inr ':', .inl "ClassDb", .inr ':',
          .inr ':', .inl "unregister_class"]),
      ("<", [.inr '<']), (";", [.inr ';']), ("match level", [.inl "match", .inl "level"]),
      ("as ::gdbind_runtime::GodotClass>::CLASS_NAME,",
        [.inl "as", .inr ':', .inr ':', .inl "gdbind_runtime", .inr ':', .inr ':',
          .inl "GodotClass", .inr '>', .inr ':', .inr ':', .inl "CLASS_NAME", .inr ','])]
  reads := by decide +kernel

/-- Whether code ends the type of a call that takes nothing. -/
def isCallEnd : Code → Bool
  | [.mark '>', .group .paren [], .mark ';'] => true
  | _ => false

theorem fixed_callEnd : fixed ">();" = [.mark '>', .group .paren [], .mark ';'] := by
  have hshape : isCallEnd (fixed ">();") = true := by decide +kernel
  unfold isCallEnd at hshape
  split at hshape
  · next heq => exact heq
  · cases hshape

/-- The statement that registers a class is read where it stands. -/
theorem yields_register (ident : String) :
    Yields registered? (settle (register ident)) [ident] := by
  have hlead : fixed "::gdbind_runtime::ClassDb::register_engine_class::<" = _ :=
    entryTexts.fixed_eq [.inr ':', .inr ':', .inl "gdbind_runtime", .inr ':', .inr ':',
      .inl "ClassDb", .inr ':', .inr ':', .inl "register_engine_class", .inr ':', .inr ':',
      .inr '<'] rfl
  have hcode : settle (register ident) = [.mark ':', .mark ':', .word "gdbind_runtime", .mark ':',
      .mark ':', .word "ClassDb", .mark ':', .mark ':', .word "register_engine_class", .mark ':',
      .mark ':', .mark '<', .word ident, .mark '>', .group .paren [], .mark ';'] := by
    rw [register, hlead, fixed_callEnd]
    rfl
  intro rest
  rw [hcode]
  simp [readAll, registered?]

theorem yields_unregister (ident : String) :
    Yields removed? (settle (unregister ident)) [ident] := by
  have hlead : fixed "::gdbind_runtime::ClassDb::unregister_class" = _ :=
    entryTexts.fixed_eq [.inr ':', .inr ':', .inl "gdbind_runtime", .inr ':', .inr ':',
      .inl "ClassDb", .inr ':', .inr ':', .inl "unregister_class"] rfl
  have hname : fixed "as ::gdbind_runtime::GodotClass>::CLASS_NAME," = _ :=
    entryTexts.fixed_eq [.inl "as", .inr ':', .inr ':', .inl "gdbind_runtime", .inr ':', .inr ':',
      .inl "GodotClass", .inr '>', .inr ':', .inr ':', .inl "CLASS_NAME", .inr ','] rfl
  have hopen : fixed "<" = [.mark '<'] := entryTexts.fixed_eq [.inr '<'] rfl
  have hend : fixed ";" = [.mark ';'] := entryTexts.fixed_eq [.inr ';'] rfl
  have hcode : settle (unregister ident) = [.mark ':', .mark ':', .word "gdbind_runtime", .mark ':',
      .mark ':', .word "ClassDb", .mark ':', .mark ':', .word "unregister_class",
      .group .paren [.mark '<', .word ident, .word "as", .mark ':', .mark ':',
        .word "gdbind_runtime", .mark ':', .mark ':', .word "GodotClass", .mark '>', .mark ':',
        .mark ':', .word "CLASS_NAME", .mark ','], .mark ';'] := by
    rw [unregister, hlead, hname, hopen, hend]
    rfl
  intro rest
  rw [hcode]
  simp [readAll, removed?]

/-! ## Cases of levels -/

theorem caseName_injective : Function.Injective Level.caseName := by
  intro a b h
  cases a <;> cases b <;> first | rfl | exact absurd h (by decide)

theorem getLast?_words_level (level : Level) :
    (words (settle (Marshal.level level))).getLast? = some level.caseName := by
  rw [words_settle, Marshal.level, Marshal.runtimeCase, words_append, words_word,
    List.getLast?_concat]

theorem caseFor?_armBlock_append (name : String) (pattern body rest : Code) :
    caseFor? name (armBlock pattern body ++ rest) =
      if (words pattern).getLast? = some name ∨ (words pattern).getLast? = some "_" then some body
      else caseFor? name rest := by
  rw [caseFor?, armBlock, List.singleton_append, List.findSome?_cons]
  dsimp only
  split
  · next heq =>
    split at heq
    · next hmatches => rw [if_pos hmatches, heq]
    · cases heq
  · next heq =>
    split at heq
    · cases heq
    · next hother =>
      rw [if_neg hother]
      rfl

theorem settle_armBlock (pattern body : Code) :
    settle (armBlock pattern body) = armBlock (settle pattern) (settle body) :=
  rfl

/-- The case for a level is its first block, or nothing is done. -/
theorem caseFor?_arms (level : Level) (blocks : List EntryBlock) (statements : EntryBlock → Code) :
    caseFor? level.caseName (settle ((blocks.flatMap fun block =>
        armBlock (Marshal.level block.level) (statements block)) ++
          armBlock (fixed "#[allow(unreachable_patterns)] _") [])) =
      some (((blocks.find? fun block => block.level == level).map fun block =>
        settle (statements block)).getD []) := by
  have hwords : words (settle (fixed "#[allow(unreachable_patterns)] _")) = ["_"] := by
    rw [words_settle]
    decide +kernel
  rw [settle_append]
  induction blocks with
  | nil =>
    rw [List.flatMap_nil, settle, List.nil_append, settle_armBlock,
      ← List.append_nil (armBlock _ _), caseFor?_armBlock_append, hwords, if_pos (.inr rfl)]
    rfl
  | cons block blocks ih =>
    rw [List.flatMap_cons, settle_append, settle_armBlock, List.append_assoc,
      caseFor?_armBlock_append, getLast?_words_level, ih, List.find?_cons]
    by_cases hlevel : block.level = level
    · have hname : some block.level.caseName = some level.caseName := by rw [hlevel]
      rw [if_pos (.inl hname), beq_iff_eq.mpr hlevel]
      rfl
    · have hname : ¬(some block.level.caseName = some level.caseName ∨
          some block.level.caseName = some "_") := by
        rintro (h | h)
        · exact hlevel (caseName_injective (Option.some.inj h))
        · cases hcase : block.level <;> rw [hcase] at h <;> exact absurd h (by decide)
      rw [if_neg hname, beq_false_of_ne hlevel]

variable (u : EntryUnit)

/-- What a function of a level runs are the statements of the first block of the level. -/
theorem block?_levelBody (level : Level) (statements : EntryBlock → Code) :
    (block? (settle (levelBody u.blocks statements))).bind (caseFor? level.caseName) =
      some (((u.blocks.find? fun block => block.level == level).map fun block =>
        settle (statements block)).getD []) := by
  have hmatch : fixed "match level" = [.word "match", .word "level"] :=
    entryTexts.fixed_eq [.inl "match", .inl "level"] rfl
  have hnone : block? (settle (fixed "match level")) = none := by
    rw [hmatch]
    rfl
  rw [levelBody, settle_append, settle_brace, block?_append hnone, block?_brace, Option.bind_some,
    caseFor?_arms]

theorem readAll_statements {read? : Code → Option String} {statement : String → Code}
    (hread : ∀ ident, Yields read? (settle (statement ident)) [ident]) (idents : List String) :
    readAll read? (settle (idents.flatMap statement)) = idents := by
  have hall := Yields.flatMap (f := fun ident => settle (statement ident))
    (g := fun ident => [ident]) fun ident (_ : ident ∈ idents) => hread ident
  rw [settle_flatMap, hall.readAll_eq]
  exact List.flatMap_singleton' idents

/-- The startup functions of a root file register and remove the classes of a level as planned. -/
theorem registeredAt_code {c : Code} (hc : functions c = functions (settle u.code))
    (level : Level) :
    registeredAt c level = some (u.identsAt level) ∧
      removedAt c level = some (u.identsAt level).reverse := by
  have hregister : (functions c).lookup "initialize_level" =
      some (settle (levelBody u.blocks fun b => b.idents.flatMap register)) := by
    rw [hc, functions_code]
    rfl
  have hunregister : (functions c).lookup "deinitialize_level" =
      some (settle (levelBody u.blocks fun b => b.idents.reverse.flatMap unregister)) := by
    rw [hc, functions_code]
    rfl
  rw [registeredAt, removedAt, statementsAt?, statementsAt?, hregister, hunregister,
    Option.bind_some, Option.bind_some, block?_levelBody, block?_levelBody, identsAt,
    Option.map_some, Option.map_some]
  cases u.blocks.find? fun block => block.level == level with
  | none => exact ⟨rfl, rfl⟩
  | some block =>
    have hidents := readAll_statements yields_register block.idents
    have hreverse := readAll_statements yields_unregister block.idents.reverse
    exact ⟨congrArg some hidents, congrArg some hreverse⟩

end EntryUnit

end EngineBindings
