import EngineBindings.Proofs.Bindings.Enumerations
import EngineBindings.Proofs.Bindings.Spelling.Units

/-!
# Constants of enumerations

The constants of an enumeration are kept apart by their names alone: of the values whose names
become one constant, the first has its number in it (`Enumeration.number?`).  So no value is lost
where such values have one number (`Enumeration.Agrees`).  `EnumUnit.keepsValues_iff` reads the
constants off the generated code and says which values are kept otherwise.
-/

namespace EngineBindings

open Naming

/-! ## Numbers of constants -/

namespace Enumeration

/-- The number of a constant: that of the first value whose name becomes it. -/
def number? (e : Enumeration) (constant : String) : Option Int :=
  (e.values.find? fun v => enumConstant e.name v.1 == constant).map Prod.snd

/-- Whether values whose names become one constant have one number. -/
def Agrees (e : Enumeration) : Prop :=
  ∀ v ∈ e.values, ∀ w ∈ e.values,
    enumConstant e.name v.1 = enumConstant e.name w.1 → v.2 = w.2

instance (e : Enumeration) : Decidable e.Agrees :=
  inferInstanceAs (Decidable (∀ v ∈ e.values, ∀ w ∈ e.values, _ → _))

variable {e : Enumeration} {constant : String} {n : Int}

theorem exists_value_of_number? (h : e.number? constant = some n) :
    ∃ v ∈ e.values, enumConstant e.name v.1 = constant ∧ v.2 = n := by
  obtain ⟨v, hfind, rfl⟩ := Option.map_eq_some_iff.mp h
  have hname := List.find?_some hfind
  exact ⟨v, List.mem_of_find?_eq_some hfind, eq_of_beq hname, rfl⟩

theorem exists_number? {v : String × Int} (hv : v ∈ e.values) :
    ∃ w ∈ e.values, enumConstant e.name w.1 = enumConstant e.name v.1 ∧
      e.number? (enumConstant e.name v.1) = some w.2 := by
  have hfound : (e.values.find? fun w =>
      enumConstant e.name w.1 == enumConstant e.name v.1).isSome = true :=
    List.find?_isSome.mpr ⟨v, hv, beq_self_eq_true _⟩
  obtain ⟨w, hw⟩ := Option.isSome_iff_exists.mp hfound
  have hname := List.find?_some hw
  refine ⟨w, List.mem_of_find?_eq_some hw, eq_of_beq hname, ?_⟩
  rw [number?, hw, Option.map_some]

theorem Agrees.number?_eq (h : e.Agrees) {v : String × Int} (hv : v ∈ e.values) :
    e.number? (enumConstant e.name v.1) = some v.2 := by
  obtain ⟨w, hw, hname, hnumber⟩ := exists_number? hv
  rw [hnumber, h w hw v hv hname]

end Enumeration

namespace EnumUnit

open Code Marshal

theorem mem_namedConstants_iff {enumName constant : String} {n : Int} {seen : List String}
    {values : List (String × Int)} :
    (constant, n) ∈ namedConstants enumName seen values ↔ constant ∉ seen ∧
      (values.find? fun v => enumConstant enumName v.1 == constant).map Prod.snd = some n := by
  induction values generalizing seen with
  | nil => exact ⟨nofun, nofun⟩
  | cons v rest ih =>
    rw [namedConstants, List.find?_cons]
    by_cases hname : enumConstant enumName v.1 = constant
    · -- the value stands for the constant unless an earlier one does
      subst hname
      simp only [beq_self_eq_true, Option.map_some, Option.some.injEq]
      split
      · next hseen =>
        have hseen := List.contains_iff_mem.mp hseen
        exact iff_of_false (fun h => (ih.mp h).1 hseen) fun h => h.1 hseen
      · next hnew =>
        have hnew : enumConstant enumName v.1 ∉ seen := fun h =>
          hnew (List.contains_iff_mem.mpr h)
        rw [List.mem_cons, ih]
        constructor
        · rintro (heq | ⟨hnone, -⟩)
          · exact ⟨hnew, (Prod.mk.inj heq).2.symm⟩
          · exact absurd List.mem_cons_self hnone
        · rintro ⟨-, rfl⟩
          exact .inl rfl
    · rw [beq_false_of_ne hname]
      dsimp only
      split
      · exact ih
      · rw [List.mem_cons, ih, List.mem_cons]
        constructor
        · rintro (heq | ⟨hnone, hfind⟩)
          · exact absurd (Prod.mk.inj heq).1.symm hname
          · exact ⟨fun h => hnone (.inr h), hfind⟩
        · rintro ⟨hnew, hfind⟩
          exact .inr ⟨fun h => h.elim (fun heq => hname heq.symm) hnew, hfind⟩

theorem mem_namedConstants {e : Enumeration} {constant : String} {n : Int} :
    (constant, n) ∈ namedConstants e.name [] e.values ↔ e.number? constant = some n :=
  mem_namedConstants_iff.trans (and_iff_right List.not_mem_nil)

variable {typeName : String} {e : Enumeration} {u : EnumUnit}

theorem mem_constants_iff (h : ofDescriptor typeName e = .ok u) {i : String} {n : Int} :
    (i, n) ∈ u.constants ↔
      ∃ constant, Naming.ident constant = .ok i ∧ e.number? constant = some n := by
  obtain ⟨_, -, h⟩ := bind_eq_ok_iff.mp h
  obtain ⟨constants, hconstants, h⟩ := bind_eq_ok_iff.mp h
  obtain rfl := Except.ok.inj h
  constructor
  · intro hmem
    obtain ⟨⟨constant, value⟩, hconstant, hi⟩ := exists_of_mem_mapM hconstants hmem
    obtain ⟨j, hj, heq⟩ := bind_eq_ok_iff.mp hi
    obtain ⟨rfl, rfl⟩ := Prod.mk.inj (Except.ok.inj heq)
    exact ⟨constant, hj, mem_namedConstants.mp hconstant⟩
  · rintro ⟨constant, hi, hnumber⟩
    obtain ⟨⟨j, value⟩, hmem, hj⟩ :=
      exists_of_mapM_eq_ok hconstants (mem_namedConstants.mpr hnumber)
    dsimp only at hj
    rw [hi] at hj
    obtain ⟨rfl, rfl⟩ := Prod.mk.inj (Except.ok.inj hj)
    exact hmem

/-- An enumeration is generated just if its type and its constants have identifiers. -/
theorem exists_ofDescriptor_iff :
    (∃ u, ofDescriptor typeName e = .ok u) ↔ HasIdent typeName ∧ e.ConstantsSpelled := by
  constructor
  · rintro ⟨u, h⟩
    obtain ⟨_, hi, h⟩ := bind_eq_ok_iff.mp h
    obtain ⟨constants, hconstants, -⟩ := bind_eq_ok_iff.mp h
    refine ⟨hasIdent_of_ident hi, fun v hv => ?_⟩
    obtain ⟨w, -, -, hnumber⟩ := Enumeration.exists_number? hv
    obtain ⟨_, -, hj⟩ := exists_of_mapM_eq_ok hconstants (mem_namedConstants.mpr hnumber)
    obtain ⟨j, hj, -⟩ := bind_eq_ok_iff.mp hj
    exact hasIdent_of_ident hj
  · rintro ⟨htype, hspelled⟩
    obtain ⟨i, hi⟩ := exists_ident_of_hasIdent htype
    have hsteps : ∀ constant ∈ namedConstants e.name [] e.values,
        ∃ c, (do return (← Naming.ident constant.1, constant.2) : Emission _) = .ok c := by
      rintro ⟨constant, n⟩ hmem
      obtain ⟨v, hv, rfl, -⟩ := Enumeration.exists_value_of_number? (mem_namedConstants.mp hmem)
      obtain ⟨j, hj⟩ := exists_ident_of_hasIdent (hspelled v hv)
      exact ⟨(j, n), bind_eq_ok_iff.mpr ⟨j, hj, rfl⟩⟩
    obtain ⟨constants, hconstants⟩ := exists_mapM_eq_ok hsteps
    exact ⟨_, bind_eq_ok_iff.mpr ⟨i, hi, bind_eq_ok_iff.mpr ⟨constants, hconstants, rfl⟩⟩⟩

/-! ## Constants in code -/

/-- A constant of a type that is made of a number: its name and the number. -/
def numbered? (type : String) : Code → Option (String × Int)
  | .word "const" :: .word name :: .mark ':' :: .word declared :: .mark '=' :: .word maker ::
      .group .paren value :: .mark ';' :: _ =>
    if declared = type ∧ maker = type then (integer? "i64" value).map fun n => (name, n) else none
  | _ => none

/-- The constants of a type in its first implementation. -/
def numbered (type : String) (c : Code) : List (String × Int) :=
  ((blockAfter? "impl" c).map (readAll (numbered? type))).getD []

theorem numbered?_readsAt (type : String) : ReadsAt (numbered? type) ["const"] := by
  intro c found h
  unfold numbered? at h
  split at h
  · exact ⟨_, List.mem_cons_self, rfl⟩
  · cases h

/-- The texts around the names of a type and its constants. -/
def constantTexts : TextTable where
  entries :=
    [("pub const", [.inl "pub", .inl "const"]), (":", [.inr ':']), ("=", [.inr '=']),
      (";", [.inr ';']), ("impl", [.inl "impl"])]
  reads := by decide +kernel

theorem yields_constantItem {name : String} {n : Int} (htype : u.ident ∉ Text.keywords)
    (hname : name ∉ Text.keywords) :
    Yields (numbered? u.ident) (u.constantItem (name, n)) [(name, n)] := by
  have hlead : fixed "pub const" = [.word "pub", .word "const"] :=
    constantTexts.fixed_eq [.inl "pub", .inl "const"] rfl
  have hcolon : fixed ":" = [.mark ':'] := constantTexts.fixed_eq [.inr ':'] rfl
  have hequals : fixed "=" = [.mark '='] := constantTexts.fixed_eq [.inr '='] rfl
  have hend : fixed ";" = [.mark ';'] := constantTexts.fixed_eq [.inr ';'] rfl
  have hcode : u.constantItem (name, n) =
      .word "pub" :: .word "const" :: (word name ++ (.mark ':' :: (word u.ident ++
        (.mark '=' :: (word u.ident ++ (paren (numeral n "i64") ++ [.mark ';'])))))) := by
    rw [constantItem, hlead, hcolon, hequals, hend]
    rfl
  have hconst : "const" ∈ Text.keywords := by decide
  have hrest : "const" ∉ words (word name ++ (.mark ':' :: (word u.ident ++
      (.mark '=' :: (word u.ident ++ (paren (numeral n "i64") ++ [.mark ';'])))))) := by
    have hwords : words (word name ++ (.mark ':' :: (word u.ident ++ (.mark '=' ::
        (word u.ident ++ (paren (numeral n "i64") ++ [.mark ';'])))))) =
          [name, u.ident, u.ident] := rfl
    rw [hwords]
    simp only [List.mem_cons, List.not_mem_nil, or_false, not_or]
    exact ⟨fun h => hname (h ▸ hconst), fun h => htype (h ▸ hconst), fun h => htype (h ▸ hconst)⟩
  rw [hcode]
  refine Yields.skip (Yields.cons (Yields.of_notMem_words (numbered?_readsAt _) hrest) ?_)
    fun _ => rfl
  intro rest
  have hfound : numbered? u.ident (.word "const" :: .word name :: .mark ':' :: .word u.ident ::
      .mark '=' :: .word u.ident :: .group .paren (numeral n "i64") :: .mark ';' :: rest) =
        some (name, n) := by
    rw [numbered?, if_pos ⟨rfl, rfl⟩, integer?_numeral, Option.map_some]
  exact hfound

theorem blockAfter?_code (htype : u.ident ∉ Text.keywords) :
    blockAfter? "impl" u.code = some (u.constants.flatMap u.constantItem) := by
  have hstruct : "impl" ∉ words (fixed
      "#[derive(Debug, Clone, Copy, PartialEq, Eq, Hash, Default)] pub struct") := by
    decide +kernel
  have hfield : "impl" ∉ words (fixed "(pub i64);") := by decide +kernel
  have hname : "impl" ∉ words (word u.ident) := fun h =>
    htype (List.mem_singleton.mp h ▸ by decide)
  have himpl : fixed "impl" = word "impl" := constantTexts.fixed_eq [.inl "impl"] rfl
  obtain ⟨rest, hcode⟩ : ∃ rest, u.code =
      fixed "#[derive(Debug, Clone, Copy, PartialEq, Eq, Hash, Default)] pub struct" ++
        (word u.ident ++ (fixed "(pub i64);" ++ (fixed "impl" ++ (word u.ident ++
          (brace (u.constants.flatMap u.constantItem) ++ rest))))) := by
    unfold code
    simp only [List.append_assoc]
    exact ⟨_, rfl⟩
  rw [blockAfter?, hcode, after?_append hstruct, after?_append hname, after?_append hfield, himpl,
    after?_word_append, Option.bind_some, block?_append (block?_word u.ident),
    block?_brace_append]

/-- The constants that are read off the code of an enumeration are those that were made. -/
theorem numbered_code (h : ofDescriptor typeName e = .ok u) :
    numbered u.ident u.code = u.constants := by
  have htype : u.ident ∉ Text.keywords := notMem_keywords_of_ident (ident_of_ofDescriptor h)
  have hyields : Yields (numbered? u.ident) (u.constants.flatMap u.constantItem)
      (u.constants.flatMap fun constant => [constant]) := by
    refine Yields.flatMap fun ⟨i, n⟩ hmem => ?_
    obtain ⟨_, hi, -⟩ := (mem_constants_iff h).mp hmem
    exact yields_constantItem htype (notMem_keywords_of_ident hi)
  rw [numbered, blockAfter?_code htype, Option.map_some, Option.getD_some, hyields.readAll_eq,
    List.flatMap_singleton']

/-! ## Values that are kept -/

/-- Whether a type has a constant with the number of a value, under the name of the value with or
without the name of the enumeration in front. -/
def Keeps (u : EnumUnit) (e : Enumeration) (v : String × Int) : Prop :=
  ∃ name i, (name = v.1 ∨ name = enumConstant e.name v.1) ∧ Naming.ident name = .ok i ∧
    (i, v.2) ∈ numbered u.ident u.code

/-- A value is kept just if the first value with its constant, or with a constant of its name, has
its number; and a number is kept just if the first value with some constant has it.  Where values
whose names become one constant have one number, all of them are kept. -/
theorem keepsValues_iff (typeName : String) (e : Enumeration) :
    ((∃ u, ofDescriptor typeName e = .ok u) ↔ HasIdent typeName ∧ e.ConstantsSpelled) ∧
    ∀ u, ofDescriptor typeName e = .ok u →
      (∀ v ∈ e.values, u.Keeps e v ↔ ∃ constant, e.number? constant = some v.2 ∧
        (Naming.ident constant = Naming.ident v.1 ∨
          Naming.ident constant = Naming.ident (enumConstant e.name v.1))) ∧
      (∀ n, (∃ i, (i, n) ∈ numbered u.ident u.code) ↔
        ∃ constant, e.number? constant = some n) ∧
      (e.Agrees → ∀ v ∈ e.values, u.Keeps e v) := by
  refine ⟨exists_ofDescriptor_iff, fun u hu => ?_⟩
  have hspelled := (exists_ofDescriptor_iff.mp ⟨u, hu⟩).2
  have hident {constant : String} {n : Int} (h : e.number? constant = some n) :
      ∃ i, Naming.ident constant = .ok i := by
    obtain ⟨v, hv, rfl, -⟩ := Enumeration.exists_value_of_number? h
    exact exists_ident_of_hasIdent (hspelled v hv)
  have hkeeps (v : String × Int) : u.Keeps e v ↔ ∃ constant, e.number? constant = some v.2 ∧
      (Naming.ident constant = Naming.ident v.1 ∨
        Naming.ident constant = Naming.ident (enumConstant e.name v.1)) := by
    rw [Keeps, numbered_code hu]
    constructor
    · rintro ⟨name, i, hname, hi, hmem⟩
      obtain ⟨constant, hconstant, hnumber⟩ := (mem_constants_iff hu).mp hmem
      refine ⟨constant, hnumber, hname.imp ?_ ?_⟩
      · rintro rfl
        exact hconstant.trans hi.symm
      · rintro rfl
        exact hconstant.trans hi.symm
    · rintro ⟨constant, hnumber, hsame⟩
      obtain ⟨i, hi⟩ := hident hnumber
      have hmem := (mem_constants_iff hu).mpr ⟨constant, hi, hnumber⟩
      rcases hsame with hsame | hsame
      · exact ⟨v.1, i, .inl rfl, hsame ▸ hi, hmem⟩
      · exact ⟨_, i, .inr rfl, hsame ▸ hi, hmem⟩
  refine ⟨fun v _ => hkeeps v, fun n => ?_, fun hagrees v hv => ?_⟩
  · rw [numbered_code hu]
    constructor
    · rintro ⟨i, hmem⟩
      obtain ⟨constant, -, hnumber⟩ := (mem_constants_iff hu).mp hmem
      exact ⟨constant, hnumber⟩
    · rintro ⟨constant, hnumber⟩
      obtain ⟨i, hi⟩ := hident hnumber
      exact ⟨i, (mem_constants_iff hu).mpr ⟨constant, hi, hnumber⟩⟩
  · exact (hkeeps v).mpr ⟨_, hagrees.number?_eq hv, .inr rfl⟩

/-- Keys with an alias and a value that is declared twice. -/
def keys : Enumeration :=
  ⟨"Key", false, [("KEY_A", 65), ("KEY_ALIAS_A", 65), ("KEY_A", 65)]⟩

theorem keepsValues_iff_keys :
    HasIdent "Key" ∧ keys.ConstantsSpelled ∧ keys.Agrees ∧
      ∃ u, ofDescriptor "Key" keys = .ok u ∧ ∀ v ∈ keys.values, u.Keeps keys v := by
  have htype : HasIdent "Key" := by decide +kernel
  have hconstants : keys.ConstantsSpelled := by decide +kernel
  have hagrees : keys.Agrees := by decide +kernel
  obtain ⟨hgenerated, hkept⟩ := keepsValues_iff "Key" keys
  obtain ⟨u, hu⟩ := hgenerated.mpr ⟨htype, hconstants⟩
  exact ⟨htype, hconstants, hagrees, u, hu, (hkept u hu).2.2 hagrees⟩

/-- Two axes, the second with the name of the enumeration in front of the name of the first. -/
def axes : Enumeration :=
  ⟨"Axis", false, [("X", 0), ("AXIS_X", 1)]⟩

/-- A value is lost with its number. -/
theorem not_keepsValues :
    ∃ u, ofDescriptor "Axis" axes = .ok u ∧ ("AXIS_X", 1) ∈ axes.values ∧
      ¬u.Keeps axes ("AXIS_X", 1) ∧ ∀ i, (i, 1) ∉ numbered u.ident u.code := by
  obtain ⟨u, hu⟩ : ∃ u, ofDescriptor "Axis" axes = .ok u :=
    exists_ofDescriptor_iff.mpr ⟨by decide +kernel, by decide +kernel⟩
  have hlost : ∀ i, (i, 1) ∉ numbered u.ident u.code := by
    intro i hmem
    rw [numbered_code hu, mem_constants_iff hu] at hmem
    obtain ⟨constant, -, hnumber⟩ := hmem
    obtain ⟨v, hv, rfl, hv1⟩ := Enumeration.exists_value_of_number? hnumber
    obtain rfl | rfl : v = ("X", 0) ∨ v = ("AXIS_X", 1) := by simpa [axes] using hv
    · cases hv1
    · exact absurd hnumber (by decide +kernel)
  exact ⟨u, hu, List.mem_cons_of_mem _ List.mem_cons_self,
    fun ⟨_, i, _, _, hmem⟩ => hlost i hmem, hlost⟩

end EnumUnit

end EngineBindings
