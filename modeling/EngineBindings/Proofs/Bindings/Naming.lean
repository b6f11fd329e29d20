import EngineBindings.Proofs.Text.Identifier
import EngineBindings.Proofs.Text.LetterCase
import EngineBindings.Proofs.Text.Pieces
import EngineBindings.Proofs.Traverse
import EngineBindings.Variant.Kind
import Mathlib.Data.List.Nodup

/-!
# Names and their identifiers

Escaping keeps names apart, with one exception: a keyword that cannot be escaped gets an underscore,
and then has the identifier of the name that ends in one already.  So distinct names have distinct
identifiers unless there is such a pair among them (`Naming.idents_nodup_iff`).  Which names are
read off their identifiers again tells `Naming.isKept_unescaped`.

A name has an identifier if all its characters go on with one and the first starts one or is a digit
(`Naming.exists_ident_iff`).  What the generator makes of an identifier by putting fixed words
around it, dropping dots or writing it in lower case is an identifier too.
-/

namespace EngineBindings.Naming

open Text

/-- Whether a name is spelled as an identifier, a keyword or not. -/
structure IsSpelled (name : String) : Prop where
  isIdentifier : isIdentifier name = true
  ne_underscore : name ≠ "_"

instance (name : String) : Decidable (IsSpelled name) :=
  decidable_of_iff (isIdentifier name = true ∧ name ≠ "_")
    ⟨fun h => ⟨h.1, h.2⟩, fun h => ⟨h.1, h.2⟩⟩

/-- A name with the mark that a keyword gets. -/
def escaped (name : String) : String :=
  if name ∈ pathKeywords then name ++ "_"
  else if name ∈ keywords then "r#" ++ name
  else name

variable {name a b : String}

/-- The code points of digits. -/
def digitPoints : List Nat :=
  [48, 49, 50, 51, 52, 53, 54, 55, 56, 57]

theorem isDigit_of_startsIdentifier {c : Char} (h : startsIdentifier c = true) :
    c.isDigit = false := by
  have hnone : digitPoints.all (fun n => !startsIdentifier (Char.ofNat n)) = true := by
    decide +kernel
  refine Bool.eq_false_iff.mpr fun hdigit => ?_
  have hpoint : c.toNat ∈ digitPoints := by
    simp only [Char.isDigit, Bool.and_eq_true, decide_eq_true_eq, ge_iff_le,
      UInt32.le_iff_toNat_le] at hdigit
    obtain ⟨hlow, hhigh⟩ : 48 ≤ c.toNat ∧ c.toNat ≤ 57 := hdigit
    simp only [digitPoints, List.mem_cons, List.not_mem_nil, or_false]
    omega
  have hfalse := List.all_eq_true.mp hnone _ hpoint
  rw [Char.ofNat_toNat, h] at hfalse
  cases hfalse

theorem ident_eq_ok (h : IsSpelled name) : ident name = .ok (escaped name) := by
  obtain ⟨⟨c, rest, hchars, hstart⟩, -⟩ := isIdentifierChars_iff.mp h.isIdentifier
  have hempty : name.isEmpty = false := by
    rw [← Bool.not_eq_true, String.isEmpty_iff]
    rintro rfl
    cases hchars
  have hdigit := isDigit_of_startsIdentifier hstart
  unfold ident escaped
  by_cases hpath : name ∈ pathKeywords
  · simp [hempty, h.ne_underscore, hpath]
  · by_cases hkeyword : name ∈ keywords
    · simp [hempty, h.ne_underscore, hpath, hchars, hdigit, hkeyword]
    · simp [hempty, h.ne_underscore, hpath, hchars, hdigit, hkeyword, h.isIdentifier]

theorem isIdentifier_of_mem_keywords {word : String} (h : word ∈ pathKeywords ++ keywords) :
    isIdentifier word = true := by
  have hwords : ∀ w ∈ pathKeywords ++ keywords, isIdentifier w = true := by decide +kernel
  exact hwords word h

/-- A name that has an identifier and begins with a spelled name is spelled itself. -/
theorem isSpelled_append_of_ident {identifier : String} (ha : IsSpelled a)
    (h : ident (a ++ b) = .ok identifier) : IsSpelled (a ++ b) := by
  obtain ⟨⟨c, rest, hchars, hstart⟩, -⟩ := isIdentifierChars_iff.mp ha.isIdentifier
  have hcharsAppend : (a ++ b).toList = c :: (rest ++ b.toList) := by
    rw [String.toList_append, hchars, List.cons_append]
  have hunderscore : a ++ b ≠ "_" := by
    intro heq
    have hnil : rest ++ b.toList = [] := (List.cons.inj (hcharsAppend.symm.trans
      (congrArg String.toList heq))).2
    obtain ⟨-, hb⟩ := List.append_eq_nil_iff.mp hnil
    rw [String.toList_eq_nil_iff.mp hb, String.append_empty] at heq
    exact ha.ne_underscore heq
  have hempty : (a ++ b).isEmpty = false := by
    rw [← Bool.not_eq_true, String.isEmpty_iff]
    intro heq
    rw [heq] at hcharsAppend
    cases hcharsAppend
  refine ⟨?_, hunderscore⟩
  unfold ident at h
  simp only [hempty, hunderscore, beq_iff_eq, Bool.false_or, if_false, hcharsAppend,
    List.head?_cons, Option.map_some, Option.getD_some, isDigit_of_startsIdentifier hstart,
    Bool.false_eq_true] at h
  split at h
  · next hpath =>
    exact isIdentifier_of_mem_keywords (List.mem_append_left _ (List.contains_iff_mem.mp hpath))
  · split at h
    · next hkeyword =>
      exact isIdentifier_of_mem_keywords
        (List.mem_append_right _ (List.contains_iff_mem.mp hkeyword))
    · split at h
      · next hspelled => exact hspelled
      · cases h

/-- An identifier is no keyword. -/
theorem notMem_keywords_of_ident {identifier : String} (h : ident name = .ok identifier) :
    identifier ∉ keywords := by
  have hunderscored : ∀ w ∈ keywords, w.toList.head? ≠ some '_' ∧ w.toList[1]? ≠ some '#' := by
    decide +kernel
  have hpaths : ∀ w ∈ pathKeywords, w ++ "_" ∉ keywords := by decide +kernel
  have hlead : ∀ rest, "_" ++ rest ∉ keywords := by
    intro rest hmem
    refine (hunderscored _ hmem).1 ?_
    rw [String.toList_append]
    rfl
  have hmark : ∀ rest, "r#" ++ rest ∉ keywords := by
    intro rest hmem
    refine (hunderscored _ hmem).2 ?_
    rw [String.toList_append]
    rfl
  unfold ident at h
  dsimp only at h
  split at h
  · obtain rfl := Except.ok.inj h
    exact hlead "unnamed"
  · split at h
    · next hpath =>
      obtain rfl := Except.ok.inj h
      exact hpaths _ (List.contains_iff_mem.mp hpath)
    · split at h
      · split at h
        · obtain rfl := Except.ok.inj h
          exact hlead name
        · cases h
      · split at h
        · obtain rfl := Except.ok.inj h
          exact hmark name
        · next hkeyword =>
          split at h
          · obtain rfl := Except.ok.inj h
            exact fun hmem => hkeyword (List.contains_iff_mem.mpr hmem)
          · cases h

/-! ## Names with one identifier -/

theorem IsSpelled.append (ha : IsSpelled a) (hb : IsSpelled b) : IsSpelled (a ++ b) := by
  obtain ⟨⟨c, rest, hcharsA, hstart⟩, hallA⟩ := isIdentifierChars_iff.mp ha.isIdentifier
  obtain ⟨⟨d, rest', hcharsB, -⟩, hallB⟩ := isIdentifierChars_iff.mp hb.isIdentifier
  constructor
  · rw [Text.isIdentifier, String.toList_append, isIdentifierChars_iff]
    refine ⟨⟨c, rest ++ b.toList, by rw [hcharsA, List.cons_append], hstart⟩, fun e he => ?_⟩
    exact (List.mem_append.mp he).elim (hallA e) (hallB e)
  · intro heq
    have hchars := congrArg String.toList heq
    rw [String.toList_append, hcharsA, hcharsB] at hchars
    exact List.append_ne_nil_of_right_ne_nil rest (List.cons_ne_nil d rest')
      (List.cons.inj hchars).2

/-- A name has no mark of an escaped one. -/
theorem IsSpelled.ne_marked (h : IsSpelled name) (s : String) : "r#" ++ s ≠ name := by
  rintro rfl
  have hall := (isIdentifierChars_iff.mp h.isIdentifier).2
  have hmark : '#' ∈ ("r#" ++ s).toList := by
    rw [String.toList_append]
    exact List.mem_append_left _ (by decide)
  cases hall _ hmark

/-- The identifier of a keyword that cannot be escaped is a name, and its own identifier. -/
theorem underscored_of_mem_pathKeywords {word : String} (hword : word ∈ pathKeywords) :
    IsSpelled (word ++ "_") ∧ escaped (word ++ "_") = word ++ "_" := by
  simp only [pathKeywords, List.mem_cons, List.not_mem_nil, or_false] at hword
  rcases hword with rfl | rfl | rfl | rfl <;> exact ⟨by decide, by decide⟩

theorem escaped_of_notMem (hpath : name ∉ pathKeywords) :
    escaped name = if name ∈ keywords then "r#" ++ name else name :=
  if_neg hpath

theorem escaped_inj_of_notMem (ha : IsSpelled a) (hb : IsSpelled b) (hpathA : a ∉ pathKeywords)
    (hpathB : b ∉ pathKeywords) (h : escaped a = escaped b) : a = b := by
  rw [escaped_of_notMem hpathA, escaped_of_notMem hpathB] at h
  by_cases hkeywordA : a ∈ keywords <;> by_cases hkeywordB : b ∈ keywords
  · rw [if_pos hkeywordA, if_pos hkeywordB] at h
    exact (String.append_right_inj "r#").mp h
  · rw [if_pos hkeywordA, if_neg hkeywordB] at h
    exact absurd h (hb.ne_marked a)
  · rw [if_neg hkeywordA, if_pos hkeywordB] at h
    exact absurd h.symm (ha.ne_marked b)
  · rw [if_neg hkeywordA, if_neg hkeywordB] at h
    exact h

/-- What has the identifier of a keyword that cannot be escaped. -/
theorem escaped_eq_of_mem (ha : a ∈ pathKeywords) (h : escaped a = escaped b) :
    b = a ∨ b = a ++ "_" := by
  have hunderscored := (underscored_of_mem_pathKeywords ha).1
  rw [escaped, if_pos ha] at h
  by_cases hpathB : b ∈ pathKeywords
  · rw [escaped, if_pos hpathB] at h
    exact .inl ((String.append_left_inj "_").mp h).symm
  · rw [escaped_of_notMem hpathB] at h
    by_cases hkeywordB : b ∈ keywords
    · rw [if_pos hkeywordB] at h
      exact absurd h.symm (hunderscored.ne_marked b)
    · rw [if_neg hkeywordB] at h
      exact .inr h.symm

/-- Distinct names have distinct identifiers unless one is a keyword that cannot be escaped and
another is that keyword with an underscore. -/
theorem idents_nodup_iff {names idents : List String} (h : names.mapM ident = .ok idents)
    (hspelled : ∀ n ∈ names, IsSpelled n) :
    idents.Nodup ↔ names.Nodup ∧ ∀ word ∈ pathKeywords, word ∈ names → word ++ "_" ∉ names := by
  have hidents : idents = names.map escaped := by
    have hmap := mapM_eq_ok_iff.mp h
    rw [List.map_congr_left fun n hn => ident_eq_ok (hspelled n hn), ← Function.comp_def,
      ← List.map_map] at hmap
    exact (List.map_injective_iff.mpr (fun _ _ => Except.ok.inj) hmap).symm
  rw [hidents]
  constructor
  · intro hnodup
    refine ⟨hnodup.of_map, fun word hword hmem hunderscored => ?_⟩
    have hsame : escaped word = escaped (word ++ "_") := by
      rw [(underscored_of_mem_pathKeywords hword).2]
      exact if_pos hword
    have heq := List.inj_on_of_nodup_map hnodup hmem hunderscored hsame
    have hlength := congrArg String.length heq
    rw [String.length_append] at hlength
    exact absurd hlength (Nat.ne_of_lt (Nat.lt_succ_self _))
  · rintro ⟨hnodup, hpaths⟩
    refine List.Nodup.map_on ?_ hnodup
    intro a ha b hb hsame
    by_cases hpathA : a ∈ pathKeywords
    · rcases escaped_eq_of_mem hpathA hsame with rfl | rfl
      · rfl
      · exact absurd hb (hpaths a hpathA ha)
    · by_cases hpathB : b ∈ pathKeywords
      · rcases escaped_eq_of_mem hpathB hsame.symm with rfl | rfl
        · rfl
        · exact absurd ha (hpaths b hpathB hb)
      · exact escaped_inj_of_notMem (hspelled a ha) (hspelled b hb) hpathA hpathB hsame

/-! ## Names that their identifiers keep -/

/-- Whether a name starts with a digit. -/
def startsWithDigit (name : String) : Bool :=
  (name.toList.head?.map Char.isDigit).getD false

/-- Whether the identifier of a name is the name itself but for the mark of an escaped keyword. -/
structure IsKept (name : String) : Prop where
  ne_empty : name ≠ ""
  ne_underscore : name ≠ "_"
  notMem_pathKeywords : name ∉ pathKeywords
  noDigit : startsWithDigit name = false

instance (name : String) : Decidable (IsKept name) :=
  decidable_of_iff (name ≠ "" ∧ name ≠ "_" ∧ name ∉ pathKeywords ∧
      startsWithDigit name = false)
    ⟨fun h => ⟨h.1, h.2.1, h.2.2.1, h.2.2.2⟩, fun h => ⟨h.1, h.2, h.3, h.4⟩⟩

theorem unescaped_of_notMem (h : '#' ∉ name.toList) : unescaped name = name := by
  have hchars : unescapedChars name.toList = name.toList := by
    generalize name.toList = cs at h
    unfold unescapedChars
    split
    · exact absurd (List.mem_cons_of_mem _ List.mem_cons_self) h
    · rfl
  rw [unescaped, hchars, String.ofList_toList]

theorem unescaped_of_isIdentifier (h : isIdentifier name = true) : unescaped name = name := by
  refine unescaped_of_notMem fun hmark => ?_
  cases (isIdentifierChars_iff.mp h).2 _ hmark

theorem isKept_underscore {rest : String} (hrest : rest ≠ "") : IsKept ("_" ++ rest) where
  ne_empty := fun h => hrest (String.append_eq_empty_iff.mp h).2
  ne_underscore h := hrest ((String.append_right_inj "_").mp (h.trans (String.append_empty).symm))
  notMem_pathKeywords h := by
    have hheads : ∀ w ∈ pathKeywords, w.toList.head? ≠ some '_' := by decide
    refine hheads _ h ?_
    rw [String.toList_append]
    rfl
  noDigit := by
    rw [startsWithDigit, String.toList_append]
    rfl

/-- What an identifier spells is kept, and it is the name that it was made from only if that one is
kept. -/
theorem isKept_unescaped {identifier : String} (h : ident name = .ok identifier) :
    IsKept (unescaped identifier) ∧ (IsKept name → unescaped identifier = name) := by
  have hkeywords : ∀ w ∈ keywords, unescaped ("r#" ++ w) = w := by decide +kernel
  have hpaths : ∀ w ∈ pathKeywords, IsKept (unescaped (w ++ "_")) := by decide +kernel
  have hunnamed : IsKept (unescaped "_unnamed") := by decide +kernel
  unfold ident at h
  dsimp only at h
  split at h
  · next hnone =>
    obtain rfl := Except.ok.inj h
    simp only [String.isEmpty_iff, Bool.or_eq_true, beq_iff_eq] at hnone
    exact ⟨hunnamed, fun hkept => absurd hnone (not_or.mpr ⟨hkept.ne_empty, hkept.ne_underscore⟩)⟩
  · next hsome =>
    simp only [String.isEmpty_iff, Bool.or_eq_true, beq_iff_eq, not_or] at hsome
    split at h
    · next hpath =>
      obtain rfl := Except.ok.inj h
      have hpath := List.contains_iff_mem.mp hpath
      exact ⟨hpaths _ hpath, fun hkept => absurd hpath hkept.notMem_pathKeywords⟩
    · next hpath =>
      have hpath := fun hmem => hpath (List.contains_iff_mem.mpr hmem)
      split at h
      · next hdigit =>
        split at h
        · next hspelled =>
          obtain rfl := Except.ok.inj h
          rw [unescaped_of_isIdentifier hspelled]
          exact ⟨isKept_underscore hsome.1, fun hkept =>
            absurd (hkept.noDigit.symm.trans hdigit) Bool.false_ne_true⟩
        · cases h
      · next hdigit =>
        have hkept : IsKept name := ⟨hsome.1, hsome.2, hpath, Bool.eq_false_iff.mpr hdigit⟩
        split at h
        · next hkeyword =>
          obtain rfl := Except.ok.inj h
          rw [hkeywords _ (List.contains_iff_mem.mp hkeyword)]
          exact ⟨hkept, fun _ => rfl⟩
        · split at h
          · next hspelled =>
            obtain rfl := Except.ok.inj h
            rw [unescaped_of_isIdentifier hspelled]
            exact ⟨hkept, fun _ => rfl⟩
          · cases h

/-- The name that is looked for where a module is declared by the identifier of a name. -/
def declaredName (name : String) : String :=
  ((ident name).toOption.map unescaped).getD name

theorem declaredName_of_ident {identifier : String} (h : ident name = .ok identifier) :
    declaredName name = unescaped identifier := by
  rw [declaredName, h]
  rfl

theorem isKept_declaredName {identifier : String} (h : ident name = .ok identifier) :
    IsKept (declaredName name) := by
  rw [declaredName_of_ident h]
  exact (isKept_unescaped h).1

theorem IsKept.declaredName_eq (h : IsKept name) : declaredName name = name := by
  cases hident : ident name with
  | error e =>
    rw [declaredName, hident]
    rfl
  | ok identifier =>
    rw [declaredName_of_ident hident]
    exact (isKept_unescaped hident).2 h

/-! ## Names that have identifiers -/

/-- Whether a name has an identifier. -/
structure HasIdent (name : String) : Prop where
  tail : IsSpellable name
  starts : ∀ c ∈ name.toList.head?, startsIdentifier c = true ∨ c.isDigit = true

instance (name : String) : Decidable (HasIdent name) :=
  decidable_of_iff (IsSpellable name ∧
      name.toList.head?.all (fun c => startsIdentifier c || c.isDigit) = true)
    ⟨fun h => ⟨h.1, fun c hc => Bool.or_eq_true_iff.mp ((Option.all_eq_true _ _).mp h.2 c hc)⟩,
      fun h => ⟨h.1, (Option.all_eq_true _ _).mpr fun c hc => Bool.or_eq_true_iff.mpr (h.2 c hc)⟩⟩

theorem hasIdent_of_isIdentifier (h : isIdentifier name = true) : HasIdent name := by
  obtain ⟨⟨c, rest, hname, hc⟩, hall⟩ := isIdentifierChars_iff.mp h
  refine ⟨hall, fun d hd => ?_⟩
  rw [hname] at hd
  obtain rfl := Option.some.inj hd
  exact .inl hc

theorem IsSpelled.hasIdent (h : IsSpelled name) : HasIdent name :=
  hasIdent_of_isIdentifier h.isIdentifier

/-- What starts with an identifier and goes on with characters of one is an identifier. -/
theorem isIdentifier_append (ha : isIdentifier a = true) (hb : IsSpellable b) :
    isIdentifier (a ++ b) = true := by
  have htail : IsSpellable (a ++ b) := (isSpellable_of_isIdentifier ha).append hb
  obtain ⟨⟨c, rest, hname, hc⟩, -⟩ := isIdentifierChars_iff.mp ha
  have hstart : (a ++ b).toList = c :: (rest ++ b.toList) := by
    rw [String.toList_append, hname, List.cons_append]
  exact isIdentifierChars_iff.mpr ⟨⟨c, _, hstart, hc⟩, htail⟩

theorem extendsIdentifier_of_isDigit {c : Char} (h : c.isDigit = true) :
    extendsIdentifier c = true := by
  have hpoint : c.toNat < 128 := by
    simp only [Char.isDigit, Bool.and_eq_true, decide_eq_true_eq, UInt32.le_iff_toNat_le] at h
    exact Nat.lt_of_le_of_lt h.2 (by decide)
  rw [extendsIdentifier, if_pos hpoint, Char.isAlphanum, h, Bool.or_true, Bool.true_or]

/-- The digits of a number extend an identifier. -/
theorem isSpellable_toString {n : Nat} : IsSpellable (toString n) := by
  intro c hc
  have hrepr : (toString n).toList = Nat.toDigits 10 n := Nat.toList_repr
  rw [hrepr] at hc
  exact extendsIdentifier_of_isDigit (Nat.isDigit_of_mem_toDigits (by decide) (by decide) hc)

/-- Texts that are put together with a line between them extend an identifier if each does. -/
theorem isSpellable_join {parts : List String} (h : ∀ part ∈ parts, IsSpellable part) :
    IsSpellable (join "_" parts) := by
  induction parts with
  | nil => exact fun c hc => nomatch hc
  | cons part rest ih =>
    rw [List.forall_mem_cons] at h
    cases rest with
    | nil => exact h.1
    | cons next rest =>
      rw [join_cons_cons]
      exact (h.1.append (by decide)).append (ih h.2)

theorem exists_ident_of_hasIdent (h : HasIdent name) : ∃ i, ident name = .ok i := by
  unfold ident
  dsimp only
  split
  · exact ⟨_, rfl⟩
  next hsome =>
  split
  · exact ⟨_, rfl⟩
  split
  · -- an underscore before a digit
    rw [if_pos (isIdentifier_append (by decide) h.tail)]
    exact ⟨_, rfl⟩
  next hdigit =>
  split
  · exact ⟨_, rfl⟩
  · have hname : isIdentifier name = true := by
      refine isIdentifierChars_iff.mpr ⟨?_, h.tail⟩
      cases hchars : name.toList with
      | nil =>
        rw [Bool.or_eq_true, not_or, String.isEmpty_iff] at hsome
        exact absurd (String.toList_eq_nil_iff.mp hchars) hsome.1
      | cons c rest =>
        refine ⟨c, rest, rfl, (h.starts c (by rw [hchars]; rfl)).resolve_right ?_⟩
        simpa [hchars] using hdigit
    rw [if_pos hname]
    exact ⟨_, rfl⟩

theorem hasIdent_of_ident {identifier : String} (h : ident name = .ok identifier) :
    HasIdent name := by
  unfold ident at h
  dsimp only at h
  split at h
  · next hnone =>
    rw [Bool.or_eq_true, String.isEmpty_iff, beq_iff_eq] at hnone
    rcases hnone with rfl | rfl <;> decide
  split at h
  · next hpath =>
    exact hasIdent_of_isIdentifier
      (isIdentifier_of_mem_keywords (List.mem_append_left _ (List.contains_iff_mem.mp hpath)))
  split at h
  · next hdigit =>
    split at h
    · next hspelled =>
      refine ⟨fun c hc => isSpellable_of_isIdentifier hspelled c ?_, fun c hc => .inr ?_⟩
      · rw [String.toList_append]
        exact List.mem_append_right _ hc
      · rw [Option.mem_def.mp hc] at hdigit
        exact hdigit
    · cases h
  split at h
  · next hkeyword =>
    exact hasIdent_of_isIdentifier
      (isIdentifier_of_mem_keywords (List.mem_append_right _ (List.contains_iff_mem.mp hkeyword)))
  split at h
  · next hspelled => exact hasIdent_of_isIdentifier hspelled
  · cases h

/-- Without an identifier there is an error that tells the name. -/
theorem exists_unspellable (h : ¬HasIdent name) : ∃ n, ident name = .error (.unspellable n) := by
  cases hident : ident name with
  | ok i => exact absurd (hasIdent_of_ident hident) h
  | error e =>
    unfold ident at hident
    dsimp only at hident
    split at hident
    · cases hident
    split at hident
    · cases hident
    split at hident
    · split at hident
      · cases hident
      · exact ⟨_, hident.symm⟩
    split at hident
    · cases hident
    split at hident
    · cases hident
    · exact ⟨_, hident.symm⟩

theorem exists_ident_iff : (∃ i, ident name = .ok i) ↔ HasIdent name :=
  ⟨fun ⟨_, h⟩ => hasIdent_of_ident h, exists_ident_of_hasIdent⟩

/-! ## Names that are built -/

theorem isIdentifier_moduleName (h : isIdentifier name = true) :
    isIdentifier (moduleName name) = true := by
  have hlower := isIdentifier_lower h
  unfold moduleName
  dsimp only
  split
  · exact isIdentifier_append hlower (by decide)
  · exact hlower

theorem isIdentifier_virtualTrait (h : isIdentifier name = true) :
    isIdentifier (virtualTrait name) = true :=
  isIdentifier_append h (by decide)

theorem isIdentifier_virtualDispatcher (h : isIdentifier name = true) :
    isIdentifier (virtualDispatcher name) = true :=
  isIdentifier_append
    (isIdentifier_append (by decide) (isSpellable_of_isIdentifier (isIdentifier_moduleName h)))
    (by decide)

/-- The trait of a builtin type that has one. -/
theorem isIdentifier_builtinTrait (kind : VariantKind) (hnil : kind ≠ .nil) :
    isIdentifier (builtinTrait kind.engineName kind.hostName) = true := by
  cases kind <;> first | exact absurd rfl hnil | decide +kernel

theorem filter_dots {cs : List Char} (h : ∀ c ∈ cs, extendsIdentifier c = true) :
    cs.filter (· != '.') = cs := by
  refine List.filter_eq_self.mpr fun c hc => bne_iff_ne.mpr ?_
  rintro rfl
  cases h _ hc

/-- Without its dot, the name of an enumeration behind the name of its owner is an identifier. -/
theorem isIdentifier_flatEnum_owned (ha : isIdentifier a = true) (hb : isIdentifier b = true) :
    isIdentifier (flatEnum (a ++ "." ++ b)) = true := by
  have hflat : flatEnum (a ++ "." ++ b) = a ++ b := by
    rw [← String.toList_inj, flatEnum, String.toList_ofList, String.toList_append,
      String.toList_append, String.toList_append, List.filter_append, List.filter_append,
      filter_dots (isSpellable_of_isIdentifier ha), filter_dots (isSpellable_of_isIdentifier hb)]
    exact congrArg (· ++ b.toList) (List.append_nil a.toList)
  rw [hflat]
  exact isIdentifier_append ha (isSpellable_of_isIdentifier hb)

theorem isIdentifier_flatEnum (h : isIdentifier name = true) :
    isIdentifier (flatEnum name) = true := by
  rwa [flatEnum, filter_dots (isSpellable_of_isIdentifier h), String.ofList_toList]

end EngineBindings.Naming
