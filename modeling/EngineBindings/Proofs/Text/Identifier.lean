import EngineBindings.Bindings.Naming
import EngineBindings.Text.Blank
import Mathlib.Data.List.Basic

/-!
# The characters of identifiers

An identifier, escaped or not, has none of the characters by which texts are cut: no blank ones and
no line breaks (`not_isBlank_of_extendsIdentifier`), and nothing that means something in a path or
in a name list (`Plain`).
-/

namespace EngineBindings

namespace Text

/-- The code points of blank characters. -/
def blankPoints : List Nat :=
  [9, 10, 11, 12, 13, 0x20, 0x85, 0xA0, 0x1680, 0x2000, 0x2001, 0x2002, 0x2003, 0x2004, 0x2005,
    0x2006, 0x2007, 0x2008, 0x2009, 0x200A, 0x2028, 0x2029, 0x202F, 0x205F, 0x3000]

theorem mem_blankPoints {c : Char} (h : isBlank c = true) : c.toNat ∈ blankPoints := by
  simp only [isBlank, Bool.or_eq_true, Bool.and_eq_true, decide_eq_true_eq, beq_iff_eq] at h
  simp only [blankPoints, List.mem_cons, List.not_mem_nil, or_false]
  omega

theorem not_isBlank_of_extendsIdentifier {c : Char} (h : extendsIdentifier c = true) :
    isBlank c = false := by
  have hnone : blankPoints.all (fun n => !extendsIdentifier (Char.ofNat n)) = true := by
    decide +kernel
  refine Bool.eq_false_iff.mpr fun hblank => ?_
  have hfalse := List.all_eq_true.mp hnone _ (mem_blankPoints hblank)
  rw [Char.ofNat_toNat, h] at hfalse
  cases hfalse

theorem extendsIdentifier_of_starts {c : Char} (h : startsIdentifier c = true) :
    extendsIdentifier c = true := by
  unfold startsIdentifier at h
  unfold extendsIdentifier
  split at h
  · next hascii =>
    rw [if_pos hascii]
    rw [Bool.or_eq_true] at h ⊢
    exact h.imp_left fun halpha => by rw [Char.isAlphanum, halpha, Bool.true_or]
  · next hascii => rw [if_neg hascii, h, Bool.true_or]

theorem isIdentifierChars_iff {cs : List Char} :
    isIdentifierChars cs = true ↔
      (∃ c rest, cs = c :: rest ∧ startsIdentifier c = true) ∧
        ∀ c ∈ cs, extendsIdentifier c = true := by
  cases cs with
  | nil => simp [isIdentifierChars]
  | cons c rest =>
    rw [isIdentifierChars, Bool.and_eq_true, List.all_eq_true, List.forall_mem_cons]
    constructor
    · rintro ⟨hc, hrest⟩
      exact ⟨⟨c, rest, rfl, hc⟩, extendsIdentifier_of_starts hc, hrest⟩
    · rintro ⟨⟨_, _, heq, hc⟩, -, hrest⟩
      obtain ⟨rfl, rfl⟩ := List.cons.inj heq
      exact ⟨hc, hrest⟩

/-! ## Plain texts -/

/-- Whether a character is in identifiers or in the mark of escaped ones. -/
def isPlain (c : Char) : Bool :=
  extendsIdentifier c || c == '#'

/-- Whether a text has only characters that identifiers have, escaped or not. -/
def Plain (s : String) : Prop :=
  ∀ c ∈ s.toList, isPlain c = true

theorem Plain.notMem {s : String} (h : Plain s) {c : Char} (hc : isPlain c = false) :
    c ∉ s.toList := by
  intro hmem
  rw [h c hmem] at hc
  cases hc

theorem Plain.not_isBlank {s : String} (h : Plain s) {c : Char} (hc : c ∈ s.toList) :
    isBlank c = false := by
  have hplain := h c hc
  rw [isPlain, Bool.or_eq_true, beq_iff_eq] at hplain
  rcases hplain with hextends | rfl
  · exact not_isBlank_of_extendsIdentifier hextends
  · rfl

theorem plain_of_extends {s : String} (h : ∀ c ∈ s.toList, extendsIdentifier c = true) :
    Plain s := by
  intro c hc
  rw [isPlain, h c hc, Bool.true_or]

theorem plain_of_isIdentifier {s : String} (h : isIdentifier s = true) : Plain s :=
  plain_of_extends (isIdentifierChars_iff.mp h).2

end Text

namespace Naming

open Text

/-- Whether a text can be the end of an identifier. -/
def IsSpellable (s : String) : Prop :=
  ∀ c ∈ s.toList, Text.extendsIdentifier c = true

instance (s : String) : Decidable (IsSpellable s) :=
  decidable_of_iff (s.toList.all Text.extendsIdentifier = true) List.all_eq_true

theorem IsSpellable.append {a b : String} (ha : IsSpellable a) (hb : IsSpellable b) :
    IsSpellable (a ++ b) := by
  intro c hc
  rw [String.toList_append, List.mem_append] at hc
  exact hc.elim (ha c) (hb c)

theorem isSpellable_of_isIdentifier {s : String} (h : isIdentifier s = true) : IsSpellable s :=
  (isIdentifierChars_iff.mp h).2

/-- Whether a name is an identifier, escaped or not. -/
def IsIdentifier (name : String) : Prop :=
  isIdentifier (unescaped name) = true

instance (name : String) : Decidable (IsIdentifier name) :=
  inferInstanceAs (Decidable (_ = true))

theorem isIdentifierChars_unescapedChars {cs : List Char}
    (h : isIdentifierChars (unescapedChars cs) = true) :
    (∃ c rest, cs = c :: rest ∧ startsIdentifier c = true) ∧ ∀ c ∈ cs, isPlain c = true := by
  induction cs using unescapedChars.induct with
  | case1 rest ih =>
    rw [unescapedChars] at h
    refine ⟨⟨'r', '#' :: rest, rfl, rfl⟩, ?_⟩
    rw [List.forall_mem_cons, List.forall_mem_cons]
    exact ⟨rfl, rfl, (ih h).2⟩
  | case2 cs hescaped =>
    rw [unescapedChars.eq_2 cs hescaped] at h
    obtain ⟨hstart, hall⟩ := isIdentifierChars_iff.mp h
    exact ⟨hstart, fun c hc => by rw [isPlain, hall c hc, Bool.true_or]⟩

variable {name : String}

theorem isIdentifier_chars (h : IsIdentifier name) :
    (∃ c rest, name.toList = c :: rest ∧ startsIdentifier c = true) ∧ Plain name := by
  rw [IsIdentifier, isIdentifier, unescaped, String.toList_ofList] at h
  exact isIdentifierChars_unescapedChars h

theorem IsIdentifier.plain (h : IsIdentifier name) : Plain name :=
  (isIdentifier_chars h).2

theorem IsIdentifier.ne_empty (h : IsIdentifier name) : name ≠ "" := by
  obtain ⟨⟨c, rest, hname, -⟩, -⟩ := isIdentifier_chars h
  rintro rfl
  cases hname

/-- An identifier is no comment. -/
theorem IsIdentifier.head?_ne (h : IsIdentifier name) : name.toList.head? ≠ some '#' := by
  obtain ⟨⟨c, rest, hname, hstart⟩, -⟩ := isIdentifier_chars h
  rw [hname, List.head?_cons]
  rintro heq
  obtain rfl := Option.some.inj heq
  cases hstart

theorem plain_of_mem_keywords {word : String} (h : word ∈ pathKeywords ++ keywords) :
    Plain word := by
  have hwords : (pathKeywords ++ keywords).all (fun word => word.toList.all isPlain) = true := by
    decide +kernel
  exact List.all_eq_true.mp (List.all_eq_true.mp hwords word h)

/-- A name that has an identifier has no other characters than identifiers have. -/
theorem plain_of_ident {identifier : String} (h : ident name = .ok identifier) : Plain name := by
  unfold ident at h
  dsimp only at h
  split at h
  · next hempty =>
    rw [Bool.or_eq_true, String.isEmpty_iff, beq_iff_eq] at hempty
    rcases hempty with rfl | rfl
    · intro c hc
      cases hc
    · exact plain_of_isIdentifier rfl
  · split at h
    · next hpath =>
      exact plain_of_mem_keywords (List.mem_append_left _ (List.contains_iff_mem.mp hpath))
    · split at h
      · split at h
        · next hspelled =>
          have hplain := plain_of_isIdentifier hspelled
          intro c hc
          exact hplain c (by rw [String.toList_append]; exact List.mem_append_right _ hc)
        · cases h
      · split at h
        · next hkeyword =>
          exact plain_of_mem_keywords (List.mem_append_right _ (List.contains_iff_mem.mp hkeyword))
        · split at h
          · next hspelled => exact plain_of_isIdentifier hspelled
          · cases h

end Naming

end EngineBindings
