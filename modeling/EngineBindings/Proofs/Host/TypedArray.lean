import EngineBindings.Host.TypedArray
import EngineBindings.Proofs.Host.Conversion
import EngineBindings.Proofs.Host.Kinds
import Mathlib.Data.List.Induction

/-!
# What typed arrays hold

An array passes for one of an element type by its typing alone, so it carries just that typing
however it came about (`TypedArray.decode_exact`), and what it holds is what it was decoded from
with what was added since (`Reached.eq`).  Its elements are all read as values exactly if those that
it was decoded from fit the type, and those that were added survive being encoded
(`TypedArray.reads_all_iff`).
-/

namespace EngineBindings

/-! ## Elements -/

/-- The width and the cases of an enumeration that is declared. -/
theorem DerivedEnum.eq_of_ofDeclaration_eq_ok {d : EnumDeclaration} {e : DerivedEnum}
    (h : ofDeclaration d = .ok e) :
    e.width = d.width ∧ e.cases = EnumDeclaration.numbered 0 (d.cases?.getD []) := by
  simp only [ofDeclaration] at h
  split at h
  · cases h
  · split at h
    · cases h
    · split at h
      · cases h
      · obtain rfl := Except.ok.inj h
        exact ⟨rfl, rfl⟩

namespace HostType

/-- Whether arrays can have a type as that of their elements. -/
inductive IsElement : HostType → Prop
  | primitive (type : Primitive) : IsElement (.primitive type)
  | enumeration {d : EnumDeclaration} {e : DerivedEnum} (h : DerivedEnum.ofDeclaration d = .ok e) :
      IsElement (.enumeration e)
  | object (className : String) : IsElement (.object className)

/-- Whether a value of an element type is still one after it has been encoded: numbers of `u64` as
far as `i64` goes, and references to objects that live and are of the class. -/
def Survives (view : ObjectView) : HostType → HostValue → Prop
  | .primitive (.integer .u64), .integer n => n ≤ IntegerType.i64.greatest
  | .object className, .object handle =>
    ∃ found, view.classOf? handle = some found ∧ view.isSubclass found className = true
  | _, _ => True

theorem numbered_within (next : Int) (cases : List CaseDeclaration) {c : DerivedCase}
    (hc : c ∈ EnumDeclaration.numbered next cases) :
    IntegerType.i64.least ≤ c.number ∧ c.number ≤ IntegerType.i64.greatest := by
  induction cases generalizing next with
  | nil => cases hc
  | cons declared rest ih =>
    rcases List.mem_cons.mp hc with rfl | hc
    · rw [i64_bounds.1, i64_bounds.2]
      have hsize : 0 < Nat.pow 2 64 := by decide
      have hleast := Int.le_bmod (x := declared.number?.getD next) hsize
      have hgreatest := Int.bmod_le (x := declared.number?.getD next) hsize
      exact ⟨hleast, hgreatest⟩
    · exact ih _ hc

/-- The numbers of cases are signed ones of 64 bits. -/
theorem number_within {d : EnumDeclaration} {e : DerivedEnum}
    (h : DerivedEnum.ofDeclaration d = .ok e) {c : DerivedCase} (hc : c ∈ e.cases) :
    IntegerType.i64.least ≤ c.number ∧ c.number ≤ IntegerType.i64.greatest := by
  rw [(DerivedEnum.eq_of_ofDeclaration_eq_ok h).2] at hc
  exact numbered_within 0 _ hc

variable {view : ObjectView}

theorem exists_decode_encode_integer_iff {type : IntegerType} {n : Int}
    (hrange : type.contains n = true) :
    (∃ y, (primitive (.integer type)).decode view (HostValue.integer n).encode = .ok y) ↔
      Survives view (.primitive (.integer type)) (.integer n) := by
  simp only [IntegerType.contains, Bool.and_eq_true, decide_eq_true_eq] at hrange
  obtain ⟨hleast, hgreatest⟩ := hrange
  by_cases hsigned : n ≤ IntegerType.i64.greatest
  · refine ⟨fun _ => ?_, fun _ => ⟨_, decode_encode_of_le hleast hgreatest hsigned⟩⟩
    cases type with
    | u64 => exact hsigned
    | _ => trivial
  · have htype : type = .u64 := by
      by_contra hne
      exact hsigned (Int.le_trans hgreatest (greatest_le_i64 hne))
    subst htype
    rw [decode_encode_of_lt hgreatest (Int.not_le.mp hsigned)]
    constructor
    · rintro ⟨_, h⟩
      cases h
    · exact fun h => absurd h hsigned

/-- Of the values of an element type just those that survive are read again. -/
theorem exists_decode_encode_iff {type : HostType} (htype : type.IsElement) {x : HostValue}
    (hx : type.Has x) :
    (∃ y, type.decode view x.encode = .ok y) ↔ Survives view type x := by
  cases hx with
  | bool b => exact ⟨fun _ => trivial, fun _ => ⟨_, rfl⟩⟩
  | integer hrange => exact exists_decode_encode_integer_iff hrange
  | float32 bits => exact ⟨fun _ => trivial, fun _ => ⟨_, rfl⟩⟩
  | float64 bits => exact ⟨fun _ => trivial, fun _ => ⟨_, rfl⟩⟩
  | builtin v => exact ⟨fun _ => trivial, fun _ => ⟨_, decode_eq_ok_iff.mpr (.builtin v)⟩⟩
  | @enumeration e c hcase =>
    cases htype with
    | enumeration hdeclared =>
      obtain ⟨hleast, hgreatest⟩ := number_within hdeclared hcase
      have hnumber : c.number = (Int64.ofInt c.number).toInt :=
        (toInt_ofInt_of_le_greatest hleast hgreatest).symm
      exact ⟨fun _ => trivial, fun _ => ⟨_, decode_eq_ok_iff.mpr (.enumeration hcase hnumber)⟩⟩
  | object className handle =>
    constructor
    · rintro ⟨y, hy⟩
      cases decode_eq_ok_iff.mp hy with
      | object halive hclass => exact ⟨_, halive, hclass⟩
    · rintro ⟨found, halive, hclass⟩
      exact ⟨_, decode_eq_ok_iff.mpr (.object halive hclass)⟩
  | variant v => cases htype
  | typedArray element items => cases htype
  | absent inner => cases htype
  | present hinner => cases htype

end HostType

namespace TypedArray

open HostType (IsElement Survives)

/-- The arrays of an element type that come about by making empty ones, collecting values, adding
values and decoding variants, with the items that were decoded and the values that were added since.
A copy of an array is the array itself. -/
inductive Reached (element : HostType) : TypedArray → List Variant → List HostValue → Prop
  | empty : Reached element (.empty element) [] []
  | collect {values : List HostValue} (hvalues : ∀ x ∈ values, element.Has x) :
      Reached element (.collect element values) [] values
  | push {a : TypedArray} {received : List Variant} {added : List HostValue} {x : HostValue}
      (ha : Reached element a received added) (hx : element.Has x) :
      Reached element (a.push x) received (added ++ [x])
  | decode {view : ObjectView} {v : Variant} {array : VariantArray}
      (h : (HostType.typedArray element).decode view v = .ok (.typedArray array)) :
      Reached element ⟨element, array⟩ array.items []

variable {element other : HostType} {a : TypedArray} {received : List Variant}
  {added : List HostValue} {view : ObjectView}

/-! ## What an array carries -/

theorem collect_concat (values : List HostValue) (x : HostValue) :
    collect element (values ++ [x]) = (collect element values).push x :=
  List.foldl_concat ..

theorem collect_eq (values : List HostValue) :
    collect element values =
      ⟨element, ⟨values.map HostValue.encode, some element.elementTyping⟩⟩ := by
  induction values using List.reverseRecOn with
  | nil => rfl
  | append_singleton values x ih =>
    rw [collect_concat, ih, push, List.map_append]
    rfl

/-- An array has the element type that it was made for and its typing, and holds what it was decoded
from and what was added since. -/
theorem Reached.eq (h : Reached element a received added) :
    a = ⟨element, ⟨received ++ added.map HostValue.encode, some element.elementTyping⟩⟩ := by
  induction h with
  | empty => rfl
  | collect hvalues => exact collect_eq _
  | push ha hx ih =>
    rw [ih, TypedArray.push, List.map_append, ← List.append_assoc]
    rfl
  | decode h =>
    cases HostType.decode_eq_ok_iff.mp h with
    | typedArray items => simp

theorem Reached.has (h : Reached element a received added) : ∀ x ∈ added, element.Has x := by
  induction h with
  | empty => exact fun _ hx => nomatch hx
  | collect hvalues => exact hvalues
  | push ha hx ih =>
    intro y hy
    rcases List.mem_append.mp hy with hy | hy
    · exact ih y hy
    · rwa [List.mem_singleton.mp hy]
  | decode h => exact fun _ hx => nomatch hx

/-- What decoding an array says: it looks at the typing alone. -/
theorem decode_array (items : List Variant) (typing? : Option ArrayTyping) :
    (HostType.typedArray element).decode view (.array items typing?) =
      match typing? with
      | none => .error (.arrayType (.untyped element.elementTyping))
      | some found =>
        if found = element.elementTyping then .ok (.typedArray ⟨items, some found⟩)
        else .error (.arrayType (.mismatch element.elementTyping found)) := by
  cases typing? with
  | none => rfl
  | some found =>
    simp only [HostType.decode, VariantArray.withTyping]
    by_cases hfound : found = element.elementTyping <;> simp [hfound]

theorem exists_decode_iff {v : Variant} :
    (∃ x, (HostType.typedArray element).decode view v = .ok x) ↔
      ∃ items, v = .array items (some element.elementTyping) := by
  constructor
  · rintro ⟨x, hx⟩
    cases HostType.decode_eq_ok_iff.mp hx with
    | typedArray _ items => exact ⟨items, rfl⟩
  · rintro ⟨items, rfl⟩
    exact ⟨_, HostType.decode_eq_ok_iff.mpr (.typedArray element items)⟩

/-- An array is decoded exactly if it carries the typing of the element type, in kind and in class;
arrays without a typing or with another one are refused, whatever they hold.  However an array of an
element type came about, it carries the typing of this type, so it is decoded as one of another
element type exactly if both have one typing, and then it is the same array. -/
theorem decode_exact (element : HostType) (view : ObjectView) :
    (∀ v, (∃ x, (HostType.typedArray element).decode view v = .ok x) ↔
      ∃ items typing, v = .array items (some typing) ∧
        typing.element = element.elementTyping.element ∧
        typing.className? = element.elementTyping.className?) ∧
    (∀ items, (HostType.typedArray element).decode view (.array items none) =
      .error (.arrayType (.untyped element.elementTyping))) ∧
    (∀ items found, found ≠ element.elementTyping →
      (HostType.typedArray element).decode view (.array items (some found)) =
        .error (.arrayType (.mismatch element.elementTyping found))) ∧
    ∀ a received added, Reached element a received added →
      a.array.typing? = some element.elementTyping ∧
      ∀ other : HostType,
        ((∃ x, (HostType.typedArray other).decode view a.toVariant = .ok x) ↔
          other.elementTyping = element.elementTyping) ∧
        ∀ x, (HostType.typedArray other).decode view a.toVariant = .ok x →
          x = .typedArray a.array := by
  refine ⟨fun v => ?_, fun items => decode_array items none, fun items found hfound => ?_,
    fun a received added h => ?_⟩
  · rw [exists_decode_iff]
    constructor
    · rintro ⟨items, rfl⟩
      exact ⟨items, _, rfl, rfl, rfl⟩
    · rintro ⟨items, ⟨kind, className?⟩, rfl, rfl, rfl⟩
      exact ⟨items, rfl⟩
  · rw [decode_array]
    exact if_neg hfound
  · have htyping : a.array.typing? = some element.elementTyping := by rw [h.eq]
    have hvariant : a.toVariant = .array a.array.items (some element.elementTyping) := by
      rw [toVariant, VariantArray.toVariant, htyping]
    refine ⟨htyping, fun other => ⟨?_, fun x hx => ?_⟩⟩
    · rw [exists_decode_iff, hvariant]
      constructor
      · rintro ⟨items, heq⟩
        injection heq with _ htypings
        exact (Option.some.inj htypings).symm
      · intro hsame
        exact ⟨_, by rw [hsame]⟩
    · rw [hvariant, decode_array] at hx
      dsimp only at hx
      split at hx
      · obtain rfl := Except.ok.inj hx
        rw [← htyping]
      · cases hx

/-- What was made for small numbers passes for an array of greater ones, and not for one of
truth values. -/
theorem decode_exact_numbers :
    let view : ObjectView := ⟨fun _ => none, fun _ _ => false⟩
    let small : HostType := .primitive (.integer .u8)
    let a := (collect small [.integer 7]).push (.integer 200)
    (∃ x, (HostType.typedArray (.primitive (.integer .i64))).decode view a.toVariant = .ok x) ∧
      ¬∃ x, (HostType.typedArray (.primitive .bool)).decode view a.toVariant = .ok x := by
  intro view small a
  have hreached : Reached small a [] [.integer 7, .integer 200] := by
    refine .push (.collect fun x hx => ?_) (.integer (by decide))
    rw [List.mem_singleton.mp hx]
    exact .integer (by decide)
  have h := ((decode_exact small view).2.2.2 a _ _ hreached).2
  exact ⟨(h (.primitive (.integer .i64))).1.mpr rfl,
    fun hbool => absurd ((h (.primitive .bool)).1.mp hbool) (by decide)⟩

/-! ## What is read -/

/-- Whether all that an array was made of is read as values: what it was decoded from fits the
element type, and what was added survives being encoded. -/
structure AllRead (view : ObjectView) (element : HostType) (received : List Variant)
    (added : List HostValue) : Prop where
  fits : ∀ v ∈ received, ∃ x, element.decode view v = .ok x
  survive : ∀ x ∈ added, Survives view element x

theorem allRead_iff (helement : element.IsElement) (h : Reached element a received added) :
    AllRead view element received added ↔
      ∀ v ∈ a.array.items, (element.decode view v).toOption.isSome = true := by
  have hsome : ∀ v, (element.decode view v).toOption.isSome = true ↔
      ∃ x, element.decode view v = .ok x := by
    intro v
    cases element.decode view v <;> simp [Except.toOption]
  have hitems : a.array.items = received ++ added.map HostValue.encode := by rw [h.eq]
  simp only [hsome, hitems, List.forall_mem_append, List.forall_mem_map]
  constructor
  · rintro ⟨hfits, hsurvive⟩
    exact ⟨hfits, fun x hx =>
      (HostType.exists_decode_encode_iff helement (h.has x hx)).mpr (hsurvive x hx)⟩
  · rintro ⟨hfits, hsurvive⟩
    exact ⟨hfits, fun x hx =>
      (HostType.exists_decode_encode_iff helement (h.has x hx)).mp (hsurvive x hx)⟩

theorem isSome_get?_iff {index : Nat} (hindex : index < a.size) :
    (a.get? view index).isSome = true ↔
      (a.element.decode view a.array.items[index]).toOption.isSome = true := by
  rw [get?, List.getElem?_eq_getElem hindex, Option.bind_some]

/-- Any items are decoded under the typing of the element type.  Of an array that came about in any
way, every element is read, and as many values are listed as there are elements, exactly if what it
was decoded from fits the element type and what was added to it survives being encoded. -/
theorem reads_all_iff (helement : element.IsElement) (view : ObjectView) :
    (∀ items, ∃ a, Reached element a items []) ∧
    ∀ a received added, Reached element a received added →
      ((∀ index < a.size, (a.get? view index).isSome = true) ↔
        AllRead view element received added) ∧
      ((a.values view).length = a.size ↔ AllRead view element received added) := by
  refine ⟨fun items => ?_, fun a received added h => ?_⟩
  · have hdecoded : (HostType.typedArray element).decode view
        (.array items (some element.elementTyping)) =
          .ok (.typedArray ⟨items, some element.elementTyping⟩) :=
      HostType.decode_eq_ok_iff.mpr (.typedArray element items)
    exact ⟨_, .decode hdecoded⟩
  · have helt : a.element = element := by rw [h.eq]
    rw [allRead_iff helement h, ← helt]
    refine ⟨?_, List.filterMap_length_eq_length⟩
    rw [List.forall_mem_iff_getElem]
    exact forall₂_congr fun index hindex => isSome_get?_iff hindex

/-- A decoded number and one that was added are both read, if they fit; of the greatest number of 64
bits nothing is read, though it is a value of the element type. -/
theorem reads_all_iff_numbers :
    let view : ObjectView := ⟨fun _ => none, fun _ _ => false⟩
    let small : HostType := .primitive (.integer .u8)
    let great : HostType := .primitive (.integer .u64)
    (∃ a, Reached small a [.int 200] [.integer 7] ∧
      ∀ index < a.size, (a.get? view index).isSome = true) ∧
    ∃ a, Reached great a [] [.integer 18446744073709551615] ∧ (a.values view).length ≠ a.size := by
  intro view small great
  have hsmall : small.IsElement := .primitive _
  have hgreat : great.IsElement := .primitive _
  obtain ⟨decoded, hdecoded⟩ := (reads_all_iff hsmall view).1 [.int 200]
  have hpushed := hdecoded.push (.integer (n := 7) (by decide))
  have hcollected : Reached great (collect great [.integer 18446744073709551615]) []
      [.integer 18446744073709551615] := by
    refine .collect fun x hx => ?_
    rw [List.mem_singleton.mp hx]
    exact .integer (by decide)
  refine ⟨⟨_, hpushed, ((reads_all_iff hsmall view).2 _ _ _ hpushed).1.mpr ⟨?_, ?_⟩⟩,
    ⟨_, hcollected, fun hlength => ?_⟩⟩
  · intro v hv
    rw [List.mem_singleton.mp hv]
    exact ⟨.integer 200, rfl⟩
  · intro x hx
    rw [List.mem_singleton.mp hx]
    trivial
  · have hread := ((reads_all_iff hgreat view).2 _ _ _ hcollected).2.mp hlength
    have hsigned : (18446744073709551615 : Int) ≤ IntegerType.i64.greatest :=
      hread.survive _ List.mem_cons_self
    exact absurd hsigned (by decide)

/-- A number that does not fit is let in by decoding and passed over by reading. -/
theorem not_reads_all :
    ¬∀ (element : HostType) (view : ObjectView) (v : Variant) (array : VariantArray),
      element.IsElement →
      (HostType.typedArray element).decode view v = .ok (.typedArray array) →
      ∀ index < (⟨element, array⟩ : TypedArray).size,
        ((⟨element, array⟩ : TypedArray).get? view index).isSome = true := by
  intro h
  have hread := h (.primitive (.integer .u8)) ⟨fun _ => none, fun _ _ => false⟩
    (.array [.int 300] (some ⟨.int, none⟩)) _ (.primitive _) rfl 0 (by decide)
  cases hread

end TypedArray

end EngineBindings
