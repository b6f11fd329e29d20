import EngineBindings.Proofs.Host.Arguments
import EngineBindings.Proofs.Host.TypedArray
import Mathlib.Data.Int.ModEq
import Mathlib.Data.List.Nodup

/-!
# Cases of enumerations as arguments

A case of an enumeration is encoded as its number in 64 bits, and a decoder of the declared width
should give the case again.  The width is 32 bits if an attribute names a representation of at most
32 bits alone, and 64 bits otherwise (`EnumDeclaration.IsLegal.width_eq_bits32_iff`).

A number fits 32 bits if it is a signed one, which the integers of `u32` need not be
(`DerivedEnum.fits_number_iff`).  And the integers of a representation of 128 bits may differ in
what 64 bits leave out (`DerivedEnum.ofNumber?_iff`).  All other cases of all declarations that the
host language takes are read back (`DerivedEnum.reads_back_iff`).
-/

namespace EngineBindings

/-- The integers that represent the cases of an enumeration. -/
inductive Representation where
  | fixed (type : IntegerType)
  | isize
  | usize
  | i128
  | u128
  deriving DecidableEq

namespace Representation

/-- All representations. -/
def all : List Representation :=
  IntegerType.all.map fixed ++ [isize, usize, i128, u128]

/-- The name of a representation. -/
def name : Representation → String
  | fixed type => type.name
  | isize => "isize"
  | usize => "usize"
  | i128 => "i128"
  | u128 => "u128"

/-- The representation with a name. -/
def ofName? (name : String) : Option Representation :=
  all.find? (·.name == name)

/-- The least integer of a representation; addresses have 64 bits. -/
def least : Representation → Int
  | fixed type => type.least
  | isize => IntegerType.i64.least
  | usize => IntegerType.u64.least
  | i128 => -2 ^ 127
  | u128 => 0

/-- The greatest integer of a representation; addresses have 64 bits. -/
def greatest : Representation → Int
  | fixed type => type.greatest
  | isize => IntegerType.i64.greatest
  | usize => IntegerType.u64.greatest
  | i128 => 2 ^ 127 - 1
  | u128 => 2 ^ 128 - 1

/-- Whether an integer is one of a representation. -/
def Has (r : Representation) (x : Int) : Prop :=
  r.least ≤ x ∧ x ≤ r.greatest

instance (r : Representation) (x : Int) : Decidable (r.Has x) :=
  inferInstanceAs (Decidable (r.least ≤ x ∧ x ≤ r.greatest))

/-- Whether a representation has more integers than there are numbers of 64 bits. -/
def IsWide (r : Representation) : Prop :=
  r = i128 ∨ r = u128

theorem ofName?_name (r : Representation) : ofName? r.name = some r := by
  cases r with
  | fixed type => cases type <;> decide
  | _ => decide

theorem eq_of_modEq {r : Representation} (hr : ¬r.IsWide) {x y : Int} (hx : r.Has x) (hy : r.Has y)
    (h : y ≡ x [ZMOD 2 ^ 64]) : y = x := by
  have hspan : r.greatest - r.least < 2 ^ 64 := by
    cases r with
    | fixed type => cases type <;> decide
    | isize => decide
    | usize => decide
    | i128 => exact absurd (.inl rfl) hr
    | u128 => exact absurd (.inr rfl) hr
  obtain ⟨hxleast, hxgreatest⟩ := hx
  obtain ⟨hyleast, hygreatest⟩ := hy
  have hmod : y % 2 ^ 64 = x % 2 ^ 64 := h
  omega

end Representation

theorem IntegerType.wrap_i64_eq_iff {x y : Int} :
    i64.wrap y = i64.wrap x ↔ y ≡ x [ZMOD 2 ^ 64] := by
  show y.bmod (2 ^ 64) = x.bmod (2 ^ 64) ↔ y % (2 ^ 64 : Nat) = x % (2 ^ 64 : Nat)
  constructor
  · intro h
    rw [← Int.bmod_emod, h, Int.bmod_emod]
  · intro h
    rw [← Int.emod_bmod, h, Int.emod_bmod]

namespace EnumDeclaration

/-- The cases of a declaration. -/
def caseList (d : EnumDeclaration) : List CaseDeclaration :=
  d.cases?.getD []

/-- The integers of cases, from the one that the first has by itself: each has the one that it is
given, or else the one after that of the case before it. -/
def discriminantsFrom : Int → List CaseDeclaration → List Int
  | _, [] => []
  | next, c :: rest =>
    let x := c.number?.getD next
    x :: discriminantsFrom (x + 1) rest

/-- The integers of the cases of a declaration. -/
def discriminants (d : EnumDeclaration) : List Int :=
  discriminantsFrom 0 d.caseList

/-- The representation that an item of an attribute names. -/
def itemRepresentation? (item : AttributeItem) : Option Representation :=
  match item.value with
  | .word => Representation.ofName? item.key
  | _ => none

/-- The representations that the attributes of a declaration name, alone or among others. -/
def representations (d : EnumDeclaration) : List Representation :=
  (d.attributes.filter (·.name == "repr")).flatMap fun a =>
    (a.content?.getD []).filterMap itemRepresentation?

/-- The representation of a declaration. -/
def carrier (d : EnumDeclaration) : Representation :=
  d.representations.headD .isize

/-- Whether the host language takes a declaration: it names one representation at most, of which
each of its cases has an integer of its own, and its cases have names of their own. -/
structure IsLegal (d : EnumDeclaration) : Prop where
  carrier_eq : ∀ r ∈ d.representations, d.carrier = r
  discriminants_within : ∀ x ∈ d.discriminants, d.carrier.Has x
  discriminants_nodup : d.discriminants.Nodup
  idents_nodup : (d.caseList.map (·.ident)).Nodup

variable {d : EnumDeclaration}

/-! ## Widths -/

theorem exists_name_eq_of_widthOf?_eq_some {name : String} {width : EnumWidth}
    (h : widthOf? name = some width) : ∃ r : Representation, r.name = name := by
  have hnames : name ∈ ["i8", "i16", "i32", "u8", "u16", "u32"] ++
      ["i64", "u64", "isize", "usize"] := by
    unfold widthOf? at h
    split at h
    · next hnarrow => exact List.mem_append_left _ (List.contains_iff_mem.mp hnarrow)
    · split at h
      · next hlong => exact List.mem_append_right _ (List.contains_iff_mem.mp hlong)
      · cases h
  have hall : ∀ name ∈ ["i8", "i16", "i32", "u8", "u16", "u32"] ++ ["i64", "u64", "isize", "usize"],
      ∃ r ∈ Representation.all, r.name = name := by decide
  obtain ⟨r, -, hr⟩ := hall name hnames
  exact ⟨r, hr⟩

theorem representation?_eq_some_iff {a : Attribute} {name : String} :
    representation? a = some name ↔ a = ⟨"repr", some [⟨name, .word⟩]⟩ := by
  constructor
  · intro h
    unfold representation? at h
    split at h
    · next found hcontent =>
      split at h
      · next hname =>
        obtain rfl := Option.some.inj h
        obtain ⟨_, _⟩ := a
        obtain rfl := hname
        obtain rfl := hcontent
        rfl
      · cases h
    · cases h
  · rintro rfl
    rfl

theorem mem_representations {r : Representation} {a : Attribute} (ha : a ∈ d.attributes)
    (hname : representation? a = some r.name) : r ∈ d.representations := by
  obtain rfl := representation?_eq_some_iff.mp hname
  refine List.mem_flatMap.mpr ⟨_, List.mem_filter.mpr ⟨ha, beq_self_eq_true _⟩, ?_⟩
  exact List.mem_filterMap.mpr ⟨_, List.mem_singleton_self _, Representation.ofName?_name r⟩

/-- The width is that of the representation, if an attribute names it alone. -/
theorem IsLegal.width_eq_bits32_iff (h : d.IsLegal) :
    d.width = .bits32 ↔ (∃ a ∈ d.attributes, representation? a = some d.carrier.name) ∧
      widthOf? d.carrier.name = some .bits32 := by
  have hcarrier : ∀ a ∈ d.attributes, ∀ name width, representation? a = some name →
      widthOf? name = some width → name = d.carrier.name := by
    intro a ha name width hname hwidth
    obtain ⟨r, rfl⟩ := exists_name_eq_of_widthOf?_eq_some hwidth
    rw [h.carrier_eq r (mem_representations ha hname)]
  have hnamed : ∀ width,
      (d.attributes.filterMap representation?).findSome? widthOf? = some width →
        (∃ a ∈ d.attributes, representation? a = some d.carrier.name) ∧
          widthOf? d.carrier.name = some width := by
    intro width hfound
    obtain ⟨name, hmem, hwidth⟩ := List.exists_of_findSome?_eq_some hfound
    obtain ⟨a, ha, hname⟩ := List.mem_filterMap.mp hmem
    obtain rfl := hcarrier a ha name width hname hwidth
    exact ⟨⟨a, ha, hname⟩, hwidth⟩
  unfold width
  cases hfound : (d.attributes.filterMap representation?).findSome? widthOf? with
  | none =>
    refine iff_of_false (by decide) ?_
    rintro ⟨⟨a, ha, hname⟩, hwidth⟩
    have hnone := List.findSome?_eq_none_iff.mp hfound _ (List.mem_filterMap.mpr ⟨a, ha, hname⟩)
    rw [hwidth] at hnone
    cases hnone
  | some width =>
    obtain ⟨hname, hwidth⟩ := hnamed width hfound
    rw [hwidth, Option.getD_some, Option.some.injEq]
    exact (and_iff_right hname).symm

theorem IsLegal.names_u32_iff (h : d.IsLegal) :
    (∃ a ∈ d.attributes, representation? a = some "u32") ↔
      d.width = .bits32 ∧ d.carrier = .fixed .u32 := by
  rw [h.width_eq_bits32_iff]
  constructor
  · rintro ⟨a, ha, hname⟩
    have hcarrier := h.carrier_eq (.fixed .u32) (mem_representations ha hname)
    rw [hcarrier]
    exact ⟨⟨⟨a, ha, hname⟩, by decide⟩, rfl⟩
  · rintro ⟨⟨hname, -⟩, hcarrier⟩
    rwa [hcarrier] at hname

/-! ## Numbers -/

/-- The integers of a representation of 32 bits or fewer are numbers of 64 bits, and all but those
of `u32` are signed ones of 32 bits. -/
theorem wrap_and_fits_iff {r : Representation} (hr : widthOf? r.name = some .bits32) {x : Int}
    (hx : r.Has x) : IntegerType.i64.wrap x = x ∧
      (EnumWidth.bits32.Fits x ↔ ¬(r = .fixed .u32 ∧ 2 ^ 31 ≤ x)) := by
  have hnarrow : -2 ^ 31 ≤ r.least ∧ r.greatest < 2 ^ 32 ∧
      (r ≠ .fixed .u32 → r.greatest < 2 ^ 31) := by
    revert hr
    cases r with
    | fixed type => cases type <;> decide
    | _ => decide
  obtain ⟨hleast, hgreatest, hother⟩ := hnarrow
  obtain ⟨hlow, hhigh⟩ := hx
  constructor
  · show x.bmod 18446744073709551616 = x
    exact Int.bmod_eq_of_le (by omega) (by omega)
  · show -2147483648 ≤ x ∧ x ≤ 2147483647 ↔ _
    by_cases hu32 : r = .fixed .u32
    · simp only [hu32, true_and]
      omega
    · have hsmall := hother hu32
      simp only [hu32, false_and, not_false_eq_true, iff_true]
      omega

theorem map_number_numbered (next : Int) (cases : List CaseDeclaration) :
    (numbered next cases).map (·.number) =
      (discriminantsFrom next cases).map IntegerType.i64.wrap := by
  induction cases generalizing next with
  | nil => rfl
  | cons c rest ih =>
    rw [numbered, discriminantsFrom, List.map_cons, List.map_cons, ih]

theorem map_ident_numbered (next : Int) (cases : List CaseDeclaration) :
    (numbered next cases).map (·.ident) = cases.map (·.ident) := by
  induction cases generalizing next with
  | nil => rfl
  | cons c rest ih => rw [numbered, List.map_cons, List.map_cons, ih]

end EnumDeclaration

namespace DerivedEnum

open EnumDeclaration

variable {d : EnumDeclaration} {e : DerivedEnum}

/-- A strict decoder of the declared width takes the number of a case if it fits. -/
theorem readCase_encode_iff (h : ofDeclaration d = .ok e) {c : DerivedCase} (hc : c ∈ e.cases)
    {view : ObjectView} {args : List Variant} {index : Nat}
    (harg : args[index]? = some (HostValue.enumeration c.number).encode) :
    ArgumentDecoder.readCase view e e.width args index = .ok (.enumeration c.number) ↔
      e.width.Fits c.number := by
  have hnumber : (Int64.ofInt c.number).toInt = c.number := by
    obtain ⟨hleast, hgreatest⟩ := HostType.number_within h hc
    exact HostType.toInt_ofInt_of_le_greatest hleast hgreatest
  rw [ArgumentDecoder.readCase_eq_ok_iff]
  constructor
  · rintro ⟨n, hn, hfits, -⟩
    rw [harg] at hn
    obtain rfl := Variant.int.inj (Option.some.inj hn)
    rwa [hnumber] at hfits
  · intro hfits
    refine ⟨Int64.ofInt c.number, harg, by rwa [hnumber], ?_⟩
    obtain ⟨found, hfound⟩ := Option.isSome_iff_exists.mp
      (HostType.ofNumber?_isSome_iff.mpr ⟨c, hc, rfl⟩)
    rw [hnumber]
    exact ⟨found, hfound, by rw [(HostType.ofNumber?_eq_some_iff hfound).2]⟩

/-- A case is found by its number if no case before it has that number. -/
theorem ofNumber?_number_iff (hcases : e.cases.Nodup) {i : Nat} {c : DerivedCase}
    (hc : e.cases[i]? = some c) :
    e.ofNumber? c.number = some c ↔
      ∀ j < i, ∀ earlier, e.cases[j]? = some earlier → earlier.number ≠ c.number := by
  obtain ⟨hi, hci⟩ := List.getElem?_eq_some_iff.mp hc
  rw [ofNumber?, List.find?_eq_some_iff_getElem]
  constructor
  · rintro ⟨-, k, hk, hck, hbefore⟩ j hj earlier hearlier
    obtain ⟨hj', rfl⟩ := List.getElem?_eq_some_iff.mp hearlier
    have hki : k = i := hcases.getElem_inj_iff.mp (hck.trans hci.symm)
    simpa using hbefore j (hki ▸ hj)
  · intro hbefore
    refine ⟨beq_self_eq_true _, i, hi, hci, fun j hj => ?_⟩
    simpa using hbefore j hj _ (List.getElem?_eq_getElem _)

/-- The numbers of cases are their integers in 64 bits. -/
theorem map_number_getElem? (h : ofDeclaration d = .ok e) (i : Nat) :
    e.cases[i]?.map (·.number) = d.discriminants[i]?.map IntegerType.i64.wrap := by
  rw [← List.getElem?_map, ← List.getElem?_map, (eq_of_ofDeclaration_eq_ok h).2,
    map_number_numbered, discriminants, caseList]

variable {i : Nat} {c : DerivedCase} {x : Int}

theorem number_eq_wrap (h : ofDeclaration d = .ok e) (hc : e.cases[i]? = some c)
    (hx : d.discriminants[i]? = some x) : c.number = IntegerType.i64.wrap x := by
  have hnumber := map_number_getElem? h i
  rw [hc, hx] at hnumber
  exact Option.some.inj hnumber

/-- The number of a case fits the width, but for those of `u32` that are no signed numbers. -/
theorem fits_number_iff (h : ofDeclaration d = .ok e) (hlegal : d.IsLegal)
    (hc : e.cases[i]? = some c) (hx : d.discriminants[i]? = some x) :
    e.width.Fits c.number ↔
      ¬((∃ a ∈ d.attributes, representation? a = some "u32") ∧ 2 ^ 31 ≤ x) := by
  rw [number_eq_wrap h hc hx, (eq_of_ofDeclaration_eq_ok h).1, hlegal.names_u32_iff]
  cases hwidth : d.width with
  | bits32 =>
    obtain ⟨-, hnarrow⟩ := hlegal.width_eq_bits32_iff.mp hwidth
    have hhas := hlegal.discriminants_within x (List.mem_of_getElem? hx)
    obtain ⟨hwrap, hfits⟩ := wrap_and_fits_iff hnarrow hhas
    rw [hwrap, hfits, eq_self, true_and]
  | bits64 => simp [EnumWidth.Fits]

/-- A case is found by its number, but for those of wide representations that have the number of
one before in 64 bits. -/
theorem ofNumber?_iff (h : ofDeclaration d = .ok e) (hlegal : d.IsLegal)
    (hc : e.cases[i]? = some c) (hx : d.discriminants[i]? = some x) :
    e.ofNumber? c.number = some c ↔ (d.carrier.IsWide →
      ∀ j < i, ∀ y, d.discriminants[j]? = some y → ¬y ≡ x [ZMOD 2 ^ 64]) := by
  have hcases : e.cases.Nodup := by
    refine .of_map (·.ident) ?_
    rw [(eq_of_ofDeclaration_eq_ok h).2, map_ident_numbered]
    exact hlegal.idents_nodup
  rw [ofNumber?_number_iff hcases hc]
  constructor
  · intro hbefore _ j hj y hy hmod
    have hnumber := map_number_getElem? h j
    rw [hy] at hnumber
    obtain ⟨earlier, hearlier, hwrap⟩ := Option.map_eq_some_iff.mp hnumber
    refine hbefore j hj earlier hearlier (hwrap.trans ?_)
    rw [number_eq_wrap h hc hx, IntegerType.wrap_i64_eq_iff]
    exact hmod
  · intro hwide j hj earlier hearlier hsame
    have hnumber := map_number_getElem? h j
    rw [hearlier] at hnumber
    obtain ⟨y, hy, hwrap⟩ := Option.map_eq_some_iff.mp hnumber.symm
    have hmod : y ≡ x [ZMOD 2 ^ 64] :=
      IntegerType.wrap_i64_eq_iff.mp
        (hwrap.trans (hsame.trans (number_eq_wrap h hc hx)))
    by_cases hcarrier : d.carrier.IsWide
    · exact hwide hcarrier j hj y hy hmod
    · have hxy : y = x := Representation.eq_of_modEq hcarrier
        (hlegal.discriminants_within x (List.mem_of_getElem? hx))
        (hlegal.discriminants_within y (List.mem_of_getElem? hy)) hmod
      subst hxy
      have hi := (List.getElem?_eq_some_iff.mp hx).1
      have hji : j = i :=
        (List.getElem?_inj (hj.trans hi) hlegal.discriminants_nodup).mp (hy.trans hx.symm)
      exact hj.ne hji

/-- Which cases are read back: a decoder of the declared width gives a case from what it is encoded
as, unless an attribute names `u32` alone and the integer of the case is past the signed ones of 32
bits, or the representation is wide and a case before it has the same number in 64 bits. -/
theorem reads_back_iff (h : ofDeclaration d = .ok e) (hlegal : d.IsLegal)
    (hc : e.cases[i]? = some c) (hx : d.discriminants[i]? = some x)
    {view : ObjectView} {args : List Variant} {index : Nat}
    (harg : args[index]? = some (HostValue.enumeration c.number).encode) :
    (ArgumentDecoder.readCase view e e.width args index = .ok (.enumeration c.number) ∧
        e.ofNumber? c.number = some c) ↔
      ¬((∃ a ∈ d.attributes, representation? a = some "u32") ∧ 2 ^ 31 ≤ x) ∧
        (d.carrier.IsWide →
          ∀ j < i, ∀ y, d.discriminants[j]? = some y → ¬y ≡ x [ZMOD 2 ^ 64]) := by
  rw [readCase_encode_iff h (List.mem_of_getElem? hc) harg, fits_number_iff h hlegal hc hx,
    ofNumber?_iff h hlegal hc hx]

/-- An enumeration of colors, whose numbers have 32 bits without a sign. -/
def colorDeclaration : EnumDeclaration where
  ident := "Color"
  attributes := [⟨"repr", some [⟨"u32", .word⟩]⟩]
  cases? := some [⟨"Blue", some 255, .none, []⟩, ⟨"Red", some 4278190080, .none, []⟩]

/-- The cases of colors. -/
def color : DerivedEnum :=
  ⟨"Color", .bits32, false, [⟨"Blue", "Blue", 255⟩, ⟨"Red", "Red", 4278190080⟩]⟩

theorem ofDeclaration_colorDeclaration : ofDeclaration colorDeclaration = .ok color := by
  rfl

theorem colorDeclaration_isLegal : colorDeclaration.IsLegal where
  carrier_eq := by decide
  discriminants_within := by decide
  discriminants_nodup := by decide
  idents_nodup := by decide

theorem reads_back_iff_color :
    let view : ObjectView := ⟨fun _ => none, fun _ _ => false⟩
    let blue : HostValue := .enumeration 255
    let red : HostValue := .enumeration 4278190080
    (ArgumentDecoder.readCase view color .bits32 [blue.encode] 0 = .ok blue ∧
        color.ofNumber? 255 = some ⟨"Blue", "Blue", 255⟩) ∧
      ¬(ArgumentDecoder.readCase view color .bits32 [red.encode] 0 = .ok red ∧
        color.ofNumber? 4278190080 = some ⟨"Red", "Red", 4278190080⟩) := by
  intro view blue red
  have hnarrow : ¬colorDeclaration.carrier.IsWide := by
    rintro (h | h) <;> exact absurd h (by decide)
  constructor
  · refine (reads_back_iff ofDeclaration_colorDeclaration colorDeclaration_isLegal
      (i := 0) (x := 255) rfl rfl rfl).mpr ⟨?_, fun hwide => absurd hwide hnarrow⟩
    rintro ⟨-, hlarge⟩
    exact absurd hlarge (by decide)
  · intro hred
    refine ((reads_back_iff ofDeclaration_colorDeclaration colorDeclaration_isLegal
      (i := 1) (x := 4278190080) rfl rfl rfl).mp hred).1 ⟨?_, by decide⟩
    exact ⟨_, List.mem_singleton_self _, rfl⟩

/-- Not every case is read back: the number of red fits the representation, but is no signed one. -/
theorem not_reads_back :
    ¬∀ d e, ofDeclaration d = .ok e → d.IsLegal → ∀ c ∈ e.cases, ∀ view args index,
      args[index]? = some (HostValue.enumeration c.number).encode →
        ArgumentDecoder.readCase view e e.width args index = .ok (.enumeration c.number) := by
  intro hall
  have hred := hall colorDeclaration color ofDeclaration_colorDeclaration colorDeclaration_isLegal
    ⟨"Red", "Red", 4278190080⟩ (by decide) ⟨fun _ => none, fun _ _ => false⟩
    [(HostValue.enumeration 4278190080).encode] 0 rfl
  have hfits : EnumWidth.bits32.Fits 4278190080 :=
    (readCase_encode_iff ofDeclaration_colorDeclaration (by decide) rfl).mp hred
  exact absurd hfits.2 (by decide)

end DerivedEnum

end EngineBindings
