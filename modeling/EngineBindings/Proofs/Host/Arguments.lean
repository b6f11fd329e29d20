import EngineBindings.Host.Arguments
import EngineBindings.Proofs.Host.Conversion

/-!
# Values of arguments

An argument has the value that its variant carries (`DecodesAs`); the number of an enumeration has
to fit the width of its category besides.  A strict decoder gives just that value
(`read_strict_eq_ok_iff`).  So does a lenient one (`read_lenient_eq_some_iff`), which is also
content, without a value, with a number that fits but names no case (`NamesNoCase`,
`read_lenient_eq_none_iff`).  What cannot be read is an error of its own index.
-/

namespace EngineBindings

/-- The index of the argument that an error is about. -/
def ArgumentError.index : ArgumentError → Nat
  | missing index => index
  | conversion index _ => index
  | enumOutOfRange index _ _ => index
  | unknownEnumValue index _ => index

/-- Whether a number fits in a width. -/
def EnumWidth.Fits : EnumWidth → Int → Prop
  | bits32, n => IntegerType.i32.least ≤ n ∧ n ≤ IntegerType.i32.greatest
  | bits64, _ => True

/-- Which value of a type a variant has as an argument of a category. -/
def DecodesAs (view : ObjectView) (category : TypeCategory) (type : HostType) (v : Variant)
    (x : HostValue) : Prop :=
  type.Converts view v x ∧ ∀ width e n, category = .enumeration width → type = .enumeration e →
    v = .int n → width.Fits n.toInt

/-- Whether a variant is a number of the width of an enumeration that none of its cases has. -/
def NamesNoCase (category : TypeCategory) (type : HostType) (v : Variant) : Prop :=
  ∃ width e n, category = .enumeration width ∧ type = .enumeration e ∧ v = .int n ∧
    width.Fits n.toInt ∧ ∀ c ∈ e.cases, c.number ≠ n.toInt

namespace ArgumentDecoder

variable {view : ObjectView} {category : TypeCategory} {type : HostType} {args : List Variant}
  {index : Nat}

/-! ## Values -/

theorem readValue_eq_ok_iff {x : HostValue} :
    readValue view type args index = .ok x ↔
      ∃ v, args[index]? = some v ∧ type.Converts view v x := by
  unfold readValue
  cases args[index]? with
  | none => simp
  | some v => simp [mapError_eq_ok_iff, HostType.decode_eq_ok_iff]

/-! ## Numbers of enumerations -/

theorem converts_i64_iff {v : Variant} {x : HostValue} :
    HostType.Converts view (.primitive (.integer .i64)) v x ↔
      ∃ n, v = .int n ∧ x = .integer n.toInt := by
  constructor
  · rintro (_ | @⟨n, -, -⟩)
    exact ⟨_, rfl, rfl⟩
  · rintro ⟨n, rfl, rfl⟩
    have hleast : IntegerType.i64.least = -(2 ^ 63 : Int) := by decide
    have hgreatest : IntegerType.i64.greatest = (2 ^ 63 : Int) - 1 := by decide
    have hlow := n.le_toInt
    have hhigh := n.toInt_lt
    exact .integer (by omega) (by omega)

theorem fits_iff {width : EnumWidth} {n : Int} :
    width.Fits n ↔ ¬(width = .bits32 ∧ (!IntegerType.i32.contains n) = true) := by
  cases width with
  | bits32 => simp [EnumWidth.Fits, IntegerType.contains]
  | bits64 => simp [EnumWidth.Fits]

theorem readNumber_eq_ok_iff {width : EnumWidth} {n : Int} :
    readNumber view width args index = .ok n ↔
      ∃ m, args[index]? = some (.int m) ∧ n = m.toInt ∧ width.Fits n := by
  unfold readNumber
  rw [bind_eq_ok_iff]
  simp only [readValue_eq_ok_iff, converts_i64_iff]
  constructor
  · rintro ⟨_, ⟨_, hv, m, rfl, rfl⟩, h⟩
    dsimp only at h
    by_cases hfits : width.Fits m.toInt
    · rw [if_neg (fits_iff.mp hfits)] at h
      obtain rfl : m.toInt = n := Except.ok.inj h
      exact ⟨m, hv, rfl, hfits⟩
    · rw [if_pos (not_not.mp fun hrange => hfits (fits_iff.mpr hrange))] at h
      cases h
  · rintro ⟨m, hv, rfl, hfits⟩
    refine ⟨_, ⟨_, hv, m, rfl, rfl⟩, ?_⟩
    dsimp only
    rw [if_neg (fits_iff.mp hfits)]
    rfl

/-! ## Categories -/

/-- Only enumerations of a category for enumerations are read in a way of their own. -/
theorem enumeration_cases (category : TypeCategory) (type : HostType) :
    (∃ width e, category = .enumeration width ∧ type = .enumeration e) ∨
      ∀ width e, category = .enumeration width → type ≠ .enumeration e := by
  by_cases h : ∃ width e, category = .enumeration width ∧ type = .enumeration e
  · exact .inl h
  · exact .inr fun width e hcategory htype => h ⟨width, e, hcategory, htype⟩

theorem read_of_not_enumeration (lenient : Bool)
    (h : ∀ width e, category = .enumeration width → type ≠ .enumeration e) :
    (ofCategory category lenient).read view type args index =
      (readValue view type args index).map some := by
  cases category with
  | enumeration width =>
    cases type with
    | enumeration e => exact absurd rfl (h width e rfl)
    | primitive type => cases lenient <;> rfl
    | variant => cases lenient <;> rfl
    | object className => cases lenient <;> rfl
    | typedArray element => cases lenient <;> rfl
    | option inner => cases lenient <;> rfl
  | primitive type => rfl
  | variant nullable => rfl
  | collection element => rfl
  | object className nullable counting => rfl

theorem decodesAs_of_not_enumeration {v : Variant} {x : HostValue}
    (h : ∀ width e, category = .enumeration width → type ≠ .enumeration e) :
    DecodesAs view category type v x ↔ type.Converts view v x :=
  and_iff_left fun width e _ hcategory htype => absurd htype (h width e hcategory)

theorem decodesAs_enumeration_iff {width : EnumWidth} {e : DerivedEnum} {v : Variant}
    {x : HostValue} :
    DecodesAs view (.enumeration width) (.enumeration e) v x ↔
      ∃ n, v = .int n ∧ width.Fits n.toInt ∧ ∃ c, e.ofNumber? n.toInt = some c ∧
        x = .enumeration c.number := by
  constructor
  · rintro ⟨hconverts, hfits⟩
    cases hconverts with
    | @enumeration _ n c hcase hnumber =>
      obtain ⟨c', hfound⟩ := Option.isSome_iff_exists.mp
        (HostType.ofNumber?_isSome_iff.mpr ⟨c, hcase, hnumber⟩)
      refine ⟨n, rfl, hfits width e n rfl rfl rfl, c', hfound, ?_⟩
      rw [(HostType.ofNumber?_eq_some_iff hfound).2]
  · rintro ⟨n, rfl, hfits, c, hfound, rfl⟩
    obtain ⟨hcase, hnumber⟩ := HostType.ofNumber?_eq_some_iff hfound
    rw [hnumber]
    refine ⟨.enumeration hcase hnumber, fun width' e' n' hwidth _ hn => ?_⟩
    obtain rfl := TypeCategory.enumeration.inj hwidth
    obtain rfl := Variant.int.inj hn
    exact hfits

theorem namesNoCase_enumeration_iff {width : EnumWidth} {e : DerivedEnum} {v : Variant} :
    NamesNoCase (.enumeration width) (.enumeration e) v ↔
      ∃ n, v = .int n ∧ width.Fits n.toInt ∧ e.ofNumber? n.toInt = none := by
  have hnone : ∀ n : Int, e.ofNumber? n = none ↔ ∀ c ∈ e.cases, c.number ≠ n := by
    intro n
    simp [DerivedEnum.ofNumber?, List.find?_eq_none]
  simp only [hnone]
  constructor
  · rintro ⟨width', e', n, hwidth, he, rfl, hfits, hcases⟩
    obtain rfl := TypeCategory.enumeration.inj hwidth
    obtain rfl := HostType.enumeration.inj he
    exact ⟨n, rfl, hfits, hcases⟩
  · rintro ⟨n, rfl, hfits, hcases⟩
    exact ⟨width, e, n, rfl, rfl, rfl, hfits, hcases⟩

theorem readCase?_eq_ok_iff {width : EnumWidth} {e : DerivedEnum} {x? : Option HostValue} :
    readCase? view e width args index = .ok x? ↔
      ∃ n, args[index]? = some (.int n) ∧ width.Fits n.toInt ∧
        x? = (e.ofNumber? n.toInt).map fun c => .enumeration c.number := by
  unfold readCase?
  rw [bind_eq_ok_iff]
  simp only [readNumber_eq_ok_iff]
  constructor
  · rintro ⟨_, ⟨n, hv, rfl, hfits⟩, h⟩
    exact ⟨n, hv, hfits, (Except.ok.inj h).symm⟩
  · rintro ⟨n, hv, hfits, rfl⟩
    exact ⟨_, ⟨n, hv, rfl, hfits⟩, rfl⟩

theorem readCase_eq_ok_iff {width : EnumWidth} {e : DerivedEnum} {x : HostValue} :
    readCase view e width args index = .ok x ↔
      ∃ n, args[index]? = some (.int n) ∧ width.Fits n.toInt ∧
        ∃ c, e.ofNumber? n.toInt = some c ∧ x = .enumeration c.number := by
  unfold readCase
  rw [bind_eq_ok_iff]
  simp only [readNumber_eq_ok_iff]
  constructor
  · rintro ⟨_, ⟨n, hv, rfl, hfits⟩, h⟩
    cases hfound : e.ofNumber? n.toInt with
    | none =>
      rw [hfound] at h
      cases h
    | some c =>
      rw [hfound] at h
      exact ⟨n, hv, hfits, c, hfound, (Except.ok.inj h).symm⟩
  · rintro ⟨n, hv, hfits, c, hfound, rfl⟩
    refine ⟨_, ⟨n, hv, rfl, hfits⟩, ?_⟩
    rw [hfound]
    rfl

/-! ## Strict and lenient decoders -/

theorem read_strict_eq_ok_iff {x? : Option HostValue} :
    (ofCategory category false).read view type args index = .ok x? ↔
      ∃ v x, args[index]? = some v ∧ DecodesAs view category type v x ∧ x? = some x := by
  rcases enumeration_cases category type with ⟨width, e, rfl, rfl⟩ | hother
  · simp only [decodesAs_enumeration_iff]
    rw [ofCategory, read, map_eq_ok_iff]
    simp only [readCase_eq_ok_iff]
    constructor
    · rintro ⟨_, ⟨n, hv, hfits, c, hfound, rfl⟩, rfl⟩
      exact ⟨_, _, hv, ⟨n, rfl, hfits, c, hfound, rfl⟩, rfl⟩
    · rintro ⟨_, _, hv, ⟨n, rfl, hfits, c, hfound, rfl⟩, rfl⟩
      exact ⟨_, ⟨n, hv, hfits, c, hfound, rfl⟩, rfl⟩
  · rw [read_of_not_enumeration false hother, map_eq_ok_iff]
    simp only [readValue_eq_ok_iff, decodesAs_of_not_enumeration hother]
    constructor
    · rintro ⟨x, ⟨v, hv, hx⟩, rfl⟩
      exact ⟨v, x, hv, hx, rfl⟩
    · rintro ⟨v, x, hv, hx, rfl⟩
      exact ⟨x, ⟨v, hv, hx⟩, rfl⟩

theorem read_lenient_eq_some_iff {x : HostValue} :
    (ofCategory category true).read view type args index = .ok (some x) ↔
      ∃ v, args[index]? = some v ∧ DecodesAs view category type v x := by
  rcases enumeration_cases category type with ⟨width, e, rfl, rfl⟩ | hother
  · simp only [decodesAs_enumeration_iff]
    rw [ofCategory, read, readCase?_eq_ok_iff]
    constructor
    · rintro ⟨n, hv, hfits, hx⟩
      obtain ⟨c, hfound, rfl⟩ := Option.map_eq_some_iff.mp hx.symm
      exact ⟨_, hv, n, rfl, hfits, c, hfound, rfl⟩
    · rintro ⟨_, hv, n, rfl, hfits, c, hfound, rfl⟩
      exact ⟨n, hv, hfits, by rw [hfound]; rfl⟩
  · rw [read_of_not_enumeration true hother, map_eq_ok_iff]
    simp only [readValue_eq_ok_iff, decodesAs_of_not_enumeration hother, Option.some.injEq,
      exists_eq_right]

theorem read_lenient_eq_none_iff :
    (ofCategory category true).read view type args index = .ok none ↔
      ∃ v, args[index]? = some v ∧ NamesNoCase category type v := by
  rcases enumeration_cases category type with ⟨width, e, rfl, rfl⟩ | hother
  · simp only [namesNoCase_enumeration_iff]
    rw [ofCategory, read, readCase?_eq_ok_iff]
    constructor
    · rintro ⟨n, hv, hfits, hx⟩
      exact ⟨_, hv, n, rfl, hfits, Option.map_eq_none_iff.mp hx.symm⟩
    · rintro ⟨_, hv, n, rfl, hfits, hnone⟩
      exact ⟨n, hv, hfits, by rw [hnone]; rfl⟩
  · rw [read_of_not_enumeration true hother, map_eq_ok_iff]
    constructor
    · rintro ⟨x, -, hx⟩
      cases hx
    · rintro ⟨v, -, width, e, n, hcategory, htype, -⟩
      exact absurd htype (hother width e hcategory)

/-! ## Errors -/

/-- Whether the error of a step, if there is one, is about the argument with an index. -/
def ErrorsAt {α : Type} (index : Nat) (step : Except ArgumentError α) : Prop :=
  ∀ e, step = .error e → e.index = index

section ErrorsAt

variable {α β : Type}

theorem errorsAt_ok (index : Nat) (a : α) : ErrorsAt index (.ok a) := by
  intro e h
  cases h

theorem errorsAt_error {index : Nat} {e : ArgumentError} (he : e.index = index) :
    ErrorsAt index (.error e : Except ArgumentError α) := by
  intro e' h
  rw [← Except.error.inj h]
  exact he

theorem ErrorsAt.bind {step : Except ArgumentError α} {next : α → Except ArgumentError β}
    (hstep : ErrorsAt index step) (hnext : ∀ a, ErrorsAt index (next a)) :
    ErrorsAt index (step >>= next) := by
  intro e h
  cases step with
  | error e' =>
    rw [← Except.error.inj h]
    exact hstep e' rfl
  | ok a => exact hnext a e h

theorem ErrorsAt.map {step : Except ArgumentError α} (hstep : ErrorsAt index step) (f : α → β) :
    ErrorsAt index (step.map f) := by
  intro e h
  cases step with
  | error e' =>
    rw [← Except.error.inj h]
    exact hstep e' rfl
  | ok a => cases h

end ErrorsAt

theorem readValue_errorsAt : ErrorsAt index (readValue view type args index) := by
  unfold readValue
  cases args[index]? with
  | none => exact errorsAt_error rfl
  | some v =>
    dsimp only
    cases type.decode view v with
    | ok x => exact errorsAt_ok index x
    | error reason => exact errorsAt_error rfl

theorem readNumber_errorsAt (width : EnumWidth) :
    ErrorsAt index (readNumber view width args index) := by
  refine readValue_errorsAt.bind fun x => ?_
  cases x with
  | integer n =>
    dsimp only
    by_cases hrange : width = .bits32 ∧ (!IntegerType.i32.contains n) = true
    · rw [if_pos hrange]
      exact errorsAt_error rfl
    · rw [if_neg hrange]
      exact errorsAt_ok index n
  | _ => exact errorsAt_error rfl

theorem readCase_errorsAt (e : DerivedEnum) (width : EnumWidth) :
    ErrorsAt index (readCase view e width args index) := by
  refine (readNumber_errorsAt width).bind fun n => ?_
  cases e.ofNumber? n with
  | none => exact errorsAt_error rfl
  | some c => exact errorsAt_ok index _

/-- What cannot be read is an error of the argument with that index. -/
theorem read_errorsAt (category : TypeCategory) (lenient : Bool) :
    ErrorsAt index ((ofCategory category lenient).read view type args index) := by
  rcases enumeration_cases category type with ⟨width, e, rfl, rfl⟩ | hother
  · cases lenient with
    | true => exact (readNumber_errorsAt width).bind fun n => errorsAt_ok index _
    | false => exact (readCase_errorsAt e width).map some
  · rw [read_of_not_enumeration lenient hother]
    exact readValue_errorsAt.map some

end ArgumentDecoder

end EngineBindings
