import EngineBindings.Host.Conversion
import EngineBindings.Proofs.Traverse

/-!
# From variants to values and back

`HostType.Converts` says which value of a type a variant carries: the variant has just the kind of
the type, numbers lie in its range or name a case, objects live and are of its class, and arrays
carry the typing of its elements.  Decoding finds that value wherever there is one
(`decode_eq_ok_iff`).

Encoding gives back the variant that a value was decoded from, for all types but the numbers of 32
bits with a fraction, which are rounded (`HostType.encode_of_decode`).  The other way round,
integers of all types but one come back as they were; those of `u64` do as far as `i64` goes
(`HostType.decode_encode_integer`).
-/

namespace EngineBindings

namespace HostType

/-- Which value of a type a variant carries. -/
inductive Converts (view : ObjectView) : HostType → Variant → HostValue → Prop where
  | bool (b : Bool) : Converts view (.primitive .bool) (.bool b) (.bool b)
  | integer {type : IntegerType} {n : Int64} (hleast : type.least ≤ n.toInt)
      (hgreatest : n.toInt ≤ type.greatest) :
      Converts view (.primitive (.integer type)) (.int n) (.integer n.toInt)
  | float64 (bits : UInt64) : Converts view (.primitive .float64) (.float bits) (.float64 bits)
  | float32 (bits : UInt64) :
      Converts view (.primitive .float32) (.float bits) (.float32 (HostValue.narrow bits))
  | builtin (v : Variant) : Converts view (.primitive (.builtin v.kind)) v (.builtin v)
  | variant (v : Variant) : Converts view .variant v (.variant v)
  | enumeration {e : DerivedEnum} {n : Int64} {c : DerivedCase} (hcase : c ∈ e.cases)
      (hnumber : c.number = n.toInt) :
      Converts view (.enumeration e) (.int n) (.enumeration n.toInt)
  | object {className found : String} {handle : ObjectHandle}
      (halive : view.classOf? handle = some found)
      (hclass : view.isSubclass found className = true) :
      Converts view (.object className) (.object handle) (.object handle)
  | typedArray (element : HostType) (items : List Variant) :
      Converts view (.typedArray element) (.array items (some element.elementTyping))
        (.typedArray ⟨items, some element.elementTyping⟩)
  | absent (inner : HostType) : Converts view (.option inner) .nil .absent
  | present {inner : HostType} {v : Variant} {x : HostValue} (hv : v ≠ .nil)
      (hinner : Converts view inner v x) : Converts view (.option inner) v (.present x)

variable {view : ObjectView} {v : Variant} {x : HostValue}

theorem ofNumber?_eq_some_iff {e : DerivedEnum} {n : Int} {c : DerivedCase}
    (h : e.ofNumber? n = some c) : c ∈ e.cases ∧ c.number = n := by
  unfold DerivedEnum.ofNumber? at h
  exact ⟨List.mem_of_find?_eq_some h, by simpa using List.find?_some h⟩

theorem ofNumber?_isSome_iff {e : DerivedEnum} {n : Int} :
    (e.ofNumber? n).isSome = true ↔ ∃ c ∈ e.cases, c.number = n := by
  simp [DerivedEnum.ofNumber?, List.find?_isSome]

theorem decodePrimitive_builtin (kind : VariantKind) (v : Variant) :
    decodePrimitive (.builtin kind) v =
      if v.kind = kind then .ok (.builtin v) else .error (.typeMismatch kind v.kind) := by
  cases v <;> rfl

theorem decodePrimitive_eq_ok_iff {type : Primitive} :
    decodePrimitive type v = .ok x ↔ Converts view (.primitive type) v x := by
  constructor
  · intro h
    cases type with
    | bool =>
      cases v <;> simp only [decodePrimitive, reduceCtorEq, Except.ok.injEq] at h
      subst h
      exact .bool _
    | integer type =>
      cases v <;> simp only [decodePrimitive, reduceCtorEq] at h
      split at h
      · next hrange =>
        obtain rfl := Except.ok.inj h
        simp only [IntegerType.contains, Bool.and_eq_true, decide_eq_true_eq] at hrange
        exact .integer hrange.1 hrange.2
      · cases h
    | float32 =>
      cases v <;> simp only [decodePrimitive, reduceCtorEq, Except.ok.injEq] at h
      subst h
      exact .float32 _
    | float64 =>
      cases v <;> simp only [decodePrimitive, reduceCtorEq, Except.ok.injEq] at h
      subst h
      exact .float64 _
    | builtin kind =>
      rw [decodePrimitive_builtin] at h
      split at h
      · next hkind =>
        obtain rfl := Except.ok.inj h
        subst hkind
        exact .builtin v
      · cases h
  · intro h
    cases h with
    | bool b => rfl
    | @integer type n hleast hgreatest =>
      have hrange : type.contains n.toInt = true := by
        rw [IntegerType.contains, Bool.and_eq_true, decide_eq_true_eq, decide_eq_true_eq]
        exact ⟨hleast, hgreatest⟩
      exact if_pos hrange
    | float64 bits => rfl
    | float32 bits => rfl
    | builtin v => rw [decodePrimitive_builtin, if_pos rfl]

theorem reference_eq_ok_iff {className : String} {handle other : ObjectHandle} :
    view.reference className handle = .ok other ↔
      other = handle ∧ ∃ found, view.classOf? handle = some found ∧
        view.isSubclass found className = true := by
  unfold ObjectView.reference
  cases view.classOf? handle with
  | none => simp
  | some found =>
    by_cases hclass : view.isSubclass found className = true
    · simp only [hclass, if_true, Except.ok.injEq, Option.some.injEq, exists_eq_left', and_true]
      exact eq_comm
    · simp [hclass]

theorem withTyping_eq_ok_iff {a b : VariantArray} {typing : ArrayTyping} :
    a.withTyping typing = .ok b ↔ a.typing? = some typing ∧ b = a := by
  unfold VariantArray.withTyping
  cases a.typing? with
  | none => simp
  | some found =>
    by_cases hfound : found = typing
    · simp only [hfound, if_true, Except.ok.injEq, true_and]
      exact eq_comm
    · simp [hfound]

/-- A type that may be absent takes the empty variant for that, and every other one for a value. -/
theorem decode_option (inner : HostType) (v : Variant) :
    decode view (.option inner) v =
      if v.isNil then .ok .absent else (decode view inner v).map .present := by
  cases v <;> rfl

theorem isNil_iff : v.isNil = true ↔ v = .nil := by
  cases v <;> simp [Variant.isNil]

/-- Decoding finds the value that a variant carries. -/
theorem decode_eq_ok_iff {type : HostType} :
    type.decode view v = .ok x ↔ Converts view type v x := by
  induction type generalizing v x with
  | primitive type => exact decodePrimitive_eq_ok_iff
  | variant =>
    constructor
    · intro h
      rw [decode, Except.ok.injEq] at h
      subst h
      exact .variant v
    · intro h
      cases h
      rfl
  | enumeration e =>
    constructor
    · intro h
      cases v <;> simp only [decode, reduceCtorEq] at h
      split at h
      · next c hfound =>
        obtain rfl := Except.ok.inj h
        obtain ⟨hcase, hnumber⟩ := ofNumber?_eq_some_iff hfound
        rw [hnumber]
        exact .enumeration hcase hnumber
      · cases h
    · rintro (_ | _ | _ | _ | _ | _ | ⟨hcase, hnumber⟩)
      obtain ⟨c, hfound⟩ :=
        Option.isSome_iff_exists.mp (ofNumber?_isSome_iff.mpr ⟨_, hcase, hnumber⟩)
      simp only [decode, hfound, (ofNumber?_eq_some_iff hfound).2]
  | object className =>
    constructor
    · intro h
      cases v <;> simp only [decode, reduceCtorEq] at h
      obtain ⟨other, hother, rfl⟩ := map_eq_ok_iff.mp h
      obtain ⟨rfl, found, halive, hclass⟩ := reference_eq_ok_iff.mp hother
      exact .object halive hclass
    · intro h
      cases h with
      | object halive hclass =>
        rw [decode, map_eq_ok_iff]
        exact ⟨_, reference_eq_ok_iff.mpr ⟨rfl, _, halive, hclass⟩, rfl⟩
  | typedArray element =>
    constructor
    · intro h
      cases v <;> simp only [decode, reduceCtorEq] at h
      split at h
      · next array harray =>
        obtain ⟨htyping, rfl⟩ := withTyping_eq_ok_iff.mp harray
        obtain rfl := Except.ok.inj h
        simp only at htyping
        subst htyping
        exact .typedArray _ _
      · cases h
    · intro h
      cases h with
      | typedArray items => simp [decode, VariantArray.withTyping]
  | option inner ih =>
    rw [decode_option]
    constructor
    · intro h
      split at h
      · next hnil =>
        obtain rfl := isNil_iff.mp hnil
        obtain rfl := Except.ok.inj h
        exact .absent inner
      · next hv =>
        obtain ⟨y, hy, rfl⟩ := map_eq_ok_iff.mp h
        exact .present (fun hnil => hv (isNil_iff.mpr hnil)) (ih.mp hy)
    · intro h
      cases h with
      | absent => rfl
      | present hv hinner =>
        rw [if_neg (fun hnil => hv (isNil_iff.mp hnil)), map_eq_ok_iff]
        exact ⟨_, ih.mpr hinner, rfl⟩

theorem Converts.unique {type : HostType} {y : HostValue} (hx : Converts view type v x)
    (hy : Converts view type v y) : x = y :=
  Except.ok.inj ((decode_eq_ok_iff.mpr hx).symm.trans (decode_eq_ok_iff.mpr hy))

/-- What a variant carries of an object lives. -/
theorem Converts.classOf?_ne_none {type : HostType} (h : Converts view type v x)
    {handle : ObjectHandle} (hx : x.object? = some handle) : view.classOf? handle ≠ none := by
  induction h with
  | object halive _ =>
    obtain rfl := Option.some.inj hx
    rw [halive]
    exact Option.some_ne_none _
  | present _ _ ih => exact ih hx
  | _ => cases hx

/-! ## Encoding -/

/-- Whether decoding a type loses nothing.  What a typed array holds is not decoded. -/
def IsExact : HostType → Prop
  | primitive .float32 => False
  | option inner => inner.IsExact
  | _ => True

/-! ## From variants to values and back -/

theorem encode_of_converts {view : ObjectView} {type : HostType} {v : Variant} {x : HostValue}
    (h : Converts view type v x) (hexact : type.IsExact) : x.encode = v := by
  induction h with
  | bool b => rfl
  | integer hleast hgreatest => exact congrArg Variant.int (Int64.ofInt_toInt _)
  | float64 bits => rfl
  | float32 bits => exact hexact.elim
  | builtin v => rfl
  | variant v => rfl
  | enumeration hcase hnumber => exact congrArg Variant.int (Int64.ofInt_toInt _)
  | object halive hclass => rfl
  | typedArray element items => rfl
  | absent inner => rfl
  | present hv hinner ih => exact ih hexact

/-- Encoding undoes decoding. -/
theorem encode_of_decode {view : ObjectView} {type : HostType} (hexact : type.IsExact)
    {v : Variant} {x : HostValue} (h : type.decode view v = .ok x) : x.encode = v :=
  encode_of_converts (decode_eq_ok_iff.mp h) hexact

/-- A number that is rounded by itself comes back as it was from an array. -/
theorem encode_of_decode_optional :
    (HostValue.present (.integer 200)).encode = .int 200 ∧
      (HostValue.present (.typedArray ⟨[.float 7], some ⟨.float, none⟩⟩)).encode =
        .array [.float 7] (some ⟨.float, none⟩) := by
  let view : ObjectView := ⟨fun _ => none, fun _ _ => false⟩
  let small : HostType := .option (.primitive (.integer .u8))
  let array : HostType := .option (.typedArray (.primitive .float32))
  have hsmall : small.decode view (.int 200) = .ok (.present (.integer 200)) := by rfl
  have harray : array.decode view (.array [.float 7] (some ⟨.float, none⟩)) =
      .ok (.present (.typedArray ⟨[.float 7], some ⟨.float, none⟩⟩)) := by rfl
  have hexact : small.IsExact ∧ array.IsExact := ⟨trivial, trivial⟩
  exact ⟨encode_of_decode hexact.1 hsmall, encode_of_decode hexact.2 harray⟩

/-! ## From integers to variants and back -/

theorem i64_bounds : IntegerType.i64.least = -9223372036854775808 ∧
    IntegerType.i64.greatest = 9223372036854775807 := by
  decide

theorem u64_bounds : IntegerType.u64.least = 0 ∧
    IntegerType.u64.greatest = 18446744073709551615 := by
  decide

theorem i64_least_le (type : IntegerType) : IntegerType.i64.least ≤ type.least := by
  cases type <;> decide

/-- All integer types but one are within the signed numbers of 64 bits. -/
theorem greatest_le_i64 {type : IntegerType} (h : type ≠ .u64) :
    type.greatest ≤ IntegerType.i64.greatest := by
  cases type with
  | u64 => exact absurd rfl h
  | _ => decide

theorem toInt_ofInt_of_le_greatest {n : Int} (hleast : IntegerType.i64.least ≤ n)
    (hgreatest : n ≤ IntegerType.i64.greatest) : (Int64.ofInt n).toInt = n := by
  rw [i64_bounds.1] at hleast
  rw [i64_bounds.2] at hgreatest
  exact Int64.toInt_ofInt_of_le hleast (Int.lt_add_one_of_le hgreatest)

/-- A number beyond the signed ones of 64 bits loses the power of two of these bits. -/
theorem toInt_ofInt_of_greatest_lt {n : Int} (hmore : IntegerType.i64.greatest < n)
    (hgreatest : n ≤ IntegerType.u64.greatest) :
    (Int64.ofInt n).toInt = n - 18446744073709551616 := by
  rw [i64_bounds.2] at hmore
  rw [u64_bounds.2] at hgreatest
  have hsize : ((Int64.size : Nat) : Int) = 18446744073709551616 := by decide
  rw [Int64.toInt_ofInt, Int.bmod_def, hsize]
  split <;> omega

section Integers

variable {view : ObjectView} {type : IntegerType} {x : Int}

theorem decode_integer (n : Int64) : (primitive (.integer type)).decode view (.int n) =
    if type.least ≤ n.toInt ∧ n.toInt ≤ type.greatest then .ok (.integer n.toInt)
    else .error (.outOfRange n.toInt type) := by
  simp only [decode, decodePrimitive, IntegerType.contains, Bool.and_eq_true, decide_eq_true_eq]

theorem decode_encode_of_le (hleast : type.least ≤ x) (hgreatest : x ≤ type.greatest)
    (hsigned : x ≤ IntegerType.i64.greatest) :
    (primitive (.integer type)).decode view (HostValue.integer x).encode = .ok (.integer x) := by
  have htoInt := toInt_ofInt_of_le_greatest (Int.le_trans (i64_least_le type) hleast) hsigned
  rw [HostValue.encode, decode_integer, htoInt, if_pos ⟨hleast, hgreatest⟩]

/-- The upper half of `u64` has no numbers of its own in a variant. -/
theorem decode_encode_of_lt (hgreatest : x ≤ IntegerType.u64.greatest)
    (hmore : IntegerType.i64.greatest < x) :
    (primitive (.integer .u64)).decode view (HostValue.integer x).encode =
      .error (.outOfRange (x - 18446744073709551616) .u64) := by
  have htoInt := toInt_ofInt_of_greatest_lt hmore hgreatest
  have hnegative : ¬(IntegerType.u64.least ≤ x - 18446744073709551616 ∧
      x - 18446744073709551616 ≤ IntegerType.u64.greatest) := by
    rw [u64_bounds.1, u64_bounds.2] at *
    omega
  rw [HostValue.encode, decode_integer, htoInt, if_neg hnegative]

end Integers

/-- An integer type takes just the numbers of its range.  Its own values come back from a variant as
they were, but for those of `u64` beyond the signed numbers, which are refused. -/
theorem decode_encode_integer (view : ObjectView) (type : IntegerType) :
    (∀ n : Int64, (∃ x, (primitive (.integer type)).decode view (.int n) = .ok x) ↔
      type.least ≤ n.toInt ∧ n.toInt ≤ type.greatest) ∧
    ∀ x, type.least ≤ x → x ≤ type.greatest →
      (type ≠ .u64 ∨ x ≤ IntegerType.i64.greatest →
        (primitive (.integer type)).decode view (HostValue.integer x).encode =
          .ok (.integer x)) ∧
      (IntegerType.i64.greatest < x →
        (primitive (.integer type)).decode view (HostValue.integer x).encode =
          .error (.outOfRange (x - 18446744073709551616) type)) := by
  refine ⟨fun n => ?_, fun x hleast hgreatest => ⟨fun h => ?_, fun hmore => ?_⟩⟩
  · rw [decode_integer]
    split
    · next hrange => exact ⟨fun _ => hrange, fun _ => ⟨_, rfl⟩⟩
    · next hrange => exact ⟨fun ⟨_, hok⟩ => (nomatch hok), fun h => absurd h hrange⟩
  · have hsigned : x ≤ IntegerType.i64.greatest := by
      rcases h with hne | hsigned
      · exact Int.le_trans hgreatest (greatest_le_i64 hne)
      · exact hsigned
    exact decode_encode_of_le hleast hgreatest hsigned
  · by_cases htype : type = .u64
    · subst htype
      exact decode_encode_of_lt hgreatest hmore
    · have hsigned := Int.le_trans hgreatest (greatest_le_i64 htype)
      omega

/-- The greatest signed number comes back, and the next one does not. -/
theorem decode_encode_integer_at_limit :
    let view : ObjectView := ⟨fun _ => none, fun _ _ => false⟩
    (primitive (.integer .u64)).decode view (HostValue.integer 9223372036854775807).encode =
        .ok (.integer 9223372036854775807) ∧
      (primitive (.integer .u64)).decode view (HostValue.integer 9223372036854775808).encode =
        .error (.outOfRange (-9223372036854775808) .u64) := by
  intro view
  have h := (decode_encode_integer view .u64).2
  exact ⟨(h 9223372036854775807 (by decide) (by decide)).1 (.inr (by decide)),
    (h 9223372036854775808 (by decide) (by decide)).2 (by decide)⟩

theorem not_decode_encode_integer :
    ¬∀ (view : ObjectView) (type : IntegerType) (x : Int), type.least ≤ x → x ≤ type.greatest →
      (primitive (.integer type)).decode view (HostValue.integer x).encode = .ok (.integer x) := by
  intro h
  have hok := h ⟨fun _ => none, fun _ _ => false⟩ .u64 9223372036854775808 (by decide)
    (by decide)
  rw [decode_encode_of_lt (by decide) (by decide)] at hok
  cases hok

end HostType

end EngineBindings
