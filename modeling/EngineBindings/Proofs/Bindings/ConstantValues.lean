import EngineBindings.Bindings.BuiltinUnit
import EngineBindings.Proofs.Text.Pieces
import EngineBindings.Proofs.Traverse

/-!
# Components of constants

The value of a constant is read as a call of its type with some numbers.  A whole number in plain
form has digits and may have a minus sign, which is kept apart from the digits; so the least number
of 32 bits is no component, for without its sign it is one too great
(`Component.ofText?_of_plainInteger?`).  A constant of an integer vector has components just if
each of its numbers can be one (`BuiltinUnit.constantValues?_of_isCall`).
-/

namespace EngineBindings

/-! ## Whole numbers in plain form -/

/-- The whole number that a text of digits spells, with a minus sign in front or without. -/
def Text.plainInteger? (s : String) : Option Int :=
  match stripLead? "-" s with
  | some rest => (natural? rest).map fun n : Nat => -(n : Int)
  | none => (natural? s).map Int.ofNat

theorem Text.natural?_eq_some_iff {s : String} {n : Nat} :
    natural? s = some n ↔ (s.toList ≠ [] ∧ ∀ c ∈ s.toList, c.isDigit = true) ∧
      Nat.ofDigitChars 10 s.toList 0 = n := by
  rw [natural?]
  split
  · next h => rw [Option.some.injEq, ← List.all_eq_true, and_iff_right h]
  · next h =>
    rw [← List.all_eq_true]
    exact iff_of_false (Option.some_ne_none n).symm fun hs => h hs.1

/-- A text of digits is the number that it spells. -/
theorem Decimal.intOfText?_of_natural? {s : String} {n : Nat} (h : Text.natural? s = some n) :
    intOfText? s = some (n : Int) := by
  obtain ⟨⟨hne, hdigits⟩, hvalue⟩ := Text.natural?_eq_some_iff.mp h
  rw [intOfText?, wholeNumber?]
  generalize s.toList = cs at hne hdigits hvalue
  have hsign : sign cs = (false, cs) := by
    unfold sign
    split
    · exact absurd (hdigits _ List.mem_cons_self) (by decide)
    · exact absurd (hdigits _ List.mem_cons_self) (by decide)
    · rfl
  have hrun : digitRun cs = (cs, []) := by
    rw [digitRun, List.takeWhile_eq_self_iff.mpr hdigits, List.dropWhile_eq_nil_iff.mpr hdigits]
  obtain ⟨c, rest, rfl⟩ := List.exists_cons_of_ne_nil hne
  rw [hsign]
  dsimp only
  rw [hrun, ← hvalue]
  rfl

namespace Component

/-- The number that a whole component is. -/
def number : Component → Int
  | whole minus n => if minus then -n else n
  | _ => 0

/-- Whether a component is a whole number. -/
def isWhole : Component → Bool
  | whole _ _ => true
  | _ => false

theorem isWhole_of_ofText? {s : String} {v : Component} (h : ofText? .int32 s = some v) :
    v.isWhole = true := by
  unfold ofText? at h
  dsimp only at h
  obtain ⟨n, -, h⟩ := Option.bind_eq_some_iff.mp h
  split at h
  · obtain rfl := Option.some.inj h
    rfl
  · cases h

theorem ofWholeText?_of_natural? {s : String} {n : Nat} (h : Text.natural? s = some n)
    (minus : Bool) : ofWholeText? minus s =
      if n ≤ IntegerType.i32.greatest then some (.whole minus n) else none := by
  have hleast : IntegerType.i32.least ≤ n := Int.le_trans (by decide) (Int.natCast_nonneg n)
  rw [ofWholeText?, Decimal.intOfText?_of_natural? h, Option.bind_some, IntegerType.contains,
    decide_eq_true hleast, Bool.true_and]
  simp only [decide_eq_true_eq]

/-- Whether a whole number can be a component: it has 32 bits, and is not the least such number. -/
def InRange (n : Int) : Prop :=
  IntegerType.i32.least < n ∧ n ≤ IntegerType.i32.greatest

instance (n : Int) : Decidable (InRange n) :=
  inferInstanceAs (Decidable (_ ∧ _))

theorem ofText?_of_plainInteger? {s : String} {n : Int} (h : Text.plainInteger? s = some n) :
    (InRange n → ∃ v, ofText? .int32 s = some v ∧ v.number = n) ∧
      (¬InRange n → ofText? .int32 s = none) := by
  obtain ⟨minus, k, hread, hn⟩ : ∃ (minus : Bool) (k : Nat),
      ofText? .int32 s =
          (if k ≤ IntegerType.i32.greatest then some (.whole minus k) else none) ∧
        n = (whole minus k).number := by
    unfold Text.plainInteger? at h
    split at h
    · next rest hrest =>
      obtain ⟨k, hk, rfl⟩ := Option.map_eq_some_iff.mp h
      refine ⟨true, k, ?_, rfl⟩
      rw [← ofWholeText?_of_natural? hk, ofText?, hrest]
    · next hrest =>
      obtain ⟨k, hk, rfl⟩ := Option.map_eq_some_iff.mp h
      refine ⟨false, k, ?_, rfl⟩
      rw [← ofWholeText?_of_natural? hk, ofText?, hrest]
  have hrange : InRange n ↔ k ≤ IntegerType.i32.greatest := by
    have hleast : IntegerType.i32.least = -2147483648 := rfl
    have hgreatest : IntegerType.i32.greatest = 2147483647 := rfl
    rw [hn, InRange, hleast, hgreatest]
    cases minus
    · have hnumber : (whole false k).number = k := rfl
      rw [hnumber]
      omega
    · have hnumber : (whole true k).number = -k := rfl
      rw [hnumber]
      omega
  rw [hrange, hread]
  exact ⟨fun hlt => ⟨_, if_pos hlt, hn.symm⟩, fun hge => if_neg hge⟩

/-- Numbers in plain form are components in order, if all of them are in range. -/
theorem mapM_ofText? {texts : List String} {ns : List Int}
    (h : texts.map Text.plainInteger? = ns.map some) :
    ((∀ n ∈ ns, InRange n) → ∃ vs, texts.mapM (ofText? .int32) = some vs ∧ vs.map number = ns) ∧
      (¬(∀ n ∈ ns, InRange n) → texts.mapM (ofText? .int32) = none) := by
  induction texts generalizing ns with
  | nil =>
    obtain rfl := List.map_eq_nil_iff.mp h.symm
    exact ⟨fun _ => ⟨[], rfl, rfl⟩, fun hnot => absurd (List.forall_mem_nil _) hnot⟩
  | cons s texts ih =>
    cases ns with
    | nil => cases h
    | cons n ns =>
      obtain ⟨hn, hns⟩ := List.cons.inj h
      obtain ⟨hwithin, hexceeds⟩ := ofText?_of_plainInteger? hn
      obtain ⟨hallWithin, hsomeExceeds⟩ := ih hns
      rw [List.forall_mem_cons, List.mapM_cons]
      constructor
      · rintro ⟨hfirst, hrest⟩
        obtain ⟨v, hv, hnumber⟩ := hwithin hfirst
        obtain ⟨vs, hvs, hnumbers⟩ := hallWithin hrest
        refine ⟨v :: vs, ?_, by rw [List.map_cons, hnumber, hnumbers]⟩
        rw [hv, hvs]
        rfl
      · intro hnot
        by_cases hfirst : InRange n
        · obtain ⟨v, hv, -⟩ := hwithin hfirst
          rw [hv, hsomeExceeds fun hrest => hnot ⟨hfirst, hrest⟩]
          rfl
        · rw [hexceeds hfirst]
          rfl

end Component

/-! ## Constructor calls -/

theorem Text.exists_isDigit_of_plainInteger? {s : String} {n : Int}
    (h : plainInteger? s = some n) :
    (∃ c ∈ s.toList, c.isDigit = true) ∧ ∀ c ∈ s.toList, c = '-' ∨ c.isDigit = true := by
  have hdigits {t : String} {k : Nat} (ht : natural? t = some k) :
      (∃ c ∈ t.toList, c.isDigit = true) ∧ ∀ c ∈ t.toList, c.isDigit = true := by
    obtain ⟨⟨hne, hall⟩, -⟩ := natural?_eq_some_iff.mp ht
    obtain ⟨c, hc⟩ := List.exists_mem_of_ne_nil _ hne
    exact ⟨⟨c, hc, hall c hc⟩, hall⟩
  unfold plainInteger? at h
  split at h
  · next rest hrest =>
    obtain ⟨k, hk, -⟩ := Option.map_eq_some_iff.mp h
    obtain ⟨⟨c, hc, hdigit⟩, hall⟩ := hdigits hk
    have hchars : s.toList = '-' :: rest.toList := by
      rw [stripLead?_eq_some_iff.mp hrest, String.toList_append]
      rfl
    rw [hchars]
    exact ⟨⟨c, List.mem_cons_of_mem _ hc, hdigit⟩,
      List.forall_mem_cons.mpr ⟨.inl rfl, fun d hd => .inr (hall d hd)⟩⟩
  · obtain ⟨k, hk, -⟩ := Option.map_eq_some_iff.mp h
    obtain ⟨hexists, hall⟩ := hdigits hk
    exact ⟨hexists, fun c hc => .inr (hall c hc)⟩

theorem Text.isBlank_of_isDigit {c : Char} (h : c.isDigit = true) : isBlank c = false := by
  simp only [Char.isDigit, Bool.and_eq_true, decide_eq_true_eq, ge_iff_le,
    UInt32.le_iff_toNat_le] at h
  obtain ⟨hlow, hhigh⟩ : 48 ≤ c.toNat ∧ c.toNat ≤ 57 := h
  simp [isBlank]
  omega

/-- A call is read where its pieces are put together. -/
theorem constructorCall?_join {callee : String} {pieces : List String}
    (hcallee : '(' ∉ callee.toList) (hne : pieces ≠ []) (hcomma : ∀ s ∈ pieces, ',' ∉ s.toList)
    (hsome : Text.trim (Text.join "," pieces) ≠ "") :
    constructorCall? (callee ++ "(" ++ Text.join "," pieces ++ ")") =
      some (Text.trim callee, pieces.map Text.trim) := by
  have hchars : (callee ++ "(" ++ Text.join "," pieces ++ ")").toList =
      callee.toList ++ '(' :: ((Text.join "," pieces).toList ++ [')']) := by
    simp only [String.toList_append, List.append_assoc]
    rfl
  have hfront : ∀ c ∈ callee.toList, (c != '(') = true := fun c hc =>
    bne_iff_ne.mpr fun heq => hcallee (heq ▸ hc)
  have hargs : (Text.splitChars ',' (Text.join "," pieces).toList).map
      (fun piece => String.ofList (Text.trimChars piece)) = pieces.map Text.trim := by
    have hseparator : ",".toList = [','] := rfl
    have hsplit := Text.splitAt_join hseparator hne hcomma
    conv_rhs => rw [← hsplit, Text.splitAt, List.map_map]
    exact List.map_congr_left fun cs _ => by rw [Function.comp, Text.trim, String.toList_ofList]
  have hinner : (Text.trimChars (Text.join "," pieces).toList).isEmpty = false := by
    refine List.isEmpty_eq_false_iff.mpr fun hnil => hsome ?_
    rw [Text.trim, hnil]
  unfold constructorCall?
  rw [hchars]
  dsimp only
  rw [List.takeWhile_append_of_pos hfront, List.dropWhile_append_of_pos hfront,
    List.takeWhile_cons_of_neg (by decide), List.dropWhile_cons_of_neg (by decide),
    List.append_nil]
  dsimp only
  rw [Text.dropTail?_append, Option.bind_eq_bind, Option.bind_some, hinner, hargs]
  rfl

/-- Whether a constant has a builtin type for its type, and a constructor call of the type with some
whole numbers in plain form for its value. -/
structure BuiltinConstant.IsCall (c : BuiltinConstant) (b : Builtin) (ns : List Int) : Prop where
  type : c.type.name? = some b.hostName
  value : ∃ pieces : List String, c.value = b.name ++ "(" ++ Text.join "," pieces ++ ")" ∧
    (pieces.map Text.trim).map Text.plainInteger? = ns.map some

namespace BuiltinUnit

open Component

variable {b : Builtin} {c : BuiltinConstant} {fields : List String} {ns : List Int}

theorem components?_eq_int32 {kind : VariantKind} (h : kind.components? = some (fields, .int32)) :
    '(' ∉ kind.engineName.toList ∧ Text.trim kind.engineName = kind.engineName ∧ fields ≠ [] := by
  cases kind <;> simp [VariantKind.components?] at h <;> subst h <;>
    exact ⟨by decide +kernel, by decide +kernel, nofun⟩

theorem call?_of_isCall (hkind : b.kind.components? = some (fields, .int32))
    (hname : b.name = b.kind.engineName) (h : c.IsCall b ns) (hlength : ns.length = fields.length) :
    ∃ args, c.call? = some (b.name, args) ∧ args.map Text.plainInteger? = ns.map some := by
  obtain ⟨hparen, htrim, hfields⟩ := components?_eq_int32 hkind
  rw [← hname] at hparen htrim
  obtain ⟨pieces, hvalue, hnumbers⟩ := h.value
  have hpiece : ∀ piece ∈ pieces, ∃ n, Text.plainInteger? (Text.trim piece) = some n := by
    intro piece hpiece
    have hmem : Text.plainInteger? (Text.trim piece) ∈ ns.map some :=
      hnumbers ▸ List.mem_map_of_mem (List.mem_map_of_mem hpiece)
    obtain ⟨n, -, hn⟩ := List.mem_map.mp hmem
    exact ⟨n, hn.symm⟩
  have hne : pieces ≠ [] := by
    rintro rfl
    have hnil : ns = [] := List.map_eq_nil_iff.mp hnumbers.symm
    rw [hnil] at hlength
    exact hfields (List.length_eq_zero_iff.mp hlength.symm)
  have hcomma : ∀ piece ∈ pieces, ',' ∉ piece.toList := by
    intro piece hmem hcomma
    obtain ⟨n, hn⟩ := hpiece piece hmem
    have hblank : Text.isBlank ',' = false := by decide
    have hchar := (Text.exists_isDigit_of_plainInteger? hn).2 _ (Text.mem_trim hcomma hblank)
    exact absurd hchar (by decide)
  have hsome : Text.trim (Text.join "," pieces) ≠ "" := by
    obtain ⟨piece, hmem⟩ := List.exists_mem_of_ne_nil _ hne
    obtain ⟨n, hn⟩ := hpiece piece hmem
    obtain ⟨⟨d, hd, hdigit⟩, -⟩ := Text.exists_isDigit_of_plainInteger? hn
    have hchar : d ∈ (Text.join "," pieces).toList :=
      Text.mem_join_of_mem hmem (Text.mem_of_mem_trim hd)
    have hjoin := Text.mem_trim hchar (Text.isBlank_of_isDigit hdigit)
    intro hempty
    rw [hempty] at hjoin
    cases hjoin
  refine ⟨_, ?_, hnumbers⟩
  rw [BuiltinConstant.call?, hvalue, constructorCall?_join hparen hne hcomma hsome, htrim]

/-- The components of a constant with numbers in plain form are these numbers, if all of them are in
range, and otherwise there are none. -/
theorem constantValues?_of_isCall (hkind : b.kind.components? = some (fields, .int32))
    (hname : b.name = b.kind.engineName) (h : c.IsCall b ns) (hlength : ns.length = fields.length) :
    ((∀ n ∈ ns, InRange n) → ∃ values, constantValues? b c = some values ∧
        values.map (fun v => (v.1, v.2.number)) = fields.zip ns) ∧
      (¬(∀ n ∈ ns, InRange n) → constantValues? b c = none) := by
  obtain ⟨args, hcall, hargs⟩ := call?_of_isCall hkind hname h hlength
  have hcount : args.length = fields.length := by
    rw [← hlength]
    simpa using congrArg List.length hargs
  have hvalues : constantValues? b c =
      (args.mapM (ofText? .int32)).map fun vs => fields.zip vs := by
    unfold constantValues?
    rw [hkind, hcall]
    simp only [h.type, hcount, Option.bind_eq_bind, Option.bind_some, beq_self_eq_true,
      Bool.and_self, if_true]
    rw [Option.map_eq_bind]
    rfl
  obtain ⟨hwithin, hexceeds⟩ := mapM_ofText? hargs
  rw [hvalues]
  constructor
  · intro hall
    obtain ⟨vs, hvs, hnumbers⟩ := hwithin hall
    refine ⟨_, by rw [hvs, Option.map_some], ?_⟩
    rw [← hnumbers, List.zip_map_right]
    rfl
  · intro hnot
    rw [hexceeds hnot, Option.map_none]

end BuiltinUnit

end EngineBindings
