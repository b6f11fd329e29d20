import EngineBindings.Proofs.Bindings.BuiltinItems
import EngineBindings.Proofs.Bindings.ConstantValues

/-!
# Constants of integer vectors

A builtin type gets a trait if it gets one without its constants, and these have identifiers for
their names (`BuiltinUnit.exists_ofBuiltin_iff`): no step that makes an item fails for the names
that constants take.  `BuiltinUnit.vectorConstants_iff` reads the constants of integer vectors off
the generated code: those with numbers of 32 bits that are not the least one have these for
components, in order, and others have nothing.
-/

namespace EngineBindings

namespace BuiltinUnit

open Code Component

variable {m : TypeMap} {b : Builtin} {c : BuiltinConstant} {fields : List String} {ns : List Int}

/-! ## Constants among the items -/

open Reserving

/-- Whether an item is a constant. -/
def isConstant : BuiltinItem → Bool
  | .constant _ _ => true
  | _ => false

/-- What becomes of a constant: nothing where its value is no call with components, and otherwise an
item with these, under the name of the constant or that name with a number. -/
inductive Becomes (b : Builtin) (c : BuiltinConstant) : List BuiltinItem → Prop
  | nothing (h : constantValues? b c = none) : Becomes b c []
  | item {values : List (String × Component)} {name ident : String}
    (hvalues : constantValues? b c = some values) (hname : name = c.name ∨ name = numbered c.name 0)
    (hident : Naming.ident name = .ok ident) : Becomes b c [.constant ident values]

/-- Whether the constants among some items are what becomes of some constants in turn. -/
def Holds (b : Builtin) (cs : List BuiltinConstant) (items : List BuiltinItem) : Prop :=
  ∃ pieces, List.Forall₂ (Becomes b) cs pieces ∧ items.filter isConstant = pieces.flatten

theorem Holds.append {cs cs' : List BuiltinConstant} {items items' : List BuiltinItem}
    (h : Holds b cs items) (h' : Holds b cs' items') : Holds b (cs ++ cs') (items ++ items') := by
  obtain ⟨pieces, hpieces, hitems⟩ := h
  obtain ⟨pieces', hpieces', hitems'⟩ := h'
  refine ⟨pieces ++ pieces', List.rel_append hpieces hpieces', ?_⟩
  rw [List.filter_append, hitems, hitems', List.flatten_append]

theorem holds_inTurn : InTurn fun cs _ items _ => Holds b cs items where
  nil _ := ⟨[], .nil, rfl⟩
  append := Holds.append

theorem holds_of_functions {items : List BuiltinItem}
    (h : ∀ item ∈ items, isConstant item = false) : Holds b [] items :=
  ⟨[], .nil, List.filter_eq_nil_iff.mpr fun item hitem =>
    Bool.eq_false_iff.mp (h item hitem)⟩

theorem ensures_nothing : Ensures (pure []) fun _ items _ => Holds b [] items :=
  ensures_pure fun _ => holds_of_functions (List.forall_mem_nil _)

theorem ensures_function {item : BuiltinItem} (h : isConstant item = false) :
    Ensures (pure [item]) fun _ items _ => Holds b [] items :=
  ensures_pure fun _ => holds_of_functions (List.forall_mem_singleton.mpr h)

theorem holds_constantItem (c : BuiltinConstant) :
    Ensures (constantItem b c) fun _ items _ => Holds b [c] items := by
  intro taken items later h
  suffices hbecomes : Becomes b c items by
    refine ⟨[items], .cons hbecomes .nil, ?_⟩
    cases hbecomes <;> rfl
  unfold constantItem at h
  split at h
  · next hnone =>
    obtain ⟨rfl, -⟩ := run_pure_eq_ok_iff.mp h
    exact .nothing hnone
  · next values hvalues =>
    obtain ⟨name, mid, hreserve, h⟩ := run_bind_eq_ok_iff.mp h
    obtain ⟨ident, _, hlift, h⟩ := run_bind_eq_ok_iff.mp h
    obtain ⟨hident, -⟩ := run_lift_eq_ok_iff.mp hlift
    obtain ⟨rfl, -⟩ := run_pure_eq_ok_iff.mp h
    exact .item hvalues (eq_or_eq_of_run_reserve hreserve) hident

theorem holds_constructorItem (c : Constructor) :
    Ensures (constructorItem m b c) fun _ items _ => Holds b [] items := by
  unfold constructorItem
  split
  · exact ensures_nothing
  · exact .bind fun _ => .bind_lift fun _ _ => .bind_lift fun _ _ => ensures_function rfl

theorem holds_operatorItem (o : BuiltinOperator) (n : Nat) :
    Ensures (operatorItem m b o n) fun _ items _ => Holds b [] items := by
  unfold operatorItem
  split
  · refine .bind_lift fun type? _ => ?_
    cases type? with
    | none => exact ensures_nothing
    | some type => exact .bind fun _ => .bind_lift fun _ _ => ensures_function rfl
  · split
    · exact ensures_nothing
    refine .bind_lift fun rightType? _ => ?_
    cases rightType? with
    | none => exact ensures_nothing
    | some rightType =>
    refine .bind_lift fun type? _ => ?_
    cases type? with
    | none => exact ensures_nothing
    | some type => exact .bind fun _ => .bind_lift fun _ _ => ensures_function rfl

theorem holds_operatorItems (os : List BuiltinOperator) (n : Nat) :
    Ensures (operatorItems m b n os) fun _ items _ => Holds b [] items := by
  induction os generalizing n with
  | nil => exact ensures_nothing
  | cons o rest ih => exact Ensures.inTurn holds_inTurn (holds_operatorItem o n) (ih (n + 1))

theorem holds_namedItems :
    Ensures (namedItems m b) fun _ items _ => Holds b b.constants items := by
  have hconstants := Ensures.mapM holds_inTurn (holds_constantItem (b := b)) b.constants
  have hconstructors :=
    Ensures.mapM holds_inTurn (holds_constructorItem (m := m) (b := b)) b.constructors
  have hnone : (b.constructors.flatMap fun _ => ([] : List BuiltinConstant)) = [] :=
    List.flatMap_eq_nil_iff.mpr fun _ _ => rfl
  rw [List.flatMap_singleton'] at hconstants
  rw [hnone] at hconstructors
  have hfunctions : Ensures (functionItems m b) fun _ items _ => Holds b [] items := by
    unfold functionItems
    split
    · exact ensures_nothing
    · exact Ensures.inTurn holds_inTurn hconstructors (holds_operatorItems b.operators 0)
  have hall := Ensures.inTurn holds_inTurn hconstants hfunctions
  rw [List.append_nil] at hall
  rw [namedItems_eq]
  exact hall

/-- The constants of a unit are what becomes of the constants of the type, in their order. -/
theorem holds_of_ofBuiltin {u : BuiltinUnit} (h : ofBuiltin m b = .ok (some u)) :
    Holds b b.constants u.items := by
  obtain ⟨-, _, _, items, later, methods, -, -, hrun, hmethods, rfl⟩ := ofBuiltin_eq_some_iff.mp h
  have hfunctions : ∀ item ∈ methods, isConstant item = false := by
    intro item hitem
    obtain ⟨method, -, hmethod⟩ := exists_of_mem_mapM hmethods hitem
    obtain ⟨_, -, hmethod⟩ := bind_eq_ok_iff.mp hmethod
    obtain ⟨_, -, hmethod⟩ := bind_eq_ok_iff.mp hmethod
    obtain ⟨_, -, hmethod⟩ := bind_eq_ok_iff.mp hmethod
    obtain rfl := Except.ok.inj hmethod
    rfl
  have hall := (holds_namedItems _ _ _ hrun).append (holds_of_functions hfunctions)
  rwa [List.append_nil] at hall

/-! ## When a type gets a trait -/

theorem hasIdent_numbered_iff {base : String} {n : Nat} :
    Naming.HasIdent (numbered base n) ↔ Naming.HasIdent base := by
  have hchars : (numbered base n).toList = base.toList ++ '_' :: (toString n).toList := by
    rw [numbered, String.toList_append, String.toList_append, List.append_assoc]
    rfl
  have hdigits : Naming.IsSpellable (toString n) := Naming.isSpellable_toString
  constructor
  · rintro ⟨htail, hstarts⟩
    rw [hchars] at hstarts
    refine ⟨fun c hc => htail c (hchars ▸ List.mem_append_left _ hc), fun c hc => hstarts c ?_⟩
    rw [List.head?_append, Option.mem_def.mp hc, Option.some_or]
    rfl
  · rintro ⟨htail, hstarts⟩
    refine ⟨(htail.append (by decide)).append hdigits, fun c hc => ?_⟩
    rw [hchars, List.head?_append] at hc
    cases hbase : base.toList.head? with
    | none =>
      rw [hbase, Option.none_or] at hc
      obtain rfl := Option.some.inj hc
      exact .inl (by decide)
    | some d =>
      rw [hbase, Option.some_or] at hc
      exact hstarts c (hbase.trans hc)

theorem succeedsIff_reserve {base : String} {n : Nat} {p : Prop}
    {make : String → Reserving (List BuiltinItem)}
    (h : ∀ name, name = base ∨ name = numbered base n → SucceedsIff (make name) p) :
    SucceedsIff (reserve base n >>= make) p := by
  have hreserve : SucceedsIff (reserve base n) True := fun taken =>
    iff_of_true ⟨_, _, run_reserve base n taken⟩ trivial
  have hmake : ∀ taken name later, (reserve base n).run taken = .ok (name, later) →
      SucceedsIff (make name) p := fun _ name _ hrun => h name (eq_or_eq_of_run_reserve hrun)
  exact (hreserve.bind hmake).congr (and_iff_right trivial)

/-- An item that takes its identifier from its name is made just if the base of its name has one. -/
theorem succeedsIff_named {base : String} {n : Nat} {item : String → BuiltinItem} :
    SucceedsIff (reserve base n >>= fun name => do return [item (← Naming.ident name)])
      (Naming.HasIdent base) := by
  refine succeedsIff_reserve fun name hname => ?_
  refine ((succeedsIff_lift _).bind fun _ _ _ _ => succeedsIff_pure _).congr ?_
  rw [and_true, Naming.exists_ident_iff]
  rcases hname with rfl | rfl
  · exact Iff.rfl
  · exact hasIdent_numbered_iff

theorem succeedsIff_constantItem (c : BuiltinConstant) :
    SucceedsIff (constantItem b c)
      ((constantValues? b c).isSome = true → Naming.HasIdent c.name) := by
  unfold constantItem
  cases constantValues? b c with
  | none => exact (succeedsIff_pure []).congr (iff_of_true trivial nofun)
  | some values => exact succeedsIff_named.congr (imp_iff_right rfl).symm

theorem exists_succeedsIff_constructorItem (c : Constructor) :
    ∃ p, SucceedsIff (constructorItem m b c) p := by
  unfold constructorItem
  split
  · exact ⟨True, succeedsIff_pure []⟩
  refine ⟨(∃ params, m.mapParams b.name "" c.params = .ok params) ∧
    Naming.HasIdent (constructorName c), succeedsIff_reserve fun name hname => ?_⟩
  refine ((succeedsIff_lift _).bind fun _ _ _ _ =>
    (succeedsIff_lift _).bind fun _ _ _ _ => succeedsIff_pure _).congr ?_
  rw [and_true, Naming.exists_ident_iff, exists_congr fun _ => TypeMap.mapParams_eq_ok_iff]
  rcases hname with rfl | rfl
  · exact Iff.rfl
  · rw [hasIdent_numbered_iff]

theorem exists_succeedsIff_operatorItem (o : BuiltinOperator) (n : Nat) :
    ∃ p, SucceedsIff (operatorItem m b o n) p := by
  unfold operatorItem
  split
  · refine exists_succeedsIff_bind_lift fun type? _ => ?_
    cases type? with
    | none => exact ⟨True, succeedsIff_pure []⟩
    | some type => exact ⟨_, succeedsIff_named⟩
  · split
    · exact ⟨True, succeedsIff_pure []⟩
    refine exists_succeedsIff_bind_lift fun rightType? _ => ?_
    cases rightType? with
    | none => exact ⟨True, succeedsIff_pure []⟩
    | some rightType =>
    refine exists_succeedsIff_bind_lift fun type? _ => ?_
    cases type? with
    | none => exact ⟨True, succeedsIff_pure []⟩
    | some type => exact ⟨_, succeedsIff_named⟩

theorem exists_succeedsIff_operatorItems (os : List BuiltinOperator) (n : Nat) :
    ∃ p, SucceedsIff (operatorItems m b n os) p := by
  induction os generalizing n with
  | nil => exact ⟨True, succeedsIff_pure []⟩
  | cons o rest ih =>
    obtain ⟨p, hp⟩ := exists_succeedsIff_operatorItem o n
    obtain ⟨q, hq⟩ := ih (n + 1)
    exact ⟨p ∧ q, hp.inTurn hq⟩

theorem exists_succeedsIff_functionItems : ∃ p, SucceedsIff (functionItems m b) p := by
  unfold functionItems
  split
  · exact ⟨True, succeedsIff_pure []⟩
  obtain ⟨q, hq⟩ := exists_succeedsIff_operatorItems (m := m) (b := b) b.operators 0
  choose p hp using exists_succeedsIff_constructorItem (m := m) (b := b)
  exact ⟨_, (SucceedsIff.mapM fun c _ => hp c).inTurn hq⟩

/-- A type without its constants. -/
def withoutConstants (b : Builtin) : Builtin :=
  { b with constants := [] }

theorem functionItems_withoutConstants :
    functionItems m (withoutConstants b) = functionItems m b := by
  have hoperators (os : List BuiltinOperator) (n : Nat) :
      operatorItems m (withoutConstants b) n os = operatorItems m b n os := by
    induction os generalizing n with
    | nil => rfl
    | cons o rest ih =>
      rw [operatorItems, operatorItems, ih]
      rfl
  unfold functionItems
  rw [hoperators]
  rfl

/-- A type gets a trait just if it gets one without its constants, and those of them that have
components have identifiers for their names. -/
theorem exists_ofBuiltin_iff :
    (∃ u, ofBuiltin m b = .ok (some u)) ↔
      (∃ u, ofBuiltin m (withoutConstants b) = .ok (some u)) ∧
        ∀ c ∈ b.constants, (constantValues? b c).isSome = true → Naming.HasIdent c.name := by
  obtain ⟨p, hp⟩ := exists_succeedsIff_functionItems (m := m) (b := b)
  have hnamed : SucceedsIff (namedItems m b) ((∀ c ∈ b.constants,
      (constantValues? b c).isSome = true → Naming.HasIdent c.name) ∧ p) := by
    rw [namedItems_eq]
    exact (SucceedsIff.mapM fun c _ => succeedsIff_constantItem c).inTurn hp
  have hothers : SucceedsIff (namedItems m (withoutConstants b)) p := by
    rw [namedItems_eq, functionItems_withoutConstants]
    exact ((succeedsIff_pure []).inTurn hp).congr (and_iff_right trivial)
  constructor
  · rintro ⟨u, hu⟩
    obtain ⟨hhas, _, _, items, later, _, htrait, hreceiver, hrun, hmethods, -⟩ :=
      ofBuiltin_eq_some_iff.mp hu
    obtain ⟨hconstants, hrest⟩ := (hnamed _).mp ⟨items, later, hrun⟩
    obtain ⟨items', later', hrun'⟩ := (hothers (methodNames b)).mpr hrest
    exact ⟨⟨_, ofBuiltin_eq_some_iff.mpr
      ⟨hhas, _, _, _, _, _, htrait, hreceiver, hrun', hmethods, rfl⟩⟩, hconstants⟩
  · rintro ⟨⟨u, hu⟩, hconstants⟩
    obtain ⟨hhas, _, _, items, later, _, htrait, hreceiver, hrun, hmethods, -⟩ :=
      ofBuiltin_eq_some_iff.mp hu
    obtain ⟨items', later', hrun'⟩ :=
      (hnamed (methodNames b)).mpr ⟨hconstants, (hothers _).mp ⟨items, later, hrun⟩⟩
    exact ⟨_, ofBuiltin_eq_some_iff.mpr
      ⟨hhas, _, _, _, _, _, htrait, hreceiver, hrun', hmethods, rfl⟩⟩

/-! ## Constants in code -/

/-- A field of a value that is a number: its name and the number. -/
def field? : Code → Option (String × Int)
  | .word name :: .mark ':' :: value => (integer? "" value).map fun n => (name, n)
  | _ => none

/-- A constant of the type itself whose fields are numbers: its name and its fields. -/
def constantFields? : Code → Option (String × List (String × Int))
  | .word "const" :: .word name :: .mark ':' :: .word "Self" :: .mark '=' :: .word "Self" ::
      .group .brace values :: .mark ';' :: _ =>
    ((entries values).mapM field?).map fun fields => (name, fields)
  | _ => none

theorem constantFields?_readsAt : ReadsAt constantFields? ["const"] := by
  intro c found h
  unfold constantFields? at h
  split at h
  · exact ⟨_, List.mem_cons_self, rfl⟩
  · cases h

/-- The text between a field and its value. -/
def fieldTexts : TextTable where
  entries := [(":", [.inr ':'])]
  reads := by decide +kernel

theorem integer?_code {v : Component} (h : v.isWhole = true) :
    integer? "" v.code = some v.number := by
  cases v with
  | whole minus n =>
    cases minus with
    | false => exact integer?_numeral n ""
    | true =>
      have hminus : (whole true n).code = .mark '-' :: Marshal.numeral n "" := rfl
      rw [hminus, integer?, integer?_numeral, Option.map_some]
      rfl
  | _ => cases h

theorem field?_code (name : String) {v : Component} (h : v.isWhole = true) :
    field? (word name ++ fixed ":" ++ v.code) = some (name, v.number) := by
  have hcolon : fixed ":" = [.mark ':'] := fieldTexts.fixed_eq [.inr ':'] rfl
  rw [hcolon]
  exact congrArg (Option.map fun n => (name, n)) (integer?_code h)

theorem isEntry_field (name : String) {v : Component} (h : v.isWhole = true) :
    IsEntry (word name ++ fixed ":" ++ v.code) := by
  have hcolon : fixed ":" = [.mark ':'] := fieldTexts.fixed_eq [.inr ':'] rfl
  have hvalue : ∀ token ∈ v.code, isComma token = false := by
    cases v with
    | whole minus n =>
      have hsigns : ∀ token ∈ minusSign minus ++ (if n < 0 then [.mark '-'] else []),
          isComma token = false := by
        cases minus <;> split <;> simp [minusSign, isComma]
      have hcode : (whole minus n).code = minusSign minus ++ (if n < 0 then [.mark '-'] else []) ++
          word (toString n.natAbs ++ "") := by
        rw [Component.code, Marshal.numeral, List.append_assoc]
      rw [hcode]
      exact List.forall_mem_append.mpr ⟨hsigns, List.forall_mem_singleton.mpr rfl⟩
    | _ => cases h
  rw [hcolon]
  exact ⟨List.cons_ne_nil _ _,
    List.forall_mem_cons.mpr ⟨rfl, List.forall_mem_cons.mpr ⟨rfl, hvalue⟩⟩⟩

/-- What is read off the code of an item: the fields of a constant. -/
def fieldsOf : BuiltinItem → List (String × List (String × Int))
  | .constant ident values => [(ident, values.map fun v => (v.1, v.2.number))]
  | _ => []

theorem yields_constant (u : BuiltinUnit) {ident : String} {values : List (String × Component)}
    (hident : ident ∉ Text.keywords) (hwhole : ∀ v ∈ values, v.2.isWhole = true) :
    Yields constantFields? (head (.constant ident values) ++ u.definition (.constant ident values))
      (fieldsOf (.constant ident values)) := by
  have hself : fixed ": Self" = [.mark ':', .word "Self"] :=
    itemTexts.fixed_eq [.inr ':', .inl "Self"] rfl
  have hvalue : fixed "= Self" = [.mark '=', .word "Self"] :=
    itemTexts.fixed_eq [.inr '=', .inl "Self"] rfl
  have hend : fixed ";" = [.mark ';'] := itemTexts.fixed_eq [.inr ';'] rfl
  let fields := values.map fun v => word v.1 ++ fixed ":" ++ v.2.code
  have hcode : head (.constant ident values) ++ u.definition (.constant ident values) =
      .word "const" :: .word ident :: [.mark ':', .word "Self", .mark '=', .word "Self",
        .group .brace (commas fields), .mark ';'] := by
    rw [head, definition, fixed_const, hself, hvalue, hend]
    rfl
  have hentries : entries (commas fields) = fields :=
    entries_commas (List.forall_mem_map.mpr fun v hv => isEntry_field v.1 (hwhole v hv))
  have hfields : fields.mapM field? = some (values.map fun v => (v.1, v.2.number)) := by
    rw [mapM_eq_some_iff, List.map_map, List.map_map]
    exact List.map_congr_left fun v hv => field?_code v.1 (hwhole v hv)
  have hrest : "const" ∉ words (.word ident :: [.mark ':', .word "Self", .mark '=', .word "Self",
      .group .brace (commas fields), .mark ';']) := by
    have hwords : words (.word ident :: [.mark ':', .word "Self", .mark '=', .word "Self",
        .group .brace (commas fields), .mark ';']) = [ident, "Self", "Self"] := rfl
    rw [hwords, List.mem_cons, not_or]
    exact ⟨fun h => hident (h ▸ by decide), by decide⟩
  rw [hcode]
  refine Yields.cons (Yields.of_notMem_words constantFields?_readsAt hrest) fun rest => ?_
  have hfound : constantFields? (.word "const" :: .word ident :: .mark ':' :: .word "Self" ::
      .mark '=' :: .word "Self" :: .group .brace (commas fields) :: .mark ';' :: rest) =
        some (ident, values.map fun v => (v.1, v.2.number)) := by
    rw [constantFields?, hentries, hfields, Option.map_some]
  exact hfound

theorem yields_function (u : BuiltinUnit) {item : BuiltinItem} {name : String}
    (hdeclares : Declares name item) (h : isConstant item = false) :
    Yields constantFields? (head item ++ u.definition item) (fieldsOf item) := by
  obtain ⟨rest, hhead, hrest⟩ := head_eq hdeclares
  have hkeyword : item.keyword = "fn" ∧ fieldsOf item = [] := by
    cases item with
    | constant ident values => cases h
    | _ => exact ⟨rfl, rfl⟩
  have hident : item.ident ≠ "const" := fun heq =>
    Naming.notMem_keywords_of_ident hdeclares.ident (heq ▸ by decide)
  have hconst : "const" ∈ itemKeywords := List.mem_cons_self
  rw [hkeyword.2]
  refine Yields.of_notMem_words constantFields?_readsAt fun hmem => ?_
  rw [hhead, hkeyword.1] at hmem
  simp only [words_append, words_word, List.mem_append, List.mem_singleton] at hmem
  rcases hmem with ((hfn | hname) | htail) | hdefinition
  · exact absurd hfn (by decide)
  · exact hident hname.symm
  · exact hrest _ htail hconst
  · exact words_definition u item _ hdefinition hconst

/-- The components of a constant of an integer vector are whole numbers. -/
theorem isWhole_of_becomes (hkind : b.kind.components? = some (fields, .int32))
    {items : List BuiltinItem} (h : Becomes b c items) {ident : String}
    {values : List (String × Component)} (hmem : .constant ident values ∈ items) :
    ∀ v ∈ values, v.2.isWhole = true := by
  cases h with
  | nothing => cases hmem
  | item hvalues =>
    obtain ⟨-, rfl⟩ := BuiltinItem.constant.inj (List.mem_singleton.mp hmem)
    unfold constantValues? at hvalues
    rw [hkind, Option.bind_eq_bind, Option.bind_some] at hvalues
    obtain ⟨⟨callee, args⟩, -, hvalues⟩ := Option.bind_eq_some_iff.mp hvalues
    dsimp only at hvalues
    split at hvalues
    · obtain ⟨vs, hvs, hzip⟩ := Option.bind_eq_some_iff.mp hvalues
      obtain rfl := Option.some.inj hzip
      intro v hv
      have hmap := mapM_eq_some_iff.mp hvs
      have hsome : some v.2 ∈ args.map (ofText? .int32) :=
        hmap ▸ List.mem_map_of_mem (List.of_mem_zip hv).2
      obtain ⟨arg, -, harg⟩ := List.mem_map.mp hsome
      exact isWhole_of_ofText? harg
    · cases hvalues

/-- The constants in the implementation of a trait are those among its items. -/
theorem readAll_constantFields? (hkind : b.kind.components? = some (fields, .int32))
    {u : BuiltinUnit} (h : ofBuiltin m b = .ok (some u)) :
    readAll constantFields? (u.items.flatMap fun item => head item ++ u.definition item) =
      (u.items.filter isConstant).flatMap fieldsOf := by
  obtain ⟨pieces, hpieces, hitems⟩ := holds_of_ofBuiltin h
  have hnamed := exists_declares (ofBuiltin_eq_some h).1
  have hyields : Yields constantFields? (u.items.flatMap fun item => head item ++ u.definition item)
      (u.items.flatMap fieldsOf) := by
    refine Yields.flatMap fun item hitem => ?_
    obtain ⟨name, hdeclares⟩ := hnamed item hitem
    cases hconstant : isConstant item with
    | false => exact yields_function u hdeclares hconstant
    | true =>
      cases item with
      | constant ident values =>
        have hmem : BuiltinItem.constant ident values ∈ pieces.flatten :=
          hitems ▸ List.mem_filter.mpr ⟨hitem, rfl⟩
        obtain ⟨piece, hpiece, hmem⟩ := List.mem_flatten.mp hmem
        obtain ⟨c, -, hbecomes⟩ := exists_of_forall₂ hpieces.flip hpiece
        exact yields_constant u (Naming.notMem_keywords_of_ident hdeclares.ident)
          (isWhole_of_becomes hkind hbecomes hmem)
      | _ => cases hconstant
  rw [hyields.readAll_eq]
  generalize u.items = items
  induction items with
  | nil => rfl
  | cons item items ih =>
    rw [List.flatMap_cons, ih, List.filter_cons]
    cases item <;> rfl

/-- What is found for a constant of an integer vector with numbers in plain form: its components in
order, if all of them are in range, and otherwise nothing. -/
def Finds (b : Builtin) (fields : List String) (c : BuiltinConstant)
    (found : List (String × List (String × Int))) : Prop :=
  ∀ ns, c.IsCall b ns → ns.length = fields.length →
    ((∀ n ∈ ns, InRange n) → ∃ name ident, (name = c.name ∨ name = numbered c.name 0) ∧
      Naming.ident name = .ok ident ∧ found = [(ident, fields.zip ns)]) ∧
    (¬(∀ n ∈ ns, InRange n) → found = [])

theorem finds_of_becomes (hkind : b.kind.components? = some (fields, .int32))
    (hname : b.name = b.kind.engineName) {items : List BuiltinItem} (h : Becomes b c items) :
    Finds b fields c (items.flatMap fieldsOf) := by
  intro ns hcall hlength
  obtain ⟨hwithin, hexceeds⟩ := constantValues?_of_isCall hkind hname hcall hlength
  constructor
  · intro hall
    obtain ⟨values, hvalues, hnumbers⟩ := hwithin hall
    cases h with
    | nothing hnone => cases hnone.symm.trans hvalues
    | @item values' name ident hvalues' hgiven hident =>
      obtain rfl := Option.some.inj (hvalues'.symm.trans hvalues)
      exact ⟨name, ident, hgiven, hident, by rw [← hnumbers]; rfl⟩
  · intro hnot
    cases h with
    | nothing => rfl
    | item hvalues => cases (hexceeds hnot).symm.trans hvalues

/-- No constant keeps a type from getting a trait but by a name without an identifier.  The trait
and its implementation have the same items, with the names that these are given; the constants of
integer vectors that are read off the implementation are in the order of their declaration, with
exactly their components, but for those with a number out of range, of which there is nothing. -/
theorem vectorConstants_iff (m : TypeMap) (hkind : b.kind.components? = some (fields, .int32))
    (hname : b.name = b.kind.engineName) :
    ((∃ u, ofBuiltin m b = .ok (some u)) ↔
      (∃ u, ofBuiltin m (withoutConstants b) = .ok (some u)) ∧
        ∀ c ∈ b.constants, (constantValues? b c).isSome = true → Naming.HasIdent c.name) ∧
    ∀ u, ofBuiltin m b = .ok (some u) →
      ∃ trait impl found, blockAfter? "trait" u.code = some trait ∧
        blockAfter? "impl" u.code = some impl ∧ Code.items impl = Code.items trait ∧
        (itemNames m b).mapM Naming.ident = .ok ((Code.items trait).map Prod.snd) ∧
        readAll constantFields? impl = found.flatten ∧
        List.Forall₂ (Finds b fields) b.constants found := by
  refine ⟨exists_ofBuiltin_iff, fun u hu => ?_⟩
  obtain ⟨trait, htraitBlock, himplBlock, hitems, hidents⟩ := exists_trait_of_ofBuiltin hu
  obtain ⟨pieces, hpieces, hconstants⟩ := holds_of_ofBuiltin hu
  refine ⟨trait, _, pieces.map fun piece => piece.flatMap fieldsOf, htraitBlock, himplBlock, hitems,
    hidents, ?_, ?_⟩
  · rw [readAll_constantFields? hkind hu, hconstants, List.flatMap_def, List.map_flatten,
      List.flatten_flatten, List.map_map]
    rfl
  · rw [List.forall₂_map_right_iff]
    exact hpieces.imp fun c piece => finds_of_becomes hkind hname

/-- A vector of integers with some constants. -/
def integerVector (constants : List BuiltinConstant) : Builtin :=
  { (default : Builtin) with name := "Vector2i", kind := .vector2i, constants }

theorem vectorConstants_iff_left :
    let m : TypeMap := ⟨default, [], "Object"⟩
    let left : BuiltinConstant := ⟨"LEFT", .plain "Vector2i", "Vector2i(-1, 2147483647)"⟩
    let b := integerVector [left]
    b.kind.components? = some (["x", "y"], .int32) ∧ b.name = b.kind.engineName ∧
      left.IsCall b [-1, 2147483647] ∧ (∀ n ∈ [-1, 2147483647], InRange n) ∧
      ∃ u impl ident, ofBuiltin m b = .ok (some u) ∧ blockAfter? "impl" u.code = some impl ∧
        readAll constantFields? impl = [(ident, [("x", -1), ("y", 2147483647)])] := by
  intro m left b
  have hkind : b.kind.components? = some (["x", "y"], .int32) := rfl
  have hname : b.name = b.kind.engineName := rfl
  have hcall : left.IsCall b [-1, 2147483647] :=
    ⟨rfl, ["-1", " 2147483647"], by decide, by decide +kernel⟩
  have hrange : ∀ n ∈ [-1, 2147483647], InRange n := by decide
  obtain ⟨hgenerated, hread⟩ := vectorConstants_iff m hkind hname
  obtain ⟨u, hu⟩ := hgenerated.mpr
    ⟨exists_of_toOption_join (by decide +kernel), by decide +kernel⟩
  obtain ⟨-, impl, found, -, himpl, -, -, hall, hfinds⟩ := hread u hu
  obtain ⟨piece, rest, hfirst, hrest, rfl⟩ := List.forall₂_cons_left_iff.mp hfinds
  obtain rfl := List.forall₂_nil_left_iff.mp hrest
  obtain ⟨-, ident, -, -, rfl⟩ := (hfirst _ hcall rfl).1 hrange
  exact ⟨hkind, hname, hcall, hrange, u, impl, ident, hu, himpl, hall⟩

/-- Of two constants, at the ends of the numbers of 32 bits, only that with the greatest is there:
the sign of the least is taken off before its digits are read. -/
theorem not_vectorConstants :
    let m : TypeMap := ⟨default, [], "Object"⟩
    let least : BuiltinConstant := ⟨"MIN", .plain "Vector2i", "Vector2i(-2147483648, -2147483648)"⟩
    let greatest : BuiltinConstant := ⟨"MAX", .plain "Vector2i", "Vector2i(2147483647, 2147483647)"⟩
    let b := integerVector [least, greatest]
    least.IsCall b [-2147483648, -2147483648] ∧ IntegerType.i32.contains (-2147483648) = true ∧
      ∃ u impl, ofBuiltin m b = .ok (some u) ∧ blockAfter? "impl" u.code = some impl ∧
        readAll constantFields? impl = [("MAX", [("x", 2147483647), ("y", 2147483647)])] := by
  intro m least greatest b
  have hread : (ofBuiltin m b).toOption.join.bind (fun u =>
      (blockAfter? "impl" u.code).map (readAll constantFields?)) =
        some [("MAX", [("x", 2147483647), ("y", 2147483647)])] := by decide +kernel
  obtain ⟨u, hu, hread⟩ := Option.bind_eq_some_iff.mp hread
  obtain ⟨impl, himpl, hgreatest⟩ := Option.map_eq_some_iff.mp hread
  have hunit := toOption_eq_some_iff.mp (Option.join_eq_some_iff.mp hu)
  exact ⟨⟨rfl, ["-2147483648", " -2147483648"], by decide, by decide +kernel⟩, by decide,
    u, impl, hunit, himpl, hgreatest⟩

end BuiltinUnit

end EngineBindings
