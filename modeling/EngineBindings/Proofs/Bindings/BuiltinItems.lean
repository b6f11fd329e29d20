import EngineBindings.Bindings.BuiltinUnit
import EngineBindings.Proofs.Bindings.Reserving
import EngineBindings.Proofs.Bindings.TypeCode
import Mathlib.Data.List.Induction

/-!
# Names in the trait of a builtin type

Engine methods keep their names, and every other item asks for a base and a number: it is called by
its base, or if that is taken, by the base with the number (`BuiltinUnit.given`).  The number is not
looked up in turn.  `BuiltinUnit.traitItems_nodup_iff` reads the names off the code and says when
they are distinct: no name with a number is in use when it is given, and no name is a keyword that
takes the identifier of another.  The implementation defines what the trait declares either way.
-/

namespace EngineBindings

open Code Reserving

/-! ## Items in code -/

namespace BuiltinItem

/-- The identifier of an item. -/
def ident : BuiltinItem → String
  | .constant ident _ => ident
  | .constructor ident _ _ _ => ident
  | .operator ident _ _ _ _ => ident
  | .method ident _ _ _ => ident

/-- The keyword of an item. -/
def keyword : BuiltinItem → String
  | .constant _ _ => "const"
  | _ => "fn"

/-- The type that an item gives back, other than its own. -/
def returns? : BuiltinItem → Option MarshaledType
  | .constant _ _ => none
  | .constructor _ _ _ _ => none
  | .operator _ _ _ _ returns => some returns
  | .method _ _ _ returns? => returns?

end BuiltinItem

namespace BuiltinUnit

/-- Whether an item has the identifier of a name, and no keyword in the type it gives back. -/
structure Declares (name : String) (item : BuiltinItem) : Prop where
  ident : Naming.ident name = .ok item.ident
  returns : ∀ t, item.returns? = some t → t.code.NoKeywords

/-- The keywords of items. -/
def itemKeywords : List String :=
  ["const", "fn"]

theorem mem_keywords_of_mem_itemKeywords {w : String} (h : w ∈ itemKeywords) :
    w ∈ Text.keywords := by
  revert w
  decide

/-- The texts around the names of items and of traits. -/
def itemTexts : TextTable where
  entries :=
    [("const", [.inl "const"]), ("fn", [.inl "fn"]), ("->", [.inr '-', .inr '>']),
      (": Self", [.inr ':', .inl "Self"]), ("-> Self", [.inr '-', .inr '>', .inl "Self"]),
      ("= Self", [.inr '=', .inl "Self"]), (";", [.inr ';']),
      ("pub trait", [.inl "pub", .inl "trait"]), ("impl", [.inl "impl"]), ("for", [.inl "for"]),
      (": Sized", [.inr ':', .inl "Sized"]),
      ("::gdbind_runtime::",
        [.inr ':', .inr ':', .inl "gdbind_runtime", .inr ':', .inr ':'])]
  reads := by decide +kernel

theorem fixed_const : fixed "const" = word "const" :=
  itemTexts.fixed_eq [.inl "const"] rfl

theorem fixed_fn : fixed "fn" = word "fn" :=
  itemTexts.fixed_eq [.inl "fn"] rfl

theorem words_semicolon : (fixed ";").words = [] :=
  itemTexts.words_fixed [.inr ';'] rfl

variable {name : String} {item : BuiltinItem}

/-- A declaration is a keyword and a name, and then no more keywords of items. -/
theorem head_eq (h : Declares name item) :
    ∃ rest, head item = word item.keyword ++ word item.ident ++ rest ∧
      ∀ w ∈ rest.words, w ∉ itemKeywords := by
  have harrow : (fixed "->").words = [] :=
    itemTexts.words_fixed [.inr '-', .inr '>'] rfl
  cases item with
  | constant ident values =>
    have hself : (fixed ": Self").words = ["Self"] :=
      itemTexts.words_fixed [.inr ':', .inl "Self"] rfl
    exact ⟨fixed ": Self", by rw [head, fixed_const]; rfl, by rw [hself]; decide⟩
  | constructor ident context params body =>
    refine ⟨paren (commas (params.map TypeMap.MappedParam.input)) ++ fixed "-> Self", ?_, ?_⟩
    · rw [head, signature, fixed_fn, List.append_assoc _ (paren _)]
      rfl
    · have hself : (fixed "-> Self").words = ["Self"] :=
        itemTexts.words_fixed [.inr '-', .inr '>', .inl "Self"] rfl
      rw [words_append, words_paren, List.nil_append, hself]
      decide
  | operator ident context operator right? returns =>
    refine ⟨paren (commas (fixed "&self" :: right?.toList.map fun type =>
      fixed "rhs:" ++ type.code)) ++ (fixed "->" ++ returns.code), ?_, fun w hw hkeyword => ?_⟩
    · rw [head, signature, fixed_fn, List.append_assoc _ (paren _)]
      rfl
    · rw [words_append, words_paren, words_append, harrow, List.nil_append,
        List.nil_append] at hw
      exact h.returns returns rfl w hw (mem_keywords_of_mem_itemKeywords hkeyword)
  | method ident engineName params returns? =>
    refine ⟨paren (commas (fixed "&self" :: params.map TypeMap.MappedParam.input)) ++
      TypeMap.output returns?, ?_, fun w hw hkeyword => ?_⟩
    · rw [head, signature, fixed_fn, List.append_assoc _ (paren _)]
      rfl
    · rw [words_append, words_paren, List.nil_append] at hw
      cases returns? with
      | none => cases hw
      | some returns =>
        rw [TypeMap.output, words_append, harrow, List.nil_append] at hw
        exact h.returns returns rfl w hw (mem_keywords_of_mem_itemKeywords hkeyword)

theorem items_head_append (h : Declares name item) (rest : Code) :
    Code.items (head item ++ rest) = (item.keyword, item.ident) :: Code.items rest := by
  obtain ⟨tail, hhead, htail⟩ := head_eq h
  have hident : item.ident ∉ itemKeywords := fun hmem =>
    Naming.notMem_keywords_of_ident h.ident (mem_keywords_of_mem_itemKeywords hmem)
  have hfound : ∀ after, item? (.word item.keyword :: .word item.ident :: after) =
      some (item.keyword, item.ident) := by
    intro after
    cases item <;> rfl
  have hafter : ∀ w ∈ (word item.ident ++ tail).words, w ∉ itemKeywords := by
    intro w hw
    rw [words_append, words_word] at hw
    rcases List.mem_append.mp hw with hw | hw
    · rwa [List.mem_singleton.mp hw]
    · exact htail w hw
  have hskip : Code.items (word item.ident ++ tail ++ rest) = Code.items rest :=
    readAll_append item?_readsAt hafter
  rw [hhead, Code.items, word, List.singleton_append, List.append_assoc, List.cons_append, readAll,
    word, List.singleton_append, hfound]
  exact congrArg _ hskip

/-- The items in the code of declarations, each with something after it. -/
theorem items_flatMap {items : List BuiltinItem} {tail : BuiltinItem → Code}
    (hitems : ∀ item ∈ items, ∃ name, Declares name item)
    (htail : ∀ item, ∀ w ∈ (tail item).words, w ∉ itemKeywords) :
    Code.items (items.flatMap fun item => head item ++ tail item) =
      items.map fun item => (item.keyword, item.ident) := by
  induction items with
  | nil => rfl
  | cons item rest ih =>
    obtain ⟨name, hdeclares⟩ := hitems item List.mem_cons_self
    have hrest := ih fun other hother => hitems other (List.mem_cons_of_mem item hother)
    have hskip : Code.items (tail item ++ rest.flatMap fun item => head item ++ tail item) =
        Code.items (rest.flatMap fun item => head item ++ tail item) :=
      readAll_append item?_readsAt (htail item)
    rw [List.flatMap_cons, List.append_assoc, items_head_append hdeclares, hskip, hrest,
      List.map_cons]

theorem words_definition (u : BuiltinUnit) (item : BuiltinItem) :
    ∀ w ∈ (u.definition item).words, w ∉ itemKeywords := by
  cases item with
  | constant ident values =>
    have hstart : (fixed "= Self").words = ["Self"] :=
      itemTexts.words_fixed [.inr '=', .inl "Self"] rfl
    rw [definition, words_append, words_append, words_brace, words_semicolon, List.append_nil,
      List.append_nil, hstart]
    decide
  | constructor ident context params body => exact fun w hw => (nomatch hw)
  | operator ident context operator right? returns => exact fun w hw => (nomatch hw)
  | method ident engineName params returns? => exact fun w hw => (nomatch hw)

/-! ## Names that are given -/

/-- A base with a number. -/
def numbered (base : String) (n : Nat) : String :=
  base ++ "_" ++ toString n

/-- The names that are given for bases and numbers, in order, where some names are taken. -/
def given : List String → List (String × Nat) → List String
  | _, [] => []
  | taken, (base, n) :: rest =>
    let name := if taken.contains base then numbered base n else base
    name :: given (name :: taken) rest

theorem given_append (taken : List String) (asked asked' : List (String × Nat)) :
    given taken (asked ++ asked') =
      given taken asked ++ given ((given taken asked).reverse ++ taken) asked' := by
  induction asked generalizing taken with
  | nil => rfl
  | cons ask rest ih =>
    rw [List.cons_append, given, given, ih, List.reverse_cons, List.append_assoc,
      List.singleton_append, List.cons_append]

/-- Every name that is given begins with its base. -/
theorem exists_suffix_of_mem_given {taken : List String} {asked : List (String × Nat)} {n : String}
    (h : n ∈ given taken asked) : ∃ ask ∈ asked, ∃ suffix, n = ask.1 ++ suffix := by
  induction asked generalizing taken with
  | nil => cases h
  | cons ask rest ih =>
    rw [given] at h
    rcases List.mem_cons.mp h with rfl | h
    · refine ⟨ask, List.mem_cons_self, ?_⟩
      split
      · exact ⟨"_" ++ toString ask.2, String.append_assoc⟩
      · exact ⟨"", String.append_empty.symm⟩
    · obtain ⟨other, hother, hsuffix⟩ := ih h
      exact ⟨other, List.mem_cons_of_mem ask hother, hsuffix⟩

/-- Whether no name with a number is in use when it is given: neither given before, nor one of the
names that are used beside them. -/
def NumbersFree (taken used : List String) (asked : List (String × Nat)) : Prop :=
  ∀ before base n, before ++ [(base, n)] <+: asked → base ∈ given taken before ++ taken →
    numbered base n ∉ given taken before ++ used

theorem numbersFree_append_iff {taken used : List String} {asked : List (String × Nat)}
    {base : String} {n : Nat} :
    NumbersFree taken used (asked ++ [(base, n)]) ↔
      NumbersFree taken used asked ∧
        (base ∈ given taken asked ++ taken → numbered base n ∉ given taken asked ++ used) := by
  constructor
  · intro h
    refine ⟨fun before base' n' hfront => ?_, h asked base n (List.prefix_refl _)⟩
    exact h before base' n' (hfront.trans (List.prefix_append _ _))
  · rintro ⟨hbefore, hlast⟩ before base' n' hfront
    rcases List.prefix_concat_iff.mp hfront with heq | hfront
    · obtain ⟨rfl, hask⟩ := List.append_inj' heq rfl
      obtain ⟨rfl, rfl⟩ := Prod.mk.inj (List.singleton_inj.mp hask)
      exact hlast
    · exact hbefore before base' n' hfront

/-- Given names are distinct, from each other and from those used beside them, just where every name
with a number was free. -/
theorem nodup_given_append_iff {taken used : List String} (hused : used.Nodup)
    (htaken : ∀ n ∈ used, n ∈ taken) (asked : List (String × Nat)) :
    (given taken asked ++ used).Nodup ↔ NumbersFree taken used asked := by
  induction asked using List.reverseRecOn with
  | nil =>
    refine iff_of_true hused fun before base n hfront => ?_
    exact absurd (List.prefix_nil.mp hfront) (List.append_ne_nil_of_right_ne_nil before
      (List.cons_ne_nil _ _))
  | append_singleton asked ask ih =>
    obtain ⟨base, n⟩ := ask
    have hgiven : given taken (asked ++ [(base, n)]) = given taken asked ++
        [if base ∈ given taken asked ++ taken then numbered base n else base] := by
      rw [given_append, given, given]
      simp only [List.contains_iff_mem, List.mem_append, List.mem_reverse]
    have hmiddle (name : String) : (given taken asked ++ [name] ++ used).Nodup ↔
        (given taken asked ++ used).Nodup ∧ name ∉ given taken asked ++ used := by
      rw [List.append_assoc, List.singleton_append, List.nodup_middle, List.nodup_cons, and_comm]
    rw [hgiven, hmiddle, ih, numbersFree_append_iff]
    refine and_congr_right fun _ => ?_
    split
    · next hmem => exact (imp_iff_right hmem).symm
    · next hfree =>
      refine iff_of_true (fun hmem => hfree ?_) fun hmem => absurd hmem hfree
      exact (List.mem_append.mp hmem).elim (fun h => List.mem_append_left _ h)
        fun h => List.mem_append_right _ (htaken _ h)

/-! ## What a step gives -/

/-- What becomes of bases and numbers that are asked for: the names that are given for them are
taken, and there is an item for each. -/
def Gives (asked : List (String × Nat)) (taken : List String) (items : List BuiltinItem)
    (later : List String) : Prop :=
  later = (given taken asked).reverse ++ taken ∧ List.Forall₂ Declares (given taken asked) items

theorem gives_inTurn : InTurn Gives where
  nil _ := ⟨rfl, .nil⟩
  append := by
    rintro asked asked' taken _ _ items items' ⟨rfl, hitems⟩ ⟨rfl, hitems'⟩
    rw [Gives, given_append, List.reverse_append, List.append_assoc]
    exact ⟨rfl, List.rel_append hitems hitems'⟩

/-- Whether a step asks for bases with numbers and makes an item for each name it is given, if it
succeeds. -/
def Asks (step : Reserving (List BuiltinItem)) (asked : List (String × Nat)) : Prop :=
  Ensures step (Gives asked)

/-- Whether what is made for a name is an item with that name, and its making takes no names. -/
def Makes (make : Reserving (List BuiltinItem)) (name : String) : Prop :=
  Ensures make fun taken items later => taken = later ∧ ∃ item, items = [item] ∧ Declares name item

theorem asks_nothing : Asks (pure []) [] :=
  ensures_pure gives_inTurn.nil

theorem Asks.inTurn {x y : Reserving (List BuiltinItem)} {asked asked' : List (String × Nat)}
    (hx : Asks x asked) (hy : Asks y asked') : Asks (Reserving.inTurn x y) (asked ++ asked') :=
  Ensures.inTurn gives_inTurn hx hy

theorem makes_pure {name : String} {item : BuiltinItem} (h : Declares name item) :
    Makes (pure [item]) name :=
  ensures_pure fun _ => ⟨rfl, item, rfl, h⟩

theorem run_reserve (base : String) (n : Nat) (taken : List String) :
    let name := if taken.contains base then numbered base n else base
    (reserve base n).run taken = .ok (name, name :: taken) := by
  rfl

theorem eq_or_eq_of_run_reserve {base name : String} {n : Nat} {taken later : List String}
    (h : (reserve base n).run taken = .ok (name, later)) :
    name = base ∨ name = numbered base n := by
  rw [run_reserve] at h
  obtain ⟨rfl, -⟩ := Prod.mk.inj (Except.ok.inj h)
  split
  · exact .inr rfl
  · exact .inl rfl

theorem asks_reserve {base : String} {n : Nat} {make : String → Reserving (List BuiltinItem)}
    (h : ∀ name, Makes (make name) name) : Asks (reserve base n >>= make) [(base, n)] := by
  intro taken items later hrun
  obtain ⟨name, mid, hreserve, hrun⟩ := run_bind_eq_ok_iff.mp hrun
  rw [run_reserve] at hreserve
  obtain ⟨rfl, rfl⟩ := Prod.mk.inj (Except.ok.inj hreserve)
  obtain ⟨rfl, item, rfl, hdeclares⟩ := h _ _ _ _ hrun
  exact ⟨rfl, .cons hdeclares .nil⟩

/-! ## The items of a builtin type -/

variable {m : TypeMap} {b : Builtin}

/-- What a constant asks for. -/
def constantRequests (b : Builtin) (c : BuiltinConstant) : List (String × Nat) :=
  if (constantValues? b c).isSome then [(c.name, 0)] else []

/-- What a constructor asks for. -/
def constructorRequests (b : Builtin) (c : Constructor) : List (String × Nat) :=
  if isTrivial b c then [] else [(constructorName c, c.index)]

/-- Whether a type has a category. -/
def hasCategory (m : TypeMap) (ty : DeclaredType) : Bool :=
  (m.map ty).isOk

/-- What an operator asks for at a position. -/
def operatorRequests (m : TypeMap) (o : BuiltinOperator) (n : Nat) : List (String × Nat) :=
  match o.right? with
  | none => if hasCategory m o.returns then [("op_" ++ o.operator.methodSuffix, n)] else []
  | some right =>
    if right.name? == some "Variant" || !(hasCategory m right && hasCategory m o.returns) then []
    else [("op_" ++ o.operator.methodSuffix ++ "_" ++ Text.lower right.text, n)]

/-- What the items other than methods ask for, in order. -/
def requests (m : TypeMap) (b : Builtin) : List (String × Nat) :=
  b.constants.flatMap (constantRequests b) ++
    if Naming.isScalar b.hostName then []
    else b.constructors.flatMap (constructorRequests b) ++
      b.operators.zipIdx.flatMap fun (o, n) => operatorRequests m o n

theorem asks_constantItem (c : BuiltinConstant) :
    Asks (constantItem b c) (constantRequests b c) := by
  unfold constantItem constantRequests
  cases constantValues? b c with
  | none => exact asks_nothing
  | some values =>
    refine asks_reserve fun name => .bind_lift fun ident hident => makes_pure ⟨hident, ?_⟩
    exact fun t ht => (nomatch ht)

theorem asks_constructorItem (c : Constructor) :
    Asks (constructorItem m b c) (constructorRequests b c) := by
  unfold constructorItem constructorRequests
  cases isTrivial b c with
  | true => exact asks_nothing
  | false =>
    refine asks_reserve fun name => .bind_lift fun params _ => .bind_lift fun ident hident => ?_
    exact makes_pure ⟨hident, fun t ht => (nomatch ht)⟩

/-- What the type of an operand is, where its step succeeds. -/
theorem operandType?_eq_ok {ty : DeclaredType} {type? : Option MarshaledType}
    (h : operandType? m ty = .ok type?) :
    (hasCategory m ty = false ∧ type? = none) ∨
      hasCategory m ty = true ∧ ∃ t, type? = some t ∧ t.code.NoKeywords := by
  unfold operandType? at h
  unfold hasCategory
  split at h
  · next hmap =>
    refine .inl ⟨?_, (Except.ok.inj h).symm⟩
    rw [hmap]
    rfl
  · next type hmap =>
    obtain ⟨t, rfl, rfl⟩ := map_eq_ok_iff.mp h
    refine .inr ⟨?_, t, rfl, TypeMap.noKeywords_of_map hmap⟩
    rw [hmap]
    rfl

theorem asks_operatorItem (o : BuiltinOperator) (n : Nat) :
    Asks (operatorItem m b o n) (operatorRequests m o n) := by
  unfold operatorItem operatorRequests
  cases o.right? with
  | none =>
    refine .bind_lift fun type? htype => ?_
    rcases operandType?_eq_ok htype with ⟨hcategory, rfl⟩ | ⟨hcategory, returns, rfl, hcode⟩
    · simp only [hcategory]
      exact asks_nothing
    · simp only [hcategory]
      refine asks_reserve fun name => .bind_lift fun ident hident => makes_pure ⟨hident, ?_⟩
      rintro t ⟨⟩
      exact hcode
  | some right =>
    dsimp only
    cases right.name? == some "Variant" with
    | true => exact asks_nothing
    | false =>
      refine .bind_lift fun rightType? hright => ?_
      rcases operandType?_eq_ok hright with ⟨hcategory, rfl⟩ | ⟨hcategory, rightType, rfl, -⟩
      · simp only [hcategory]
        exact asks_nothing
      · refine .bind_lift fun type? htype => ?_
        rcases operandType?_eq_ok htype with ⟨hcategory', rfl⟩ | ⟨hcategory', returns, rfl, hcode⟩
        · simp only [hcategory, hcategory']
          exact asks_nothing
        · simp only [hcategory, hcategory']
          refine asks_reserve fun name => .bind_lift fun ident hident => makes_pure ⟨hident, ?_⟩
          rintro t ⟨⟩
          exact hcode

theorem asks_operatorItems (os : List BuiltinOperator) (n : Nat) :
    Asks (operatorItems m b n os)
      ((os.zipIdx n).flatMap fun (o, n) => operatorRequests m o n) := by
  induction os generalizing n with
  | nil => exact asks_nothing
  | cons o rest ih => exact (asks_operatorItem o n).inTurn (ih (n + 1))

/-- The items other than constants that are given names here. -/
def functionItems (m : TypeMap) (b : Builtin) : Reserving (List BuiltinItem) :=
  if Naming.isScalar b.hostName then pure []
  else inTurn (List.flatten <$> b.constructors.mapM (constructorItem m b))
    (operatorItems m b 0 b.operators)

theorem namedItems_eq (m : TypeMap) (b : Builtin) :
    namedItems m b =
      inTurn (List.flatten <$> b.constants.mapM (constantItem b)) (functionItems m b) := by
  unfold namedItems functionItems inTurn
  cases Naming.isScalar b.hostName <;>
    simp [bind_map_left, List.append_assoc]

theorem asks_namedItems (m : TypeMap) (b : Builtin) : Asks (namedItems m b) (requests m b) := by
  have hconstants : Asks (List.flatten <$> b.constants.mapM (constantItem b))
      (b.constants.flatMap (constantRequests b)) :=
    Ensures.mapM gives_inTurn asks_constantItem _
  have hconstructors : Asks (List.flatten <$> b.constructors.mapM (constructorItem m b))
      (b.constructors.flatMap (constructorRequests b)) :=
    Ensures.mapM gives_inTurn asks_constructorItem _
  rw [namedItems_eq]
  refine hconstants.inTurn ?_
  unfold functionItems
  split
  · exact asks_nothing
  · exact hconstructors.inTurn (asks_operatorItems b.operators 0)

/-- The names of the methods that are called on values. -/
def methodNames (b : Builtin) : List String :=
  (b.methods.filter onValue).map Method.name

/-- The names of the methods that the trait has. -/
def boundNames (b : Builtin) : List String :=
  ((b.methods.filter onValue).filter Method.isBindable).map Method.name

/-- The names of the items of the trait. -/
def itemNames (m : TypeMap) (b : Builtin) : List String :=
  given (methodNames b) (requests m b) ++ boundNames b

theorem declares_methodItem {method : Method} {item : BuiltinItem}
    (h : methodItem m b method = .ok item) : Declares method.name item := by
  obtain ⟨params, -, h⟩ := bind_eq_ok_iff.mp h
  obtain ⟨returns?, hreturns, h⟩ := bind_eq_ok_iff.mp h
  obtain ⟨ident, hident, h⟩ := bind_eq_ok_iff.mp h
  obtain rfl := Except.ok.inj h
  refine ⟨hident, fun t ht => ?_⟩
  obtain rfl : returns? = some t := ht
  unfold TypeMap.mapReturns at hreturns
  split at hreturns
  · cases hreturns
  · obtain ⟨t', htype, heq⟩ := map_eq_ok_iff.mp hreturns
    obtain rfl := Option.some.inj heq
    exact TypeMap.noKeywords_of_mapMember htype

variable {u : BuiltinUnit}

/-- What a unit is made of, if a type gets one. -/
theorem ofBuiltin_eq_some_iff :
    ofBuiltin m b = .ok (some u) ↔ hasTrait b = true ∧ ∃ traitIdent receiver named later methods,
      Naming.ident (Naming.builtinTrait b.name b.hostName) = .ok traitIdent ∧
      Naming.hostType b.hostName = .ok receiver ∧
      (namedItems m b).run (methodNames b) = .ok (named, later) ∧
      ((b.methods.filter onValue).filter Method.isBindable).mapM (methodItem m b) = .ok methods ∧
      u = { name := b.name, kind := b.kind, traitIdent, receiver, items := named ++ methods } := by
  unfold ofBuiltin
  cases hasTrait b with
  | false => exact iff_of_false nofun fun h => Bool.false_ne_true h.1
  | true =>
    rw [and_iff_right rfl]
    constructor
    · intro h
      obtain ⟨traitIdent, htrait, h⟩ := bind_eq_ok_iff.mp h
      obtain ⟨receiver, hreceiver, h⟩ := bind_eq_ok_iff.mp h
      obtain ⟨named, hnamed, h⟩ := bind_eq_ok_iff.mp h
      obtain ⟨methods, hmethods, h⟩ := bind_eq_ok_iff.mp h
      obtain rfl := Option.some.inj (Except.ok.inj h)
      obtain ⟨⟨_, later⟩, hrun, rfl⟩ := map_eq_ok_iff.mp hnamed
      exact ⟨_, _, _, later, _, htrait, hreceiver, hrun, hmethods, rfl⟩
    · rintro ⟨_, _, named, later, _, htrait, hreceiver, hrun, hmethods, rfl⟩
      refine bind_eq_ok_iff.mpr ⟨_, htrait, bind_eq_ok_iff.mpr ⟨_, hreceiver, ?_⟩⟩
      refine bind_eq_ok_iff.mpr ⟨named, ?_, bind_eq_ok_iff.mpr ⟨_, hmethods, rfl⟩⟩
      exact map_eq_ok_iff.mpr ⟨(named, later), hrun, rfl⟩

theorem ofBuiltin_eq_some (h : ofBuiltin m b = .ok (some u)) :
    List.Forall₂ Declares (itemNames m b) u.items ∧
      (∃ name, Naming.ident name = .ok u.traitIdent) ∧
      Naming.hostType b.hostName = .ok u.receiver := by
  obtain ⟨-, _, _, items, later, methods, htrait, hreceiver, hrun, hmethods, rfl⟩ :=
    ofBuiltin_eq_some_iff.mp h
  obtain ⟨-, hitems⟩ := asks_namedItems m b _ _ _ hrun
  have hbound : List.Forall₂ Declares (boundNames b) methods := by
    rw [boundNames, List.forall₂_map_left_iff]
    exact forall₂_of_mapM_eq_ok hmethods fun method _ item hitem => declares_methodItem hitem
  exact ⟨List.rel_append hitems hbound, ⟨_, htrait⟩, hreceiver⟩

theorem block?_hostType {name : String} {c : Code} (h : Naming.hostType name = .ok c) :
    block? c = none := by
  obtain ⟨identifier, -, h⟩ := bind_eq_ok_iff.mp h
  obtain rfl := Except.ok.inj h
  split
  · rfl
  · have hpath : block? (fixed "::gdbind_runtime::") = none :=
      itemTexts.block?_fixed rfl
    exact block?_append hpath

/-- The blocks of the trait and of its implementation. -/
theorem blocks_code (htrait : ∃ name, Naming.ident name = .ok u.traitIdent)
    (hreceiver : ∃ name, Naming.hostType name = .ok u.receiver) :
    blockAfter? "trait" u.code = some (u.items.flatMap fun item => head item ++ fixed ";") ∧
      blockAfter? "impl" u.code =
        some (u.items.flatMap fun item => head item ++ u.definition item) := by
  obtain ⟨name, hident⟩ := htrait
  obtain ⟨hostName, hhost⟩ := hreceiver
  have hpub : fixed "pub trait" = word "pub" ++ word "trait" :=
    itemTexts.fixed_eq [.inl "pub", .inl "trait"] rfl
  have himpl : fixed "impl" = word "impl" := itemTexts.fixed_eq [.inl "impl"] rfl
  have hbound : block? (fixed ": Sized") = none := itemTexts.block?_fixed rfl
  have hfor : block? (fixed "for") = none := itemTexts.block?_fixed rfl
  have hname : block? (word u.traitIdent) = none := rfl
  have hnotTrait : "trait" ∉ words (word "pub") := by decide
  have hnotImpl : "impl" ∉ words (word u.traitIdent) ∧ "impl" ∉ words (fixed ": Sized") := by
    rw [itemTexts.words_fixed [.inr ':', .inl "Sized"] rfl]
    refine ⟨fun hmem => Naming.notMem_keywords_of_ident hident ?_, by decide⟩
    rw [← List.mem_singleton.mp hmem]
    decide
  have hdoc := words_doc (" Engine constants, constructors, operators and methods of `" ++ u.name ++
    "`")
  have hnotDoc (keyword : String) := hdoc ▸ List.not_mem_nil (a := keyword)
  rw [code, hpub, himpl]
  simp only [List.append_assoc]
  constructor
  · rw [blockAfter?, after?_append (hnotDoc _), after?_append hnotTrait, after?_word_append,
      Option.bind_some, block?_append hname, block?_append hbound, block?_brace_append]
  · have hnotPub : "impl" ∉ words (word "pub") ∧ "impl" ∉ words (word "trait") := by decide
    rw [blockAfter?, after?_append (hnotDoc _), after?_append hnotPub.1, after?_append hnotPub.2,
      after?_append hnotImpl.1, after?_append hnotImpl.2,
      after?_append (List.not_mem_nil (a := "impl")), after?_word_append, Option.bind_some,
      block?_append hname, block?_append hfor, block?_append (block?_hostType hhost)]
    rfl

/-- The names that a builtin type has for its constants and methods. -/
def memberNames (b : Builtin) : List String :=
  b.constants.map BuiltinConstant.name ++ b.methods.map Method.name

theorem exists_of_mem_constructorRequests {c : Constructor} {ask : String × Nat}
    (h : ask ∈ constructorRequests b c) : ∃ rest, ask.1 = "from_" ++ rest := by
  unfold constructorRequests at h
  split at h
  · cases h
  · rw [List.mem_singleton.mp h]
    exact ⟨_, rfl⟩

theorem exists_of_mem_operatorRequests {o : BuiltinOperator} {n : Nat} {ask : String × Nat}
    (h : ask ∈ operatorRequests m o n) : ∃ rest, ask.1 = "op_" ++ rest := by
  unfold operatorRequests at h
  cases hright : o.right? with
  | none =>
    rw [hright] at h
    dsimp only at h
    split at h
    · rw [List.mem_singleton.mp h]
      exact ⟨_, rfl⟩
    · cases h
  | some right =>
    rw [hright] at h
    dsimp only at h
    split at h
    · cases h
    · rw [List.mem_singleton.mp h]
      exact ⟨_, by rw [String.append_assoc, String.append_assoc]⟩

/-- Every base begins with a name that is spelled as an identifier. -/
theorem exists_of_mem_requests (hspelled : ∀ n ∈ memberNames b, Naming.IsSpelled n)
    {ask : String × Nat} (h : ask ∈ requests m b) :
    ∃ start rest, Naming.IsSpelled start ∧ ask.1 = start ++ rest := by
  rw [requests, List.mem_append] at h
  rcases h with hconstant | h
  · obtain ⟨c, hc, hask⟩ := List.mem_flatMap.mp hconstant
    have hname := hspelled c.name (List.mem_append_left _ (List.mem_map_of_mem hc))
    unfold constantRequests at hask
    split at hask
    · rw [List.mem_singleton.mp hask]
      exact ⟨c.name, "", hname, String.append_empty.symm⟩
    · cases hask
  · split at h
    · cases h
    · rcases List.mem_append.mp h with hconstructor | hoperator
      · obtain ⟨c, -, hask⟩ := List.mem_flatMap.mp hconstructor
        obtain ⟨rest, hrest⟩ := exists_of_mem_constructorRequests hask
        exact ⟨"from_", rest, by decide, hrest⟩
      · obtain ⟨⟨o, n⟩, -, hask⟩ := List.mem_flatMap.mp hoperator
        obtain ⟨rest, hrest⟩ := exists_of_mem_operatorRequests hask
        exact ⟨"op_", rest, by decide, hrest⟩

theorem exists_declares {names : List String} {items : List BuiltinItem}
    (h : List.Forall₂ Declares names items) : ∀ item ∈ items, ∃ name, Declares name item := by
  induction h with
  | nil => exact fun item hitem => (nomatch hitem)
  | cons hdeclares _ ih => exact List.forall_mem_cons.mpr ⟨⟨_, hdeclares⟩, ih⟩

theorem idents_of_declares {names : List String} {items : List BuiltinItem}
    (h : List.Forall₂ Declares names items) :
    names.mapM Naming.ident = .ok (items.map BuiltinItem.ident) := by
  rw [mapM_eq_ok_iff, List.map_map]
  exact map_eq_of_forall₂ h fun _ _ _ hdeclares => hdeclares.ident

/-- Every name of an item is spelled as an identifier. -/
theorem isSpelled_of_mem_itemNames (h : ofBuiltin m b = .ok (some u))
    (hspelled : ∀ n ∈ memberNames b, Naming.IsSpelled n) :
    ∀ n ∈ itemNames m b, Naming.IsSpelled n := by
  have hidents := idents_of_declares (ofBuiltin_eq_some h).1
  intro n hn
  obtain ⟨identifier, -, hident⟩ := exists_of_mapM_eq_ok hidents hn
  rcases List.mem_append.mp hn with hgiven | hbound
  · obtain ⟨ask, hask, suffix, rfl⟩ := exists_suffix_of_mem_given hgiven
    obtain ⟨start, rest, hstart, hbase⟩ := exists_of_mem_requests hspelled hask
    rw [hbase, String.append_assoc] at hident ⊢
    exact Naming.isSpelled_append_of_ident hstart hident
  · obtain ⟨method, hmethod, rfl⟩ := List.mem_map.mp hbound
    have hmem := List.mem_of_mem_filter (List.mem_of_mem_filter hmethod)
    exact hspelled _ (List.mem_append_right _ (List.mem_map_of_mem hmem))

/-- The trait and its implementation have the same items, with the identifiers of their names. -/
theorem exists_trait_of_ofBuiltin (h : ofBuiltin m b = .ok (some u)) :
    ∃ trait, blockAfter? "trait" u.code = some trait ∧
      blockAfter? "impl" u.code =
        some (u.items.flatMap fun item => head item ++ u.definition item) ∧
      Code.items (u.items.flatMap fun item => head item ++ u.definition item) =
        Code.items trait ∧
      (itemNames m b).mapM Naming.ident = .ok ((Code.items trait).map Prod.snd) := by
  obtain ⟨hdeclares, htrait, hreceiver⟩ := ofBuiltin_eq_some h
  obtain ⟨htraitBlock, himplBlock⟩ := blocks_code htrait ⟨_, hreceiver⟩
  have hend : ∀ w ∈ (fixed ";").words, w ∉ itemKeywords := by
    rw [words_semicolon]
    exact nofun
  have htraitItems := items_flatMap (exists_declares hdeclares) fun _ => hend
  have himplItems := items_flatMap (exists_declares hdeclares) (words_definition u)
  refine ⟨_, htraitBlock, himplBlock, himplItems.trans htraitItems.symm, ?_⟩
  rw [idents_of_declares hdeclares, htraitItems, List.map_map]
  rfl

/-- The implementation of a trait has the items that the trait has.  They have distinct names,
unless a name with a number was in use when it was given, or a keyword takes the identifier of
another name. -/
theorem traitItems_nodup_iff (h : ofBuiltin m b = .ok (some u))
    (hspelled : ∀ n ∈ memberNames b, Naming.IsSpelled n)
    (hmethods : (b.methods.map Method.name).Nodup) :
    ∃ trait impl, blockAfter? "trait" u.code = some trait ∧ blockAfter? "impl" u.code = some impl ∧
      Code.items impl = Code.items trait ∧
      (((Code.items trait).map Prod.snd).Nodup ↔
        NumbersFree (methodNames b) (boundNames b) (requests m b) ∧
          ∀ word ∈ Text.pathKeywords, word ∈ itemNames m b → word ++ "_" ∉ itemNames m b) := by
  obtain ⟨trait, htraitBlock, himplBlock, hitems, hidents⟩ := exists_trait_of_ofBuiltin h
  refine ⟨trait, _, htraitBlock, himplBlock, hitems, ?_⟩
  have hbound : (boundNames b).Nodup := by
    rw [boundNames, List.filter_filter]
    exact hmethods.sublist (List.filter_sublist.map _)
  have htaken : ∀ n ∈ boundNames b, n ∈ methodNames b := fun n hn =>
    (List.filter_sublist.map Method.name).subset hn
  rw [Naming.idents_nodup_iff hidents (isSpelled_of_mem_itemNames h hspelled), itemNames,
    nodup_given_append_iff hbound htaken]

/-- A vector type with items of every kind, and a method that has the name of a constructor. -/
def vector : Builtin :=
  { (default : Builtin) with
    name := "Vector2", kind := .vector2
    methods := [
      { (default : Method) with
        name := "length", returns? := some (.plain "f64"), hash? := some 1 },
      { (default : Method) with name := "from_x_y", hash? := some 2 }]
    constructors := [
      ⟨0, []⟩,
      ⟨3, [⟨"x", .plain "f64", none⟩, ⟨"y", .plain "f64", none⟩]⟩]
    operators := [⟨.equal, some (.plain "Vector2"), .plain "bool"⟩]
    constants := [⟨"ZERO", .plain "Vector2", "Vector2(0, 0)"⟩] }

theorem exists_of_toOption_join {u? : Emission (Option BuiltinUnit)}
    (h : u?.toOption.join.isSome = true) : ∃ u, u? = .ok (some u) := by
  obtain ⟨u, hu⟩ := Option.isSome_iff_exists.mp h
  exact ⟨u, toOption_eq_some_iff.mp (Option.join_eq_some_iff.mp hu)⟩

theorem traitItems_nodup_vector :
    let m : TypeMap := ⟨{ (default : Schema) with builtins := [vector] }, [], "Object"⟩
    (∀ n ∈ memberNames vector, Naming.IsSpelled n) ∧ (vector.methods.map Method.name).Nodup ∧
      itemNames m vector = ["ZERO", "from_x_y_3", "op_equal_vector2", "length", "from_x_y"] ∧
      ∃ u trait, ofBuiltin m vector = .ok (some u) ∧ blockAfter? "trait" u.code = some trait ∧
        ((Code.items trait).map Prod.snd).Nodup := by
  intro m
  have hspelled : ∀ n ∈ memberNames vector, Naming.IsSpelled n := by decide +kernel
  have hmethods : (vector.methods.map Method.name).Nodup := by decide
  have hnames : itemNames m vector =
      ["ZERO", "from_x_y_3", "op_equal_vector2", "length", "from_x_y"] := by decide +kernel
  obtain ⟨u, hu⟩ : ∃ u, ofBuiltin m vector = .ok (some u) :=
    exists_of_toOption_join (by decide +kernel)
  obtain ⟨trait, _, htrait, -, -, hiff⟩ := traitItems_nodup_iff hu hspelled hmethods
  refine ⟨hspelled, hmethods, hnames, u, trait, hu, htrait, hiff.mpr ⟨?_, ?_⟩⟩
  · have hnodup : (itemNames m vector).Nodup := hnames ▸ by decide
    exact (nodup_given_append_iff (by decide) (by decide) _).mp hnodup
  · rw [hnames]
    decide

/-- A vector type with a constant whose name with a number is the name of a method, and one whose
identifier is. -/
def clashing : Builtin :=
  { (default : Builtin) with
    name := "Vector2", kind := .vector2
    methods := [
      { (default : Method) with name := "ZERO", hash? := some 1 },
      { (default : Method) with name := "ZERO_0", hash? := some 2 },
      { (default : Method) with name := "self_", hash? := some 3 }]
    constants := [
      ⟨"ZERO", .plain "Vector2", "Vector2(0, 0)"⟩,
      ⟨"self", .plain "Vector2", "Vector2(0, 0)"⟩] }

/-- Names that are distinct within each kind can meet in a trait. -/
theorem not_traitItems_nodup :
    (clashing.methods.map Method.name).Nodup ∧
      (clashing.constants.map BuiltinConstant.name).Nodup ∧
      (clashing.constructors.map Constructor.index).Nodup ∧
      (clashing.operators.map fun o => (o.operator, o.right?)).Nodup ∧
      let m : TypeMap := ⟨{ (default : Schema) with builtins := [clashing] }, [], "Object"⟩
      ∃ u trait, ofBuiltin m clashing = .ok (some u) ∧ blockAfter? "trait" u.code = some trait ∧
        Code.items trait =
          [("const", "ZERO_0"), ("const", "self_"), ("fn", "ZERO"), ("fn", "ZERO_0"),
            ("fn", "self_")] ∧
        ¬((Code.items trait).map Prod.snd).Nodup := by
  refine ⟨by decide, by decide, List.nodup_nil, List.nodup_nil, ?_⟩
  intro m
  have hread : (ofBuiltin m clashing).toOption.join.bind (fun u =>
      (blockAfter? "trait" u.code).map Code.items) =
      some [("const", "ZERO_0"), ("const", "self_"), ("fn", "ZERO"), ("fn", "ZERO_0"),
        ("fn", "self_")] := by decide +kernel
  obtain ⟨u, hu, hread⟩ := Option.bind_eq_some_iff.mp hread
  obtain ⟨trait, htrait, hitems⟩ := Option.map_eq_some_iff.mp hread
  have hunit := toOption_eq_some_iff.mp (Option.join_eq_some_iff.mp hu)
  refine ⟨u, trait, hunit, htrait, hitems, ?_⟩
  rw [hitems]
  decide

end BuiltinUnit

end EngineBindings
