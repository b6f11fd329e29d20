import EngineBindings.Proofs.Bindings.ClassItems
import EngineBindings.Proofs.Code.Declarations
import EngineBindings.Proofs.Schema.Ancestors

/-!
# Calls of property accessors

An accessor of a property puts arguments into an array and calls an engine method with it; both are
read off its code (`Code.engineCall?`).  The getter of a property is looked up in the class and its
ancestors, and is refused if it takes more than the index.  The setter is not looked up.
`ClassUnit.accessor_isRight_iff` says which calls are right for all that: that of a getter unless
the property has an index and the method takes nothing, and that of a setter if there is such a
method.
-/

namespace EngineBindings

/-! ## Methods of classes -/

namespace Schema

/-- The method that a class has under a name: its own one, or else the one that its parent has. -/
inductive HasMethod (s : Schema) (name : String) : String → Method → Prop
  | own {className : String} {c : ClassDescriptor} {method : Method}
    (hclass : s.class? className = some c) (hmethod : c.method? name = some method) :
    HasMethod s name className method
  | inherited {className parent : String} {c : ClassDescriptor} {method : Method}
    (hclass : s.class? className = some c) (hnone : c.method? name = none)
    (hparent : c.parent? = some parent) (hmethod : HasMethod s name parent method) :
    HasMethod s name className method

end Schema

namespace ClassUnit

variable {m : TypeMap} {className name : String} {method : Method}

/-- A class that has no method of its own under a name hands the lookup on to its parent. -/
theorem lookupMethod?_eq (hvalid : m.schema.IsValid) (className name : String) :
    lookupMethod? m className name = (m.schema.class? className).bind fun c =>
      (c.method? name).or (c.parent?.bind fun parent => lookupMethod? m parent name) := by
  rw [lookupMethod?, List.findSome?_cons]
  cases hclass : m.schema.class? className with
  | none =>
    have hparent : m.schema.parent? className = none := by
      rw [Schema.parent?, hclass, Option.bind_none]
    rw [Schema.ancestors_of_parent?_none hparent]
    rfl
  | some c =>
    rw [Option.bind_some, Option.bind_some]
    cases hmethod : c.method? name with
    | some method => rfl
    | none =>
      have hparent? : m.schema.parent? className = c.parent? := by
        rw [Schema.parent?, hclass, Option.bind_some]
      rw [Option.none_or]
      cases hparent : c.parent? with
      | none =>
        rw [Schema.ancestors_of_parent?_none (hparent?.trans hparent)]
        rfl
      | some parent =>
        rw [hvalid.ancestors_of_parent? (hparent?.trans hparent)]
        rfl

theorem hasMethod_of_lookupMethod? (hvalid : m.schema.IsValid)
    (h : lookupMethod? m className name = some method) :
    m.schema.HasMethod name className method := by
  -- each step up leaves one ancestor less
  generalize hancestors : m.schema.ancestors className = ancestors
  induction ancestors generalizing className with
  | nil =>
    rw [lookupMethod?, hancestors, List.findSome?_singleton] at h
    obtain ⟨c, hclass, hmethod⟩ := Option.bind_eq_some_iff.mp h
    exact .own hclass hmethod
  | cons next ancestors ih =>
    rw [lookupMethod?_eq hvalid] at h
    obtain ⟨c, hclass, h⟩ := Option.bind_eq_some_iff.mp h
    cases hown : c.method? name with
    | some own =>
      rw [hown, Option.some_or] at h
      exact .own hclass (hown.trans h)
    | none =>
      rw [hown, Option.none_or] at h
      obtain ⟨parent, hparent, h⟩ := Option.bind_eq_some_iff.mp h
      have hlink : m.schema.parent? className = some parent := by
        rw [Schema.parent?, hclass, Option.bind_some, hparent]
      rw [hvalid.ancestors_of_parent? hlink] at hancestors
      exact .inherited hclass hown hparent (ih h (List.cons.inj hancestors).2)

theorem lookupMethod?_eq_some_iff (hvalid : m.schema.IsValid) :
    lookupMethod? m className name = some method ↔ m.schema.HasMethod name className method := by
  refine ⟨hasMethod_of_lookupMethod? hvalid, fun h => ?_⟩
  induction h with
  | own hclass hmethod =>
    rw [lookupMethod?_eq hvalid, hclass, Option.bind_some, hmethod, Option.some_or]
  | inherited hclass hnone hparent _ ih =>
    rw [lookupMethod?_eq hvalid, hclass, Option.bind_some, hnone, Option.none_or, hparent,
      Option.bind_some, ih]

end ClassUnit

/-! ## Calls in code -/

/-- A call of an engine method by a function of generated code. -/
structure EngineCall where
  /-- The type of the value that the function takes. -/
  value? : Option Code
  className : String
  method : String
  /-- The entries of the array of arguments. -/
  arguments : List Code

namespace Code

/-- The type of the value that a function takes, behind the object itself. -/
def valueType? : Code → Option Code
  | .mark '&' :: .word "self" :: .mark ',' :: .word "value" :: .mark ':' :: type => some type
  | _ => none

/-- The call that the body of a function makes with the array that it declares. -/
def callIn? (value? : Option Code) : Code → Option EngineCall
  | .word "let" :: .word "args" :: .mark ':' :: .group .bracket _ :: .mark '=' ::
      .group .bracket values :: rest =>
    (after? "call_method" rest).bind fun
      | .group .paren inner :: _ =>
        match entries inner with
        | [_, [.text className _], [.text method _], [.mark '&', .word "args"]] =>
          some ⟨value?, className, method, entries values⟩
        | _ => none
      | _ => none
  | _ => none

/-- The call of an engine method that a function makes. -/
def engineCall? : Code → Option EngineCall
  | .word "pub" :: .word "fn" :: .word _ :: .group .paren inputs :: rest =>
    match rest.getLast? with
    | some (.group .brace body) => callIn? (valueType? inputs) body
    | _ => none
  | _ => none

end Code

/-- Whether a call is one of a method that the class has, with an argument for each of its
parameters; a value that is handed on is of the type of the last one. -/
def EngineCall.IsRight (call : EngineCall) (m : TypeMap) : Prop :=
  ∃ method, m.schema.HasMethod call.method call.className method ∧
    call.arguments.length = method.params.length ∧
    ∀ code, call.value? = some code → ∃ last type, method.params.getLast? = some last ∧
      m.map last.type = .ok (.ok type) ∧ type.code = code

namespace ClassUnit

open Code TypeMap Marshal

/-- The texts around the call of an engine method. -/
def callTexts : TextTable where
  entries :=
    [("pub fn", [.inl "pub", .inl "fn"]), ("let args:", [.inl "let", .inl "args", .inr ':']),
      ("=", [.inr '=']), (";", [.inr ';']), ("let ret =", [.inl "let", .inl "ret", .inr '=']),
      ("::gdbind_runtime::backend::call_method",
        [.inr ':', .inr ':', .inl "gdbind_runtime", .inr ':', .inr ':', .inl "backend", .inr ':',
          .inr ':', .inl "call_method"]),
      ("&args", [.inr '&', .inl "args"]), ("&self", [.inr '&', .inl "self"]),
      ("value:", [.inl "value", .inr ':'])]
  reads := by decide +kernel

theorem after?_methodCall (u : ClassUnit) (object rest : Code) (method : String) :
    after? "call_method" (u.methodCall object method ++ rest) =
      some (paren (commas [object, text u.name, text method, fixed "&args"]) ++ rest) := by
  have hpath : fixed "::gdbind_runtime::backend::call_method" =
      [.mark ':', .mark ':', .word "gdbind_runtime", .mark ':', .mark ':', .word "backend",
        .mark ':', .mark ':'] ++ word "call_method" :=
    callTexts.fixed_eq [.inr ':', .inr ':', .inl "gdbind_runtime", .inr ':', .inr ':',
      .inl "backend", .inr ':', .inr ':', .inl "call_method"] rfl
  rw [methodCall, hpath, List.append_assoc, List.append_assoc, after?_append (by decide),
    after?_word_append]

theorem callBody_eq (values : List Code) (call : Code) (returns? : Option MarshaledType)
    (context : String) :
    ∃ type lead rest, "call_method" ∉ words lead ∧
      callBody (arguments values) call returns? context =
        .word "let" :: .word "args" :: .mark ':' :: .group .bracket type :: .mark '=' ::
          .group .bracket (commas values) :: (lead ++ (call ++ rest)) := by
  have hlet : fixed "let args:" = [.word "let", .word "args", .mark ':'] :=
    callTexts.fixed_eq [.inl "let", .inl "args", .inr ':'] rfl
  have hequals : fixed "=" = [.mark '='] := callTexts.fixed_eq [.inr '='] rfl
  have hend : fixed ";" = [.mark ';'] := callTexts.fixed_eq [.inr ';'] rfl
  have hret : fixed "let ret =" = [.word "let", .word "ret", .mark '='] :=
    callTexts.fixed_eq [.inl "let", .inl "ret", .inr '='] rfl
  let type := Naming.runtime "Variant" ++ ([.mark ';'] ++ word (toString values.length ++ "usize"))
  cases returns? with
  | none =>
    refine ⟨type, [.mark ';'], [.mark ';'], by decide, ?_⟩
    rw [callBody, arguments, hlet, hequals, hend]
    simp only [List.append_assoc]
    rfl
  | some returns =>
    refine ⟨type, [.mark ';', .word "let", .word "ret", .mark '='],
      .mark ';' :: decodeReturn returns.code context, by decide, ?_⟩
    rw [callBody, arguments, hlet, hequals, hend, hret]
    simp only [List.append_assoc]
    rfl

theorem isEntry_text (content : String) : IsEntry (text content) where
  ne_nil := List.cons_ne_nil _ _
  noComma token h := by
    rw [List.mem_singleton.mp h]
    rfl

theorem isEntry_selfHandle : IsEntry selfHandle := by
  decide +kernel

theorem isEntry_indexArguments {index? : Option Int} {v : Code} (h : v ∈ indexArguments index?) :
    IsEntry v := by
  obtain ⟨i, -, rfl⟩ := List.mem_map.mp h
  have hcase : IsEntry (runtimeCase "Variant" "Int") := by decide +kernel
  refine ⟨List.append_ne_nil_of_left_ne_nil hcase.ne_nil _, fun token htoken => ?_⟩
  rcases List.mem_append.mp htoken with htoken | htoken
  · exact hcase.noComma token htoken
  · rw [List.mem_singleton.mp htoken]
    rfl

theorem isEntry_encode_value : IsEntry (encode (word "value")) := by
  decide +kernel

/-- The call that a function makes is read off its body. -/
theorem engineCall?_function {u : ClassUnit} {ident method context : String} {inputs : List Code}
    {output : Code} {values : List Code} {returns? : Option MarshaledType}
    (hvalues : ∀ v ∈ values, IsEntry v) :
    engineCall? (function ident inputs output
        (callBody (arguments values) (u.methodCall selfHandle method) returns? context)) =
      some ⟨valueType? (commas inputs), u.name, method, values⟩ := by
  have hargs : fixed "&args" = [.mark '&', .word "args"] :=
    callTexts.fixed_eq [.inr '&', .inl "args"] rfl
  have hpub : fixed "pub fn" = [.word "pub", .word "fn"] :=
    callTexts.fixed_eq [.inl "pub", .inl "fn"] rfl
  have hinner : entries (commas [selfHandle, text u.name, text method, fixed "&args"]) =
      [selfHandle, text u.name, text method, fixed "&args"] := by
    refine entries_commas ?_
    rw [hargs]
    simp only [List.forall_mem_cons, List.not_mem_nil, false_imp_iff, implies_true, and_true]
    exact ⟨isEntry_selfHandle, isEntry_text _, isEntry_text _, by decide⟩
  have hbody : ∀ value?, callIn? value?
      (callBody (arguments values) (u.methodCall selfHandle method) returns? context) =
        some ⟨value?, u.name, method, values⟩ := by
    intro value?
    obtain ⟨type, lead, rest, hlead, heq⟩ := callBody_eq values (u.methodCall selfHandle method)
      returns? context
    rw [heq, callIn?, after?_append hlead, after?_methodCall, Option.bind_some]
    change (match entries (commas [selfHandle, text u.name, text method, fixed "&args"]) with
      | [_, [.text className _], [.text method _], [.mark '&', .word "args"]] =>
        some (⟨value?, className, method, entries (commas values)⟩ : EngineCall)
      | _ => none) = _
    rw [hinner, hargs, entries_commas hvalues]
    rfl
  generalize callBody (arguments values) (u.methodCall selfHandle method) returns? context = body
    at hbody
  have hcode : function ident inputs output body = .word "pub" :: .word "fn" :: .word ident ::
      .group .paren (commas inputs) :: (output ++ brace body) := by
    rw [function, hpub]
    rfl
  have hlast : (output ++ brace body).getLast? = some (.group .brace body) :=
    List.getLast?_concat
  rw [hcode, engineCall?, hlast]
  exact hbody _

/-! ## Accessors -/

/-- Whether an item is an accessor of a property. -/
def isAccessor : ClassItem → Bool
  | .getter _ _ _ _ _ => true
  | .setter _ _ _ _ => true
  | _ => false

/-- Whether a property is read by an engine method and has the type that the method gives back. -/
structure ReadBy (m : TypeMap) (c : ClassDescriptor) (p : Property) (getter : Method)
    (type : MarshaledType) : Prop where
  lookup : lookupMethod? m c.name p.getter = some getter
  arity : getter.params.length ≤ p.index?.toList.length
  type : ∃ declared, getter.returns? = some declared ∧ m.mapMember c.name p.name declared = .ok type

/-- The accessors that a property can have. -/
inductive Accesses (m : TypeMap) (c : ClassDescriptor) (p : Property) : ClassItem → Prop
  | getter {ident : String} {getter : Method} {type : MarshaledType}
    (hread : ReadBy m c p getter type) :
    Accesses m c p (.getter ident p.name p.getter p.index? type)
  | setter {ident setter : String} {getter : Method} {type : MarshaledType}
    (hread : ReadBy m c p getter type) (hsetter : p.setter? = some setter) :
    Accesses m c p (.setter ident setter p.index? type)

variable {m : TypeMap} {c : ClassDescriptor} {p : Property}

theorem exists_of_readableType? {declared : DeclaredType}
    (h : readableType? m c p = some declared) :
    ∃ getter, lookupMethod? m c.name p.getter = some getter ∧
      getter.params.length ≤ p.index?.toList.length ∧ getter.returns? = some declared := by
  unfold readableType? at h
  split at h
  · cases h
  · obtain ⟨getter, hlookup, h⟩ := Option.bind_eq_some_iff.mp h
    have hcount : (if p.index?.isSome then 1 else 0) = p.index?.toList.length := by
      cases p.index? <;> rfl
    rw [hcount] at h
    split at h
    · cases h
    · next harity =>
      obtain ⟨returns, hreturns, h⟩ := Option.bind_eq_some_iff.mp h
      split at h
      · cases h
      · obtain rfl := Option.some.inj h
        exact ⟨getter, hlookup, Nat.le_of_not_lt harity, hreturns⟩

/-- Whether every accessor among some items is one of some properties. -/
def AccessorsOf (m : TypeMap) (c : ClassDescriptor) (ps : List Property) (_ : List String)
    (items : List ClassItem) (_ : List String) : Prop :=
  ∀ item ∈ items, isAccessor item = true → ∃ p ∈ ps, Accesses m c p item

open Reserving

theorem accessorsOf_inTurn : InTurn (AccessorsOf m c) where
  nil _ item h := nomatch h
  append h h' item hitem haccessor := by
    rcases List.mem_append.mp hitem with hitem | hitem
    · obtain ⟨p, hp, haccesses⟩ := h item hitem haccessor
      exact ⟨p, List.mem_append_left _ hp, haccesses⟩
    · obtain ⟨p, hp, haccesses⟩ := h' item hitem haccessor
      exact ⟨p, List.mem_append_right _ hp, haccesses⟩

theorem ensures_itemFor {name : String} {make : Reserving ClassItem} {ps : List Property}
    (hmake : Ensures make fun _ item _ => isAccessor item = true → ∃ p ∈ ps, Accesses m c p item) :
    Ensures (itemFor name make) (AccessorsOf m c ps) := by
  intro taken items later h item hitem
  obtain ⟨granted, mid, -, h⟩ := run_bind_eq_ok_iff.mp h
  cases granted with
  | false =>
    obtain ⟨rfl, -⟩ := run_pure_eq_ok_iff.mp h
    cases hitem
  | true =>
    obtain ⟨made, last, hmade, h⟩ := run_bind_eq_ok_iff.mp h
    obtain ⟨rfl, -⟩ := run_pure_eq_ok_iff.mp h
    rw [List.mem_singleton.mp hitem]
    exact hmake _ _ _ hmade

theorem ensures_nothing {ps : List Property} : Ensures (pure []) (AccessorsOf m c ps) :=
  ensures_pure fun _ _ h => nomatch h

theorem ensures_other {item : ClassItem} {ps : List Property} (h : isAccessor item = false) :
    Ensures (pure item) fun _ item _ => isAccessor item = true → ∃ p ∈ ps, Accesses m c p item :=
  ensures_pure fun _ haccessor => absurd (h.symm.trans haccessor) Bool.false_ne_true

theorem accessorsOf_setterItem {getter : Method} {type : MarshaledType}
    (hread : ReadBy m c p getter type) :
    Ensures (setterItem p type) (AccessorsOf m c [p]) := by
  unfold setterItem
  split
  · exact ensures_nothing
  · next setter hsetter =>
    split
    · exact ensures_nothing
    · exact ensures_itemFor (.bind_lift fun _ _ => ensures_pure fun _ _ =>
        ⟨p, List.mem_singleton_self p, .setter hread hsetter⟩)

/-- A property has its accessors, of which there are at most two. -/
theorem accessorsOf_propertyItems (p : Property) :
    Ensures (propertyItems m c p) (AccessorsOf m c [p, p]) := by
  rw [propertyItems_eq]
  cases hreadable : readableType? m c p with
  | none => exact ensures_nothing
  | some declared =>
    refine Ensures.bind_lift fun type htype => ?_
    obtain ⟨getter, hlookup, harity, hreturns⟩ := exists_of_readableType? hreadable
    have hread : ReadBy m c p getter type := ⟨hlookup, harity, declared, hreturns, htype⟩
    have hgetter : Ensures (itemFor p.name do
        return .getter (← Naming.ident p.name) p.name p.getter p.index? type)
          (AccessorsOf m c [p]) :=
      ensures_itemFor (.bind_lift fun _ _ => ensures_pure fun _ _ =>
        ⟨p, List.mem_singleton_self p, .getter hread⟩)
    exact Ensures.inTurn accessorsOf_inTurn hgetter (accessorsOf_setterItem hread)

theorem accessorsOf_functions :
    Ensures (functions m c) (AccessorsOf m c
      ([] ++ [] ++ c.methods.flatMap (fun _ => []) ++ c.properties.flatMap (fun p => [p, p]) ++
        c.signals.flatMap fun _ => [] ++ [])) := by
  have hconstructors : Ensures (constructors m c) (AccessorsOf m c ([] ++ [])) := by
    rw [constructors_eq]
    refine Ensures.inTurn accessorsOf_inTurn ?_ ?_
    · split
      · exact ensures_itemFor (ensures_other rfl)
      · exact ensures_nothing
    · split
      · exact ensures_itemFor (ensures_other rfl)
      · exact ensures_nothing
  have hmethods (method : Method) : Ensures (methodItem m c method) (AccessorsOf m c []) := by
    rw [methodItem_eq]
    split
    · exact ensures_nothing
    · exact ensures_itemFor (.bind_lift fun _ _ => .bind_lift fun _ _ => .bind_lift fun _ _ =>
        ensures_other rfl)
  have hsignals (signal : Signal) :
      Ensures (signalItems m c signal) (AccessorsOf m c ([] ++ [])) := by
    rw [signalItems_eq]
    refine Ensures.inTurn accessorsOf_inTurn ?_ ?_
    · exact ensures_itemFor (.bind_lift fun _ _ => ensures_other rfl)
    · exact ensures_itemFor (.bind_lift fun _ _ => .bind_lift fun _ _ => ensures_other rfl)
  rw [functions_eq]
  exact .inTurn accessorsOf_inTurn
    (.inTurn accessorsOf_inTurn
      (.inTurn accessorsOf_inTurn hconstructors (.mapM accessorsOf_inTurn hmethods _))
      (.mapM accessorsOf_inTurn accessorsOf_propertyItems _))
    (.mapM accessorsOf_inTurn hsignals _)

/-- Every accessor among the items of a class is one of a property of the class. -/
theorem accesses_of_mem_items {level : Level} {module : String} {u : ClassUnit}
    (h : ofClass m c level module = .ok u) {item : ClassItem} (hitem : item ∈ u.items)
    (haccessor : isAccessor item = true) : ∃ p ∈ c.properties, Accesses m c p item := by
  obtain ⟨constants, items, later, hconstants, hrun, hitems⟩ := (isFor_of_ofClass h).items
  rw [hitems] at hitem
  rcases List.mem_append.mp hitem with hconstant | hfunction
  · obtain ⟨k, -, hk⟩ := exists_of_mem_mapM hconstants hconstant
    obtain ⟨ident, -, hk⟩ := bind_eq_ok_iff.mp hk
    obtain rfl := Except.ok.inj hk
    cases haccessor
  · obtain ⟨p, hp, haccesses⟩ := accessorsOf_functions _ _ _ hrun item hfunction haccessor
    refine ⟨p, ?_, haccesses⟩
    simpa using hp

variable {level : Level} {module : String} {u : ClassUnit}

theorem engineCall?_getter (ident property method : String) (index? : Option Int)
    (type : MarshaledType) :
    engineCall? (u.itemCode (.getter ident property method index? type)) =
      some ⟨none, u.name, method, indexArguments index?⟩ := by
  have hself : fixed "&self" = [.mark '&', .word "self"] :=
    callTexts.fixed_eq [.inr '&', .inl "self"] rfl
  have hinputs : valueType? (commas [fixed "&self"]) = none := by
    rw [hself]
    rfl
  rw [itemCode, engineCall?_function fun _ => isEntry_indexArguments, hinputs]

theorem engineCall?_setter (ident method : String) (index? : Option Int) (type : MarshaledType) :
    engineCall? (u.itemCode (.setter ident method index? type)) =
      some ⟨some type.code, u.name, method, indexArguments index? ++ [encode (word "value")]⟩ := by
  have hself : fixed "&self" = [.mark '&', .word "self"] :=
    callTexts.fixed_eq [.inr '&', .inl "self"] rfl
  have hvalue : fixed "value:" = [.word "value", .mark ':'] :=
    callTexts.fixed_eq [.inl "value", .inr ':'] rfl
  have hinputs : valueType? (commas [fixed "&self", fixed "value:" ++ type.code]) =
      some type.code := by
    rw [hself, hvalue]
    rfl
  have hentries : ∀ v ∈ indexArguments index? ++ [encode (word "value")], IsEntry v := by
    intro v hv
    rcases List.mem_append.mp hv with hv | hv
    · exact isEntry_indexArguments hv
    · rw [List.mem_singleton.mp hv]
      exact isEntry_encode_value
  rw [itemCode, engineCall?_function hentries, hinputs]

theorem getter_isRight_iff (hvalid : m.schema.IsValid) {getter : Method} {type : MarshaledType}
    (hread : ReadBy m c p getter type) :
    EngineCall.IsRight ⟨none, c.name, p.getter, indexArguments p.index?⟩ m ↔
      (p.index?.isSome = true → getter.params ≠ []) := by
  have harity := hread.arity
  have hlength : (indexArguments p.index?).length = p.index?.toList.length := List.length_map _
  constructor
  · rintro ⟨method, hmethod, hcount, -⟩ hindex hnone
    have hsame := (lookupMethod?_eq_some_iff hvalid).mpr hmethod
    obtain rfl := Option.some.inj (hread.lookup.symm.trans hsame)
    obtain ⟨i, hi⟩ := Option.isSome_iff_exists.mp hindex
    rw [hlength, hi, hnone] at hcount
    cases hcount
  · intro hparams
    refine ⟨getter, hasMethod_of_lookupMethod? hvalid hread.lookup, ?_, nofun⟩
    refine hlength.trans (Nat.le_antisymm ?_ harity)
    cases hindex : p.index? with
    | none => exact Nat.zero_le _
    | some i => exact List.length_pos_iff.mpr (hparams (by rw [hindex]; rfl))

theorem setter_isRight_iff (p : Property) (className setter : String) (type : MarshaledType) :
    EngineCall.IsRight
        ⟨some type.code, className, setter, indexArguments p.index? ++ [encode (word "value")]⟩ m ↔
      ∃ method last mapped, m.schema.HasMethod setter className method ∧
        method.params.length = p.index?.toList.length + 1 ∧
        method.params.getLast? = some last ∧ m.map last.type = .ok (.ok mapped) ∧
        mapped.code = type.code := by
  have hlength : (indexArguments p.index? ++ [encode (word "value")]).length =
      p.index?.toList.length + 1 := by
    rw [List.length_append, indexArguments, List.length_map, List.length_singleton]
  constructor
  · rintro ⟨method, hmethod, hcount, hvalue⟩
    obtain ⟨last, mapped, hlast, hmapped, hcode⟩ := hvalue _ rfl
    exact ⟨method, last, mapped, hmethod, (hlength.symm.trans hcount).symm, hlast, hmapped, hcode⟩
  · rintro ⟨method, last, mapped, hmethod, hcount, hlast, hmapped, hcode⟩
    refine ⟨method, hmethod, hlength.trans hcount.symm, fun code hvalue => ?_⟩
    obtain rfl := Option.some.inj hvalue
    exact ⟨last, mapped, hlast, hmapped, hcode⟩

/-- In a valid schema, the getter of a property is called by what reads it, and that is right unless
the property has an index and the method takes nothing.  What writes the property hands on a value
of the type that the getter gives back, to a method that nobody has looked up: the call is right
just if there is such a method with a parameter for the index and a last one of that type. -/
theorem accessor_isRight_iff (hvalid : m.schema.IsValid) (hu : ofClass m c level module = .ok u)
    {item : ClassItem} (hitem : item ∈ u.items) (haccessor : isAccessor item = true) :
    ∃ p ∈ c.properties, ∃ getter declared type call,
      m.schema.HasMethod p.getter c.name getter ∧ getter.returns? = some declared ∧
      m.mapMember c.name p.name declared = .ok type ∧
      engineCall? (u.itemCode item) = some call ∧ call.className = c.name ∧
      (call.value? = none ∧ call.method = p.getter ∧ call.arguments = indexArguments p.index? ∧
          (call.IsRight m ↔ (p.index?.isSome = true → getter.params ≠ [])) ∨
        call.value? = some type.code ∧ p.setter? = some call.method ∧
          call.arguments = indexArguments p.index? ++ [encode (word "value")] ∧
          (call.IsRight m ↔ ∃ setter last mapped,
            m.schema.HasMethod call.method c.name setter ∧
            setter.params.length = p.index?.toList.length + 1 ∧
            setter.params.getLast? = some last ∧ m.map last.type = .ok (.ok mapped) ∧
            mapped.code = type.code)) := by
  obtain ⟨p, hp, haccesses⟩ := accesses_of_mem_items hu hitem haccessor
  have hname := (isFor_of_ofClass hu).name
  cases haccesses with
  | @getter ident getter type hread =>
    obtain ⟨declared, hreturns, htype⟩ := hread.type
    have hcall := engineCall?_getter (u := u) ident p.name p.getter p.index? type
    rw [hname] at hcall
    exact ⟨p, hp, getter, declared, type, _, hasMethod_of_lookupMethod? hvalid hread.lookup,
      hreturns, htype, hcall, rfl, .inl ⟨rfl, rfl, rfl, getter_isRight_iff hvalid hread⟩⟩
  | @setter ident setter getter type hread hsetter =>
    obtain ⟨declared, hreturns, htype⟩ := hread.type
    have hcall := engineCall?_setter (u := u) ident setter p.index? type
    rw [hname] at hcall
    exact ⟨p, hp, getter, declared, type, _, hasMethod_of_lookupMethod? hvalid hread.lookup,
      hreturns, htype, hcall, rfl,
      .inr ⟨rfl, hsetter, rfl, setter_isRight_iff p c.name setter type⟩⟩

/-- A vehicle with a method that gives its speed and one that changes it. -/
def vehicle : ClassDescriptor :=
  { (default : ClassDescriptor) with
    name := "Vehicle"
    methods := [
      { (default : Method) with
        name := "get_speed", returns? := some (.plain "i64"), hash? := some 1 },
      { (default : Method) with
        name := "set_speed", params := [⟨"speed", .plain "i64", none⟩], hash? := some 2 }] }

/-- A car whose pace is its speed as a vehicle. -/
def pacedCar : ClassDescriptor :=
  { (default : ClassDescriptor) with
    name := "Car", parent? := some "Vehicle"
    properties := [
      { (default : Property) with
        name := "pace", type := .plain "i64", getter := "get_speed"
        setter? := some "set_speed" }] }

theorem accessor_isRight_iff_paced :
    let m : TypeMap :=
      ⟨{ (default : Schema) with classes := [vehicle, pacedCar] }, ["Vehicle", "Car"], "Vehicle"⟩
    m.schema.IsValid ∧ ∃ u, ofClass m pacedCar .scene "godot" = .ok u ∧
      (u.items.filter isAccessor).length = 2 ∧
      ∀ item ∈ u.items, isAccessor item = true →
        ∃ call, engineCall? (u.itemCode item) = some call ∧ call.IsRight m := by
  intro m
  let number : MarshaledType := ⟨word "i64", .plain "i64", .primitive (.integer .i64)⟩
  have hvalid : m.schema.IsValid := rfl
  have hu : ofClass m pacedCar .scene "godot" = .ok {
      name := "Car", ident := "Car", parent? := some ("Vehicle", "Vehicle"), isRefCounted := false
      level := .scene
      items := [
        .getter "pace" "pace" "get_speed" none number,
        .setter "set_pace" "set_speed" none number]
      enums := [], virtuals? := none } := rfl
  have hgetter : lookupMethod? m "Car" "get_speed" = vehicle.methods[0]? := rfl
  have hsetter : lookupMethod? m "Car" "set_speed" = vehicle.methods[1]? := rfl
  have hmap : m.map (.plain "i64") = .ok (.ok number) := rfl
  refine ⟨hvalid, _, hu, rfl, fun item hitem haccessor => ?_⟩
  obtain ⟨p, hp, getter, declared, type, call, hmethod, hreturns, htype, hcall, -, hright⟩ :=
    accessor_isRight_iff hvalid hu hitem haccessor
  obtain rfl := List.mem_singleton.mp hp
  refine ⟨call, hcall, ?_⟩
  rcases hright with ⟨-, -, -, hright⟩ | ⟨-, hname, -, hright⟩
  · exact hright.mpr fun hindex => absurd hindex Bool.false_ne_true
  · have hlookup := (lookupMethod?_eq_some_iff hvalid).mpr hmethod
    obtain rfl := Option.some.inj (hgetter.symm.trans hlookup)
    obtain rfl := Option.some.inj hreturns
    rw [mapMember, hmap] at htype
    obtain rfl := Except.ok.inj htype
    have hset := (lookupMethod?_eq_some_iff hvalid).mp hsetter
    rw [← Option.some.inj hname] at hright
    exact hright.mpr ⟨_, _, number, hset, rfl, rfl, hmap, rfl⟩

/-- A car with two properties: no method of its class writes its speed, and the one that reads a
gear takes no index. -/
def gearedCar : ClassDescriptor :=
  { (default : ClassDescriptor) with
    name := "Car"
    methods := [
      { (default : Method) with
        name := "get_speed", returns? := some (.plain "i64"), hash? := some 1 },
      { (default : Method) with
        name := "get_gear", returns? := some (.plain "i64"), hash? := some 2 }]
    properties := [
      { (default : Property) with
        name := "speed", type := .plain "i64", getter := "get_speed", setter? := some "set_speed" },
      { (default : Property) with
        name := "gear", type := .plain "i64", getter := "get_gear", index? := some 3 }] }

/-- An accessor can call a method that there is not, or one that takes no argument with an index. -/
theorem not_accessor_isRight :
    let m : TypeMap := ⟨{ (default : Schema) with classes := [gearedCar] }, ["Car"], "Car"⟩
    m.schema.IsValid ∧ ∃ u, ofClass m gearedCar .scene "godot" = .ok u ∧
      ∀ method ∈ ["set_speed", "get_gear"], ∃ item ∈ u.items, isAccessor item = true ∧
        ∃ call, engineCall? (u.itemCode item) = some call ∧ call.method = method ∧
          ¬call.IsRight m := by
  intro m
  let number : MarshaledType := ⟨word "i64", .plain "i64", .primitive (.integer .i64)⟩
  have hvalid : m.schema.IsValid := rfl
  have hu : ofClass m gearedCar .scene "godot" = .ok {
      name := "Car", ident := "Car", parent? := none, isRefCounted := false, level := .scene
      items := [
        .method "get_speed" "get_speed" false [] (some number),
        .method "get_gear" "get_gear" false [] (some number),
        .getter "speed" "speed" "get_speed" none number,
        .setter "set_speed" "set_speed" none number,
        .getter "gear" "gear" "get_gear" (some 3) number]
      enums := [], virtuals? := none } := rfl
  have hsetter : lookupMethod? m "Car" "set_speed" = none := rfl
  have hgetter : lookupMethod? m "Car" "get_gear" = gearedCar.methods[1]? := rfl
  refine ⟨hvalid, _, hu, ?_⟩
  simp only [List.forall_mem_cons, List.not_mem_nil, false_imp_iff, implies_true, and_true]
  constructor
  · refine ⟨.setter "set_speed" "set_speed" none number, by simp, rfl, _,
      engineCall?_setter _ _ _ _, rfl, ?_⟩
    rintro ⟨method, hmethod, -⟩
    cases hsetter.symm.trans ((lookupMethod?_eq_some_iff hvalid).mpr hmethod)
  · refine ⟨.getter "gear" "gear" "get_gear" (some 3) number, by simp, rfl, _,
      engineCall?_getter _ _ _ _ _, rfl, ?_⟩
    rintro ⟨method, hmethod, hcount, -⟩
    have hlookup := (lookupMethod?_eq_some_iff hvalid).mpr hmethod
    obtain rfl := Option.some.inj (hgetter.symm.trans hlookup)
    cases hcount

end ClassUnit

end EngineBindings
