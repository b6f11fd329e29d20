import EngineBindings.Bindings.ClassUnit
import EngineBindings.Proofs.Bindings.Naming
import EngineBindings.Proofs.Bindings.Reserving
import EngineBindings.Proofs.Traverse

/-!
# Names of the items of a class

A unit has its name, its parent and its items from its class (`ClassUnit.isFor_of_ofClass`).

Functions ask for their names in turn, and one whose name is taken is left out, so no two functions
have one name.  Constants do not ask, and names are compared before they become identifiers.
`ClassUnit.items_nodup_iff` says when the items of a class are distinct all the same: no constant
has a name that a function asks for, and no name is a keyword that takes the identifier of another.
-/

namespace EngineBindings.ClassUnit

/-! ## What a unit takes from its class -/

section OfClass

variable {m : TypeMap} {c : ClassDescriptor} {level : Level} {module : String}

theorem parentOf_fst {parent? : Option (String × String)} (h : parentOf m c module = .ok parent?) :
    parent?.map Prod.fst = c.parent? := by
  unfold parentOf at h
  split at h
  · next hnone =>
    obtain rfl := Except.ok.inj h
    rw [hnone]
    rfl
  · next parent hparent =>
    rw [hparent]
    split at h
    · cases hident : Naming.ident parent with
      | error e =>
        rw [hident] at h
        cases h
      | ok ident =>
        rw [hident] at h
        obtain rfl := Except.ok.inj h
        rfl
    · cases h

theorem isAvailable_of_parentOf {parent? : Option (String × String)}
    (h : parentOf m c module = .ok parent?) {parent : String} (hparent : c.parent? = some parent) :
    m.isAvailable parent = true := by
  unfold parentOf at h
  rw [hparent] at h
  dsimp only at h
  split at h
  · next havailable => exact havailable
  · cases h

/-- Whether a unit is made for a class, for all but its overridable methods. -/
structure IsFor (u : ClassUnit) (m : TypeMap) (c : ClassDescriptor) (level : Level) : Prop where
  name : u.name = c.name
  ident : Naming.ident c.name = .ok u.ident
  parent : u.parent?.map Prod.fst = c.parent?
  isRefCounted : u.isRefCounted = c.isRefCounted
  level : u.level = level
  items : ∃ constants items later,
    (c.constants.mapM fun k => do
      return ClassItem.constant (← Naming.ident k.name) k.value) = .ok constants ∧
    (functions m c).run [] = .ok (items, later) ∧ u.items = constants ++ items
  enums : (c.enums.mapM fun e => EnumUnit.ofDescriptor e.name e) = .ok u.enums

theorem isFor_of_ofClass {u : ClassUnit} (h : ofClass m c level module = .ok u) :
    u.IsFor m c level := by
  unfold ofClass at h
  obtain ⟨ident, hident, h⟩ := bind_eq_ok_iff.mp h
  obtain ⟨parent?, hparent, h⟩ := bind_eq_ok_iff.mp h
  obtain ⟨constants, hconstants, h⟩ := bind_eq_ok_iff.mp h
  obtain ⟨items, hitems, h⟩ := bind_eq_ok_iff.mp h
  obtain ⟨virtuals?, -, h⟩ := bind_eq_ok_iff.mp h
  obtain ⟨enums, henums, h⟩ := bind_eq_ok_iff.mp h
  obtain rfl := Except.ok.inj h
  obtain ⟨⟨_, later⟩, hrun, rfl⟩ := map_eq_ok_iff.mp hitems
  exact ⟨rfl, hident, parentOf_fst hparent, rfl, rfl,
    ⟨constants, _, later, hconstants, hrun, rfl⟩, henums⟩

theorem virtuals_of_ofClass {u : ClassUnit} (h : ofClass m c level module = .ok u) :
    (∀ parent, c.parent? = some parent → m.isAvailable parent = true) ∧
      VirtualUnit.ofClass m c = .ok u.virtuals? := by
  unfold ofClass at h
  obtain ⟨ident, -, h⟩ := bind_eq_ok_iff.mp h
  obtain ⟨parent?, hparent, h⟩ := bind_eq_ok_iff.mp h
  obtain ⟨constants, -, h⟩ := bind_eq_ok_iff.mp h
  obtain ⟨items, -, h⟩ := bind_eq_ok_iff.mp h
  obtain ⟨virtuals?, hvirtuals, h⟩ := bind_eq_ok_iff.mp h
  obtain ⟨enums, -, h⟩ := bind_eq_ok_iff.mp h
  obtain rfl := Except.ok.inj h
  exact ⟨fun parent => isAvailable_of_parentOf hparent, hvirtuals⟩

end OfClass

open Reserving

/-! ## Steps that reserve names -/

theorem run_reserve (name : String) (taken : List String) :
    (reserve name).run taken =
      .ok (if taken.contains name then (false, taken) else (true, name :: taken)) := by
  change (if taken.contains name = true then _ else _ : Reserving Bool).run taken = _
  split <;> rfl

/-- Makes an item for a name, unless the name is taken. -/
def itemFor (name : String) (make : Reserving ClassItem) : Reserving (List ClassItem) := do
  if ← reserve name then return [← make] else return []

/-! ## What a step takes -/

/-- What a step has taken that asks for some names: those of them that were free, once each, and for
each an item with its identifier. -/
structure Grants (asked taken fresh : List String) (items : List ClassItem)
    (later : List String) : Prop where
  later_eq : later = fresh.reverse ++ taken
  idents : fresh.mapM Naming.ident = .ok (items.map ClassItem.ident)
  nodup : fresh.Nodup
  mem_iff : ∀ n, n ∈ fresh ↔ n ∈ asked ∧ n ∉ taken

/-- Whether a step asks for some names and makes items for those it gets, if it succeeds. -/
def Asks (step : Reserving (List ClassItem)) (asked : List String) : Prop :=
  ∀ taken items later, step.run taken = .ok (items, later) →
    ∃ fresh, Grants asked taken fresh items later

/-- Whether an item that is made has the identifier of a name, and its making takes no names. -/
def Makes (make : Reserving ClassItem) (name : String) : Prop :=
  ∀ taken item later, make.run taken = .ok (item, later) →
    Naming.ident name = .ok item.ident ∧ taken = later

section Steps

variable {α : Type} {name : String} {asked asked' : List String}

theorem Grants.append {taken fresh fresh' mid later : List String} {items items' : List ClassItem}
    (h : Grants asked taken fresh items mid) (h' : Grants asked' mid fresh' items' later) :
    Grants (asked ++ asked') taken (fresh ++ fresh') (items ++ items') later := by
  have hmid : ∀ n, n ∈ mid ↔ n ∈ fresh ∨ n ∈ taken := by
    intro n
    rw [h.later_eq, List.mem_append, List.mem_reverse]
  refine ⟨?_, ?_, ?_, fun n => ?_⟩
  · rw [h'.later_eq, h.later_eq, List.reverse_append, List.append_assoc]
  · have hidents := mapM_eq_ok_iff.mp h.idents
    have hidents' := mapM_eq_ok_iff.mp h'.idents
    rw [mapM_eq_ok_iff, List.map_append, hidents, hidents', List.map_append, List.map_append]
  · -- what the second step gets was free after the first one
    refine h.nodup.append h'.nodup fun n hfresh hfresh' => ?_
    exact ((h'.mem_iff n).mp hfresh').2 ((hmid n).mpr (.inl hfresh))
  · rw [List.mem_append, List.mem_append, h'.mem_iff, hmid, h.mem_iff]
    by_cases htaken : n ∈ taken <;> by_cases hasked : n ∈ asked <;> simp [htaken, hasked]

theorem grants_inTurn : InTurn fun asked taken items later =>
    ∃ fresh, Grants asked taken fresh items later where
  nil _ := ⟨[], rfl, rfl, List.nodup_nil, by simp⟩
  append := fun ⟨fresh, h⟩ ⟨fresh', h'⟩ => ⟨fresh ++ fresh', h.append h'⟩

theorem asks_nothing : Asks (pure []) [] :=
  ensures_pure grants_inTurn.nil

theorem Asks.inTurn {x y : Reserving (List ClassItem)} (hx : Asks x asked) (hy : Asks y asked') :
    Asks (Reserving.inTurn x y) (asked ++ asked') :=
  Ensures.inTurn grants_inTurn hx hy

theorem Asks.mapM {f : α → Reserving (List ClassItem)} {asked : α → List String}
    (h : ∀ a, Asks (f a) (asked a)) (as : List α) :
    Asks (List.flatten <$> as.mapM f) (as.flatMap asked) :=
  Ensures.mapM grants_inTurn h as

theorem makes_pure {item : ClassItem} (h : Naming.ident name = .ok item.ident) :
    Makes (pure item) name :=
  ensures_pure fun _ => ⟨h, rfl⟩

theorem Makes.bind_lift {x : Emission α} {make : α → Reserving ClassItem}
    (h : ∀ a, x = .ok a → Makes (make a) name) : Makes (liftM x >>= make) name :=
  Ensures.bind_lift h

theorem asks_itemFor {make : Reserving ClassItem} (hmake : Makes make name) :
    Asks (itemFor name make) [name] := by
  intro taken items later h
  obtain ⟨granted, mid, hreserve, h⟩ := run_bind_eq_ok_iff.mp h
  rw [run_reserve] at hreserve
  by_cases htaken : name ∈ taken
  · rw [if_pos (List.contains_iff_mem.mpr htaken)] at hreserve
    obtain ⟨rfl, rfl⟩ := Prod.mk.inj (Except.ok.inj hreserve)
    obtain ⟨rfl, rfl⟩ := run_pure_eq_ok_iff.mp h
    refine ⟨[], rfl, rfl, List.nodup_nil, fun n => ?_⟩
    rw [List.mem_singleton]
    exact ⟨fun hmem => (nomatch hmem), fun ⟨hn, hfree⟩ => absurd (hn ▸ htaken) hfree⟩
  · rw [if_neg (List.contains_iff_mem.not.mpr htaken)] at hreserve
    obtain ⟨rfl, rfl⟩ := Prod.mk.inj (Except.ok.inj hreserve)
    obtain ⟨item, last, hitem, h⟩ := run_bind_eq_ok_iff.mp h
    obtain ⟨rfl, rfl⟩ := run_pure_eq_ok_iff.mp h
    obtain ⟨hident, rfl⟩ := hmake _ _ _ hitem
    refine ⟨[name], rfl, ?_, List.nodup_singleton name, fun n => ?_⟩
    · rw [mapM_eq_ok_iff, List.map_singleton, hident]
      rfl
    · rw [List.mem_singleton]
      exact ⟨fun hn => ⟨hn, hn ▸ htaken⟩, And.left⟩

end Steps

/-! ## The functions of a class -/

variable (m : TypeMap) (c : ClassDescriptor)

/-- The names that constructors ask for. -/
def constructorNames : List String :=
  (if c.isInstantiable then ["new"] else []) ++
    (if (m.schema.singleton? c.name).isSome then ["singleton"] else [])

/-- The names that an engine method asks for. -/
def methodNames (method : Method) : List String :=
  if method.scope == .virtual || !method.isBindable then [] else [method.name]

/-- The names that the setter of a property asks for. -/
def setterNames (p : Property) : List String :=
  match p.setter? with
  | none => []
  | some setter => if isPrivate setter then [] else ["set_" ++ p.name]

/-- The names that the accessors of a property ask for. -/
def propertyNames (p : Property) : List String :=
  if (readableType? m c p).isSome then p.name :: setterNames p else []

/-- The names that the functions of a signal ask for. -/
def signalNames (s : Signal) : List String :=
  ["signal_" ++ s.name, "emit_" ++ s.name]

/-- The names that the functions of a class ask for, in order. -/
def functionNames : List String :=
  constructorNames m c ++ c.methods.flatMap methodNames ++
    c.properties.flatMap (propertyNames m c) ++ c.signals.flatMap signalNames

/-- The setter of a property. -/
def setterItem (p : Property) (type : MarshaledType) : Reserving (List ClassItem) :=
  match p.setter? with
  | none => pure []
  | some setter =>
    if isPrivate setter then pure []
    else itemFor ("set_" ++ p.name) do
      return .setter (← Naming.ident ("set_" ++ p.name)) setter p.index? type

theorem constructors_eq :
    constructors m c = inTurn
      (if c.isInstantiable then itemFor "new" (pure (.constructor "new")) else pure [])
      (if (m.schema.singleton? c.name).isSome then
        itemFor "singleton" (pure (.singleton "singleton")) else pure []) := by
  simp only [constructors, inTurn, itemFor, bind_assoc, ite_bind, pure_bind]
  cases c.isInstantiable <;> cases (m.schema.singleton? c.name).isSome
  · rfl
  · refine bind_congr fun single => ?_
    cases single <;> rfl
  · refine bind_congr fun created => ?_
    cases created <;> rfl
  · refine bind_congr fun created => ?_
    cases created <;> exact bind_congr fun single => by cases single <;> rfl

theorem methodItem_eq (method : Method) :
    methodItem m c method =
      if method.scope == .virtual || !method.isBindable then pure []
      else itemFor method.name do
        let params ← m.mapParams c.name method.name method.params
        let returns? ← m.mapReturns c.name method.name method.returns?
        let ident ← Naming.ident method.name
        return .method ident method.name (method.scope == .static) params returns? := by
  simp only [methodItem, itemFor, bind_assoc, pure_bind]
  congr 1
  refine bind_congr fun granted => ?_
  cases granted <;> rfl

theorem propertyItems_eq (p : Property) :
    propertyItems m c p = match readableType? m c p with
      | none => pure []
      | some declared => (do
        let type ← m.mapMember c.name p.name declared
        inTurn
          (itemFor p.name do
            return .getter (← Naming.ident p.name) p.name p.getter p.index? type)
          (setterItem p type)) := by
  unfold propertyItems inTurn setterItem itemFor
  cases readableType? m c p with
  | none => rfl
  | some declared => cases p.setter? <;> simp only [bind_assoc, ite_bind, pure_bind]

theorem signalItems_eq (s : Signal) :
    signalItems m c s = inTurn
      (itemFor ("signal_" ++ s.name) do
        return .signal (← Naming.ident ("signal_" ++ s.name)) s.name)
      (itemFor ("emit_" ++ s.name) do
        let params ← m.mapParams c.name s.name s.params
        return .emitter (← Naming.ident ("emit_" ++ s.name)) s.name params) := by
  simp only [signalItems, inTurn, itemFor, bind_assoc, ite_bind, pure_bind]

theorem functions_eq :
    functions m c =
      inTurn
        (inTurn
          (inTurn (constructors m c) (List.flatten <$> c.methods.mapM (methodItem m c)))
          (List.flatten <$> c.properties.mapM (propertyItems m c)))
        (List.flatten <$> c.signals.mapM (signalItems m c)) := by
  simp only [functions, inTurn, bind_assoc, pure_bind, bind_map_left]

theorem asks_constructors : Asks (constructors m c) (constructorNames m c) := by
  rw [constructors_eq]
  refine .inTurn ?_ ?_
  · split
    · exact asks_itemFor (makes_pure rfl)
    · exact asks_nothing
  · split
    · exact asks_itemFor (makes_pure rfl)
    · exact asks_nothing

theorem asks_methodItem (method : Method) : Asks (methodItem m c method) (methodNames method) := by
  rw [methodItem_eq, methodNames]
  split
  · exact asks_nothing
  · refine asks_itemFor (.bind_lift fun params _ => .bind_lift fun returns? _ => ?_)
    exact .bind_lift fun ident hident => makes_pure hident

theorem asks_setterItem (p : Property) (type : MarshaledType) :
    Asks (setterItem p type) (setterNames p) := by
  unfold setterItem setterNames
  split
  · exact asks_nothing
  · split
    · exact asks_nothing
    · exact asks_itemFor (.bind_lift fun ident hident => makes_pure hident)

theorem asks_propertyItems (p : Property) :
    Asks (propertyItems m c p) (propertyNames m c p) := by
  rw [propertyItems_eq, propertyNames]
  cases readableType? m c p with
  | none => exact asks_nothing
  | some declared =>
    refine Ensures.bind_lift fun type _ => ?_
    have hgetter : Asks (itemFor p.name do
        return .getter (← Naming.ident p.name) p.name p.getter p.index? type) [p.name] :=
      asks_itemFor (.bind_lift fun ident hident => makes_pure hident)
    exact hgetter.inTurn (asks_setterItem p type)

theorem asks_signalItems (s : Signal) : Asks (signalItems m c s) (signalNames s) := by
  rw [signalItems_eq]
  have haccessor : Asks (itemFor ("signal_" ++ s.name) do
      return .signal (← Naming.ident ("signal_" ++ s.name)) s.name) ["signal_" ++ s.name] :=
    asks_itemFor (.bind_lift fun ident hident => makes_pure hident)
  refine haccessor.inTurn (asks_itemFor (.bind_lift fun params _ => ?_))
  exact .bind_lift fun ident hident => makes_pure hident

theorem asks_functions : Asks (functions m c) (functionNames m c) := by
  rw [functions_eq]
  exact (((asks_constructors m c).inTurn (.mapM (asks_methodItem m c) _)).inTurn
    (.mapM (asks_propertyItems m c) _)).inTurn (.mapM (asks_signalItems m c) _)

/-! ## The items of a class -/

variable {m c}

/-- The names that the members of a class have in the reflection data. -/
def memberNames (c : ClassDescriptor) : List String :=
  c.constants.map ClassConstant.name ++ c.methods.map Method.name ++
    c.properties.map Property.name ++ c.signals.map Signal.name

/-- The names that the items of a class have or ask for. -/
def itemNames (m : TypeMap) (c : ClassDescriptor) : List String :=
  c.constants.map ClassConstant.name ++ functionNames m c

theorem isSpelled_of_mem_functionNames (hspelled : ∀ n ∈ memberNames c, Naming.IsSpelled n)
    {n : String} (hn : n ∈ functionNames m c) : Naming.IsSpelled n := by
  simp only [memberNames, List.mem_append, List.mem_map] at hspelled
  simp only [functionNames, List.mem_append, List.mem_flatMap] at hn
  rcases hn with ((hn | ⟨method, hmethod, hn⟩) | ⟨p, hp, hn⟩) | ⟨s, hs, hn⟩
  · have hconstructors : n = "new" ∨ n = "singleton" := by
      unfold constructorNames at hn
      split at hn <;> split at hn <;> simp at hn <;> simp [hn]
    rcases hconstructors with rfl | rfl <;> decide
  · unfold methodNames at hn
    split at hn
    · cases hn
    · rw [List.mem_singleton.mp hn]
      exact hspelled _ (.inl (.inl (.inr ⟨method, hmethod, rfl⟩)))
  · have hname := hspelled _ (.inl (.inr ⟨p, hp, rfl⟩))
    unfold propertyNames at hn
    split at hn
    · rcases List.mem_cons.mp hn with rfl | hsetter
      · exact hname
      · unfold setterNames at hsetter
        split at hsetter
        · cases hsetter
        · split at hsetter
          · cases hsetter
          · rw [List.mem_singleton.mp hsetter]
            exact .append (by decide) hname
    · cases hn
  · have hname := hspelled _ (.inr ⟨s, hs, rfl⟩)
    simp only [signalNames, List.mem_cons, List.not_mem_nil, or_false] at hn
    rcases hn with rfl | rfl
    · exact .append (by decide) hname
    · exact .append (by decide) hname

/-- Every item has the identifier of a name, and no two functions have one name. -/
theorem exists_names {level : Level} {module : String} {u : ClassUnit}
    (h : ofClass m c level module = .ok u) :
    ∃ fresh, fresh.Nodup ∧ (∀ n, n ∈ fresh ↔ n ∈ functionNames m c) ∧
      (c.constants.map ClassConstant.name ++ fresh).mapM Naming.ident =
        .ok (u.items.map ClassItem.ident) := by
  obtain ⟨constants, items, later, hconstants, hrun, hitems⟩ := (isFor_of_ofClass h).items
  obtain ⟨fresh, hgrants⟩ := asks_functions m c _ _ _ hrun
  refine ⟨fresh, hgrants.nodup, fun n => ?_, ?_⟩
  · rw [hgrants.mem_iff]
    exact and_iff_left List.not_mem_nil
  · have hidents : (constants.map fun k => (.ok k.ident : Emission String)) =
        c.constants.map fun k => Naming.ident k.name := by
      refine map_eq_of_map_eq (mapM_eq_ok_iff.mp hconstants) fun k _ item hitem => ?_
      obtain ⟨ident, hident, hitem⟩ := bind_eq_ok_iff.mp hitem
      obtain rfl := Except.ok.inj hitem
      exact hident.symm
    have hnames : (c.constants.map ClassConstant.name).map Naming.ident =
        (constants.map ClassItem.ident).map .ok := by
      rw [List.map_map, List.map_map]
      exact hidents.symm
    rw [hitems, mapM_eq_ok_iff, List.map_append, hnames, mapM_eq_ok_iff.mp hgrants.idents,
      List.map_append, List.map_append]

/-- The items of a class have distinct identifiers, unless a constant has a name that a function
asks for or a keyword takes the identifier of another name. -/
theorem items_nodup_iff {level : Level} {module : String} {u : ClassUnit}
    (h : ofClass m c level module = .ok u) (hspelled : ∀ n ∈ memberNames c, Naming.IsSpelled n)
    (hconstants : (c.constants.map ClassConstant.name).Nodup) :
    (u.items.map ClassItem.ident).Nodup ↔
      (∀ k ∈ c.constants, k.name ∉ functionNames m c) ∧
        ∀ word ∈ Text.pathKeywords, word ∈ itemNames m c → word ++ "_" ∉ itemNames m c := by
  obtain ⟨fresh, hfresh, hmem, hidents⟩ := exists_names h
  have hitem : ∀ n, n ∈ c.constants.map ClassConstant.name ++ fresh ↔ n ∈ itemNames m c := by
    intro n
    rw [itemNames, List.mem_append, List.mem_append, hmem]
  have hnames : ∀ n ∈ c.constants.map ClassConstant.name ++ fresh, Naming.IsSpelled n := by
    intro n hn
    rcases List.mem_append.mp hn with hconstant | hfunction
    · refine hspelled n ?_
      simp only [memberNames, List.mem_append]
      exact .inl (.inl (.inl hconstant))
    · exact isSpelled_of_mem_functionNames hspelled ((hmem n).mp hfunction)
  have hdistinct : (c.constants.map ClassConstant.name ++ fresh).Nodup ↔
      ∀ k ∈ c.constants, k.name ∉ functionNames m c := by
    rw [List.nodup_append]
    constructor
    · rintro ⟨-, -, hne⟩ k hk hfunction
      exact hne k.name (List.mem_map_of_mem hk) k.name ((hmem k.name).mpr hfunction) rfl
    · intro hfree
      refine ⟨hconstants, hfresh, ?_⟩
      rintro _ hconstant n hn rfl
      obtain ⟨k, hk, rfl⟩ := List.mem_map.mp hconstant
      exact hfree k hk ((hmem k.name).mp hn)
  rw [Naming.idents_nodup_iff hidents hnames, hdistinct]
  simp only [hitem]

/-- A class with items of most kinds, and with a property whose setter has the name of a method. -/
def car : ClassDescriptor :=
  { (default : ClassDescriptor) with
    name := "Car", isInstantiable := true
    methods := [
      { (default : Method) with
        name := "get_speed", returns? := some (.plain "i64"), hash? := some 1 },
      { (default : Method) with
        name := "set_speed", params := [⟨"speed", .plain "i64", none⟩], hash? := some 2 }]
    properties := [
      { (default : Property) with
        name := "speed", type := .plain "i64", getter := "get_speed"
        setter? := some "set_speed" }]
    signals := [⟨"stopped", []⟩]
    constants := [⟨"LIMIT", 120⟩] }

theorem items_nodup_iff_car :
    let m : TypeMap := ⟨{ (default : Schema) with classes := [car] }, ["Car"], "Car"⟩
    (∀ n ∈ memberNames car, Naming.IsSpelled n) ∧ (car.constants.map ClassConstant.name).Nodup ∧
      ∃ u, ofClass m car .scene "godot" = .ok u ∧ (u.items.map ClassItem.ident).Nodup := by
  intro m
  have hspelled : ∀ n ∈ memberNames car, Naming.IsSpelled n := by decide +kernel
  have hconstants : (car.constants.map ClassConstant.name).Nodup := by decide
  obtain ⟨u, hu⟩ : ∃ u, ofClass m car .scene "godot" = .ok u :=
    ⟨_, eq_ok_of_isOk (by decide +kernel) default⟩
  refine ⟨hspelled, hconstants, u, hu, (items_nodup_iff hu hspelled hconstants).mpr ⟨?_, ?_⟩⟩
  · decide +kernel
  · decide +kernel

/-- A class with a method that has the name of a constant, and one whose name is the identifier of
another. -/
def clashing : ClassDescriptor :=
  { (default : ClassDescriptor) with
    name := "Car"
    methods := [
      { (default : Method) with name := "speed", hash? := some 1 },
      { (default : Method) with name := "self", hash? := some 2 },
      { (default : Method) with name := "self_", hash? := some 3 }]
    constants := [⟨"speed", 120⟩] }

/-- Names that are distinct among constants and among methods can meet in the items. -/
theorem not_items_nodup :
    (∀ n ∈ memberNames clashing, Naming.IsSpelled n) ∧
      (clashing.constants.map ClassConstant.name).Nodup ∧
      (clashing.methods.map Method.name).Nodup ∧
      let m : TypeMap := ⟨{ (default : Schema) with classes := [clashing] }, ["Car"], "Car"⟩
      ∃ u, ofClass m clashing .scene "godot" = .ok u ∧
        u.items.map ClassItem.ident = ["speed", "speed", "self_", "self_"] ∧
        ¬(u.items.map ClassItem.ident).Nodup := by
  refine ⟨by decide +kernel, by decide, by decide, ?_⟩
  exact ⟨_, eq_ok_of_isOk (by decide +kernel) default, by decide +kernel⟩

end EngineBindings.ClassUnit
