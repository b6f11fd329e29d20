import EngineBindings.Proofs.Schema.Ancestors

/-!
# Which descriptors make a schema

A schema is made of descriptors with distinct names in which no class is its own ancestor, and of no
others (`Schema.ofDescriptors_accepts`); then inheritance is a partial order, and the ancestors of
every name are a chain.

The check and the list of ancestors take a bounded number of steps along parent links.  The bounds
cut off nothing, which is said by the same walks without them: `Search` goes on until it comes to a
name that it has passed or to the end of a chain, and `Ancestry` until the end of a chain.  Only a
class has a parent, so a search passes a class for every step but the last one (`search_loops`).
-/

namespace EngineBindings.Schema

variable {s : Schema}

/-! ## Repeated names -/

theorem firstRepeated?_eq_none_iff {seen names : List String} :
    firstRepeated? seen names = none ↔ names.Nodup ∧ ∀ name ∈ names, name ∉ seen := by
  induction names generalizing seen with
  | nil => simp [firstRepeated?]
  | cons name rest ih =>
    rw [firstRepeated?]
    split
    · next hseen =>
      refine ⟨fun h => (nomatch h), fun h => ?_⟩
      exact absurd (List.contains_iff_mem.mp hseen) (h.2 name List.mem_cons_self)
    · next hseen =>
      have hnew : name ∉ seen := fun hmem => hseen (List.contains_iff_mem.mpr hmem)
      rw [ih, List.nodup_cons, List.forall_mem_cons]
      constructor
      · rintro ⟨hnodup, hold⟩
        refine ⟨⟨fun hmem => hold name hmem List.mem_cons_self, hnodup⟩, hnew, ?_⟩
        exact fun other hother hmem => hold other hother (List.mem_cons_of_mem _ hmem)
      · rintro ⟨⟨hname, hnodup⟩, -, hold⟩
        refine ⟨hnodup, fun other hother hmem => ?_⟩
        rcases List.mem_cons.mp hmem with rfl | hmem
        · exact hname hother
        · exact hold other hother hmem

theorem firstRepeated?_nil_eq_none_iff {names : List String} :
    firstRepeated? [] names = none ↔ names.Nodup := by
  rw [firstRepeated?_eq_none_iff]
  simp

theorem class?_of_mem (hnodup : (s.classes.map ClassDescriptor.name).Nodup) {c : ClassDescriptor}
    (hc : c ∈ s.classes) : s.class? c.name = some c := by
  cases hfound : s.class? c.name with
  | none => exact absurd (beq_self_eq_true c.name) (List.find?_eq_none.mp hfound c hc)
  | some d =>
    rw [List.inj_on_of_nodup_map hnodup (List.mem_of_find?_eq_some hfound) hc (class?_name hfound)]

/-! ## Loops -/

/-- A walk along parent links that remembers what it has passed.  It has no bound: it ends where
there is no parent, or, with the answer that there is a loop, at a name that it has passed. -/
inductive Search (parent? : String → Option String) : List String → Option String → Bool → Prop
  | top (seen : List String) : Search parent? seen none false
  | again {seen : List String} {name : String} (hseen : name ∈ seen) :
    Search parent? seen (some name) true
  | up {seen : List String} {name : String} {answer : Bool} (hnew : name ∉ seen)
    (hrest : Search parent? (name :: seen) (parent? name) answer) :
    Search parent? seen (some name) answer

/-- Where only listed names have a parent, a search ends within one step more than there are listed
names that it has not passed. -/
theorem search_loops {parent? : String → Option String} {names : List String}
    (hnames : ∀ a b, parent? a = some b → a ∈ names) {steps : Nat} {seen : List String}
    {name? : Option String} (hsteps : (names.filter (· ∉ seen)).length < steps) :
    Search parent? seen name? (loops parent? steps seen name?) := by
  induction steps generalizing seen name? with
  | zero => cases hsteps
  | succ steps ih =>
    cases name? with
    | none => exact .top seen
    | some name =>
      rw [loops]
      by_cases hseen : name ∈ seen
      · rw [List.contains_iff_mem.mpr hseen, Bool.true_or]
        exact .again hseen
      · have hcontains : seen.contains name = false :=
          Bool.eq_false_iff.mpr fun h => hseen (List.contains_iff_mem.mp h)
        rw [hcontains, Bool.false_or]
        refine .up hseen ?_
        cases hparent : parent? name with
        | none =>
          rw [loops]
          exact .top _
        | some parent =>
          refine ih ?_
          -- the name is listed, and now it is passed
          have hfilter : names.filter (· ∉ name :: seen) =
              (names.filter (· ∉ seen)).filter (· ≠ name) := by
            rw [List.filter_filter]
            refine List.filter_congr fun other _ => ?_
            simp [not_or]
          have hmem : name ∈ names.filter (· ∉ seen) := by
            simpa [hseen] using hnames name parent hparent
          have hless : ((names.filter (· ∉ seen)).filter (· ≠ name)).length <
              (names.filter (· ∉ seen)).length :=
            List.length_filter_lt_length_iff_exists.mpr ⟨name, hmem, by simp⟩
          rw [hfilter]
          omega

theorem mem_names_of_parent? {a b : String} (h : s.parent? a = some b) :
    a ∈ s.classes.map ClassDescriptor.name := by
  obtain ⟨c, hc, hname⟩ := List.any_eq_true.mp (containsClass_of_parent? h)
  exact List.mem_map.mpr ⟨c, hc, eq_of_beq hname⟩

/-- The check of a class is never cut off. -/
theorem search_class (c : ClassDescriptor) :
    Search s.parent? [c.name] c.parent?
      (loops s.parent? (s.classes.length + 1) [c.name] c.parent?) := by
  refine search_loops (fun a b => mem_names_of_parent?) (Nat.lt_succ_of_le ?_)
  exact (List.length_filter_le _ _).trans (List.length_map _).le

/-- If all that was passed leads to where a walk is, a loop that it finds goes through a name that
leads to itself. -/
theorem exists_leadsTo_of_loops {parent? : String → Option String} {steps : Nat}
    {seen : List String} {name? : Option String}
    (hseen : ∀ a ∈ seen, ∀ b, name? = some b → LeadsTo parent? a b)
    (h : loops parent? steps seen name? = true) : ∃ a, LeadsTo parent? a a := by
  induction steps generalizing seen name? with
  | zero => cases name? <;> cases h
  | succ steps ih =>
    cases name? with
    | none => cases h
    | some name =>
      rw [loops, Bool.or_eq_true, List.contains_iff_mem] at h
      rcases h with hmem | hrest
      · exact ⟨name, hseen name hmem name rfl⟩
      · refine ih (fun a ha b hb => ?_) hrest
        rcases List.mem_cons.mp ha with rfl | ha
        · exact .single hb
        · exact (hseen a ha name rfl).tail hb

theorem firstCyclic?_eq_none (hnodup : (s.classes.map ClassDescriptor.name).Nodup)
    (h : ∀ name, ¬LeadsTo s.parent? name name) : s.firstCyclic? = none := by
  refine Option.map_eq_none_iff.mpr (List.find?_eq_none.mpr fun c hc hloops => ?_)
  have hparent : s.parent? c.name = c.parent? := by rw [parent?, class?_of_mem hnodup hc]; rfl
  obtain ⟨name, hname⟩ := exists_leadsTo_of_loops (fun a ha b hb => by
    rw [List.mem_singleton.mp ha]
    exact .single (hparent.trans hb)) hloops
  exact h name hname

/-! ## Chains -/

/-- The list of the ancestors of a name, whatever its length: a name outside a schema has none, nor
has a class without parent; any other class has its parent and the ancestors of that. -/
inductive Ancestry (s : Schema) : String → List String → Prop
  | outside {name : String} (hname : s.class? name = none) : Ancestry s name []
  | root {name : String} {c : ClassDescriptor} (hname : s.class? name = some c)
    (hparent : c.parent? = none) : Ancestry s name []
  | child {name parent : String} {c : ClassDescriptor} {rest : List String}
    (hname : s.class? name = some c) (hparent : c.parent? = some parent)
    (hrest : Ancestry s parent rest) : Ancestry s name (parent :: rest)

theorem Ancestry.leadsTo {name : String} {chain : List String} (h : Ancestry s name chain) :
    ∀ other ∈ chain, LeadsTo s.parent? name other := by
  induction h with
  | outside | root => exact fun other hother => (nomatch hother)
  | child hname hparent _ ih =>
    have hlink := Option.bind_eq_some_iff.mpr ⟨_, hname, hparent⟩
    exact List.forall_mem_cons.mpr
      ⟨.single hlink, fun other hother => .head hlink (ih other hother)⟩

theorem inheritsFrom_iff {name ancestor : String} :
    s.inheritsFrom name ancestor = true ↔ name = ancestor ∨ LeadsTo s.parent? name ancestor := by
  rw [inheritsFrom, Bool.or_eq_true, beq_iff_eq, List.contains_iff_mem, mem_ancestors_iff]

theorem inheritsFrom_trans {a b c : String} (hab : s.inheritsFrom a b = true)
    (hbc : s.inheritsFrom b c = true) : s.inheritsFrom a c = true := by
  rw [inheritsFrom_iff] at hab hbc ⊢
  rcases hab with rfl | hab
  · exact hbc
  · rcases hbc with rfl | hbc
    · exact .inr hab
    · exact .inr (hab.trans hbc)

namespace IsValid

variable (h : s.IsValid)

include h

theorem ancestry (name : String) : Ancestry s name (s.ancestors name) := by
  generalize hchain : s.ancestors name = chain
  induction chain generalizing name with
  | nil =>
    cases hclass : s.class? name with
    | none => exact .outside hclass
    | some c =>
      refine .root hclass (Option.eq_none_iff_forall_ne_some.mpr fun parent hparent => ?_)
      have hlink := Option.bind_eq_some_iff.mpr ⟨c, hclass, hparent⟩
      rw [h.ancestors_of_parent? hlink] at hchain
      cases hchain
  | cons parent rest ih =>
    cases hlink : s.parent? name with
    | none =>
      rw [ancestors_of_parent?_none hlink] at hchain
      cases hchain
    | some first =>
      rw [h.ancestors_of_parent? hlink] at hchain
      obtain ⟨rfl, hrest⟩ := List.cons.inj hchain
      obtain ⟨c, hclass, hparent⟩ := Option.bind_eq_some_iff.mp hlink
      exact .child hclass hparent (ih first hrest)

/-- A chain of ancestors passes nothing twice, not even the name that it starts from. -/
theorem ancestry_nodup {name : String} {chain : List String} (hchain : Ancestry s name chain) :
    (name :: chain).Nodup := by
  induction hchain with
  | outside | root => exact List.nodup_singleton _
  | child hname hparent hrest ih =>
    refine List.nodup_cons.mpr ⟨fun hmem => ?_, ih⟩
    exact h.not_leadsTo_self _ ((Ancestry.child hname hparent hrest).leadsTo _ hmem)

theorem inheritsFrom_antisymm {a b : String} (hab : s.inheritsFrom a b = true)
    (hba : s.inheritsFrom b a = true) : a = b := by
  rw [inheritsFrom_iff] at hab hba
  rcases hab with hab | hab
  · exact hab
  · rcases hba with hba | hba
    · exact hba.symm
    · exact absurd (hab.trans hba) (h.not_leadsTo_self a)

end IsValid

/-! ## Acceptance -/

theorem isValid_iff : s.IsValid ↔
    (s.classes.map ClassDescriptor.name).Nodup ∧ (s.builtins.map Builtin.name).Nodup ∧
      ∀ c ∈ s.classes, ¬LeadsTo s.parent? c.name c.name := by
  constructor
  · intro h
    refine ⟨?_, ?_, fun c _ => h.not_leadsTo_self c.name⟩ <;> unfold IsValid ofDescriptors at h <;>
      dsimp only at h <;> split at h
    · cases h
    · next hclasses => exact firstRepeated?_nil_eq_none_iff.mp hclasses
    · cases h
    · split at h
      · cases h
      · next hbuiltins => exact firstRepeated?_nil_eq_none_iff.mp hbuiltins
  · rintro ⟨hclasses, hbuiltins, hacyclic⟩
    have hcyclic : s.firstCyclic? = none := by
      refine firstCyclic?_eq_none hclasses fun name hself => ?_
      obtain ⟨parent, hparent, -⟩ := Relation.TransGen.head'_iff.mp hself
      obtain ⟨c, hc, rfl⟩ := List.mem_map.mp (mem_names_of_parent? hparent)
      exact hacyclic c hc hself
    unfold IsValid ofDescriptors
    dsimp only
    rw [firstRepeated?_nil_eq_none_iff.mpr hclasses, firstRepeated?_nil_eq_none_iff.mpr hbuiltins]
    dsimp only
    rw [hcyclic]

/-- What is accepted is returned as it is. -/
theorem eq_of_ofDescriptors {r : Schema} (h : ofDescriptors s.version s.classes s.builtins
    s.globalEnums s.singletons s.utilityFunctions = .ok r) : r = s := by
  unfold ofDescriptors at h
  dsimp only at h
  split at h
  · cases h
  · split at h
    · cases h
    · split at h
      · cases h
      · exact (Except.ok.inj h).symm

/-- Descriptors make a schema exactly if no two classes and no two builtin types have one name and
no class is its own ancestor; each search for a loop ends by itself.  In the schema every name has a
chain of ancestors that ends by itself and repeats nothing, and inheritance is a partial order. -/
theorem ofDescriptors_accepts (version : EngineVersion) (classes : List ClassDescriptor)
    (builtins : List Builtin) (globalEnums : List Enumeration) (singletons : List Singleton)
    (utilityFunctions : List UtilityFunction) :
    let s : Schema := ⟨version, classes, builtins, globalEnums, singletons, utilityFunctions⟩
    let result := ofDescriptors version classes builtins globalEnums singletons utilityFunctions
    (∀ c ∈ classes, Search s.parent? [c.name] c.parent?
        (loops s.parent? (classes.length + 1) [c.name] c.parent?)) ∧
      ((∃ r, result = .ok r) ↔
        (classes.map ClassDescriptor.name).Nodup ∧ (builtins.map Builtin.name).Nodup ∧
          ∀ c ∈ classes, ¬LeadsTo s.parent? c.name c.name) ∧
      ∀ r, result = .ok r → r = s ∧
        (∀ name, Ancestry r name (r.ancestors name) ∧ (name :: r.ancestors name).Nodup) ∧
        (∀ a, r.inheritsFrom a a = true) ∧
        (∀ a b, r.inheritsFrom a b = true → r.inheritsFrom b a = true → a = b) ∧
        ∀ a b c, r.inheritsFrom a b = true → r.inheritsFrom b c = true →
          r.inheritsFrom a c = true := by
  intro s result
  refine ⟨fun c _ => search_class c, ?_, fun r hr => ?_⟩
  · refine Iff.trans ⟨fun ⟨r, hr⟩ => ?_, fun h => ⟨s, h⟩⟩ (isValid_iff (s := s))
    rw [eq_of_ofDescriptors (s := s) hr] at hr
    exact hr
  · obtain rfl : r = s := eq_of_ofDescriptors hr
    have hvalid : s.IsValid := hr
    refine ⟨rfl, fun name => ?_, fun a => inheritsFrom_iff.mpr (.inl rfl),
      fun a b => hvalid.inheritsFrom_antisymm, fun a b c => inheritsFrom_trans⟩
    exact ⟨hvalid.ancestry name, hvalid.ancestry_nodup (hvalid.ancestry name)⟩

namespace SmallTree

def named (name : String) (parent? : Option String) : ClassDescriptor :=
  { (default : ClassDescriptor) with name, parent? }

/-- A tree of classes, and one below a class that is not listed. -/
def listed : List ClassDescriptor :=
  [named "Sprite" (some "Node"), named "Plugin" (some "Extension"), named "Object" none,
    named "Node" (some "Object")]

/-- A class that leads into a loop of two others. -/
def looping : List ClassDescriptor :=
  [named "Sprite" (some "Node"), named "Node" (some "Item"), named "Item" (some "Node")]

end SmallTree

open SmallTree in
theorem ofDescriptors_accepts_small :
    (∃ s, ofDescriptors default listed [] [] [] [] = .ok s ∧
      Ancestry s "Sprite" ["Node", "Object"] ∧ Ancestry s "Plugin" ["Extension"] ∧
      Ancestry s "Extension" [] ∧ s.inheritsFrom "Sprite" "Object" = true) ∧
    ¬∃ s, ofDescriptors default looping [] [] [] [] = .ok s := by
  constructor
  · obtain ⟨-, -, haccepted⟩ := ofDescriptors_accepts default listed [] [] [] []
    obtain ⟨-, hchains, -, -, htrans⟩ := haccepted _ rfl
    refine ⟨_, rfl, (hchains "Sprite").1, (hchains "Plugin").1, (hchains "Extension").1, ?_⟩
    exact htrans "Sprite" "Node" "Object" (by decide +kernel) (by decide +kernel)
  · obtain ⟨-, haccepts, -⟩ := ofDescriptors_accepts default looping [] [] [] []
    rw [haccepts]
    rintro ⟨-, -, hacyclic⟩
    refine hacyclic (named "Node" (some "Item")) (by simp [looping]) ?_
    exact .tail (.single (b := "Item") rfl) rfl

end EngineBindings.Schema
