import EngineBindings.Proofs.Host.Arguments
import EngineBindings.Proofs.World.Setter

/-!
# Calls of methods

A method runs only after all of its arguments were read.  Either every parameter has a value
(`ReadsAll`), and then the method runs once with these values, in order; or there is a first
parameter without one (`IsFirstUnread`), and then the call makes one report of the argument with
that index, changes nothing and gives nothing back.  Arguments without a parameter do not matter.

This holds of the proxy whatever the method does (`runProxy_decodesFirst`), and so it holds of the
dispatch of a call by its name, and of the call itself (`callable_decodesFirst`).
-/

namespace EngineBindings

/-! ## Callables by name -/

/-- The name of a callable. -/
def ExposedMember.callableName? : ExposedMember → Option String
  | callable m => some m.ident
  | signal _ => none

/-- Where callables have distinct names, a name finds its callable. -/
theorem UserClass.callable?_eq_some {c : UserClass} {m : Callable}
    (hm : .callable m ∈ c.methods.members)
    (hdistinct : (c.methods.members.filterMap ExposedMember.callableName?).Nodup) :
    c.callable? m.ident = some m := by
  unfold UserClass.callable?
  generalize c.methods.members = members at hm hdistinct
  induction members with
  | nil => cases hm
  | cons first rest ih =>
    rw [List.findSome?_cons]
    cases first with
    | signal s =>
      rcases List.mem_cons.mp hm with heq | hrest
      · cases heq
      · exact ih hrest hdistinct
    | callable first =>
      rw [List.filterMap_cons_some (by rfl), List.nodup_cons] at hdistinct
      rcases List.mem_cons.mp hm with heq | hrest
      · obtain rfl := ExposedMember.callable.inj heq
        simp
      · have hne : first.ident ≠ m.ident := by
          intro heq
          exact hdistinct.1 (heq ▸ List.mem_filterMap.mpr ⟨_, hrest, rfl⟩)
        simpa [hne] using ih hrest hdistinct.2

namespace World

/-! ## Parameters -/

/-- Whether the argument with an index has a value as a parameter of a type. -/
def Reads (w : World) (c : UserClass) (args : List Variant) (index : Nat) (type : MarshaledType)
    (x : HostValue) : Prop :=
  ∃ v, args[index]? = some v ∧ DecodesAs w.view type.category (c.typeOf type) v x

/-- Whether these are the values of the arguments for parameters, the first of which has an
index. -/
structure ReadsFrom (w : World) (c : UserClass) (args : List Variant) (start : Nat)
    (params : List MarshaledType) (values : List HostValue) : Prop where
  length_eq : values.length = params.length
  reads : ∀ k type x, params[k]? = some type → values[k]? = some x →
    w.Reads c args (start + k) type x

/-- Whether a parameter is the first one whose argument has no value. -/
structure IsFirstUnreadFrom (w : World) (c : UserClass) (args : List Variant) (start : Nat)
    (params : List MarshaledType) (k : Nat) : Prop where
  unread : ∃ type, params[k]? = some type ∧ ∀ x, ¬w.Reads c args (start + k) type x
  earlier : ∀ j type, j < k → params[j]? = some type → ∃ x, w.Reads c args (start + j) type x

variable {w : World} {c : UserClass} {args : List Variant} {start k : Nat}
  {type : MarshaledType} {params : List MarshaledType} {x : HostValue} {values : List HostValue}

theorem readsFrom_cons_iff :
    w.ReadsFrom c args start (type :: params) (x :: values) ↔
      w.Reads c args start type x ∧ w.ReadsFrom c args (start + 1) params values := by
  constructor
  · intro h
    refine ⟨h.reads 0 type x rfl rfl, Nat.succ.inj h.length_eq, fun k type' x' htype hx => ?_⟩
    have hread := h.reads (k + 1) type' x' htype hx
    rwa [← Nat.add_assoc, Nat.add_right_comm] at hread
  · rintro ⟨hfirst, hrest⟩
    refine ⟨congrArg Nat.succ hrest.length_eq, fun k type' x' htype hx => ?_⟩
    cases k with
    | zero =>
      obtain rfl := Option.some.inj htype
      obtain rfl := Option.some.inj hx
      exact hfirst
    | succ k =>
      have hread := hrest.reads k type' x' htype hx
      rwa [Nat.add_right_comm, Nat.add_assoc] at hread

theorem isFirstUnreadFrom_zero_iff :
    w.IsFirstUnreadFrom c args start (type :: params) 0 ↔ ∀ x, ¬w.Reads c args start type x := by
  constructor
  · rintro ⟨⟨type', htype, hnone⟩, -⟩
    obtain rfl := Option.some.inj htype
    exact hnone
  · intro hnone
    exact ⟨⟨type, rfl, hnone⟩, fun j _ hj => absurd hj (Nat.not_lt_zero j)⟩

theorem isFirstUnreadFrom_succ_iff :
    w.IsFirstUnreadFrom c args start (type :: params) (k + 1) ↔
      (∃ x, w.Reads c args start type x) ∧ w.IsFirstUnreadFrom c args (start + 1) params k := by
  have hshift : ∀ j, start + (j + 1) = start + 1 + j := fun j => by omega
  constructor
  · rintro ⟨⟨type', htype, hnone⟩, hearlier⟩
    refine ⟨hearlier 0 type (Nat.succ_pos k) rfl, ⟨type', htype, ?_⟩, fun j type'' hj htype'' => ?_⟩
    · rwa [← hshift]
    · rw [← hshift]
      exact hearlier (j + 1) type'' (Nat.succ_lt_succ hj) htype''
  · rintro ⟨hfirst, ⟨type', htype, hnone⟩, hearlier⟩
    refine ⟨⟨type', htype, ?_⟩, fun j type'' hj htype'' => ?_⟩
    · rwa [hshift]
    · cases j with
      | zero =>
        obtain rfl := Option.some.inj htype''
        exact hfirst
      | succ j =>
        rw [hshift]
        exact hearlier j type'' (Nat.lt_of_succ_lt_succ hj) htype''

/-- Either all arguments have values, or there is a first one that has none. -/
theorem readsFrom_or_isFirstUnreadFrom (w : World) (c : UserClass) (args : List Variant)
    (start : Nat) (params : List MarshaledType) :
    (∃ values, w.ReadsFrom c args start params values) ∨
      ∃ k, w.IsFirstUnreadFrom c args start params k := by
  induction params generalizing start with
  | nil =>
    refine .inl ⟨[], rfl, fun k _ _ htype => ?_⟩
    cases htype
  | cons type params ih =>
    by_cases hfirst : ∃ x, w.Reads c args start type x
    · rcases ih (start + 1) with ⟨values, hvalues⟩ | ⟨k, hk⟩
      · obtain ⟨x, hx⟩ := hfirst
        exact .inl ⟨x :: values, readsFrom_cons_iff.mpr ⟨hx, hvalues⟩⟩
      · exact .inr ⟨k + 1, isFirstUnreadFrom_succ_iff.mpr ⟨hfirst, hk⟩⟩
    · exact .inr ⟨0, isFirstUnreadFrom_zero_iff.mpr fun x hx => hfirst ⟨x, hx⟩⟩

/-! ## Reading -/

theorem read_of_reads (h : w.Reads c args start type x) :
    (ArgumentDecoder.ofCategory type.category false).read w.view (c.typeOf type) args start =
      .ok (some x) := by
  obtain ⟨v, hv, hx⟩ := h
  exact ArgumentDecoder.read_strict_eq_ok_iff.mpr ⟨v, x, hv, hx, rfl⟩

theorem read_of_unread (h : ∀ x, ¬w.Reads c args start type x) :
    ∃ e : ArgumentError, e.index = start ∧
      (ArgumentDecoder.ofCategory type.category false).read w.view (c.typeOf type) args start =
        .error e := by
  cases hread : (ArgumentDecoder.ofCategory type.category false).read w.view (c.typeOf type) args
      start with
  | error e => exact ⟨e, ArgumentDecoder.read_errorsAt _ _ e hread, rfl⟩
  | ok x? =>
    obtain ⟨v, x, hv, hx, -⟩ := ArgumentDecoder.read_strict_eq_ok_iff.mp hread
    exact absurd ⟨v, hv, hx⟩ (h x)

theorem readParams_of_readsFrom (h : w.ReadsFrom c args start params values) :
    w.readParams c args start params = .ok values := by
  induction params generalizing start values with
  | nil =>
    obtain rfl := List.length_eq_zero_iff.mp h.length_eq
    rfl
  | cons type params ih =>
    cases values with
    | nil => cases h.length_eq
    | cons x values =>
      obtain ⟨hfirst, hrest⟩ := readsFrom_cons_iff.mp h
      rw [readParams, read_of_reads hfirst]
      dsimp only [bind, Except.bind]
      rw [ih hrest]
      rfl

theorem readParams_of_isFirstUnreadFrom (h : w.IsFirstUnreadFrom c args start params k) :
    ∃ e : ArgumentError, e.index = start + k ∧ w.readParams c args start params = .error e := by
  induction params generalizing start k with
  | nil =>
    obtain ⟨_, htype, -⟩ := h.unread
    cases htype
  | cons type params ih =>
    cases k with
    | zero =>
      obtain ⟨e, hindex, hread⟩ := read_of_unread (isFirstUnreadFrom_zero_iff.mp h)
      refine ⟨e, hindex, ?_⟩
      rw [readParams, hread]
      rfl
    | succ k =>
      obtain ⟨⟨x, hfirst⟩, hrest⟩ := isFirstUnreadFrom_succ_iff.mp h
      obtain ⟨e, hindex, hread⟩ := ih hrest
      refine ⟨e, by omega, ?_⟩
      rw [readParams, read_of_reads hfirst]
      dsimp only [bind, Except.bind]
      rw [hread]

/-! ## Main statement -/

/-- Whether the outcome of a call is that of the values of its arguments, if all of them have one,
and otherwise that of the first argument without one. -/
structure DecodesFirst {ρ : Type} (w : World) (c : UserClass) (args : List Variant)
    (params : List MarshaledType) (returned : List HostValue → ρ) (refused : ArgumentError → ρ)
    (outcome : ρ) : Prop where
  of_reads : ∀ values, w.ReadsFrom c args 0 params values → outcome = returned values
  of_unread : ∀ k, w.IsFirstUnreadFrom c args 0 params k →
    ∃ e : ArgumentError, e.index = k ∧ outcome = refused e
  total : (∃ values, w.ReadsFrom c args 0 params values) ∨
    ∃ k, w.IsFirstUnreadFrom c args 0 params k

/-- What is made of an outcome. -/
theorem DecodesFirst.map {ρ σ : Type} {returned : List HostValue → ρ}
    {refused : ArgumentError → ρ} {outcome : ρ}
    (h : w.DecodesFirst c args params returned refused outcome) (f : ρ → σ) :
    w.DecodesFirst c args params (fun values => f (returned values)) (fun e => f (refused e))
      (f outcome) where
  of_reads := fun values hvalues => congrArg f (h.of_reads values hvalues)
  of_unread := by
    intro k hk
    obtain ⟨e, hindex, heq⟩ := h.of_unread k hk
    exact ⟨e, hindex, congrArg f heq⟩
  total := h.total

/-- What a call reports of an argument that cannot be read. -/
def complaint (context : String) (e : ArgumentError) : String :=
  "Error calling `" ++ context ++ "`: " ++ e.message

theorem runProxy_decodesFirst (w : World) (c : UserClass) (fields : Fields) (proxy : MethodProxy)
    (args : List Variant) (method : MethodEffect) :
    w.DecodesFirst c args proxy.params
      (fun values => ((method w fields values).1, (method w fields values).2.1,
        if proxy.returns then (method w fields values).2.2.map HostValue.encode else none))
      (fun e => (w.report (complaint proxy.context e), fields, none))
      (w.runProxy c fields proxy args method) where
  of_reads := by
    intro values hvalues
    simp only [runProxy, readParams_of_readsFrom hvalues]
  of_unread := by
    intro k hk
    obtain ⟨e, hindex, hread⟩ := readParams_of_isFirstUnreadFrom hk
    refine ⟨e, by omega, ?_⟩
    simp only [runProxy, hread]
    rfl
  total := readsFrom_or_isFirstUnreadFrom w c args 0 proxy.params

/-- The name of a callable in reports. -/
def contextOf (c : UserClass) (m : Callable) : String :=
  c.methods.block.type.code.compact ++ "." ++ m.ident

/-- What a callable gives back when it was run on fields and values. -/
def resultOf (c : UserClass) (m : Callable) (fields : Fields) (values : List HostValue) :
    Option Variant :=
  if m.returns?.isSome then (c.body m.ident fields values).2.map HostValue.encode else none

section Callable

variable {m : Callable} (hfound : c.callable? m.ident = some m)

include hfound

/-- The dispatch of the name of a callable. -/
theorem dispatchMethod_decodesFirst (w : World) (fields : Fields) (self : ObjectHandle)
    (args : List Variant) :
    w.DecodesFirst c args (m.params.map ExposedParam.type)
      (fun values => (w, (c.body m.ident fields values).1,
        .returned (resultOf c m fields values)))
      (fun e => (w.report (complaint (contextOf c m) e), fields, .returned none))
      (w.dispatchMethod c fields self m.ident args) := by
  have hproxy := runProxy_decodesFirst w c fields (m.proxy c.methods.block.type.code.compact) args
    (.ofBody (c.body m.ident))
  simp only [dispatchMethod, hfound]
  exact hproxy.map fun outcome => (outcome.1, outcome.2.1, CallOutcome.returned outcome.2.2)

/-- A call of an object by the name of a callable. -/
theorem call_decodesFirst {handle : ObjectHandle} {i : Instance}
    (hi : w.objects.instance? handle = some i) (hclass : i.userClass = c)
    (hfree : c.access? m.ident = none) (args : List Variant) :
    w.DecodesFirst c args (m.params.map ExposedParam.type)
      (fun values => (w.putFields handle i (c.body m.ident i.fields values).1,
        .ok (resultOf c m i.fields values)))
      (fun e => (w.report (complaint (contextOf c m) e), .ok none))
      (w.call handle m.ident args) := by
  subst hclass
  obtain ⟨className, hcall⟩ := call_of_instance hi m.ident args
  have hrun : w.runMember i handle m.ident args =
      w.dispatchMethod i.userClass i.fields handle m.ident args := by
    simp only [runMember, hfree]
  have hdispatch := (dispatchMethod_decodesFirst hfound w i.fields handle args).map
    fun outcome => (outcome.1.putFields handle i outcome.2.1, outcome.2.2.answer className m.ident)
  simp only [report_putFields_self hi] at hdispatch
  rw [hcall, hrun]
  exact hdispatch

end Callable

/-- The calls of a registered callable read all arguments before they do anything.  Its proxy runs a
method once or not at all, whatever the method does; the dispatch of its name runs the proxy, and so
does a call of an object by that name, unless it is the name of an accessor. -/
theorem callable_decodesFirst (w : World) (c : UserClass) {m : Callable}
    (hm : .callable m ∈ c.methods.members)
    (hdistinct : (c.methods.members.filterMap ExposedMember.callableName?).Nodup)
    (args : List Variant) :
    (∀ (fields : Fields) (method : MethodEffect),
      w.DecodesFirst c args (m.params.map ExposedParam.type)
        (fun values => ((method w fields values).1, (method w fields values).2.1,
          if m.returns?.isSome then (method w fields values).2.2.map HostValue.encode else none))
        (fun e => (w.report (complaint (contextOf c m) e), fields, none))
        (w.runProxy c fields (m.proxy c.methods.block.type.code.compact) args method)) ∧
    (∀ (fields : Fields) (self : ObjectHandle),
      w.DecodesFirst c args (m.params.map ExposedParam.type)
        (fun values => (w, (c.body m.ident fields values).1,
          .returned (resultOf c m fields values)))
        (fun e => (w.report (complaint (contextOf c m) e), fields, .returned none))
        (w.dispatchMethod c fields self m.ident args)) ∧
    ∀ handle i, w.objects.instance? handle = some i → i.userClass = c →
      c.access? m.ident = none →
        w.DecodesFirst c args (m.params.map ExposedParam.type)
          (fun values => (w.putFields handle i (c.body m.ident i.fields values).1,
            .ok (resultOf c m i.fields values)))
          (fun e => (w.report (complaint (contextOf c m) e), .ok none))
          (w.call handle m.ident args) := by
  have hfound : c.callable? m.ident = some m := UserClass.callable?_eq_some hm hdistinct
  refine ⟨fun fields method => ?_, fun fields self => ?_, fun handle i hi hclass hfree => ?_⟩
  · exact runProxy_decodesFirst w c fields (m.proxy c.methods.block.type.code.compact) args method
  · exact dispatchMethod_decodesFirst hfound w fields self args
  · exact call_decodesFirst hfound hi hclass hfree args

namespace Honking

def whole : MarshaledType :=
  ⟨Code.word "i64", .plain "i64", .primitive (.integer .i64)⟩

def team : DerivedEnum :=
  ⟨"Team", .bits32, false, [⟨"Red", "Red", 0⟩, ⟨"Blue", "Blue", 4⟩]⟩

def honk : Callable where
  ident := "honk"
  receiver? := some .exclusive
  params := [⟨"times", whole⟩, ⟨"team", ⟨Code.word "Team", .plain "Team", .enumeration .bits32⟩⟩]
  returns? := some whole

/-- Cars that say how often they honk. -/
def car : UserClass :=
  { (default : UserClass) with
    methods := { (default : ExposedMethods) with members := [.callable honk] }
    names := ⟨[team], []⟩
    body := fun _ fields values => (fields, values.head?) }

theorem times_read (args : List Variant) :
    World.empty.Reads car (.int 2 :: args) 0 whole (.integer 2) := by
  refine ⟨.int 2, rfl, .integer (by decide) (by decide), ?_⟩
  intro width e n hcategory
  cases hcategory

theorem readsFrom_blue :
    World.empty.ReadsFrom car [.int 2, .int 4, .nil] 0 (honk.params.map ExposedParam.type)
      [.integer 2, .enumeration 4] := by
  have hblue : ⟨"Blue", "Blue", 4⟩ ∈ team.cases := by decide
  refine readsFrom_cons_iff.mpr ⟨times_read _, readsFrom_cons_iff.mpr ⟨⟨.int 4, rfl, ?_⟩, ?_⟩⟩
  · refine ⟨.enumeration hblue rfl, ?_⟩
    rintro width e n hwidth - hn
    obtain rfl := TypeCategory.enumeration.inj hwidth
    obtain rfl := Variant.int.inj hn
    exact ⟨by decide, by decide⟩
  · exact ⟨rfl, fun k _ _ htype => nomatch htype⟩

/-- The second argument names no case. -/
theorem team_unread :
    World.empty.IsFirstUnreadFrom car [.int 2, .int 9] 0 (honk.params.map ExposedParam.type) 1 := by
  have hnone : ∀ c ∈ team.cases, c.number ≠ 9 := by decide
  refine isFirstUnreadFrom_succ_iff.mpr ⟨⟨_, times_read _⟩, isFirstUnreadFrom_zero_iff.mpr ?_⟩
  rintro x ⟨v, hv, hx, -⟩
  obtain rfl := Option.some.inj hv
  cases hx with
  | enumeration hcase hnumber => exact hnone _ hcase hnumber

end Honking

theorem callable_decodesFirst_honk :
    .callable Honking.honk ∈ Honking.car.methods.members ∧
      World.empty.dispatchMethod Honking.car [] ⟨0⟩ "honk" [.int 2, .int 4, .nil] =
        (World.empty, [], .returned (some (.int 2))) ∧
      ∃ e : ArgumentError, e.index = 1 ∧
        World.empty.dispatchMethod Honking.car [] ⟨0⟩ "honk" [.int 2, .int 9] =
          (World.empty.report (complaint (contextOf Honking.car Honking.honk) e), [],
            .returned none) := by
  have hm : .callable Honking.honk ∈ Honking.car.methods.members := List.mem_cons_self
  have hdistinct : (Honking.car.methods.members.filterMap
    ExposedMember.callableName?).Nodup := by decide
  have hdispatch := fun args =>
    (callable_decodesFirst World.empty Honking.car hm hdistinct args).2.1 [] ⟨0⟩
  refine ⟨hm, ?_, ?_⟩
  · exact (hdispatch _).of_reads _ Honking.readsFrom_blue
  · exact (hdispatch _).of_unread 1 Honking.team_unread

end World

end EngineBindings
