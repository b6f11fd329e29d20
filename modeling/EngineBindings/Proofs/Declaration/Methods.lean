import EngineBindings.Declaration.Methods
import EngineBindings.Proofs.Traverse

/-!
# Which methods are exposed

Every exposed member of a block is one of its methods (`ExposedMethods.mem_members_iff`), with the
types that are written for its parameters and its result (`MethodSyntax.param?_eq_ok`,
`MethodSyntax.exposedResult_eq_some`).  Nothing is said of these types beyond what is written.
-/

namespace EngineBindings

/-- The parameters of an exposed member. -/
def ExposedMember.params : ExposedMember → List ExposedParam
  | callable m => m.params
  | signal s => s.params

namespace MethodSyntax

variable {m : MethodSyntax}

/-! ## Types -/

theorem param?_eq_ok {input : InputSyntax} {p : ExposedParam} (h : param? input = some (.ok p)) :
    ∃ attributes pattern t category, input = .typed attributes pattern t ∧
      plainName? pattern = some p.ident ∧ TypeCategory.ofSyntax t none = .ok category ∧
      p.type = .ofSyntax t category := by
  cases input with
  | receiver form code => cases h
  | variadic code => cases h
  | typed attributes pattern t =>
    simp only [param?] at h
    split at h
    · cases h
    · next ident hident =>
      split at h
      · next category hcategory =>
        obtain rfl := Except.ok.inj (Option.some.inj h)
        exact ⟨attributes, pattern, t, category, rfl, hident, hcategory, rfl⟩
      · cases h

theorem mem_exposedParams_iff {params : List ExposedParam} (h : m.exposedParams = .ok params)
    {p : ExposedParam} :
    p ∈ params ↔ ∃ input ∈ m.signature.inputs, param? input = some (.ok p) := by
  simp only [exposedParams] at h
  split at h
  · obtain rfl := Except.ok.inj h
    simp only [List.mem_filterMap, toOption_eq_some_iff]
    constructor
    · rintro ⟨_, ⟨input, hinput, hresult⟩, rfl⟩
      exact ⟨input, hinput, hresult⟩
    · rintro ⟨input, hinput, hresult⟩
      exact ⟨_, ⟨input, hinput, hresult⟩, rfl⟩
  · cases h

theorem exposedResult_eq_some {type : MarshaledType} (h : m.exposedResult = .ok (some type)) :
    ∃ t category, m.signature.result? = some t ∧ TypeCategory.ofSyntax t none = .ok category ∧
      type = .ofSyntax t category := by
  simp only [exposedResult] at h
  split at h
  · cases h
  · cases h
  · next t _ hresult =>
    split at h
    · next category hcategory =>
      obtain rfl := Option.some.inj (Except.ok.inj h)
      exact ⟨t, category, hresult, hcategory, rfl⟩
    · cases h

/-! ## Members -/

theorem callable_eq_ok {k : Callable} (h : m.callable = .ok k) :
    m.exposedParams = .ok k.params ∧ m.exposedResult = .ok k.returns? := by
  dsimp only [callable] at h
  split at h
  · cases h
  · obtain ⟨params, hparams, h⟩ := bind_eq_ok_iff.mp h
    obtain ⟨returns?, hreturns, h⟩ := bind_eq_ok_iff.mp h
    obtain rfl := Except.ok.inj h
    exact ⟨hparams, hreturns⟩

theorem signal_eq_ok {s : ExposedSignal} (h : m.signal = .ok s) :
    m.exposedParams = .ok s.params := by
  dsimp only [signal] at h
  split at h
  · cases h
  · obtain ⟨result?, -, h⟩ := bind_eq_ok_iff.mp h
    split at h
    · cases h
    · split at h
      · cases h
      · obtain ⟨params, hparams, h⟩ := bind_eq_ok_iff.mp h
        obtain rfl := Except.ok.inj h
        exact hparams

theorem exposed_eq_callable {k : Callable} (h : m.exposed = .ok (some (.callable k))) :
    m.callable = .ok k := by
  unfold exposed at h
  split at h
  · cases h
  · obtain ⟨k', hk, heq⟩ := map_eq_ok_iff.mp h
    obtain rfl := ExposedMember.callable.inj (Option.some.inj heq)
    exact hk
  · obtain ⟨s, -, heq⟩ := map_eq_ok_iff.mp h
    cases heq
  · cases h

theorem exposedParams_of_exposed {member : ExposedMember} (h : m.exposed = .ok (some member)) :
    m.exposedParams = .ok member.params := by
  unfold exposed at h
  split at h
  · cases h
  · obtain ⟨k, hk, heq⟩ := map_eq_ok_iff.mp h
    obtain rfl := Option.some.inj heq
    exact (callable_eq_ok hk).1
  · obtain ⟨s, hs, heq⟩ := map_eq_ok_iff.mp h
    obtain rfl := Option.some.inj heq
    exact signal_eq_ok hs
  · cases h

end MethodSyntax

namespace ExposedMethods

theorem mem_ofItems_iff {items : List ImplItem} {out : List (ImplItem × Option ExposedMember)}
    (h : ofItems items = .ok out) {member : ExposedMember} :
    member ∈ out.filterMap Prod.snd ↔
      ∃ m, .method m ∈ items ∧ m.exposed = .ok (some member) := by
  induction items generalizing out with
  | nil =>
    obtain rfl := Except.ok.inj h
    simp
  | cons item rest ih =>
    cases item with
    | other c =>
      obtain ⟨more, hmore, rfl⟩ := map_eq_ok_iff.mp h
      simp [ih hmore]
    | method m =>
      simp only [ofItems] at h
      split at h
      · next member' more hexposed hmore =>
        obtain rfl := Except.ok.inj h
        cases member' with
        | none => simp [ih hmore, hexposed]
        | some first => simp [ih hmore, hexposed, eq_comm]
      · cases h
      · cases h
      · cases h

/-- The exposed members of a block are its exposed methods. -/
theorem mem_members_iff {b : MethodsDeclaration} {e : ExposedMethods}
    (h : ofDeclaration b = .ok e) {member : ExposedMember} :
    member ∈ e.members ↔ ∃ m, .method m ∈ b.block.items ∧ m.exposed = .ok (some member) := by
  dsimp only [ofDeclaration] at h
  split at h
  · cases h
  · split at h
    · cases h
    · obtain ⟨items, hitems, h⟩ := bind_eq_ok_iff.mp h
      obtain rfl := Except.ok.inj h
      exact mem_ofItems_iff hitems

end ExposedMethods

end EngineBindings
