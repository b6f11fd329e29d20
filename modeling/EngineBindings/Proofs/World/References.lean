import EngineBindings.Proofs.Declaration.Class
import EngineBindings.Proofs.World.Accounts

/-!
# References in fields

In every world that acts lead to, the count of a counted object is what the retains and releases by
hand come to, and one for each object field that holds it (`Reaches.isAccountOf`).  Objects die by
their own last reference only: an instance that dies takes no reference with it, so what its fields
hold lives on (`Reaches.keeps_references`).
-/

namespace EngineBindings

/-- How an act ends the life of an object. -/
inductive ObjectAct.Ends (w : World) (handle : ObjectHandle) (entry : ObjectEntry Instance) :
    ObjectAct → Prop where
  | freed : Ends w handle entry (.free handle)
  /-- A release by hand leaves no reference. -/
  | released (hlast : entry.count ≤ 1) : Ends w handle entry (.release handle)
  /-- A field that counts the last reference takes another value. -/
  | replaced {holder : ObjectHandle} {i : Instance} {name property : String} {p : ExportedProperty}
      {args : List Variant} {x : HostValue} (hi : w.objects.instance? holder = some i)
      (haccess : i.userClass.access? name = some (.set, property, p))
      (hx : w.newValue? i.userClass p args = some x) (hnew : x.object? ≠ some handle)
      (hold : (i.fields.value p.field).object? = some handle)
      (hcounts : p.ownership.tracks entry.isRefCounted = true) (hlast : entry.count = 1) :
      Ends w handle entry (.set holder name args)

/-- Whether a ledger accounts for the references of a world. -/
structure Ledger.IsAccountOf (l : Ledger) (w : World) : Prop where
  /-- Every living instance is listed as it is. -/
  listed : ∀ handle i, w.objects.instance? handle = some i → (handle, i) ∈ l.instances
  handles_nodup : (l.instances.map Prod.fst).Nodup
  count_eq : ∀ handle entry, w.objects.get? handle = some entry → entry.isRefCounted = true →
    (entry.count : Int) =
      l.retains.count handle - l.releases.count handle + l.held.count handle
  count_lt : l.retains.length + l.takes.length < Nat.pow 2 32 → ∀ handle entry,
    w.objects.get? handle = some entry → entry.count < Nat.pow 2 32
  ends : ∀ act : ObjectAct, act.IsProper w → ∀ handle entry, w.objects.get? handle = some entry →
    (w.perform act).objects.get? handle = none → act.Ends w handle entry
  /-- An object that is put into a field lives on, also where it was in this field before. -/
  survives : ∀ holder i name property p args x handle, w.objects.instance? holder = some i →
    i.userClass.access? name = some (.set, property, p) →
    w.newValue? i.userClass p args = some x → x.object? = some handle →
    w.objects.isAlive handle = true →
      (w.perform (.set holder name args)).objects.isAlive handle = true

/-! ## What one act does -/

namespace Ledger

variable {l : Ledger} {w : World} {handle : ObjectHandle} {entry : ObjectEntry Instance}

/-- An object that the field of a living instance counts has a reference. -/
theorem Fits.referenced_of_field (h : l.Fits w.objects) {holder : ObjectHandle} {i : Instance}
    (hi : w.objects.instance? holder = some i) {p : ExportedProperty}
    (hp : p ∈ i.userClass.exported.properties)
    (hold : (i.fields.value p.field).object? = some handle)
    (hentry : w.objects.get? handle = some entry)
    (hcounts : p.ownership.tracks entry.isRefCounted = true) : 0 < entry.count :=
  h.referenced p handle entry ⟨(holder, i), h.listed holder i hi, hp, hold⟩ hentry hcounts

theorem Fits.ends_set (h : l.Fits w.objects) {holder : ObjectHandle} {name : String}
    {args : List Variant} (hproper : (ObjectAct.set holder name args).IsProper w)
    (hentry : w.objects.get? handle = some entry)
    (hdead : (w.perform (.set holder name args)).objects.get? handle = none) :
    (ObjectAct.set holder name args).Ends w handle entry := by
  cases hi : w.objects.instance? holder with
  | none =>
    rw [World.perform_set_of_none hi, hentry] at hdead
    cases hdead
  | some i =>
    obtain ⟨property, p, haccess⟩ := hproper i hi
    cases hx : w.newValue? i.userClass p args with
    | none =>
      rw [World.objects_perform_set_of_none hi haccess hx, hentry] at hdead
      cases hdead
    | some x =>
      rw [World.get?_perform_set hi haccess hx hentry, Option.map_eq_none_iff,
        ObjectEntry.recount_eq_none_iff, Bool.and_eq_true, decide_eq_true_eq] at hdead
      obtain ⟨⟨hold, hcounts⟩, hlast⟩ := hdead
      have hpos := h.referenced_of_field hi (UserClass.mem_properties_of_access? haccess) hold
        hentry hcounts
      have hnew : x.object? ≠ some handle := by
        intro hnew
        simp only [hnew, hcounts, decide_true, Bool.and_self, Bool.toNat_true] at hlast
        omega
      exact .replaced hi haccess hx hnew hold hcounts (by omega)

/-- Where accounts fit, objects end by acts that take their last reference. -/
theorem Fits.ends (h : l.Fits w.objects) {act : ObjectAct} (hproper : act.IsProper w)
    (hentry : w.objects.get? handle = some entry)
    (hdead : (w.perform act).objects.get? handle = none) : act.Ends w handle entry := by
  cases act with
  | create className isRefCounted =>
    simp only [World.perform, ObjectTable.get?_create] at hdead
    split at hdead
    · cases hdead
    · rw [hentry] at hdead
      cases hdead
  | instantiate c fields =>
    simp only [World.perform, ObjectTable.get?_create] at hdead
    split at hdead
    · cases hdead
    · rw [hentry] at hdead
      cases hdead
  | set holder name args => exact h.ends_set hproper hentry hdead
  | retain other =>
    simp only [World.perform, ObjectTable.get?_retain_recount, hentry, Option.bind_some,
      ObjectEntry.recount_eq_none_iff] at hdead
    cases hdead.1
  | release other =>
    simp only [World.perform, ObjectTable.get?_release_recount, hentry, Option.bind_some,
      ObjectEntry.recount_eq_none_iff, decide_eq_true_eq] at hdead
    obtain ⟨rfl, hlast⟩ := hdead
    exact .released hlast
  | free other =>
    simp only [World.perform, ObjectTable.get?_free] at hdead
    split at hdead
    · next heq =>
      subst heq
      exact .freed
    · rw [hentry] at hdead
      cases hdead

theorem Fits.survives (h : l.Fits w.objects) {holder : ObjectHandle} {i : Instance}
    {name property : String} {p : ExportedProperty} {args : List Variant} {x : HostValue}
    (hi : w.objects.instance? holder = some i)
    (haccess : i.userClass.access? name = some (.set, property, p))
    (hx : w.newValue? i.userClass p args = some x) (hnew : x.object? = some handle)
    (halive : w.objects.isAlive handle = true) :
    (w.perform (.set holder name args)).objects.isAlive handle = true := by
  obtain ⟨entry, hentry⟩ := Option.isSome_iff_exists.mp halive
  rw [ObjectTable.isAlive, ← Option.ne_none_iff_isSome]
  intro hdead
  have hproper : (ObjectAct.set holder name args).IsProper w := by
    intro j hj
    obtain rfl := Option.some.inj (hi.symm.trans hj)
    exact ⟨property, p, haccess⟩
  cases h.ends_set hproper hentry hdead with
  | replaced hj hother hy hne =>
    obtain rfl := Option.some.inj (hi.symm.trans hj)
    obtain ⟨-, rfl⟩ := Prod.mk.inj (Prod.mk.inj (Option.some.inj (haccess.symm.trans hother))).2
    obtain rfl := Option.some.inj (hx.symm.trans hy)
    exact hne hnew

theorem isAccountOf_of_fits (h : l.Fits w.objects) : l.IsAccountOf w where
  listed := h.listed
  handles_nodup := h.handles_nodup
  count_eq := by
    intro handle entry hentry hcounted
    have hbalance := h.balance handle entry hentry hcounted
    omega
  count_lt := by
    intro hfew handle entry hentry
    have hbound := h.bound handle entry hentry
    have hretains := List.count_le_length (a := handle) (l := l.retains)
    have htakes := List.count_le_length (a := handle) (l := l.takes)
    omega
  ends := fun _ hproper _ _ => h.ends hproper
  survives := fun _ _ _ _ _ _ _ _ hi haccess hx hnew => h.survives hi haccess hx hnew

end Ledger

/-! ## A carrier and its load -/

namespace Carrier

/-- A class with one field for an object. -/
def declaration : ClassDeclaration where
  ident := "Carrier"
  params := ⟨[], true⟩
  attributes := [⟨"class", some [⟨"base", .text "Node"⟩]⟩]
  body := .named
    [⟨"base", .named "Base" [.named "Node" []], []⟩,
      ⟨"load", .named "Option" [.named "Resource" []], [⟨"export", none⟩]⟩]

def carrier : UserClass :=
  { (default : UserClass) with
    exported := (ExportedClass.ofDeclaration declaration).toOption.getD default }

def unloaded : Instance :=
  ⟨carrier, [("load", .absent)]⟩

/-- A world with a resource. -/
def stocked : World :=
  World.empty.perform (.create "Resource" true)

/-- A carrier comes without a load. -/
def coming : ObjectAct :=
  .instantiate unloaded.userClass unloaded.fields

/-- The carrier takes the resource. -/
def loading : ObjectAct :=
  .set ⟨1⟩ "set_load" [.object ⟨0⟩]

def loaded : World :=
  (stocked.perform coming).perform loading

def ledger : Ledger :=
  (Ledger.empty.record stocked coming).record (stocked.perform coming) loading

theorem unloaded_isSound : unloaded.IsSound where
  countsReferences := by
    have hdeclared : ExportedClass.ofDeclaration declaration = .ok carrier.exported :=
      eq_ok_of_isOk (by decide +kernel) default
    exact ExportedClass.countsReferences_of_declared hdeclared (by decide)
  field_mem := by
    have hfields : ∀ field ∈ carrier.exported.properties.map ExportedProperty.field,
        field ∈ unloaded.fields.map Prod.fst := by decide +kernel
    exact fun p hp => hfields p.field (List.mem_map_of_mem hp)

theorem coming_isProper : coming.IsProper stocked := by
  have hheld : unloaded.held = [] := by decide +kernel
  refine ⟨unloaded_isSound, fun handle hmem => ?_⟩
  change handle ∈ unloaded.held at hmem
  rw [hheld] at hmem
  cases hmem

theorem loading_isProper : loading.IsProper (stocked.perform coming) := by
  have hset : (carrier.access? "set_load").map Prod.fst = some .set := by decide +kernel
  intro i hi
  obtain rfl : unloaded = i := Option.some.inj hi
  obtain ⟨⟨access, property, p⟩, haccess, rfl⟩ := Option.map_eq_some_iff.mp hset
  exact ⟨property, p, haccess⟩

theorem reaches_loaded : Reaches World.empty loaded ledger := by
  have hstocked : Reaches World.empty stocked .empty := .act .start trivial
  exact (hstocked.act coming_isProper).act loading_isProper

end Carrier

/-! ## Every run -/

section Runs

variable {start w : World} {l : Ledger}

/-- The ledger of a run accounts for all references. -/
theorem Reaches.isAccountOf (hstart : start.objects = .empty) (h : Reaches start w l) :
    l.IsAccountOf w :=
  Ledger.isAccountOf_of_fits (h.fits hstart)

theorem isAccountOf_carrier :
    World.empty.objects = .empty ∧ Reaches World.empty Carrier.loaded Carrier.ledger ∧
      Carrier.ledger.IsAccountOf Carrier.loaded ∧ Carrier.ledger.held = [⟨0⟩] ∧
      Carrier.loaded.objects.count? ⟨0⟩ = some 1 :=
  ⟨rfl, Carrier.reaches_loaded, Reaches.isAccountOf rfl Carrier.reaches_loaded,
    by decide +kernel, by decide +kernel⟩

end Runs

end EngineBindings
