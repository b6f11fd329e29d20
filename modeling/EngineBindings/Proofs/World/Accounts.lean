import EngineBindings.Proofs.World.Ledger

/-!
# Accounts of references

A ledger fits a table of objects if it lists all instances and its references add up: the count of
every living counted object is the retains less the releases by hand, and one for each object field
that holds it.  No act leads away from that (`Ledger.fits_record`), so it holds in every world that
acts lead to from a world without objects (`Reaches.fits`).
-/

namespace EngineBindings

/-! ## Ledgers that fit -/

namespace Ledger

/-- Whether a ledger has the name of an object anywhere. -/
def Mentions (l : Ledger) (handle : ObjectHandle) : Prop :=
  handle ∈ l.retains ∨ handle ∈ l.releases ∨ handle ∈ l.held ∨ handle ∈ l.instances.map Prod.fst

/-- Whether the field of a property of some instance holds an object. -/
def Holds (l : Ledger) (p : ExportedProperty) (handle : ObjectHandle) : Prop :=
  ∃ entry ∈ l.instances, p ∈ entry.2.userClass.exported.properties ∧
    (entry.2.fields.value p.field).object? = some handle

/-- Whether a ledger lists the instances of a table, each once, and names no object that is yet to
be created. -/
structure Lists (l : Ledger) (t : ObjectTable Instance) : Prop where
  listed : ∀ handle i, t.instance? handle = some i → (handle, i) ∈ l.instances
  handles_nodup : (l.instances.map Prod.fst).Nodup
  sound : ∀ entry ∈ l.instances, entry.2.IsSound
  created : ∀ handle, l.Mentions handle → handle.index < t.places.size

/-- Whether the counts of a table are those that a ledger comes to. -/
structure Balances (l : Ledger) (t : ObjectTable Instance) : Prop where
  balance : ∀ handle entry, t.get? handle = some entry → entry.isRefCounted = true →
    entry.count + l.releases.count handle = l.retains.count handle + l.held.count handle
  bound : ∀ handle entry, t.get? handle = some entry →
    entry.count ≤ l.retains.count handle + l.takes.count handle
  /-- An object in a field that counts its reference has one. -/
  referenced : ∀ p handle entry, l.Holds p handle → t.get? handle = some entry →
    p.ownership.tracks entry.isRefCounted = true → 0 < entry.count

structure Fits (l : Ledger) (t : ObjectTable Instance) : Prop extends Lists l t, Balances l t

variable {l l' : Ledger} {t u : ObjectTable Instance} {handle : ObjectHandle}
  {p : ExportedProperty}

theorem Holds.mem_held (h : l.Holds p handle) (hobject : p.isObject = true) : handle ∈ l.held := by
  obtain ⟨entry, hentry, hp, hvalue⟩ := h
  exact Ledger.mem_held hentry (Instance.mem_held hp hobject hvalue)

theorem fits_empty : empty.Fits .empty where
  listed := fun _ _ h => nomatch h
  handles_nodup := List.nodup_nil
  sound := fun _ h => nomatch h
  created := fun _ h => by simp [Mentions, empty, held] at h
  balance := fun _ _ h => nomatch h
  bound := fun _ _ h => nomatch h
  referenced := fun _ _ _ _ h => nomatch h

/-! ### One act -/

/-- Accounts stay balanced if the ledger takes note of all references that were gained and lost. -/
theorem Balances.moves {gains loses : ObjectHandle → Bool → Bool} (h : l.Balances t)
    (hmoves : t.Moves gains loses u)
    (hbalance : ∀ handle entry, t.get? handle = some entry →
      l'.retains.count handle + l'.held.count handle + l.releases.count handle +
          (loses handle true).toNat =
        l.retains.count handle + l.held.count handle + l'.releases.count handle +
          (gains handle true).toNat)
    (hbound : ∀ handle entry, t.get? handle = some entry →
      l.retains.count handle + l.takes.count handle + (gains handle entry.isRefCounted).toNat ≤
        l'.retains.count handle + l'.takes.count handle)
    (hholds : ∀ p handle, l'.Holds p handle → l.Holds p handle ∨
      ∀ isRefCounted, p.ownership.tracks isRefCounted = true → gains handle isRefCounted = true) :
    l'.Balances u where
  balance := by
    intro handle entry' hentry' hcounted'
    obtain ⟨entry, hentry, hflag, hcount, -⟩ := hmoves handle entry' hentry'
    have hcounted : entry.isRefCounted = true := hflag ▸ hcounted'
    have hold := h.balance handle entry hentry hcounted
    have hnew := hbalance handle entry hentry
    rw [hcounted] at hcount
    omega
  bound := by
    intro handle entry' hentry'
    obtain ⟨entry, hentry, -, hcount, -⟩ := hmoves handle entry' hentry'
    have hold := h.bound handle entry hentry
    have hnew := hbound handle entry hentry
    omega
  referenced := by
    intro p handle entry' hheld hentry' htracks
    obtain ⟨entry, hentry, hflag, hcount, hpos⟩ := hmoves handle entry' hentry'
    rw [hflag] at htracks
    rcases hpos with hpos | ⟨hgains, hloses⟩
    · exact hpos
    · rcases hholds p handle hheld with hold | hgain
      · have hold := h.referenced p handle entry hold hentry htracks
        rw [hgains, hloses] at hcount
        omega
      · rw [hgain entry.isRefCounted htracks] at hgains
        cases hgains

/-- What has no part in the instances leaves them listed. -/
theorem Lists.of_instances (h : l.Lists t) (hsize : t.places.size ≤ u.places.size)
    (hinstances : l'.instances = l.instances)
    (hinstance : ∀ handle i, u.instance? handle = some i → t.instance? handle = some i)
    (hmentions : ∀ handle, l'.Mentions handle →
      l.Mentions handle ∨ ∃ entry, t.get? handle = some entry) :
    l'.Lists u where
  listed := fun handle i hi => hinstances ▸ h.listed handle i (hinstance handle i hi)
  handles_nodup := hinstances ▸ h.handles_nodup
  sound := hinstances ▸ h.sound
  created := by
    intro handle hmention
    refine Nat.lt_of_lt_of_le ?_ hsize
    rcases hmentions handle hmention with hold | ⟨entry, hentry⟩
    · exact h.created handle hold
    · exact ObjectTable.lt_size_of_get? hentry

theorem mem_or_of_count {handles handles' : List ObjectHandle} {more : Bool}
    (hcount : handles'.count handle = handles.count handle + more.toNat)
    (hmem : handle ∈ handles') : handle ∈ handles ∨ more = true := by
  have hpos := List.count_pos_iff.mpr hmem
  cases more with
  | true => exact .inr rfl
  | false =>
    rw [hcount, Bool.toNat_false, Nat.add_zero] at hpos
    exact .inl (List.count_pos_iff.mp hpos)

/-- What is done to objects by hand leaves the instances and what they hold alone. -/
theorem Fits.byHand (h : l.Fits t) {gains loses : ObjectHandle → Bool}
    (hmoves : t.Moves (fun other _ => gains other) (fun other _ => loses other) u)
    (hsize : u.places.size = t.places.size)
    (hinstance : ∀ handle i, u.instance? handle = some i → t.instance? handle = some i)
    {retains releases : List ObjectHandle}
    (hretains : ∀ other, retains.count other = l.retains.count other + (gains other).toNat)
    (hreleases : ∀ other, releases.count other = l.releases.count other + (loses other).toNat)
    (hlive : ∀ other, gains other = true ∨ loses other = true →
      ∃ entry, t.get? other = some entry) :
    Fits { l with retains, releases } u where
  toLists := by
    refine h.toLists.of_instances (Nat.le_of_eq hsize.symm) rfl hinstance ?_
    rintro other (hretain | hrelease | hother)
    · rcases mem_or_of_count (hretains other) hretain with hold | hgains
      · exact .inl (.inl hold)
      · exact .inr (hlive other (.inl hgains))
    · rcases mem_or_of_count (hreleases other) hrelease with hold | hloses
      · exact .inl (.inr (.inl hold))
      · exact .inr (hlive other (.inr hloses))
    · exact .inl (.inr (.inr hother))
  toBalances := by
    refine h.toBalances.moves hmoves ?_ ?_ fun _ _ => .inl
    · intro other _ _
      have hheld : ({ l with retains, releases } : Ledger).held = l.held := rfl
      have hretain := hretains other
      have hrelease := hreleases other
      simp only [hheld]
      omega
    · intro other _ _
      have hretain := hretains other
      simp only [hretain]
      omega

theorem fits_retain (h : l.Fits t) (handle : ObjectHandle) :
    (if t.isAlive handle then { l with retains := handle :: l.retains } else l).Fits
      (t.retain handle) := by
  cases hentry : t.get? handle with
  | none =>
    have hdead : t.isAlive handle = false := by simp [ObjectTable.isAlive, hentry]
    simpa [hdead, ObjectTable.retain, hentry] using h
  | some entry =>
    have halive : t.isAlive handle = true := by simp [ObjectTable.isAlive, hentry]
    have hrecounts : t.Recounts (fun _ => True) (fun _ => True) (t.retain handle) :=
      ObjectTable.recounts_retain trivial
    rw [if_pos halive]
    refine h.byHand (ObjectTable.moves_retain t handle) ObjectTable.size_retain
      (fun _ _ => hrecounts.instance?_eq_some) (fun other => count_cons handle other l.retains)
      (fun _ => rfl) ?_
    rintro other (hgains | hloses)
    · exact of_decide_eq_true hgains ▸ ⟨entry, hentry⟩
    · cases hloses

theorem fits_release (h : l.Fits t) (handle : ObjectHandle) :
    (if t.isAlive handle then { l with releases := handle :: l.releases } else l).Fits
      (t.release handle) := by
  cases hentry : t.get? handle with
  | none =>
    have hdead : t.isAlive handle = false := by simp [ObjectTable.isAlive, hentry]
    simpa [hdead, ObjectTable.release, hentry] using h
  | some entry =>
    have halive : t.isAlive handle = true := by simp [ObjectTable.isAlive, hentry]
    have hrecounts : t.Recounts (fun _ => True) (fun _ => True) (t.release handle) :=
      ObjectTable.recounts_release trivial trivial
    rw [if_pos halive]
    refine h.byHand (ObjectTable.moves_release t handle) ObjectTable.size_release
      (fun _ _ => hrecounts.instance?_eq_some) (fun _ => rfl)
      (fun other => count_cons handle other l.releases) ?_
    rintro other (hgains | hloses)
    · cases hgains
    · exact of_decide_eq_true hloses ▸ ⟨entry, hentry⟩

theorem fits_free (h : l.Fits t) (handle : ObjectHandle) : l.Fits (t.free handle) := by
  refine h.byHand (ObjectTable.moves_free t handle) (ObjectTable.size_put ..) ?_ (fun _ => rfl)
    (fun _ => rfl) fun _ h => h.elim (fun h => nomatch h) fun h => nomatch h
  intro other i hi
  obtain ⟨entry, hentry, hinstance⟩ := ObjectTable.instance?_eq_some_iff.mp hi
  rw [ObjectTable.get?_free] at hentry
  split at hentry
  · cases hentry
  · exact ObjectTable.instance?_eq_some_iff.mpr ⟨entry, hentry, hinstance⟩

/-- A new object has no references, and nothing holds it. -/
theorem Balances.create (h : l.Fits t) (added : List (ObjectHandle × Instance))
    (hadded : ∀ entry ∈ added, ∀ handle ∈ entry.2.held,
      handle.index < t.places.size ∧ t.get? handle = none)
    (className : String) (isRefCounted : Bool) (instance? : Option Instance) :
    Balances { l with instances := added ++ l.instances }
      (t.create className isRefCounted instance?).2 := by
  set l' : Ledger := { l with instances := added ++ l.instances }
  have hheld : l'.held = added.flatMap (fun entry => entry.2.held) ++ l.held :=
    List.flatMap_append
  have hdead : ∀ handle ∈ added.flatMap (fun entry => entry.2.held),
      handle.index < t.places.size ∧ t.get? handle = none := by
    intro handle hmem
    obtain ⟨entry, hentry, hmem⟩ := List.mem_flatMap.mp hmem
    exact hadded entry hentry handle hmem
  have hunnamed : ¬l.Mentions ⟨t.places.size⟩ := fun hmention =>
    Nat.lt_irrefl _ (h.created _ hmention)
  have hnew : (⟨t.places.size⟩ : ObjectHandle) ∉ l'.held := by
    rw [hheld, List.mem_append]
    rintro (hmem | hmem)
    · exact Nat.lt_irrefl _ (hdead _ hmem).1
    · exact hunnamed (.inr (.inr (.inl hmem)))
  have hlive : ∀ handle entry, t.get? handle = some entry →
      l'.held.count handle = l.held.count handle := by
    intro handle entry hentry
    have hnot : handle ∉ added.flatMap fun entry => entry.2.held := by
      intro hmem
      rw [(hdead handle hmem).2] at hentry
      cases hentry
    rw [hheld, List.count_append, List.count_eq_zero.mpr hnot, Nat.zero_add]
  constructor
  · intro handle entry hentry hcounted
    rw [ObjectTable.get?_create] at hentry
    split at hentry
    · next heq =>
      obtain rfl := Option.some.inj hentry
      subst heq
      have hretains : l.retains.count ⟨t.places.size⟩ = 0 :=
        List.count_eq_zero.mpr fun hmem => hunnamed (.inl hmem)
      have hreleases : l.releases.count ⟨t.places.size⟩ = 0 :=
        List.count_eq_zero.mpr fun hmem => hunnamed (.inr (.inl hmem))
      rw [List.count_eq_zero.mpr hnew]
      show 0 + l.releases.count ⟨t.places.size⟩ = l.retains.count ⟨t.places.size⟩ + 0
      rw [hretains, hreleases]
    · rw [hlive handle entry hentry]
      exact h.balance handle entry hentry hcounted
  · intro handle entry hentry
    rw [ObjectTable.get?_create] at hentry
    split at hentry
    · obtain rfl := Option.some.inj hentry
      exact Nat.zero_le _
    · exact h.bound handle entry hentry
  · intro p handle entry hholds hentry htracks
    have hmem : handle ∈ l'.held := hholds.mem_held (p.isObject_of_tracks htracks)
    rw [ObjectTable.get?_create] at hentry
    split at hentry
    · next heq => exact absurd (heq ▸ hmem) hnew
    · obtain ⟨holder, hholder, hp, hvalue⟩ := hholds
      rcases List.mem_append.mp hholder with hin | hin
      · have hin : handle ∈ holder.2.held :=
          Instance.mem_held hp (p.isObject_of_tracks htracks) hvalue
        have hnone := (hadded holder ‹_› handle hin).2
        rw [hnone] at hentry
        cases hentry
      · exact h.referenced p handle entry ⟨holder, hin, hp, hvalue⟩ hentry htracks

theorem fits_create (h : l.Fits t) (className : String) (isRefCounted : Bool) :
    l.Fits (t.create className isRefCounted none).2 where
  toBalances :=
    Balances.create h [] (fun _ hmem => nomatch hmem) className isRefCounted none
  toLists := by
    have hsize := ObjectTable.size_create t className isRefCounted none
    refine h.toLists.of_instances (by omega) rfl ?_ fun _ => .inl
    intro handle i hi
    obtain ⟨entry, hentry, hinstance⟩ := ObjectTable.instance?_eq_some_iff.mp hi
    rw [ObjectTable.get?_create] at hentry
    split at hentry
    · obtain rfl := Option.some.inj hentry
      cases hinstance
    · exact ObjectTable.instance?_eq_some_iff.mpr ⟨entry, hentry, hinstance⟩

theorem fits_instantiate (h : l.Fits t) {i : Instance} (hsound : i.IsSound)
    (hheld : ∀ handle ∈ i.held, handle.index < t.places.size ∧ t.get? handle = none)
    (className : String) (isRefCounted : Bool) :
    Fits { l with instances := (⟨t.places.size⟩, i) :: l.instances }
      (t.create className isRefCounted (some i)).2 where
  toBalances := by
    refine Balances.create h [(⟨t.places.size⟩, i)] ?_ className isRefCounted (some i)
    intro entry hentry
    obtain rfl := List.mem_singleton.mp hentry
    exact hheld
  listed := by
    intro handle other hother
    obtain ⟨entry, hentry, hinstance⟩ := ObjectTable.instance?_eq_some_iff.mp hother
    rw [ObjectTable.get?_create] at hentry
    split at hentry
    · next heq =>
      obtain rfl := Option.some.inj hentry
      obtain rfl := Option.some.inj hinstance
      exact heq ▸ List.mem_cons_self
    · exact List.mem_cons_of_mem _
        (h.listed handle other (ObjectTable.instance?_eq_some_iff.mpr ⟨entry, hentry, hinstance⟩))
  handles_nodup := by
    refine List.nodup_cons.mpr ⟨fun hmem => ?_, h.handles_nodup⟩
    exact Nat.lt_irrefl _ (h.created ⟨t.places.size⟩ (.inr (.inr (.inr hmem))))
  sound := by
    intro entry hentry
    rcases List.mem_cons.mp hentry with rfl | hold
    · exact hsound
    · exact h.sound entry hold
  created := by
    have hsize := ObjectTable.size_create t className isRefCounted (some i)
    have hgrows : ∀ handle, l.Mentions handle → handle.index < t.places.size + 1 :=
      fun handle hold => Nat.lt_succ_of_lt (h.created handle hold)
    rw [hsize]
    rintro handle (hretain | hrelease | hmem | hmem)
    · exact hgrows handle (.inl hretain)
    · exact hgrows handle (.inr (.inl hrelease))
    · rcases List.mem_append.mp hmem with hnew | hold
      · exact Nat.lt_succ_of_lt (hheld handle hnew).1
      · exact hgrows handle (.inr (.inr (.inl hold)))
    · rcases List.mem_cons.mp hmem with rfl | hold
      · exact Nat.lt_succ_self _
      · exact hgrows handle (.inr (.inr (.inr hold)))

section Setter

variable {i : Instance} {x : HostValue} {takes : List ObjectHandle}

theorem count_held_setField (h : l.Lists t) (hmem : (handle, i) ∈ l.instances)
    (hp : p ∈ i.userClass.exported.properties) (x : HostValue) (takes : List ObjectHandle)
    (other : ObjectHandle) :
    (l.setField handle i p.field x takes).held.count other +
        (decide ((i.fields.value p.field).object? = some other) && p.isObject).toNat =
      l.held.count other + (decide (x.object? = some other) && p.isObject).toNat := by
  have hreplace := count_held_replace h.handles_nodup hmem (i.setField p.field x) other
  have hsound : i.IsSound := h.sound _ hmem
  have hfield := Instance.count_held_setField hsound hp x other
  have hheld : (l.setField handle i p.field x takes).held =
      (l.replace handle (i.setField p.field x)).held := rfl
  rw [hheld]
  omega

/-- What is held after a field took a value was held before, or is in the field. -/
theorem holds_setField (h : l.Lists t) (hmem : (handle, i) ∈ l.instances)
    (hp : p ∈ i.userClass.exported.properties) {q : ExportedProperty} {other : ObjectHandle}
    (hholds : (l.setField handle i p.field x takes).Holds q other) :
    l.Holds q other ∨ q = p ∧ x.object? = some other := by
  obtain ⟨entry, hentry, hq, hvalue⟩ := hholds
  rcases mem_replace hentry with rfl | ⟨-, hold⟩
  · have hsound := h.sound _ hmem
    change ((i.fields.set p.field x).value q.field).object? = some other at hvalue
    by_cases hfield : q.field = p.field
    · have heq : q = p :=
        List.inj_on_of_nodup_map hsound.countsReferences.fields_nodup hq hp hfield
      rw [hfield, Fields.value_set_self (hsound.field_mem p hp)] at hvalue
      exact .inr ⟨heq, hvalue⟩
    · rw [Fields.value_set_of_ne hfield] at hvalue
      exact .inl ⟨(handle, i), hmem, hq, hvalue⟩
  · exact .inl ⟨entry, hold, hq, hvalue⟩

theorem lists_setField (h : l.Lists t) (hi : t.instance? handle = some i)
    (hp : p ∈ i.userClass.exported.properties)
    (hx : ∀ other, x.object? = some other → ∃ entry, t.get? other = some entry)
    (takes : List ObjectHandle) :
    (l.setField handle i p.field x takes).Lists
      ((p.ownership.exchange x.object? (i.fields.value p.field).object? t).setInstance handle
        (i.setField p.field x)) where
  listed := by
    intro other j hj
    obtain ⟨entry, hentry, hinstance⟩ := ObjectTable.instance?_eq_some_iff.mp hj
    rw [ObjectTable.get?_setInstance] at hentry
    split at hentry
    · next heq =>
      obtain ⟨mid, -, hset⟩ := Option.bind_eq_some_iff.mp hentry
      obtain rfl := Option.some.inj hset
      obtain rfl := Option.some.inj hinstance
      subst heq
      exact mem_replace_self (List.mem_map_of_mem (h.listed other i hi))
    · next hne =>
      have hrecounts : t.Recounts (fun _ => True) (fun _ => True)
          (p.ownership.exchange x.object? (i.fields.value p.field).object? t) :=
        FieldOwnership.recounts_exchange _ (fun _ _ => trivial) (fun _ _ => ⟨trivial, trivial⟩) t
      have hold := hrecounts.instance?_eq_some
        (ObjectTable.instance?_eq_some_iff.mpr ⟨entry, hentry, hinstance⟩)
      exact mem_replace_of_ne (h.listed other j hold) hne
  handles_nodup := by
    change ((l.replace handle (i.setField p.field x)).instances.map Prod.fst).Nodup
    rw [map_fst_replace]
    exact h.handles_nodup
  sound := by
    intro entry hentry
    rcases mem_replace hentry with rfl | ⟨-, hold⟩
    · exact Instance.isSound_setField (h.sound _ (h.listed handle i hi)) p.field x
    · exact h.sound entry hold
  created := by
    rw [ObjectTable.size_setInstance, FieldOwnership.size_exchange]
    rintro other (hretain | hrelease | hheld | hkey)
    · exact h.created other (.inl hretain)
    · exact h.created other (.inr (.inl hrelease))
    · by_cases hnew : x.object? = some other
      · obtain ⟨entry, hentry⟩ := hx other hnew
        exact ObjectTable.lt_size_of_get? hentry
      · have hcount := count_held_setField h (h.listed handle i hi) hp x takes other
        have hpos := List.count_pos_iff.mpr hheld
        simp only [hnew, decide_false, Bool.false_and, Bool.toNat_false] at hcount
        exact h.created other (.inr (.inr (.inl (List.count_pos_iff.mp (by omega)))))
    · change other ∈ (l.replace handle (i.setField p.field x)).instances.map Prod.fst at hkey
      rw [map_fst_replace] at hkey
      exact h.created other (.inr (.inr (.inr hkey)))

theorem fits_setField (h : l.Fits t) (hi : t.instance? handle = some i)
    (hp : p ∈ i.userClass.exported.properties)
    (hx : ∀ other, x.object? = some other → ∃ entry, t.get? other = some entry) :
    (l.setField handle i p.field x (p.ownership.taken? t x.object?).toList).Fits
      ((p.ownership.exchange x.object? (i.fields.value p.field).object? t).setInstance handle
        (i.setField p.field x)) := by
  have hmem : (handle, i) ∈ l.instances := h.listed handle i hi
  have hsound : i.IsSound := h.sound _ hmem
  have htracks := ExportedProperty.tracks_true hsound.countsReferences hp
  have hmoves := (ObjectTable.moves_exchange p.ownership x.object?
    (i.fields.value p.field).object? t).setInstance handle (i.setField p.field x)
  refine ⟨lists_setField h.toLists hi hp hx _, h.toBalances.moves hmoves ?_ ?_ ?_⟩
  · intro other _ _
    have hcount := count_held_setField h.toLists hmem hp x
      (p.ownership.taken? t x.object?).toList other
    rw [htracks]
    simp only [setField, replace] at hcount ⊢
    omega
  · intro other entry hentry
    have hcount := FieldOwnership.count_taken? hentry p.ownership x.object?
    simp only [setField, replace, List.count_append]
    omega
  · intro q other hholds
    rcases holds_setField h.toLists hmem hp hholds with hold | ⟨rfl, hnew⟩
    · exact .inl hold
    · exact .inr fun isRefCounted htracks => by simp [hnew, htracks]

end Setter

theorem fits_set {w : World} (h : l.Fits w.objects) {name : String} {args : List Variant}
    (hproper : (ObjectAct.set handle name args).IsProper w) :
    (l.record w (.set handle name args)).Fits (w.perform (.set handle name args)).objects := by
  cases hi : w.objects.instance? handle with
  | none =>
    rw [World.perform_set_of_none hi]
    simpa only [record, hi] using h
  | some i =>
    obtain ⟨property, p, haccess⟩ := hproper i hi
    have hp := UserClass.mem_properties_of_access? haccess
    simp only [record, hi, haccess, recordSet]
    cases hx : w.newValue? i.userClass p args with
    | none =>
      rw [World.objects_perform_set_of_none hi haccess hx]
      exact h
    | some x =>
      rw [World.objects_perform_set_of_value hi haccess hx]
      exact fits_setField h hi hp fun other hother => World.exists_entry_of_newValue? hx hother

/-- The ledger of a proper act fits what the act leaves. -/
theorem fits_record {w : World} (h : l.Fits w.objects) {act : ObjectAct}
    (hproper : act.IsProper w) : (l.record w act).Fits (w.perform act).objects := by
  cases act with
  | create className isRefCounted => exact fits_create h className isRefCounted
  | instantiate c fields =>
    exact fits_instantiate h hproper.1 hproper.2 c.exported.name c.base.isRefCounted
  | set handle name args => exact fits_set h hproper
  | retain handle => exact fits_retain h handle
  | release handle => exact fits_release h handle
  | free handle => exact fits_free h handle

end Ledger

/-- The ledger of every run that starts without objects fits. -/
theorem Reaches.fits {start w : World} {l : Ledger} (hstart : start.objects = .empty)
    (h : Reaches start w l) : l.Fits w.objects := by
  induction h with
  | start => exact hstart ▸ Ledger.fits_empty
  | act _ hproper ih => exact Ledger.fits_record ih hproper
  | elsewhere _ hobjects ih => exact hobjects ▸ ih

end EngineBindings
