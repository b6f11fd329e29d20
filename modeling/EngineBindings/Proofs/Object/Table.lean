import EngineBindings.Object.Table
import Mathlib.Logic.Basic

/-!
# What calls change in the object table

Retaining, releasing and putting an instance act on the entry of one living object
(`get?_update`).  Retaining and releasing change nothing but counts, and only an object that is
released can die (`Recounts`).
-/

namespace EngineBindings.ObjectTable

variable {ι : Type} {t u v : ObjectTable ι} {handle other : ObjectHandle} {entry : ObjectEntry ι}

theorem get?_eq_some_iff : t.get? handle = some entry ↔
    t.places[handle.index]? = some (some entry) := by
  simp [get?, Option.join_eq_some_iff]

/-- An object that lives was created. -/
theorem lt_size_of_get? (h : t.get? handle = some entry) : handle.index < t.places.size :=
  (Array.getElem?_eq_some_iff.mp (get?_eq_some_iff.mp h)).1

theorem size_put (t : ObjectTable ι) (handle : ObjectHandle) (content? : Option (ObjectEntry ι)) :
    (t.put handle content?).places.size = t.places.size :=
  Array.size_setIfInBounds

theorem get?_put_of_ne (hne : other ≠ handle) (content? : Option (ObjectEntry ι)) :
    (t.put handle content?).get? other = t.get? other := by
  have hindex : handle.index ≠ other.index := by
    intro heq
    cases handle
    cases other
    exact hne (congrArg ObjectHandle.mk heq.symm)
  simp [get?, put, Array.getElem?_setIfInBounds_ne hindex]

theorem get?_put_self (h : t.get? handle = some entry) (content? : Option (ObjectEntry ι)) :
    (t.put handle content?).get? handle = content? := by
  obtain ⟨hlt, -⟩ := Array.getElem?_eq_some_iff.mp (get?_eq_some_iff.mp h)
  simp [get?, put, Array.getElem?_setIfInBounds_self_of_lt hlt]

/-- Putting the entry of an object into its place changes nothing. -/
theorem put_self (h : t.get? handle = some entry) : t.put handle (some entry) = t := by
  obtain ⟨hlt, hplace⟩ := Array.getElem?_eq_some_iff.mp (get?_eq_some_iff.mp h)
  have hplaces : t.places.setIfInBounds handle.index (some entry) = t.places := by
    rw [← hplace, Array.setIfInBounds, dif_pos hlt, Array.set_getElem_self]
  exact congrArg ObjectTable.mk hplaces

/-- What acts on the entry of a living object changes that entry alone. -/
theorem get?_update (act : ObjectEntry ι → Option (ObjectEntry ι)) :
    (match t.get? handle with
      | some entry => t.put handle (act entry)
      | none => t).get? other =
        if other = handle then (t.get? handle).bind act else t.get? other := by
  by_cases hother : other = handle
  · subst hother
    rw [if_pos rfl]
    cases h : t.get? other with
    | none => simpa using h
    | some entry => exact get?_put_self h (act entry)
  · rw [if_neg hother]
    cases t.get? handle with
    | none => rfl
    | some entry => exact get?_put_of_ne hother (act entry)

theorem get?_retain : (t.retain handle).get? other =
    if other = handle then
      (t.get? handle).bind fun entry => some { entry with count := entry.count + 1 }
    else t.get? other :=
  get?_update fun entry => some { entry with count := entry.count + 1 }

theorem get?_release : (t.release handle).get? other =
    if other = handle then
      (t.get? handle).bind fun entry =>
        if entry.count ≤ 1 then none else some { entry with count := entry.count - 1 }
    else t.get? other := by
  rw [← get?_update, release]
  cases t.get? handle with
  | none => rfl
  | some entry =>
    dsimp only
    split <;> rfl

theorem get?_setInstance {content : ι} : (t.setInstance handle content).get? other =
    if other = handle then
      (t.get? handle).bind fun entry => some { entry with instance? := some content }
    else t.get? other :=
  get?_update fun entry => some { entry with instance? := some content }

theorem get?_free : (t.free handle).get? other = if other = handle then none else t.get? other := by
  by_cases hother : other = handle
  · subst hother
    rw [if_pos rfl, free]
    cases h : t.get? other with
    | some entry => exact get?_put_self h none
    | none =>
      simp only [get?, put, Array.getElem?_setIfInBounds_self] at h ⊢
      split <;> rfl
  · rw [if_neg hother, free, get?_put_of_ne hother]

theorem get?_create (t : ObjectTable ι) (className : String) (isRefCounted : Bool)
    (instance? : Option ι) : (t.create className isRefCounted instance?).2.get? handle =
      if handle = ⟨t.places.size⟩ then some ⟨className, isRefCounted, 0, instance?⟩
      else t.get? handle := by
  obtain ⟨index⟩ := handle
  simp only [get?, create, Array.getElem?_push, ObjectHandle.mk.injEq]
  split <;> rfl

/-! ## Places -/

theorem size_create (t : ObjectTable ι) (className : String) (isRefCounted : Bool)
    (instance? : Option ι) :
    (t.create className isRefCounted instance?).2.places.size = t.places.size + 1 :=
  Array.size_push _

theorem size_retain : (t.retain handle).places.size = t.places.size := by
  unfold retain
  split
  · exact size_put ..
  · rfl

theorem size_release : (t.release handle).places.size = t.places.size := by
  unfold release
  split
  · split <;> exact size_put ..
  · rfl

theorem size_retainIfCounted (t : ObjectTable ι) (handle : ObjectHandle) :
    (t.retainIfCounted handle).places.size = t.places.size := by
  unfold retainIfCounted
  split
  · exact size_retain
  · rfl

theorem size_releaseIfCounted (t : ObjectTable ι) (handle : ObjectHandle) :
    (t.releaseIfCounted handle).places.size = t.places.size := by
  unfold releaseIfCounted
  split
  · exact size_release
  · rfl

theorem size_setInstance {content : ι} :
    (t.setInstance handle content).places.size = t.places.size := by
  unfold setInstance
  split
  · exact size_put ..
  · rfl

/-! ## Instances -/

theorem instance?_eq_some_iff {content : ι} :
    t.instance? handle = some content ↔
      ∃ entry, t.get? handle = some entry ∧ entry.instance? = some content := by
  rw [instance?, Option.bind_eq_some_iff]

/-- Putting the instance of an object into its place changes nothing. -/
theorem setInstance_self {content : ι} (h : t.instance? handle = some content) :
    t.setInstance handle content = t := by
  obtain ⟨entry, hentry, hinstance⟩ := instance?_eq_some_iff.mp h
  have hsame : { entry with instance? := some content } = entry := by
    rw [← hinstance]
  rw [setInstance, hentry]
  dsimp only
  rw [hsame]
  exact put_self hentry

/-! ## Counts -/

/-- Whether a table differs from another one in nothing but the counts of some objects, of which
some may be gone. -/
structure Recounts (changed gone : ObjectHandle → Prop) (t u : ObjectTable ι) : Prop where
  entry_eq : ∀ handle entry, u.get? handle = some entry →
    ∃ count, t.get? handle = some { entry with count }
  same : ∀ handle, ¬changed handle → u.get? handle = t.get? handle
  dies : ∀ handle, (t.get? handle).isSome = true → u.get? handle = none → gone handle

variable {changed gone : ObjectHandle → Prop}

theorem Recounts.refl (t : ObjectTable ι) : Recounts changed gone t t where
  entry_eq := fun _ entry h => ⟨entry.count, h⟩
  same := fun _ _ => rfl
  dies := fun handle halive hdead => by
    rw [hdead] at halive
    cases halive

theorem Recounts.trans (h : Recounts changed gone t u) (h' : Recounts changed gone u v) :
    Recounts changed gone t v where
  entry_eq := by
    intro handle entry hentry
    obtain ⟨count, hcount⟩ := h'.entry_eq handle entry hentry
    obtain ⟨count', hcount'⟩ := h.entry_eq handle _ hcount
    exact ⟨count', hcount'⟩
  same := fun handle hother => (h'.same handle hother).trans (h.same handle hother)
  dies := by
    intro handle halive hdead
    by_cases hmid : (u.get? handle).isSome = true
    · exact h'.dies handle hmid hdead
    · exact h.dies handle halive (by simpa using hmid)

/-- Where nothing but counts differ, the instances are the same. -/
theorem Recounts.instance?_eq_some {changed gone : ObjectHandle → Prop}
    (h : t.Recounts changed gone u) {handle : ObjectHandle} {content : ι}
    (hcontent : u.instance? handle = some content) : t.instance? handle = some content := by
  obtain ⟨entry, hentry, hinstance⟩ := instance?_eq_some_iff.mp hcontent
  obtain ⟨count, hold⟩ := h.entry_eq handle entry hentry
  exact instance?_eq_some_iff.mpr ⟨_, hold, hinstance⟩

/-- An act on one entry that changes nothing but the count, or lets the object go. -/
theorem recounts_of_get? {act : ObjectEntry ι → Option (ObjectEntry ι)}
    (hget : ∀ other, u.get? other =
      if other = handle then (t.get? handle).bind act else t.get? other)
    (hact : ∀ old new, act old = some new → ∃ count, old = { new with count })
    (hchanged : changed handle) (hgone : ∀ old, act old = none → gone handle) :
    Recounts changed gone t u where
  entry_eq := by
    intro other entry hentry
    rw [hget] at hentry
    split at hentry
    · next heq =>
      subst heq
      obtain ⟨old, hold, hnew⟩ := Option.bind_eq_some_iff.mp hentry
      obtain ⟨count, rfl⟩ := hact old entry hnew
      exact ⟨count, hold⟩
    · exact ⟨entry.count, hentry⟩
  same := by
    intro other hother
    have hne : other ≠ handle := fun heq => hother (heq ▸ hchanged)
    rw [hget, if_neg hne]
  dies := by
    intro other halive hdead
    obtain ⟨old, hold⟩ := Option.isSome_iff_exists.mp halive
    rw [hget] at hdead
    split at hdead
    · next heq =>
      subst heq
      rw [hold] at hdead
      exact hgone old hdead
    · rw [hold] at hdead
      cases hdead

theorem recounts_retain (hchanged : changed handle) :
    Recounts changed gone t (t.retain handle) := by
  refine recounts_of_get? (fun _ => get?_retain) ?_ hchanged fun _ h => (nomatch h)
  intro old new hnew
  obtain rfl := Option.some.inj hnew
  exact ⟨old.count, rfl⟩

theorem recounts_release (hchanged : changed handle) (hgone : gone handle) :
    Recounts changed gone t (t.release handle) := by
  refine recounts_of_get? (fun _ => get?_release) ?_ hchanged fun _ _ => hgone
  intro old new hnew
  split at hnew
  · cases hnew
  · obtain rfl := Option.some.inj hnew
    exact ⟨old.count, rfl⟩

theorem recounts_retainIfCounted (hchanged : changed handle) :
    Recounts changed gone t (t.retainIfCounted handle) := by
  unfold retainIfCounted
  split
  · exact recounts_retain hchanged
  · exact .refl t

theorem recounts_releaseIfCounted (hchanged : changed handle) (hgone : gone handle) :
    Recounts changed gone t (t.releaseIfCounted handle) := by
  unfold releaseIfCounted
  split
  · exact recounts_release hchanged hgone
  · exact .refl t

end EngineBindings.ObjectTable
