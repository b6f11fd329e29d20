import EngineBindings.Proofs.Object.Table
import EngineBindings.World.Basic

/-!
# What an exchange of objects in a field changes

A field that takes a new object in the place of an old one changes the counts of these two, if it
tracks them, and nothing else (`FieldOwnership.get?_exchange`).  The new object gains its reference
first, so that an object in its own place keeps its count.  Retains, releases and exchanges move
counts in one way (`ObjectTable.Moves`).
-/

namespace EngineBindings

variable {ι : Type}

/-! ## One entry -/

/-- What becomes of an object that gains a reference, or not, and then loses one, or not. -/
def ObjectEntry.recount (entry : ObjectEntry ι) (gains loses : Bool) : Option (ObjectEntry ι) :=
  if loses ∧ entry.count + gains.toNat ≤ 1 then none
  else some { entry with count := entry.count + gains.toNat - loses.toNat }

namespace ObjectEntry

variable {entry entry' : ObjectEntry ι} {gains loses : Bool}

theorem recount_false_false (entry : ObjectEntry ι) : entry.recount false false = some entry :=
  rfl

theorem recount_eq_some (h : entry.recount gains loses = some entry') :
    entry' = { entry with count := entry'.count } ∧
      entry'.count + loses.toNat = entry.count + gains.toNat := by
  unfold recount at h
  split at h
  · cases h
  · next hmore =>
    obtain rfl := Option.some.inj h
    refine ⟨rfl, ?_⟩
    cases loses with
    | false => rfl
    | true =>
      have hmore : 1 < entry.count + gains.toNat := Nat.lt_of_not_le fun h => hmore ⟨rfl, h⟩
      exact Nat.sub_add_cancel (Nat.le_of_lt hmore)

/-- Only the loss of the last reference is the end of an object. -/
theorem recount_eq_none_iff :
    entry.recount gains loses = none ↔ loses = true ∧ entry.count + gains.toNat ≤ 1 := by
  unfold recount
  split
  · next h => exact ⟨fun _ => h, fun _ => rfl⟩
  · next h => exact ⟨fun heq => (nomatch heq), fun hlast => absurd hlast h⟩

/-- An object that lives on after its count was changed has references. -/
theorem recount_pos (h : entry.recount gains loses = some entry') :
    0 < entry'.count ∨ gains = false ∧ loses = false := by
  have hcount := (recount_eq_some h).2
  have hmore : ¬(loses = true ∧ entry.count + gains.toNat ≤ 1) := by
    rw [← recount_eq_none_iff, h]
    exact Option.some_ne_none entry'
  cases loses with
  | true =>
    have hone : 1 < entry.count + gains.toNat := Nat.lt_of_not_le fun hle => hmore ⟨rfl, hle⟩
    rw [Bool.toNat_true] at hcount
    exact .inl (by omega)
  | false =>
    cases gains with
    | true =>
      rw [Bool.toNat_true, Bool.toNat_false] at hcount
      exact .inl (by omega)
    | false => exact .inr ⟨rfl, rfl⟩

/-- A reference may be gained first and lost afterwards. -/
theorem recount_gain_bind (entry : ObjectEntry ι) (gains loses : Bool) :
    (entry.recount gains false).bind (fun gained => gained.recount false loses) =
      entry.recount gains loses := by
  simp [recount]

end ObjectEntry

/-! ## The table -/

namespace ObjectTable

variable {t u : ObjectTable ι} {handle other : ObjectHandle}

theorem get?_retain_recount (t : ObjectTable ι) (handle other : ObjectHandle) :
    (t.retain handle).get? other =
      (t.get? other).bind fun entry => entry.recount (decide (handle = other)) false := by
  rw [get?_retain]
  by_cases heq : other = handle
  · subst heq
    simp [ObjectEntry.recount]
  · simp [heq, Ne.symm heq, ObjectEntry.recount_false_false]

theorem get?_release_recount (t : ObjectTable ι) (handle other : ObjectHandle) :
    (t.release handle).get? other =
      (t.get? other).bind fun entry => entry.recount false (decide (handle = other)) := by
  rw [get?_release]
  by_cases heq : other = handle
  · subst heq
    simp [ObjectEntry.recount]
  · simp [heq, Ne.symm heq, ObjectEntry.recount_false_false]

/-- What depends on the flag of an object depends on that of its entry. -/
theorem get?_ite_tracked (act : Bool → ObjectEntry ι → Option (ObjectEntry ι))
    (hact : ∀ entry, act false entry = some entry)
    (hu : u.get? other = (t.get? other).bind (act (decide (handle = other)))) (dynamic : Bool) :
    (if !dynamic || t.isRefCounted handle then u else t).get? other =
      (t.get? other).bind fun entry =>
        act (decide (handle = other) && (!dynamic || entry.isRefCounted)) entry := by
  by_cases heq : handle = other
  · subst heq
    cases hget : t.get? handle with
    | none => split <;> simp [hu, hget]
    | some entry =>
      have hflag : t.isRefCounted handle = entry.isRefCounted := by simp [isRefCounted, hget]
      by_cases htracked : (!dynamic || entry.isRefCounted) = true
      · simp [hflag, htracked, hu, hget]
      · simp [hflag, htracked, hget, hact]
  · have hsame : (t.get? other).bind (act false) = t.get? other := by
      cases t.get? other with
      | none => rfl
      | some entry => exact hact entry
    simp only [heq, decide_false, Bool.false_and] at hu ⊢
    rw [hsame] at hu ⊢
    split
    · exact hu
    · rfl

end ObjectTable

namespace FieldOwnership

/-- Whether a field counts its references to an object. -/
def tracks : FieldOwnership → Bool → Bool
  | untracked, _ => false
  | shared _ dynamic, isRefCounted => !dynamic || isRefCounted

/-- The object that a field takes a reference to, if it is given one that it tracks. -/
def taken? (o : FieldOwnership) (t : ObjectTable ι) (new? : Option ObjectHandle) :
    Option ObjectHandle :=
  new?.filter fun handle => (t.get? handle).any fun entry => o.tracks entry.isRefCounted

/-- A field takes just the references that its ownership counts. -/
theorem count_taken? {t : ObjectTable ι} {handle : ObjectHandle} {entry : ObjectEntry ι}
    (hentry : t.get? handle = some entry) (o : FieldOwnership) (new? : Option ObjectHandle) :
    (o.taken? t new?).toList.count handle =
      (decide (new? = some handle) && o.tracks entry.isRefCounted).toNat := by
  cases new? with
  | none => rfl
  | some new =>
    by_cases heq : new = handle
    · subst heq
      by_cases htracks : o.tracks entry.isRefCounted = true
      · simp [taken?, Option.filter, hentry, htracks]
      · simp [taken?, Option.filter, hentry, htracks]
    · have hcount : (o.taken? t (some new)).toList.count handle = 0 := by
        refine List.count_eq_zero.mpr fun hmem => heq ?_
        exact Option.some.inj (Option.eq_some_of_filter_eq_some (Option.mem_toList.mp hmem))
      simp [hcount, heq]

theorem get?_retain_tracked (t : ObjectTable ι) (handle other : ObjectHandle) (dynamic : Bool) :
    (if dynamic then t.retainIfCounted handle else t.retain handle).get? other =
      (t.get? other).bind fun entry =>
        entry.recount (decide (handle = other) && (!dynamic || entry.isRefCounted)) false := by
  have hif : (if dynamic then t.retainIfCounted handle else t.retain handle) =
      if !dynamic || t.isRefCounted handle then t.retain handle else t := by
    cases dynamic <;> rfl
  rw [hif]
  exact ObjectTable.get?_ite_tracked (fun gains entry => entry.recount gains false)
    ObjectEntry.recount_false_false (ObjectTable.get?_retain_recount t handle other) dynamic

theorem get?_release_tracked (t : ObjectTable ι) (handle other : ObjectHandle) (dynamic : Bool) :
    (if dynamic then t.releaseIfCounted handle else t.release handle).get? other =
      (t.get? other).bind fun entry =>
        entry.recount false (decide (handle = other) && (!dynamic || entry.isRefCounted)) := by
  have hif : (if dynamic then t.releaseIfCounted handle else t.release handle) =
      if !dynamic || t.isRefCounted handle then t.release handle else t := by
    cases dynamic <;> rfl
  rw [hif]
  exact ObjectTable.get?_ite_tracked (fun loses entry => entry.recount false loses)
    ObjectEntry.recount_false_false (ObjectTable.get?_release_recount t handle other) dynamic

/-- A field that takes a new object in the place of an old one changes the counts of these two, as
far as it tracks them, and nothing else. -/
theorem get?_exchange (o : FieldOwnership) (new? old? : Option ObjectHandle) (t : ObjectTable ι)
    (other : ObjectHandle) : (o.exchange new? old? t).get? other =
      (t.get? other).bind fun entry =>
        entry.recount (decide (new? = some other) && o.tracks entry.isRefCounted)
          (decide (old? = some other) && o.tracks entry.isRefCounted) := by
  cases o with
  | untracked => simp [exchange, tracks, ObjectEntry.recount_false_false]
  | shared nullable dynamic =>
    cases new? with
    | none =>
      cases old? with
      | none => simp [exchange, ObjectEntry.recount_false_false]
      | some old => simpa [exchange, tracks] using get?_release_tracked t old other dynamic
    | some new =>
      cases old? with
      | none => simpa [exchange, tracks] using get?_retain_tracked t new other dynamic
      | some old =>
        have h := get?_release_tracked
          (if dynamic then t.retainIfCounted new else t.retain new) old other dynamic
        rw [get?_retain_tracked, Option.bind_assoc] at h
        refine h.trans (Option.bind_congr fun entry _ => ?_)
        simp only [Option.some.injEq, tracks]
        refine Eq.trans (Option.bind_congr fun gained hgained => ?_) (entry.recount_gain_bind _ _)
        rw [(ObjectEntry.recount_eq_some hgained).1]

theorem size_exchange (o : FieldOwnership) (new? old? : Option ObjectHandle) (t : ObjectTable ι) :
    (o.exchange new? old? t).places.size = t.places.size := by
  cases o with
  | untracked => rfl
  | shared nullable dynamic =>
    have hgain : ∀ (t : ObjectTable ι) handle,
        (if dynamic then t.retainIfCounted handle else t.retain handle).places.size =
          t.places.size := by
      intro t handle
      cases dynamic with
      | false => exact ObjectTable.size_retain
      | true => exact ObjectTable.size_retainIfCounted t handle
    have hloss : ∀ (t : ObjectTable ι) handle,
        (if dynamic then t.releaseIfCounted handle else t.release handle).places.size =
          t.places.size := by
      intro t handle
      cases dynamic with
      | false => exact ObjectTable.size_release
      | true => exact ObjectTable.size_releaseIfCounted t handle
    unfold exchange
    cases new? <;> cases old? <;> simp [hgain, hloss]

end FieldOwnership

/-! ## Tables whose counts move -/

namespace ObjectTable

variable {t u : ObjectTable ι} {gains loses : ObjectHandle → Bool → Bool}

/-- Whether all objects of a table lived in an earlier one, with counts that differ by what each
gained and lost since. -/
def Moves (gains loses : ObjectHandle → Bool → Bool) (t u : ObjectTable ι) : Prop :=
  ∀ handle entry', u.get? handle = some entry' → ∃ entry, t.get? handle = some entry ∧
    entry'.isRefCounted = entry.isRefCounted ∧
    entry'.count + (loses handle entry.isRefCounted).toNat =
      entry.count + (gains handle entry.isRefCounted).toNat ∧
    (0 < entry'.count ∨
      gains handle entry.isRefCounted = false ∧ loses handle entry.isRefCounted = false)

theorem moves_of_get? (hget : ∀ other, u.get? other = (t.get? other).bind fun entry =>
    entry.recount (gains other entry.isRefCounted) (loses other entry.isRefCounted)) :
    t.Moves gains loses u := by
  intro handle entry' hentry'
  rw [hget] at hentry'
  obtain ⟨entry, hentry, hrecount⟩ := Option.bind_eq_some_iff.mp hentry'
  obtain ⟨hsame, hcount⟩ := ObjectEntry.recount_eq_some hrecount
  have hflag : entry'.isRefCounted = entry.isRefCounted := by rw [hsame]
  exact ⟨entry, hentry, hflag, hcount, ObjectEntry.recount_pos hrecount⟩

/-- An instance has no part in the counts. -/
theorem Moves.setInstance (h : t.Moves gains loses u) (handle : ObjectHandle) (content : ι) :
    t.Moves gains loses (u.setInstance handle content) := by
  intro other entry' hentry'
  rw [get?_setInstance] at hentry'
  split at hentry'
  · next heq =>
    subst heq
    obtain ⟨mid, hmid, hset⟩ := Option.bind_eq_some_iff.mp hentry'
    obtain rfl := Option.some.inj hset
    exact h other mid hmid
  · exact h other entry' hentry'

theorem moves_retain (t : ObjectTable ι) (handle : ObjectHandle) :
    t.Moves (fun other _ => decide (handle = other)) (fun _ _ => false) (t.retain handle) :=
  moves_of_get? fun other => get?_retain_recount t handle other

theorem moves_release (t : ObjectTable ι) (handle : ObjectHandle) :
    t.Moves (fun _ _ => false) (fun other _ => decide (handle = other)) (t.release handle) :=
  moves_of_get? fun other => get?_release_recount t handle other

theorem moves_free (t : ObjectTable ι) (handle : ObjectHandle) :
    t.Moves (fun _ _ => false) (fun _ _ => false) (t.free handle) := by
  intro other entry hentry
  rw [get?_free] at hentry
  split at hentry
  · cases hentry
  · exact ⟨entry, hentry, rfl, rfl, .inr ⟨rfl, rfl⟩⟩

theorem moves_exchange (o : FieldOwnership) (new? old? : Option ObjectHandle)
    (t : ObjectTable ι) :
    t.Moves (fun other isRefCounted => decide (new? = some other) && o.tracks isRefCounted)
      (fun other isRefCounted => decide (old? = some other) && o.tracks isRefCounted)
      (o.exchange new? old? t) :=
  moves_of_get? fun other => FieldOwnership.get?_exchange o new? old? t other

end ObjectTable

end EngineBindings
