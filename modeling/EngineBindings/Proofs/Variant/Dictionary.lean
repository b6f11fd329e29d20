import EngineBindings.Variant.Dictionary
import Mathlib.Data.List.Forall2
import Mathlib.Data.List.Induction
import Mathlib.Logic.Relation

/-!
# Dictionaries as maps

The comparison of values is symmetric and transitive at every value, however nested
(`Variant.comparesAt_equals`); it is not reflexive, as what is no number differs from itself.  An
insertion therefore has one key to find or none (`Dictionary.Exchanges`), and changes what is read
under the keys that equal its own (`Dictionary.get?_insert`).

A sequence of insertions into the empty dictionary makes a map in the order of insertion
(`Dictionary.insertAll_isMap`).  What is read is what was last put there, the keys are the inserted
ones at their first places (`Dictionary.firstKeys`), and what is put in again where it stands
(`Dictionary.Reinserts`) makes no difference.
-/

namespace EngineBindings

/-! ## Comparisons -/

/-- Whether a comparison is symmetric and transitive at an element; for nested values this follows
from what they are made of. -/
structure ComparesAt {α : Type} (r : α → α → Bool) (a : α) : Prop where
  symm : ∀ b, r a b = r b a
  trans : ∀ b c, r a b = true → r b c = true → r a c = true

namespace ComparesAt

variable {α β : Type}

theorem of_beq [BEq α] [LawfulBEq α] (a : α) : ComparesAt (· == ·) a := by
  constructor
  · exact fun b => BEq.comm
  · intro b c hab hbc
    rwa [eq_of_beq hab]

theorem comap {r : β → β → Bool} (f : α → β) {a : α} (h : ComparesAt r (f a)) :
    ComparesAt (fun a b => r (f a) (f b)) a :=
  ⟨fun b => h.symm (f b), fun b c => h.trans (f b) (f c)⟩

theorem and {r q : α → α → Bool} {a : α} (hr : ComparesAt r a) (hq : ComparesAt q a) :
    ComparesAt (fun a b => r a b && q a b) a := by
  constructor
  · intro b
    rw [hr.symm, hq.symm]
  · intro b c hab hbc
    rw [Bool.and_eq_true] at hab hbc ⊢
    exact ⟨hr.trans b c hab.1 hbc.1, hq.trans b c hab.2 hbc.2⟩

/-- Lists are compared item by item. -/
theorem lists {r : α → α → Bool} {as : List α} (h : ∀ a ∈ as, ComparesAt r a) :
    ComparesAt (Variant.equalLists r) as := by
  induction as with
  | nil =>
    constructor
    · intro bs
      cases bs <;> rfl
    · intro bs cs hab hbc
      cases bs with
      | nil => exact hbc
      | cons b bs => cases hab
  | cons a as ih =>
    obtain ⟨ha, has⟩ := List.forall_mem_cons.mp h
    have hrest := ih has
    constructor
    · intro bs
      cases bs with
      | nil => rfl
      | cons b bs => rw [Variant.equalLists, Variant.equalLists, ha.symm, hrest.symm]
    · intro bs cs hab hbc
      cases bs with
      | nil => cases hab
      | cons b bs =>
        cases cs with
        | nil => cases hbc
        | cons c cs =>
          rw [Variant.equalLists, Bool.and_eq_true] at hab hbc ⊢
          exact ⟨ha.trans b c hab.1 hbc.1, hrest.trans bs cs hab.2 hbc.2⟩

/-- What is made in one way is compared with its like by what it is made of, and equals nothing
else. -/
theorem made {r : α → α → Bool} {q : β → β → Bool} (make : β → α) (x : β) (h : ComparesAt q x)
    (hmake : ∀ x y, r (make x) (make y) = q x y)
    (hother : ∀ x a, (∀ y, a ≠ make y) → r (make x) a = false ∧ r a (make x) = false) :
    ComparesAt r (make x) := by
  have hmade : ∀ x a, r (make x) a = true → ∃ y, a = make y := by
    intro x a ha
    by_contra hnone
    rw [(hother x a fun y hy => hnone ⟨y, hy⟩).1] at ha
    cases ha
  constructor
  · intro a
    by_cases ha : ∃ y, a = make y
    · obtain ⟨y, rfl⟩ := ha
      rw [hmake, hmake, h.symm]
    · obtain ⟨hleft, hright⟩ := hother x a fun y hy => ha ⟨y, hy⟩
      rw [hleft, hright]
  · intro b c hab hbc
    obtain ⟨y, rfl⟩ := hmade x b hab
    obtain ⟨z, rfl⟩ := hmade y c hbc
    rw [hmake] at hab hbc ⊢
    exact h.trans y z hab hbc

/-- Numbers are compared as numbers: zero has no sign, and what is no number equals nothing. -/
theorem binary (f : BinaryFormat) (n : Nat) : ComparesAt f.equal n := by
  constructor
  · intro m
    simp only [BinaryFormat.equal]
    rw [Bool.and_comm (!f.isNaN n), Bool.and_comm (f.magnitude n == 0),
      BEq.comm (a := n)]
  · intro m k hnm hmk
    simp only [BinaryFormat.equal, Bool.and_eq_true, Bool.or_eq_true, beq_iff_eq] at hnm hmk ⊢
    obtain ⟨⟨hn, -⟩, hnm⟩ := hnm
    obtain ⟨⟨-, hk⟩, hmk⟩ := hmk
    refine ⟨⟨hn, hk⟩, ?_⟩
    rcases hnm with rfl | ⟨hzero, hm⟩
    · exact hmk
    · rcases hmk with rfl | ⟨-, hk⟩
      · exact .inr ⟨hzero, hm⟩
      · exact .inr ⟨hzero, hk⟩

end ComparesAt

namespace Variant

/-- What holds of all values that hold no others, and of dictionaries and arrays if it holds of what
they hold, holds of all values. -/
theorem nested_induction {motive : Variant → Prop}
    (leaf : ∀ v, (∀ entries, v ≠ .dictionary entries) →
      (∀ items typing?, v ≠ .array items typing?) → motive v)
    (dictionary : ∀ entries, (∀ entry ∈ entries, motive entry.1 ∧ motive entry.2) →
      motive (.dictionary entries))
    (array : ∀ items typing?, (∀ v ∈ items, motive v) → motive (.array items typing?))
    (v : Variant) : motive v := by
  cases v with
  | dictionary entries =>
    refine dictionary entries fun ⟨key, value⟩ hentry => ?_
    have hsize : 1 + sizeOf key + sizeOf value < sizeOf entries :=
      List.sizeOf_lt_of_mem hentry
    exact ⟨nested_induction leaf dictionary array key,
      nested_induction leaf dictionary array value⟩
  | array items typing? =>
    refine array items typing? fun w hw => ?_
    have hsize := List.sizeOf_lt_of_mem hw
    exact nested_induction leaf dictionary array w
  | _ => exact leaf _ nofun nofun
termination_by sizeOf v
decreasing_by all_goals simp_wf; omega

/-- Whether two entries are equal, key by key and value by value. -/
def equalEntry (a b : Variant × Variant) : Bool :=
  equals a.1 b.1 && equals a.2 b.2

theorem equalItems_eq (as bs : List Variant) : equalItems as bs = equalLists equals as bs := by
  induction as generalizing bs with
  | nil => cases bs <;> simp [equalItems, equalLists]
  | cons a as ih => cases bs <;> simp [equalItems, equalLists, ih]

theorem equalEntries_eq (as bs : List (Variant × Variant)) :
    equalEntries as bs = equalLists equalEntry as bs := by
  induction as generalizing bs with
  | nil => cases bs <;> simp [equalEntries, equalLists]
  | cons a as ih => cases bs <;> simp [equalEntries, equalLists, equalEntry, ih]

theorem comparesAt_float32 (bits : UInt32) : ComparesAt equalFloat32 bits :=
  (ComparesAt.binary _ bits.toNat).comap UInt32.toNat

theorem comparesAt_float64 (bits : UInt64) : ComparesAt equalFloat64 bits :=
  (ComparesAt.binary _ bits.toNat).comap UInt64.toNat

/-- A packed array is equal to another one of its kind if its items are. -/
theorem comparesAt_packed (items : PackedItems) : ComparesAt equalPacked items := by
  have plain : ∀ a : PackedItems, (∀ b, equalPacked a b = (a == b) ∧ equalPacked b a = (b == a)) →
      ComparesAt equalPacked a := by
    intro a ha
    constructor
    · intro b
      rw [(ha b).1, (ha b).2, BEq.comm]
    · intro b c hab hbc
      rw [(ha b).1] at hab
      rwa [eq_of_beq hab]
  cases items with
  | bytes xs => exact plain _ fun b => by cases b <;> exact ⟨rfl, rfl⟩
  | ints32 xs => exact plain _ fun b => by cases b <;> exact ⟨rfl, rfl⟩
  | ints64 xs => exact plain _ fun b => by cases b <;> exact ⟨rfl, rfl⟩
  | strings xs => exact plain _ fun b => by cases b <;> exact ⟨rfl, rfl⟩
  | floats32 xs =>
    refine .made PackedItems.floats32 xs (.lists fun x _ => comparesAt_float32 x) (fun _ _ => rfl)
      fun x a ha => ?_
    cases a <;> first | exact absurd rfl (ha _) | exact ⟨rfl, rfl⟩
  | floats64 xs =>
    refine .made PackedItems.floats64 xs (.lists fun x _ => comparesAt_float64 x) (fun _ _ => rfl)
      fun x a ha => ?_
    cases a <;> first | exact absurd rfl (ha _) | exact ⟨rfl, rfl⟩
  | reals shape xs =>
    have hitems : ComparesAt (equalLists (equalLists equalFloat32)) (xs.map (·.toList)) :=
      .lists fun item _ => .lists fun x _ => comparesAt_float32 x
    let lists (p : Σ shape : PackedShape, List (Vector UInt32 shape.item.size)) :=
      p.2.map (·.toList)
    have hparts : ComparesAt (fun p q =>
        p.1 == q.1 && equalLists (equalLists equalFloat32) (lists p) (lists q)) ⟨shape, xs⟩ :=
      .and (.comap Sigma.fst (.of_beq shape)) (.comap lists hitems)
    let make (p : Σ shape : PackedShape, List (Vector UInt32 shape.item.size)) :=
      PackedItems.reals p.1 p.2
    refine .made (r := equalPacked) make ⟨shape, xs⟩ hparts (fun _ _ => rfl) fun x a ha => ?_
    cases a <;> first | exact absurd rfl (ha ⟨_, _⟩) | exact ⟨rfl, rfl⟩

/-- The comparison of values is symmetric and transitive. -/
theorem comparesAt_equals (v : Variant) : ComparesAt equals v := by
  induction v using nested_induction with
  | leaf v hentries hitems =>
    cases v with
    | nil =>
      refine .made (r := equals) (fun _ : Unit => nil) () (.of_beq ()) (fun _ _ => rfl)
        fun x a ha => ?_
      cases a <;> first | exact absurd rfl (ha ()) | exact ⟨rfl, rfl⟩
    | bool value =>
      refine .made (r := equals) bool value (.of_beq value) (fun _ _ => rfl) fun x a ha => ?_
      cases a <;> first | exact absurd rfl (ha _) | exact ⟨rfl, rfl⟩
    | int value =>
      refine .made (r := equals) int value (.of_beq value) (fun _ _ => rfl) fun x a ha => ?_
      cases a <;> first | exact absurd rfl (ha _) | exact ⟨rfl, rfl⟩
    | float bits =>
      refine .made (r := equals) float bits (comparesAt_float64 bits) (fun _ _ => rfl)
        fun x a ha => ?_
      cases a <;> first | exact absurd rfl (ha _) | exact ⟨rfl, rfl⟩
    | text kind content =>
      refine .made (r := equals) (fun p => text p.1 p.2) (kind, content) (.of_beq _)
        (fun _ _ => rfl) fun x a ha => ?_
      cases a <;> first | exact absurd rfl (ha (_, _)) | exact ⟨rfl, rfl⟩
    | reals shape components =>
      let list (p : Σ shape : RealShape, Vector UInt32 shape.size) := p.2.toList
      have hparts : ComparesAt (fun p q => p.1 == q.1 && equalLists equalFloat32 (list p) (list q))
          ⟨shape, components⟩ :=
        .and (.comap Sigma.fst (.of_beq shape))
          (.comap list (.lists fun x _ => comparesAt_float32 x))
      let make (p : Σ shape : RealShape, Vector UInt32 shape.size) := reals p.1 p.2
      refine .made (r := equals) make ⟨shape, components⟩ hparts (fun _ _ => rfl) fun x a ha => ?_
      cases a <;> first | exact absurd rfl (ha ⟨_, _⟩) | exact ⟨rfl, rfl⟩
    | ints shape components =>
      let list (p : Σ shape : IntShape, Vector Int32 shape.size) := p.2.toList
      have hparts : ComparesAt (fun p q => p.1 == q.1 && list p == list q) ⟨shape, components⟩ :=
        .and (.comap Sigma.fst (.of_beq shape)) (.comap list (.of_beq _))
      let make (p : Σ shape : IntShape, Vector Int32 shape.size) := ints p.1 p.2
      refine .made (r := equals) make ⟨shape, components⟩ hparts (fun _ _ => rfl) fun x a ha => ?_
      cases a <;> first | exact absurd rfl (ha ⟨_, _⟩) | exact ⟨rfl, rfl⟩
    | rid id =>
      refine .made (r := equals) rid id (.of_beq id) (fun _ _ => rfl) fun x a ha => ?_
      cases a <;> first | exact absurd rfl (ha _) | exact ⟨rfl, rfl⟩
    | object handle =>
      refine .made (r := equals) object handle (.of_beq handle) (fun _ _ => rfl) fun x a ha => ?_
      cases a <;> first | exact absurd rfl (ha _) | exact ⟨rfl, rfl⟩
    | callable object? method =>
      refine .made (r := equals) (fun p => callable p.1 p.2) (object?, method) (.of_beq _)
        (fun _ _ => rfl) fun x a ha => ?_
      cases a <;> first | exact absurd rfl (ha (_, _)) | exact ⟨rfl, rfl⟩
    | signal object? name =>
      refine .made (r := equals) (fun p => signal p.1 p.2) (object?, name) (.of_beq _)
        (fun _ _ => rfl) fun x a ha => ?_
      cases a <;> first | exact absurd rfl (ha (_, _)) | exact ⟨rfl, rfl⟩
    | packed items =>
      refine .made (r := equals) packed items (comparesAt_packed items) (fun _ _ => rfl)
        fun x a ha => ?_
      cases a <;> first | exact absurd rfl (ha _) | exact ⟨rfl, rfl⟩
    | dictionary entries => exact absurd rfl (hentries entries)
    | array items typing? => exact absurd rfl (hitems items typing?)
  | dictionary entries ih =>
    have hentries : ComparesAt (equalLists equalEntry) entries :=
      .lists fun entry hentry => .and (.comap Prod.fst (ih entry hentry).1)
        (.comap Prod.snd (ih entry hentry).2)
    refine .made (r := equals) dictionary entries hentries (fun _ _ => equalEntries_eq _ _)
      fun x a ha => ?_
    cases a <;> first | exact absurd rfl (ha _) | exact ⟨rfl, rfl⟩
  | array items typing? ih =>
    have hparts : ComparesAt (fun p q : List Variant × Option ArrayTyping =>
        equalLists equals p.1 q.1 && p.2 == q.2) (items, typing?) :=
      .and (.comap Prod.fst (.lists ih)) (.comap Prod.snd (.of_beq typing?))
    refine .made (r := equals) (fun p => array p.1 p.2) (items, typing?) hparts (fun p q => ?_)
      fun x a ha => ?_
    · rw [equals, equalItems_eq]
    · cases a <;> first | exact absurd rfl (ha (_, _)) | exact ⟨rfl, rfl⟩

theorem equals_comm (a b : Variant) : a.equals b = b.equals a :=
  (comparesAt_equals a).symm b

theorem equals_trans {a b c : Variant} (hab : a.equals b = true) (hbc : b.equals c = true) :
    a.equals c = true :=
  (comparesAt_equals a).trans b c hab hbc

/-- Equal values are equal to the same values. -/
theorem equals_congr {a b : Variant} (h : a.equals b = true) (c : Variant) :
    a.equals c = b.equals c := by
  have hsymm : b.equals a = true := equals_comm a b ▸ h
  exact Bool.eq_iff_iff.mpr ⟨equals_trans hsymm, equals_trans h⟩

theorem equals_congr_right {a b : Variant} (h : a.equals b = true) (c : Variant) :
    c.equals a = c.equals b := by
  rw [equals_comm c, equals_comm c, equals_congr h]

/-- Only what equals itself equals anything. -/
theorem equals_self_of_equals {a b : Variant} (h : a.equals b = true) : a.equals a = true :=
  equals_congr_right h a ▸ h

theorem equalLists_iff {α : Type} {r : α → α → Bool} {as bs : List α} :
    equalLists r as bs = true ↔ List.Forall₂ (fun a b => r a b = true) as bs := by
  induction as generalizing bs with
  | nil =>
    cases bs with
    | nil => exact iff_of_true rfl .nil
    | cons b bs => exact iff_of_false Bool.false_ne_true nofun
  | cons a as ih =>
    cases bs with
    | nil => exact iff_of_false Bool.false_ne_true nofun
    | cons b bs => rw [equalLists, Bool.and_eq_true, ih, List.forall₂_cons]

end Variant

namespace Dictionary

/-! ## One insertion -/

/-- The keys in order. -/
def keys (d : Dictionary) : List Variant :=
  d.entries.map Prod.fst

/-- What becomes of entries when a value is put under a key: it takes the place of the value of the
first equal key, or comes last with the key if there is none. -/
inductive Exchanges (key value : Variant) :
    List (Variant × Variant) → List (Variant × Variant) → Option Variant → Prop
  | added {entries : List (Variant × Variant)}
    (hnew : ∀ entry ∈ entries, entry.1.equals key = false) :
    Exchanges key value entries (entries ++ [(key, value)]) none
  | replaced {before after : List (Variant × Variant)} {k old : Variant}
    (hbefore : ∀ entry ∈ before, entry.1.equals key = false) (hkey : k.equals key = true) :
    Exchanges key value (before ++ (k, old) :: after) (before ++ (k, value) :: after) (some old)

theorem exchanges_exchangeEntry (key value : Variant) (entries : List (Variant × Variant)) :
    Exchanges key value entries (exchangeEntry key value entries).1
      (exchangeEntry key value entries).2 := by
  induction entries with
  | nil => exact .added nofun
  | cons entry rest ih =>
    rw [exchangeEntry]
    split
    · next hkey =>
      show Exchanges key value ([] ++ (entry.1, entry.2) :: rest) ([] ++ (entry.1, value) :: rest) _
      exact .replaced nofun hkey
    · next hkey =>
      have hother : entry.1.equals key = false := Bool.eq_false_iff.mpr hkey
      dsimp only
      generalize (exchangeEntry key value rest).1 = entries' at ih ⊢
      generalize (exchangeEntry key value rest).2 = previous at ih ⊢
      cases ih with
      | added hnew => exact .added (List.forall_mem_cons.mpr ⟨hother, hnew⟩)
      | @replaced before after k old hbefore hk =>
        show Exchanges key value ((entry :: before) ++ (k, old) :: after)
          ((entry :: before) ++ (k, value) :: after) _
        exact .replaced (List.forall_mem_cons.mpr ⟨hother, hbefore⟩) hk

theorem exchanges_exchange (d : Dictionary) (key value : Variant) :
    Exchanges key value d.entries (d.insert key value).entries (d.exchange key value).2 :=
  exchanges_exchangeEntry key value d.entries

theorem find?_eq_none {entries : List (Variant × Variant)} {key : Variant}
    (h : ∀ entry ∈ entries, entry.1.equals key = false) :
    entries.find? (fun entry => entry.1.equals key) = none :=
  List.find?_eq_none.mpr fun entry hentry => by
    rw [h entry hentry]
    exact Bool.false_ne_true

/-- An insertion gives the value that the key had. -/
theorem exchange_snd (d : Dictionary) (key value : Variant) :
    (d.exchange key value).2 = d.get? key := by
  have h := exchanges_exchange d key value
  rw [get?]
  generalize (d.exchange key value).2 = previous at h ⊢
  generalize (d.insert key value).entries = entries' at h
  generalize d.entries = entries at h ⊢
  cases h with
  | added hnew => rw [find?_eq_none hnew, Option.map_none]
  | replaced hbefore hkey =>
    rw [List.find?_append, find?_eq_none hbefore, Option.none_or, List.find?_cons, hkey,
      Option.map_some]

/-- After an insertion the key, and what equals it, has the new value, and all else what it had. -/
theorem get?_insert (d : Dictionary) (key value other : Variant) :
    (d.insert key value).get? other = if key.equals other then some value else d.get? other := by
  have h := exchanges_exchange d key value
  rw [get?, get?]
  generalize (d.exchange key value).2 = previous at h
  generalize (d.insert key value).entries = entries' at h ⊢
  generalize d.entries = entries at h ⊢
  cases h with
  | added hnew =>
    rw [List.find?_append, List.find?_singleton]
    split
    · next hother =>
      rw [find?_eq_none fun entry hentry =>
        Variant.equals_congr_right hother entry.1 ▸ hnew entry hentry]
      rfl
    · rw [Option.or_none]
  | @replaced before after k old hbefore hkey =>
    rw [List.find?_append, List.find?_append, List.find?_cons, List.find?_cons,
      Variant.equals_congr hkey]
    cases hother : key.equals other with
    | true =>
      rw [find?_eq_none fun entry hentry =>
        Variant.equals_congr_right hother entry.1 ▸ hbefore entry hentry]
      rfl
    | false => rfl

/-- The keys of an insertion: no key that stands moves, and one that equals none comes last. -/
theorem keys_insert (d : Dictionary) (key value : Variant) :
    (d.insert key value).keys =
      if (d.get? key).isSome then d.keys else d.keys ++ [key] := by
  have h := exchanges_exchange d key value
  rw [← exchange_snd d key value, keys, keys]
  generalize (d.exchange key value).2 = previous at h ⊢
  generalize (d.insert key value).entries = entries' at h ⊢
  generalize d.entries = entries at h ⊢
  cases h with
  | added hnew => exact List.map_append
  | replaced hbefore hkey =>
    rw [List.map_append, List.map_append]
    rfl

/-- What is put where it stands changes nothing. -/
theorem insert_of_get?_eq_some {d : Dictionary} {key value : Variant}
    (h : d.get? key = some value) : d.insert key value = d := by
  have hex := exchanges_exchange d key value
  rw [exchange_snd, h] at hex
  obtain ⟨entries⟩ := d
  generalize Dictionary.insert ⟨entries⟩ key value = d' at hex ⊢
  obtain ⟨entries'⟩ := d'
  cases hex with
  | replaced hbefore hkey => rfl

/-! ## Sequences of insertions -/

/-- The dictionary that insertions make of another. -/
def insertFrom (d : Dictionary) (inserts : List (Variant × Variant)) : Dictionary :=
  inserts.foldl (fun d entry => d.insert entry.1 entry.2) d

/-- The dictionary that insertions make of the empty one. -/
def insertAll (inserts : List (Variant × Variant)) : Dictionary :=
  empty.insertFrom inserts

/-- The value that was last put under a key, or one that equals it. -/
def latest? (inserts : List (Variant × Variant)) (key : Variant) : Option Variant :=
  (inserts.reverse.find? fun entry => entry.1.equals key).map Prod.snd

/-- Each key at its first place: the first one, and those after it that do not equal it. -/
def firstKeys : List Variant → List Variant
  | [] => []
  | key :: rest => key :: (firstKeys rest).filter fun other => !key.equals other

/-- Whether the first of two sequences of insertions is the second with one more, which puts under
a key a value like the one that the key has at that time. -/
def Reinserts (alike : Variant → Variant → Prop)
    (longer shorter : List (Variant × Variant)) : Prop :=
  ∃ before key value old after, longer = before ++ (key, value) :: after ∧
    shorter = before ++ after ∧ latest? before key = some old ∧ alike old value

variable {inserts others : List (Variant × Variant)}

theorem insertAll_concat (inserts : List (Variant × Variant)) (key value : Variant) :
    insertAll (inserts ++ [(key, value)]) = (insertAll inserts).insert key value :=
  List.foldl_append

theorem insertAll_append (before after : List (Variant × Variant)) :
    insertAll (before ++ after) = (insertAll before).insertFrom after :=
  List.foldl_append

theorem latest?_concat (inserts : List (Variant × Variant)) (key value other : Variant) :
    latest? (inserts ++ [(key, value)]) other =
      if key.equals other then some value else latest? inserts other := by
  rw [latest?, List.reverse_concat, List.find?_cons]
  cases key.equals other <;> rfl

theorem latest?_isSome (inserts : List (Variant × Variant)) (key : Variant) :
    (latest? inserts key).isSome = (inserts.map Prod.fst).any (·.equals key) := by
  rw [latest?, Option.isSome_map, List.isSome_find?, List.any_reverse, List.any_map]
  rfl

/-- What is read under a key is what was last put there. -/
theorem get?_insertAll (inserts : List (Variant × Variant)) (key : Variant) :
    (insertAll inserts).get? key = latest? inserts key := by
  induction inserts using List.reverseRecOn with
  | nil => rfl
  | append_singleton inserts entry ih =>
    rw [insertAll_concat, get?_insert, latest?_concat, ih]

theorem firstKeys_concat (inserted : List Variant) (key : Variant) :
    firstKeys (inserted ++ [key]) =
      if inserted.any (·.equals key) then firstKeys inserted else firstKeys inserted ++ [key] := by
  induction inserted with
  | nil => rfl
  | cons first rest ih =>
    rw [List.cons_append, firstKeys, firstKeys, ih, List.any_cons]
    cases hfirst : first.equals key <;> cases hrest : rest.any (·.equals key) <;>
      simp [hfirst]

/-- The keys are the inserted ones, each at its first place. -/
theorem keys_insertAll (inserts : List (Variant × Variant)) :
    (insertAll inserts).keys = firstKeys (inserts.map Prod.fst) := by
  induction inserts using List.reverseRecOn with
  | nil => rfl
  | append_singleton inserts entry ih =>
    rw [insertAll_concat, keys_insert, get?_insertAll, latest?_isSome, List.map_append,
      List.map_singleton, firstKeys_concat, ih]

theorem firstKeys_pairwise (inserted : List Variant) :
    (firstKeys inserted).Pairwise fun a b => a.equals b = false ∧ b.equals a = false := by
  induction inserted with
  | nil => exact .nil
  | cons key rest ih =>
    refine List.pairwise_cons.mpr ⟨fun other hother => ?_, ih.filter _⟩
    have hne : key.equals other = false := by
      simpa using (List.mem_filter.mp hother).2
    exact ⟨hne, Variant.equals_comm key other ▸ hne⟩

/-! ## Insertions made twice -/

/-- What is put in again as it stands leaves all as it is, and so what follows. -/
theorem insertAll_eq_of_reinserts (h : Reinserts (· = ·) inserts others) :
    insertAll inserts = insertAll others := by
  obtain ⟨before, key, value, old, after, rfl, rfl, hold, rfl⟩ := h
  rw [← get?_insertAll] at hold
  rw [insertAll_append, insertAll_append, insertFrom, List.foldl_cons,
    insert_of_get?_eq_some hold, insertFrom]

/-- Whether all keys and values of a sequence of insertions equal themselves. -/
def Comparable (inserts : List (Variant × Variant)) : Prop :=
  ∀ entry ∈ inserts, Variant.equalEntry entry entry = true

theorem equals_toVariant {d e : Dictionary} :
    d.toVariant.equals e.toVariant = true ↔
      List.Forall₂ (fun a b => Variant.equalEntry a b = true) d.entries e.entries := by
  rw [toVariant, toVariant, Variant.equals, Variant.equalEntries_eq, Variant.equalLists_iff]

theorem forall₂_exchangeEntry {key value : Variant}
    (hself : Variant.equalEntry (key, value) (key, value) = true)
    {as bs : List (Variant × Variant)}
    (h : List.Forall₂ (fun a b => Variant.equalEntry a b = true) as bs) :
    List.Forall₂ (fun a b => Variant.equalEntry a b = true) (exchangeEntry key value as).1
      (exchangeEntry key value bs).1 := by
  induction h with
  | nil => exact .cons hself .nil
  | @cons a b as bs hab hrest ih =>
    have hkeys := (Bool.and_eq_true _ _ ▸ hab).1
    rw [exchangeEntry, exchangeEntry, Variant.equals_congr hkeys]
    split
    · exact .cons (Bool.and_eq_true _ _ ▸ ⟨hkeys, (Bool.and_eq_true _ _ ▸ hself).2⟩) hrest
    · exact .cons hab ih

/-- Insertions into equal dictionaries give equal ones. -/
theorem equals_insertFrom {d e : Dictionary} (h : d.toVariant.equals e.toVariant = true)
    (hinserts : Comparable inserts) :
    (d.insertFrom inserts).toVariant.equals (e.insertFrom inserts).toVariant = true := by
  induction inserts generalizing d e with
  | nil => exact h
  | cons entry rest ih =>
    obtain ⟨hentry, hrest⟩ := List.forall_mem_cons.mp hinserts
    exact ih (equals_toVariant.mpr (forall₂_exchangeEntry hentry (equals_toVariant.mp h))) hrest

theorem equals_insertAll (h : Comparable inserts) :
    (insertAll inserts).toVariant.equals (insertAll inserts).toVariant = true :=
  equals_insertFrom rfl h

/-- A value that is put where one stands that equals it leaves a dictionary equal. -/
theorem equals_insert_of_get?_eq_some {d : Dictionary} {key value old : Variant}
    (hd : d.toVariant.equals d.toVariant = true) (hget : d.get? key = some old)
    (hold : old.equals value = true) :
    d.toVariant.equals (d.insert key value).toVariant = true := by
  rw [equals_toVariant] at hd ⊢
  have hex := exchanges_exchange d key value
  rw [exchange_snd, hget] at hex
  generalize (d.insert key value).entries = entries' at hex ⊢
  generalize d.entries = entries at hex hd ⊢
  have hself := List.forall₂_same.mp hd
  cases hex with
  | @replaced before after k _ hbefore hkey =>
    rw [List.forall_mem_append, List.forall_mem_cons] at hself
    obtain ⟨hbefore, hentry, hafter⟩ := hself
    refine List.rel_append (List.forall₂_same.mpr hbefore) (.cons ?_ (List.forall₂_same.mpr hafter))
    exact Bool.and_eq_true _ _ ▸ ⟨(Bool.and_eq_true _ _ ▸ hentry).1, hold⟩

theorem exists_of_latest?_eq_some {key value : Variant} (h : latest? inserts key = some value) :
    ∃ k, (k, value) ∈ inserts ∧ k.equals key = true := by
  obtain ⟨⟨k, v⟩, hfind, rfl⟩ := Option.map_eq_some_iff.mp h
  have hkey := List.find?_some hfind
  exact ⟨k, List.mem_reverse.mp (List.mem_of_find?_eq_some hfind), hkey⟩

/-- What is put in again is as comparable as what was there. -/
theorem comparable_iff_of_reinserts
    (h : Reinserts (fun old value => old.equals value = true) inserts others) :
    Comparable inserts ↔ Comparable others := by
  obtain ⟨before, key, value, old, after, rfl, rfl, hlatest, hold⟩ := h
  simp only [Comparable, List.forall_mem_append, List.forall_mem_cons]
  refine ⟨fun ⟨hbefore, _, hafter⟩ => ⟨hbefore, hafter⟩, fun ⟨hbefore, hafter⟩ =>
    ⟨hbefore, ?_, hafter⟩⟩
  obtain ⟨k, -, hk⟩ := exists_of_latest?_eq_some hlatest
  exact Bool.and_eq_true _ _ ▸ ⟨Variant.equals_self_of_equals (Variant.equals_comm k key ▸ hk),
    Variant.equals_self_of_equals (Variant.equals_comm old value ▸ hold)⟩

theorem equals_of_reinserts
    (h : Reinserts (fun old value => old.equals value = true) inserts others)
    (hinserts : Comparable inserts) :
    (insertAll others).toVariant.equals (insertAll inserts).toVariant = true := by
  obtain ⟨before, key, value, old, after, rfl, rfl, hlatest, hold⟩ := h
  simp only [Comparable, List.forall_mem_append, List.forall_mem_cons] at hinserts
  obtain ⟨hbefore, -, hafter⟩ := hinserts
  rw [insertAll_append, insertAll_append, insertFrom, insertFrom, List.foldl_cons]
  rw [← get?_insertAll] at hlatest
  exact equals_insertFrom
    (equals_insert_of_get?_eq_some (equals_insertAll hbefore) hlatest hold) hafter

theorem insertAll_eq_of_eqvGen (h : Relation.EqvGen (Reinserts (· = ·)) inserts others) :
    insertAll inserts = insertAll others := by
  induction h with
  | rel _ _ h => exact insertAll_eq_of_reinserts h
  | refl _ => rfl
  | symm _ _ _ ih => exact ih.symm
  | trans _ _ _ _ _ ih₁ ih₂ => exact ih₁.trans ih₂

theorem equals_of_eqvGen
    (h : Relation.EqvGen (Reinserts fun old value => old.equals value = true) inserts others) :
    (Comparable inserts ↔ Comparable others) ∧ (Comparable inserts →
      (insertAll inserts).toVariant.equals (insertAll others).toVariant = true) := by
  induction h with
  | rel s t h =>
    exact ⟨comparable_iff_of_reinserts h, fun hs =>
      Variant.equals_comm (insertAll t).toVariant _ ▸ equals_of_reinserts h hs⟩
  | refl s => exact ⟨.rfl, equals_insertAll⟩
  | symm s t _ ih =>
    exact ⟨ih.1.symm, fun ht =>
      Variant.equals_comm (insertAll s).toVariant _ ▸ ih.2 (ih.1.mpr ht)⟩
  | trans s t u _ _ ih₁ ih₂ =>
    exact ⟨ih₁.1.trans ih₂.1, fun hs =>
      Variant.equals_trans (ih₁.2 hs) (ih₂.2 (ih₁.1.mp hs))⟩

/-- Dictionaries are maps in the order of insertion.  Whatever is put into the empty one, no two
keys are equal; a key has the value that was last put under one that equals it, if there is one; an
insertion gives the value that was there; and the keys stand in the order of their first
insertions.  Sequences that differ by insertions of what is there give one dictionary, and if what
is put in again only equals what is there, dictionaries that are equal.

No key need equal itself: one that does not is a new key each time, and is never found. -/
theorem insertAll_isMap (inserts : List (Variant × Variant)) :
    ((insertAll inserts).keys.Pairwise fun a b => a.equals b = false ∧ b.equals a = false) ∧
    (∀ key, (insertAll inserts).get? key = latest? inserts key) ∧
    (∀ key value, (insertAll inserts).exchange key value =
      (insertAll (inserts ++ [(key, value)]), latest? inserts key)) ∧
    (insertAll inserts).keys = firstKeys (inserts.map Prod.fst) ∧
    (∀ others, Relation.EqvGen (Reinserts (· = ·)) inserts others →
      insertAll inserts = insertAll others) ∧
    ∀ others, Relation.EqvGen (Reinserts fun old value => old.equals value = true) inserts others →
      (∀ entry ∈ inserts, entry.1.equals entry.1 = true ∧ entry.2.equals entry.2 = true) →
      (insertAll inserts).toVariant.equals (insertAll others).toVariant = true := by
  refine ⟨?_, get?_insertAll inserts, fun key value => ?_, keys_insertAll inserts,
    fun others h => insertAll_eq_of_eqvGen h, fun others h hself => ?_⟩
  · rw [keys_insertAll]
    exact firstKeys_pairwise _
  · refine Prod.ext ?_ ?_
    · exact (insertAll_concat inserts key value).symm
    · rw [exchange_snd, get?_insertAll]
  · refine (equals_of_eqvGen h).2 fun entry hentry => ?_
    rw [Variant.equalEntry, Bool.and_eq_true]
    exact hself entry hentry

/-- The two zeros are one key and one value, so the second insertion of them makes no difference, nor
does a third. -/
theorem insertAll_isMap_zeros :
    let zero : Variant := .float 0
    let minusZero : Variant := .float 0x8000000000000000
    let once := [(zero, zero), (.int 1, .nil)]
    let twice := once ++ [(minusZero, minusZero)]
    (insertAll twice).toVariant.equals (insertAll once).toVariant = true ∧
      insertAll (twice ++ [(minusZero, minusZero)]) = insertAll twice := by
  intro zero minusZero once twice
  have hzeros : Reinserts (fun old value => old.equals value = true) twice once :=
    ⟨once, minusZero, minusZero, zero, [], rfl, rfl, rfl, by decide⟩
  have hagain : Reinserts (· = ·) (twice ++ [(minusZero, minusZero)]) twice :=
    ⟨twice, minusZero, minusZero, minusZero, [], rfl, (List.append_nil _).symm, rfl, rfl⟩
  obtain ⟨-, -, -, -, -, hequals⟩ := insertAll_isMap twice
  obtain ⟨-, -, -, -, hsame, -⟩ := insertAll_isMap (twice ++ [(minusZero, minusZero)])
  exact ⟨hequals once (.rel _ _ hzeros) (by decide), hsame twice (.rel _ _ hagain)⟩

end Dictionary

end EngineBindings
