import EngineBindings.Proofs.Text.Identifier
import EngineBindings.Text.LetterCase

/-!
# Names in lower case

A name in lower case has the characters of an identifier if the name has them, and starts as one
does if the name does (`isSpellable_lower`, `starts_lower`).  The table of letters is checked
row by row: the images of a row all lie in one range of characters that start identifiers, but for
the letters in circles, which are in no identifier.
-/

namespace EngineBindings.Text

/-- Whether one range of characters that start identifiers has all code points from `low` to
`high`. -/
def isStartRange (low high : Nat) : Bool :=
  (Nat.ble 97 low && high.ble 122) ||
    (Nat.ble 128 low && identifierStarts.any fun range => range.1.ble low && high.ble range.2)

/-- Whether no range of characters in identifiers has a code point from `low` to `high`. -/
def isOutside (low high : Nat) : Bool :=
  Nat.ble 128 low &&
    (identifierStarts ++ identifierExtenders).all fun range => high.blt range.1 || range.2.blt low

/-- Whether a row of a mapping takes characters in identifiers to ones that start identifiers. -/
def keepsIdentifiers (row : Nat × Nat × Nat × Int) : Bool :=
  (0 ≤ row.1 + row.2.2.2 && isStartRange (row.1 + row.2.2.2).toNat (row.2.1 + row.2.2.2).toNat) ||
    isOutside row.1 row.2.1

theorem lowerRows_keepIdentifiers : ∀ row ∈ lowerRows, keepsIdentifiers row = true :=
  List.all_eq_true.mp (by decide +kernel)

theorem identifierStarts_valid :
    ∀ range ∈ identifierStarts, range.2 < 0xD800 ∨ (0xDFFF < range.1 ∧ range.2 < 0x110000) := by
  decide +kernel

theorem inRanges_of_mem {ranges : List (Nat × Nat)} {range : Nat × Nat} {n : Nat}
    (hmem : range ∈ ranges) (hlow : range.1 ≤ n) (hhigh : n ≤ range.2) :
    inRanges ranges n = true :=
  List.any_eq_true.mpr ⟨range, hmem, by simp [hlow, hhigh]⟩

theorem startsIdentifier_of_isStartRange {low high n : Nat} (h : isStartRange low high = true)
    (hlow : low ≤ n) (hhigh : n ≤ high) : startsIdentifier (Char.ofNat n) = true := by
  simp only [isStartRange, Bool.or_eq_true, Bool.and_eq_true, Nat.ble_eq, List.any_eq_true] at h
  rcases h with ⟨hsmall, hgreat⟩ | ⟨hbeyond, range, hmem, hfirst, hlast⟩
  · have hletters : ∀ n ≤ 122, 97 ≤ n → startsIdentifier (Char.ofNat n) = true := by
      decide +kernel
    exact hletters n (by omega) (by omega)
  · have hvalid : n.isValidChar := by
      have := identifierStarts_valid range hmem
      simp only [Nat.isValidChar]
      omega
    have hpoint : (Char.ofNat n).toNat = n := by
      rw [Char.ofNat, dif_pos hvalid]
      rfl
    rw [startsIdentifier, hpoint, if_neg (by omega)]
    exact inRanges_of_mem hmem (by omega) (by omega)

theorem not_extendsIdentifier_of_isOutside {low high : Nat} {c : Char}
    (h : isOutside low high = true) (hlow : low ≤ c.toNat) (hhigh : c.toNat ≤ high) :
    extendsIdentifier c = false := by
  simp only [isOutside, Bool.and_eq_true, Nat.ble_eq, Nat.blt_eq, List.all_eq_true,
    Bool.or_eq_true] at h
  obtain ⟨hbeyond, hnone⟩ := h
  have hin : ∀ ranges, (∀ range ∈ ranges, range ∈ identifierStarts ++ identifierExtenders) →
      inRanges ranges c.toNat = false := by
    intro ranges hranges
    rw [inRanges, List.any_eq_false]
    intro range hmem
    have := hnone range (hranges range hmem)
    simp
    omega
  rw [extendsIdentifier, if_neg (by omega),
    hin identifierStarts fun _ => List.mem_append_left _,
    hin identifierExtenders fun _ => List.mem_append_right _]
  rfl

/-- A character in identifiers that has another lower case becomes one that starts identifiers. -/
theorem startsIdentifier_of_mapped? {c d : Char} (hmapped : mapped? lowerRows c.toNat = some d)
    (hc : extendsIdentifier c = true) : startsIdentifier d = true := by
  obtain ⟨⟨first, last, step, distance⟩, hrow, himage⟩ := List.exists_of_findSome?_eq_some hmapped
  have hkeeps := lowerRows_keepIdentifiers _ hrow
  dsimp only at himage
  split at himage
  · next hin =>
    simp only [Bool.and_eq_true, decide_eq_true_eq] at hin
    obtain ⟨⟨hfirst, hlast⟩, -⟩ := hin
    obtain rfl := Option.some.inj himage
    simp only [keepsIdentifiers, Bool.or_eq_true, Bool.and_eq_true, decide_eq_true_eq] at hkeeps
    rcases hkeeps with ⟨hpositive, hrange⟩ | houtside
    · exact startsIdentifier_of_isStartRange hrange (by omega) (by omega)
    · rw [not_extendsIdentifier_of_isOutside houtside hfirst hlast] at hc
      cases hc
  · cases himage

theorem ascii_lower {c : Char} (hascii : c.toNat < 128) :
    (startsIdentifier c = true → startsIdentifier c.toLower = true) ∧
      (extendsIdentifier c = true → extendsIdentifier c.toLower = true) := by
  have hall : ∀ n < 128,
      (startsIdentifier (Char.ofNat n) = true → startsIdentifier (Char.ofNat n).toLower = true) ∧
        (extendsIdentifier (Char.ofNat n) = true →
          extendsIdentifier (Char.ofNat n).toLower = true) := by
    decide +kernel
  simpa only [Char.ofNat_toNat] using hall c.toNat hascii

theorem lowerChar_keeps {c : Char} (hc : extendsIdentifier c = true) :
    (∀ d ∈ lowerChar c, extendsIdentifier d = true) ∧
      (startsIdentifier c = true →
        ∃ d rest, lowerChar c = d :: rest ∧ startsIdentifier d = true) := by
  unfold lowerChar
  split
  · next hascii =>
    obtain ⟨hstarts, hextends⟩ := ascii_lower hascii
    exact ⟨fun d hd => List.mem_singleton.mp hd ▸ hextends hc, fun h => ⟨_, [], rfl, hstarts h⟩⟩
  · split
    · exact ⟨List.all_eq_true.mp (by decide +kernel), fun _ => ⟨'i', ['\u0307'], rfl, by decide⟩⟩
    · cases hmapped : mapped? lowerRows c.toNat with
      | none => exact ⟨fun d hd => List.mem_singleton.mp hd ▸ hc, fun h => ⟨c, [], rfl, h⟩⟩
      | some d =>
        have hd := startsIdentifier_of_mapped? hmapped hc
        refine ⟨fun e he => ?_, fun _ => ⟨d, [], rfl, hd⟩⟩
        obtain rfl := List.mem_singleton.mp he
        exact extendsIdentifier_of_starts hd

/-- A sigma is a letter wherever it stands. -/
theorem lowerAfter_cons (before : List Char) {c : Char} (rest : List Char)
    (hc : extendsIdentifier c = true) :
    ∃ image, lowerAfter before (c :: rest) = image ++ lowerAfter (c :: before) rest ∧
      (∀ d ∈ image, extendsIdentifier d = true) ∧
      (startsIdentifier c = true → ∃ d more, image = d :: more ∧ startsIdentifier d = true) := by
  have hsigmas : ∀ d ∈ ['ς', 'σ'], startsIdentifier d = true ∧ extendsIdentifier d = true := by
    rw [List.forall_mem_cons, List.forall_mem_singleton]
    decide +kernel
  have hsingle : ∀ d ∈ ['ς', 'σ'], (∀ e ∈ [d], extendsIdentifier e = true) ∧
      (startsIdentifier c = true → ∃ e more, [d] = e :: more ∧ startsIdentifier e = true) :=
    fun d hd => ⟨fun e he => List.mem_singleton.mp he ▸ (hsigmas d hd).2,
      fun _ => ⟨d, [], rfl, (hsigmas d hd).1⟩⟩
  rw [lowerAfter]
  refine ⟨_, rfl, ?_⟩
  split
  · split
    · exact hsingle 'ς' (by decide)
    · exact hsingle 'σ' (by decide)
  · exact lowerChar_keeps hc

theorem extends_of_mem_lowerAfter (before : List Char) {cs : List Char}
    (hcs : ∀ c ∈ cs, extendsIdentifier c = true) :
    ∀ d ∈ lowerAfter before cs, extendsIdentifier d = true := by
  induction cs generalizing before with
  | nil => exact fun d hd => nomatch hd
  | cons c rest ih =>
    rw [List.forall_mem_cons] at hcs
    obtain ⟨image, heq, himage, -⟩ := lowerAfter_cons before rest hcs.1
    rw [heq]
    intro d hd
    exact (List.mem_append.mp hd).elim (himage d) (ih (c :: before) hcs.2 d)

/-- A name in lower case has no other characters than identifiers have if the name has none. -/
theorem isSpellable_lower {s : String} (h : Naming.IsSpellable s) :
    Naming.IsSpellable (lower s) := by
  rw [Naming.IsSpellable, lower, String.toList_ofList]
  exact extends_of_mem_lowerAfter [] h

/-- A name in lower case starts as an identifier does if the name does. -/
theorem starts_lower {s : String} {c : Char} {rest : List Char} (hs : s.toList = c :: rest)
    (hc : startsIdentifier c = true) :
    ∃ d more, (lower s).toList = d :: more ∧ startsIdentifier d = true := by
  obtain ⟨image, heq, -, himage⟩ := lowerAfter_cons [] rest (extendsIdentifier_of_starts hc)
  obtain ⟨d, more, rfl, hd⟩ := himage hc
  refine ⟨d, more ++ lowerAfter [c] rest, ?_, hd⟩
  rw [lower, String.toList_ofList, lowerChars, hs, heq]
  rfl

/-- A character without a case stays in a text that is written in lower case. -/
theorem mem_lower {s : String} {c : Char} (hc : c ∈ s.toList) (hlower : lowerChar c = [c])
    (hsigma : c ≠ 'Σ') : c ∈ (lower s).toList := by
  have hall : ∀ (before cs : List Char), c ∈ cs → c ∈ lowerAfter before cs := by
    intro before cs
    induction cs generalizing before with
    | nil => exact id
    | cons d rest ih =>
      intro hmem
      rw [lowerAfter, List.mem_append]
      rcases List.mem_cons.mp hmem with rfl | hmem
      · rw [if_neg hsigma, hlower]
        exact .inl (List.mem_singleton_self c)
      · exact .inr (ih _ hmem)
  rw [lower, String.toList_ofList]
  exact hall [] s.toList hc

theorem isIdentifier_lower {s : String} (h : isIdentifier s = true) :
    isIdentifier (lower s) = true := by
  obtain ⟨⟨c, rest, hs, hc⟩, hall⟩ := isIdentifierChars_iff.mp h
  exact isIdentifierChars_iff.mpr ⟨starts_lower hs hc, isSpellable_lower hall⟩

end EngineBindings.Text
