import EngineBindings.DeclaredType
import EngineBindings.Proofs.Text.Pieces

/-!
# Type strings of the engine

A type string is read as a pointer, an enumeration, a typed array of names, or a name
(`DeclaredType.ofEngine_cases`).  The element of a typed array is what follows the last colon of its
type string (`DeclaredType.ofEngine_typedArray`).  So hints are passed over, but also the mark of an
element that is an enumeration or an array itself: `DeclaredType.ofEngine_typedArray_iff` says which
elements are read as they are read alone.
-/

namespace EngineBindings.DeclaredType

theorem ofEngineName_eq_plain (text : String) (width : Option String) :
    ∃ name, ofEngineName text width = .plain name := by
  unfold ofEngineName
  split <;> exact ⟨_, rfl⟩

/-- Type strings do not nest. -/
theorem ofEngine_cases (text : String) (width : Option String) :
    (∃ spelling, ofEngine text width = .pointer spelling) ∨
    (∃ name bitfield, ofEngine text width = .enumeration name bitfield) ∨
    (∃ name, ofEngine text width = .typedArray (.plain name)) ∨
    ∃ name, ofEngine text width = .plain name := by
  unfold ofEngine
  dsimp only
  split
  · exact .inl ⟨_, rfl⟩
  · split
    · exact .inr (.inl ⟨_, _, rfl⟩)
    · split
      · exact .inr (.inl ⟨_, _, rfl⟩)
      · split
        · next element _ =>
          obtain ⟨name, hname⟩ := ofEngineName_eq_plain (Text.trim (afterLastColon element)) none
          exact .inr (.inr (.inl ⟨name, congrArg typedArray hname⟩))
        · split
          · exact .inr (.inr (.inr ⟨_, rfl⟩))
          · exact .inr (.inr (.inr (ofEngineName_eq_plain _ _)))

theorem stripLead?_bitfield (name : String) :
    Text.stripLead? "enum::" ("bitfield::" ++ name) = none :=
  Text.stripLead?_eq_none_of_ne rfl String.toList_append (by decide)

section Marked

variable {text name : String} (width : Option String)
  (h : Text.trim text = "enum::" ++ name ∨ Text.trim text = "bitfield::" ++ name)

include h

theorem points_iff_of_marked :
    (Text.trim text).toList.contains '*' = true ↔ '*' ∈ name.toList := by
  rw [List.contains_iff_mem]
  rcases h with h | h
  · rw [h, String.toList_append, List.mem_append]
    exact or_iff_right (by decide)
  · rw [h, String.toList_append, List.mem_append]
    exact or_iff_right (by decide)

theorem ofEngine_of_points (hname : '*' ∈ name.toList) :
    ofEngine text width = .pointer (Text.trim text) := by
  unfold ofEngine
  exact if_pos ((points_iff_of_marked h).mpr hname)

/-- What is marked as an enumeration is read as one, unless it points. -/
theorem ofEngine_of_marked (hname : '*' ∉ name.toList) :
    ∃ bitfield, ofEngine text width = .enumeration name bitfield := by
  unfold ofEngine
  dsimp only
  rw [if_neg ((points_iff_of_marked h).not.mpr hname)]
  rcases h with h | h
  · have hlead : Text.stripLead? "enum::" ("enum::" ++ name) = some name :=
      Text.stripLead?_eq_some_iff.mpr rfl
    rw [h, hlead]
    exact ⟨false, rfl⟩
  · have hlead : Text.stripLead? "bitfield::" ("bitfield::" ++ name) = some name :=
      Text.stripLead?_eq_some_iff.mpr rfl
    rw [h, stripLead?_bitfield, hlead]
    exact ⟨true, rfl⟩

end Marked

/-! ## Elements of typed arrays -/

theorem ofEngine_trim (text : String) (width : Option String) :
    ofEngine (Text.trim text) width = ofEngine text width := by
  unfold ofEngine
  rw [Text.trim_trim]

theorem afterLastColon_of_notMem {text : String} (h : ':' ∉ text.toList) :
    afterLastColon text = text := by
  have hsplit : Text.splitAt ':' (Text.join ":" [text]) = [text] :=
    Text.splitAt_join rfl (List.cons_ne_nil text []) (List.forall_mem_singleton.mpr h)
  rw [afterLastColon, show Text.splitAt ':' text = [text] from hsplit]
  rfl

theorem afterLastColon_append (front text : String) :
    afterLastColon (front ++ ":" ++ text) = afterLastColon text := by
  obtain ⟨pieces, last, hpieces⟩ : ∃ pieces last, Text.splitAt ':' text = pieces ++ [last] :=
    ⟨_, _, (List.dropLast_concat_getLast (Text.splitAt_ne_nil ':' text)).symm⟩
  rw [afterLastColon, afterLastColon, Text.splitAt_append rfl, hpieces, ← List.append_assoc,
    List.getLastD_concat, List.getLastD_concat]

/-- A text is what follows its last colon, with a colon in front if there is one. -/
theorem afterLastColon_cases (text : String) :
    ':' ∉ (afterLastColon text).toList ∧
      (text = afterLastColon text ∨ ∃ front, text = front ++ ":" ++ afterLastColon text) := by
  obtain ⟨pieces, last, hpieces⟩ : ∃ pieces last, Text.splitAt ':' text = pieces ++ [last] :=
    ⟨_, _, (List.dropLast_concat_getLast (Text.splitAt_ne_nil ':' text)).symm⟩
  have hafter : afterLastColon text = last := by
    rw [afterLastColon, hpieces, List.getLastD_concat]
  have hjoin : Text.join ":" (pieces ++ [last]) = text := by
    rw [← hpieces, Text.join_splitAt rfl]
  have hmem : last ∈ Text.splitAt ':' text := by
    rw [hpieces]
    exact List.mem_append_right _ (List.mem_singleton_self last)
  rw [hafter]
  refine ⟨Text.notMem_of_mem_splitAt hmem, ?_⟩
  cases pieces with
  | nil => exact .inl hjoin.symm
  | cons piece rest =>
    rw [Text.join_append (List.cons_ne_nil piece rest) (List.cons_ne_nil last [])] at hjoin
    exact .inr ⟨_, hjoin.symm⟩

theorem trim_afterLastColon (text : String) :
    Text.trim (afterLastColon (Text.trimEnd text)) = Text.trim (afterLastColon text) := by
  obtain ⟨hnotMem, heq | ⟨front, hfront⟩⟩ := afterLastColon_cases text
  · rw [← heq] at hnotMem ⊢
    rw [afterLastColon_of_notMem fun hmem => hnotMem (Text.mem_of_mem_trimEnd hmem),
      Text.trim_trimEnd]
  · have hlead : (front ++ ":").toList = front.toList ++ [':'] := String.toList_append
    have hend : Text.trimEnd text = front ++ ":" ++ Text.trimEnd (afterLastColon text) := by
      conv_lhs => rw [hfront, Text.trimEnd_append hlead (by decide)]
    rw [hend, afterLastColon_append,
      afterLastColon_of_notMem fun hmem => hnotMem (Text.mem_of_mem_trimEnd hmem),
      Text.trim_trimEnd]

/-- Without a colon there is no mark in front of a name. -/
theorem ofEngine_of_notMem {text : String} (hcolon : ':' ∉ text.toList)
    (hpoints : '*' ∉ text.toList) (width : Option String) :
    ofEngine text width = ofEngineName (Text.trim text) width := by
  have hmark {mark : String} (hmark : ':' ∈ mark.toList) :
      Text.stripLead? mark (Text.trim text) = none :=
    Text.stripLead?_eq_none hmark fun hmem => hcolon (Text.mem_of_mem_trim hmem)
  have hpoints : ¬(Text.trim text).toList.contains '*' = true := fun hmem =>
    hpoints (Text.mem_of_mem_trim (List.contains_iff_mem.mp hmem))
  unfold ofEngine
  dsimp only
  rw [if_neg hpoints, hmark (by decide), hmark (by decide), hmark (by decide), hmark (by decide)]
  rfl

variable {element : String} (hpoints : '*' ∉ element.toList)

include hpoints

theorem ofEngine_afterLastColon (width : Option String) :
    ofEngine (afterLastColon element) width =
      ofEngineName (Text.trim (afterLastColon element)) width := by
  obtain ⟨hcolon, hcases⟩ := afterLastColon_cases element
  refine ofEngine_of_notMem hcolon (fun hmem => hpoints ?_) width
  rcases hcases with heq | ⟨front, hfront⟩
  · rwa [← heq] at hmem
  · rw [hfront, String.toList_append]
    exact List.mem_append_right _ hmem

/-- The element of a typed array is what follows the last colon. -/
theorem ofEngine_typedArray (width : Option String) :
    ofEngine ("typedarray::" ++ element) width =
      typedArray (ofEngine (afterLastColon element) none) := by
  have hchars (s : String) :
      ("typedarray::" ++ s).toList = 't' :: ("ypedarray::".toList ++ s.toList) :=
    String.toList_append
  have hlead : "typedarray::".toList = "typedarray:".toList ++ [':'] := rfl
  have htrim : Text.trim ("typedarray::" ++ element) = "typedarray::" ++ Text.trimEnd element := by
    rw [Text.trim_eq_trimEnd (hchars element) (by decide), Text.trimEnd_append hlead (by decide)]
  have hnone : ¬("typedarray::" ++ Text.trimEnd element).toList.contains '*' = true := by
    rw [List.contains_iff_mem, String.toList_append, List.mem_append, not_or]
    exact ⟨by decide, fun hmem => hpoints (Text.mem_of_mem_trimEnd hmem)⟩
  have henum : Text.stripLead? "enum::" ("typedarray::" ++ Text.trimEnd element) = none :=
    Text.stripLead?_eq_none_of_ne rfl (hchars _) (by decide)
  have hbitfield : Text.stripLead? "bitfield::" ("typedarray::" ++ Text.trimEnd element) = none :=
    Text.stripLead?_eq_none_of_ne rfl (hchars _) (by decide)
  have harray : Text.stripLead? "typedarray::" ("typedarray::" ++ Text.trimEnd element) =
      some (Text.trimEnd element) := Text.stripLead?_eq_some_iff.mpr rfl
  rw [ofEngine_afterLastColon hpoints, ← trim_afterLastColon]
  unfold ofEngine
  dsimp only
  rw [htrim, if_neg hnone, henum, hbitfield, harray]

omit hpoints

/-- A type string whose mark makes it a type of another shape than a name. -/
def IsMarked (text : String) : Prop :=
  ∃ mark ∈ ["enum::", "bitfield::", "typedarray::"], ∃ rest, Text.trim text = mark ++ rest

theorem typedArray_inj {a b : DeclaredType} (h : typedArray a = typedArray b) : a = b := by
  injection h with _ hargs
  exact (List.cons.inj hargs).1

/-- What is marked is not read as a name. -/
theorem IsMarked.ofEngine_ne_plain {text : String} (h : IsMarked text)
    (hpoints : '*' ∉ text.toList) (width : Option String) (name : String) :
    ofEngine text width ≠ plain name := by
  obtain ⟨mark, hmark, rest, hrest⟩ := h
  have hnone : '*' ∉ rest.toList := fun hmem => by
    refine hpoints (Text.mem_of_mem_trim ?_)
    rw [hrest, String.toList_append]
    exact List.mem_append_right _ hmem
  have hmarks := hmark
  simp only [List.mem_cons, List.not_mem_nil, or_false] at hmarks
  rcases hmarks with rfl | rfl | rfl
  · obtain ⟨bitfield, heq⟩ := ofEngine_of_marked width (.inl hrest) hnone
    rw [heq]
    exact nofun
  · obtain ⟨bitfield, heq⟩ := ofEngine_of_marked width (.inr hrest) hnone
    rw [heq]
    exact nofun
  · rw [← ofEngine_trim, hrest, ofEngine_typedArray hnone]
    exact nofun

/-- An element of a typed array is read as it is read alone just if it is a name: one that holds
no colon, or one that is read as what follows its last colon.  A hint in front of the element
changes nothing. -/
theorem ofEngine_typedArray_iff (element : String) (hpoints : '*' ∉ element.toList) :
    (ofEngine ("typedarray::" ++ element) none = typedArray (ofEngine element none) ↔
      ':' ∉ element.toList ∨
        ¬IsMarked element ∧ ofEngine (afterLastColon element) none = ofEngine element none) ∧
    ∀ hint : String, '*' ∉ hint.toList →
      ofEngine ("typedarray::" ++ (hint ++ ":" ++ element)) none =
        ofEngine ("typedarray::" ++ element) none := by
  have hname : ∃ name, ofEngine (afterLastColon element) none = plain name := by
    rw [ofEngine_afterLastColon hpoints]
    exact ofEngineName_eq_plain _ _
  refine ⟨?_, fun hint hhint => ?_⟩
  · rw [ofEngine_typedArray hpoints]
    constructor
    · intro h
      have heq : ofEngine (afterLastColon element) none = ofEngine element none :=
        typedArray_inj h
      refine .inr ⟨fun hmarked => ?_, heq⟩
      obtain ⟨name, hname⟩ := hname
      exact hmarked.ofEngine_ne_plain hpoints none name (heq.symm.trans hname)
    · rintro (hcolon | ⟨-, heq⟩)
      · rw [afterLastColon_of_notMem hcolon]
      · exact congrArg typedArray heq
  · have hnone : '*' ∉ (hint ++ ":" ++ element).toList := by
      simp only [String.toList_append, List.mem_append, not_or]
      exact ⟨⟨hhint, by decide⟩, hpoints⟩
    rw [ofEngine_typedArray hnone, ofEngine_typedArray hpoints, afterLastColon_append]

theorem ofEngine_typedArray_iff_hinted :
    '*' ∉ "Node".toList ∧
      ofEngine "typedarray::24/17:Node" none = typedArray (ofEngine "Node" none) :=
  have hnode : '*' ∉ "Node".toList := by decide
  have h := ofEngine_typedArray_iff "Node" hnode
  ⟨hnode, (h.2 "24/17" (by decide)).trans (h.1.mpr (.inl (by decide)))⟩

/-- An element of any other form is not read as it is read alone. -/
theorem not_ofEngine_typedArray :
    ofEngine "typedarray::enum::Node.Kind" none ≠ typedArray (ofEngine "enum::Node.Kind" none) ∧
    ofEngine "typedarray::bitfield::Node.Flags" none ≠
      typedArray (ofEngine "bitfield::Node.Flags" none) ∧
    ofEngine "typedarray::typedarray::int" none ≠ typedArray (ofEngine "typedarray::int" none) ∧
    ofEngine "typedarray::typeddictionary::int;String" none ≠
      typedArray (ofEngine "typeddictionary::int;String" none) := by
  have differs {text element last : String} {alone : DeclaredType}
      (harray : ofEngine text none = typedArray (plain last))
      (halone : ofEngine element none = alone) (hne : plain last ≠ alone) :
      ofEngine text none ≠ typedArray (ofEngine element none) := by
    rw [harray, halone]
    exact fun h => hne (typedArray_inj h)
  have hinner : plain "i64" ≠ typedArray (plain "i64") := fun h =>
    absurd (congrArg name? h) (by decide)
  have hdictionary : plain "int;String" ≠ plain "Dictionary" := fun h =>
    absurd (congrArg name? h) (by decide)
  refine ⟨?_, ?_, ?_, ?_⟩
  · exact @differs _ _ "Node.Kind" (.enumeration "Node.Kind" false) rfl rfl nofun
  · exact @differs _ _ "Node.Flags" (.enumeration "Node.Flags" true) rfl rfl nofun
  · exact @differs _ _ "i64" (typedArray (plain "i64")) rfl rfl hinner
  · exact @differs _ _ "int;String" (plain "Dictionary") rfl rfl hdictionary

end EngineBindings.DeclaredType
