import EngineBindings.Proofs.Bindings.Naming
import EngineBindings.Proofs.Code.Declarations
import EngineBindings.Bindings.TypeMap

/-!
# Words in the code of types

The code of a type has paths and punctuation, and no keyword outside of its groups
(`TypeMap.noKeywords_of_code`), so it starts no declaration.  The name of a member is used for its
errors alone (`TypeMap.mapMember_eq_ok_iff`).
-/

namespace EngineBindings

open Code

namespace TypeMap

variable {m : TypeMap}

theorem noKeywords_of_identCode {name : String} {c : Code} (h : Naming.identCode name = .ok c) :
    c.NoKeywords := by
  obtain ⟨identifier, hident, rfl⟩ := map_eq_ok_iff.mp h
  exact noKeywords_word (Naming.notMem_keywords_of_ident hident)

theorem noKeywords_runtime {name : String} (hname : name ∉ Text.keywords) :
    (Naming.runtime name).NoKeywords :=
  noKeywords_append_iff.mpr ⟨by decide +kernel, noKeywords_word hname⟩

theorem noKeywords_of_hostType {name : String} {c : Code} (h : Naming.hostType name = .ok c) :
    c.NoKeywords := by
  obtain ⟨identifier, hident, h⟩ := bind_eq_ok_iff.mp h
  obtain rfl := Except.ok.inj h
  have hkeyword := Naming.notMem_keywords_of_ident hident
  split
  · exact noKeywords_word hkeyword
  · exact noKeywords_runtime hkeyword

theorem noKeywords_of_enumPath {owner : EnumOwner} {c : Code} (h : enumPath owner = .ok c) :
    c.NoKeywords := by
  cases owner with
  | module flatName => exact noKeywords_of_identCode h
  | «class» className name =>
    obtain ⟨moduleCode, hmodule, h⟩ := bind_eq_ok_iff.mp h
    obtain ⟨nameCode, hname, h⟩ := bind_eq_ok_iff.mp h
    obtain rfl := Except.ok.inj h
    exact noKeywords_append_iff.mpr
      ⟨noKeywords_append_iff.mpr ⟨noKeywords_of_identCode hmodule, by decide +kernel⟩,
        noKeywords_of_identCode hname⟩

theorem noKeywords_between {before after : String} {c : Code}
    (hbefore : (fixed before).NoKeywords) (hc : c.NoKeywords) (hafter : (fixed after).NoKeywords) :
    (fixed before ++ c ++ fixed after).NoKeywords :=
  noKeywords_append_iff.mpr ⟨noKeywords_append_iff.mpr ⟨hbefore, hc⟩, hafter⟩

/-- No type has a keyword in its code. -/
theorem noKeywords_of_code {ty : DeclaredType} {c : Code} (h : m.code ty = .ok c) :
    c.NoKeywords := by
  have hall := TypeMap.code.mutual_induct m
    (fun ty => ∀ c, m.code ty = .ok c → c.NoKeywords)
    (fun tys => ∀ cs, m.codes tys = .ok cs → ∀ c ∈ cs, c.NoKeywords)
  refine (hall ?_ ?_ ?_ ?_ ?_ ?_ ?_ ?_ ?_ ?_ ?_).1 ty c h
  · -- typed arrays
    intro args ih c h
    rw [code, if_pos rfl] at h
    obtain ⟨elements, helements, h⟩ := bind_eq_ok_iff.mp h
    obtain rfl := Except.ok.inj h
    exact noKeywords_between (by decide +kernel) (noKeywords_commas (ih elements helements))
      (by decide +kernel)
  · -- any variant
    intro args hne c h
    rw [code, if_neg hne, if_pos rfl] at h
    obtain rfl := Except.ok.inj h
    exact noKeywords_runtime (by decide)
  · -- classes
    intro name args harray hvariant hclass c h
    rw [code, if_neg harray, if_neg hvariant, if_pos hclass] at h
    exact noKeywords_of_identCode h
  · -- value types
    intro name args harray hvariant hclass c h
    rw [code, if_neg harray, if_neg hvariant, if_neg hclass] at h
    exact noKeywords_of_hostType h
  · -- values that may be absent
    intro inner ih c h
    rw [code] at h
    obtain ⟨innerCode, hinner, h⟩ := bind_eq_ok_iff.mp h
    obtain rfl := Except.ok.inj h
    exact noKeywords_between (by decide +kernel) (ih innerCode hinner) (by decide +kernel)
  · -- sequences
    intro element ih c h
    rw [code] at h
    obtain ⟨elementCode, helement, h⟩ := bind_eq_ok_iff.mp h
    obtain rfl := Except.ok.inj h
    exact noKeywords_between (by decide +kernel) (ih elementCode helement) (by decide +kernel)
  · -- enumerations that the module can name
    intro name bitfield owner howner c h
    rw [code, howner] at h
    exact noKeywords_of_enumPath h
  · -- enumerations that it cannot name
    intro name bitfield howner c h
    rw [code, howner] at h
    obtain rfl := Except.ok.inj h
    exact noKeywords_word (by decide)
  · -- pointers
    intro spelling c h
    rw [code] at h
    obtain rfl := Except.ok.inj h
    intro w hw
    cases hw
  · -- no types
    intro cs h c hc
    rw [codes] at h
    obtain rfl := Except.ok.inj h
    cases hc
  · -- a type and others
    intro ty rest ihFirst ihRest cs h c hc
    rw [codes] at h
    obtain ⟨first, hfirst, h⟩ := bind_eq_ok_iff.mp h
    obtain ⟨others, hothers, h⟩ := bind_eq_ok_iff.mp h
    obtain rfl := Except.ok.inj h
    rcases List.mem_cons.mp hc with rfl | hc
    · exact ihFirst _ hfirst
    · exact ihRest others hothers c hc

theorem noKeywords_of_map {ty : DeclaredType} {t : MarshaledType} (h : m.map ty = .ok (.ok t)) :
    t.code.NoKeywords := by
  unfold map at h
  dsimp only at h
  split at h
  · cases h
  · obtain ⟨c, hc, rfl⟩ := map_eq_ok_iff.mp (Except.ok.inj h)
    exact noKeywords_of_code hc

theorem mapMember_eq_ok_iff {owner member : String} {ty : DeclaredType} {t : MarshaledType} :
    m.mapMember owner member ty = .ok t ↔ m.map ty = .ok (.ok t) := by
  unfold mapMember
  split
  · next hmap =>
    rw [hmap]
    exact iff_of_false nofun nofun
  · next step hmap =>
    rw [hmap]
    exact ⟨congrArg _, Except.ok.inj⟩

theorem noKeywords_of_mapMember {owner member : String} {ty : DeclaredType} {t : MarshaledType}
    (h : m.mapMember owner member ty = .ok t) : t.code.NoKeywords :=
  noKeywords_of_map (mapMember_eq_ok_iff.mp h)

/-- Whether parameters are mapped does not hang on the name of their function. -/
theorem mapParams_eq_ok_iff {owner member member' : String} {params : List Param}
    {mapped : List MappedParam} :
    m.mapParams owner member params = .ok mapped ↔
      m.mapParams owner member' params = .ok mapped := by
  have hmap (member member' : String) (h : m.mapParams owner member params = .ok mapped) :
      m.mapParams owner member' params = .ok mapped := by
    unfold mapParams at h ⊢
    refine mapM_eq_ok_iff.mpr (.trans (List.map_congr_left fun p hp => ?_) (mapM_eq_ok_iff.mp h))
    obtain ⟨q, -, hq⟩ := exists_of_mapM_eq_ok h hp
    obtain ⟨type, htype, hident⟩ := bind_eq_ok_iff.mp hq
    rw [hq]
    exact bind_eq_ok_iff.mpr
      ⟨type, mapMember_eq_ok_iff.mpr (mapMember_eq_ok_iff.mp htype), hident⟩
  exact ⟨hmap member member', hmap member' member⟩

end TypeMap

end EngineBindings
