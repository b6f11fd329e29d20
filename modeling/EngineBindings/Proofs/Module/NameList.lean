import EngineBindings.Module.NameList
import EngineBindings.Proofs.File.Path
import EngineBindings.Proofs.File.View
import EngineBindings.Proofs.Sequence
import EngineBindings.Proofs.Text.Identifier

/-!
# What name lists say

The names in a text are distinct and in order, but what is left of the name of a source file need not
be a name: `parse_clean_iff` says of every text when its names are clean and are read again from the
list of them.  Names that are identifiers always are (`parse_render`).

The lists of a module are files of their own (`placements`), and where modules have different names
that are identifiers, no list is in another one's place (`lookup_allPlacements`).
-/

namespace EngineBindings

open FilePath Naming

/-! ## One name on a line -/

namespace NameList

/-- Whether a name is not empty and has no white space at its ends. -/
structure IsBare (name : String) : Prop where
  ne_empty : name ≠ ""
  trim_eq : Text.trim name = name

/-- Whether a line, blanks at its ends apart, is the name of a source file with a stem and no
comment. -/
structure IsSourceLine (line stem : String) : Prop where
  trim_eq : Text.trim line = stem ++ ".rs"
  head?_ne : (Text.trim line).toList.head? ≠ some '#'

/-- Whether a text is neither a comment nor the name of a source file. -/
structure IsPlainName (name : String) : Prop where
  head?_ne : name.toList.head? ≠ some '#'
  not_source : ∀ stem, name ≠ stem ++ ".rs"

variable {line name stem : String}

theorem nameOfLine?_of_trim (hne : Text.trim line ≠ "")
    (hhead : (Text.trim line).toList.head? ≠ some '#') :
    nameOfLine? line = some ((Text.stripTail? ".rs" (Text.trim line)).getD (Text.trim line)) := by
  unfold nameOfLine?
  dsimp only
  rw [Bool.eq_false_iff.mpr fun hempty => hne (String.isEmpty_iff.mp hempty),
    beq_false_of_ne hhead]
  rfl

theorem nameOfLine?_of_source (h : IsSourceLine line stem) : nameOfLine? line = some stem := by
  have hne : Text.trim line ≠ "" := by
    rw [h.trim_eq, Ne, ← String.isEmpty_iff, append_ne_empty (by decide)]
    exact Bool.false_ne_true
  rw [nameOfLine?_of_trim hne h.head?_ne, h.trim_eq, Text.stripTail?_append, Option.getD_some]

theorem nameOfLine?_of_plain (htrim : Text.trim line = name) (hne : name ≠ "")
    (hplain : IsPlainName name) : nameOfLine? line = some name := by
  subst htrim
  have hending : Text.stripTail? ".rs" (Text.trim line) = none :=
    Option.eq_none_iff_forall_ne_some.mpr fun stem hstem =>
      hplain.not_source stem (Text.stripTail?_eq_some_iff.mp hstem)
  rw [nameOfLine?_of_trim hne hplain.head?_ne, hending, Option.getD_none]

/-- The name on a line is the stem of a source file, or all that is not blank at the ends. -/
theorem nameOfLine?_eq_some_iff :
    nameOfLine? line = some name ↔
      IsSourceLine line name ∨ Text.trim line = name ∧ name ≠ "" ∧ IsPlainName name := by
  constructor
  · intro h
    by_cases hne : Text.trim line = ""
    · rw [nameOfLine?, hne] at h
      cases h
    by_cases hhead : (Text.trim line).toList.head? = some '#'
    · rw [nameOfLine?, hhead, beq_self_eq_true, Bool.or_true] at h
      cases h
    rw [nameOfLine?_of_trim hne hhead, Option.some.injEq] at h
    cases hending : Text.stripTail? ".rs" (Text.trim line) with
    | some stem =>
      rw [hending, Option.getD_some] at h
      exact .inl ⟨h ▸ Text.stripTail?_eq_some_iff.mp hending, hhead⟩
    | none =>
      rw [hending, Option.getD_none] at h
      refine .inr ⟨h, h ▸ hne, h ▸ hhead, fun stem hstem => ?_⟩
      rw [h, Text.stripTail?_eq_some_iff.mpr hstem] at hending
      cases hending
  · rintro (hsource | ⟨htrim, hne, hplain⟩)
    · exact nameOfLine?_of_source hsource
    · exact nameOfLine?_of_plain htrim hne hplain

/-- A name comes from a line of its own if it is bare and nothing of it is dropped. -/
theorem nameOfLine?_self_iff :
    nameOfLine? name = some name ↔ IsBare name ∧ IsPlainName name := by
  rw [nameOfLine?_eq_some_iff]
  constructor
  · rintro (hsource | ⟨htrim, hne, hplain⟩)
    · have hlonger := congrArg (fun s : String => s.toList.length) hsource.trim_eq
      have htrimmed := (Text.trim_sublist name).length_le
      simp only [String.toList_append, List.length_append] at hlonger
      have hending : 0 < ".rs".toList.length := by decide
      omega
    · exact ⟨⟨hne, htrim⟩, hplain⟩
  · rintro ⟨hbare, hplain⟩
    exact .inr ⟨hbare.trim_eq, hbare.ne_empty, hplain⟩

/-- What is read of a line is no longer than it, and shorter unless it is the line itself. -/
theorem length_nameOfLine? (h : nameOfLine? line = some name) :
    name = line ∨ name.toList.length < line.toList.length := by
  have htrimmed := (Text.trim_sublist line).length_le
  rcases nameOfLine?_eq_some_iff.mp h with hsource | ⟨htrim, -, -⟩
  · have hlonger := congrArg (fun s : String => s.toList.length) hsource.trim_eq
    simp only [String.toList_append, List.length_append] at hlonger
    have hending : 0 < ".rs".toList.length := by decide
    omega
  · rcases Nat.eq_or_lt_of_le htrimmed with hsame | hless
    · have hline := (Text.trim_sublist line).eq_of_length hsame
      exact .inl (htrim ▸ String.toList_inj.mp hline)
    · exact .inr (htrim ▸ hless)

theorem head?_ne_of_nameOfLine? (h : nameOfLine? line = some name) :
    name.toList.head? ≠ some '#' := by
  rcases nameOfLine?_eq_some_iff.mp h with hsource | ⟨-, -, hplain⟩
  · intro hhead
    refine hsource.head?_ne ?_
    rw [hsource.trim_eq, String.toList_append, List.head?_append, hhead, Option.some_or]
  · exact hplain.head?_ne

/-! ## The names in a text -/

theorem mem_parse {text : String} :
    name ∈ parse text ↔ ∃ line ∈ Text.lines text, nameOfLine? line = some name := by
  rw [parse, mem_firstOccurrences, List.mem_filterMap]

theorem notMem_of_nameOfLine? {c : Char} (h : nameOfLine? line = some name)
    (hc : c ∉ line.toList) : c ∉ name.toList := by
  refine fun hmem => hc (Text.mem_of_mem_trim ?_)
  rcases nameOfLine?_eq_some_iff.mp h with hsource | ⟨rfl, -, -⟩
  · rw [hsource.trim_eq, String.toList_append]
    exact List.mem_append_left _ hmem
  · exact hmem

/-- No name has a line feed in it. -/
theorem notMem_of_mem_parse {text : String} (h : name ∈ parse text) : '\n' ∉ name.toList := by
  obtain ⟨line, hline, hname⟩ := mem_parse.mp h
  exact notMem_of_nameOfLine? hname (Text.notMem_of_mem_lines hline)

/-- What holds of all bare names from which nothing is dropped holds of all names in a text if it
holds of the stems of source files. -/
theorem forall_mem_parse_iff {P : String → Prop}
    (hplain : ∀ name, IsBare name → IsPlainName name → P name) (text : String) :
    (∀ name ∈ parse text, P name) ↔
      ∀ line ∈ Text.lines text, ∀ stem, IsSourceLine line stem → P stem := by
  constructor
  · intro h line hline stem hsource
    exact h stem (mem_parse.mpr ⟨line, hline, nameOfLine?_of_source hsource⟩)
  · intro h name hname
    obtain ⟨line, hline, hname⟩ := mem_parse.mp hname
    rcases nameOfLine?_eq_some_iff.mp hname with hsource | ⟨rfl, hne, hkept⟩
    · exact h line hline name hsource
    · exact hplain _ ⟨hne, Text.trim_trim line⟩ hkept

/-! ## Names read again -/

theorem nameOfLine?_dropLineEnd (s : String) :
    nameOfLine? (Text.dropLineEnd s) = nameOfLine? s := by
  rw [nameOfLine?, nameOfLine?, Text.trim_dropLineEnd]

/-- Reading a list that was written reads each name as a line of its own. -/
theorem parse_render_eq {names : List String} (h : ∀ name ∈ names, '\n' ∉ name.toList) :
    parse (render names) = firstOccurrences (names.filterMap nameOfLine?) := by
  cases names with
  | nil => rfl
  | cons name rest =>
    by_cases hjoin : Text.join "\n" (name :: rest) = ""
    · have hempty : name = "" ∧ rest = [] := Text.join_eq_empty (by decide) hjoin
      rw [hempty.1, hempty.2]
      rfl
    · have hfilled : (Text.join "\n" (name :: rest)).isEmpty = false :=
        Bool.eq_false_iff.mpr fun hempty => hjoin (String.isEmpty_iff.mp hempty)
      have hlines : Text.lines (Text.join "\n" (name :: rest) ++ "\n") =
          (name :: rest).map Text.dropLineEnd := Text.lines_join (List.cons_ne_nil _ _) h
      have hnames : ((name :: rest).map Text.dropLineEnd).filterMap nameOfLine? =
          (name :: rest).filterMap nameOfLine? := by
        rw [List.filterMap_map]
        refine List.filterMap_congr fun s _ => ?_
        rw [Function.comp_apply, nameOfLine?_dropLineEnd]
      rw [parse, render, hfilled, if_neg Bool.false_ne_true, hlines, hnames]

/-- If a partial function makes everything smaller that it changes, and all elements of a list are
values of it there, then it changes none of them. -/
theorem eq_some_of_shrinks {α : Type} {f : α → Option α} (size : α → Nat)
    (hf : ∀ x y, f x = some y → y = x ∨ size y < size x) {xs : List α}
    (hxs : ∀ y ∈ xs, ∃ x ∈ xs, f x = some y) : ∀ x ∈ xs, f x = some x := by
  have hbound : ∀ ys : List α, ∃ n, ∀ y ∈ ys, size y < n := by
    intro ys
    induction ys with
    | nil => exact ⟨0, fun _ hy => nomatch hy⟩
    | cons y ys ih =>
      obtain ⟨n, hn⟩ := ih
      refine ⟨max n (size y + 1), List.forall_mem_cons.mpr ⟨by omega, fun z hz => ?_⟩⟩
      exact Nat.lt_of_lt_of_le (hn z hz) (Nat.le_max_left _ _)
  obtain ⟨n, hn⟩ := hbound xs
  -- by induction on the room above: a larger element stays, so it is not where a smaller one is from
  suffices hall : ∀ room, ∀ x ∈ xs, n ≤ size x + room → f x = some x from
    fun x hx => hall n x hx (Nat.le_add_left _ _)
  intro room
  induction room with
  | zero => exact fun x hx hle => absurd (hn x hx) (Nat.not_lt.mpr hle)
  | succ room ih =>
    intro x hx hle
    obtain ⟨z, hz, hfz⟩ := hxs x hx
    rcases hf z x hfz with rfl | hlt
    · exact hfz
    · have hself := ih z hz (by omega)
      obtain rfl : x = z := Option.some.inj (hfz.symm.trans hself)
      exact hfz

/-- The names in a text are read again from the list of them if each is its own name. -/
theorem parse_render_parse_iff_forall (text : String) :
    parse (render (parse text)) = parse text ↔
      ∀ name ∈ parse text, nameOfLine? name = some name := by
  rw [parse_render_eq fun name hname => notMem_of_mem_parse hname]
  constructor
  · intro h
    refine eq_some_of_shrinks (fun s : String => s.toList.length)
      (fun s t hst => length_nameOfLine? hst) fun name hname => ?_
    rw [← h, mem_firstOccurrences] at hname
    exact List.mem_filterMap.mp hname
  · intro h
    rw [List.filterMap_congr h, List.filterMap_some]
    exact firstOccurrences_of_nodup (firstOccurrences_nodup _)

/-- The names in a text are distinct, in the order in which lines first give them, and free of line
breaks.  They are not empty and have no white space at their ends exactly if this is so of the stem
of every source file that a line names; and they are read again from the list of them exactly if,
besides, no stem is the name of a source file itself. -/
theorem parse_clean_iff (text : String) :
    (parse text).Nodup ∧ KeepsFirst ((Text.lines text).filterMap nameOfLine?) (parse text) ∧
      (∀ name ∈ parse text, '\n' ∉ name.toList) ∧
      ((∀ name ∈ parse text, IsBare name) ↔
        ∀ line ∈ Text.lines text, ∀ stem, IsSourceLine line stem → IsBare stem) ∧
      (parse (render (parse text)) = parse text ↔
        ∀ line ∈ Text.lines text, ∀ stem, IsSourceLine line stem →
          IsBare stem ∧ ∀ inner, stem ≠ inner ++ ".rs") := by
  refine ⟨firstOccurrences_nodup _, keepsFirst_firstOccurrences _,
    fun name hname => notMem_of_mem_parse hname,
    forall_mem_parse_iff (fun _ hbare _ => hbare) text, ?_⟩
  have hkept : (∀ name ∈ parse text, nameOfLine? name = some name) ↔
      ∀ name ∈ parse text, IsBare name ∧ ∀ inner, name ≠ inner ++ ".rs" := by
    refine forall₂_congr fun name hname => ?_
    rw [nameOfLine?_self_iff]
    obtain ⟨line, -, hline⟩ := mem_parse.mp hname
    exact ⟨fun h => ⟨h.1, h.2.not_source⟩,
      fun h => ⟨h.1, head?_ne_of_nameOfLine? hline, h.2⟩⟩
  rw [parse_render_parse_iff_forall, hkept]
  exact forall_mem_parse_iff (fun _ hbare hplain => ⟨hbare, hplain.not_source⟩) text

/-- A line that is only the ending of source files gives an empty name, which is lost when the list
is read again. -/
theorem not_parse_clean :
    ¬∀ text, (∀ name ∈ parse text, IsBare name) ∧ parse (render (parse text)) = parse text := by
  intro h
  have hparse : parse ".rs\n" = [""] := by decide +kernel
  exact ((h ".rs\n").1 "" (hparse ▸ List.mem_cons_self)).ne_empty rfl

theorem nameOfLine?_of_isIdentifier (h : IsIdentifier name) : nameOfLine? name = some name := by
  refine nameOfLine?_self_iff.mpr ⟨⟨h.ne_empty, ?_⟩, h.head?_ne, fun stem hstem => ?_⟩
  · exact Text.trim_of_not_isBlank fun c hc => h.plain.not_isBlank hc
  · refine h.plain.notMem (c := '.') rfl ?_
    rw [hstem, String.toList_append]
    exact List.mem_append_right _ (by decide)

/-- Identifiers are read back, each once. -/
theorem parse_render {names : List String} (h : ∀ name ∈ names, IsIdentifier name) :
    parse (render names) = firstOccurrences names := by
  rw [parse_render_eq fun s hs => (h s hs).plain.notMem rfl,
    List.filterMap_congr fun s hs => nameOfLine?_of_isIdentifier (h s hs), List.filterMap_some]

end NameList

/-! ## Names of files -/

/-- Whether a text can stand before the ending of a file. -/
structure IsStem (stem : String) : Prop where
  whole : '/' ∉ stem.toList
  noNul : '\x00' ∉ stem.toList

theorem isStem_of_plain {stem : String} (h : Text.Plain stem) : IsStem stem :=
  ⟨h.notMem rfl, h.notMem rfl⟩

theorem isFileName_append {stem ending : String} (hstem : IsStem stem)
    (hlong : 2 < ending.toList.length) (hwhole : '/' ∉ ending.toList)
    (hnul : '\x00' ∉ ending.toList) : IsFileName (stem ++ ending) := by
  have hne : ∀ short : String, short.toList.length ≤ 2 → (stem ++ ending == short) = false := by
    intro short hshort
    refine beq_false_of_ne fun heq => ?_
    have hlength := congrArg (fun s : String => s.toList.length) heq
    simp only [String.toList_append, List.length_append] at hlength
    omega
  have hempty : (stem ++ ending).isEmpty = false := append_ne_empty fun hnil => by
    rw [hnil] at hlong
    cases hlong
  constructor
  · rw [isHere, hempty, hne "." (by decide), Bool.or_false]
  · exact hne ".." (by decide)
  · rw [String.toList_append, List.mem_append, not_or]
    exact ⟨hstem.whole, hwhole⟩
  · rw [String.toList_append, List.mem_append, not_or]
    exact ⟨hstem.noNul, hnul⟩

theorem isFileName_of_isIdentifier {name : String} (h : IsIdentifier name) : IsFileName name := by
  have hne : ∀ c : Char, Text.isPlain c = false → c ∉ name.toList := fun c hc => h.plain.notMem hc
  constructor
  · rw [isHere, Bool.or_eq_false_iff]
    refine ⟨Bool.eq_false_iff.mpr fun hempty => h.ne_empty (String.isEmpty_iff.mp hempty), ?_⟩
    refine beq_false_of_ne ?_
    rintro rfl
    exact hne '.' rfl (by decide)
  · refine beq_false_of_ne ?_
    rintro rfl
    exact hne '.' rfl (by decide)
  · exact hne '/' rfl
  · exact hne '\x00' rfl

/-- Where a stem without hyphens ends and an ending starts with one, both can be seen from the
whole. -/
theorem append_ending_inj {stem stem' ending ending' : String} (hstem : Text.Plain stem)
    (hstem' : Text.Plain stem') (hending : ending.toList.head? = some '-')
    (hending' : ending'.toList.head? = some '-') (h : stem ++ ending = stem' ++ ending') :
    stem = stem' ∧ ending = ending' := by
  -- the stem is all that stands before the first hyphen
  have htake : ∀ {s e : String}, Text.Plain s → e.toList.head? = some '-' →
      (s ++ e).toList.takeWhile (· != '-') = s.toList := by
    intro s e hs he
    obtain ⟨rest, hrest⟩ := List.head?_eq_some_iff.mp he
    rw [String.toList_append, hrest, List.takeWhile_append_of_pos, List.takeWhile_cons_of_neg,
      List.append_nil]
    · simp
    · intro c hc
      rw [bne_iff_ne]
      rintro rfl
      exact hs.notMem rfl hc
  have hstems : stem = stem' := by
    rw [← String.toList_inj, ← htake hstem hending, h, htake hstem' hending']
  subst hstems
  refine ⟨rfl, ?_⟩
  rw [← String.toList_inj, String.toList_append, String.toList_append] at h
  exact String.toList_inj.mp (List.append_cancel_left h)

/-! ## The files of a module -/

namespace ModuleLists

/-- The lists of a plan by the endings of their files. -/
def contents (p : ModulePlan) : List (String × String) :=
  [("-classes.txt", NameList.render p.generatedClasses),
    ("-available-classes.txt", NameList.render p.availableClasses),
    ("-builtins.txt", NameList.render p.builtins)] ++
    (if p.preamble.isEmpty then [] else [("-preamble.txt", p.preamble)])

/-- The files of a plan in the directory of all lists. -/
def placements (p : ModulePlan) : List Placement :=
  (contents p).map fun (ending, text) => ([p.module ++ ending], text)

theorem filesOf_eq (directory : String) (p : ModulePlan) :
    filesOf directory p = (placements p).map fun file => (below directory file.1, file.2) := by
  unfold filesOf placements contents ModuleListPaths.inDirectory
  simp only [below_singleton, List.map_append, List.map_cons, List.map_nil]
  split <;> rfl

/-- The endings of the files of a plan. -/
def endings : List String :=
  ["-classes.txt", "-available-classes.txt", "-builtins.txt", "-preamble.txt"]

theorem ending_spec : ∀ ending ∈ endings, ending.toList.head? = some '-' ∧
    2 < ending.toList.length ∧ '/' ∉ ending.toList ∧ '\x00' ∉ ending.toList := by
  decide

theorem contents_sublist (p : ModulePlan) : List.Sublist ((contents p).map Prod.fst) endings := by
  unfold contents endings
  split
  · exact List.sublist_append_left
      ["-classes.txt", "-available-classes.txt", "-builtins.txt"] ["-preamble.txt"]
  · exact List.Sublist.refl _

theorem contents_nodup (p : ModulePlan) : ((contents p).map Prod.fst).Nodup :=
  List.Nodup.sublist (contents_sublist p) (by decide)

theorem exists_ending {p : ModulePlan} {names : List String} {text : String}
    (h : (names, text) ∈ placements p) :
    ∃ ending ∈ endings, names = [p.module ++ ending] ∧ (ending, text) ∈ contents p := by
  obtain ⟨⟨ending, _⟩, hcontent, heq⟩ := List.mem_map.mp h
  obtain ⟨rfl, rfl⟩ := Prod.mk.inj heq
  exact ⟨ending, (contents_sublist p).subset (List.mem_map_of_mem hcontent), rfl, hcontent⟩

theorem isFileName_ending {stem ending : String} (hstem : IsStem stem)
    (hending : ending ∈ endings) : IsFileName (stem ++ ending) := by
  obtain ⟨-, hlong, hwhole, hnul⟩ := ending_spec ending hending
  exact isFileName_append hstem hlong hwhole hnul

theorem leadsDown_ending {module ending : String} (hmodule : IsIdentifier module)
    (hending : ending ∈ endings) : LeadsDown [module ++ ending] :=
  leadsDown_singleton (isFileName_ending (isStem_of_plain hmodule.plain) hending)

theorem ending_inj {module module' ending ending' : String} (hmodule : IsIdentifier module)
    (hmodule' : IsIdentifier module') (hending : ending ∈ endings) (hending' : ending' ∈ endings)
    (h : [module ++ ending] = [module' ++ ending']) : module = module' ∧ ending = ending' :=
  append_ending_inj hmodule.plain hmodule'.plain (ending_spec ending hending).1
    (ending_spec ending' hending').1 (List.cons.inj h).1

theorem placements_nodup {p : ModulePlan} (hmodule : IsIdentifier p.module) :
    ((placements p).map Prod.fst).Nodup := by
  have hkeys : (placements p).map Prod.fst =
      ((contents p).map Prod.fst).map fun ending => [p.module ++ ending] := by
    rw [placements, List.map_map, List.map_map]
    rfl
  rw [hkeys]
  refine List.Nodup.map_on (fun ending hending ending' hending' heq => ?_) (contents_nodup p)
  exact (ending_inj hmodule hmodule ((contents_sublist p).subset hending)
    ((contents_sublist p).subset hending') heq).2

/-- The files of plans, one plan after another. -/
def allPlacements (plans : List ModulePlan) : List Placement :=
  plans.flatMap placements

section All

variable {plans : List ModulePlan} (hnodup : (plans.map ModulePlan.module).Nodup)
  (hmodules : ∀ p ∈ plans, IsIdentifier p.module)

include hnodup hmodules

/-- A list is where only its own module has one. -/
theorem mem_allPlacements_iff {p : ModulePlan} (hp : p ∈ plans) {ending text : String}
    (hending : ending ∈ endings) :
    ([p.module ++ ending], text) ∈ allPlacements plans ↔ (ending, text) ∈ contents p := by
  constructor
  · intro h
    obtain ⟨q, hq, hfile⟩ := List.mem_flatMap.mp h
    obtain ⟨ending', hending', hnames, hcontent⟩ := exists_ending hfile
    obtain ⟨hmodule, rfl⟩ := ending_inj (hmodules p hp) (hmodules q hq) hending hending' hnames
    obtain rfl := List.inj_on_of_nodup_map hnodup hp hq hmodule
    exact hcontent
  · intro h
    exact List.mem_flatMap.mpr ⟨p, hp, List.mem_map.mpr ⟨_, h, rfl⟩⟩

theorem allPlacements_nodup : ((allPlacements plans).map Prod.fst).Nodup := by
  rw [allPlacements, List.map_flatMap, List.nodup_flatMap]
  refine ⟨fun p hp => placements_nodup (hmodules p hp), ?_⟩
  refine (List.pairwise_map.mp hnodup).imp_of_mem fun {p q} hp hq hne names hnames hnames' => ?_
  obtain ⟨⟨_, text⟩, hfile, rfl⟩ := List.mem_map.mp hnames
  obtain ⟨⟨_, text'⟩, hfile', rfl⟩ := List.mem_map.mp hnames'
  obtain ⟨ending, hending, hname, -⟩ := exists_ending hfile
  obtain ⟨ending', hending', hname', -⟩ := exists_ending hfile'
  exact hne (ending_inj (hmodules p hp) (hmodules q hq) hending hending'
    (hname.symm.trans hname')).1

/-- Each list of a plan is the one that is there after all lists were written. -/
theorem lookup_allPlacements {p : ModulePlan} (hp : p ∈ plans) {ending : String}
    (hending : ending ∈ endings) :
    (allPlacements plans).reverse.lookup [p.module ++ ending] = (contents p).lookup ending := by
  have hkeys : ((allPlacements plans).reverse.map Prod.fst).Nodup := by
    rw [List.map_reverse, List.nodup_reverse]
    exact allPlacements_nodup hnodup hmodules
  refine Option.ext fun text => ?_
  rw [lookup_eq_some_iff_mem hkeys, List.mem_reverse,
    mem_allPlacements_iff hnodup hmodules hp hending, lookup_eq_some_iff_mem (contents_nodup p)]

end All

end ModuleLists

end EngineBindings
