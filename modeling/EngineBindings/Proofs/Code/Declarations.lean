import EngineBindings.Marshal.Argument
import EngineBindings.Proofs.Text.Pieces
import EngineBindings.Proofs.Traverse

/-!
# What code declares

The words of code outside of its groups tell where its declarations are: an item is a keyword with
the name after it, and a block is what stands in braces.  Readers of declarations pass over code
that has none of their keywords (`Code.readAll_append`).  What stands between commas is read where
it was put together with commas (`Code.entries_commas`), and a number is the word that spells it,
with signs in front (`Code.integer?_numeral`).
-/

namespace EngineBindings

/-- The spelling of a word. -/
def Token.word? : Token → Option String
  | .word spelling => some spelling
  | _ => none

/-- A word or a character of punctuation. -/
def Token.leaf? : Token → Option (String ⊕ Char)
  | .word spelling => some (.inl spelling)
  | .mark c => some (.inr c)
  | _ => none

/-- The token of a word or a character of punctuation. -/
def Token.ofLeaf : String ⊕ Char → Token
  | .inl spelling => .word spelling
  | .inr c => .mark c

theorem Token.eq_ofLeaf {t : Token} {leaf : String ⊕ Char} (h : t.leaf? = some leaf) :
    t = Token.ofLeaf leaf := by
  cases t <;> simp only [leaf?, Option.some.injEq, reduceCtorEq] at h
  · rw [← h, ofLeaf]
  · rw [← h, ofLeaf]

/-- The inside of a block in braces. -/
def Token.block? : Token → Option Code
  | .group .brace inner => some inner
  | _ => none

namespace Code

/-! ## Words and blocks -/

/-- The words outside of groups, in order. -/
def words (c : Code) : List String :=
  c.filterMap Token.word?

/-- The first block outside of other groups. -/
def block? (c : Code) : Option Code :=
  c.findSome? Token.block?

/-- The code up to its first block. -/
def beforeBlock (c : Code) : Code :=
  c.takeWhile fun token => token.block?.isNone

/-- The code after a word. -/
def after? (keyword : String) : Code → Option Code
  | [] => none
  | token :: rest => if token.word? = some keyword then some rest else after? keyword rest

/-- The first block after a word. -/
def blockAfter? (keyword : String) (c : Code) : Option Code :=
  (after? keyword c).bind block?

variable {a b c : Code}

@[simp] theorem words_nil : words [] = [] :=
  rfl

@[simp] theorem words_append (a b : Code) : words (a ++ b) = words a ++ words b :=
  List.filterMap_append

@[simp] theorem words_word (spelling : String) : words (word spelling) = [spelling] :=
  rfl

@[simp] theorem words_text (content : String) : words (text content) = [] :=
  rfl

@[simp] theorem words_paren (inner : Code) : words (paren inner) = [] :=
  rfl

@[simp] theorem words_bracket (inner : Code) : words (bracket inner) = [] :=
  rfl

@[simp] theorem words_brace (inner : Code) : words (brace inner) = [] :=
  rfl

@[simp] theorem words_doc (content : String) : words (Marshal.doc content) = [] := by
  have hmark : (fixed "#").words = [] := by decide +kernel
  rw [Marshal.doc, words_append, hmark, words_bracket, List.append_nil]

theorem mem_words_iff {spelling : String} : spelling ∈ words c ↔ Token.word spelling ∈ c := by
  rw [words, List.mem_filterMap]
  constructor
  · rintro ⟨token, htoken, hword⟩
    cases token <;> simp only [Token.word?, Option.some.injEq, reduceCtorEq] at hword
    exact hword ▸ htoken
  · exact fun h => ⟨_, h, rfl⟩

theorem mem_words_commas {cs : List Code} {spelling : String} (h : spelling ∈ words (commas cs)) :
    ∃ c ∈ cs, spelling ∈ words c := by
  induction cs using commas.induct with
  | case1 => cases h
  | case2 c => exact ⟨c, List.mem_singleton_self c, h⟩
  | case3 c rest hrest ih =>
    rw [commas.eq_3 c rest hrest, words_append, List.mem_append] at h
    rcases h with h | h
    · exact ⟨c, List.mem_cons_self, h⟩
    · obtain ⟨d, hd, hword⟩ := ih h
      exact ⟨d, List.mem_cons_of_mem c hd, hword⟩

/-- Code without groups and texts is known by its words and marks. -/
theorem eq_map_ofLeaf (leaves : List (String ⊕ Char)) (h : c.mapM Token.leaf? = some leaves) :
    c = leaves.map Token.ofLeaf := by
  have hmap := mapM_eq_some_iff.mp h
  clear h
  induction c generalizing leaves with
  | nil =>
    obtain rfl := List.map_eq_nil_iff.mp hmap.symm
    rfl
  | cons token rest ih =>
    cases leaves with
    | nil => cases hmap
    | cons leaf leaves =>
      obtain ⟨hleaf, hrest⟩ := List.cons.inj hmap
      rw [Token.eq_ofLeaf hleaf, ih leaves hrest, List.map_cons]

@[simp] theorem block?_word (spelling : String) : block? (word spelling) = none :=
  rfl

@[simp] theorem block?_paren (inner : Code) : block? (paren inner) = none :=
  rfl

@[simp] theorem block?_brace (inner : Code) : block? (brace inner) = some inner :=
  rfl

@[simp] theorem block?_brace_append (inner rest : Code) :
    block? (brace inner ++ rest) = some inner :=
  rfl

theorem block?_append (ha : block? a = none) : block? (a ++ b) = block? b := by
  rw [block?, List.findSome?_append]
  change (block? a).or (block? b) = _
  rw [ha, Option.none_or]

theorem after?_word_append (keyword : String) (rest : Code) :
    after? keyword (word keyword ++ rest) = some rest :=
  if_pos rfl

theorem after?_append {keyword : String} (ha : keyword ∉ words a) :
    after? keyword (a ++ b) = after? keyword b := by
  induction a with
  | nil => rfl
  | cons token rest ih =>
    rw [words, List.mem_filterMap, not_exists] at ha
    have hhead : token.word? ≠ some keyword := fun h => ha token ⟨List.mem_cons_self, h⟩
    have hrest : keyword ∉ words rest := by
      rw [words, List.mem_filterMap]
      exact fun ⟨t, ht, hword⟩ => ha t ⟨List.mem_cons_of_mem _ ht, hword⟩
    rw [List.cons_append, after?, if_neg hhead, ih hrest]

/-! ## Texts around names -/

/-- Texts with the words and marks that they consist of. -/
structure TextTable where
  entries : List (String × List (String ⊕ Char))
  reads : ∀ entry ∈ entries, (fixed entry.1).mapM Token.leaf? = some entry.2

section TextTable

variable (table : TextTable) {content : String}

theorem TextTable.fixed_eq (leaves : List (String ⊕ Char))
    (h : table.entries.lookup content = some leaves) :
    fixed content = leaves.map Token.ofLeaf := by
  obtain ⟨before, after, hentries, -⟩ := List.lookup_eq_some_iff.mp h
  have hmem : (content, leaves) ∈ table.entries := by
    rw [hentries]
    exact List.mem_append_right _ List.mem_cons_self
  exact eq_map_ofLeaf leaves (table.reads (content, leaves) hmem)

/-- A text without groups has no block. -/
theorem TextTable.block?_fixed (h : (table.entries.lookup content).isSome) :
    block? (fixed content) = none := by
  obtain ⟨leaves, hleaves⟩ := Option.isSome_iff_exists.mp h
  rw [table.fixed_eq leaves hleaves, block?, List.findSome?_eq_none_iff, List.forall_mem_map]
  rintro (spelling | c) - <;> rfl

theorem TextTable.words_fixed (leaves : List (String ⊕ Char))
    (h : table.entries.lookup content = some leaves) :
    (fixed content).words = leaves.filterMap Sum.getLeft? := by
  rw [table.fixed_eq leaves h, words, List.filterMap_map]
  refine List.filterMap_congr ?_
  rintro (spelling | c) - <;> rfl

end TextTable

/-! ## Code without keywords -/

/-- Whether no keyword of the language stands outside of groups. -/
def NoKeywords (c : Code) : Prop :=
  ∀ w ∈ words c, w ∉ Text.keywords

instance (c : Code) : Decidable (NoKeywords c) :=
  inferInstanceAs (Decidable (∀ w ∈ words c, w ∉ Text.keywords))

theorem NoKeywords.notMem {keyword : String} (h : NoKeywords c)
    (hkeyword : keyword ∈ Text.keywords) : keyword ∉ words c :=
  fun hw => h keyword hw hkeyword

theorem noKeywords_append_iff : NoKeywords (a ++ b) ↔ NoKeywords a ∧ NoKeywords b := by
  rw [NoKeywords, words_append, List.forall_mem_append]
  rfl

theorem noKeywords_word {spelling : String} (h : spelling ∉ Text.keywords) :
    NoKeywords (word spelling) := by
  intro w hw
  rwa [List.mem_singleton.mp hw]

theorem noKeywords_commas {cs : List Code} (h : ∀ c ∈ cs, NoKeywords c) :
    NoKeywords (commas cs) := by
  intro w hw
  obtain ⟨c, hc, hword⟩ := mem_words_commas hw
  exact h c hc w hword

/-! ## Readers -/

/-- What a reader finds at the places of code, in order; it sees the code from there on. -/
def readAll {α : Type} (read? : Code → Option α) : Code → List α
  | [] => []
  | token :: rest => (read? (token :: rest)).toList ++ readAll read? rest

/-- Whether a reader finds something only where one of some keywords stands. -/
def ReadsAt {α : Type} (read? : Code → Option α) (keywords : List String) : Prop :=
  ∀ c found, read? c = some found → ∃ keyword ∈ keywords, c.head? = some (.word keyword)

theorem readAll_append {α : Type} {read? : Code → Option α} {keywords : List String}
    (hread : ReadsAt read? keywords) (ha : ∀ w ∈ words a, w ∉ keywords) :
    readAll read? (a ++ b) = readAll read? b := by
  induction a with
  | nil => rfl
  | cons token rest ih =>
    have hnone : read? (token :: (rest ++ b)) = none := by
      refine Option.eq_none_iff_forall_ne_some.mpr fun found hfound => ?_
      obtain ⟨keyword, hkeyword, hhead⟩ := hread _ _ hfound
      obtain rfl := Option.some.inj hhead
      exact ha keyword (mem_words_iff.mpr List.mem_cons_self) hkeyword
    have hrest : ∀ w ∈ words rest, w ∉ keywords := fun w hw =>
      ha w (mem_words_iff.mpr (List.mem_cons_of_mem _ (mem_words_iff.mp hw)))
    rw [List.cons_append, readAll, hnone, Option.toList_none, List.nil_append, ih hrest]

/-- Whether a reader finds just this in code, whatever stands behind it. -/
def Yields {α : Type} (read? : Code → Option α) (c : Code) (found : List α) : Prop :=
  ∀ rest, readAll read? (c ++ rest) = found ++ readAll read? rest

namespace Yields

variable {α β : Type} {read? : Code → Option α} {xs ys : List α}

theorem readAll_eq (h : Yields read? c xs) : readAll read? c = xs := by
  have hall := h []
  rwa [List.append_nil, readAll, List.append_nil] at hall

theorem append (ha : Yields read? a xs) (hb : Yields read? b ys) :
    Yields read? (a ++ b) (xs ++ ys) := by
  intro rest
  rw [List.append_assoc, ha, hb, List.append_assoc]

theorem of_notMem {keywords : List String} (hread : ReadsAt read? keywords)
    (ha : ∀ w ∈ words a, w ∉ keywords) : Yields read? a [] :=
  fun _ => readAll_append hread ha

theorem of_notMem_words {keyword : String} (hread : ReadsAt read? [keyword])
    (ha : keyword ∉ words a) : Yields read? a [] :=
  of_notMem hread fun _ hw heq => ha (List.mem_singleton.mp heq ▸ hw)

theorem skip {token : Token} (hc : Yields read? c xs)
    (hnone : ∀ rest, read? (token :: (c ++ rest)) = none) : Yields read? (token :: c) xs := by
  intro rest
  rw [List.cons_append, readAll, hnone, hc, Option.toList_none, List.nil_append]

theorem cons {token : Token} {x : α} (hc : Yields read? c xs)
    (hfound : ∀ rest, read? (token :: (c ++ rest)) = some x) :
    Yields read? (token :: c) (x :: xs) := by
  intro rest
  rw [List.cons_append, readAll, hfound, hc, Option.toList_some, List.singleton_append,
    List.cons_append]

theorem flatMap {f : β → Code} {g : β → List α} {zs : List β}
    (h : ∀ z ∈ zs, Yields read? (f z) (g z)) : Yields read? (zs.flatMap f) (zs.flatMap g) := by
  induction zs with
  | nil => exact fun _ => rfl
  | cons z zs ih =>
    rw [List.flatMap_cons, List.flatMap_cons]
    have hrest := ih fun y hy => h y (List.mem_cons_of_mem z hy)
    exact (h z List.mem_cons_self).append hrest

end Yields

/-- What a match does with a text: the body of the first arm with this text for its pattern, or with
one that matches everything. -/
def armFor? (s : String) (c : Code) : Option Code :=
  c.findSome? fun
    | .arm [.text content _] _ body _ => if content = s then some body else none
    | .arm [.word "_"] _ body _ => some body
    | _ => none

theorem armFor?_text_append (s content : String) (body rest : Code) :
    armFor? s (arm (text content) body ++ rest) =
      if content = s then some body else armFor? s rest := by
  rw [armFor?, arm, text, List.singleton_append, List.findSome?_cons]
  dsimp only
  by_cases h : content = s
  · rw [if_pos h, if_pos h]
  · rw [if_neg h, if_neg h]
    rfl

/-- A constant or a function: its keyword and its name. -/
def item? : Code → Option (String × String)
  | .word "const" :: .word name :: _ => some ("const", name)
  | .word "fn" :: .word name :: _ => some ("fn", name)
  | _ => none

/-- The constants and functions of code, each with its keyword. -/
def items : Code → List (String × String) :=
  readAll item?

theorem item?_readsAt : ReadsAt item? ["const", "fn"] := by
  intro c found h
  unfold item? at h
  split at h
  · exact ⟨_, List.mem_cons_self, rfl⟩
  · exact ⟨_, List.mem_cons_of_mem _ List.mem_cons_self, rfl⟩
  · cases h

/-- A function: its name and its body. -/
def function? : Code → Option (String × Code)
  | .word "fn" :: .word name :: rest => (block? rest).map fun body => (name, body)
  | _ => none

/-- The functions of code. -/
def functions : Code → List (String × Code) :=
  readAll function?

theorem function?_readsAt : ReadsAt function? ["fn"] := by
  intro c found h
  unfold function? at h
  split at h
  · exact ⟨_, List.mem_cons_self, rfl⟩
  · cases h

/-- A module in a file of its own: its name. -/
def module? : Code → Option String
  | .word "mod" :: .word name :: .mark ';' :: _ => some name
  | _ => none

/-- The modules that code declares and that are in files of their own. -/
def modules : Code → List String :=
  readAll module?

theorem module?_eq_some_iff {name : String} :
    module? c = some name ↔
      ∃ rest, c = .word "mod" :: .word name :: .mark ';' :: rest := by
  constructor
  · intro h
    unfold module? at h
    split at h
    · rw [Option.some.inj h]
      exact ⟨_, rfl⟩
    · cases h
  · rintro ⟨rest, rfl⟩
    rfl

theorem module?_readsAt : ReadsAt module? ["mod"] := by
  intro c name h
  obtain ⟨rest, rfl⟩ := module?_eq_some_iff.mp h
  exact ⟨"mod", List.mem_cons_self, rfl⟩

theorem modules_append (ha : "mod" ∉ words a) : modules (a ++ b) = modules b :=
  Yields.of_notMem_words module?_readsAt ha b

/-- A declaration of a module in a file of its own. -/
theorem modules_declaration {name : String} (hname : name ≠ "mod") (rest : Code) :
    modules (word "mod" ++ (word name ++ .mark ';' :: rest)) = name :: modules rest := by
  have hfound : module? (word "mod" ++ (word name ++ .mark ';' :: rest)) = some name := rfl
  have hskip : modules (word name ++ [.mark ';'] ++ rest) = modules rest := by
    refine modules_append fun hmem => ?_
    rcases List.mem_append.mp (words_append _ _ ▸ hmem) with hword | hmark
    · exact hname (List.mem_singleton.mp hword).symm
    · cases hmark
  rw [modules, word, List.singleton_append, readAll]
  change (module? (word "mod" ++ (word name ++ .mark ';' :: rest))).toList ++ _ = _
  rw [hfound]
  rw [List.append_assoc] at hskip
  exact congrArg _ hskip

/-! ## Entries -/

/-- Whether a token is a comma. -/
def isComma : Token → Bool
  | .mark ',' => true
  | _ => false

/-- The pieces of code between commas. -/
def entries (c : Code) : List Code :=
  if c.isEmpty then [] else c.splitOnP isComma

/-- Whether code is one piece between commas. -/
structure IsEntry (c : Code) : Prop where
  ne_nil : c ≠ []
  noComma : ∀ token ∈ c, isComma token = false

instance (c : Code) : Decidable (IsEntry c) :=
  decidable_of_iff (c.isEmpty = false ∧ ∀ token ∈ c, isComma token = false)
    ⟨fun h => ⟨fun hnil => by simp [hnil] at h, h.2⟩,
      fun h => ⟨List.isEmpty_eq_false_iff.mpr h.ne_nil, h.noComma⟩⟩

theorem splitOnP_commas {cs : List Code} (hne : cs ≠ []) (h : ∀ c ∈ cs, IsEntry c) :
    (commas cs).splitOnP isComma = cs := by
  induction cs using commas.induct with
  | case1 => exact absurd rfl hne
  | case2 c =>
    exact List.splitOnP_eq_singleton (h c (List.mem_singleton_self c)).noComma
  | case3 c rest hrest ih =>
    obtain ⟨hc, hall⟩ := List.forall_mem_cons.mp h
    rw [commas.eq_3 c rest hrest, List.splitOnP_append_cons_of_forall_mem hc.noComma _ rfl,
      ih hrest hall]

theorem entries_commas {cs : List Code} (h : ∀ c ∈ cs, IsEntry c) : entries (commas cs) = cs := by
  cases cs with
  | nil => rfl
  | cons c rest =>
    have hne : (commas (c :: rest)).isEmpty = false := by
      refine List.isEmpty_eq_false_iff.mpr ?_
      cases rest with
      | nil => exact (h c List.mem_cons_self).ne_nil
      | cons d rest =>
        exact List.append_ne_nil_of_left_ne_nil (h c List.mem_cons_self).ne_nil _
    rw [entries, hne]
    exact splitOnP_commas (List.cons_ne_nil c rest) h

/-! ## Numbers -/

/-- A whole number with a suffix, and with signs in front. -/
def integer? (suffix : String) : Code → Option Int
  | .mark '-' :: rest => (integer? suffix rest).map Neg.neg
  | [.word spelling] => ((Text.stripTail? suffix spelling).bind Text.natural?).map Int.ofNat
  | _ => none

theorem integer?_numeral (n : Int) (suffix : String) :
    integer? suffix (Marshal.numeral n suffix) = some n := by
  have hword : integer? suffix (word (toString n.natAbs ++ suffix)) = some (n.natAbs : Int) := by
    rw [word, integer?, Text.stripTail?_append, Option.bind_some, Text.natural?_toString]
    rfl
  rw [Marshal.numeral]
  split
  · next hn =>
    rw [List.singleton_append, integer?, hword, Option.map_some]
    exact congrArg some (by omega)
  · next hn =>
    rw [List.nil_append, hword]
    exact congrArg some (by omega)

end Code

end EngineBindings
