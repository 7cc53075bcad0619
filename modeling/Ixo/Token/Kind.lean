/-!
# Kinds of token

The twelve kinds, the three names each of them goes by, and the two tables of words that have a
kind of their own. A word is looked up in no table, but the tables list the words that are told
apart (`Kind.ofWord_eq`).
-/

set_option autoImplicit false

namespace Ixo

/-- What a token is. -/
inductive Kind where
  | blockStart
  | blockEnd
  | comment
  | keyword
  | typeName
  | identifier
  | operator
  | number
  | string
  | delimiter
  | punctuation
  | unknown
  deriving DecidableEq

namespace Kind

/-- Every kind, in the order in which tables list them. -/
def all : List Kind :=
  [blockStart, blockEnd, comment, keyword, typeName, identifier, operator, number, string,
    delimiter, punctuation, unknown]

theorem mem_all (k : Kind) : k ∈ all := by cases k <;> decide

/-- The name of a kind as a value in data. -/
def key : Kind → String
  | blockStart => "block_start"
  | blockEnd => "block_end"
  | comment => "comment"
  | keyword => "keyword"
  | typeName => "type_name"
  | identifier => "identifier"
  | operator => "operator"
  | number => "number"
  | string => "string"
  | delimiter => "delimiter"
  | punctuation => "punctuation"
  | unknown => "unknown"

/-- The name of a kind in a description or a log. -/
def name : Kind → String
  | blockStart => "BlockStart"
  | blockEnd => "BlockEnd"
  | comment => "Comment"
  | keyword => "Keyword"
  | typeName => "TypeName"
  | identifier => "Identifier"
  | operator => "Operator"
  | number => "Number"
  | string => "String"
  | delimiter => "Delimiter"
  | punctuation => "Punctuation"
  | unknown => "Unknown"

/-- The name of a kind in a column of the text dump. -/
def label : Kind → String
  | blockStart => "START"
  | blockEnd => "END"
  | comment => "COMMENT"
  | keyword => "KEYWORD"
  | typeName => "TYPE"
  | identifier => "IDENTIFIER"
  | operator => "OPERATOR"
  | number => "NUMBER"
  | string => "STRING"
  | delimiter => "DELIMITER"
  | punctuation => "PUNCTUATION"
  | unknown => "UNKNOWN"

end Kind

/-! ## Words -/

/-- The reserved words. -/
def keywords : List String :=
  ["fn", "class", "return", "if", "else", "while", "for", "switch", "case", "default", "do",
    "with", "try", "except", "in", "not", "and", "or"]

/-- The names of the built-in types. -/
def typeNames : List String := ["int", "float", "str", "bool", "tuple", "list", "dict"]

namespace Kind

/-- The kind of a word, told letter for letter. Whether the text has the form of a word is not
looked at. -/
def ofWord : String → Kind
  | "fn" | "class" | "return" | "if" | "else" | "while" | "for" | "switch" | "case" | "default"
  | "do" | "with" | "try" | "except" | "in" | "not" | "and" | "or" => keyword
  | "int" | "float" | "str" | "bool" | "tuple" | "list" | "dict" => typeName
  | _ => identifier

theorem ofWord_of_mem_keywords : ∀ w ∈ keywords, ofWord w = keyword := by decide

theorem ofWord_of_mem_typeNames : ∀ w ∈ typeNames, ofWord w = typeName := by decide

theorem ofWord_of_not_mem {w : String} (hk : w ∉ keywords) (ht : w ∉ typeNames) :
    ofWord w = identifier := by
  unfold ofWord
  -- every word of a branch but the last is listed in one of the tables
  split <;> first
    | rfl
    | exact absurd (by decide) hk
    | exact absurd (by decide) ht

/-- The kind of a word is the one of the table that lists it. -/
theorem ofWord_eq (w : String) :
    ofWord w = if w ∈ keywords then keyword else if w ∈ typeNames then typeName else identifier := by
  split
  · next hk => exact ofWord_of_mem_keywords w hk
  · next hk =>
    split
    · next ht => exact ofWord_of_mem_typeNames w ht
    · next ht => exact ofWord_of_not_mem hk ht

theorem ofWord_eq_keyword_iff {w : String} : ofWord w = keyword ↔ w ∈ keywords := by
  rw [ofWord_eq]
  split
  · simp_all
  · split <;> simp_all

/-- No keyword is the name of a type, so the order of the tables does not matter. -/
theorem ofWord_eq_typeName_iff {w : String} : ofWord w = typeName ↔ w ∈ typeNames := by
  have apart : ∀ v ∈ keywords, v ∉ typeNames := by decide
  rw [ofWord_eq]
  split
  · next h => simp [apart w h]
  · split <;> simp_all

theorem ofWord_eq_identifier_iff {w : String} :
    ofWord w = identifier ↔ w ∉ keywords ∧ w ∉ typeNames := by
  rw [ofWord_eq]
  split
  · simp_all
  · split <;> simp_all

theorem ofWord_cases (w : String) :
    ofWord w = keyword ∨ ofWord w = typeName ∨ ofWord w = identifier := by
  rw [ofWord_eq]
  split
  · exact Or.inl rfl
  · split
    · exact Or.inr (Or.inl rfl)
    · exact Or.inr (Or.inr rfl)

end Kind

end Ixo
