import Ixo.Alphabet
import Ixo.Json

/-!
# The grammar of JSON

The texts of a value (`Json.IsText`) and the documents that hold it (`Json.IsDocument`), as the
grammar of JSON has them: white space around every part of an array or object, and for a character
of a string any of its escapes, surrogate pairs among them. A text in the form that `Json.pretty`
gives is one of many that a value has (`Json.isText_pretty`).
-/

set_option autoImplicit false

namespace Ixo.Json

/-! ## Strings -/

/-- The character that a sign behind a backslash stands for. -/
def ofSign? : Char → Option Char
  | '"' => some '"'
  | '\\' => some '\\'
  | '/' => some '/'
  | 'b' => some '\x08'
  | 'f' => some '\x0c'
  | 'n' => some '\n'
  | 'r' => some '\r'
  | 't' => some '\t'
  | _ => none

/-- The value of a hexadecimal digit, in either letter case. -/
def hexDigit? (c : Char) : Option Nat :=
  if '0' ≤ c ∧ c ≤ '9' then some (c.toNat - '0'.toNat)
  else if 'a' ≤ c ∧ c ≤ 'f' then some (c.toNat - 'a'.toNat + 10)
  else if 'A' ≤ c ∧ c ≤ 'F' then some (c.toNat - 'A'.toNat + 10)
  else none

/-- The 16-bit unit that four hexadecimal digits give. -/
def unit? (cs : List Char) : Option Nat :=
  if cs.length = 4 then (cs.mapM hexDigit?).map fun ds => ds.foldl (16 * · + ·) 0 else none

/-- The units that stand for a character only with another one behind them. -/
def IsHigh (n : Nat) : Prop := 0xD800 ≤ n ∧ n < 0xDC00

/-- The units that stand behind a high one. -/
def IsLow (n : Nat) : Prop := 0xDC00 ≤ n ∧ n < 0xE000

instance (n : Nat) : Decidable (IsHigh n) := inferInstanceAs (Decidable (_ ∧ _))

instance (n : Nat) : Decidable (IsLow n) := inferInstanceAs (Decidable (_ ∧ _))

/-- The character of a high unit and a low one. -/
def ofPair (high low : Nat) : Char :=
  Char.ofNat (0x10000 + (high - 0xD800) * 0x400 + (low - 0xDC00))

/-- What can stand for a character of a string. -/
inductive CharText : Char → List Char → Prop where
  /-- The character itself, if it needs no escape. -/
  | plain {c : Char} (shown : ' ' ≤ c) (quote : c ≠ '"') (backslash : c ≠ '\\') : CharText c [c]
  | sign {s c : Char} (h : ofSign? s = some c) : CharText c ['\\', s]
  | unit {ds : List Char} {n : Nat} (h : unit? ds = some n) (high : ¬ IsHigh n) (low : ¬ IsLow n) :
    CharText (Char.ofNat n) ('\\' :: 'u' :: ds)
  | pair {ds es : List Char} {m n : Nat} (hm : unit? ds = some m) (hn : unit? es = some n)
    (high : IsHigh m) (low : IsLow n) :
    CharText (ofPair m n) ('\\' :: 'u' :: (ds ++ '\\' :: 'u' :: es))

/-- What can stand between the quotes of a string. -/
inductive BodyText : List Char → List Char → Prop where
  | nil : BodyText [] []
  | cons {c : Char} {s cs ds : List Char} (first : CharText c cs) (more : BodyText s ds) :
    BodyText (c :: s) (cs ++ ds)

/-- The texts of a string. -/
def IsString (s : String) (cs : List Char) : Prop :=
  ∃ body, BodyText s.toList body ∧ cs = '"' :: (body ++ ['"'])

/-! ## Values -/

/-- White space between the parts of a text. It is what the alphabet calls blank. -/
def IsSpace (cs : List Char) : Prop := ∀ c ∈ cs, isBlank c = true

/-- The texts of a natural number: digits, the first of them not zero unless it is the only one. -/
def IsNumeral (n : Nat) (cs : List Char) : Prop :=
  cs ≠ [] ∧ (∀ c ∈ cs, c.isDigit = true) ∧ (cs.head? = some '0' → cs = ['0']) ∧
    Nat.ofDigitChars 10 cs 0 = n

/-- Parts with commas between them and with white space around each of them. -/
inductive Separated : List (List Char) → List Char → Prop where
  | none {gap : List Char} (hgap : IsSpace gap) : Separated [] gap
  | last {gap part gap' : List Char} (hgap : IsSpace gap) (hgap' : IsSpace gap') :
    Separated [part] (gap ++ (part ++ gap'))
  | more {gap part gap' next cs : List Char} {parts : List (List Char)} (hgap : IsSpace gap)
    (hgap' : IsSpace gap') (rest : Separated (next :: parts) cs) :
    Separated (part :: next :: parts) (gap ++ (part ++ (gap' ++ ',' :: cs)))

mutual

/-- The texts of a value. -/
def IsText : Json → List Char → Prop
  | number n, cs => IsNumeral n cs
  | string s, cs => IsString s cs
  | array items, cs =>
    ∃ parts inner, AreItems items parts ∧ Separated parts inner ∧ cs = '[' :: (inner ++ [']'])
  | object fields, cs =>
    ∃ parts inner, AreFields fields parts ∧ Separated parts inner ∧
      cs = '\x7b' :: (inner ++ ['\x7d'])

/-- The texts of the items of an array. -/
def AreItems : List Json → List (List Char) → Prop
  | [], parts => parts = []
  | v :: vs, parts => ∃ part rest, parts = part :: rest ∧ IsText v part ∧ AreItems vs rest

/-- The texts of the fields of an object: a key, a colon and a value. -/
def AreFields : List (String × Json) → List (List Char) → Prop
  | [], parts => parts = []
  | (key, v) :: fs, parts =>
    ∃ quoted gap gap' text rest, parts = (quoted ++ (gap ++ ':' :: (gap' ++ text))) :: rest ∧
      IsString key quoted ∧ IsSpace gap ∧ IsSpace gap' ∧ IsText v text ∧ AreFields fs rest

end

/-- The documents that hold a value. -/
def IsDocument (v : Json) (cs : List Char) : Prop :=
  ∃ gap text gap', IsSpace gap ∧ IsText v text ∧ IsSpace gap' ∧ cs = gap ++ (text ++ gap')

/-! ## The written form -/

theorem isSpace_nil : IsSpace [] := fun _ hc => absurd hc List.not_mem_nil

theorem isSpace_newline (depth : Nat) : IsSpace (newline depth) := by
  intro c hc
  rcases List.mem_cons.mp hc with rfl | hc
  · decide
  · rw [List.eq_of_mem_replicate hc]
    decide

/-- The escape of a control character gives its code. -/
theorem unit?_escape : ∀ n < 32,
    unit? ['0', '0', Nat.digitChar (n / 16), Nat.digitChar (n % 16)] = some n := by
  decide

theorem charText_escape (c : Char) : CharText c (escape c) := by
  unfold escape
  split
  case h_8 quote backslash _ _ _ _ _ =>
    split
    · next control =>
      have high : ¬ IsHigh c.toNat := fun h => by have := h.1; omega
      have low : ¬ IsLow c.toNat := fun h => by have := h.1; omega
      have h := CharText.unit (unit?_escape c.toNat control) high low
      rw [Char.ofNat_toNat] at h
      exact h
    · next shown =>
      have space : ' ' ≤ c := UInt32.le_iff_toNat_le.mpr (Nat.not_lt.mp shown)
      exact CharText.plain space quote backslash
  all_goals exact CharText.sign rfl

theorem isString_quoted (s : String) : IsString s (quoted s) := by
  refine ⟨_, ?_, rfl⟩
  induction s.toList with
  | nil => exact BodyText.nil
  | cons c cs ih => exact BodyText.cons (charText_escape c) ih

/-- The digits of a number start with zero only if it is zero. -/
theorem head?_toDigits_ne_zero {n : Nat} (h : n ≠ 0) : (Nat.toDigits 10 n).head? ≠ some '0' := by
  induction n using Nat.strongRecOn with
  | ind n ih =>
      by_cases small : n < 10
      · have digit : ∀ m < 10, m ≠ 0 → Nat.digitChar m ≠ '0' := by decide
        rw [Nat.toDigits_of_lt_base small]
        intro hd
        exact digit n small h (Option.some.inj hd)
      · -- the first digit is that of the number without its last one
        have front := ih (n / 10) (by omega) (by omega)
        rw [Nat.toDigits_of_base_le (by decide) (Nat.not_lt.mp small)]
        cases hds : Nat.toDigits 10 (n / 10) with
        | nil => exact absurd hds Nat.toDigits_ne_nil
        | cons d ds =>
            rw [hds] at front
            exact front

theorem isNumeral_toDigits (n : Nat) : IsNumeral n (Nat.toDigits 10 n) := by
  refine ⟨Nat.toDigits_ne_nil, fun c hc => Nat.isDigit_of_mem_toDigits (by decide) (by decide) hc,
    fun zero => ?_, Nat.ofDigitChars_toDigits (by decide) (by decide)⟩
  by_cases h : n = 0
  · rw [h]
    rfl
  · exact absurd zero (head?_toDigits_ne_zero h)

/-- Parts on lines of their own are separated. -/
theorem separated_lines (depth : Nat) (part : List Char) (parts : List (List Char)) :
    Separated (part :: parts) (newline (depth + 1) ++ part ++ moreLines (depth + 1) parts ++
      newline depth) := by
  induction parts generalizing part with
  | nil =>
      have h : Separated [part] _ :=
        Separated.last (isSpace_newline (depth + 1)) (isSpace_newline depth)
      simpa [moreLines] using h
  | cons next parts ih =>
      have h : Separated (part :: next :: parts) _ :=
        Separated.more (isSpace_newline (depth + 1)) isSpace_nil (ih next)
      simpa [moreLines] using h

/-- What stands between the brackets of a block. -/
theorem exists_block_eq (depth : Nat) (opening closing : Char) (parts : List (List Char)) :
    ∃ inner, Separated parts inner ∧
      block depth opening closing parts = opening :: (inner ++ [closing]) := by
  cases parts with
  | nil => exact ⟨[], Separated.none isSpace_nil, rfl⟩
  | cons part parts => exact ⟨_, separated_lines depth part parts, rfl⟩

mutual

/-- The written form of a value is a text of it. -/
theorem isText_pretty (depth : Nat) : (v : Json) → IsText v (pretty depth v)
  | number n => isNumeral_toDigits n
  | string s => isString_quoted s
  | array items => by
      obtain ⟨inner, separated, h⟩ := exists_block_eq depth '[' ']' (prettyItems (depth + 1) items)
      exact ⟨_, inner, areItems_prettyItems (depth + 1) items, separated, h⟩
  | object fields => by
      obtain ⟨inner, separated, h⟩ :=
        exists_block_eq depth '\x7b' '\x7d' (prettyFields (depth + 1) fields)
      exact ⟨_, inner, areFields_prettyFields (depth + 1) fields, separated, h⟩

theorem areItems_prettyItems (depth : Nat) : (vs : List Json) → AreItems vs (prettyItems depth vs)
  | [] => rfl
  | v :: vs => ⟨_, _, rfl, isText_pretty depth v, areItems_prettyItems depth vs⟩

theorem areFields_prettyFields (depth : Nat) :
    (fs : List (String × Json)) → AreFields fs (prettyFields depth fs)
  | [] => rfl
  | (key, v) :: fs =>
    ⟨quoted key, [], [' '], pretty depth v, prettyFields depth fs, rfl, isString_quoted key,
      isSpace_nil, List.forall_mem_singleton.mpr rfl, isText_pretty depth v,
      areFields_prettyFields depth fs⟩

end

end Ixo.Json
