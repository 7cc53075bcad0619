import Ixo.Proofs.Json.Grammar
import Ixo.Proofs.Lexeme.Munch
import Mathlib.Data.List.Forall2

/-!
# Reading JSON

A reader of documents, from left to right, which looks one character ahead. It reads every text of a
value back as this value, whatever stands behind the text (`Json.readValue?_append`), so a document
holds one value only (`Json.read?_of_isDocument`). An escape is told by its first characters, and a
number is the one text that could go on: no digit may stand behind it.
-/

set_option autoImplicit false

namespace Ixo.Json

/-- A reader of some kind of text: what the text at the start says, and what follows it. -/
abbrev Reader (α : Type) := List Char → Option (α × List Char)

def skipSpace (cs : List Char) : List Char := cs.dropWhile isBlank

/-! ## Strings -/

/-- Reads the digits of a 16-bit unit. -/
def readUnit? : Reader Nat := fun cs => (unit? (cs.take 4)).map fun n => (n, cs.drop 4)

/-- Reads the low unit that has to stand behind a high one. -/
def readLow? (high : Nat) : Reader Char
  | '\\' :: 'u' :: cs =>
    (readUnit? cs).bind fun (low, rest) =>
      if IsLow low then some (ofPair high low, rest) else none
  | _ => none

/-- Reads a character of a string. -/
def readChar? : Reader Char
  | '\\' :: 'u' :: cs =>
    (readUnit? cs).bind fun (n, rest) =>
      if IsHigh n then readLow? n rest else if IsLow n then none else some (Char.ofNat n, rest)
  | '\\' :: sign :: rest => (ofSign? sign).map fun c => (c, rest)
  | c :: rest => if ' ' ≤ c ∧ c ≠ '"' ∧ c ≠ '\\' then some (c, rest) else none
  | [] => none

/-- Reads what stands between the quotes of a string, and the closing quote. A text of `n`
characters holds no more than `n` of them. -/
def readBody? : Nat → Reader (List Char)
  | _, '"' :: rest => some ([], rest)
  | 0, _ => none
  | n + 1, cs => (readChar? cs).bind fun (c, rest) =>
    (readBody? n rest).map fun (s, rest) => (c :: s, rest)

/-- Reads a string behind its opening quote. -/
def readString? : Reader String := fun cs =>
  (readBody? cs.length cs).map fun (s, rest) => (String.ofList s, rest)

/-! ## Values -/

/-- Reads a number. -/
def readNumber? : Reader Json := fun cs =>
  let digits := cs.takeWhile Char.isDigit
  if digits = [] ∨ digits.head? = some '0' ∧ digits ≠ ['0'] then none
  else some (.number (Nat.ofDigitChars 10 digits 0), cs.dropWhile Char.isDigit)

section

variable {α : Type} (closing : Char) (read : Reader α)

/-- Reads parts with commas between them, and the closing bracket. A text of `n` characters holds no
more than `n` of them. -/
def readParts? : Nat → Reader (List α)
  | 0, _ => none
  | n + 1, cs => (read (skipSpace cs)).bind fun (a, rest) =>
    match skipSpace rest with
    | [] => none
    | c :: rest =>
      if c = closing then some ([a], rest)
      else if c = ',' then (readParts? n rest).map fun (as, rest) => (a :: as, rest)
      else none

/-- Reads what stands behind an opening bracket, which may be nothing but the closing one. -/
def readBlock? : Reader (List α) := fun cs =>
  if (skipSpace cs).head? = some closing then some ([], (skipSpace cs).tail)
  else readParts? closing read cs.length cs

end

/-- Reads a field of an object. -/
def readField? (read : Reader Json) : Reader (String × Json)
  | '"' :: cs => (readString? cs).bind fun (key, rest) =>
    match skipSpace rest with
    | ':' :: rest => (read (skipSpace rest)).map fun (v, rest) => ((key, v), rest)
    | _ => none
  | _ => none

/-- Reads a value. In a text of `n` characters, values stand in no more than `n` values. -/
def readValue? : Nat → Reader Json
  | 0, _ => none
  | _ + 1, '"' :: cs => (readString? cs).map fun (s, rest) => (.string s, rest)
  | n + 1, '[' :: cs =>
    (readBlock? ']' (readValue? n) cs).map fun (vs, rest) => (.array vs, rest)
  | n + 1, '\x7b' :: cs =>
    (readBlock? '\x7d' (readField? (readValue? n)) cs).map fun (fs, rest) => (.object fs, rest)
  | _ + 1, cs => readNumber? cs

/-- The value that a document holds. -/
def read? (cs : List Char) : Option Json :=
  match readValue? cs.length (skipSpace cs) with
  | some (v, rest) => if skipSpace rest = [] then some v else none
  | none => none

/-! ## White space -/

theorem skipSpace_append {gap rest : List Char} (hgap : IsSpace gap) (stop : Stops isBlank rest) :
    skipSpace (gap ++ rest) = rest :=
  dropWhile_append_of_stops hgap stop

theorem skipSpace_eq_nil {gap : List Char} (hgap : IsSpace gap) : skipSpace gap = [] :=
  dropWhile_eq_nil hgap

theorem isDigit_eq_false_of_isBlank {c : Char} (h : isBlank c = true) : c.isDigit = false :=
  of_contains (p := fun c => c.isDigit = false) h (by decide)

/-- No digit stands behind a text that white space follows, or a character that is no digit. -/
theorem stops_isDigit_append {gap rest : List Char} (hgap : IsSpace gap)
    (stop : Stops Char.isDigit rest) : Stops Char.isDigit (gap ++ rest) :=
  stops_append_iff.mpr
    ⟨fun c hc => isDigit_eq_false_of_isBlank (hgap c (List.mem_of_mem_head? hc)), fun _ => stop⟩

/-! ## Reading strings back -/

theorem readUnit?_append {ds rest : List Char} {n : Nat} (h : unit? ds = some n) :
    readUnit? (ds ++ rest) = some (n, rest) := by
  have len : ds.length = 4 := by
    unfold unit? at h
    split at h
    · assumption
    · cases h
  rw [readUnit?, List.take_left' len, List.drop_left' len, h]
  rfl

theorem readLow?_append {es rest : List Char} {m n : Nat} (hn : unit? es = some n)
    (low : IsLow n) : readLow? m ('\\' :: 'u' :: (es ++ rest)) = some (ofPair m n, rest) := by
  simp only [readLow?, readUnit?_append hn, Option.bind_some, if_pos low]

theorem readChar?_append {c : Char} {cs rest : List Char} (h : CharText c cs) :
    readChar? (cs ++ rest) = some (c, rest) := by
  cases h with
  | plain shown quote backslash =>
      simp only [List.singleton_append]
      rw [readChar?]
      · rw [if_pos ⟨shown, quote, backslash⟩]
      all_goals simp_all
  | @sign s c h =>
      have signless : s ≠ 'u' := by
        rintro rfl
        cases h
      simp only [List.cons_append, List.nil_append]
      rw [readChar?]
      · rw [h, Option.map_some]
      · simpa using signless
  | unit h high low =>
      simp only [List.cons_append]
      simp only [readChar?, readUnit?_append h, Option.bind_some, if_neg high, if_neg low]
  | pair hm hn high low =>
      simp only [List.cons_append, List.append_assoc]
      simp only [readChar?, readUnit?_append hm, Option.bind_some, if_pos high,
        readLow?_append hn low]

/-- No quote stands at the start of what stands for a character. -/
theorem CharText.exists_cons {c : Char} {cs : List Char} (h : CharText c cs) :
    ∃ d ds, cs = d :: ds ∧ d ≠ '"' := by
  cases h with
  | plain _ quote _ => exact ⟨c, [], rfl, quote⟩
  | sign _ => exact ⟨_, _, rfl, by decide⟩
  | unit _ _ _ => exact ⟨_, _, rfl, by decide⟩
  | pair _ _ _ _ => exact ⟨_, _, rfl, by decide⟩

theorem readBody?_append {s body rest : List Char} (h : BodyText s body) {n : Nat}
    (hn : body.length ≤ n) : readBody? n (body ++ '"' :: rest) = some (s, rest) := by
  induction h generalizing n with
  | nil =>
      rw [List.nil_append]
      unfold readBody?
      rfl
  | @cons c s cs ds first more ih =>
      obtain ⟨d, cs', hcs, quote⟩ := first.exists_cons
      rw [List.length_append, hcs, List.length_cons] at hn
      obtain ⟨n, rfl⟩ : ∃ m, n = m + 1 := ⟨n - 1, by omega⟩
      have len : ds.length ≤ n := by omega
      rw [List.append_assoc, readBody?]
      · simp only [readChar?_append first, Option.bind_some, ih len, Option.map_some]
      · intro rest' h
        rw [hcs] at h
        exact quote (List.cons.inj h).1

theorem readString?_append {s : String} {body rest : List Char} (h : BodyText s.toList body) :
    readString? (body ++ '"' :: rest) = some (s, rest) := by
  have len : body.length ≤ (body ++ '"' :: rest).length := by
    rw [List.length_append]
    exact Nat.le_add_right _ _
  simp only [readString?, readBody?_append h len, Option.map_some, String.ofList_toList]

/-! ## Reading values back -/

theorem readNumber?_append {n : Nat} {cs rest : List Char} (h : IsNumeral n cs)
    (stop : Stops Char.isDigit rest) : readNumber? (cs ++ rest) = some (.number n, rest) := by
  obtain ⟨filled, digits, zero, value⟩ := h
  rw [readNumber?, takeWhile_append_of_stops digits stop, dropWhile_append_of_stops digits stop]
  have numeral : ¬ (cs = [] ∨ cs.head? = some '0' ∧ cs ≠ ['0']) := by
    rintro (none | ⟨front, ne⟩)
    · exact filled none
    · exact ne (zero front)
  simp only [if_neg numeral, value]

section

variable {α : Type} {closing : Char} {read : Reader α}

/-- A reader reads `a` off a text that can stand among the parts of a block: its first character is
not one that stands around parts, and the reader finds its end wherever no digit follows. -/
structure ReadsPart (closing : Char) (read : Reader α) (a : α) (part : List Char) : Prop where
  starts : ∃ c cs, part = c :: cs ∧ isBlank c = false ∧ c ≠ closing
  reads : ∀ rest, Stops Char.isDigit rest → read (part ++ rest) = some (a, rest)

theorem ReadsPart.stops {a : α} {part rest : List Char} (h : ReadsPart closing read a part) :
    Stops isBlank (part ++ rest) := by
  obtain ⟨c, cs, rfl, blank, -⟩ := h.starts
  exact stops_cons.mpr blank

/-- What may close a block. -/
structure IsClosing (c : Char) : Prop where
  blank : isBlank c = false
  digit : c.isDigit = false
  comma : c ≠ ','

/-- A part with white space around it is read up to the character behind it. -/
theorem readParts?_succ {a : α} {gap part gap' rest : List Char} {c : Char} (hgap : IsSpace gap)
    (first : ReadsPart closing read a part) (hgap' : IsSpace gap') (blank : isBlank c = false)
    (digit : c.isDigit = false) (n : Nat) :
    readParts? closing read (n + 1) (gap ++ (part ++ (gap' ++ c :: rest))) =
      if c = closing then some ([a], rest)
      else if c = ',' then (readParts? closing read n rest).map fun (as, rest) => (a :: as, rest)
      else none := by
  have stop : Stops Char.isDigit (gap' ++ c :: rest) :=
    stops_isDigit_append hgap' (stops_cons.mpr digit)
  simp only [readParts?, skipSpace_append hgap first.stops, first.reads _ stop, Option.bind_some,
    skipSpace_append hgap' (stops_cons.mpr blank)]

theorem readParts?_append (close : IsClosing closing) {as : List α}
    {parts : List (List Char)} {inner rest : List Char} (separated : Separated parts inner)
    (hparts : List.Forall₂ (ReadsPart closing read) as parts) (filled : parts ≠ []) {n : Nat}
    (hn : inner.length < n) :
    readParts? closing read n (inner ++ closing :: rest) = some (as, rest) := by
  induction separated generalizing as n with
  | none => exact absurd rfl filled
  | @last gap part gap' hgap hgap' =>
      obtain ⟨a, as, first, more, rfl⟩ := List.forall₂_cons_right_iff.mp hparts
      obtain rfl := List.forall₂_nil_right_iff.mp more
      obtain ⟨n, rfl⟩ : ∃ m, n = m + 1 := ⟨n - 1, by omega⟩
      rw [List.append_assoc, List.append_assoc,
        readParts?_succ hgap first hgap' close.blank close.digit, if_pos rfl]
  | @more gap part gap' next cs parts hgap hgap' others ih =>
      obtain ⟨a, as, first, more, rfl⟩ := List.forall₂_cons_right_iff.mp hparts
      obtain ⟨n, rfl⟩ : ∃ m, n = m + 1 := ⟨n - 1, by omega⟩
      have len : cs.length < n := by
        simp only [List.length_append, List.length_cons] at hn
        omega
      rw [List.append_assoc, List.append_assoc, List.append_assoc, List.cons_append,
        readParts?_succ hgap first hgap' (by decide) (by decide), if_neg close.comma.symm,
        if_pos rfl, ih more (List.cons_ne_nil next parts) len, Option.map_some]

/-- What stands between brackets is read back up to the closing one. -/
theorem readBlock?_append (close : IsClosing closing) {as : List α}
    {parts : List (List Char)} {inner rest : List Char} (separated : Separated parts inner)
    (hparts : List.Forall₂ (ReadsPart closing read) as parts) :
    readBlock? closing read (inner ++ closing :: rest) = some (as, rest) := by
  cases hparts with
  | nil =>
      cases separated with
      | none hgap =>
          rw [readBlock?, skipSpace_append hgap (stops_cons.mpr close.blank)]
          exact if_pos rfl
  | @cons a part as parts first more =>
      -- the first part hides the closing bracket from the look behind the opening one
      have front : ∃ gap cs, IsSpace gap ∧ inner = gap ++ (part ++ cs) := by
        cases separated with
        | last hgap => exact ⟨_, _, hgap, rfl⟩
        | more hgap => exact ⟨_, _, hgap, rfl⟩
      obtain ⟨gap, cs, hgap, hinner⟩ := front
      have open' : ¬ (skipSpace (inner ++ closing :: rest)).head? = some closing := by
        obtain ⟨c, part', hpart, blank, ne⟩ := first.starts
        rw [hinner, List.append_assoc, List.append_assoc, skipSpace_append hgap first.stops, hpart]
        intro h
        exact ne (Option.some.inj h)
      have len : inner.length < (inner ++ closing :: rest).length := by
        rw [List.length_append, List.length_cons]
        omega
      rw [readBlock?, if_neg open']
      exact readParts?_append close separated (List.Forall₂.cons first more)
        (List.cons_ne_nil part parts) len

end

/-- A part is no longer than the parts together. -/
theorem Separated.length_le {parts : List (List Char)} {inner part : List Char}
    (separated : Separated parts inner) (hpart : part ∈ parts) : part.length ≤ inner.length := by
  induction separated with
  | none => cases hpart
  | last =>
      rw [List.mem_singleton] at hpart
      simp only [hpart, List.length_append]
      omega
  | more _ _ _ ih =>
      simp only [List.length_append, List.length_cons]
      rcases List.mem_cons.mp hpart with rfl | hpart
      · omega
      · have := ih hpart
        omega

theorem isClosing_array : IsClosing ']' := ⟨by decide, by decide, by decide⟩

theorem isClosing_object : IsClosing '\x7d' := ⟨by decide, by decide, by decide⟩

theorem IsNumeral.exists_cons {n : Nat} {cs : List Char} (h : IsNumeral n cs) :
    ∃ c ds, cs = c :: ds ∧ c.isDigit = true := by
  obtain ⟨filled, digits, -, -⟩ := h
  cases cs with
  | nil => exact absurd rfl filled
  | cons c ds => exact ⟨c, ds, rfl, digits c List.mem_cons_self⟩

/-- The first character of a value stands around no part. -/
theorem IsText.exists_cons {v : Json} {cs : List Char} (h : IsText v cs) :
    ∃ c ds, cs = c :: ds ∧ isBlank c = false ∧ c ≠ ']' := by
  cases v with
  | number n =>
      rw [IsText] at h
      obtain ⟨c, ds, rfl, digit⟩ := h.exists_cons
      refine ⟨c, ds, rfl, contains_eq_false_of_holds _ (by decide) digit, ?_⟩
      rintro rfl
      cases digit
  | string s =>
      rw [IsText] at h
      obtain ⟨body, -, rfl⟩ := h
      exact ⟨_, _, rfl, by decide, by decide⟩
  | array items =>
      rw [IsText] at h
      obtain ⟨parts, inner, -, -, rfl⟩ := h
      exact ⟨_, _, rfl, by decide, by decide⟩
  | object fields =>
      rw [IsText] at h
      obtain ⟨parts, inner, -, -, rfl⟩ := h
      exact ⟨_, _, rfl, by decide, by decide⟩

theorem IsText.stops {v : Json} {cs rest : List Char} (h : IsText v cs) :
    Stops isBlank (cs ++ rest) := by
  obtain ⟨c, ds, rfl, blank, -⟩ := h.exists_cons
  exact stops_cons.mpr blank

/-- A digit at the start of a text says that it is a number. -/
theorem readValue?_of_isDigit {c : Char} (cs : List Char) (digit : c.isDigit = true) (n : Nat) :
    readValue? (n + 1) (c :: cs) = readNumber? (c :: cs) := by
  rw [readValue?]
  all_goals
    intro cs' h
    cases h
    cases digit

/-- A field is read back if its value is. -/
theorem readField?_append {read : Reader Json} {key : String} {v : Json}
    {quoted gap gap' text rest : List Char} (hkey : IsString key quoted) (hgap : IsSpace gap)
    (hgap' : IsSpace gap') (hv : IsText v text) (back : read (text ++ rest) = some (v, rest)) :
    readField? read (quoted ++ (gap ++ ':' :: (gap' ++ text)) ++ rest) =
      some ((key, v), rest) := by
  obtain ⟨body, hbody, rfl⟩ := hkey
  simp only [List.append_assoc, List.cons_append, List.nil_append]
  simp only [readField?, readString?_append hbody, Option.bind_some,
    skipSpace_append hgap (stops_cons.mpr (by decide : isBlank ':' = false)),
    skipSpace_append hgap' hv.stops, back, Option.map_some]

mutual

/-- **A text of a value is read back as this value**, whatever follows it but a digit. -/
theorem readValue?_append (v : Json) {cs : List Char} (h : IsText v cs) {n : Nat}
    (hn : cs.length ≤ n) {rest : List Char} (stop : Stops Char.isDigit rest) :
    readValue? n (cs ++ rest) = some (v, rest) := by
  -- every value has a character, so `n` is not zero; what stands inside brackets is shorter
  obtain ⟨n, rfl⟩ : ∃ m, n = m + 1 := by
    obtain ⟨c, ds, rfl, -⟩ := h.exists_cons
    exact ⟨n - 1, by rw [List.length_cons] at hn; omega⟩
  cases v with
  | number k =>
      rw [IsText] at h
      obtain ⟨c, ds, rfl, digit⟩ := h.exists_cons
      rw [List.cons_append, readValue?_of_isDigit _ digit]
      exact readNumber?_append h stop
  | string s =>
      rw [IsText] at h
      obtain ⟨body, hbody, rfl⟩ := h
      simp only [List.append_assoc, List.cons_append, List.nil_append]
      simp only [readValue?, readString?_append hbody, Option.map_some]
  | array items =>
      rw [IsText] at h
      obtain ⟨parts, inner, hparts, separated, rfl⟩ := h
      have len : inner.length ≤ n := by
        simp only [List.length_cons, List.length_append] at hn
        omega
      have back := readsPart_items items hparts fun part hpart =>
        Nat.le_trans (separated.length_le hpart) len
      simp only [List.append_assoc, List.cons_append, List.nil_append]
      simp only [readValue?, readBlock?_append isClosing_array separated back, Option.map_some]
  | object fields =>
      rw [IsText] at h
      obtain ⟨parts, inner, hparts, separated, rfl⟩ := h
      have len : inner.length ≤ n := by
        simp only [List.length_cons, List.length_append] at hn
        omega
      have back := readsPart_fields fields hparts fun part hpart =>
        Nat.le_trans (separated.length_le hpart) len
      simp only [List.append_assoc, List.cons_append, List.nil_append]
      simp only [readValue?, readBlock?_append isClosing_object separated back, Option.map_some]

theorem readsPart_items (vs : List Json) {parts : List (List Char)} (h : AreItems vs parts)
    {n : Nat} (hn : ∀ part ∈ parts, part.length ≤ n) :
    List.Forall₂ (ReadsPart ']' (readValue? n)) vs parts := by
  cases vs with
  | nil =>
      rw [AreItems] at h
      rw [h]
      exact List.Forall₂.nil
  | cons v vs =>
      rw [AreItems] at h
      obtain ⟨part, rest, rfl, hv, hvs⟩ := h
      obtain ⟨len, lens⟩ := List.forall_mem_cons.mp hn
      exact List.Forall₂.cons ⟨hv.exists_cons, fun _ stop => readValue?_append v hv len stop⟩
        (readsPart_items vs hvs lens)

theorem readsPart_fields (fs : List (String × Json)) {parts : List (List Char)}
    (h : AreFields fs parts) {n : Nat} (hn : ∀ part ∈ parts, part.length ≤ n) :
    List.Forall₂ (ReadsPart '\x7d' (readField? (readValue? n))) fs parts := by
  match fs with
  | [] =>
      rw [AreFields] at h
      rw [h]
      exact List.Forall₂.nil
  | (key, v) :: fs =>
      rw [AreFields] at h
      obtain ⟨quoted, gap, gap', text, rest, rfl, hkey, hgap, hgap', hv, hfs⟩ := h
      obtain ⟨len, lens⟩ := List.forall_mem_cons.mp hn
      have len : text.length ≤ n := by
        simp only [List.length_append, List.length_cons] at len
        omega
      refine List.Forall₂.cons ⟨?_, fun rest stop => ?_⟩ (readsPart_fields fs hfs lens)
      · obtain ⟨body, -, rfl⟩ := hkey
        exact ⟨_, _, rfl, by decide, by decide⟩
      · exact readField?_append hkey hgap hgap' hv (readValue?_append v hv len stop)

end

/-- **A document holds one value**, and the reader finds it. -/
theorem read?_of_isDocument {v : Json} {cs : List Char} (h : IsDocument v cs) :
    read? cs = some v := by
  obtain ⟨gap, text, gap', hgap, hv, hgap', rfl⟩ := h
  have len : text.length ≤ (gap ++ (text ++ gap')).length := by
    simp only [List.length_append]
    omega
  have stop : Stops Char.isDigit gap' := by
    have := stops_isDigit_append hgap' (stops_nil Char.isDigit)
    rwa [List.append_nil] at this
  simp only [read?, skipSpace_append hgap hv.stops, readValue?_append v hv len stop,
    skipSpace_eq_nil hgap', if_pos]

example : read? "[ 12, \x7b\"a\" : \"\\u00E9\\ud83d\\uDE00\"\x7d]".toList =
    some (.array [.number 12, .object [("a", .string "é😀")]]) := by rfl

end Ixo.Json
