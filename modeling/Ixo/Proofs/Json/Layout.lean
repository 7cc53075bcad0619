import Ixo.Json
import Ixo.Proofs.Lexeme.Form

/-!
# The layout of written JSON

The characters below the space in the written form of a value are line feeds of its layout: a string
holds none, since it has them escaped (`Json.shown_of_mem_quoted`, `Json.isLaid_of_mem_pretty`). So
the line feeds can be counted from the brackets and the parts between them, whatever the strings say
(`Json.count_pretty_array`,
`Json.count_pretty_object`).
-/

set_option autoImplicit false

namespace Ixo.Json

/-! ## Strings and numbers -/

theorem shown_of_mem_escape {c d : Char} (hd : d ∈ escape c) : ' ' ≤ d := by
  have signs : ∀ n < 32, ['\\', 'u', '0', '0', Nat.digitChar (n / 16),
      Nat.digitChar (n % 16)].all (fun d => decide (' ' ≤ d)) = true := by
    decide
  unfold escape at hd
  split at hd
  case h_8 =>
    split at hd
    · next control => exact forall_of_all (signs _ control) d hd
    · next shown =>
      rw [List.mem_singleton.mp hd]
      exact UInt32.le_iff_toNat_le.mpr (Nat.not_lt.mp shown)
  all_goals exact forall_of_all (by decide) d hd

theorem shown_of_mem_quoted {s : String} {d : Char} (hd : d ∈ quoted s) : ' ' ≤ d := by
  rw [quoted, List.mem_cons, List.mem_append, List.mem_singleton, List.mem_flatMap] at hd
  rcases hd with rfl | ⟨c, -, hd⟩ | rfl
  · decide
  · exact shown_of_mem_escape hd
  · decide

theorem shown_of_mem_toDigits {n : Nat} {d : Char} (hd : d ∈ Nat.toDigits 10 n) : ' ' ≤ d := by
  have digit := Nat.isDigit_of_mem_toDigits (by decide) (by decide) hd
  have zero : '0' ≤ d := by
    simp only [Char.isDigit, Bool.and_eq_true, decide_eq_true_eq] at digit
    exact digit.1
  exact Char.le_trans (by decide) zero

/-- A text of characters from the space on has no line feed. -/
theorem count_newline_eq_zero {cs : List Char} (shown : ∀ c ∈ cs, ' ' ≤ c) :
    cs.count '\n' = 0 :=
  List.count_eq_zero.mpr fun feed => absurd (shown '\n' feed) (by decide)

theorem count_quoted (s : String) : (quoted s).count '\n' = 0 :=
  count_newline_eq_zero fun _ => shown_of_mem_quoted

theorem count_toDigits (n : Nat) : (Nat.toDigits 10 n).count '\n' = 0 :=
  count_newline_eq_zero fun _ => shown_of_mem_toDigits

/-! ## Blocks -/

theorem count_newline (depth : Nat) : (newline depth).count '\n' = 1 := by
  have pad : (List.replicate (2 * depth) ' ').count '\n' = 0 :=
    List.count_eq_zero.mpr fun feed => absurd (List.eq_of_mem_replicate feed) (by decide)
  rw [newline, List.count_cons_self, pad]

theorem count_moreLines (depth : Nat) (parts : List (List Char)) :
    (moreLines depth parts).count '\n' = parts.flatten.count '\n' + parts.length := by
  induction parts with
  | nil => rfl
  | cons part parts ih =>
      have split : moreLines depth (part :: parts) =
          ',' :: (newline depth ++ part) ++ moreLines depth parts := List.flatMap_cons
      rw [split, List.count_append, ih, List.count_cons_of_ne (by decide), List.count_append,
        count_newline, List.flatten_cons, List.count_append, List.length_cons]
      omega

/-- Every part of a block stands on a line of its own, and so does the closing bracket. -/
theorem count_block {opening closing : Char} (hopening : opening ≠ '\n') (hclosing : closing ≠ '\n')
    (depth : Nat) {parts : List (List Char)} (filled : parts ≠ []) :
    (block depth opening closing parts).count '\n' =
      parts.flatten.count '\n' + parts.length + 1 := by
  cases parts with
  | nil => exact absurd rfl filled
  | cons part parts =>
      have last : [closing].count '\n' = 0 :=
        List.count_eq_zero.mpr fun feed => hclosing (List.mem_singleton.mp feed).symm
      rw [block, List.count_cons_of_ne hopening, List.count_append, List.count_append,
        List.count_append, List.count_append, count_moreLines, count_newline, count_newline, last,
        List.flatten_cons, List.count_append, List.length_cons]
      omega

/-- What holds of brackets and layout, and throughout the parts, holds throughout a block. -/
theorem forall_mem_block {p : Char → Prop} {depth : Nat} {opening closing : Char}
    {parts : List (List Char)} (layout : ∀ c ∈ [opening, closing, ',', '\n', ' '], p c)
    (hparts : ∀ part ∈ parts, ∀ c ∈ part, p c) :
    ∀ c ∈ block depth opening closing parts, p c := by
  simp only [List.forall_mem_cons] at layout
  obtain ⟨first, last, comma, feed, space, -⟩ := layout
  have line : ∀ depth, ∀ c ∈ newline depth, p c := by
    intro depth
    rw [newline, List.forall_mem_cons]
    refine ⟨feed, fun c hc => ?_⟩
    rwa [List.eq_of_mem_replicate hc]
  cases parts with
  | nil => exact List.forall_mem_cons.mpr ⟨first, List.forall_mem_singleton.mpr last⟩
  | cons part parts =>
      obtain ⟨hpart, hparts⟩ := List.forall_mem_cons.mp hparts
      have more : ∀ c ∈ moreLines (depth + 1) parts, p c := by
        intro c hc
        obtain ⟨next, hnext, hc⟩ := List.mem_flatMap.mp hc
        rcases List.mem_cons.mp hc with rfl | hc
        · exact comma
        · exact (List.mem_append.mp hc).elim (line _ c) (hparts next hnext c)
      simp only [block, List.forall_mem_cons, List.forall_mem_append]
      exact ⟨first, ⟨⟨⟨line _, hpart⟩, more⟩, line _⟩, last, List.forall_mem_nil p⟩

/-! ## Values -/

theorem prettyItems_eq_map (depth : Nat) (vs : List Json) :
    prettyItems depth vs = vs.map (pretty depth) := by
  induction vs with
  | nil => rfl
  | cons v vs ih => rw [prettyItems, ih, List.map_cons]

theorem prettyFields_eq_map (depth : Nat) (fs : List (String × Json)) :
    prettyFields depth fs = fs.map fun f => quoted f.1 ++ ':' :: ' ' :: pretty depth f.2 := by
  induction fs with
  | nil => rfl
  | cons f fs ih => rw [prettyFields, ih, List.map_cons]

/-- An array has a line for each item, those inside the items, and one for the closing bracket. -/
theorem count_pretty_array (depth : Nat) {items : List Json} (filled : items ≠ []) :
    (pretty depth (array items)).count '\n' =
      (items.flatMap (pretty (depth + 1))).count '\n' + items.length + 1 := by
  rw [pretty, prettyItems_eq_map,
    count_block (by decide) (by decide) depth (mt List.map_eq_nil_iff.mp filled), List.length_map,
    List.flatMap_def]

/-- The line feeds of fields are those of the values, as no key has any. -/
theorem count_prettyFields (depth : Nat) (fields : List (String × Json)) :
    (prettyFields depth fields).flatten.count '\n' =
      (fields.flatMap fun f => pretty depth f.2).count '\n' := by
  induction fields with
  | nil => rfl
  | cons f fs ih =>
      rw [prettyFields, List.flatten_cons, List.flatMap_cons, List.count_append,
        List.count_append, List.count_append, ih, count_quoted,
        List.count_cons_of_ne (by decide), List.count_cons_of_ne (by decide), Nat.zero_add]

theorem count_pretty_object (depth : Nat) {fields : List (String × Json)} (filled : fields ≠ []) :
    (pretty depth (object fields)).count '\n' =
      (fields.flatMap fun f => pretty (depth + 1) f.2).count '\n' + fields.length + 1 := by
  have parts : prettyFields (depth + 1) fields ≠ [] := by
    rw [prettyFields_eq_map]
    exact mt List.map_eq_nil_iff.mp filled
  rw [pretty, count_block (by decide) (by decide) depth parts, count_prettyFields,
    prettyFields_eq_map, List.length_map]

/-- A character that a written value may hold: one that is shown, or the line feed. -/
def IsLaid (c : Char) : Prop := ' ' ≤ c ∨ c = '\n'

instance (c : Char) : Decidable (IsLaid c) := inferInstanceAs (Decidable (_ ∨ _))

mutual

/-- **Of the characters below the space, a written value holds line feeds only.** -/
theorem isLaid_of_mem_pretty (depth : Nat) : (v : Json) → ∀ c ∈ pretty depth v, IsLaid c
  | number _ => fun _ hc => Or.inl (shown_of_mem_toDigits hc)
  | string _ => fun _ hc => Or.inl (shown_of_mem_quoted hc)
  | array items => forall_mem_block (forall_of_all (by decide)) (isLaid_of_mem_prettyItems (depth + 1) items)
  | object fields => forall_mem_block (forall_of_all (by decide)) (isLaid_of_mem_prettyFields (depth + 1) fields)

theorem isLaid_of_mem_prettyItems (depth : Nat) :
    (vs : List Json) → ∀ part ∈ prettyItems depth vs, ∀ c ∈ part, IsLaid c
  | [] => List.forall_mem_nil _
  | v :: vs => List.forall_mem_cons.mpr
    ⟨isLaid_of_mem_pretty depth v, isLaid_of_mem_prettyItems depth vs⟩

theorem isLaid_of_mem_prettyFields (depth : Nat) :
    (fs : List (String × Json)) → ∀ part ∈ prettyFields depth fs, ∀ c ∈ part, IsLaid c
  | [] => List.forall_mem_nil _
  | (key, v) :: fs => by
      refine List.forall_mem_cons.mpr ⟨?_, isLaid_of_mem_prettyFields depth fs⟩
      simp only [List.forall_mem_append, List.forall_mem_cons]
      exact ⟨fun _ hc => Or.inl (shown_of_mem_quoted hc), by decide, by decide,
        isLaid_of_mem_pretty depth v⟩

end

end Ixo.Json
