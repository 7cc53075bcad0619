import Ixo.Dump
import Ixo.Proofs.Scan.Findings
import Ixo.Text.Split
import Mathlib.Data.List.DropRight
import Mathlib.Data.List.Forall2

/-!
# Reading a text dump

A line of a text dump has a form from which its token's kind and text can be told
(`IsLine`): the label stands in a column of fixed width, so the text that follows it may hold
anything, even what the line itself is made of. Where no text holds a line feed, the dump is cut
into these lines at its line feeds, and two dumps that are equal say the same of as many tokens.
Of the tokens of a scan only literals hold line feeds (`textDump_lines`).
-/

set_option autoImplicit false

namespace Ixo

/-- A text without the spaces at its end. -/
def unpadded (cs : List Char) : List Char := cs.rdropWhile (· == ' ')

/-- A line that tells of a kind, by its label in a column of its own, and of a text, which runs to
the end of the line. -/
def IsLine (line : List Char) (kind : Kind) (text : List Char) : Prop :=
  ∃ column, line = "Token: ".toList ++ column ++ "Value = ".toList ++ text ∧
    column.length = labelWidth ∧ unpadded column = kind.label.toList

/-! ## Labels -/

namespace Kind

theorem label_injective {k k' : Kind} (h : k.label = k'.label) : k = k' := by
  have distinct : ∀ k ∈ all, ∀ k' ∈ all, k.label = k'.label → k = k' := by decide
  exact distinct k (mem_all k) k' (mem_all k') h

/-- A label fits into its column, and is of letters only. -/
theorem label_fits (k : Kind) :
    k.label.toList.length ≤ labelWidth ∧ ∀ c ∈ k.label.toList, c.isUpper = true := by
  have fits : ∀ k ∈ all, k.label.toList.length ≤ labelWidth ∧
      k.label.toList.all Char.isUpper = true := by decide
  obtain ⟨short, upper⟩ := fits k (mem_all k)
  exact ⟨short, List.all_eq_true.mp upper⟩

end Kind

/-- Padding is taken off again where the text itself has no spaces. -/
theorem unpadded_rightpad {cs : List Char} (h : ' ' ∉ cs) (n : Nat) :
    unpadded (cs.rightpad n ' ') = cs := by
  rw [List.rightpad]
  induction n - cs.length with
  | zero =>
      rw [List.replicate_zero, List.append_nil, unpadded, List.rdropWhile_eq_self_iff]
      intro hne last
      have : cs.getLast hne = ' ' := eq_of_beq last
      exact h (this ▸ List.getLast_mem hne)
  | succ k ih =>
      rw [List.replicate_succ', ← List.append_assoc, unpadded, List.rdropWhile_concat_pos _ _ _ rfl]
      exact ih

/-! ## Lines -/

theorem toList_line (t : Token) :
    t.line.toList = "Token: ".toList ++ t.kind.label.toList.rightpad labelWidth ' ' ++
      "Value = ".toList ++ t.text.toList := by
  simp only [Token.line, String.toList_append, String.toList_ofList]

theorem isLine_line (t : Token) : IsLine t.line.toList t.kind t.text.toList := by
  obtain ⟨fits, letters⟩ := t.kind.label_fits
  refine ⟨t.kind.label.toList.rightpad labelWidth ' ', toList_line t, ?_, unpadded_rightpad ?_ _⟩
  · rw [List.length_rightpad, Nat.max_eq_left fits]
  · intro space
    exact absurd (letters ' ' space) (by decide)

/-- A line tells of one kind and one text. -/
theorem IsLine.unique {line text text' : List Char} {k k' : Kind} (h : IsLine line k text)
    (h' : IsLine line k' text') : k = k' ∧ text = text' := by
  obtain ⟨column, rfl, width, label⟩ := h
  obtain ⟨column', same, width', label'⟩ := h'
  -- both columns start and end in the same places
  simp only [List.append_assoc] at same
  obtain ⟨rfl, value⟩ := List.append_inj (List.append_cancel_left same) (width.trans width'.symm)
  have hk : k.label = k'.label := String.toList_inj.mp (label.symm.trans label')
  exact ⟨Kind.label_injective hk, List.append_cancel_left value⟩

/-- Tokens with the same line have the same kind and text. -/
theorem said_eq_of_line_eq {t u : Token} (h : t.line = u.line) :
    (t.kind, t.text) = (u.kind, u.text) := by
  have ht := isLine_line t
  rw [h] at ht
  obtain ⟨kind, text⟩ := ht.unique (isLine_line u)
  rw [kind, String.toList_inj.mp text]

/-- The line feeds of a line are those of its text. -/
theorem count_line (t : Token) : t.line.toList.count '\n' = t.text.toList.count '\n' := by
  have column : (t.kind.label.toList.rightpad labelWidth ' ').count '\n' = 0 := by
    rw [List.count_eq_zero, List.rightpad, List.mem_append, List.mem_replicate]
    rintro (label | ⟨-, pad⟩)
    · exact absurd (t.kind.label_fits.2 '\n' label) (by decide)
    · cases pad
  have before : "Token: ".toList.count '\n' = 0 := by decide
  have behind : "Value = ".toList.count '\n' = 0 := by decide
  simp only [toList_line, List.count_append, column, before, behind, Nat.zero_add]

/-! ## Dumps -/

/-- A dump is its lines, each with a line feed behind it. -/
theorem toList_textDump (ts : List Token) :
    (textDump ts).toList = (ts.map fun t => t.line.toList).flatMap (· ++ ['\n']) := by
  have feed : "\n".toList = ['\n'] := rfl
  simp only [textDump, String.toList_join, List.flatMap_map, String.toList_append, feed]

/-- Lines are cut apart where they were put together. -/
theorem splitAtEach_flatMap {separator : Char} {parts : List (List Char)}
    (h : ∀ part ∈ parts, separator ∉ part) :
    splitAtEach separator (parts.flatMap (· ++ [separator])) = parts ++ [[]] := by
  induction parts with
  | nil => rfl
  | cons part parts ih =>
      obtain ⟨hpart, hparts⟩ := List.forall_mem_cons.mp h
      rw [List.flatMap_cons, List.append_assoc, List.singleton_append,
        splitAtEach_append_cons hpart, ih hparts, List.cons_append]

/-- A dump of tokens without line feeds has a line for each token. -/
theorem splitAtEach_textDump {ts : List Token} (single : ∀ t ∈ ts, '\n' ∉ t.text.toList) :
    splitAtEach '\n' (textDump ts).toList = (ts.map fun t => t.line.toList) ++ [[]] := by
  rw [toList_textDump]
  refine splitAtEach_flatMap fun line hline => ?_
  obtain ⟨t, ht, rfl⟩ := List.mem_map.mp hline
  rw [← List.count_eq_zero, count_line, List.count_eq_zero]
  exact single t ht

/-- A dump has a line feed for each token, and those inside the texts. -/
theorem count_textDump (ts : List Token) :
    (textDump ts).toList.count '\n' =
      ts.length + (ts.flatMap fun t => t.text.toList).count '\n' := by
  rw [toList_textDump]
  induction ts with
  | nil => rfl
  | cons t ts ih =>
      rw [List.map_cons, List.flatMap_cons, List.count_append, ih, List.count_append, count_line,
        List.length_cons, List.flatMap_cons, List.count_append, List.count_singleton_self]
      omega

/-- Of the tokens of a scan only literals hold line feeds. -/
theorem not_mem_text_of_kind_ne_string {mode : Mode} {source : String} {ts : List Token}
    (h : scan mode source = .ok ts) {t : Token} (ht : t ∈ ts) (hk : t.kind ≠ .string) :
    '\n' ∉ t.text.toList := by
  obtain ⟨r, normal, -, -, rfl⟩ := scan_eq_ok_iff.mp h
  obtain ⟨before, l, after, -, rfl, wf, -, -⟩ := Reading.exists_lexeme_of_mem_tokens normal ht
  have hl : l.rule ≠ .literal := fun e => hk (Lexeme.kind_eq_string_iff.mpr e)
  have text : (l.token (0 + byteLength before)).text.toList = l.text := String.toList_ofList
  rw [text]
  cases l with
  | comment body =>
      intro feed
      rcases List.mem_cons.mp feed with sign | feed
      · cases sign
      · exact wf.1 feed
  | literal quote body closed => exact absurd rfl hl
  | _ =>
      intro feed
      have := Lexeme.isBlank_eq_false_of_mem_spelling wf (fun h => by cases h) hl _ feed
      cases this

/-- Where only literals hold line feeds, the others need not be counted. -/
theorem count_texts_eq_literals {ts : List Token}
    (single : ∀ t ∈ ts, t.kind ≠ .string → '\n' ∉ t.text.toList) :
    (ts.flatMap fun t => t.text.toList).count '\n' =
      ((ts.filter (·.kind = .string)).flatMap fun t => t.text.toList).count '\n' := by
  induction ts with
  | nil => rfl
  | cons t ts ih =>
      obtain ⟨ht, hts⟩ := List.forall_mem_cons.mp single
      rw [List.flatMap_cons, List.count_append, ih hts]
      by_cases hk : t.kind = .string
      · rw [List.filter_cons_of_pos (by simp [hk]), List.flatMap_cons, List.count_append]
      · rw [List.filter_cons_of_neg (by simp [hk]), List.count_eq_zero.mpr (ht hk), Nat.zero_add]

/-- **A text dump can be read back, and only literals can break its lines.** Where no text holds a
line feed, the dump is cut at its line feeds into one line for each token and an empty rest, and
each line tells of the kind and the text of its token and of no other; so equal dumps are of the
same kinds and texts. The dump of a scan has as many line feeds as there are tokens, and those
inside the texts of literals. -/
theorem textDump_lines :
    (∀ ts : List Token, (∀ t ∈ ts, '\n' ∉ t.text.toList) →
      ∃ lines, splitAtEach '\n' (textDump ts).toList = lines ++ [[]] ∧
        List.Forall₂ (fun t line => IsLine line t.kind t.text.toList ∧
          ∀ kind text, IsLine line kind text → kind = t.kind ∧ text = t.text.toList) ts lines) ∧
    (∀ ts us : List Token, (∀ t ∈ ts, '\n' ∉ t.text.toList) →
      (∀ u ∈ us, '\n' ∉ u.text.toList) → textDump ts = textDump us →
        ts.map (fun t => (t.kind, t.text)) = us.map fun u => (u.kind, u.text)) ∧
    ∀ source, ∃ ts, scan .lenient source = .ok ts ∧
      (∀ t ∈ ts, t.kind ≠ .string → '\n' ∉ t.text.toList) ∧
      (textDump ts).toList.count '\n' = ts.length +
        ((ts.filter (·.kind = .string)).flatMap fun t => t.text.toList).count '\n' := by
  refine ⟨fun ts single => ?_, fun ts us single single' same => ?_, fun source => ?_⟩
  · refine ⟨_, splitAtEach_textDump single, ?_⟩
    rw [List.forall₂_map_right_iff, List.forall₂_same]
    exact fun t _ => ⟨isLine_line t, fun kind text h => h.unique (isLine_line t)⟩
  · have lines : (ts.map fun t => t.line.toList) = us.map fun u => u.line.toList := by
      have both := splitAtEach_textDump single
      rw [same, splitAtEach_textDump single'] at both
      exact (List.append_cancel_right both).symm
    rw [← List.forall₂_eq_eq_eq, List.forall₂_map_left_iff, List.forall₂_map_right_iff] at lines ⊢
    exact lines.imp fun t u h => said_eq_of_line_eq (String.toList_inj.mp h)
  · obtain ⟨r, normal, hsource⟩ := Reading.exists_normal .lenient source.toList
    have h : scan .lenient source = .ok (r.tokens 0) := scan_lenient_of_normal normal hsource
    have single : ∀ t ∈ r.tokens 0, t.kind ≠ .string → '\n' ∉ t.text.toList :=
      fun t => not_mem_text_of_kind_ne_string h
    refine ⟨r.tokens 0, h, single, ?_⟩
    rw [count_textDump, count_texts_eq_literals single]

/-- Texts that look like parts of a line, the first one with a space at its end. -/
theorem textDump_lines_lookalike :
    (∀ t ∈ [(⟨.string, "Value = ", ⟨0, 10⟩⟩ : Token), ⟨.comment, "#Token: END", ⟨10, 11⟩⟩],
        '\n' ∉ t.text.toList) ∧
      ∃ lines, splitAtEach '\n' (textDump [⟨.string, "Value = ", ⟨0, 10⟩⟩,
          ⟨.comment, "#Token: END", ⟨10, 11⟩⟩]).toList = lines ++ [[]] ∧
        List.Forall₂ (fun t line => IsLine line t.kind t.text.toList ∧
            ∀ kind text, IsLine line kind text → kind = t.kind ∧ text = t.text.toList)
          [(⟨.string, "Value = ", ⟨0, 10⟩⟩ : Token),
            ⟨.comment, "#Token: END", ⟨10, 11⟩⟩] lines := by
  have single : ∀ t ∈ [(⟨.string, "Value = ", ⟨0, 10⟩⟩ : Token),
      ⟨.comment, "#Token: END", ⟨10, 11⟩⟩], '\n' ∉ t.text.toList := by decide
  exact ⟨single, textDump_lines.1 _ single⟩

end Ixo
