import Ixo.Proofs.Scan.Findings
import Ixo.Proofs.Slice
import Mathlib.Logic.ExistsUnique

/-!
# Tokens tile the source

The tokens of a scan that succeeds lie along its source: blanks, the slice of the first token,
blanks, the slice of the second, and so on to blanks at the end (`Tiles`). Nothing is lost and
nothing is covered twice. `scan_tiling` says this of scans, together with what follows for the
single span (`Tiling`).
-/

set_option autoImplicit false

namespace Ixo

/-- Tokens along a text that starts at `offset`: a gap of blanks, the slice that the span of the
first token says, and the other tokens along what is left. Behind the last token there are only
blanks. -/
def Tiles (offset : Nat) : List Token → List Char → Prop
  | [], text => ∀ c ∈ text, isBlank c = true
  | t :: ts, text =>
    ∃ gap slice rest, gap ++ (slice ++ rest) = text ∧ (∀ c ∈ gap, isBlank c = true) ∧
      t.span = ⟨offset + byteLength gap, byteLength slice⟩ ∧
      Tiles (offset + byteLength gap + byteLength slice) ts rest

/-- A span contains the bytes of the character at this offset. -/
def Span.Contains (s : Span) (offset : Nat) (c : Char) : Prop :=
  s.offset ≤ offset ∧ offset + c.utf8Size ≤ s.offset + s.len

/-- The tokens of a source, without loss and without overlap. -/
structure Tiling (source : List Char) (tokens : List Token) : Prop where
  /-- The gaps and the slices make up the source. -/
  tiles : Tiles 0 tokens source
  len_pos : ∀ t ∈ tokens, 0 < t.span.len
  inside : ∀ t ∈ tokens, t.span.offset + t.span.len ≤ byteLength source
  /-- The end of a span of a source that fits into memory is a number of 64 bits. -/
  stop_eq : byteLength source < UInt64.size →
    ∀ t ∈ tokens, t.span.stop? = some (t.span.offset + t.span.len)
  /-- A span starts and ends between characters, and starts with no blank. -/
  cuts : ∀ t ∈ tokens, ∃ before c cs after,
    t.span.Cuts source before (c :: cs) after ∧ isBlank c = false
  ordered : tokens.Pairwise fun t u => t.span.offset + t.span.len ≤ u.span.offset
  /-- A character that is no blank lies in exactly one span. -/
  covered : ∀ before c after, before ++ c :: after = source → isBlank c = false →
    ∃! i : Fin tokens.length, (tokens.get i).span.Contains (byteLength before) c

/-! ## The tokens of a reading tile its text -/

theorem Reading.tiles {mode : Mode} {r : Reading} {offset : Nat} (normal : r.Normal mode)
    (sound : r.diagnostics offset = []) : Tiles offset (r.tokens offset) r.spelling := by
  induction r generalizing offset with
  | done gap => exact normal
  | lexeme gap l next ih =>
      obtain ⟨hgap, -, -, -, hnext⟩ := normal
      exact ⟨gap, l.spelling, next.spelling, (List.append_assoc _ _ _).symm, hgap, rfl,
        ih hnext sound⟩
  | unclosed gap quote literal => cases sound
  | unmatched gap found next => exact absurd normal id

/-- A character of a text in two parts stands in the first or in the second. -/
theorem append_cons_cases {as bs before after : List Char} {c : Char}
    (h : as ++ bs = before ++ c :: after) :
    (∃ more, as = before ++ c :: more) ∨
      ∃ more, before = as ++ more ∧ bs = more ++ c :: after := by
  rcases List.append_eq_append_iff.mp h with ⟨more, hbefore, hbs⟩ | ⟨more, has, hafter⟩
  · exact Or.inr ⟨more, hbefore, hbs⟩
  · cases more with
    | nil => exact Or.inr ⟨[], by simpa using has.symm, by simpa using hafter.symm⟩
    | cons d ds =>
        obtain ⟨rfl, -⟩ := List.cons.inj hafter
        exact Or.inl ⟨ds, has⟩

namespace Tiles

variable {offset : Nat} {ts : List Token} {text : List Char}

theorem offset_le (h : Tiles offset ts text) : ∀ t ∈ ts, offset ≤ t.span.offset := by
  induction ts generalizing offset text with
  | nil => intro t ht; cases ht
  | cons u us ih =>
      obtain ⟨gap, slice, rest, -, -, hu, hus⟩ := h
      intro t ht
      rcases List.mem_cons.mp ht with rfl | ht
      · rw [hu]
        exact Nat.le_add_right _ _
      · have := ih hus t ht
        omega

/-- A token ends before the next one starts. -/
theorem pairwise (h : Tiles offset ts text) :
    ts.Pairwise fun t u => t.span.offset + t.span.len ≤ u.span.offset := by
  induction ts generalizing offset text with
  | nil => exact List.Pairwise.nil
  | cons u us ih =>
      obtain ⟨gap, slice, rest, -, -, hu, hus⟩ := h
      refine List.Pairwise.cons ?_ (ih hus)
      intro t ht
      rw [hu]
      exact hus.offset_le t ht

/-- Every character that is no blank stands in the slice of a token. -/
theorem exists_contains (h : Tiles offset ts text) {before after : List Char} {c : Char}
    (htext : before ++ c :: after = text) (hc : isBlank c = false) :
    ∃ t ∈ ts, t.span.Contains (offset + byteLength before) c := by
  induction ts generalizing offset text before with
  | nil =>
      have := h c (by rw [← htext]; simp)
      rw [hc] at this
      cases this
  | cons u us ih =>
      obtain ⟨gap, slice, rest, rfl, hgap, hu, hus⟩ := h
      rcases append_cons_cases htext.symm with ⟨more, rfl⟩ | ⟨before, rfl, hrest⟩
      · -- in the gap there are blanks only
        have := hgap c (by simp)
        rw [hc] at this
        cases this
      · -- behind the gap the character stands in the slice, or in what is left
        rcases append_cons_cases hrest with ⟨more, rfl⟩ | ⟨before, rfl, htail⟩
        · refine ⟨u, List.mem_cons_self, ?_⟩
          simp only [Span.Contains, hu, byteLength_append, byteLength_cons]
          omega
        · obtain ⟨t, ht, hcontains⟩ := ih hus htail.symm
          refine ⟨t, List.mem_cons_of_mem u ht, ?_⟩
          simp only [byteLength_append]
          simpa only [Nat.add_assoc] using hcontains

end Tiles

/-- Two tokens that lie one after the other do not contain the same character. -/
theorem eq_of_contains {ts : List Token} {offset : Nat} {c : Char}
    (apart : ts.Pairwise fun t u => t.span.offset + t.span.len ≤ u.span.offset)
    {i j : Fin ts.length} (hi : (ts.get i).span.Contains offset c)
    (hj : (ts.get j).span.Contains offset c) : i = j := by
  have ordered : ∀ i j : Fin ts.length, i < j →
      (ts.get i).span.offset + (ts.get i).span.len ≤ (ts.get j).span.offset :=
    fun i j hij => List.pairwise_iff_getElem.mp apart i j i.isLt j.isLt hij
  have pos := c.utf8Size_pos
  unfold Span.Contains at hi hj
  -- a character takes a byte at least, so it does not fit into both of two spans in a row
  rcases Nat.lt_trichotomy i j with hlt | heq | hgt
  · have := ordered i j hlt
    omega
  · exact Fin.ext heq
  · have := ordered j i hgt
    omega

/-- A token of a normal reading cuts its text, at a character that is no blank. -/
theorem Reading.exists_cuts_of_mem_tokens {mode : Mode} {r : Reading} {t : Token}
    (normal : r.Normal mode) (ht : t ∈ r.tokens 0) :
    ∃ before c cs after, t.span.Cuts r.spelling before (c :: cs) after ∧ isBlank c = false := by
  obtain ⟨before, l, after, hl, rfl, wf, -, -⟩ := r.exists_lexeme_of_mem_tokens normal ht
  obtain ⟨c, cs, hc, blank⟩ := wf.spelling_eq_cons
  refine ⟨before, c, cs, after, ⟨?_, ?_, ?_⟩, blank⟩
  · rw [← hc, hl]
  · exact (Nat.zero_add _).symm
  · rw [← hc]
    rfl

/-- Every token of a scan starts behind the start of the one before. -/
theorem scan_offsets_lt {mode : Mode} {source : String} {tokens : List Token}
    (h : scan mode source = .ok tokens) :
    tokens.Pairwise fun t u => t.span.offset < u.span.offset := by
  obtain ⟨r, normal, -, sound, rfl⟩ := scan_eq_ok_iff.mp h
  apply (r.tiles normal sound).pairwise.imp_of_mem
  intro t u ht _ ordered
  obtain ⟨before, c, cs, after, hcuts, -⟩ := Reading.exists_cuts_of_mem_tokens normal ht
  have filled : 0 < t.span.len := by
    rw [← hcuts.len_eq]
    exact byteLength_pos_iff.mpr (List.cons_ne_nil c cs)
  omega

/-- **The tokens of a scan tile its source.** -/
theorem scan_tiling {mode : Mode} {source : String} {tokens : List Token}
    (h : scan mode source = .ok tokens) : Tiling source.toList tokens := by
  obtain ⟨r, normal, hsource, sound, rfl⟩ := scan_eq_ok_iff.mp h
  have tiles := r.tiles normal sound
  have cuts : ∀ t ∈ r.tokens 0, ∃ before c cs after,
      t.span.Cuts source.toList before (c :: cs) after ∧ isBlank c = false := by
    intro t ht
    rw [← hsource]
    exact Reading.exists_cuts_of_mem_tokens normal ht
  have inside : ∀ t ∈ r.tokens 0, t.span.offset + t.span.len ≤ byteLength source.toList := by
    intro t ht
    obtain ⟨before, c, cs, after, hcuts, -⟩ := cuts t ht
    exact hcuts.offset_add_len_le
  rw [hsource] at tiles
  refine ⟨tiles, ?_, inside, ?_, cuts, tiles.pairwise, ?_⟩
  · intro t ht
    obtain ⟨before, c, cs, after, hcuts, -⟩ := cuts t ht
    rw [← hcuts.len_eq]
    exact byteLength_pos_iff.mpr (List.cons_ne_nil c cs)
  · intro fits t ht
    exact if_pos (Nat.lt_of_le_of_lt (inside t ht) fits)
  · intro before c after hbefore hc
    obtain ⟨t, ht, hcontains⟩ := tiles.exists_contains hbefore hc
    obtain ⟨i, rfl⟩ := List.get_of_mem ht
    rw [Nat.zero_add] at hcontains
    exact ⟨i, hcontains, fun j hj => eq_of_contains tiles.pairwise hj hcontains⟩

/-- Characters of two bytes outside and inside of a literal that takes the end of the source,
its blanks included. -/
theorem scan_tiling_open_literal :
    scan .lenient " é\t'ß \n" = .ok [⟨.unknown, "é", ⟨1, 2⟩⟩, ⟨.string, "ß \n", ⟨4, 5⟩⟩] ∧
      Tiling " é\t'ß \n".toList [⟨.unknown, "é", ⟨1, 2⟩⟩, ⟨.string, "ß \n", ⟨4, 5⟩⟩] := by
  have normal : Reading.Normal .lenient
      (.lexeme [' '] (.unknown 'é')
        (.lexeme ['\t'] (.literal '\'' ['ß', ' ', '\n'] false) (.done []))) := by
    decide
  have h : scan .lenient " é\t'ß \n" =
      .ok [⟨.unknown, "é", ⟨1, 2⟩⟩, ⟨.string, "ß \n", ⟨4, 5⟩⟩] :=
    scan_eq_of_normal normal rfl
  exact ⟨h, scan_tiling h⟩

end Ixo
