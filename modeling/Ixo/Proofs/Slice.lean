import Ixo.Alphabet
import Ixo.Token.Basic
import Mathlib.Tactic.ByContra

/-!
# Spans and slices

A span counts bytes. It *cuts* a source where it starts and stops between characters: then the
source is what stands before the span, its slice, and what stands after, and the first two have
the lengths that the span says. A span cuts a source in one way only (`Span.Cuts.unique`), and
its slice is made of the very bytes of the source that it counts (`Span.Cuts.bytes_eq`).
-/

set_option autoImplicit false

namespace Ixo

/-! ## Lengths in bytes -/

theorem byteLength_pos_iff {cs : List Char} : 0 < byteLength cs ↔ cs ≠ [] := by
  cases cs with
  | nil => simp
  | cons c cs =>
      have := c.utf8Size_pos
      rw [byteLength_cons]
      constructor
      · intro _ h
        cases h
      · intro _
        omega

/-- Of two ways to cut a text, the one that cuts earlier leaves the difference over. -/
theorem exists_append_of_byteLength_le {as bs cs ds : List Char} (h : as ++ bs = cs ++ ds)
    (hle : byteLength as ≤ byteLength cs) : ∃ ms, cs = as ++ ms ∧ bs = ms ++ ds := by
  rcases List.append_eq_append_iff.mp h with ⟨ms, hcs, hbs⟩ | ⟨ms, has, hds⟩
  · exact ⟨ms, hcs, hbs⟩
  · have hms : ms = [] := by
      by_contra hne
      have := byteLength_pos_iff.mpr hne
      rw [has, byteLength_append] at hle
      omega
    rw [hms, List.append_nil] at has
    rw [hms, List.nil_append] at hds
    exact ⟨[], by rw [has, List.append_nil], by rw [hds, List.nil_append]⟩

theorem append_inj_of_byteLength {as bs cs ds : List Char} (h : as ++ bs = cs ++ ds)
    (hlen : byteLength as = byteLength cs) : as = cs ∧ bs = ds := by
  obtain ⟨ms, hcs, hbs⟩ := exists_append_of_byteLength_le h (Nat.le_of_eq hlen)
  have hms : ms = [] := by
    by_contra hne
    have := byteLength_pos_iff.mpr hne
    rw [hcs, byteLength_append] at hlen
    omega
  rw [hms] at hcs hbs
  exact ⟨by rw [hcs, List.append_nil], hbs⟩

/-! ## Slices -/

/-- A span cuts a source into what stands before it, its slice and what stands after. -/
structure Span.Cuts (s : Span) (source before slice after : List Char) : Prop where
  whole : before ++ slice ++ after = source
  offset_eq : byteLength before = s.offset
  len_eq : byteLength slice = s.len

namespace Span.Cuts

variable {s : Span} {source before slice after : List Char}

theorem offset_add_len_le (h : s.Cuts source before slice after) :
    s.offset + s.len ≤ byteLength source := by
  rw [← h.whole, byteLength_append, byteLength_append, h.offset_eq, h.len_eq]
  exact Nat.le_add_right _ _

/-- A span cuts a source in one way. -/
theorem unique (h : s.Cuts source before slice after) {before' slice' after' : List Char}
    (h' : s.Cuts source before' slice' after') :
    before = before' ∧ slice = slice' ∧ after = after' := by
  have whole : before ++ (slice ++ after) = before' ++ (slice' ++ after') := by
    rw [← List.append_assoc, ← List.append_assoc, h.whole, h'.whole]
  obtain ⟨hbefore, hrest⟩ :=
    append_inj_of_byteLength whole (h.offset_eq.trans h'.offset_eq.symm)
  exact ⟨hbefore, append_inj_of_byteLength hrest (h.len_eq.trans h'.len_eq.symm)⟩

/-- The slice holds the bytes of the source that the span counts. -/
theorem bytes_eq (h : s.Cuts source before slice after) :
    (String.ofList source).toByteArray.extract s.offset (s.offset + s.len) =
      (String.ofList slice).toByteArray := by
  have size (cs : List Char) : (String.ofList cs).toByteArray.size = byteLength cs :=
    utf8ByteSize_ofList cs
  rw [← h.whole, ← h.offset_eq, ← h.len_eq, List.append_assoc, String.ofList_append,
    String.ofList_append, String.toByteArray_append, String.toByteArray_append]
  show ByteArray.extract _ (byteLength before + 0) _ = _
  rw [ByteArray.extract_append_size_add' (size before).symm,
    ByteArray.extract_append_eq_left (size slice).symm]

end Span.Cuts

end Ixo
