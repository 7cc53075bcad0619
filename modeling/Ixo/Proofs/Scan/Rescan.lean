import Ixo.Proofs.Scan.Place
import Ixo.Proofs.Slice

/-!
# Tokens scanned alone

The slice of a token is a source of its own. Nothing that stood around the token took part in how it
was read, so the scan of the slice finds this token and no other (`scan_slice`). For every token but
a literal the slice is the text, so scanning the text of such a token is stable
(`scan_token_again`).
-/

set_option autoImplicit false

namespace Ixo

namespace Lexeme

variable {l : Lexeme}

/-- Only literals say less than they are spelled with. -/
theorem text_eq_spelling (h : l.rule ≠ .literal) : l.text = l.spelling := by
  cases l with
  | literal quote body closed => exact absurd rfl h
  | _ => rfl

theorem isClosed_eq_true (h : l.rule ≠ .literal) : l.isClosed = true := by
  cases l with
  | literal quote body closed => exact absurd rfl h
  | _ => rfl

/-- A token that is no literal has a span as long as its text. -/
theorem len_token (h : l.rule ≠ .literal) (offset : Nat) :
    (l.token offset).span.len = byteLength (l.token offset).text.toList := by
  rw [token, String.toList_ofList, text_eq_spelling h, size]

end Lexeme

/-- Every token stands for a lexeme whose spelling is the slice of its span. -/
theorem exists_slice {source : String} {tokens : List Token} {t : Token}
    (h : scan .lenient source = .ok tokens) (ht : t ∈ tokens) :
    ∃ (before : List Char) (l : Lexeme) (after : List Char),
      t.span.Cuts source.toList before l.spelling after ∧ l.WellFormed ∧
        t = l.token (byteLength before) := by
  obtain ⟨earlier, later, rfl⟩ := List.append_of_mem ht
  obtain ⟨before, l, after, stands, rfl, -, -⟩ := exists_standsAt h
  refine ⟨before, l, after, ⟨?_, rfl, rfl⟩, stands.wellFormed, rfl⟩
  rw [List.append_assoc]
  exact stands.whole

/-- **The slice of a token is scanned as this token**, and it starts at the start. -/
theorem scan_slice {source : String} {tokens : List Token} {t : Token}
    (h : scan .lenient source = .ok tokens) (ht : t ∈ tokens) :
    ∃ before slice after, t.span.Cuts source.toList before slice after ∧
      scan .lenient (String.ofList slice) = .ok [⟨t.kind, t.text, ⟨0, t.span.len⟩⟩] := by
  obtain ⟨before, l, after, cuts, wf, rfl⟩ := exists_slice h ht
  exact ⟨before, l.spelling, after, cuts, scan_spelling wf (by simp)⟩

/-- The text of a token that is no literal is scanned as this token, in both modes. -/
theorem scan_text {source : String} {tokens : List Token} {t : Token}
    (h : scan .lenient source = .ok tokens) (ht : t ∈ tokens) (hk : t.kind ≠ .string)
    (mode : Mode) :
    scan mode t.text = .ok [⟨t.kind, t.text, ⟨0, byteLength t.text.toList⟩⟩] := by
  obtain ⟨before, l, after, -, wf, rfl⟩ := exists_slice h ht
  have form : l.rule ≠ .literal := mt Lexeme.kind_eq_string_iff.mpr hk
  calc scan mode (l.token (byteLength before)).text
      = scan mode (String.ofList l.spelling) := by rw [Lexeme.token, Lexeme.text_eq_spelling form]
    _ = .ok [l.token 0] := scan_spelling wf fun _ => Lexeme.isClosed_eq_true form
    _ = .ok [⟨l.kind, (l.token (byteLength before)).text,
          ⟨0, (l.token (byteLength before)).span.len⟩⟩] := rfl
    _ = _ := by rw [Lexeme.len_token form, Lexeme.token]

/-- **Scanning again is stable.** Every source has a lenient scan. The text of a token in it that is
no literal is scanned in both modes as exactly one token, of the same kind and with the same text
from its start to its end. A literal is scanned from its slice, the quotes included, as exactly one
literal with the same text. -/
theorem scan_token_again (source : String) :
    ∃ tokens, scan .lenient source = .ok tokens ∧ ∀ t ∈ tokens,
      (t.kind ≠ .string → ∀ mode,
        scan mode t.text = .ok [⟨t.kind, t.text, ⟨0, byteLength t.text.toList⟩⟩]) ∧
      (t.kind = .string → ∃ before slice after,
        t.span.Cuts source.toList before slice after ∧
          scan .lenient (String.ofList slice) = .ok [⟨.string, t.text, ⟨0, t.span.len⟩⟩]) := by
  obtain ⟨tokens, h, -⟩ := scan_cases source
  refine ⟨tokens, h, fun t ht => ⟨scan_text h ht, fun hk => ?_⟩⟩
  obtain ⟨before, slice, after, cuts, found⟩ := scan_slice h ht
  rw [hk] at found
  exact ⟨before, slice, after, cuts, found⟩

/-- An operator that ends in a point in front of a numeral, and a comment with a quote in it that
ends in a carriage return. -/
theorem scan_token_again_return :
    scan .lenient "+.5#'\r\n\"é" =
        .ok [⟨.operator, "+.", ⟨0, 2⟩⟩, ⟨.number, "5", ⟨2, 1⟩⟩, ⟨.comment, "#'\r", ⟨3, 3⟩⟩,
          ⟨.string, "é", ⟨7, 3⟩⟩] ∧
      scan .strict "+." = .ok [⟨.operator, "+.", ⟨0, 2⟩⟩] ∧
      scan .strict "#'\r" = .ok [⟨.comment, "#'\r", ⟨0, 3⟩⟩] ∧
      scan .lenient "\"é" = .ok [⟨.string, "é", ⟨0, 3⟩⟩] := by
  have normal : Reading.Normal .lenient
      (.lexeme [] (.operator ['+', '.']) (.lexeme [] (.number ['5'])
        (.lexeme [] (.comment ['\'', '\r'])
          (.lexeme ['\n'] (.literal '"' ['é'] false) (.done []))))) := by
    decide
  have h : scan .lenient "+.5#'\r\n\"é" =
      .ok [⟨.operator, "+.", ⟨0, 2⟩⟩, ⟨.number, "5", ⟨2, 1⟩⟩, ⟨.comment, "#'\r", ⟨3, 3⟩⟩,
        ⟨.string, "é", ⟨7, 3⟩⟩] := scan_eq_of_normal normal rfl
  obtain ⟨tokens, found, again⟩ := scan_token_again "+.5#'\r\n\"é"
  rw [h] at found
  obtain rfl := Except.ok.inj found
  refine ⟨h, ?_, ?_, ?_⟩
  · exact (again ⟨.operator, "+.", ⟨0, 2⟩⟩ (by simp)).1 (by decide) .strict
  · exact (again ⟨.comment, "#'\r", ⟨3, 3⟩⟩ (by simp)).1 (by decide) .strict
  · obtain ⟨before, slice, after, cuts, literal⟩ :=
      (again ⟨.string, "é", ⟨7, 3⟩⟩ (by simp)).2 rfl
    -- the source is cut in one way
    obtain ⟨-, hslice, -⟩ := cuts.unique
      (⟨rfl, rfl, rfl⟩ : Span.Cuts _ _ ['+', '.', '5', '#', '\'', '\r', '\n'] ['"', 'é'] [])
    rw [hslice] at literal
    exact literal

end Ixo
