import Ixo.Proofs.Reading.Append
import Ixo.Proofs.Scan.Modes

/-!
# Where two texts meet

Two texts in a row *read apart* if no lexeme of the first goes on with the second (`ReadApart`).
Then the scan of both is the scan of the first and behind it the scan of the second, with every
offset further on by the length of the first, and this in both modes (`scan_append`). A scan keeps
nothing of what it has read but the offset.
-/

set_option autoImplicit false

namespace Ixo

/-! ## Findings further on -/

def Span.shift (k : Nat) (s : Span) : Span := ⟨s.offset + k, s.len⟩

/-- The token `k` bytes further on. -/
def Token.shift (k : Nat) (t : Token) : Token := ⟨t.kind, t.text, t.span.shift k⟩

def Diagnostic.shift (k : Nat) (d : Diagnostic) : Diagnostic := ⟨d.fault, d.span.shift k, d.source⟩

def Finding.shift (k : Nat) : Finding → Finding
  | token t => token (t.shift k)
  | diagnostic d => diagnostic (d.shift k)

theorem Lexeme.shift_token (l : Lexeme) (offset k : Nat) :
    (l.token offset).shift k = l.token (offset + k) := rfl

theorem Token.shift_shift (j k : Nat) (t : Token) : (t.shift j).shift k = t.shift (j + k) := by
  simp [shift, Span.shift, Nat.add_assoc]

theorem Diagnostic.shift_shift (j k : Nat) (d : Diagnostic) :
    (d.shift j).shift k = d.shift (j + k) := by
  simp [shift, Span.shift, Nat.add_assoc]

namespace Reading

variable {mode : Mode} {r s : Reading}

/-- A reading finds the same at every offset. -/
theorem findings_add (r : Reading) (offset k : Nat) :
    r.findings (offset + k) = (r.findings offset).map (Finding.shift k) := by
  induction r generalizing offset with
  | done gap => rfl
  | lexeme gap l next ih =>
      simp only [findings, List.map_cons, ← ih]
      rw [Nat.add_right_comm offset k, Nat.add_right_comm _ k]
      rfl
  | unclosed gap quote literal =>
      simp only [findings, List.map_cons, List.map_nil]
      rw [Nat.add_right_comm offset k]
      rfl
  | unmatched gap found next ih =>
      simp only [findings, List.map_cons, ← ih]
      rw [Nat.add_right_comm offset k, Nat.add_right_comm _ k]
      rfl

/-- So does every part of what it finds that moves along. -/
theorem filterMap_findings_eq {α : Type} {pick : Finding → Option α} {move : Nat → α → α}
    (along : ∀ k f, pick (f.shift k) = (pick f).map (move k)) (r : Reading) (offset : Nat) :
    (r.findings offset).filterMap pick = ((r.findings 0).filterMap pick).map (move offset) := by
  have commute : pick ∘ Finding.shift offset = fun f => (pick f).map (move offset) := by
    funext f
    exact along offset f
  have h := findings_add r 0 offset
  rw [Nat.zero_add] at h
  rw [h, List.filterMap_map, List.map_filterMap, commute]

theorem tokens_eq_map_shift (r : Reading) (offset : Nat) :
    r.tokens offset = (r.tokens 0).map (Token.shift offset) := by
  refine filterMap_findings_eq (fun k f => ?_) r offset
  cases f <;> rfl

theorem diagnostics_eq_map_shift (r : Reading) (offset : Nat) :
    r.diagnostics offset = (r.diagnostics 0).map (Diagnostic.shift offset) := by
  refine filterMap_findings_eq (fun k f => ?_) r offset
  cases f <;> rfl

/-! ## Findings of readings one behind the other -/

theorem findings_behind (gap : List Char) (r : Reading) (offset : Nat) :
    (r.behind gap).findings offset = r.findings (offset + byteLength gap) := by
  cases r <;> simp [behind, findings, Nat.add_assoc]

theorem findings_of_spelling_eq_nil (normal : r.Normal mode) (h : r.spelling = [])
    (offset : Nat) : r.findings offset = [] := by
  cases r with
  | done gap => rfl
  | lexeme gap l next =>
      obtain ⟨c, cs, hc⟩ := l.spelling_eq_cons normal.2.1.1
      simp [spelling, hc] at h
  | unclosed gap quote literal =>
      obtain ⟨-, -, -, body, rfl, -⟩ := normal
      simp [spelling] at h
  | unmatched gap found next => exact absurd normal id

theorem findings_append (hs : s.Normal mode) (ends : r.EndsBefore s.spelling) (offset : Nat) :
    (r.append s).findings offset =
      r.findings offset ++ s.findings (offset + byteLength r.spelling) := by
  induction r generalizing offset with
  | done gap => exact findings_behind gap s offset
  | lexeme gap l next ih =>
      simp only [append, findings, spelling, ih ends.2, byteLength_append, Lexeme.size,
        Nat.add_assoc, List.cons_append]
  | unclosed gap quote literal =>
      rw [findings_of_spelling_eq_nil hs ends, List.append_nil, append]
  | unmatched gap found next ih =>
      simp only [append, findings, spelling, ih ends, byteLength_append, byteLength_cons,
        Nat.add_assoc, List.cons_append]

theorem tokens_append (hs : s.Normal mode) (ends : r.EndsBefore s.spelling) (offset : Nat) :
    (r.append s).tokens offset = r.tokens offset ++ s.tokens (offset + byteLength r.spelling) := by
  rw [tokens, findings_append hs ends, List.filterMap_append, tokens, tokens]

theorem diagnostics_append (hs : s.Normal mode) (ends : r.EndsBefore s.spelling) (offset : Nat) :
    (r.append s).diagnostics offset =
      r.diagnostics offset ++ s.diagnostics (offset + byteLength r.spelling) := by
  rw [diagnostics, findings_append hs ends, List.filterMap_append, diagnostics, diagnostics]

/-- An open literal ends before nothing, whether it was read or refused. -/
theorem endsBefore_lenient_iff (normal : r.Normal mode) {rest : List Char} :
    r.lenient.EndsBefore rest ↔ r.EndsBefore rest := by
  induction r with
  | done gap => exact Iff.rfl
  | lexeme gap l next ih =>
      rw [lenient, EndsBefore, EndsBefore, spelling_lenient normal.2.2.2.2, ih normal.2.2.2.2]
  | unclosed gap quote literal =>
      simp only [lenient, EndsBefore, spelling, List.nil_append, and_true]
      cases rest <;> simp [Lexeme.EndsBefore, Lexeme.absorbs]
  | unmatched gap found next ih => exact absurd normal id

/-- A reading that something can stand behind found nothing wrong. -/
theorem diagnostics_of_endsBefore_cons (normal : r.Normal mode) {c : Char} {cs : List Char}
    (ends : r.EndsBefore (c :: cs)) (offset : Nat) : r.diagnostics offset = [] := by
  induction r generalizing offset with
  | done gap => rfl
  | lexeme gap l next ih => exact ih normal.2.2.2.2 ends.2 _
  | unclosed gap quote literal => cases ends
  | unmatched gap found next => exact absurd normal id

end Reading

/-! ## Texts that read apart -/

/-- No lexeme of the first text goes on with the second. -/
def ReadApart (as bs : List Char) : Prop :=
  (Reading.of .lenient Rule.inOrder as).EndsBefore bs

theorem readApart_iff {mode : Mode} {r : Reading} (normal : r.Normal mode) {bs : List Char} :
    ReadApart r.spelling bs ↔ r.EndsBefore bs := by
  have same : Reading.of .lenient Rule.inOrder r.spelling = r.lenient :=
    Reading.of_eq_iff.mpr ⟨Reading.spelling_lenient normal, Reading.normal_lenient normal⟩
  rw [ReadApart, same, Reading.endsBefore_lenient_iff normal]

namespace ReadApart

variable {as bs cs : List Char}

theorem congr (h : ReadApart as bs) (head : bs.head? = cs.head?) : ReadApart as cs :=
  (Reading.endsBefore_congr head).mp h

theorem append (h : ReadApart as (bs ++ cs)) (h' : ReadApart bs cs) : ReadApart (as ++ bs) cs := by
  have ends : (Reading.of .lenient Rule.inOrder as).EndsBefore
      ((Reading.of .lenient Rule.inOrder bs).spelling ++ cs) := by
    rw [Reading.spelling_of]
    exact h
  have both : (Reading.of .lenient Rule.inOrder as).EndsBefore bs :=
    Reading.EndsBefore.of_append h
  rw [ReadApart, Reading.of_append both]
  exact Reading.endsBefore_append ends h'

theorem of_blank (hgap : ∀ c ∈ as, isBlank c = true) : ReadApart as bs := by
  rw [ReadApart, Reading.of_blank hgap]
  trivial

theorem spelling_iff {l : Lexeme} (wf : l.WellFormed) :
    ReadApart l.spelling bs ↔ l.EndsBefore bs := by
  have normal : (Reading.lexeme [] l (.done [])).Normal .lenient :=
    ⟨by simp, wf, stops_nil _, by simp, by simp [Reading.Normal]⟩
  have h : ReadApart (Reading.lexeme [] l (.done [])).spelling bs ↔ _ := readApart_iff normal
  simpa [Reading.spelling, Reading.EndsBefore] using h

end ReadApart

/-! ## Scans of texts that read apart -/

/-- What a scan returns. -/
abbrev Scan.Outcome := Except (List Diagnostic) (List Token)

/-- The outcomes of two texts in a row as one, the second text starting at `offset`. What is wrong
with either text is wrong with both, and there are tokens only where nothing is wrong. -/
def joined (offset : Nat) : Scan.Outcome → Scan.Outcome → Scan.Outcome
  | .ok ts, .ok us => .ok (ts ++ us.map (Token.shift offset))
  | .ok _, .error es => .error (es.map (Diagnostic.shift offset))
  | .error ds, .ok _ => .error ds
  | .error ds, .error es => .error (ds ++ es.map (Diagnostic.shift offset))

theorem joined_joined (j k : Nat) (a b c : Scan.Outcome) :
    joined j a (joined k b c) = joined (j + k) (joined j a b) c := by
  have tokens : Token.shift j ∘ Token.shift k = Token.shift (j + k) := by
    funext t
    rw [Function.comp_apply, Token.shift_shift, Nat.add_comm]
  have diagnostics : Diagnostic.shift j ∘ Diagnostic.shift k = Diagnostic.shift (j + k) := by
    funext d
    rw [Function.comp_apply, Diagnostic.shift_shift, Nat.add_comm]
  cases a <;> cases b <;> cases c <;> simp [joined, tokens, diagnostics]

/-- **Texts that read apart are scanned one after the other.** -/
theorem scan_append {a b : String} (apart : ReadApart a.toList b.toList) (mode : Mode) :
    scan mode (a ++ b) = joined (byteLength a.toList) (scan mode a) (scan mode b) := by
  obtain ⟨r, hr, ha⟩ := Reading.exists_normal mode a.toList
  obtain ⟨s, hs, hb⟩ := Reading.exists_normal mode b.toList
  have ends : r.EndsBefore s.spelling := by
    rw [← ha, readApart_iff hr] at apart
    rw [hb]
    exact apart
  have whole : (r.append s).spelling = (a ++ b).toList := by
    rw [Reading.spelling_append ends, ha, hb, String.toList_append]
  rw [scan_eq_of_normal (Reading.normal_append hr hs ends) whole, scan_eq_of_normal hr ha,
    scan_eq_of_normal hs hb, Reading.diagnostics_append hs ends, Reading.tokens_append hs ends,
    s.tokens_eq_map_shift, s.diagnostics_eq_map_shift, Nat.zero_add, ha]
  cases r.diagnostics 0 <;> cases s.diagnostics 0 <;> simp [joined]

/-- A strict scan of a text that something can stand behind is the lenient one. -/
theorem scan_strict_of_readApart {a : String} {c : Char} {cs : List Char}
    (apart : ReadApart a.toList (c :: cs)) : scan .strict a = scan .lenient a := by
  obtain ⟨r, hr, ha⟩ := Reading.exists_normal .strict a.toList
  rw [← ha, readApart_iff hr] at apart
  have sound := Reading.diagnostics_of_endsBefore_cons hr apart 0
  rw [scan_eq_of_normal hr ha, scan_lenient hr ha, sound]
  rcases Reading.strict_cases hr 0 with ⟨-, same⟩ | ⟨_, _, _, _, _, _, h, _⟩
  · rw [same]
  · rw [sound] at h
    cases h

end Ixo
