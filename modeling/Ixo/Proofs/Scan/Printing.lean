import Ixo.Proofs.Scan.Findings
import Ixo.Proofs.Slice

/-!
# Printing and scanning

Lexemes are printed one after the other with gaps between them. The scan of what is printed
gives the lexemes back, each as a token at the place where it was printed, exactly if the gaps
keep them apart (`scan_printed_iff`). What has to be kept apart is a short table
(`Lexeme.needsGapBefore`): everything else may touch. A comment needs more than a gap, it needs
the end of its line.
-/

set_option autoImplicit false

namespace Ixo

/-! ## Lexemes that would run together -/

namespace Lexeme

def isComment : Lexeme → Bool
  | comment _ => true
  | _ => false

/-- The lexemes that would be read as one if they touched, or would be cut elsewhere. An
operator takes a point that stands right behind it, and a word an underscore. -/
def needsGapBefore : Lexeme → Lexeme → Bool
  | word _, word _ => true
  | word _, number cs => cs.head?.any Char.isDigit
  | word _, unknown c => c == '_'
  | number _, number _ => true
  | operator _, operator _ => true
  | operator _, number cs => cs.head? == some '.'
  | _, _ => false

end Lexeme

namespace Lexeme

/-- A lexeme that is no comment goes on with the start of another exactly if the table asks for
a gap between them. -/
theorem absorbs_eq_needsGapBefore {l m : Lexeme} {d : Char} {ds : List Char}
    (hl : l.isComment = false) (closed : l.isClosed = true) (hm : m.WellFormed)
    (hd : m.spelling = d :: ds) : l.absorbs d = l.needsGapBefore m := by
  obtain ⟨shape, -, first⟩ := (m.wellFormed_iff hd).mp hm
  cases l with
  | comment body => cases hl
  | literal quote body isClosed =>
      cases closed
      cases m <;> rfl
  | bracket c | punctuation c | unknown c => cases m <;> rfl
  | word cs =>
      cases m with
      | word es =>
          cases hd
          show isWordChar d = true
          have letter : d.isAlpha = true := shape.1
          simp [isWordChar, Char.isAlphanum, letter]
      | number es =>
          cases hd
          have letter : d.isAlpha = false := Rule.isLetter_eq_false first (by simp [rule])
          have under : d ≠ '_' := by
            rintro rfl
            cases first
          simp [absorbs, isWordChar, Char.isAlphanum, letter, under, needsGapBefore]
      | unknown c =>
          cases hd
          have foreign : isForeign d = true := hm.2
          have : d.isAlphanum = false := by simp_all [isForeign]
          simp [absorbs, isWordChar, this, needsGapBefore]
      | comment _ | literal _ _ _ | bracket _ | punctuation _ | operator _ =>
          exact Rule.isWordChar_eq_false first (by simp [rule]) (by simp [rule]) (by simp [rule])
  | number cs =>
      cases m with
      | number es =>
          cases hd
          exact shape.1
      | word _ | comment _ | literal _ _ _ | bracket _ | punctuation _ | operator _
      | unknown _ => exact Rule.isNumeral_eq_false first (by simp [rule])
  | operator cs =>
      have point : m.rule ≠ .number → d ≠ '.' := by
        rintro h rfl
        exact h first.symm
      cases m with
      | operator es =>
          cases hd
          exact shape.1
      | number es =>
          cases hd
          show isOperatorChar d = (some d == some '.')
          by_cases hdot : d = '.'
          · subst hdot
            rfl
          · rw [Rule.isOperatorChar_eq_false first (by simp [rule]) hdot]
            simp [hdot]
      | word _ | comment _ | literal _ _ _ | bracket _ | punctuation _ | unknown _ =>
          exact Rule.isOperatorChar_eq_false first (by simp [rule]) (point (by simp [rule]))

end Lexeme

/-! ## Printing -/

/-- A lexeme and the gap behind it. -/
structure Piece where
  lexeme : Lexeme
  gap : List Char
  deriving DecidableEq

namespace Piece

/-- A lexeme of the grammar, complete, with a gap of blanks. -/
structure Admissible (p : Piece) : Prop where
  wellFormed : p.lexeme.WellFormed
  closed : p.lexeme.isClosed = true
  blank : ∀ c ∈ p.gap, isBlank c = true

instance (p : Piece) : Decidable p.Admissible :=
  decidable_of_iff (p.lexeme.WellFormed ∧ p.lexeme.isClosed = true ∧ p.gap.all isBlank = true)
    ⟨fun ⟨wf, closed, blank⟩ => ⟨wf, closed, List.all_eq_true.mp blank⟩,
      fun h => ⟨h.wellFormed, h.closed, List.all_eq_true.mpr h.blank⟩⟩

/-- The gap of a piece keeps its lexeme apart from the next one, or from the end. A comment goes
on to the end of its line, so its gap starts with the line feed. -/
def KeepsApart (p : Piece) : Option Lexeme → Prop
  | none => p.lexeme.isComment = true → p.gap = [] ∨ p.gap.head? = some '\n'
  | some m =>
    (p.lexeme.isComment = true → p.gap.head? = some '\n') ∧
      (p.lexeme.needsGapBefore m = true → p.gap ≠ [])

instance (p : Piece) : (next : Option Lexeme) → Decidable (p.KeepsApart next)
  | none =>
    inferInstanceAs
      (Decidable (p.lexeme.isComment = true → p.gap = [] ∨ p.gap.head? = some '\n'))
  | some m =>
    inferInstanceAs
      (Decidable ((p.lexeme.isComment = true → p.gap.head? = some '\n') ∧
        (p.lexeme.needsGapBefore m = true → p.gap ≠ [])))

end Piece

/-- Every gap keeps apart what it stands between. -/
def Separated : List Piece → Prop
  | [] => True
  | p :: ps => p.KeepsApart (ps.head?.map Piece.lexeme) ∧ Separated ps

instance decidableSeparated : (ps : List Piece) → Decidable (Separated ps)
  | [] => inferInstanceAs (Decidable True)
  | p :: ps =>
    have := decidableSeparated ps
    inferInstanceAs (Decidable (p.KeepsApart (ps.head?.map Piece.lexeme) ∧ Separated ps))

/-- A gap and pieces, printed. -/
def printed (gap : List Char) (pieces : List Piece) : List Char :=
  gap ++ pieces.flatMap fun p => p.lexeme.spelling ++ p.gap

/-- The tokens of pieces, each where its lexeme is printed: behind everything before it. -/
def printedTokens (gap : List Char) (pieces : List Piece) : List Token :=
  pieces.mapIdx fun i p => p.lexeme.token (byteLength (printed gap (pieces.take i)))

@[simp] theorem printed_nil (gap : List Char) : printed gap [] = gap := by
  simp [printed]

theorem printed_cons (gap : List Char) (p : Piece) (ps : List Piece) :
    printed gap (p :: ps) = gap ++ p.lexeme.spelling ++ printed p.gap ps := by
  simp [printed, List.flatMap_cons]

/-! ## What separation is for -/

/-- A blank ends every lexeme but a comment. -/
theorem Lexeme.absorbs_eq_false_of_isBlank {l : Lexeme} {c : Char} (hl : l.isComment = false)
    (closed : l.isClosed = true) (hc : isBlank c = true) : l.absorbs c = false := by
  obtain ⟨hw, hn, ho⟩ := of_contains (p := fun d =>
    isWordChar d = false ∧ isNumeral d = false ∧ isOperatorChar d = false) hc (by decide)
  cases l with
  | comment body => cases hl
  | literal quote body isClosed => cases closed; rfl
  | word cs => exact hw
  | number cs => exact hn
  | operator cs => exact ho
  | bracket d | punctuation d | unknown d => rfl

/-- What is printed behind a lexeme starts with a blank of the gap or, if the gap is empty, with
the next lexeme. -/
theorem printed_cons_eq (ps : List Piece) {q : Piece} (hq : q.Admissible) :
    ∃ d ds, q.lexeme.spelling = d :: ds ∧ isBlank d = false ∧
      printed [] (q :: ps) = d :: (ds ++ printed q.gap ps) := by
  obtain ⟨d, ds, hd, blank⟩ := hq.wellFormed.spelling_eq_cons
  refine ⟨d, ds, hd, blank, ?_⟩
  rw [printed_cons, hd]
  rfl

theorem comment_endsBefore_iff {body rest : List Char} :
    (Lexeme.comment body).EndsBefore rest ↔ rest = [] ∨ rest.head? = some '\n' := by
  cases rest with
  | nil => simp [Lexeme.EndsBefore]
  | cons c cs => simp [Lexeme.EndsBefore, Lexeme.absorbs]

/-- A lexeme ends before what is printed behind it exactly if its gap keeps it apart. -/
theorem endsBefore_printed_iff {p : Piece} {ps : List Piece} (hp : p.Admissible)
    (hps : ∀ q ∈ ps, q.Admissible) :
    p.lexeme.EndsBefore (printed p.gap ps) ↔ p.KeepsApart (ps.head?.map Piece.lexeme) := by
  by_cases hl : p.lexeme.isComment = true
  · -- a comment asks for a line feed, whatever comes after the gap
    obtain ⟨body, hbody⟩ : ∃ body, p.lexeme = .comment body := by
      cases h : p.lexeme with
      | comment body => exact ⟨body, rfl⟩
      | _ => rw [h] at hl; cases hl
    rw [hbody, comment_endsBefore_iff]
    cases hgap : p.gap with
    | cons c g => cases ps <;> simp [Piece.KeepsApart, printed, hbody, hgap, Lexeme.isComment,
        Lexeme.needsGapBefore]
    | nil =>
        cases ps with
        | nil => simp [Piece.KeepsApart, hgap]
        | cons q qs =>
            -- the next lexeme would become part of the comment
            obtain ⟨d, ds, -, hd, hq⟩ := printed_cons_eq qs (hps q (by simp))
            have feed : d ≠ '\n' := by
              rintro rfl
              cases hd
            simp [Piece.KeepsApart, hq, feed, hl, hgap]
  · -- every other lexeme is ended by a blank, or the table decides
    rw [Bool.not_eq_true] at hl
    cases hgap : p.gap with
    | cons c g =>
        have hc : isBlank c = true := hp.blank c (by simp [hgap])
        have ends : p.lexeme.absorbs c = false :=
          Lexeme.absorbs_eq_false_of_isBlank hl hp.closed hc
        cases ps <;> simp [Piece.KeepsApart, Lexeme.EndsBefore, printed, ends, hl, hgap]
    | nil =>
        cases ps with
        | nil => simp [Piece.KeepsApart, Lexeme.EndsBefore, hl]
        | cons q qs =>
            have hq := hps q (by simp)
            obtain ⟨d, ds, hd, -, hprinted⟩ := printed_cons_eq qs hq
            have absorbs := Lexeme.absorbs_eq_needsGapBefore hl hp.closed hq.wellFormed hd
            simp [Piece.KeepsApart, Lexeme.EndsBefore, hprinted, absorbs, hl, hgap]

/-! ## The reading of what is printed -/

namespace Reading

/-- The reading that finds the pieces as they were printed. -/
def ofPieces (gap : List Char) : List Piece → Reading
  | [] => done gap
  | p :: ps => lexeme gap p.lexeme (ofPieces p.gap ps)

theorem spelling_ofPieces (gap : List Char) (ps : List Piece) :
    (ofPieces gap ps).spelling = printed gap ps := by
  induction ps generalizing gap with
  | nil => rw [ofPieces, spelling, printed_nil]
  | cons p ps ih => rw [ofPieces, spelling, ih, printed_cons]

theorem diagnostics_ofPieces (gap : List Char) (ps : List Piece) (offset : Nat) :
    (ofPieces gap ps).diagnostics offset = [] := by
  induction ps generalizing gap offset with
  | nil => rfl
  | cons p ps ih => exact ih p.gap _

theorem tokens_ofPieces (gap : List Char) (ps : List Piece) (offset : Nat) :
    (ofPieces gap ps).tokens offset =
      ps.mapIdx fun i p => p.lexeme.token (offset + byteLength (printed gap (ps.take i))) := by
  induction ps generalizing gap offset with
  | nil => rfl
  | cons p ps ih =>
      rw [ofPieces, tokens_lexeme, ih, List.mapIdx_cons]
      simp only [List.take_zero, printed_nil, List.take_succ_cons, printed_cons,
        byteLength_append, Nat.add_assoc]

/-- It is normal exactly if the pieces are kept apart. -/
theorem normal_ofPieces_iff (mode : Mode) {gap : List Char} {ps : List Piece}
    (hgap : ∀ c ∈ gap, isBlank c = true) (hps : ∀ p ∈ ps, p.Admissible) :
    (ofPieces gap ps).Normal mode ↔ Separated ps := by
  induction ps generalizing gap with
  | nil => exact iff_of_true hgap trivial
  | cons p ps ih =>
      have hp := hps p (by simp)
      have hrest : ∀ q ∈ ps, q.Admissible := fun q hq => hps q (by simp [hq])
      rw [ofPieces, Normal, Separated, spelling_ofPieces, ih hp.blank hrest,
        endsBefore_printed_iff hp hrest]
      -- what is left of normality holds of all admissible pieces
      constructor
      · rintro ⟨-, -, ends, -, rest⟩
        exact ⟨ends, rest⟩
      · rintro ⟨ends, rest⟩
        exact ⟨hgap, hp.wellFormed, ends, fun _ => hp.closed, rest⟩

/-- A reading that finds the tokens of the pieces where they were printed found the pieces. -/
theorem eq_ofPieces {mode : Mode} {r : Reading} {gap : List Char} {ps : List Piece} {offset : Nat}
    (normal : r.Normal mode) (hps : ∀ p ∈ ps, p.Admissible)
    (hspelling : r.spelling = printed gap ps) (hdiagnostics : r.diagnostics offset = [])
    (htokens : r.tokens offset = (ofPieces gap ps).tokens offset) : r = ofPieces gap ps := by
  induction ps generalizing r gap offset with
  | nil =>
      cases r with
      | done g =>
          rw [printed_nil] at hspelling
          rw [ofPieces, ← hspelling, spelling]
      | lexeme g l next => cases htokens
      | unclosed g quote literal => cases hdiagnostics
      | unmatched g found next => exact absurd normal id
  | cons p ps ih =>
      cases r with
      | done g => cases htokens
      | unclosed g quote literal => cases hdiagnostics
      | unmatched g found next => exact absurd normal id
      | lexeme g l next =>
          -- the first tokens are equal, so the first gaps and slices end at the same places
          obtain ⟨-, wf, -, -, hnext⟩ := normal
          rw [ofPieces, tokens_lexeme, tokens_lexeme] at htokens
          obtain ⟨hfirst, hrest⟩ := List.cons.inj htokens
          have hspan : (⟨offset + byteLength g, byteLength l.spelling⟩ : Span)
              = ⟨offset + byteLength gap, byteLength p.lexeme.spelling⟩ :=
            congrArg Token.span hfirst
          have hgap : byteLength g = byteLength gap := by
            have := congrArg Span.offset hspan
            simp only at this
            omega
          have hsize : byteLength l.spelling = byteLength p.lexeme.spelling :=
            congrArg Span.len hspan
          rw [spelling, printed_cons, List.append_assoc, List.append_assoc] at hspelling
          obtain ⟨rfl, htail⟩ := append_inj_of_byteLength hspelling hgap
          obtain ⟨hl, htail⟩ := append_inj_of_byteLength htail hsize
          have same : l = p.lexeme :=
            Lexeme.spelling_injective wf (hps p (by simp)).wellFormed hl
          rw [same] at hdiagnostics hrest
          rw [ofPieces, same,
            ih hnext (fun q hq => hps q (by simp [hq])) htail hdiagnostics hrest]

end Reading

/-- **Printed lexemes that are kept apart are scanned back.** -/
theorem scan_printed (mode : Mode) (gap : List Char) (pieces : List Piece)
    (hgap : ∀ c ∈ gap, isBlank c = true) (hpieces : ∀ p ∈ pieces, p.Admissible)
    (apart : Separated pieces) :
    scan mode (String.ofList (printed gap pieces)) = .ok (printedTokens gap pieces) := by
  have normal := (Reading.normal_ofPieces_iff mode hgap hpieces).mpr apart
  have hsource : (Reading.ofPieces gap pieces).spelling
      = (String.ofList (printed gap pieces)).toList := by
    rw [Reading.spelling_ofPieces, String.toList_ofList]
  rw [scan_eq_of_normal normal hsource, Reading.diagnostics_ofPieces, Reading.tokens_ofPieces]
  simp only [Nat.zero_add, printedTokens]

/-- **Printing and scanning.** The scan of what is printed gives every lexeme back as a token at
its place, and nothing else, exactly if the lexemes are kept apart. -/
theorem scan_printed_iff (mode : Mode) (gap : List Char) (pieces : List Piece)
    (hgap : ∀ c ∈ gap, isBlank c = true) (hpieces : ∀ p ∈ pieces, p.Admissible) :
    scan mode (String.ofList (printed gap pieces)) = .ok (printedTokens gap pieces) ↔
      Separated pieces := by
  constructor
  · -- the reading behind the scan can only be that of the pieces, and it is normal
    intro h
    obtain ⟨r, normal, hspelling, hdiagnostics, htokens⟩ := scan_eq_ok_iff.mp h
    rw [String.toList_ofList] at hspelling
    have expected : (Reading.ofPieces gap pieces).tokens 0 = printedTokens gap pieces := by
      rw [Reading.tokens_ofPieces]
      simp only [Nat.zero_add, printedTokens]
    have hr := Reading.eq_ofPieces normal hpieces hspelling hdiagnostics
      (htokens.trans expected.symm)
    rw [hr] at normal
    exact (Reading.normal_ofPieces_iff mode hgap hpieces).mp normal
  · exact scan_printed mode gap pieces hgap hpieces

/-- Lexemes that touch where they may: a point that starts a number behind a word, a quote of the
other kind and a `#` in a literal, characters of two bytes. -/
theorem scan_printed_touching :
    scan .strict "\t# 'é\nfn.5+=. .1'#\"'éx _" =
      .ok [⟨.comment, "# 'é", ⟨1, 5⟩⟩, ⟨.keyword, "fn", ⟨7, 2⟩⟩, ⟨.number, ".5", ⟨9, 2⟩⟩,
        ⟨.operator, "+=.", ⟨11, 3⟩⟩, ⟨.number, ".1", ⟨15, 2⟩⟩, ⟨.string, "#\"", ⟨17, 4⟩⟩,
        ⟨.unknown, "é", ⟨21, 2⟩⟩, ⟨.identifier, "x", ⟨23, 1⟩⟩, ⟨.unknown, "_", ⟨25, 1⟩⟩] :=
  (scan_printed_iff .strict ['\t']
    [⟨.comment [' ', '\'', 'é'], ['\n']⟩, ⟨.word ['f', 'n'], []⟩, ⟨.number ['.', '5'], []⟩,
      ⟨.operator ['+', '=', '.'], [' ']⟩, ⟨.number ['.', '1'], []⟩,
      ⟨.literal '\'' ['#', '"'] true, []⟩, ⟨.unknown 'é', []⟩, ⟨.word ['x'], [' ']⟩,
      ⟨.unknown '_', []⟩]
    (List.all_eq_true.mp rfl) (by decide)).mpr (by decide)

end Ixo
