import Ixo.Proofs.Scan.Findings
import Ixo.Proofs.Slice
import Mathlib.Logic.ExistsUnique

/-!
# What tokens stand for

A rule *accounts* for a token if the token has a kind of this rule, its slice of the source has
the form that the rule reads, its text is what the form says, and the character behind the slice
could not have been read too (`Rule.Accounts`). Every token of a scan that succeeds is accounted
for by exactly one rule (`token_accounted`). The kinds of words are told by the two tables.
-/

set_option autoImplicit false

namespace Ixo

/-! ## Accounts of a token -/

/-- The rule that tokens of a kind come from. -/
def Kind.rule : Kind → Rule
  | comment => .comment
  | keyword | typeName | identifier => .word
  | number => .number
  | string => .literal
  | blockStart | blockEnd | delimiter => .bracket
  | punctuation => .punctuation
  | operator => .operator
  | unknown => .unknown

/-- What a rule says of a token with this slice of the source and this character behind it. -/
def Rule.Accounts (mode : Mode) (t : Token) (slice : List Char) (next : Option Char) :
    Rule → Prop
  | comment =>
    t.kind = .comment ∧ t.text.toList = slice ∧ slice.head? = some '#' ∧ '\n' ∉ slice ∧
      ∀ c ∈ next, c = '\n'
  | word =>
    (t.kind = .keyword ∨ t.kind = .typeName ∨ t.kind = .identifier) ∧ t.text.toList = slice ∧
      (∃ c cs, slice = c :: cs ∧ isLetter c = true ∧ ∀ d ∈ cs, isWordChar d = true) ∧
      (∀ c ∈ next, isWordChar c = false) ∧
      (t.kind = .keyword ↔ t.text ∈ keywords) ∧ (t.kind = .typeName ↔ t.text ∈ typeNames) ∧
      (t.kind = .identifier ↔ t.text ∉ keywords ∧ t.text ∉ typeNames)
  | number =>
    t.kind = .number ∧ t.text.toList = slice ∧ slice ≠ [] ∧ (∀ c ∈ slice, isNumeral c = true) ∧
      ∀ c ∈ next, isNumeral c = false
  | literal =>
    t.kind = .string ∧ ∃ quote, isQuote quote = true ∧ quote ∉ t.text.toList ∧
      (slice = quote :: (t.text.toList ++ [quote]) ∨
        mode = .lenient ∧ slice = quote :: t.text.toList ∧ next = none)
  | bracket =>
    t.text.toList = slice ∧
      (t.kind = .blockStart ∧ slice = ['\x7b'] ∨ t.kind = .blockEnd ∧ slice = ['\x7d'] ∨
        t.kind = .delimiter ∧ ∃ c ∈ ['(', ')', '[', ']'], slice = [c])
  | punctuation =>
    t.kind = .punctuation ∧ t.text.toList = slice ∧ ∃ c ∈ [':', ',', ';'], slice = [c]
  | operator =>
    t.kind = .operator ∧ t.text.toList = slice ∧ slice ≠ [] ∧
      (∀ c ∈ slice, isOperatorChar c = true) ∧ slice.head? ≠ some '.' ∧
      ∀ c ∈ next, isOperatorChar c = false
  | unknown =>
    t.kind = .unknown ∧ t.text.toList = slice ∧ ∃ c, slice = [c] ∧ isBlank c = false ∧
      ∀ r : Rule, r ≠ .unknown → r.starts c = false

/-- The kind of a token tells which rule accounts for it. -/
theorem Rule.Accounts.rule_eq {mode : Mode} {t : Token} {slice : List Char} {next : Option Char}
    {r : Rule} (h : r.Accounts mode t slice next) : t.kind.rule = r := by
  cases r with
  | word => rcases h.1 with hk | hk | hk <;> rw [hk] <;> rfl
  | bracket => rcases h.2 with ⟨hk, -⟩ | ⟨hk, -⟩ | ⟨hk, -⟩ <;> rw [hk] <;> rfl
  | comment | number | literal | punctuation | operator | unknown => rw [h.1]; rfl

/-- A character of no class starts no lexeme of a known form. -/
theorem Rule.starts_eq_false_of_isForeign {c : Char} (h : isForeign c = true) {r : Rule}
    (hr : r ≠ .unknown) : r.starts c = false := by
  have point : c ≠ '.' := by
    rintro rfl
    cases h
  cases r <;> simp_all [isForeign, starts, isLetter, isNumeral, Char.isAlphanum]

namespace Lexeme

variable {mode : Mode} {l : Lexeme} {after : List Char}

/-- The rule of a lexeme accounts for its token. -/
theorem accounts_token (wf : l.WellFormed) (ends : l.EndsBefore after)
    (closed : mode = .strict → l.isClosed = true) (offset : Nat) :
    l.rule.Accounts mode (l.token offset) l.spelling after.head? := by
  have text : (l.token offset).text.toList = l.text := String.toList_ofList
  cases l with
  | comment body =>
      refine ⟨rfl, text, rfl, ?_, ?_⟩
      · intro hn
        rcases List.mem_cons.mp hn with hn | hn
        · cases hn
        · exact wf.1 hn
      · intro c hc
        simpa [absorbs] using ends c hc
  | word cs =>
      cases cs with
      | nil => exact absurd wf.1 id
      | cons c cs =>
          exact ⟨Kind.ofWord_cases _, text, ⟨c, cs, rfl, wf.1⟩, ends,
            Kind.ofWord_eq_keyword_iff, Kind.ofWord_eq_typeName_iff,
            Kind.ofWord_eq_identifier_iff⟩
  | number cs =>
      cases cs with
      | nil => exact absurd wf.1 id
      | cons c cs =>
          exact ⟨rfl, text, List.cons_ne_nil c cs, List.forall_mem_cons.mpr wf.1, ends⟩
  | operator cs =>
      cases cs with
      | nil => exact absurd wf.1 id
      | cons c cs =>
          refine ⟨rfl, text, List.cons_ne_nil c cs, List.forall_mem_cons.mpr wf.1, ?_, ends⟩
          simpa [isLeft, spelling] using wf.2
  | literal quote body isClosed =>
      refine ⟨rfl, quote, wf.1.1, ?_, ?_⟩
      · rw [text]
        exact wf.1.2
      · rw [text]
        cases isClosed with
        | true => exact Or.inl rfl
        | false =>
            right
            refine ⟨?_, by simp [spelling, Lexeme.text], ?_⟩
            · cases mode with
              | lenient => rfl
              | strict => cases closed rfl
            · cases after with
              | nil => rfl
              | cons c cs => cases stops_cons.mp ends
  | bracket c =>
      have kinds := of_contains (p := fun d =>
        (bracket d).kind = .blockStart ∧ d = '\x7b' ∨ (bracket d).kind = .blockEnd ∧ d = '\x7d' ∨
          (bracket d).kind = .delimiter ∧ d ∈ ['(', ')', '[', ']']) wf.1 (by decide)
      refine ⟨text, ?_⟩
      rcases kinds with ⟨hk, rfl⟩ | ⟨hk, rfl⟩ | ⟨hk, hc⟩
      · exact Or.inl ⟨hk, rfl⟩
      · exact Or.inr (Or.inl ⟨hk, rfl⟩)
      · exact Or.inr (Or.inr ⟨hk, c, hc, rfl⟩)
  | punctuation c => exact ⟨rfl, text, c, List.contains_iff_mem.mp wf.1, rfl⟩
  | unknown c =>
      have foreign : isForeign c = true := wf.2
      exact ⟨rfl, text, c, rfl, (Rule.claiming_foreign.mp foreign).1,
        fun r hr => Rule.starts_eq_false_of_isForeign foreign hr⟩

end Lexeme

/-- **Every token is accounted for by exactly one rule.** The token's span cuts the source, and
the rule speaks of the slice and of the character behind it. -/
theorem token_accounted {mode : Mode} {source : String} {tokens : List Token} {t : Token}
    (h : scan mode source = .ok tokens) (ht : t ∈ tokens) :
    ∃ before slice after, t.span.Cuts source.toList before slice after ∧
      source.toByteArray.extract t.span.offset (t.span.offset + t.span.len) =
        (String.ofList slice).toByteArray ∧
      ∃! r : Rule, r.Accounts mode t slice after.head? := by
  obtain ⟨r, normal, hsource, -, rfl⟩ := scan_eq_ok_iff.mp h
  obtain ⟨before, l, after, hl, rfl, wf, ends, closed⟩ :=
    Reading.exists_lexeme_of_mem_tokens normal ht
  have cuts : (l.token (0 + byteLength before)).span.Cuts source.toList before l.spelling after :=
    ⟨hl.trans hsource, (Nat.zero_add _).symm, rfl⟩
  have bytes := cuts.bytes_eq
  rw [String.ofList_toList] at bytes
  refine ⟨before, l.spelling, after, cuts, bytes, l.rule, ?_, ?_⟩
  · exact Lexeme.accounts_token wf ends closed _
  · intro r hr
    exact hr.rule_eq.symm.trans (Lexeme.accounts_token wf ends closed _).rule_eq

/-- The open literal at the end of a source is accounted for, and by the rule for literals only. -/
theorem token_accounted_open_literal :
    scan .lenient "in.5='é" =
        .ok [⟨.keyword, "in", ⟨0, 2⟩⟩, ⟨.number, ".5", ⟨2, 2⟩⟩, ⟨.operator, "=", ⟨4, 1⟩⟩,
          ⟨.string, "é", ⟨5, 3⟩⟩] ∧
      ∃ before slice after, (⟨5, 3⟩ : Span).Cuts "in.5='é".toList before slice after ∧
        "in.5='é".toByteArray.extract 5 8 = (String.ofList slice).toByteArray ∧
        ∃! r : Rule, r.Accounts .lenient ⟨.string, "é", ⟨5, 3⟩⟩ slice after.head? := by
  have normal : Reading.Normal .lenient
      (.lexeme [] (.word ['i', 'n']) (.lexeme [] (.number ['.', '5'])
        (.lexeme [] (.operator ['=']) (.lexeme [] (.literal '\'' ['é'] false) (.done []))))) := by
    decide
  have h : scan .lenient "in.5='é" =
      .ok [⟨.keyword, "in", ⟨0, 2⟩⟩, ⟨.number, ".5", ⟨2, 2⟩⟩, ⟨.operator, "=", ⟨4, 1⟩⟩,
        ⟨.string, "é", ⟨5, 3⟩⟩] :=
    scan_eq_of_normal normal rfl
  exact ⟨h, token_accounted (t := ⟨.string, "é", ⟨5, 3⟩⟩) h (by simp)⟩

end Ixo
