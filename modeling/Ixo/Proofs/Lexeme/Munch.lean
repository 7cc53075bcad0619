import Ixo.Proofs.Lexeme.Form

/-!
# What the rules read

One statement for each way of reading says exactly when it reads what
(`readRun_eq_read_iff`, `readOne_eq_read_iff`, `readLiteral_eq_read_iff`). They make the
statement for a single rule, `Rule.read_eq_read_iff`, and that for the rules in order:

    readFirst mode inOrder input = .read l rest  ↔
      l.spelling ++ rest = input, l is well formed, l ends before rest, l is closed if need be

for every text that does not start with a blank (`Rule.readFirst_eq_read_iff`). The rules in
order read every text that is not empty, or find a literal open (`Rule.readFirst_ne_pass`,
`Rule.readFirst_eq_unclosed_iff`).
-/

set_option autoImplicit false

namespace Ixo

/-! ## The ways of reading -/

theorem stops_dropWhile (goesOn : Char → Bool) (cs : List Char) :
    Stops goesOn (cs.dropWhile goesOn) := by
  intro c hc
  have := List.head?_dropWhile_not goesOn cs
  rw [Option.mem_def.mp hc] at this
  simpa using this

/-- A run is taken whole in front of a text at which it stops. -/
theorem takeWhile_append_of_stops {goesOn : Char → Bool} {body rest : List Char}
    (inside : ∀ c ∈ body, goesOn c = true) (stop : Stops goesOn rest) :
    (body ++ rest).takeWhile goesOn = body := by
  rw [List.takeWhile_append_of_pos inside]
  cases rest with
  | nil => simp
  | cons c cs => simp [stops_cons.mp stop]

theorem dropWhile_append_of_stops {goesOn : Char → Bool} {body rest : List Char}
    (inside : ∀ c ∈ body, goesOn c = true) (stop : Stops goesOn rest) :
    (body ++ rest).dropWhile goesOn = rest := by
  rw [List.dropWhile_append_of_pos inside]
  cases rest with
  | nil => rfl
  | cons c cs => simp [stops_cons.mp stop]

/-- A run that nothing follows is taken whole. -/
theorem takeWhile_eq_self {goesOn : Char → Bool} {body : List Char}
    (inside : ∀ c ∈ body, goesOn c = true) : body.takeWhile goesOn = body := by
  have := takeWhile_append_of_stops inside (stops_nil goesOn)
  rwa [List.append_nil] at this

theorem dropWhile_eq_nil {goesOn : Char → Bool} {body : List Char}
    (inside : ∀ c ∈ body, goesOn c = true) : body.dropWhile goesOn = [] := by
  have := dropWhile_append_of_stops inside (stops_nil goesOn)
  rwa [List.append_nil] at this

theorem forall_bne_iff {d : Char} {cs : List Char} : (∀ c ∈ cs, (c != d) = true) ↔ d ∉ cs := by
  constructor
  · intro h hd
    simpa using h d hd
  · intro h c hc
    rw [bne_iff_ne]
    rintro rfl
    exact h hc

theorem readRun_eq_read_iff {starts goesOn : Char → Bool} {lexeme : Char → List Char → Lexeme}
    {input rest : List Char} {l : Lexeme} :
    readRun starts goesOn lexeme input = .read l rest ↔
      ∃ c body, input = c :: (body ++ rest) ∧ l = lexeme c body ∧ starts c = true ∧
        (∀ d ∈ body, goesOn d = true) ∧ Stops goesOn rest := by
  constructor
  · intro h
    cases input with
    | nil => cases h
    | cons c cs =>
        rw [readRun] at h
        split at h
        · next hc =>
          cases h
          refine ⟨c, cs.takeWhile goesOn, ?_, rfl, hc, ?_, stops_dropWhile goesOn cs⟩
          · rw [List.takeWhile_append_dropWhile]
          · exact List.all_eq_true.mp List.all_takeWhile
        · cases h
  · rintro ⟨c, body, rfl, rfl, hc, inside, stop⟩
    rw [readRun, if_pos hc, takeWhile_append_of_stops inside stop,
      dropWhile_append_of_stops inside stop]

theorem readOne_eq_read_iff {holds : Char → Bool} {lexeme : Char → Lexeme}
    {input rest : List Char} {l : Lexeme} :
    readOne holds lexeme input = .read l rest ↔
      ∃ c, input = c :: rest ∧ l = lexeme c ∧ holds c = true := by
  constructor
  · intro h
    cases input with
    | nil => cases h
    | cons c cs =>
        rw [readOne] at h
        split at h
        · next hc =>
          cases h
          exact ⟨c, rfl, rfl, hc⟩
        · cases h
  · rintro ⟨c, rfl, rfl, hc⟩
    rw [readOne, if_pos hc]

/-- The body of a literal ends at its quote. -/
theorem readLiteral_closed (mode : Mode) {quote : Char} {body : List Char} (rest : List Char)
    (hq : isQuote quote = true) (hbody : quote ∉ body) :
    readLiteral mode (quote :: (body ++ quote :: rest)) = .read (.literal quote body true) rest := by
  have inside : ∀ c ∈ body, (c != quote) = true := forall_bne_iff.mpr hbody
  have stop : Stops (· != quote) (quote :: rest) := by simp
  simp only [readLiteral, hq, if_true, takeWhile_append_of_stops inside stop,
    dropWhile_append_of_stops inside stop]

/-- Where the quote does not come again, the mode decides. -/
theorem readLiteral_open (mode : Mode) {quote : Char} {body : List Char}
    (hq : isQuote quote = true) (hbody : quote ∉ body) :
    readLiteral mode (quote :: body) =
      match mode with
      | .lenient => .read (.literal quote body false) []
      | .strict => .unclosed quote := by
  have inside : ∀ c ∈ body, (c != quote) = true := forall_bne_iff.mpr hbody
  simp only [readLiteral, hq, if_true, takeWhile_eq_self inside, dropWhile_eq_nil inside]
  cases mode <;> rfl

/-- A quote comes again in a text, after a part without it, or it does not. -/
theorem split_at_quote (quote : Char) (cs : List Char) :
    quote ∉ cs ∨ ∃ body rest, cs = body ++ quote :: rest ∧ quote ∉ body := by
  by_cases h : quote ∈ cs
  · obtain ⟨body, rest, hcs, hbody⟩ := List.eq_append_cons_of_mem h
    exact Or.inr ⟨body, rest, hcs, hbody⟩
  · exact Or.inl h

theorem readLiteral_eq_read_iff {mode : Mode} {input rest : List Char} {l : Lexeme} :
    readLiteral mode input = .read l rest ↔
      ∃ quote body closed, isQuote quote = true ∧ quote ∉ body ∧
        l = .literal quote body closed ∧ input = l.spelling ++ rest ∧
        (closed = false → rest = [] ∧ mode = .lenient) := by
  constructor
  · intro h
    cases input with
    | nil => cases h
    | cons quote cs =>
        by_cases hq : isQuote quote = true
        · rcases split_at_quote quote cs with hcs | ⟨body, rest', rfl, hbody⟩
          · rw [readLiteral_open mode hq hcs] at h
            cases mode with
            | lenient =>
                cases h
                exact ⟨quote, cs, false, hq, hcs, rfl, by simp [Lexeme.spelling], by simp⟩
            | strict => cases h
          · rw [readLiteral_closed mode _ hq hbody] at h
            cases h
            exact ⟨quote, body, true, hq, hbody, rfl, by simp [Lexeme.spelling], by simp⟩
        · rw [readLiteral, if_neg hq] at h
          cases h
  · rintro ⟨quote, body, closed, hq, hbody, rfl, rfl, hopen⟩
    cases closed with
    | true =>
        have := readLiteral_closed mode rest hq hbody
        simpa [Lexeme.spelling] using this
    | false =>
        obtain ⟨rfl, rfl⟩ := hopen rfl
        have := readLiteral_open .lenient hq hbody
        simpa [Lexeme.spelling] using this

theorem readLiteral_eq_unclosed_iff {mode : Mode} {input : List Char} {quote : Char} :
    readLiteral mode input = .unclosed quote ↔
      mode = .strict ∧ isQuote quote = true ∧ ∃ body, input = quote :: body ∧ quote ∉ body := by
  constructor
  · intro h
    cases input with
    | nil => cases h
    | cons q cs =>
        by_cases hq : isQuote q = true
        · rcases split_at_quote q cs with hcs | ⟨body, rest, rfl, hbody⟩
          · rw [readLiteral_open mode hq hcs] at h
            cases mode with
            | lenient => cases h
            | strict =>
                cases h
                exact ⟨rfl, hq, cs, rfl, hcs⟩
          · rw [readLiteral_closed mode _ hq hbody] at h
            cases h
        · rw [readLiteral, if_neg hq] at h
          cases h
  · rintro ⟨rfl, hq, body, rfl, hbody⟩
    rw [readLiteral_open .strict hq hbody]

/-! ## A single rule -/

namespace Rule

/-- A rule reads exactly the lexemes of its shape, as long as they can be. -/
theorem read_eq_read_iff {mode : Mode} {r : Rule} {input rest : List Char} {l : Lexeme} :
    r.read mode input = .read l rest ↔
      l.rule = r ∧ l.HasShape ∧ l.spelling ++ rest = input ∧ l.EndsBefore rest ∧
        (mode = .strict → l.isClosed = true) := by
  constructor
  · intro h
    cases r <;> rw [read] at h
    case comment =>
      obtain ⟨c, body, rfl, rfl, hc, inside, stop⟩ := readRun_eq_read_iff.mp h
      refine ⟨rfl, forall_bne_iff.mp inside, ?_, stop, fun _ => rfl⟩
      rw [eq_of_beq hc]
      rfl
    case word | number | operator =>
      obtain ⟨c, body, rfl, rfl, hc, inside, stop⟩ := readRun_eq_read_iff.mp h
      exact ⟨rfl, ⟨hc, inside⟩, rfl, stop, fun _ => rfl⟩
    case literal =>
      obtain ⟨quote, body, closed, hq, hbody, rfl, rfl, hopen⟩ := readLiteral_eq_read_iff.mp h
      refine ⟨rfl, ⟨hq, hbody⟩, rfl, ?_, ?_⟩
      · intro c hc
        cases closed with
        | true => rfl
        | false => rw [(hopen rfl).1] at hc; cases hc
      · intro hm
        cases closed with
        | true => rfl
        | false => rw [(hopen rfl).2] at hm; cases hm
    case bracket | punctuation =>
      obtain ⟨c, rfl, rfl, hc⟩ := readOne_eq_read_iff.mp h
      exact ⟨rfl, hc, rfl, fun _ _ => rfl, fun _ => rfl⟩
    case unknown =>
      obtain ⟨c, rfl, rfl, -⟩ := readOne_eq_read_iff.mp h
      exact ⟨rfl, trivial, rfl, fun _ _ => rfl, fun _ => rfl⟩
  · rintro ⟨rfl, shape, rfl, ends, closed⟩
    cases l with
    | comment body =>
        rw [Lexeme.rule, read, readRun_eq_read_iff]
        exact ⟨'#', body, rfl, rfl, rfl, forall_bne_iff.mpr shape, ends⟩
    | word cs | number cs | operator cs =>
        cases cs with
        | nil => exact absurd shape id
        | cons c cs =>
            rw [Lexeme.rule, read, readRun_eq_read_iff]
            exact ⟨c, cs, rfl, rfl, shape.1, shape.2, ends⟩
    | literal quote body isClosed =>
        rw [Lexeme.rule, read, readLiteral_eq_read_iff]
        refine ⟨quote, body, isClosed, shape.1, shape.2, rfl, rfl, ?_⟩
        rintro rfl
        constructor
        · -- an open literal goes on with every character, so nothing follows it
          cases rest with
          | nil => rfl
          | cons c cs => cases stops_cons.mp ends
        · cases mode with
          | lenient => rfl
          | strict => cases closed rfl
    | bracket c | punctuation c =>
        rw [Lexeme.rule, read, readOne_eq_read_iff]
        exact ⟨c, rfl, rfl, shape⟩
    | unknown c =>
        rw [Lexeme.rule, read, readOne_eq_read_iff]
        exact ⟨c, rfl, rfl, rfl⟩

/-- Only the rule for literals finds a literal open. -/
theorem read_eq_unclosed_iff {mode : Mode} {r : Rule} {input : List Char} {quote : Char} :
    r.read mode input = .unclosed quote ↔
      r = literal ∧ mode = .strict ∧ isQuote quote = true ∧
        ∃ body, input = quote :: body ∧ quote ∉ body := by
  cases r
  case literal => rw [read, readLiteral_eq_unclosed_iff]; simp
  case comment | word | number | operator =>
    rw [read]
    cases input with
    | nil => simp [readRun]
    | cons c cs => rw [readRun]; split <;> simp
  case bracket | punctuation | unknown =>
    rw [read]
    cases input with
    | nil => simp [readOne]
    | cons c cs => rw [readOne]; split <;> simp

/-- A rule passes exactly where it does not start. -/
theorem read_cons_eq_pass_iff {mode : Mode} {r : Rule} {c : Char} {cs : List Char} :
    r.read mode (c :: cs) = .pass ↔ r.starts c = false := by
  cases r
  case literal =>
    rw [read, starts]
    by_cases hq : isQuote c = true
    · rcases split_at_quote c cs with hcs | ⟨body, rest, rfl, hbody⟩
      · rw [readLiteral_open mode hq hcs]
        cases mode <;> simp [hq]
      · rw [readLiteral_closed mode _ hq hbody]
        simp [hq]
    · simp [readLiteral, hq]
  case comment | word | number | operator =>
    rw [read, readRun]
    split <;> simp_all [starts]
  case bracket | punctuation | unknown =>
    rw [read, readOne]
    split <;> simp_all [starts]

/-! ## The rules in order -/

/-- The first rule that does not pass is the first that starts with the first character. -/
theorem readFirst_cons (mode : Mode) (rules : List Rule) (c : Char) (cs : List Char) :
    readFirst mode rules (c :: cs) =
      ((rules.find? (·.starts c)).map (·.read mode (c :: cs))).getD .pass := by
  induction rules with
  | nil => rfl
  | cons r rs ih =>
      rw [readFirst, List.find?_cons]
      cases hr : r.starts c with
      | false => rw [read_cons_eq_pass_iff.mpr hr, ih]
      | true =>
          split
          · next h => rw [read_cons_eq_pass_iff.mp h] at hr; cases hr
          · rfl

theorem readFirst_inOrder_cons (mode : Mode) (c : Char) (cs : List Char) :
    readFirst mode inOrder (c :: cs) = (claiming c).read mode (c :: cs) := by
  rw [readFirst_cons, find?_inOrder]
  rfl

/-- **What the rules in order read.** -/
theorem readFirst_eq_read_iff {mode : Mode} {input rest : List Char} {l : Lexeme}
    (hinput : Stops isBlank input) :
    readFirst mode inOrder input = .read l rest ↔
      l.spelling ++ rest = input ∧ l.WellFormed ∧ l.EndsBefore rest ∧
        (mode = .strict → l.isClosed = true) := by
  cases input with
  | nil =>
      constructor
      · intro h
        cases h
      · rintro ⟨hl, wf, -, -⟩
        obtain ⟨c, cs, hc⟩ := l.spelling_eq_cons wf.1
        rw [hc] at hl
        cases hl
  | cons c cs =>
      rw [readFirst_inOrder_cons, read_eq_read_iff]
      -- the lexeme starts where the text starts, which decides on its rule
      have first (shape : l.HasShape) (hl : l.spelling ++ rest = c :: cs) :
          ∃ ds, l.spelling = c :: ds := by
        obtain ⟨d, ds, hd⟩ := l.spelling_eq_cons shape
        rw [hd] at hl
        obtain ⟨rfl, -⟩ := List.cons.inj hl
        exact ⟨ds, hd⟩
      constructor
      · rintro ⟨rule, shape, hl, ends, closed⟩
        obtain ⟨ds, hd⟩ := first shape hl
        have wf := (l.wellFormed_iff hd).mpr ⟨shape, stops_cons.mp hinput, rule.symm⟩
        exact ⟨hl, wf, ends, closed⟩
      · rintro ⟨hl, wf, ends, closed⟩
        obtain ⟨ds, hd⟩ := first wf.1 hl
        obtain ⟨shape, -, rule⟩ := (l.wellFormed_iff hd).mp wf
        exact ⟨rule.symm, shape, hl, ends, closed⟩

/-- Something stands at the start of every text that is not empty. -/
theorem readFirst_ne_pass (mode : Mode) (c : Char) (cs : List Char) :
    readFirst mode inOrder (c :: cs) ≠ .pass := by
  rw [readFirst_inOrder_cons]
  intro h
  have hc : (claiming c).starts c = true :=
    List.find?_some (p := fun r => starts r c) (find?_inOrder c)
  rw [read_cons_eq_pass_iff.mp h] at hc
  cases hc

/-- A literal is open where a strict reading finds a quote that does not come again. -/
theorem readFirst_eq_unclosed_iff {mode : Mode} {input : List Char} {quote : Char} :
    readFirst mode inOrder input = .unclosed quote ↔
      mode = .strict ∧ isQuote quote = true ∧ ∃ body, input = quote :: body ∧ quote ∉ body := by
  cases input with
  | nil =>
      constructor
      · intro h
        cases h
      · rintro ⟨-, -, body, h, -⟩
        cases h
  | cons c cs =>
      rw [readFirst_inOrder_cons, read_eq_unclosed_iff]
      constructor
      · rintro ⟨-, h⟩
        exact h
      · rintro ⟨strict, hq, body, hcs, hbody⟩
        obtain ⟨rfl, rfl⟩ := List.cons.inj hcs
        exact ⟨(claiming_quote hq).2, strict, hq, cs, rfl, hbody⟩

end Rule

/-! ## Lexemes at the start of a text -/

/-- A lexeme stands at the start of every text that starts with no blank. -/
theorem exists_lexeme_of_not_isBlank {c : Char} (cs : List Char) (hc : isBlank c = false) :
    ∃ (l : Lexeme) (rest : List Char),
      l.spelling ++ rest = c :: cs ∧ l.WellFormed ∧ l.EndsBefore rest := by
  have stop : Stops isBlank (c :: cs) := stops_cons.mpr hc
  cases hread : Rule.readFirst .lenient Rule.inOrder (c :: cs) with
  | pass => exact absurd hread (Rule.readFirst_ne_pass .lenient c cs)
  | unclosed quote =>
      obtain ⟨strict, -⟩ := Rule.readFirst_eq_unclosed_iff.mp hread
      cases strict
  | read l rest =>
      obtain ⟨hl, wf, ends, -⟩ := (Rule.readFirst_eq_read_iff stop).mp hread
      exact ⟨l, rest, hl, wf, ends⟩

namespace Lexeme

variable {l m : Lexeme} {rest rest' : List Char}

/-- A text starts with one lexeme only that ends where it should. -/
theorem append_inj_of_endsBefore (hl : l.WellFormed) (hm : m.WellFormed)
    (lends : l.EndsBefore rest) (mends : m.EndsBefore rest')
    (h : l.spelling ++ rest = m.spelling ++ rest') : l = m ∧ rest = rest' := by
  -- both are what a lenient reading of the text finds first
  have read {k : Lexeme} {tail : List Char} (wf : k.WellFormed) (ends : k.EndsBefore tail) :
      Rule.readFirst .lenient Rule.inOrder (k.spelling ++ tail) = .read k tail := by
    obtain ⟨c, cs, hc, blank⟩ := wf.spelling_eq_cons
    have stop : Stops isBlank (k.spelling ++ tail) := by
      rw [hc]
      exact stops_cons.mpr blank
    exact (Rule.readFirst_eq_read_iff stop).mpr ⟨rfl, wf, ends, by simp⟩
  have := (read hl lends).symm.trans (h ▸ read hm mends)
  exact Attempt.read.inj this

/-- What a well-formed lexeme is can be told from its spelling. -/
theorem spelling_injective (hl : l.WellFormed) (hm : m.WellFormed) (h : l.spelling = m.spelling) :
    l = m :=
  (append_inj_of_endsBefore hl hm (stops_nil _) (stops_nil _) (by rw [h])).1

/-- **Maximal munch.** Of the lexemes that a text starts with, one that ends where it should is
the longest. -/
theorem spelling_prefix_of_endsBefore (hl : l.WellFormed) (hm : m.WellFormed)
    (mends : m.EndsBefore rest') (h : l.spelling ++ rest = m.spelling ++ rest') :
    l.spelling <+: m.spelling := by
  rcases List.append_eq_append_iff.mp h with ⟨more, hmore, -⟩ | ⟨more, hmore, hrest⟩
  · exact ⟨more, hmore.symm⟩
  · -- a longer lexeme would start with the other one, which ends before what is left of it
    rw [hrest] at mends
    have short : m.EndsBefore more := (stops_append_iff.mp mends).1
    have whole : l.spelling ++ [] = m.spelling ++ more := by rw [List.append_nil, hmore]
    obtain ⟨rfl, -⟩ := append_inj_of_endsBefore hl hm (stops_nil _) short whole
    exact List.prefix_refl _

end Lexeme

end Ixo
