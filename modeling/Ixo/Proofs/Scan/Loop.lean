import Ixo.Log.Event
import Ixo.Proofs.Scan.Findings
import Ixo.Proofs.Slice

/-!
# The loop of a scan

A scan told turn by turn. A turn of the loop skips the blanks, and if something is left, the rules
try to read it. What they read is logged and kept, provided that the loop has moved on in the
source. Where they read nothing, one character is skipped, and an open literal takes all that is
left. The loop counts from the end of the source: where it stands is the length of the source less
the length of what is left. For what should be there and is not, it has something to fall back on.

A reading is such a loop from its start to its end, whatever the rules are
(`Loop.exists_endsAfter`). With the rules in order every turn leaves less to read, no character is
skipped for want of a rule, and nothing is fallen back on (`loop_advances`).
-/

set_option autoImplicit false

namespace Ixo

/-- What stands in for a part of the source that is missing. -/
structure Fallback where
  /-- The character that no rule read. -/
  found : Char
  /-- The text from the start of an open literal on. -/
  remainder : List Char
  /-- The first character of an open literal. -/
  quote : Char

/-- A loop over a source. -/
structure Loop where
  mode : Mode
  rules : List Rule
  source : List Char
  fallback : Fallback

namespace Loop

/-- What a loop has in hand between two turns. -/
structure State where
  /-- What is left of the source. -/
  rest : List Char
  tokens : List Token
  faults : List Diagnostic
  /-- What has been logged. -/
  events : List Log.Event

/-- What a turn comes to. -/
inductive Turn where
  /-- Only blanks were left, and the loop ends. -/
  | ends
  | token (next : State)
  | unclosed (next : State)
  /-- No rule read anything, or what was read is empty. -/
  | unmatched (next : State)

/-- The state with which the loop goes on. -/
def Turn.next? : Turn → Option State
  | ends => none
  | token s | unclosed s | unmatched s => some s

/-- Logs a token and keeps it. -/
def State.keep (s : State) (t : Token) (rest : List Char) : State :=
  ⟨rest, s.tokens ++ [t], s.faults, s.events ++ [.token t]⟩

/-- All of a text. This is there even if the text is empty. -/
def remainder? (input : List Char) : Option (List Char) := some input

section

variable (p : Loop)

/-- Where a rest of the source starts. -/
def position (rest : List Char) : Nat := byteLength p.source - byteLength rest

/-- Skips a character that no rule reads. -/
def skip (input : List Char) (s : State) : State :=
  let found := input.head?.getD p.fallback.found
  let fault := (Fault.unmatched found).diagnostic ⟨p.position input, found.utf8Size⟩
  ⟨input.tail, s.tokens, s.faults ++ [fault], s.events⟩

/-- Takes all that is left for an open literal. -/
def refuse (input : List Char) (s : State) : State :=
  let remainder := (remainder? input).getD p.fallback.remainder
  let quote := remainder.head?.getD p.fallback.quote
  let fault :=
    (Fault.unterminatedLiteral quote).diagnostic ⟨p.position input, byteLength remainder⟩
  ⟨[], s.tokens, s.faults ++ [fault], s.events⟩

/-- A turn of the loop. -/
def turn (s : State) : Turn :=
  let input := s.rest.dropWhile isBlank
  if input.isEmpty then .ends
  else
    match Rule.readFirst p.mode p.rules input with
    | .read l rest =>
      -- a token that takes nothing would keep the loop where it is
      if p.position input < p.position rest then .token (s.keep (l.token (p.position input)) rest)
      else .unmatched (p.skip input s)
    | .pass => .unmatched (p.skip input s)
    | .unclosed _ => .unclosed (p.refuse input s)

/-- The state after a number of turns, all of which go on. -/
def after : Nat → State → Option State
  | 0, s => some s
  | n + 1, s => (p.turn s).next?.bind (after n)

/-- The state in which the loop starts. -/
def start : State := ⟨p.source, [], [], []⟩

/-- The loop ends in a state after a number of turns, the last of which ends it. -/
def EndsAfter (turns : Nat) (t : State) : Prop :=
  ∃ n, turns = n + 1 ∧ p.after n p.start = some t ∧ p.turn t = .ends

end

/-- All that has been logged when the loop has ended in a state. -/
def State.log (s : State) : List Log.Event :=
  s.events ++ [.finished s.tokens.length s.faults.length]

/-- The tokens if there are no faults, and otherwise the faults. -/
def State.outcome (s : State) : Except (List Diagnostic) (List Token) :=
  if s.faults.isEmpty then .ok s.tokens else .error s.faults

/-- The loop of a scan. -/
def ofSource (mode : Mode) (source : String) (fallback : Fallback) : Loop :=
  ⟨mode, Rule.inOrder, source.toList, fallback⟩

/-! ## A turn -/

variable {p : Loop} {s t : State}

theorem position_eq {before rest : List Char} (h : before ++ rest = p.source) :
    p.position rest = byteLength before := by
  rw [position, ← h, byteLength_append]
  omega

/-- What a list of rules reads is not empty. -/
theorem byteLength_lt_of_readFirst {mode : Mode} {rules : List Rule} {input rest : List Char}
    {l : Lexeme} (h : Rule.readFirst mode rules input = .read l rest) :
    byteLength rest < byteLength input := by
  have whole := Rule.spelling_append_of_readFirst h
  have shorter := Rule.length_lt_of_readFirst h
  have filled : l.spelling ≠ [] := by
    intro empty
    rw [← whole, empty] at shorter
    exact Nat.lt_irrefl _ shorter
  have := byteLength_pos_iff.mpr filled
  rw [← whole, byteLength_append]
  omega

/-- The quote of an open literal is the first character of the text, whatever the rules are. -/
theorem head?_of_readFirst {mode : Mode} {rules : List Rule} {input : List Char} {quote : Char}
    (h : Rule.readFirst mode rules input = .unclosed quote) : input.head? = some quote := by
  induction rules with
  | nil => cases h
  | cons r rs ih =>
      rw [Rule.readFirst] at h
      split at h
      · exact ih h
      · obtain ⟨-, -, -, body, rfl, -⟩ := Rule.read_eq_unclosed_iff.mp h
        rfl

theorem turn_of_blank (hdrop : s.rest.dropWhile isBlank = []) : p.turn s = .ends := by
  simp only [turn, hdrop, List.isEmpty_nil, if_true]

/-- **A turn behind a gap.** What the rules make of the text behind the gap decides, and nothing is
fallen back on: what they read is longer than nothing, and the text has a first character. -/
theorem turn_of_cons {before cs : List Char} {c : Char} (hsource : before ++ s.rest = p.source)
    (hdrop : s.rest.dropWhile isBlank = c :: cs) :
    let start := byteLength before + byteLength (s.rest.takeWhile isBlank)
    p.turn s =
      match Rule.readFirst p.mode p.rules (c :: cs) with
      | .read l rest => .token (s.keep (l.token start) rest)
      | .unclosed quote => .unclosed ⟨[], s.tokens, s.faults ++
          [(Fault.unterminatedLiteral quote).diagnostic ⟨start, byteLength (c :: cs)⟩], s.events⟩
      | .pass => .unmatched ⟨cs, s.tokens, s.faults ++
          [(Fault.unmatched c).diagnostic ⟨start, c.utf8Size⟩], s.events⟩ := by
  intro start
  have whole : (before ++ s.rest.takeWhile isBlank) ++ (c :: cs) = p.source := by
    rw [List.append_assoc, ← hdrop, List.takeWhile_append_dropWhile, hsource]
  have stands : p.position (c :: cs) = start := by
    rw [position_eq whole, byteLength_append]
  simp only [turn, hdrop, List.isEmpty_cons, Bool.false_eq_true, if_false]
  cases hread : Rule.readFirst p.mode p.rules (c :: cs) with
  | read l rest =>
      -- what was read is not empty, so the loop has moved on
      have moved : start < p.position rest := by
        have fits : byteLength (c :: cs) ≤ byteLength p.source := by
          rw [← whole, byteLength_append (before ++ _)]
          exact Nat.le_add_left _ _
        have := byteLength_lt_of_readFirst hread
        rw [← stands]
        unfold position
        omega
      simp only [stands]
      rw [if_pos moved]
  | unclosed quote =>
      obtain rfl : c = quote := Option.some.inj (head?_of_readFirst hread)
      simp only [refuse, remainder?, Option.getD_some, List.head?_cons, stands]
  | pass => simp only [skip, List.head?_cons, Option.getD_some, List.tail_cons, stands]

/-- What is fallen back on makes no difference to a turn. -/
theorem turn_congr_fallback (p : Loop) (fallback : Fallback) (s : State) :
    (Loop.mk p.mode p.rules p.source fallback).turn s = p.turn s := by
  cases hdrop : s.rest.dropWhile isBlank with
  | nil => simp only [turn, hdrop, List.isEmpty_nil, if_true]
  | cons c cs =>
      simp only [turn, hdrop, List.isEmpty_cons, Bool.false_eq_true, if_false]
      cases Rule.readFirst p.mode p.rules (c :: cs) <;> rfl

/-- A turn that goes on takes something of what is left. -/
theorem exists_taken {before : List Char} (hsource : before ++ s.rest = p.source)
    (h : (p.turn s).next? = some t) : ∃ taken, taken ≠ [] ∧ taken ++ t.rest = s.rest := by
  have whole := List.takeWhile_append_dropWhile (p := isBlank) (l := s.rest)
  cases hdrop : s.rest.dropWhile isBlank with
  | nil =>
      rw [turn_of_blank hdrop] at h
      cases h
  | cons c cs =>
      rw [hdrop] at whole
      rw [turn_of_cons hsource hdrop] at h
      cases hread : Rule.readFirst p.mode p.rules (c :: cs) with
      | read l rest =>
          rw [hread] at h
          cases h
          -- gone are the gap and the lexeme, which is not empty
          refine ⟨s.rest.takeWhile isBlank ++ l.spelling, ?_, ?_⟩
          · intro empty
            have less := byteLength_lt_of_readFirst hread
            rw [← Rule.spelling_append_of_readFirst hread,
              (List.append_eq_nil_iff.mp empty).2] at less
            exact Nat.lt_irrefl _ less
          · show _ ++ l.spelling ++ rest = s.rest
            rw [List.append_assoc, Rule.spelling_append_of_readFirst hread, whole]
      | unclosed quote =>
          rw [hread] at h
          cases h
          refine ⟨s.rest, ?_, List.append_nil _⟩
          rw [← whole]
          exact List.append_ne_nil_of_right_ne_nil _ (List.cons_ne_nil c cs)
      | pass =>
          rw [hread] at h
          cases h
          refine ⟨s.rest.takeWhile isBlank ++ [c],
            List.append_ne_nil_of_right_ne_nil _ (List.cons_ne_nil c []), ?_⟩
          rw [List.append_assoc, List.singleton_append, whole]

/-! ## A run -/

/-- The loop keeps to the source, and every turn takes a character at least. -/
theorem exists_taken_after {n : Nat} {before : List Char}
    (hsource : before ++ s.rest = p.source) (h : p.after n s = some t) :
    ∃ taken, taken ++ t.rest = s.rest ∧ n ≤ taken.length := by
  induction n generalizing s before with
  | zero =>
      cases h
      exact ⟨[], rfl, Nat.le_refl 0⟩
  | succ n ih =>
      -- the first turn takes something, and the others take what they take behind it
      obtain ⟨u, hturn, hu⟩ := Option.bind_eq_some_iff.mp h
      obtain ⟨first, filled, hfirst⟩ := exists_taken hsource hturn
      have hsource' : before ++ first ++ u.rest = p.source := by
        rw [List.append_assoc, hfirst, hsource]
      obtain ⟨more, hmore, len⟩ := ih hsource' hu
      refine ⟨first ++ more, ?_, ?_⟩
      · rw [List.append_assoc, hmore, hfirst]
      · have := List.length_pos_iff.mpr filled
        rw [List.length_append]
        omega

/-- What a state has kept and logged more than another is what a reading found. -/
structure Follows (s : State) (offset : Nat) (r : Reading) (t : State) : Prop where
  tokens : t.tokens = s.tokens ++ r.tokens offset
  faults : t.faults = s.faults ++ r.diagnostics offset
  events : t.events = s.events ++ (r.tokens offset).map .token

/-- From a state on, the loop finds what a reading found, and ends. -/
def Leads (p : Loop) (s : State) (offset : Nat) (r : Reading) : Prop :=
  ∃ n t, p.after n s = some t ∧ p.turn t = .ends ∧ Follows s offset r t

/-- Where only blanks are left, nothing more is found. -/
theorem leads_done (hdrop : s.rest.dropWhile isBlank = []) (offset : Nat) (gap : List Char) :
    p.Leads s offset (.done gap) := by
  refine ⟨0, s, rfl, turn_of_blank hdrop, ?_, ?_, ?_⟩
  all_goals exact (List.append_nil _).symm

/-- What the loop finds in a turn stands in front of what it finds from there on. -/
theorem Leads.of_turn {offset offset' : Nat} {r next : Reading}
    (hturn : (p.turn s).next? = some t) (h : p.Leads t offset' next)
    (found : ∀ u, Follows t offset' next u → Follows s offset r u) : p.Leads s offset r := by
  obtain ⟨n, u, reached, ends, follows⟩ := h
  refine ⟨n + 1, u, ?_, ends, found u follows⟩
  rw [after, hturn]
  exact reached

/-- **The loop does what the reading of the rest says**, from every state on, and ends. -/
theorem leads_of_reading (p : Loop) (input : List Char) :
    ∀ (s : State) (before : List Char), before ++ input = p.source → s.rest = input →
      p.Leads s (byteLength before) (Reading.of p.mode p.rules input) := by
  fun_induction Reading.of p.mode p.rules input with
  | case1 input gap hdrop =>
      rintro s before - rfl
      exact leads_done hdrop _ gap
  | case2 input gap c cs hdrop l rest hread ih =>
      rintro s before hsource rfl
      have hturn := turn_of_cons hsource hdrop
      rw [hread] at hturn
      have hrest : before ++ gap ++ l.spelling ++ rest = p.source := by
        rw [List.append_assoc, Rule.spelling_append_of_readFirst hread, ← hdrop,
          List.append_assoc, List.takeWhile_append_dropWhile, hsource]
      have later := ih (s.keep (l.token (byteLength before + byteLength gap)) rest) _ hrest rfl
      rw [byteLength_append, byteLength_append] at later
      apply later.of_turn (congrArg Turn.next? hturn)
      intro u found
      -- the token of this turn is the first one
      exact ⟨found.tokens.trans (List.append_assoc _ _ _), found.faults,
        found.events.trans (List.append_assoc _ _ _)⟩
  | case3 input gap c cs hdrop quote hread =>
      rintro s before hsource rfl
      have hturn := turn_of_cons hsource hdrop
      rw [hread] at hturn
      -- nothing is left, so the next turn is the last one
      have later := leads_done (p := p) (s := ⟨[], s.tokens, s.faults ++
        [(Fault.unterminatedLiteral quote).diagnostic
          ⟨byteLength before + byteLength gap, byteLength (c :: cs)⟩], s.events⟩) rfl 0 []
      apply later.of_turn (congrArg Turn.next? hturn)
      intro u found
      exact ⟨found.tokens, found.faults.trans (List.append_nil _), found.events⟩
  | case4 input gap c cs hdrop hread ih =>
      rintro s before hsource rfl
      have hturn := turn_of_cons hsource hdrop
      rw [hread] at hturn
      have hrest : before ++ gap ++ [c] ++ cs = p.source := by
        rw [List.append_assoc, List.singleton_append, ← hdrop, List.append_assoc,
          List.takeWhile_append_dropWhile, hsource]
      have later := ih ⟨cs, s.tokens, s.faults ++ [(Fault.unmatched c).diagnostic
        ⟨byteLength before + byteLength gap, c.utf8Size⟩], s.events⟩ _ hrest rfl
      rw [byteLength_append, byteLength_append] at later
      apply later.of_turn (congrArg Turn.next? hturn)
      intro u found
      exact ⟨found.tokens, found.faults.trans (List.append_assoc _ _ _), found.events⟩

/-- **A scan is what its loop comes to**, whatever the rules are. The loop takes a turn for every
character at most, and one more to end. -/
theorem exists_endsAfter (mode : Mode) (rules : List Rule) (source : String) (fallback : Fallback) :
    let p : Loop := ⟨mode, rules, source.toList, fallback⟩
    ∃ turns t, p.EndsAfter turns t ∧ turns ≤ source.length + 1 ∧
      t.outcome = (Scan.withRules rules mode source).outcome ∧
      t.log = (Scan.withRules rules mode source).events := by
  intro p
  have hsource : [] ++ p.start.rest = p.source := rfl
  obtain ⟨n, t, reached, ends, found⟩ := p.leads_of_reading p.source p.start [] rfl rfl
  have tokens : t.tokens = (Scan.withRules rules mode source).tokens := found.tokens
  have faults : t.faults = (Scan.withRules rules mode source).diagnostics := found.faults
  have events : t.events = (Scan.withRules rules mode source).tokens.map .token := found.events
  refine ⟨n + 1, t, ⟨n, rfl, reached, ends⟩, ?_, ?_, ?_⟩
  · obtain ⟨taken, whole, len⟩ := exists_taken_after hsource reached
    have : taken.length ≤ source.length := by
      rw [← String.length_toList]
      show taken.length ≤ p.start.rest.length
      rw [← whole, List.length_append]
      exact Nat.le_add_right _ _
    omega
  · rw [State.outcome, Scan.outcome, tokens, faults]
    cases (Scan.withRules rules mode source).diagnostics <;> rfl
  · rw [State.log, Scan.events, events, tokens, faults]

/-! ## The rules in order -/

/-- What a turn can come to where the rules read everything. It ends the loop behind the last token,
or it keeps a token whose span is what the loop has moved on by, or it takes all that is left for an
open literal. There is no case for a character that no rule reads. -/
inductive Advances (p : Loop) (s : State) : Turn → Prop where
  | ends (blank : ∀ c ∈ s.rest, isBlank c = true) : Advances p s .ends
  | token {t : Token} {rest : List Char} (shorter : rest.length < s.rest.length)
      (start : t.span.offset = p.position (s.rest.dropWhile isBlank))
      (stop : t.span.offset + t.span.len = p.position rest) :
      Advances p s (.token (s.keep t rest))
  | unclosed {quote : Char} {span : Span} (strict : p.mode = .strict) (left : s.rest ≠ []) :
      Advances p s (.unclosed ⟨[], s.tokens,
        s.faults ++ [(Fault.unterminatedLiteral quote).diagnostic span], s.events⟩)

theorem advances_turn {before : List Char} (hsource : before ++ s.rest = p.source)
    (inOrder : p.rules = Rule.inOrder) : p.Advances s (p.turn s) := by
  have whole := List.takeWhile_append_dropWhile (p := isBlank) (l := s.rest)
  cases hdrop : s.rest.dropWhile isBlank with
  | nil =>
      rw [turn_of_blank hdrop]
      rw [hdrop, List.append_nil] at whole
      apply Advances.ends
      rw [← whole]
      exact Reading.isBlank_of_mem_takeWhile s.rest
  | cons c cs =>
      rw [hdrop] at whole
      have front : before ++ s.rest.takeWhile isBlank ++ (c :: cs) = p.source := by
        rw [List.append_assoc, whole, hsource]
      rw [turn_of_cons hsource hdrop, inOrder]
      cases hread : Rule.readFirst p.mode Rule.inOrder (c :: cs) with
      | read l rest =>
          have spelled := Rule.spelling_append_of_readFirst hread
          have behind : before ++ s.rest.takeWhile isBlank ++ l.spelling ++ rest = p.source := by
            rw [List.append_assoc, spelled, front]
          apply Advances.token
          · have := Rule.length_lt_of_readFirst hread
            rw [← whole, List.length_append]
            omega
          · rw [hdrop, position_eq front, byteLength_append]
            rfl
          · rw [position_eq behind, byteLength_append, byteLength_append]
            rfl
      | unclosed quote =>
          apply Advances.unclosed (Rule.readFirst_eq_unclosed_iff.mp hread).1
          rw [← whole]
          exact List.append_ne_nil_of_right_ne_nil _ (List.cons_ne_nil c cs)
      | pass => exact absurd hread (Rule.readFirst_ne_pass p.mode c cs)

/-- What is fallen back on makes no difference to a run. -/
theorem after_congr_fallback (p : Loop) (fallback : Fallback) (n : Nat) (s : State) :
    (Loop.mk p.mode p.rules p.source fallback).after n s = p.after n s := by
  induction n generalizing s with
  | zero => rfl
  | succ n ih =>
      rw [after, after, turn_congr_fallback]
      exact congrArg _ (funext ih)

end Loop

/-- **The loop of a scan always moves on.** Of every text that is not empty the rules in order
read a lexeme of at least one character, or they find a literal open, which happens exactly in
strict mode where a quote starts the text and does not come again. So every turn of the loop
leaves less to read, or nothing at all behind an open literal; no character is skipped for want of
a rule, nothing is fallen back on, and every span is the difference of two positions in a row. The
loop ends after one turn for each character and one more, at the latest, with the outcome of the
scan. -/
theorem loop_advances (mode : Mode) :
    (∀ c cs,
      ((∃ l rest, Rule.readFirst mode Rule.inOrder (c :: cs) = .read l rest ∧
          l.spelling ++ rest = c :: cs ∧ rest.length < (c :: cs).length) ∨
        ∃ quote, Rule.readFirst mode Rule.inOrder (c :: cs) = .unclosed quote) ∧
      ((∃ quote, Rule.readFirst mode Rule.inOrder (c :: cs) = .unclosed quote) ↔
        mode = .strict ∧ isQuote c = true ∧ c ∉ cs)) ∧
    ∀ source fallback,
      let p := Loop.ofSource mode source fallback
      (∀ n s, p.after n p.start = some s → p.Advances s (p.turn s)) ∧
      (∀ other n, (Loop.ofSource mode source other).after n p.start = p.after n p.start) ∧
      ∃ turns t, p.EndsAfter turns t ∧ turns ≤ source.length + 1 ∧
        t.outcome = scan mode source := by
  refine ⟨fun c cs => ⟨?_, ?_⟩, fun source fallback => ?_⟩
  · cases hread : Rule.readFirst mode Rule.inOrder (c :: cs) with
    | read l rest =>
        exact Or.inl ⟨l, rest, rfl, Rule.spelling_append_of_readFirst hread,
          Rule.length_lt_of_readFirst hread⟩
    | unclosed quote => exact Or.inr ⟨quote, rfl⟩
    | pass => exact absurd hread (Rule.readFirst_ne_pass mode c cs)
  · constructor
    · rintro ⟨quote, hread⟩
      obtain ⟨strict, hq, body, hbody, alone⟩ := Rule.readFirst_eq_unclosed_iff.mp hread
      obtain ⟨rfl, rfl⟩ := List.cons.inj hbody
      exact ⟨strict, hq, alone⟩
    · rintro ⟨strict, hq, alone⟩
      exact ⟨c, Rule.readFirst_eq_unclosed_iff.mpr ⟨strict, hq, cs, rfl, alone⟩⟩
  · intro p
    refine ⟨?_, ?_, ?_⟩
    · intro n s reached
      have hsource : [] ++ p.start.rest = p.source := rfl
      obtain ⟨taken, whole, -⟩ := Loop.exists_taken_after hsource reached
      have stands : taken ++ s.rest = p.source := whole
      exact Loop.advances_turn stands rfl
    · intro other n
      exact p.after_congr_fallback other n p.start
    · obtain ⟨turns, t, ends, bound, outcome, -⟩ :=
        Loop.exists_endsAfter mode Rule.inOrder source fallback
      exact ⟨turns, t, ends, bound, outcome⟩

/-- A literal is open behind a character of two bytes. The loop keeps this character in its first
turn, and takes the literal in the next one. -/
theorem loop_advances_open_literal :
    let p := Loop.ofSource .strict "é\"a" ⟨'?', [], '"'⟩
    (∃ s, p.after 1 p.start = some s ∧ s.rest = ['"', 'a'] ∧ p.Advances s (p.turn s)) ∧
      ∃ turns t, p.EndsAfter turns t ∧ turns ≤ 4 ∧
        t.outcome = .error [(Fault.unterminatedLiteral '"').diagnostic ⟨2, 2⟩] := by
  intro p
  obtain ⟨advances, -, turns, t, ends, bound, outcome⟩ :=
    (loop_advances .strict).2 "é\"a" ⟨'?', [], '"'⟩
  have normal : Reading.Normal .strict
      (.lexeme [] (.unknown 'é') (.unclosed [] '"' ['"', 'a'])) := by decide
  have refused : scan .strict "é\"a" =
      .error [(Fault.unterminatedLiteral '"').diagnostic ⟨2, 2⟩] :=
    scan_eq_of_normal normal rfl
  exact ⟨⟨_, rfl, rfl, advances 1 _ rfl⟩, turns, t, ends, bound, outcome.trans refused⟩

end Ixo
