import Ixo.Proofs.Scan.Loop
import Ixo.Proofs.Scan.Modes

/-!
# What a log tells of a scan

The events of a scan are those that its loop logs, turn by turn, before it is known how the scan
comes out (`Loop.exists_endsAfter`). They tell of every token and then of the numbers, so a strict
scan that fails has logged all the tokens of the lenient scan but the last, the open literal it has
refused (`tokens_of_scan_eq_error`). A filter lets these events through up to a level
(`Log.Filter.LogsUpTo`): up to `trace` all of them, up to `debug` the last one alone
(`scan_logged`).
-/

set_option autoImplicit false

namespace Ixo

namespace Log

/-! ## Filters for a level -/

/-- A filter lets a scan log up to a level: inside of a span it lets through the events of the
target that are up to the level and no others, whatever fields they have. -/
def Filter.LogsUpTo (f : Filter) (s : SpanContext) (most : Level) : Prop :=
  ∀ fields level, f.admits s Event.target fields level = (Threshold.upTo most).admits level

namespace Filter

variable {f : Filter} {s : SpanContext} {most : Level}

/-- For spans no field is looked for, so an event has the rule for spans if it has every field
that a directive names. -/
theorem ruleForEvent_eq_ruleForSpan (f : Filter) (target : String) :
    f.ruleForEvent target (f.filterMap fun d => d.field.map (·.name)) = f.ruleForSpan target := by
  rw [ruleForEvent, ruleForSpan]
  apply congrArg mostSpecific
  apply List.filter_congr
  intro d hd
  have known : (d.field.all fun test =>
      (f.filterMap fun d => d.field.map (·.name)).contains test.name) = true := by
    rw [Option.all_eq_true]
    intro test htest
    rw [List.contains_iff_mem, List.mem_filterMap]
    exact ⟨d, hd, by rw [htest, Option.map_some]⟩
  rw [known, Bool.and_true]

/-- Where no directive opens a span, none lets anything through for being inside of it. -/
theorem opening_eq_off (closed : ∀ d ∈ f, d.opens s = false) : f.opening s = .off := by
  have none : f.filter (·.opens s) = [] := by
    rw [List.filter_eq_nil_iff]
    intro d hd
    rw [closed d hd]
    exact Bool.false_ne_true
  rw [opening, none]
  rfl

/-- A filter that lets events through up to the level of the span lets the span be seen as well. -/
theorem LogsUpTo.shows (h : f.LogsUpTo s most) (target : s.target = Event.target)
    (detailed : Scan.spanLevel.detail ≤ most.detail) :
    f.shows s Scan.spanLevel = true := by
  have admitted := h (f.filterMap fun d => d.field.map (·.name)) Scan.spanLevel
  rw [Threshold.admits, decide_eq_true detailed, admits, Bool.or_eq_true,
    ruleForEvent_eq_ruleForSpan, ← target] at admitted
  rw [Filter.shows, Bool.or_eq_true]
  apply admitted.imp_left
  intro opened
  -- the directive that opens the span is about it
  by_contra hidden
  rw [Bool.not_eq_true, List.any_eq_false] at hidden
  have closed : f.opening s = .off := by
    apply opening_eq_off
    intro d hd
    rw [Directive.opens, Bool.eq_false_iff.mpr (hidden d hd), Bool.false_and]
  rw [closed] at opened
  cases opened

/-- A filter by targets alone, without spans and fields. -/
def IsPlain (f : Filter) : Prop := ∀ d ∈ f, d.span = none ∧ d.field = none

/-- A plain filter lets a scan log up to the level of the most specific one of the directives that
concern it. -/
theorem logsUpTo_of_plain (plain : f.IsPlain) {d : Directive}
    (best : mostSpecific (f.filter (·.concerns Event.target)) = some d)
    (threshold : d.threshold = .upTo most) : f.LogsUpTo s most := by
  have closed : f.opening s = .off := by
    apply opening_eq_off
    intro d hd
    obtain ⟨span, field⟩ := plain d hd
    simp [Directive.opens, Directive.isAbout, span, field]
  intro fields level
  have rule : f.ruleForEvent Event.target fields = some d := by
    rw [ruleForEvent, ← best]
    apply congrArg mostSpecific
    apply List.filter_congr
    intro d hd
    obtain ⟨span, field⟩ := plain d hd
    simp [Directive.isRule, span, field]
  rw [admits, closed, rule, Option.any_some, threshold]
  rfl

end Filter

end Log

open Log

namespace Scan

/-- The log holds the events up to the level, each of them inside the span of the scan. -/
theorem log_of_logsUpTo {s : Scan} {f : Filter} {most : Level} (h : f.LogsUpTo s.span most)
    (detailed : spanLevel.detail ≤ most.detail) :
    s.log f =
      (s.events.filter fun e => (Threshold.upTo most).admits e.level).map
        (·.entry s.span.text) := by
  simp only [log, h.shows rfl detailed, if_true, h _ _]

/-- All events are at most as detailed as `trace`. -/
theorem filter_events_trace (s : Scan) :
    s.events.filter (fun e => (Threshold.upTo .trace).admits e.level) = s.events := by
  rw [List.filter_eq_self]
  intro e _
  cases e <;> rfl

/-- Of the events, only the tokens are more detailed than `debug`. -/
theorem filter_events_debug (s : Scan) :
    s.events.filter (fun e => (Threshold.upTo .debug).admits e.level) =
      [.finished s.tokens.length s.diagnostics.length] := by
  have hidden : (s.tokens.map Event.token).filter
      (fun e => (Threshold.upTo .debug).admits e.level) = [] := by
    rw [List.filter_eq_nil_iff]
    intro e he
    obtain ⟨t, -, rfl⟩ := List.mem_map.mp he
    exact Bool.false_ne_true
  rw [events, List.filter_append, hidden]
  rfl

/-- The span of a scan as it stands in front of an entry. -/
theorem text_span (mode : Mode) (source : String) :
    (Scan.of mode source).span.text =
      "scan_all\x7blen=" ++ decimal source.utf8ByteSize ++ " strict=" ++
        (Value.truth mode.isStrict).text ++ "\x7d: " := by
  have size : byteLength source.toList = source.utf8ByteSize := by
    rw [← utf8ByteSize_ofList, String.ofList_toList]
  rw [← size]
  apply String.toList_inj.mp
  show ("scan_all" ++ "\x7b" ++ ("len" ++ "=" ++ decimal (byteLength source.toList) ++ " " ++
    ("strict" ++ "=" ++ (Value.truth mode.isStrict).text)) ++ "\x7d: ").toList = _
  simp only [String.toList_append, List.append_assoc]
  rfl

end Scan

/-! ## The tokens that were logged -/

variable {mode : Mode} {source : String}

/-- A scan that succeeds has logged its tokens. -/
theorem tokens_of_scan_eq_ok {tokens : List Token} (h : scan mode source = .ok tokens) :
    (Scan.of mode source).tokens = tokens ∧ (Scan.of mode source).diagnostics = [] := by
  rw [scan, Scan.outcome] at h
  split at h
  · next sound => exact ⟨Except.ok.inj h, sound⟩
  · cases h

/-- A scan that fails is strict. It has logged the tokens of the lenient scan without the last
one, and found one thing wrong. -/
theorem tokens_of_scan_eq_error {ds : List Diagnostic} (h : scan mode source = .error ds) :
    mode = .strict ∧ (Scan.of mode source).diagnostics.length = 1 ∧
      ∃ last, scan .lenient source = .ok ((Scan.of mode source).tokens ++ [last]) := by
  have normal := Reading.normal_of mode source.toList
  have hsource := Reading.spelling_of mode Rule.inOrder source.toList
  rw [scan_lenient normal hsource, Scan.diagnostics_of, Scan.tokens_of]
  rw [scan_eq_of_normal normal hsource] at h
  rcases Reading.strict_cases normal 0 with
    ⟨sound, -⟩ | ⟨before, quote, body, -, -, -, found, tokens⟩
  · rw [sound] at h
    cases h
  · refine ⟨?_, by rw [found]; rfl, _, congrArg Except.ok tokens⟩
    cases mode with
    | strict => rfl
    | lenient =>
        rw [Reading.diagnostics_lenient normal] at found
        cases found

/-- **The log tells the truth about a scan.** A filter up to `trace` lets an entry through for every
token, in order, and then one with the numbers of tokens and faults, and a filter up to `debug` lets
the last one through alone. All of them stand inside a span with the length of the source and the
mode, and are what the loop of the scan logs on its way. If the scan succeeds, these are its tokens
and there are no faults; if it fails, it is strict, the tokens are those of the lenient scan without
the last one, and there is one fault. -/
theorem scan_logged (mode : Mode) (source : String) {f g : Filter}
    (detailed : f.LogsUpTo (Scan.of mode source).span .trace)
    (brief : g.LogsUpTo (Scan.of mode source).span .debug) :
    let context := "scan_all\x7blen=" ++ decimal source.utf8ByteSize ++ " strict=" ++
      (Value.truth mode.isStrict).text ++ "\x7d: "
    ∃ (tokens : List Token) (n m : Nat),
      (Scan.of mode source).log f =
        tokens.map (fun t => (Event.token t).entry context) ++
          [(Event.finished n m).entry context] ∧
      (Scan.of mode source).log g = [(Event.finished n m).entry context] ∧
      (∀ fallback, ∃ turns t, (Loop.ofSource mode source fallback).EndsAfter turns t ∧
        t.log = tokens.map .token ++ [.finished n m]) ∧
      (∀ ts, scan mode source = .ok ts → tokens = ts ∧ n = ts.length ∧ m = 0) ∧
      ∀ ds, scan mode source = .error ds → mode = .strict ∧
        ∃ ts, scan .lenient source = .ok ts ∧ tokens = ts.dropLast ∧ n + 1 = ts.length ∧
          m = 1 := by
  intro context
  have seen : (Scan.of mode source).span.text = context := Scan.text_span mode source
  refine ⟨(Scan.of mode source).tokens, (Scan.of mode source).tokens.length,
    (Scan.of mode source).diagnostics.length, ?_, ?_, ?_, ?_, ?_⟩
  · rw [Scan.log_of_logsUpTo detailed (by decide), Scan.filter_events_trace, seen, Scan.events,
      List.map_append, List.map_map]
    rfl
  · rw [Scan.log_of_logsUpTo brief (by decide), Scan.filter_events_debug, seen]
    rfl
  · intro fallback
    obtain ⟨turns, t, ends, -, -, logged⟩ :=
      Loop.exists_endsAfter mode Rule.inOrder source fallback
    exact ⟨turns, t, ends, logged⟩
  · intro ts h
    obtain ⟨rfl, sound⟩ := tokens_of_scan_eq_ok h
    exact ⟨rfl, rfl, congrArg List.length sound⟩
  · intro ds h
    obtain ⟨strict, one, last, lenient⟩ := tokens_of_scan_eq_error h
    refine ⟨strict, _, lenient, List.dropLast_concat.symm, ?_, one⟩
    rw [List.length_append, List.length_singleton]

/-- A literal that is left open behind one token. The filters are for a part of the target, one of
them with a rule for everything beside. -/
theorem scan_logged_open_literal :
    (Filter.ofText "ixo_lex=trace").LogsUpTo (Scan.of .strict "a 'é").span .trace ∧
      (Filter.ofText "warn,ixo_lex::scanner=debug").LogsUpTo
        (Scan.of .strict "a 'é").span .debug ∧
      (Scan.of .strict "a 'é").log (Filter.ofText "ixo_lex=trace") =
        ["TRACE scan_all\x7blen=5 strict=true\x7d: ixo_lex::scanner::lexer: " ++
            "token kind=Identifier text=a offset=0",
          "DEBUG scan_all\x7blen=5 strict=true\x7d: ixo_lex::scanner::lexer: " ++
            "scan finished tokens=1 errors=1"] ∧
      (Scan.of .strict "a 'é").log (Filter.ofText "warn,ixo_lex::scanner=debug") =
        ["DEBUG scan_all\x7blen=5 strict=true\x7d: ixo_lex::scanner::lexer: " ++
            "scan finished tokens=1 errors=1"] := by
  have trace : (Filter.ofText "ixo_lex=trace").LogsUpTo (Scan.of .strict "a 'é").span .trace := by
    have read : Filter.ofText "ixo_lex=trace" =
        [⟨some "ixo_lex", none, none, .upTo .trace⟩] := by decide +kernel
    rw [read]
    exact Filter.logsUpTo_of_plain (by simp [Filter.IsPlain]) rfl rfl
  have debug : (Filter.ofText "warn,ixo_lex::scanner=debug").LogsUpTo
      (Scan.of .strict "a 'é").span .debug := by
    have read : Filter.ofText "warn,ixo_lex::scanner=debug" =
        [⟨none, none, none, .upTo .warn⟩,
          ⟨some "ixo_lex::scanner", none, none, .upTo .debug⟩] := by decide +kernel
    rw [read]
    exact Filter.logsUpTo_of_plain (by simp [Filter.IsPlain]) rfl rfl
  have strict : scan .strict "a 'é" =
      .error [(Fault.unterminatedLiteral '\'').diagnostic ⟨2, 3⟩] := by
    have normal : Reading.Normal .strict
        (.lexeme [] (.word ['a']) (.unclosed [' '] '\'' ['\'', 'é'])) := by decide
    exact scan_eq_of_normal normal rfl
  have lenient : scan .lenient "a 'é" =
      .ok [⟨.identifier, "a", ⟨0, 1⟩⟩, ⟨.string, "é", ⟨2, 3⟩⟩] := by
    have normal : Reading.Normal .lenient
        (.lexeme [] (.word ['a']) (.lexeme [' '] (.literal '\'' ['é'] false) (.done []))) := by
      decide
    exact scan_eq_of_normal normal rfl
  obtain ⟨tokens, n, m, detailed, brief, -, -, failed⟩ := scan_logged .strict "a 'é" trace debug
  obtain ⟨-, ts, hts, rfl, hn, rfl⟩ := failed _ strict
  rw [lenient] at hts
  obtain rfl := Except.ok.inj hts
  obtain rfl : n = 1 := Nat.succ.inj hn
  exact ⟨trace, debug, detailed.trans rfl, brief.trans rfl⟩

end Ixo
