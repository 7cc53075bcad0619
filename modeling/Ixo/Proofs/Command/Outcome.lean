import Ixo.Command.Run
import Ixo.Proofs.Command.Invocation
import Ixo.Proofs.Scan.Modes

/-!
# The outcome of the command

The command does all of what it is asked or nothing (`run_outcome`): it writes the whole dump of the
tokens, or no output and the reason why. Which source it reads is said by its arguments alone, and
nothing else that lies around it matters to what it shows. A strict run refuses a source exactly if
the last token of the lenient scan is open, so it never tells of more than one error.

What reading a file gives is any function of its path, to bytes or to a failure. What a run gets at
is the same in every monad (`Access.run_of_scan`), so what holds in surroundings that are known
beforehand is about the run on a system too.

The filter for the log has no part in this unless it is torn, and is kept out by a hypothesis.
-/

set_option autoImplicit false

namespace Ixo.Command

/-! ## Sources -/

theorem decode_toByteArray (text : String) : decode text.toByteArray = .ok text := by
  have h : String.fromUTF8? text.toByteArray = some text := dif_pos text.isValidUTF8
  rw [decode, h]

theorem decode_of_not_isValidUTF8 {bytes : ByteArray} (h : ¬ bytes.IsValidUTF8) :
    decode bytes = .error .notText := by
  have h : String.fromUTF8? bytes = none := dif_neg h
  rw [decode, h]

/-- What stands where a source comes from. -/
def Surroundings.bytes (s : Surroundings) : Origin → Except ReadFailure ByteArray
  | .sample => .ok sampleProgram.toByteArray
  | .file path => s.readFile path
  | .standardInput => s.standardInput

theorem Surroundings.read_eq_bind (s : Surroundings) (origin : Origin) :
    s.read origin = s.bytes origin >>= decode := by
  cases origin with
  | sample =>
      -- for any reader, so that the kernel does not start to decode the sample
      have ok_bind : ∀ (content : ByteArray) (f : ByteArray → Except ReadFailure String),
          Except.ok content >>= f = f content := fun _ _ => rfl
      rw [bytes, ok_bind, decode_toByteArray]
      rfl
  | file path => rfl
  | standardInput => rfl

/-! ## Outcomes -/

/-- The text of the error where a source cannot be read. -/
def Origin.complaint (origin : Origin) (failure : ReadFailure) : String :=
  "Error: " ++ origin.reading ++ "\n\nCaused by:\n    " ++ failure.cause

namespace Outcome

/-- What is shown apart from the log. -/
def shown (o : Outcome) : Nat × String × Option String × List Diagnostic :=
  (o.exitCode, o.output, o.error, o.diagnostics)

theorem shown_noting (o : Outcome) (filter : Option String) :
    (o.noting filter).shown = o.shown := rfl

theorem shown_scanned_ok {request : Request} {filter : Option String} {source : String}
    {tokens : List Token} (h : scan request.mode source = .ok tokens) :
    (scanned request filter source).shown = (0, request.format.render tokens, none, []) := by
  have h : (Scan.of request.mode source).outcome = .ok tokens := h
  simp only [scanned, h, shown]

theorem shown_scanned_error {request : Request} {filter : Option String} {source : String}
    {ds : List Diagnostic} (h : scan request.mode source = .error ds) :
    (scanned request filter source).shown =
      (1, "", some ("Error: " ++ decimal ds.length ++ " error(s)"),
        ds.map (·.attach ⟨request.origin.name, source⟩)) := by
  have h : (Scan.of request.mode source).outcome = .error ds := h
  simp only [scanned, h, shown]

end Outcome

/-- The filter for the log changes nothing that is shown. -/
theorem Request.shown_answer (request : Request) (filter filter' : Option String)
    (source : Except ReadFailure String) :
    (request.answer filter source).shown = (request.answer filter' source).shown := by
  cases source with
  | error failure => rfl
  | ok source =>
      show (Outcome.scanned request filter source).shown =
        (Outcome.scanned request filter' source).shown
      cases h : scan request.mode source with
      | ok tokens => rw [Outcome.shown_scanned_ok h, Outcome.shown_scanned_ok h]
      | error ds => rw [Outcome.shown_scanned_error h, Outcome.shown_scanned_error h]

/-- A source is refused only in a strict run, and only if its last token is open. -/
theorem shown_scanned_cases (request : Request) (filter : Option String) (source : String) :
    ∃ tokens, scan .lenient source = .ok tokens ∧
      ((request.mode = .strict ∧ (∃ t ∈ tokens.getLast?, t.IsOpen) ∧
          ∃ d, (Outcome.scanned request filter source).shown =
            (1, "", some "Error: 1 error(s)", [d])) ∨
        (¬ (request.mode = .strict ∧ ∃ t ∈ tokens.getLast?, t.IsOpen) ∧
          scan request.mode source = .ok tokens ∧
          (Outcome.scanned request filter source).shown =
            (0, request.format.render tokens, none, []))) := by
  obtain ⟨tokens, lenient, ⟨strict, closed⟩ |
    ⟨t, before, quote, body, hlast, hopen, -, -, -, strict⟩⟩ := scan_cases source
  · -- nothing is open, and the modes agree
    have h : scan request.mode source = .ok tokens := by
      cases request.mode with
      | lenient => exact lenient
      | strict => exact strict
    refine ⟨tokens, lenient, Or.inr ⟨?_, h, Outcome.shown_scanned_ok h⟩⟩
    rintro ⟨-, t, ht, hopen⟩
    exact closed t ht hopen
  · by_cases hmode : request.mode = .strict
    · rw [← hmode] at strict
      have failed : (Outcome.scanned request filter source).shown = _ :=
        Outcome.shown_scanned_error strict
      have count : "Error: " ++ decimal 1 ++ " error(s)" = "Error: 1 error(s)" := by decide
      rw [List.length_singleton, count] at failed
      exact ⟨tokens, lenient, Or.inl ⟨hmode, ⟨t, hlast, hopen⟩, _, failed⟩⟩
    · have h : scan request.mode source = .ok tokens := by
        cases hm : request.mode with
        | lenient => exact lenient
        | strict => exact absurd hm hmode
      exact ⟨tokens, lenient, Or.inr ⟨fun both => hmode both.1, h, Outcome.shown_scanned_ok h⟩⟩

/-! ## Runs -/

section

variable {m : Type → Type} [Monad m] [LawfulMonad m] (a : Access m) {arguments : List String}

/-- A run on refused arguments gets at the filter alone. -/
theorem Access.run_of_refused {e : UsageError} (h : readArguments arguments = .error e) :
    a.run arguments = do
      let filter ← a.filter
      if filter.any Log.Filter.isTorn then return .broken
      return (Outcome.refused e).noting filter := by
  unfold Access.run Access.answer
  rw [h]
  simp only [pure_bind]

/-- A run that scans gets at the filter and then at the source that is asked for, once each. -/
theorem Access.run_of_scan {request : Request}
    (h : readArguments arguments = .ok (.scan request)) :
    a.run arguments = do
      let filter ← a.filter
      if filter.any Log.Filter.isTorn then return .broken
      let source ← a.read request.origin
      return (request.answer filter source).noting filter := by
  unfold Access.run Access.answer
  rw [h]
  simp only [bind_assoc, pure_bind]

end

section

variable {arguments : List String} {s : Surroundings}
  (whole : s.filter.any Log.Filter.isTorn = false)

include whole

theorem shown_run_refused {e : UsageError} (h : readArguments arguments = .error e) :
    (run arguments s).shown = (2, "", some e.headline, []) := by
  rw [run, s.access.run_of_refused h]
  show (if s.filter.any Log.Filter.isTorn then Outcome.broken
    else (Outcome.refused e).noting s.filter).shown = _
  rw [whole, if_neg Bool.false_ne_true, Outcome.shown_noting]
  rfl

theorem shown_run_scan {request : Request} (h : readArguments arguments = .ok (.scan request)) :
    (run arguments s).shown =
      (request.answer none (s.bytes request.origin >>= decode)).shown := by
  rw [run, s.access.run_of_scan h]
  show (if s.filter.any Log.Filter.isTorn then Outcome.broken
    else (request.answer s.filter (s.read request.origin)).noting s.filter).shown = _
  rw [whole, if_neg Bool.false_ne_true, Outcome.shown_noting, s.read_eq_bind,
    request.shown_answer s.filter none]

end

/-- **The command does all or nothing.** Refused arguments give exit code 2 and no output, whatever
lies around. Arguments that ask for a scan are an invocation, which says what source is read: the
sample, the file that is named or the standard input, and nothing that is shown depends on anything
else. If the source cannot be read or is not UTF-8, the exit code is 1, there is no output, and the
error says so. Otherwise the run fails exactly if it is strict and the last token of the lenient
scan is open, with one error and no output; if it does not, the exit code is 0 and the output is the
whole dump of the tokens that the scan gives in either mode. -/
theorem run_outcome (arguments : List String) (s : Surroundings)
    (whole : s.filter.any Log.Filter.isTorn = false) :
    (∀ e, readArguments arguments = .error e →
      (run arguments s).shown = (2, "", some e.headline, [])) ∧
    ∀ request, readArguments arguments = .ok (.scan request) →
      (∃ i : Invocation, i.WellFormed ∧ i.spelling = arguments ∧ i.request = request) ∧
      (∀ s' : Surroundings, s'.filter.any Log.Filter.isTorn = false →
        s'.bytes request.origin = s.bytes request.origin →
          (run arguments s').shown = (run arguments s).shown) ∧
      (∀ failure, s.bytes request.origin = .error failure →
        (run arguments s).shown = (1, "", some (request.origin.complaint failure), [])) ∧
      (∀ bytes, s.bytes request.origin = .ok bytes → ¬ bytes.IsValidUTF8 →
        (run arguments s).shown = (1, "", some (request.origin.complaint .notText), [])) ∧
      ∀ source : String, s.bytes request.origin = .ok source.toByteArray →
        ∃ tokens, scan .lenient source = .ok tokens ∧
          ((request.mode = .strict ∧ ∃ t ∈ tokens.getLast?, t.IsOpen) →
            ∃ d, (run arguments s).shown = (1, "", some "Error: 1 error(s)", [d])) ∧
          (¬ (request.mode = .strict ∧ ∃ t ∈ tokens.getLast?, t.IsOpen) →
            scan request.mode source = .ok tokens ∧
              (run arguments s).shown = (0, match request.format with
                | .text => textDump tokens
                | .json => jsonDump tokens ++ "\n", none, [])) := by
  refine ⟨fun e h => shown_run_refused whole h, fun request h => ?_⟩
  have shown := shown_run_scan whole h
  refine ⟨readArguments_eq_ok_iff.mp h, fun s' whole' same => ?_, fun failure hbytes => ?_,
    fun bytes hbytes invalid => ?_, fun source hbytes => ?_⟩
  · rw [shown, shown_run_scan whole' h, same]
  · rw [shown, hbytes]
    rfl
  · have unread : (s.bytes request.origin >>= decode) = .error .notText := by
      rw [hbytes]
      exact decode_of_not_isValidUTF8 invalid
    rw [shown, unread]
    rfl
  · have read : (s.bytes request.origin >>= decode) = .ok source := by
      rw [hbytes]
      exact decode_toByteArray source
    rw [shown, read]
    obtain ⟨tokens, lenient, ⟨hmode, hopen, failed⟩ | ⟨closed, sound, printed⟩⟩ :=
      shown_scanned_cases request none source
    · exact ⟨tokens, lenient, fun _ => failed, fun h => absurd ⟨hmode, hopen⟩ h⟩
    · refine ⟨tokens, lenient, fun h => absurd h closed, fun _ => ⟨sound, ?_⟩⟩
      refine printed.trans ?_
      cases request.format with
      | text => rfl
      | json => rfl

/-- A path that starts at the root names a file with an open literal, after another one that is
closed. The bytes on the standard input are not UTF-8 and are not read. -/
theorem run_outcome_open_literal :
    (some "trace").any Log.Filter.isTorn = false ∧
      readArguments ["/a", "--strict"] = .ok (.scan ⟨.file "/a", .strict, .text⟩) ∧
      ∃ d, (run ["/a", "--strict"]
        ⟨fun path => if path = "/a" then .ok "'b' \"c".toByteArray else .error .missing,
          .ok (ByteArray.mk #[0xff]), some "trace"⟩).shown =
        (1, "", some "Error: 1 error(s)", [d]) := by
  have whole : (some "trace").any Log.Filter.isTorn = false := by decide
  have asked : readArguments ["/a", "--strict"] = .ok (.scan ⟨.file "/a", .strict, .text⟩) := rfl
  have normal : Reading.Normal .lenient
      (.lexeme [] (.literal '\'' ['b'] true)
        (.lexeme [' '] (.literal '"' ['c'] false) (.done []))) := by
    decide
  have lenient : scan .lenient "'b' \"c" =
      .ok [⟨.string, "b", ⟨0, 3⟩⟩, ⟨.string, "c", ⟨4, 2⟩⟩] :=
    scan_eq_of_normal normal rfl
  refine ⟨whole, asked, ?_⟩
  obtain ⟨tokens, htokens, failed, -⟩ := ((run_outcome ["/a", "--strict"]
    ⟨fun path => if path = "/a" then .ok "'b' \"c".toByteArray else .error .missing,
      .ok (ByteArray.mk #[0xff]), some "trace"⟩ whole).2 _ asked).2.2.2.2 "'b' \"c" rfl
  rw [lenient] at htokens
  cases htokens
  exact failed ⟨rfl, _, rfl, rfl, rfl⟩

end Ixo.Command
