import Ixo.Command.Directory
import Ixo.Proofs.Command.Outcome

/-!
# What the command accepts

Arguments are refused with exit code 2, which no run that starts its work ends with. So the exit
code tells whether arguments are accepted, and without an argument for help these are exactly the
invocations (`run_accepted_iff`). The outcome of an accepted run depends on what its invocation
says, which is whether it asks for the sample and for a strict scan, the format and the file
(`Invocation.Alike`), and neither on the order of the items nor on how the format is spelled.

A torn filter for the log breaks the command off before it has read its arguments, so a hypothesis
keeps it out.
-/

set_option autoImplicit false

namespace Ixo.Command

/-! ## Help -/

/-- An argument that asks for help, or starts as one that does. -/
def StartsAsHelp (text : String) : Prop :=
  "-h".toList <+: text.toList ∨ "--help".toList <+: text.toList

instance (text : String) : Decidable (StartsAsHelp text) :=
  inferInstanceAs (Decidable ("-h".toList <+: text.toList ∨ "--help".toList <+: text.toList))

theorem Argument.startsAsHelp_of_long {text : String} {value : Option String}
    (h : ofText text = .long "help" value) : StartsAsHelp text := by
  right
  rw [eq_of_ofText_eq_long h, String.toList_append]
  exact List.prefix_append _ _

theorem Argument.startsAsHelp_of_short {text : String} (h : ofText text = .short 'h') :
    StartsAsHelp text := by
  unfold ofText at h
  split at h
  case h_3 c cs _ _ htext =>
    cases h
    left
    rw [htext]
    exact List.prefix_append ['-', 'h'] cs
  all_goals cases h

namespace Progress

section

variable {p p' : Progress}

/-- What is settled is an item, and no item asks for help. -/
theorem help_notMem_of_settle {q : Progress} (helpless : .help ∉ p.given)
    (h : p.settle = .ok q) : .help ∉ q.given := by
  rcases settle_cases h with ⟨-, rfl⟩ | ⟨f, -, -, rfl⟩ | ⟨path, -, -, -, rfl⟩
  · exact helpless
  · exact help_notMem_add helpless _
  · exact help_notMem_add helpless _

theorem help_notMem_of_await {pending : Pending} (helpless : .help ∉ p.given)
    (h : p.await pending = .ok p') : .help ∉ p'.given := by
  obtain ⟨q, settled, rfl⟩ := await_eq_ok_iff.mp h
  show .help ∉ q.given
  exact help_notMem_of_settle helpless settled

theorem help_notMem_of_takeFlag {flag : Parameter} {value : Option String}
    (helpless : .help ∉ p.given) (other : .help ≠ flag) (h : p.takeFlag flag value = .ok p') :
    .help ∉ p'.given := by
  obtain ⟨-, q, settled, -, rfl⟩ := takeFlag_eq_ok_iff.mp h
  intro hmem
  rcases List.mem_append.mp hmem with before | now
  · exact help_notMem_of_settle helpless settled before
  · exact other (List.mem_singleton.mp now)

theorem help_notMem_of_takeFormat {value : Option String} (helpless : .help ∉ p.given)
    (h : p.takeFormat value = .ok p') : .help ∉ p'.given := by
  cases value with
  | none => exact help_notMem_of_await helpless h
  | some value =>
      obtain ⟨q, settled, given⟩ := bind_eq_ok_iff.mp h
      obtain ⟨-, f, -, rfl⟩ := (giveFormat_eq_ok_iff true).mp given
      exact help_notMem_add (help_notMem_of_settle helpless settled) _

theorem help_notMem_of_takeOperand {text : String} (helpless : .help ∉ p.given)
    (h : p.takeOperand text = .ok p') : .help ∉ p'.given := by
  unfold takeOperand at h
  split at h
  · cases h
  · exact help_notMem_of_await helpless h

/-- An argument that does not start as help does not ask for it. -/
theorem help_notMem_of_take {text : String} (helpless : .help ∉ p.given)
    (unasked : ¬ StartsAsHelp text) (h : p.take (Argument.ofText text) = .ok p') :
    .help ∉ p'.given := by
  unfold take at h
  -- one case for each form of argument that is taken
  split at h
  · exact help_notMem_of_takeFlag helpless (by decide) h
  · exact help_notMem_of_takeFlag helpless (by decide) h
  · next value htext => exact absurd (Argument.startsAsHelp_of_long htext) unasked
  · exact help_notMem_of_takeFormat helpless h
  · cases h
  · next htext => exact absurd (Argument.startsAsHelp_of_short htext) unasked
  · cases h
  · split at h
    · -- the value that the format waited for
      cases h
      exact helpless
    · exact help_notMem_of_takeOperand helpless h
  · cases h
    exact helpless

end

theorem finish_ne_help (p : Progress) : p.finish ≠ .ok .help := by
  intro h
  obtain ⟨q, -, h⟩ := bind_eq_ok_iff.mp h
  split at h <;> cases h

/-- Behind the two dashes nothing asks for help. -/
theorem readOperands_ne_help (p : Progress) (texts : List String) :
    p.readOperands texts ≠ .ok .help := by
  induction texts generalizing p with
  | nil => exact p.finish_ne_help
  | cons text texts ih =>
      intro h
      obtain ⟨p', -, h⟩ := bind_eq_ok_iff.mp h
      exact ih p' h

/-- A reading of arguments none of which starts as help does not end in help. -/
theorem read_ne_help {p : Progress} (helpless : .help ∉ p.given) {texts : List String}
    (unasked : ∀ text ∈ texts.takeWhile (· != "--"), ¬ StartsAsHelp text) :
    p.read texts ≠ .ok .help := by
  induction texts generalizing p with
  | nil => exact p.finish_ne_help
  | cons text texts ih =>
      by_cases separator : text = "--"
      · rw [separator, read_separator]
        exact p.readOperands_ne_help texts
      · rw [List.takeWhile_cons_of_pos (p := (· != "--")) (bne_iff_ne.mpr separator)] at unasked
        obtain ⟨first, rest⟩ := List.forall_mem_cons.mp unasked
        intro h
        rw [read_cons texts separator] at h
        obtain ⟨p', taken, h⟩ := bind_eq_ok_iff.mp h
        have helpless' := help_notMem_of_take helpless first taken
        rw [if_neg helpless'] at h
        exact ih helpless' rest h

end Progress

/-! ## Exit codes -/

/-- A request ends with exit code 0 or 1. -/
theorem Request.exitCode_answer_ne_two (request : Request) (filter : Option String)
    (source : Except ReadFailure String) : (request.answer filter source).exitCode ≠ 2 := by
  cases source with
  | error failure =>
      show (1 : Nat) ≠ 2
      decide
  | ok source =>
      show (Outcome.scanned request filter source).shown.1 ≠ 2
      cases h : scan request.mode source with
      | ok tokens => simp [Outcome.shown_scanned_ok h]
      | error ds => simp [Outcome.shown_scanned_error h]

/-- The exit code is 2 exactly if the arguments are refused. -/
theorem exitCode_run_ne_two_iff {arguments : List String} {s : Surroundings}
    (whole : s.filter.any Log.Filter.isTorn = false)
    (unasked : ∀ text ∈ arguments.takeWhile (· != "--"), ¬ StartsAsHelp text) :
    (run arguments s).exitCode ≠ 2 ↔ ∃ request, readArguments arguments = .ok (.scan request) := by
  cases h : readArguments arguments with
  | error e =>
      have code : (run arguments s).exitCode = 2 := congrArg Prod.fst (shown_run_refused whole h)
      constructor
      · intro accepted
        exact absurd code accepted
      · rintro ⟨request, asked⟩
        cases asked
  | ok demand =>
      cases demand with
      | help => exact absurd h (Progress.read_ne_help (by decide) unasked)
      | scan request =>
          have code : (run arguments s).exitCode = (request.answer none _).exitCode :=
            congrArg Prod.fst (shown_run_scan whole h)
          rw [code]
          exact ⟨fun _ => ⟨request, rfl⟩, fun _ => request.exitCode_answer_ne_two _ _⟩

/-! ## Invocations that say the same -/

namespace Invocation

/-- The format that is named, or text. -/
def format (i : Invocation) : Format := (i.all.findSome? Item.format?).getD .text

/-- The file that is named, on either side of the dashes. -/
def file? (i : Invocation) : Option String := i.all.findSome? Item.path?

/-- Two invocations say the same, in whatever order and spelling. -/
structure Alike (i j : Invocation) : Prop where
  demo : Item.demo ∈ i.items ↔ Item.demo ∈ j.items
  strict : Item.strict ∈ i.items ↔ Item.strict ∈ j.items
  format : i.format = j.format
  file : i.file? = j.file?

/-- An option that is all its parameter can say is given if it is one of the items. -/
theorem mem_parameters_iff (i : Invocation) (item : Item)
    (only : ∀ other : Item, other.parameter = item.parameter → other = item)
    (option : item.path? = none) : item.parameter ∈ i.parameters ↔ item ∈ i.items := by
  constructor
  · intro h
    obtain ⟨other, hother, same⟩ := List.mem_map.mp h
    obtain rfl := only other same
    refine (List.mem_append.mp hother).resolve_right fun trailing => ?_
    obtain ⟨path, -, rfl⟩ := List.mem_map.mp trailing
    cases option
  · intro h
    exact List.mem_map.mpr ⟨item, List.mem_append_left _ h, rfl⟩

theorem demo_mem_parameters_iff {i : Invocation} :
    .demo ∈ i.parameters ↔ Item.demo ∈ i.items := by
  refine mem_parameters_iff i .demo (fun other h => ?_) rfl
  cases other with
  | demo => rfl
  | _ => cases h

theorem strict_mem_parameters_iff {i : Invocation} :
    .strict ∈ i.parameters ↔ Item.strict ∈ i.items := by
  refine mem_parameters_iff i .strict (fun other h => ?_) rfl
  cases other with
  | strict => rfl
  | _ => cases h

/-- What is asked for is all that they say. -/
theorem Alike.request_eq {i j : Invocation} (h : i.Alike j) : i.request = j.request := by
  have demo : .demo ∈ i.parameters ↔ .demo ∈ j.parameters :=
    demo_mem_parameters_iff.trans (h.demo.trans demo_mem_parameters_iff.symm)
  have strict : .strict ∈ i.parameters ↔ .strict ∈ j.parameters :=
    strict_mem_parameters_iff.trans (h.strict.trans strict_mem_parameters_iff.symm)
  have file : i.all.findSome? Item.path? = j.all.findSome? Item.path? := h.file
  have format : (i.all.findSome? Item.format?).getD .text =
      (j.all.findSome? Item.format?).getD .text := h.format
  simp only [request, demo, strict, file, format]

end Invocation

/-- **The command accepts exactly the invocations, in any order.** Without an argument for help, the
exit code differs from 2 exactly if the arguments are a well-formed invocation. Two invocations that
say the same give the same exit code, output and error wherever reading a file and reading the
standard input give the same. -/
theorem run_accepted_iff {arguments : List String} {s : Surroundings}
    (whole : s.filter.any Log.Filter.isTorn = false)
    (unasked : ∀ text ∈ arguments.takeWhile (· != "--"), ¬ StartsAsHelp text) :
    ((run arguments s).exitCode ≠ 2 ↔ ∃ i : Invocation, i.WellFormed ∧ i.spelling = arguments) ∧
    ∀ i j : Invocation, i.WellFormed → j.WellFormed → i.spelling = arguments → i.Alike j →
      ∀ s' : Surroundings, s'.filter.any Log.Filter.isTorn = false →
        s'.readFile = s.readFile → s'.standardInput = s.standardInput →
          (run j.spelling s').shown = (run arguments s).shown := by
  constructor
  · rw [exitCode_run_ne_two_iff whole unasked]
    constructor
    · rintro ⟨request, asked⟩
      obtain ⟨i, wf, spelled, -⟩ := readArguments_eq_ok_iff.mp asked
      exact ⟨i, wf, spelled⟩
    · rintro ⟨i, wf, spelled⟩
      exact ⟨i.request, readArguments_eq_ok_iff.mpr ⟨i, wf, spelled, rfl⟩⟩
  · intro i j hi hj spelled alike s' whole' files input
    have first := readArguments_eq_ok_iff.mpr ⟨i, hi, spelled, rfl⟩
    have second := readArguments_eq_ok_iff.mpr ⟨j, hj, rfl, alike.request_eq.symm⟩
    have bytes : s'.bytes i.request.origin = s.bytes i.request.origin := by
      cases i.request.origin with
      | sample => rfl
      | file path => rw [Surroundings.bytes, Surroundings.bytes, files]
      | standardInput => rw [Surroundings.bytes, Surroundings.bytes, input]
    rw [shown_run_scan whole' second, shown_run_scan whole first, bytes]

/-- A file in front of the options, or behind the two dashes with the options the other way round. -/
theorem run_accepted_dashes :
    (some "trace").any Log.Filter.isTorn = false ∧
      (∀ text ∈ ["a", "--format", "json", "--strict"].takeWhile (· != "--"),
        ¬ StartsAsHelp text) ∧
      (run ["a", "--format", "json", "--strict"] ⟨(Directory.empty.add "a" "'b".toByteArray).read,
        .ok ByteArray.empty, some "trace"⟩).exitCode ≠ 2 ∧
      (run ["--strict", "--format=json", "--", "a"]
        ⟨(Directory.empty.add "a" "'b".toByteArray).read, .ok ByteArray.empty, none⟩).shown =
        (run ["a", "--format", "json", "--strict"]
          ⟨(Directory.empty.add "a" "'b".toByteArray).read, .ok ByteArray.empty,
            some "trace"⟩).shown := by
  have whole : (some "trace").any Log.Filter.isTorn = false := by decide
  have unasked : ∀ text ∈ ["a", "--format", "json", "--strict"].takeWhile (· != "--"),
      ¬ StartsAsHelp text := by decide
  have first : Invocation.WellFormed ⟨[.operand "a", .format .json false, .strict], none⟩ :=
    ⟨by simp [Item.IsFit], by decide, by decide, by decide⟩
  have second : Invocation.WellFormed ⟨[.strict, .format .json true], some ["a"]⟩ :=
    ⟨by simp [Item.IsFit], by decide, by decide, by decide⟩
  have alike : Invocation.Alike ⟨[.operand "a", .format .json false, .strict], none⟩
      ⟨[.strict, .format .json true], some ["a"]⟩ := ⟨by simp, by simp, rfl, rfl⟩
  obtain ⟨accepted, same⟩ := run_accepted_iff (s := ⟨(Directory.empty.add "a" "'b".toByteArray).read,
    .ok ByteArray.empty, some "trace"⟩) whole unasked
  exact ⟨whole, unasked, accepted.mpr ⟨_, first, rfl⟩,
    same _ _ first second rfl alike _ rfl rfl rfl⟩

end Ixo.Command
