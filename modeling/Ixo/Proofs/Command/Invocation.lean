import Ixo.Command.Arguments
import Mathlib.Data.List.Nodup

/-!
# The language of the command line

The arguments that ask for a scan, as a grammar: items, and behind two dashes operands only
(`Invocation.spelling`), where every parameter is given once at most and the sample excludes an
operand (`Invocation.WellFormed`). The reading of arguments accepts exactly these, and makes of them
what `Invocation.request` says (`readArguments_eq_ok_iff`).

The reading holds a value back until something settles it. So a proof follows its settled form,
which is the start of the reading with the items that were read so far added (`Progress.add`).
-/

set_option autoImplicit false

namespace Ixo.Command

def Format.name : Format → String
  | text => "text"
  | json => "json"

theorem Format.ofName?_eq_some_iff {name : String} {f : Format} :
    Format.ofName? name = some f ↔ name = f.name := by
  unfold Format.ofName?
  split
  · next h => cases f <;> simp [h, Format.name]
  · next text =>
    split
    · next h => cases f <;> simp [h, Format.name]
    · next json => cases f <;> simp [text, json, Format.name]

/-! ## The grammar -/

/-- What an argument says, or two of them. -/
inductive Item where
  | demo
  | strict
  /-- The format, in one argument with its option or in the argument behind it. -/
  | format (value : Format) (joined : Bool)
  | operand (path : String)

namespace Item

def parameter : Item → Parameter
  | demo => .demo
  | strict => .strict
  | format .. => .format
  | operand _ => .file

def format? : Item → Option Format
  | format value _ => some value
  | _ => none

def path? : Item → Option String
  | operand path => some path
  | _ => none

def spelling : Item → List String
  | demo => ["--demo"]
  | strict => ["--strict"]
  | format value true => ["--format=" ++ value.name]
  | format value false => ["--format", value.name]
  | operand path => [path]

/-- An operand is not empty, and only one that is a lone dash starts with a dash. -/
def IsFit : Item → Prop
  | operand path => path ≠ "" ∧ (path.toList.head? = some '-' → path = "-")
  | _ => True

end Item

/-- Arguments that ask for a scan. -/
structure Invocation where
  items : List Item
  /-- What stands behind two dashes, if those are there. -/
  trailing : Option (List String)

namespace Invocation

/-- The items, those behind the dashes among them. -/
def all (i : Invocation) : List Item := i.items ++ (i.trailing.getD []).map .operand

def spelling (i : Invocation) : List String :=
  i.items.flatMap Item.spelling ++ i.trailing.elim [] ("--" :: ·)

def parameters (i : Invocation) : List Parameter := i.all.map Item.parameter

structure WellFormed (i : Invocation) : Prop where
  fit : ∀ item ∈ i.items, item.IsFit
  filled : ∀ path ∈ i.trailing.getD [], path ≠ ""
  once : i.parameters.Nodup
  apart : ¬ (.demo ∈ i.parameters ∧ .file ∈ i.parameters)

/-- What is asked for: the sample if it is, else the file that is named, else the standard input. -/
def request (i : Invocation) : Request where
  origin :=
    if .demo ∈ i.parameters then .sample
    else (i.all.findSome? Item.path?).elim .standardInput .file
  mode := if .strict ∈ i.parameters then .strict else .lenient
  format := (i.all.findSome? Item.format?).getD .text

end Invocation

/-! ## The forms of an argument -/

namespace Argument

theorem ofText_eq_separator_iff {text : String} : ofText text = .separator ↔ text = "--" := by
  constructor
  · intro h
    unfold ofText at h
    split at h
    · next dashes => exact String.toList_inj.mp dashes
    all_goals cases h
  · rintro rfl
    rfl

/-- A name of an option with its dashes, and behind it the value after an equals sign. -/
theorem eq_of_ofText_eq_long {text name : String} {value : Option String}
    (h : ofText text = .long name value) :
    text = "--" ++ name ++ value.elim "" ("=" ++ ·) := by
  unfold ofText at h
  split at h
  case h_2 cs _ htext =>
    obtain ⟨rfl, rfl⟩ := Argument.long.inj h
    apply String.toList_inj.mp
    calc text.toList = '-' :: '-' :: (cs.takeWhile (· != '=') ++ cs.dropWhile (· != '=')) := by
          rw [htext, List.takeWhile_append_dropWhile]
      _ = _ := by
          cases hcs : cs.dropWhile (· != '=') with
          | nil => simp
          | cons c value =>
              have sign := List.head?_dropWhile_not (· != '=') cs
              rw [hcs] at sign
              obtain rfl : c = '=' := by simpa using sign
              simp
  all_goals cases h

/-- What starts with a dash and goes on is no operand. -/
theorem ofText_eq_operand_iff {text operand : String} :
    ofText text = .operand operand ↔
      operand = text ∧ (text.toList.head? = some '-' → text = "-") := by
  constructor
  · intro h
    unfold ofText at h
    split at h
    case h_4 _ _ short =>
      refine ⟨(Argument.operand.inj h).symm, fun dash => String.toList_inj.mp ?_⟩
      cases hcs : text.toList with
      | nil => simp [hcs] at dash
      | cons c cs =>
          rw [hcs] at dash
          obtain rfl := Option.some.inj dash
          cases cs with
          | nil => rfl
          | cons d ds => exact absurd hcs (short d ds)
    all_goals cases h
  · rintro ⟨rfl, lone⟩
    have contra : ∀ c cs, operand.toList ≠ '-' :: c :: cs := by
      intro c cs h
      rw [lone (by rw [h]; rfl)] at h
      cases h
    unfold ofText
    split
    · next h => exact absurd h (contra _ _)
    · next h => exact absurd h (contra _ _)
    · next h => exact absurd h (contra _ _)
    · rfl

end Argument

/-! ## Settling -/

theorem bind_eq_ok_iff {ε α β : Type} {x : Except ε α} {f : α → Except ε β} {b : β} :
    x >>= f = .ok b ↔ ∃ a, x = .ok a ∧ f a = .ok b := by
  cases x with
  | error e =>
      constructor
      · intro h
        cases h
      · rintro ⟨a, h, -⟩
        cases h
  | ok a =>
      constructor
      · exact fun h => ⟨a, rfl, h⟩
      · rintro ⟨a', h, hf⟩
        cases h
        exact hf

namespace Progress

/-- A settled reading with one item more. -/
def add (p : Progress) (item : Item) : Progress :=
  ⟨p.given ++ [item.parameter], item.format?.getD p.format, item.path?.or p.file, .nothing⟩

def addAll (p : Progress) (items : List Item) : Progress := items.foldl add p

theorem given_addAll (p : Progress) (items : List Item) :
    (p.addAll items).given = p.given ++ items.map Item.parameter := by
  induction items generalizing p with
  | nil => exact (List.append_nil _).symm
  | cons item items ih =>
      show ((p.add item).addAll items).given = _
      rw [ih, add, List.append_assoc, List.singleton_append, List.map_cons]

/-- No item asks for help. -/
theorem help_notMem_add {p : Progress} (helpless : .help ∉ p.given) (item : Item) :
    .help ∉ (p.add item).given := by
  intro h
  rcases List.mem_append.mp h with h | h
  · exact helpless h
  · cases item <;> cases List.mem_singleton.mp h

/-- What holds of every reading that can still ask for a scan. -/
structure Sound (p : Progress) : Prop where
  once : p.given.Nodup
  helpless : .help ∉ p.given
  file : p.file.isSome = true ↔ .file ∈ p.given

theorem sound_start : start.Sound := ⟨List.nodup_nil, List.not_mem_nil, by simp [start]⟩

theorem Sound.add {p : Progress} (sound : p.Sound) {item : Item}
    (fresh : item.parameter ∉ p.given) : (p.add item).Sound where
  once := by
    rw [Progress.add, List.nodup_append_comm]
    exact List.nodup_cons.mpr ⟨fresh, sound.once⟩
  helpless := help_notMem_add sound.helpless item
  file := by
    have before := sound.file
    cases item <;> simp [Progress.add, Item.path?, Item.parameter, before]

/-- What is pending does not matter to it. -/
theorem Sound.pend {p : Progress} (sound : p.Sound) (pending : Pending) :
    (⟨p.given, p.format, p.file, pending⟩ : Progress).Sound :=
  ⟨sound.once, sound.helpless, sound.file⟩

theorem give_eq_ok_iff {p q : Progress} {parameter : Parameter} :
    p.give parameter = .ok q ↔
      parameter ∉ p.given ∧ q = ⟨p.given ++ [parameter], p.format, p.file, .nothing⟩ := by
  unfold give
  split
  · next given =>
    constructor
    · intro h
      cases h
    · exact fun h => absurd given h.1
  · next fresh =>
    constructor
    · intro h
      cases h
      exact ⟨fresh, rfl⟩
    · rintro ⟨-, rfl⟩
      rfl

theorem giveFormat_eq_ok_iff {p q : Progress} {value : String} (joined : Bool) :
    p.giveFormat value = .ok q ↔
      .format ∉ p.given ∧ ∃ f, value = f.name ∧ q = p.add (.format f joined) := by
  rw [giveFormat, bind_eq_ok_iff]
  simp only [give_eq_ok_iff]
  constructor
  · rintro ⟨_, ⟨fresh, rfl⟩, h⟩
    split at h
    · next f hf =>
      cases h
      exact ⟨fresh, f, Format.ofName?_eq_some_iff.mp hf, rfl⟩
    · cases h
  · rintro ⟨fresh, f, hf, rfl⟩
    refine ⟨_, ⟨fresh, rfl⟩, ?_⟩
    rw [Format.ofName?_eq_some_iff.mpr hf]
    rfl

theorem giveFile_eq_ok_iff {p q : Progress} {path : String} :
    p.giveFile path = .ok q ↔ .file ∉ p.given ∧ path ≠ "" ∧ q = p.add (.operand path) := by
  rw [giveFile, bind_eq_ok_iff]
  simp only [give_eq_ok_iff]
  constructor
  · rintro ⟨_, ⟨fresh, rfl⟩, h⟩
    split at h
    · cases h
    · next filled =>
      cases h
      exact ⟨fresh, filled, rfl⟩
  · rintro ⟨fresh, filled, rfl⟩
    refine ⟨_, ⟨fresh, rfl⟩, ?_⟩
    rw [if_neg filled]
    rfl

/-- What was pending has become an item. -/
theorem settle_cases {p q : Progress} (h : p.settle = .ok q) :
    (p.pending = .nothing ∧ q = p) ∨
      (∃ f : Format, p.pending = .format (some f.name) ∧ .format ∉ p.given ∧
        q = p.add (.format f false)) ∨
      ∃ path, p.pending = .file path ∧ path ≠ "" ∧ .file ∉ p.given ∧ q = p.add (.operand path) := by
  unfold settle at h
  split at h
  · next pending =>
    cases h
    exact Or.inl ⟨pending, rfl⟩
  · cases h
  · next value pending =>
    obtain ⟨fresh, f, rfl, rfl⟩ := (giveFormat_eq_ok_iff false).mp h
    exact Or.inr (Or.inl ⟨f, pending, fresh, rfl⟩)
  · next path pending =>
    obtain ⟨fresh, filled, rfl⟩ := giveFile_eq_ok_iff.mp h
    exact Or.inr (Or.inr ⟨path, pending, filled, fresh, rfl⟩)

theorem settle_of_pending_nothing {p : Progress} (h : p.pending = .nothing) :
    p.settle = .ok p := by
  unfold settle
  rw [h]

theorem settle_ne_ok {p q : Progress} (h : p.pending = .format none) : p.settle ≠ .ok q := by
  unfold settle
  rw [h]
  intro h
  cases h

/-- Settling keeps a reading sound, and an operand that was pending is given afterwards. -/
theorem Sound.settle {p q : Progress} (sound : p.Sound) (h : p.settle = .ok q) :
    q.Sound ∧ q.pending = .nothing ∧ (p.hasFile = true ↔ .file ∈ q.given) := by
  rcases settle_cases h with
    ⟨pending, rfl⟩ | ⟨f, pending, fresh, rfl⟩ | ⟨path, pending, -, fresh, rfl⟩
  · refine ⟨sound, pending, ?_⟩
    rw [hasFile, pending]
    exact sound.file
  · refine ⟨sound.add fresh, rfl, ?_⟩
    rw [hasFile, pending]
    simp [sound.file, Progress.add, Item.parameter]
  · refine ⟨sound.add fresh, rfl, ?_⟩
    simp [hasFile, pending, Progress.add, Item.parameter]

/-! ## One argument -/

theorem await_eq_ok_iff {p p' : Progress} {pending : Pending} :
    p.await pending = .ok p' ↔
      ∃ q, p.settle = .ok q ∧ p' = ⟨q.given, q.format, q.file, pending⟩ := by
  rw [await, bind_eq_ok_iff]
  constructor
  · rintro ⟨q, settled, h⟩
    cases h
    exact ⟨q, settled, rfl⟩
  · rintro ⟨q, settled, rfl⟩
    exact ⟨q, settled, rfl⟩

theorem takeOperand_eq_ok_iff {p p' : Progress} {text : String} :
    p.takeOperand text = .ok p' ↔ p.hasFile ≠ true ∧
      ∃ q, p.settle = .ok q ∧ p' = ⟨q.given, q.format, q.file, .file text⟩ := by
  unfold takeOperand
  split
  · next known =>
    constructor
    · intro h
      cases h
    · exact fun h => absurd known h.1
  · next single =>
    rw [await_eq_ok_iff]
    exact ⟨fun h => ⟨single, h⟩, fun h => h.2⟩

theorem takeFlag_eq_ok_iff {p p' : Progress} {flag : Parameter} {value : Option String} :
    p.takeFlag flag value = .ok p' ↔ value = none ∧ ∃ q, p.settle = .ok q ∧ flag ∉ q.given ∧
      p' = ⟨q.given ++ [flag], q.format, q.file, .nothing⟩ := by
  cases value with
  | some value =>
      constructor
      · intro h
        cases h
      · rintro ⟨h, -⟩
        cases h
  | none =>
      rw [takeFlag, bind_eq_ok_iff]
      simp only [give_eq_ok_iff, true_and]

/-- An argument is taken as an item, as the option of a format or as an operand, which settles what
was pending, or it is the value that was waited for. Asking for help leads to no scan. -/
theorem take_cases {p p' : Progress} {text : String} (sound : p.Sound)
    (h : p.take (Argument.ofText text) = .ok p') (separator : text ≠ "--")
    (helpless : .help ∉ p'.given) :
    (p.pending = .format none ∧ p' = ⟨p.given, p.format, p.file, .format (some text)⟩) ∨
      ∃ q, p.settle = .ok q ∧
        ((∃ item : Item, item.spelling = [text] ∧ item.IsFit ∧ item.parameter ∉ q.given ∧
            p' = q.add item) ∨
          (text = "--format" ∧ p' = ⟨q.given, q.format, q.file, .format none⟩) ∨
          ((text.toList.head? = some '-' → text = "-") ∧ .file ∉ q.given ∧
            p' = ⟨q.given, q.format, q.file, .file text⟩)) := by
  have asked : ∀ {value : Option String}, p.takeFlag .help value ≠ .ok p' := by
    intro value h
    obtain ⟨-, q, -, -, rfl⟩ := takeFlag_eq_ok_iff.mp h
    exact helpless (List.mem_append_right _ (List.mem_singleton_self _))
  unfold take at h
  split at h
  · next value htext =>
    obtain ⟨rfl, q, settled, fresh, rfl⟩ := takeFlag_eq_ok_iff.mp h
    have := Argument.eq_of_ofText_eq_long htext
    exact Or.inr ⟨q, settled, Or.inl ⟨.demo, by rw [this]; rfl, trivial, fresh, rfl⟩⟩
  · next value htext =>
    obtain ⟨rfl, q, settled, fresh, rfl⟩ := takeFlag_eq_ok_iff.mp h
    have := Argument.eq_of_ofText_eq_long htext
    exact Or.inr ⟨q, settled, Or.inl ⟨.strict, by rw [this]; rfl, trivial, fresh, rfl⟩⟩
  · exact absurd h asked
  · next value htext =>
    have spelled := Argument.eq_of_ofText_eq_long htext
    cases value with
    | none =>
        obtain ⟨q, settled, rfl⟩ := await_eq_ok_iff.mp h
        exact Or.inr ⟨q, settled, Or.inr (Or.inl ⟨by rw [spelled]; rfl, rfl⟩)⟩
    | some value =>
        obtain ⟨q, settled, hq⟩ := bind_eq_ok_iff.mp h
        obtain ⟨fresh, f, rfl, rfl⟩ := (giveFormat_eq_ok_iff true).mp hq
        refine Or.inr ⟨q, settled, Or.inl ⟨.format f true, ?_, trivial, fresh, rfl⟩⟩
        rw [spelled, Option.elim_some, ← String.append_assoc]
        rfl
  · cases h
  · exact absurd h asked
  · cases h
  · next operand htext =>
    obtain ⟨rfl, lone⟩ := Argument.ofText_eq_operand_iff.mp htext
    split at h
    · next pending =>
      cases h
      exact Or.inl ⟨pending, rfl⟩
    · obtain ⟨single, q, settled, rfl⟩ := takeOperand_eq_ok_iff.mp h
      have fresh := mt (sound.settle settled).2.2.mpr single
      exact Or.inr ⟨q, settled, Or.inr (Or.inr ⟨lone, fresh, rfl⟩)⟩
  · next htext => exact absurd (Argument.ofText_eq_separator_iff.mp htext) separator

/-! ## Whole readings -/

theorem read_cons {p : Progress} {text : String} (texts : List String) (separator : text ≠ "--") :
    p.read (text :: texts) = p.take (Argument.ofText text) >>= fun p' =>
      if .help ∈ p'.given then .ok .help else p'.read texts := by
  rw [read]
  split
  · next h => exact absurd (Argument.ofText_eq_separator_iff.mp h) separator
  · rfl

theorem read_separator (p : Progress) (texts : List String) :
    p.read ("--" :: texts) = p.readOperands texts := by
  rw [read]
  rfl

/-- One argument of a reading that asks for a scan. -/
theorem exists_take_of_read {p : Progress} {text : String} {texts : List String}
    {request : Request} (separator : text ≠ "--")
    (h : p.read (text :: texts) = .ok (.scan request)) :
    ∃ p', p.take (Argument.ofText text) = .ok p' ∧ .help ∉ p'.given ∧
      p'.read texts = .ok (.scan request) := by
  rw [read_cons texts separator, bind_eq_ok_iff] at h
  obtain ⟨p', hp', h⟩ := h
  split at h
  · cases h
  · next helpless => exact ⟨p', hp', helpless, h⟩

theorem finish_of_settle {p q : Progress} (settled : p.settle = .ok q)
    (rest : q.pending = .nothing) : p.finish = q.finish := by
  rw [finish, finish, settled, settle_of_pending_nothing rest]

theorem exists_settle_of_readOperands {p : Progress} {texts : List String} {d : Demand}
    (h : p.readOperands texts = .ok d) : ∃ q, p.settle = .ok q := by
  cases texts with
  | nil =>
      obtain ⟨q, settled, -⟩ := bind_eq_ok_iff.mp h
      exact ⟨q, settled⟩
  | cons text texts =>
      obtain ⟨p', taken, -⟩ := bind_eq_ok_iff.mp h
      obtain ⟨-, q, settled, -⟩ := takeOperand_eq_ok_iff.mp taken
      exact ⟨q, settled⟩

/-- A reading that asks for a scan can be settled, unless it waits for the value of the format. -/
theorem exists_settle_of_read {p : Progress} (sound : p.Sound) {texts : List String}
    {request : Request} (h : p.read texts = .ok (.scan request)) :
    (∃ q, p.settle = .ok q) ∨ p.pending = .format none ∧ ∃ text rest, texts = text :: rest ∧
      (⟨p.given, p.format, p.file, .format (some text)⟩ : Progress).read rest =
        .ok (.scan request) := by
  cases texts with
  | nil =>
      obtain ⟨q, settled, -⟩ := bind_eq_ok_iff.mp h
      exact Or.inl ⟨q, settled⟩
  | cons text texts =>
      by_cases separator : text = "--"
      · rw [separator, read_separator] at h
        exact Or.inl (exists_settle_of_readOperands h)
      · obtain ⟨p', hp', helpless, h⟩ := exists_take_of_read separator h
        rcases take_cases sound hp' separator helpless with ⟨pending, rfl⟩ | ⟨q, settled, -⟩
        · exact Or.inr ⟨pending, text, texts, rfl, h⟩
        · exact Or.inl ⟨q, settled⟩

/-- A settled reading that goes on with an invocation and then asks for a scan. -/
structure Yields (q : Progress) (i : Invocation) (request : Request) : Prop where
  fit : ∀ item ∈ i.items, item.IsFit
  filled : ∀ path ∈ i.trailing.getD [], path ≠ ""
  once : (q.addAll i.all).given.Nodup
  finish : (q.addAll i.all).finish = .ok (.scan request)

theorem yields_cons_iff {q : Progress} {item : Item} {items : List Item}
    {trailing : Option (List String)} {request : Request} :
    q.Yields ⟨item :: items, trailing⟩ request ↔
      item.IsFit ∧ (q.add item).Yields ⟨items, trailing⟩ request := by
  constructor
  · intro h
    obtain ⟨fit, more⟩ := List.forall_mem_cons.mp h.fit
    exact ⟨fit, more, h.filled, h.once, h.finish⟩
  · rintro ⟨fit, h⟩
    exact ⟨List.forall_mem_cons.mpr ⟨fit, h.fit⟩, h.filled, h.once, h.finish⟩

theorem yields_operand_iff {q : Progress} {path : String} {paths : List String}
    {request : Request} :
    q.Yields ⟨[], some (path :: paths)⟩ request ↔
      path ≠ "" ∧ (q.add (.operand path)).Yields ⟨[], some paths⟩ request := by
  constructor
  · intro h
    obtain ⟨filled, more⟩ := List.forall_mem_cons.mp h.filled
    exact ⟨filled, h.fit, more, h.once, h.finish⟩
  · rintro ⟨filled, h⟩
    exact ⟨h.fit, List.forall_mem_cons.mpr ⟨filled, h.filled⟩, h.once, h.finish⟩

/-- No parameter is given that has been given before. -/
theorem not_mem_of_once {q : Progress} {item : Item} {items : List Item}
    (once : ((q.add item).addAll items).given.Nodup) : item.parameter ∉ q.given := by
  rw [given_addAll, add] at once
  have first := (List.nodup_append.mp once).1
  intro given
  exact (List.nodup_append.mp first).2.2 _ given _ (List.mem_singleton_self _) rfl

/-- The reading of operands follows the grammar. -/
theorem readOperands_eq_ok_iff {p q : Progress} (sound : p.Sound) (settled : p.settle = .ok q)
    {paths : List String} {request : Request} :
    p.readOperands paths = .ok (.scan request) ↔ q.Yields ⟨[], some paths⟩ request := by
  induction paths generalizing p q with
  | nil =>
      obtain ⟨sound', rest, -⟩ := sound.settle settled
      rw [readOperands, finish_of_settle settled rest]
      exact ⟨fun h => ⟨List.forall_mem_nil _, List.forall_mem_nil _, sound'.once, h⟩,
        fun h => h.finish⟩
  | cons path paths ih =>
      obtain ⟨sound', -, hasFile⟩ := sound.settle settled
      have sound'' := sound'.pend (.file path)
      rw [yields_operand_iff, readOperands, bind_eq_ok_iff]
      constructor
      · rintro ⟨p', taken, h⟩
        obtain ⟨-, q', settled', rfl⟩ := takeOperand_eq_ok_iff.mp taken
        rw [settled] at settled'
        cases settled'
        obtain ⟨q', settled'⟩ := exists_settle_of_readOperands h
        obtain ⟨-, filled, rfl⟩ := giveFile_eq_ok_iff.mp settled'
        exact ⟨filled, (ih sound'' settled').mp h⟩
      · rintro ⟨filled, h⟩
        -- no operand is known yet, or the grammar would have a second one
        have fresh := not_mem_of_once h.once
        have taken : p.takeOperand path = .ok ⟨q.given, q.format, q.file, .file path⟩ :=
          takeOperand_eq_ok_iff.mpr ⟨mt hasFile.mp fresh, q, settled, rfl⟩
        have settled' := giveFile_eq_ok_iff.mpr ⟨fresh, filled, rfl⟩
        exact ⟨_, taken, (ih sound'' settled').mpr h⟩

/-- The argument behind the option of a format is its value. -/
theorem exists_format_of_read {q : Progress} (sound : q.Sound) {texts : List String}
    {request : Request}
    (h : (⟨q.given, q.format, q.file, .format none⟩ : Progress).read texts =
      .ok (.scan request)) :
    ∃ (p : Progress) (f : Format) (rest : List String), texts = f.name :: rest ∧ p.Sound ∧
      p.settle = .ok (q.add (.format f false)) ∧ p.read rest = .ok (.scan request) := by
  rcases exists_settle_of_read (sound.pend _) h with ⟨q', settled⟩ | ⟨-, value, rest, rfl, hrest⟩
  · exact absurd settled (settle_ne_ok rfl)
  · rcases exists_settle_of_read (sound.pend _) hrest with ⟨q', settled⟩ | ⟨pending, -⟩
    · obtain ⟨-, f, rfl, rfl⟩ := (giveFormat_eq_ok_iff false).mp settled
      exact ⟨_, f, rest, rfl, sound.pend _, settled, hrest⟩
    · cases pending

theorem settle_of_read_operand {q : Progress} (sound : q.Sound) {path : String}
    {texts : List String} {request : Request}
    (h : (⟨q.given, q.format, q.file, .file path⟩ : Progress).read texts = .ok (.scan request)) :
    path ≠ "" ∧ (⟨q.given, q.format, q.file, .file path⟩ : Progress).settle =
      .ok (q.add (.operand path)) := by
  rcases exists_settle_of_read (sound.pend _) h with ⟨q', settled⟩ | ⟨pending, -⟩
  · obtain ⟨-, filled, rfl⟩ := giveFile_eq_ok_iff.mp settled
    exact ⟨filled, settled⟩
  · cases pending

/-- A reading that asks for a scan has read an invocation. -/
theorem exists_yields_of_read {p q : Progress} (sound : p.Sound) (settled : p.settle = .ok q)
    {texts : List String} {request : Request} (h : p.read texts = .ok (.scan request)) :
    ∃ i : Invocation, i.spelling = texts ∧ q.Yields i request := by
  -- by recursion on the arguments; the option of a format takes two of them
  obtain ⟨sound', rest, -⟩ := sound.settle settled
  cases texts with
  | nil =>
      rw [read, finish_of_settle settled rest] at h
      exact ⟨⟨[], none⟩, rfl, List.forall_mem_nil _, List.forall_mem_nil _, sound'.once, h⟩
  | cons text texts =>
      by_cases separator : text = "--"
      · subst separator
        rw [read_separator, readOperands_eq_ok_iff sound settled] at h
        exact ⟨⟨[], some texts⟩, rfl, h⟩
      · obtain ⟨p', hp', helpless, hmore⟩ := exists_take_of_read separator h
        rcases take_cases sound hp' separator helpless with ⟨pending, -⟩ | ⟨q', settled', taken⟩
        · exact absurd settled (settle_ne_ok pending)
        · rw [settled] at settled'
          cases settled'
          rcases taken with ⟨item, spelled, fit, fresh, rfl⟩ | ⟨rfl, rfl⟩ | ⟨lone, -, rfl⟩
          · obtain ⟨i, rfl, hi⟩ := exists_yields_of_read (sound'.add fresh)
              (settle_of_pending_nothing rfl) hmore
            refine ⟨⟨item :: i.items, i.trailing⟩, ?_, yields_cons_iff.mpr ⟨fit, hi⟩⟩
            rw [Invocation.spelling, List.flatMap_cons, spelled, List.append_assoc]
            rfl
          · obtain ⟨p'', f, texts, rfl, sound'', settled'', hmore⟩ :=
              exists_format_of_read sound' hmore
            obtain ⟨i, rfl, hi⟩ := exists_yields_of_read sound'' settled'' hmore
            exact ⟨⟨.format f false :: i.items, i.trailing⟩, rfl,
              yields_cons_iff.mpr ⟨trivial, hi⟩⟩
          · obtain ⟨filled, settled''⟩ := settle_of_read_operand sound' hmore
            obtain ⟨i, rfl, hi⟩ := exists_yields_of_read (sound'.pend _) settled'' hmore
            exact ⟨⟨.operand text :: i.items, i.trailing⟩, rfl,
              yields_cons_iff.mpr ⟨⟨filled, lone⟩, hi⟩⟩
termination_by texts.length

/-- The reading goes on behind an argument that did not ask for help. -/
theorem read_of_take {p p' : Progress} {text : String} (separator : text ≠ "--")
    (taken : p.take (Argument.ofText text) = .ok p') (sound : p'.Sound) (texts : List String) :
    p.read (text :: texts) = p'.read texts := by
  rw [read_cons texts separator, taken]
  exact if_neg sound.helpless

/-- An item is read off the arguments, and can be settled behind it. -/
theorem exists_read_item {p q : Progress} (sound : p.Sound) (settled : p.settle = .ok q)
    {item : Item} (fit : item.IsFit) (fresh : item.parameter ∉ q.given) :
    ∃ p' : Progress, p'.Sound ∧ p'.settle = .ok (q.add item) ∧
      ∀ texts, p.read (item.spelling ++ texts) = p'.read texts := by
  obtain ⟨sound', -, hasFile⟩ := sound.settle settled
  have flag : ∀ parameter ∉ q.given, p.takeFlag parameter none =
      .ok ⟨q.given ++ [parameter], q.format, q.file, .nothing⟩ := fun parameter fresh =>
    takeFlag_eq_ok_iff.mpr ⟨rfl, q, settled, fresh, rfl⟩
  cases item with
  | demo =>
      exact ⟨_, sound'.add fresh, settle_of_pending_nothing rfl,
        read_of_take (by decide) (flag .demo fresh) (sound'.add fresh)⟩
  | strict =>
      exact ⟨_, sound'.add fresh, settle_of_pending_nothing rfl,
        read_of_take (by decide) (flag .strict fresh) (sound'.add fresh)⟩
  | format f joined =>
      cases joined with
      | true =>
          have separator : "--format=" ++ f.name ≠ "--" := by cases f <;> decide
          have form : Argument.ofText ("--format=" ++ f.name) = .long "format" (some f.name) := by
            cases f <;> rfl
          have taken : p.take (Argument.ofText ("--format=" ++ f.name)) =
              .ok (q.add (.format f true)) := by
            rw [form]
            show p.takeFormat (some f.name) = _
            rw [takeFormat, settled]
            exact (giveFormat_eq_ok_iff true).mpr ⟨fresh, f, rfl, rfl⟩
          exact ⟨_, sound'.add fresh, settle_of_pending_nothing rfl,
            read_of_take separator taken (sound'.add fresh)⟩
      | false =>
          have named : p.take (Argument.ofText "--format") =
              .ok ⟨q.given, q.format, q.file, .format none⟩ := by
            show p.takeFormat none = _
            exact await_eq_ok_iff.mpr ⟨q, settled, rfl⟩
          have separator : f.name ≠ "--" := by cases f <;> decide
          have value : (⟨q.given, q.format, q.file, .format none⟩ : Progress).take
              (Argument.ofText f.name) =
                .ok ⟨q.given, q.format, q.file, .format (some f.name)⟩ := by
            cases f <;> rfl
          refine ⟨⟨q.given, q.format, q.file, .format (some f.name)⟩, sound'.pend _,
            (giveFormat_eq_ok_iff false).mpr ⟨fresh, f, rfl, rfl⟩, fun texts => ?_⟩
          exact (read_of_take (by decide) named (sound'.pend _) _).trans
            (read_of_take separator value (sound'.pend _) texts)
  | operand path =>
      obtain ⟨filled, lone⟩ := fit
      have separator : path ≠ "--" := by
        rintro rfl
        exact absurd (lone rfl) (by decide)
      refine ⟨⟨q.given, q.format, q.file, .file path⟩, sound'.pend _,
        giveFile_eq_ok_iff.mpr ⟨fresh, filled, rfl⟩, read_of_take separator ?_ (sound'.pend _)⟩
      rw [Argument.ofText_eq_operand_iff.mpr ⟨rfl, lone⟩, take]
      split
      · next pending => exact absurd settled (settle_ne_ok pending)
      · exact takeOperand_eq_ok_iff.mpr ⟨mt hasFile.mp fresh, q, settled, rfl⟩

/-- **The reading of arguments follows the grammar.** -/
theorem read_eq_ok_iff {p q : Progress} (sound : p.Sound) (settled : p.settle = .ok q)
    {texts : List String} {request : Request} :
    p.read texts = .ok (.scan request) ↔
      ∃ i : Invocation, i.spelling = texts ∧ q.Yields i request := by
  refine ⟨exists_yields_of_read sound settled, ?_⟩
  rintro ⟨⟨items, trailing⟩, rfl, h⟩
  -- an item may stay pending behind its own arguments, so `p` changes with `q`, its settled form
  induction items generalizing p q with
  | nil =>
      cases trailing with
      | none =>
          obtain ⟨-, rest, -⟩ := sound.settle settled
          exact (finish_of_settle settled rest).trans h.finish
      | some paths =>
          show p.read ("--" :: paths) = _
          rw [read_separator]
          exact (readOperands_eq_ok_iff sound settled).mpr h
  | cons item items ih =>
      obtain ⟨fit, h⟩ := yields_cons_iff.mp h
      obtain ⟨p', sound', settled', goesOn⟩ :=
        exists_read_item sound settled fit (not_mem_of_once h.once)
      rw [Invocation.spelling, List.flatMap_cons, List.append_assoc, goesOn]
      exact ih sound' settled' h

/-! ## What is asked for -/

/-- The sample and an operand are both given exactly if two such parameters are. -/
theorem exists_filter_eq_cons_cons_iff {given : List Parameter} (once : given.Nodup) :
    (∃ first second rest,
      given.filter (fun x => x = .demo ∨ x = .file) = first :: second :: rest) ↔
      .demo ∈ given ∧ .file ∈ given := by
  have mem : ∀ x, x ∈ given.filter (fun x => x = .demo ∨ x = .file) ↔
      x ∈ given ∧ (x = .demo ∨ x = .file) := by simp
  constructor
  · rintro ⟨first, second, rest, h⟩
    have distinct := once.filter fun x => decide (x = .demo ∨ x = .file)
    rw [h] at distinct mem
    have apart : first ≠ second := List.ne_of_not_mem_cons (List.nodup_cons.mp distinct).1
    obtain ⟨hfirst, one⟩ := (mem first).mp List.mem_cons_self
    obtain ⟨hsecond, other⟩ := (mem second).mp (List.mem_cons_of_mem _ List.mem_cons_self)
    rcases one with rfl | rfl <;> rcases other with rfl | rfl
    · exact absurd rfl apart
    · exact ⟨hfirst, hsecond⟩
    · exact ⟨hsecond, hfirst⟩
    · exact absurd rfl apart
  · rintro ⟨hdemo, hfile⟩
    have hdemo := (mem .demo).mpr ⟨hdemo, Or.inl rfl⟩
    have hfile := (mem .file).mpr ⟨hfile, Or.inr rfl⟩
    match h : given.filter fun x => x = .demo ∨ x = .file with
    | [] =>
        rw [h] at hdemo
        cases hdemo
    | [only] =>
        rw [h] at hdemo hfile
        have := (List.mem_singleton.mp hdemo).trans (List.mem_singleton.mp hfile).symm
        cases this
    | first :: second :: rest => exact ⟨first, second, rest, h⟩

theorem finish_eq_ok_iff {q : Progress} (settled : q.pending = .nothing) (once : q.given.Nodup)
    {request : Request} :
    q.finish = .ok (.scan request) ↔ ¬ (.demo ∈ q.given ∧ .file ∈ q.given) ∧
      ⟨if .demo ∈ q.given then .sample else q.file.elim .standardInput .file,
        if .strict ∈ q.given then .strict else .lenient, q.format⟩ = request := by
  rw [← exists_filter_eq_cons_cons_iff once, finish, settle_of_pending_nothing settled]
  simp only [bind, Except.bind]
  split
  · next first second rest h =>
    constructor
    · intro h
      cases h
    · exact fun apart => absurd ⟨first, second, rest, h⟩ apart.1
  · next apart =>
    have apart : ¬ ∃ first second rest,
        q.given.filter (fun x => x = .demo ∨ x = .file) = first :: second :: rest :=
      fun ⟨first, second, rest, h⟩ => apart first second rest h
    constructor
    · intro h
      cases h
      exact ⟨apart, rfl⟩
    · rintro ⟨-, rfl⟩
      rfl

/-- What only the items of one parameter say is said by the first of them, if each parameter is
given once. -/
theorem said_addAll {β : Type} (get : Progress → Option β) (said? : Item → Option β)
    (parameter : Parameter) (get_add : ∀ q item, get (q.add item) = (said? item).or (get q))
    (other : ∀ item, item.parameter ≠ parameter → said? item = none) (q : Progress)
    {items : List Item} (once : (items.map Item.parameter).Nodup) :
    get (q.addAll items) = (items.findSome? said?).or (get q) := by
  induction items generalizing q with
  | nil => rfl
  | cons item items ih =>
      obtain ⟨fresh, once⟩ := List.nodup_cons.mp once
      show get ((q.add item).addAll items) = _
      rw [ih _ once, get_add, List.findSome?_cons]
      cases hitem : said? item with
      | none => rfl
      | some b =>
          -- no other item can say it once more
          have named : item.parameter = parameter := by
            by_contra h
            rw [other item h] at hitem
            cases hitem
          have unsaid : items.findSome? said? = none :=
            List.findSome?_eq_none_iff.mpr fun next hnext => other next fun e =>
              fresh (named ▸ List.mem_map.mpr ⟨next, hnext, e⟩)
          rw [unsaid]
          rfl

theorem file_addAll (q : Progress) {items : List Item} (once : (items.map Item.parameter).Nodup) :
    (q.addAll items).file = (items.findSome? Item.path?).or q.file := by
  refine said_addAll Progress.file Item.path? .file (fun _ _ => rfl) ?_ q once
  intro item h
  cases item with
  | operand path => exact absurd rfl h
  | _ => rfl

theorem format_addAll (q : Progress) {items : List Item}
    (once : (items.map Item.parameter).Nodup) :
    (q.addAll items).format = (items.findSome? Item.format?).getD q.format := by
  have add : ∀ (q : Progress) (item : Item),
      some (q.add item).format = item.format?.or (some q.format) := by
    intro q item
    cases item <;> rfl
  have other : ∀ item : Item, item.parameter ≠ .format → item.format? = none := by
    intro item h
    cases item with
    | format f joined => exact absurd rfl h
    | _ => rfl
  have said := said_addAll (fun q => some q.format) Item.format? .format add other q once
  rw [Option.or_some] at said
  exact Option.some.inj said

theorem pending_addAll {q : Progress} (settled : q.pending = .nothing) (items : List Item) :
    (q.addAll items).pending = .nothing := by
  induction items generalizing q with
  | nil => exact settled
  | cons item items ih => exact ih rfl

theorem yields_start_iff {i : Invocation} {request : Request} :
    start.Yields i request ↔ i.WellFormed ∧ i.request = request := by
  have given : (start.addAll i.all).given = i.parameters := given_addAll start i.all
  have settled := pending_addAll (q := start) rfl i.all
  have same : i.parameters.Nodup →
      (⟨if .demo ∈ i.parameters then .sample
          else (start.addAll i.all).file.elim .standardInput .file,
        if .strict ∈ i.parameters then .strict else .lenient,
        (start.addAll i.all).format⟩ : Request) = i.request := by
    intro once
    rw [format_addAll start once, file_addAll start once, start, Option.or_none]
    rfl
  constructor
  · rintro ⟨fit, filled, once, finish⟩
    obtain ⟨apart, rfl⟩ := (finish_eq_ok_iff settled once).mp finish
    rw [given] at once apart
    refine ⟨⟨fit, filled, once, apart⟩, ?_⟩
    rw [given, same once]
  · rintro ⟨⟨fit, filled, once, apart⟩, rfl⟩
    have once' := once
    rw [← given] at once' apart
    refine ⟨fit, filled, once', (finish_eq_ok_iff settled once').mpr ⟨apart, ?_⟩⟩
    rw [given, same once]

end Progress

/-- **The arguments that ask for a scan are the well-formed invocations**, and they ask for what
these say. -/
theorem readArguments_eq_ok_iff {arguments : List String} {request : Request} :
    readArguments arguments = .ok (.scan request) ↔
      ∃ i : Invocation, i.WellFormed ∧ i.spelling = arguments ∧ i.request = request := by
  have settled := Progress.settle_of_pending_nothing (p := Progress.start) rfl
  rw [readArguments, Progress.read_eq_ok_iff Progress.sound_start settled]
  constructor
  · rintro ⟨i, spelled, h⟩
    obtain ⟨wf, asked⟩ := Progress.yields_start_iff.mp h
    exact ⟨i, wf, spelled, asked⟩
  · rintro ⟨i, wf, spelled, asked⟩
    exact ⟨i, spelled, Progress.yields_start_iff.mpr ⟨wf, asked⟩⟩

end Ixo.Command
