import Ixo.Proofs.Scan.Tiling

/-!
# Descriptions of tokens

A description prints the text of a token as it is, so the text may hold what the description
itself is made of. It can be told from both ends all the same. The name of a kind has no space, so
it ends at the first one, and a number has no at sign, so it starts behind the last one; what
stands between them is the text in its quotes (`IsDescription.unique`). So tokens with the same
description have the same kind, text and offset, and as the tokens of a source start at different
offsets, each of them has a description of its own (`describe_eq_iff`).
-/

set_option autoImplicit false

namespace Ixo

/-- A text that describes a kind, a text and an offset. -/
def IsDescription (cs : List Char) (kind : Kind) (text : List Char) (offset : Nat) : Prop :=
  ∃ digits, cs = kind.name.toList ++ ' ' :: ('\'' :: (text ++ ['\'', ' ']) ++ '@' :: digits) ∧
    readDigits? digits = some offset

/-! ## The first and the last of some signs -/

section

variable {sign : Char} {as bs cs ds : List Char}

/-- A text is cut in one way at the first of some signs. -/
theorem append_cons_inj_of_first (has : sign ∉ as) (hcs : sign ∉ cs)
    (h : as ++ sign :: bs = cs ++ sign :: ds) : as = cs ∧ bs = ds := by
  have front {body rest : List Char} (hbody : sign ∉ body) :
      (body ++ sign :: rest).takeWhile (· != sign) = body :=
    takeWhile_append_of_stops (forall_bne_iff.mpr hbody) (by simp)
  have same : as = cs := by
    calc as = (as ++ sign :: bs).takeWhile (· != sign) := (front has).symm
      _ = (cs ++ sign :: ds).takeWhile (· != sign) := by rw [h]
      _ = cs := front hcs
  rw [same] at h
  exact ⟨same, (List.cons.inj (List.append_cancel_left h)).2⟩

/-- A text is cut in one way at the last of some signs. -/
theorem append_cons_inj_of_last (hbs : sign ∉ bs) (hds : sign ∉ ds)
    (h : as ++ sign :: bs = cs ++ sign :: ds) : as = cs ∧ bs = ds := by
  -- read backwards, the last sign is the first one
  have back : bs.reverse ++ sign :: as.reverse = ds.reverse ++ sign :: cs.reverse := by
    simpa using congrArg List.reverse h
  obtain ⟨behind, before⟩ :=
    append_cons_inj_of_first (mt List.mem_reverse.mp hbs) (mt List.mem_reverse.mp hds) back
  exact ⟨List.reverse_inj.mp before, List.reverse_inj.mp behind⟩

end

/-! ## Names and numbers -/

namespace Kind

theorem name_injective {k k' : Kind} (h : k.name = k'.name) : k = k' := by
  have distinct : ∀ k ∈ all, ∀ k' ∈ all, k.name = k'.name → k = k' := by decide
  exact distinct k (mem_all k) k' (mem_all k') h

theorem space_notMem_name (k : Kind) : ' ' ∉ k.name.toList := by
  have letters : ∀ k ∈ all, k.name.toList.all Char.isAlpha = true := by decide
  intro space
  cases List.all_eq_true.mp (letters k (mem_all k)) ' ' space

end Kind

/-- A number is read back from its digits. -/
theorem readDigits?_toDigits (n : Nat) : readDigits? (Nat.toDigits 10 n) = some n := by
  have filled : (Nat.toDigits 10 n).isEmpty = false :=
    List.isEmpty_eq_false_iff.mpr Nat.toDigits_ne_nil
  have digits : (Nat.toDigits 10 n).any (!·.isDigit) = false := by
    rw [List.any_eq_false]
    intro d hd
    simpa using Nat.isDigit_of_mem_toDigits (by decide) (by decide) hd
  rw [readDigits?, filled, digits, Nat.ofDigitChars_ten_toDigits]
  rfl

theorem isDigit_of_readDigits? {cs : List Char} {n : Nat} (h : readDigits? cs = some n) :
    ∀ c ∈ cs, c.isDigit = true := by
  intro c hc
  by_contra other
  have found : cs.any (!·.isDigit) = true := List.any_eq_true.mpr ⟨c, hc, by simpa using other⟩
  rw [readDigits?, found, Bool.or_true, if_pos rfl] at h
  cases h

/-! ## Descriptions -/

theorem isDescription_describe (t : Token) :
    IsDescription t.describe.toList t.kind t.text.toList t.span.offset := by
  refine ⟨Nat.toDigits 10 t.span.offset, ?_, readDigits?_toDigits _⟩
  have quoted : " '".toList = [' ', '\''] ∧ "' @".toList = ['\'', ' ', '@'] := ⟨rfl, rfl⟩
  simp only [Token.describe, decimal, String.toList_append, String.toList_ofList, quoted,
    List.append_assoc, List.cons_append, List.nil_append]

/-- **A text describes one token only**, as far as kind, text and offset go. -/
theorem IsDescription.unique {cs text text' : List Char} {k k' : Kind} {n n' : Nat}
    (h : IsDescription cs k text n) (h' : IsDescription cs k' text' n') :
    k = k' ∧ text = text' ∧ n = n' := by
  obtain ⟨digits, rfl, number⟩ := h
  obtain ⟨digits', same, number'⟩ := h'
  have clean {ds : List Char} {m : Nat} (hds : readDigits? ds = some m) : '@' ∉ ds := by
    intro sign
    cases isDigit_of_readDigits? hds '@' sign
  -- from the front up to the first space, from the back up to the last at sign
  obtain ⟨names, rest⟩ :=
    append_cons_inj_of_first k.space_notMem_name k'.space_notMem_name same
  obtain ⟨quoted, numbers⟩ := append_cons_inj_of_last (clean number) (clean number') rest
  refine ⟨Kind.name_injective (String.toList_inj.mp names), ?_, ?_⟩
  · exact List.append_cancel_right (List.cons.inj quoted).2
  · rw [numbers, number'] at number
    exact (Option.some.inj number).symm

/-- **A description tells the token.** Tokens have the same description exactly if they have the
same kind, text and offset, whatever the texts hold. The tokens of a source, in either mode, have
different descriptions. -/
theorem describe_eq_iff :
    (∀ t u : Token, t.describe = u.describe ↔
      t.kind = u.kind ∧ t.text = u.text ∧ t.span.offset = u.span.offset) ∧
    ∀ mode source ts, scan mode source = .ok ts → (ts.map Token.describe).Nodup := by
  have told (t u : Token) (h : t.describe = u.describe) :
      t.kind = u.kind ∧ t.text = u.text ∧ t.span.offset = u.span.offset := by
    have ht := isDescription_describe t
    rw [h] at ht
    obtain ⟨kind, text, offset⟩ := ht.unique (isDescription_describe u)
    exact ⟨kind, String.toList_inj.mp text, offset⟩
  constructor
  · intro t u
    constructor
    · exact told t u
    · rintro ⟨kind, text, offset⟩
      rw [Token.describe, Token.describe, kind, text, offset]
  · intro mode source ts h
    rw [List.Nodup, List.pairwise_map]
    apply (scan_offsets_lt h).imp
    intro t u before same
    have offset := (told t u same).2.2
    omega

/-- Texts that look like the end of a description, one of them of another token. -/
theorem describe_eq_iff_lookalike :
    scan .strict "\"x' @5\"'x' y" = .ok [⟨.string, "x' @5", ⟨0, 7⟩⟩, ⟨.string, "x", ⟨7, 3⟩⟩,
        ⟨.identifier, "y", ⟨11, 1⟩⟩] ∧
      (([⟨.string, "x' @5", ⟨0, 7⟩⟩, ⟨.string, "x", ⟨7, 3⟩⟩,
        ⟨.identifier, "y", ⟨11, 1⟩⟩] : List Token).map Token.describe).Nodup ∧
      (⟨.string, "x' @5", ⟨0, 7⟩⟩ : Token).describe ≠ (⟨.string, "x", ⟨5, 9⟩⟩ : Token).describe := by
  have normal : Reading.Normal .strict
      (.lexeme [] (.literal '"' ['x', '\'', ' ', '@', '5'] true)
        (.lexeme [] (.literal '\'' ['x'] true) (.lexeme [' '] (.word ['y']) (.done [])))) := by
    decide
  have h : scan .strict "\"x' @5\"'x' y" = .ok [⟨.string, "x' @5", ⟨0, 7⟩⟩,
      ⟨.string, "x", ⟨7, 3⟩⟩, ⟨.identifier, "y", ⟨11, 1⟩⟩] :=
    scan_eq_of_normal normal rfl
  refine ⟨h, describe_eq_iff.2 _ _ _ h, fun same => ?_⟩
  exact absurd ((describe_eq_iff.1 _ _).mp same) (by decide)

end Ixo
