import Ixo.Dump
import Ixo.Proofs.Json.Layout
import Ixo.Proofs.Json.Reader

/-!
# Reading a JSON dump

A JSON dump is a document that holds the tokens as they are, and nothing else (`jsonDump_decodes`),
so no two lists of tokens have the same dump. Every token stands on eight lines whatever its text
is, as a written string has no line feed of its own.
-/

set_option autoImplicit false

namespace Ixo

/-! ## Tokens as values -/

theorem Kind.key_injective {k k' : Kind} (h : k.key = k'.key) : k = k' := by
  have distinct : ∀ k ∈ all, ∀ k' ∈ all, k.key = k'.key → k = k' := by decide
  exact distinct k (mem_all k) k' (mem_all k') h

theorem Token.toJson_injective : Function.Injective Token.toJson := by
  intro t u h
  obtain ⟨kind, text, offset, len⟩ := t
  obtain ⟨kind', text', offset', len'⟩ := u
  simp only [Token.toJson, Span.toJson, Json.object.injEq, List.cons.injEq, Prod.mk.injEq,
    Json.string.injEq, Json.number.injEq, true_and, and_true] at h
  obtain ⟨hkind, rfl, rfl, rfl⟩ := h
  rw [Kind.key_injective hkind]

/-! ## Lines -/

theorem count_pretty_span (depth : Nat) (s : Span) : (s.toJson.pretty depth).count '\n' = 3 := by
  rw [Span.toJson, Json.count_pretty_object depth (List.cons_ne_nil _ _)]
  simp only [List.flatMap_cons, List.flatMap_nil, List.count_append, Json.pretty,
    Json.count_toDigits]
  rfl

/-- A token has a line for each of its fields, one for its closing bracket, and those of its
span. -/
theorem count_pretty_token (depth : Nat) (t : Token) : (t.toJson.pretty depth).count '\n' = 7 := by
  rw [Token.toJson, Json.count_pretty_object depth (List.cons_ne_nil _ _)]
  simp only [List.flatMap_cons, List.flatMap_nil, List.count_append, count_pretty_span]
  simp only [Json.pretty, Json.count_quoted]
  rfl

theorem toList_jsonDump (ts : List Token) :
    (jsonDump ts).toList = (Json.array (ts.map Token.toJson)).pretty 0 :=
  String.toList_ofList

theorem count_jsonDump {ts : List Token} (filled : ts ≠ []) :
    (jsonDump ts).toList.count '\n' = 8 * ts.length + 1 := by
  have tokens : ∀ ts : List Token,
      ((ts.map Token.toJson).flatMap (Json.pretty 1)).count '\n' = 7 * ts.length := by
    intro ts
    induction ts with
    | nil => rfl
    | cons t ts ih =>
        rw [List.map_cons, List.flatMap_cons, List.count_append, ih, count_pretty_token,
          List.length_cons]
        omega
  rw [toList_jsonDump, Json.count_pretty_array 0 (mt List.map_eq_nil_iff.mp filled), tokens,
    List.length_map]
  omega

/-! ## Dumps -/

/-- A dump holds the tokens, each one as an object of its kind, its text and its span. -/
theorem isDocument_jsonDump (ts : List Token) :
    Json.IsDocument (.array (ts.map Token.toJson)) (jsonDump ts).toList := by
  refine ⟨[], _, [], Json.isSpace_nil, Json.isText_pretty 0 _, Json.isSpace_nil, ?_⟩
  rw [List.nil_append, List.append_nil, toList_jsonDump]

/-- **A JSON dump decodes to its tokens.** It is a document of one value only, the array of the
tokens, each one as an object of the name of its kind, its text and its span, and the reader gives
this array back; so no two lists of tokens have the same dump. The layout does not depend on the
texts: every token stands on eight lines, and the characters below the space are line feeds. -/
theorem jsonDump_decodes :
    (∀ ts : List Token,
      let array : Json := .array (ts.map fun t => .object [
        ("kind", .string t.kind.key), ("text", .string t.text), ("span", .object [
          ("offset", .number t.span.offset), ("len", .number t.span.len)])])
      (∀ v, Json.IsDocument v (jsonDump ts).toList ↔ v = array) ∧
        Json.read? (jsonDump ts).toList = some array) ∧
    Function.Injective jsonDump ∧
    (∀ ts, ts ≠ [] → (jsonDump ts).toList.count '\n' = 8 * ts.length + 1) ∧
    ∀ ts, ∀ c ∈ (jsonDump ts).toList, c < ' ' → c = '\n' := by
  have back : ∀ ts : List Token, Json.read? (jsonDump ts).toList =
      some (.array (ts.map Token.toJson)) := fun ts =>
    Json.read?_of_isDocument (isDocument_jsonDump ts)
  refine ⟨fun ts => ⟨fun v => ⟨fun h => ?_, ?_⟩, back ts⟩, fun ts us same => ?_,
    fun ts => count_jsonDump, fun ts c hc low => ?_⟩
  · have := (Json.read?_of_isDocument h).symm.trans (back ts)
    exact Option.some.inj this
  · rintro rfl
    exact isDocument_jsonDump ts
  · have read := back ts
    rw [same, back us] at read
    exact (List.map_injective_iff.mpr Token.toJson_injective
      (Json.array.inj (Option.some.inj read))).symm
  · rw [toList_jsonDump] at hc
    exact (Json.isLaid_of_mem_pretty 0 _ c hc).resolve_left (Char.not_le.mpr low)

/-- A text that holds a line feed, a quote, a backslash and a text like an escape. -/
theorem jsonDump_decodes_escapes :
    [(⟨.string, "\n\"\\\x01\\u0041", ⟨18446744073709551615, 0⟩⟩ : Token)] ≠ [] ∧
      (jsonDump [⟨.string, "\n\"\\\x01\\u0041",
        ⟨18446744073709551615, 0⟩⟩]).toList.count '\n' = 9 :=
  ⟨List.cons_ne_nil _ _, jsonDump_decodes.2.2.1 _ (List.cons_ne_nil _ _)⟩

end Ixo
