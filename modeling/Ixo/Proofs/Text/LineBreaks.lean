import Ixo.Proofs.Slice

/-!
# Line breaks

A line break is a line feed, or a carriage return and a line feed. A text is made *uniform* by
taking out every carriage return that stands right in front of a line feed (`uniform`). Whether a
carriage return goes depends on the character behind it, so a part of a text is made uniform with
what stands behind the part; then the parts of a text can be taken one by one (`uniform_append`).
-/

set_option autoImplicit false

namespace Ixo

/-- A carriage return that a line feed follows. -/
abbrev IsBreakReturn (c : Char) (rest : List Char) : Prop :=
  c = '\r' ∧ rest.head? = some '\n'

/-- A text without the carriage returns of its line breaks. The text `rest` stands behind it. -/
def uniform (rest : List Char) : List Char → List Char
  | [] => []
  | c :: cs => if IsBreakReturn c (cs ++ rest) then uniform rest cs else c :: uniform rest cs

/-- The number of carriage returns in the line breaks of a text, with `rest` behind it. -/
def breakReturns (rest : List Char) : List Char → Nat
  | [] => 0
  | c :: cs => (if IsBreakReturn c (cs ++ rest) then 1 else 0) + breakReturns rest cs

variable {rest cs : List Char}

@[simp] theorem uniform_nil : uniform rest [] = [] := rfl

/-- A text in two parts is made uniform part by part. -/
theorem uniform_append (as bs rest : List Char) :
    uniform rest (as ++ bs) = uniform (bs ++ rest) as ++ uniform rest bs := by
  induction as with
  | nil => rfl
  | cons c cs ih =>
      rw [List.cons_append, uniform, uniform, List.append_assoc, ih]
      split
      · rfl
      · rw [List.cons_append]

/-- A character that is no carriage return stays. -/
theorem uniform_cons {c : Char} (h : c ≠ '\r') :
    uniform rest (c :: cs) = c :: uniform rest cs :=
  if_neg fun hc => h hc.1

theorem sublist_uniform (rest cs : List Char) : (uniform rest cs).Sublist cs := by
  induction cs with
  | nil => exact List.Sublist.slnil
  | cons c cs ih =>
      rw [uniform]
      split
      · exact ih.cons c
      · exact ih.cons_cons c

/-- A text without carriage returns is uniform. -/
theorem uniform_eq_self (h : '\r' ∉ cs) : uniform rest cs = cs := by
  induction cs with
  | nil => rfl
  | cons c cs ih =>
      obtain ⟨hc, hcs⟩ := List.ne_and_not_mem_of_not_mem_cons h
      rw [uniform_cons hc.symm, ih hcs]

/-- In a text without line feeds only the last character can be the carriage return of a line
break, one that ends behind the text. -/
theorem uniform_of_not_mem (h : '\n' ∉ cs) :
    uniform rest cs =
      if cs.getLast? = some '\r' ∧ rest.head? = some '\n' then cs.dropLast else cs := by
  induction cs with
  | nil => rfl
  | cons c cs ih =>
      obtain ⟨-, hcs⟩ := List.ne_and_not_mem_of_not_mem_cons h
      cases cs with
      | nil => simp [uniform]
      | cons d ds =>
          have hd : d ≠ '\n' := fun e => hcs (by simp [e])
          rw [uniform, if_neg (by simp [hd]), ih hcs, List.getLast?_cons_cons,
            List.dropLast_cons_cons]
          split <;> rfl

/-- Of what stands behind a text it matters only whether it starts with a line feed. -/
theorem uniform_congr {rest' : List Char} (h : rest.head? = some '\n' ↔ rest'.head? = some '\n') :
    uniform rest cs = uniform rest' cs := by
  induction cs with
  | nil => rfl
  | cons c cs ih =>
      have same : IsBreakReturn c (cs ++ rest) ↔ IsBreakReturn c (cs ++ rest') := by
        cases cs with
        | nil => exact and_congr_right fun _ => h
        | cons d ds => exact Iff.rfl
      simp only [uniform, same, ih]

/-- The first character of a text stays, or it makes room for a line feed. -/
theorem head?_uniform (cs : List Char) :
    (uniform [] cs).head? = cs.head? ∨
      cs.head? = some '\r' ∧ (uniform [] cs).head? = some '\n' := by
  cases cs with
  | nil => exact Or.inl rfl
  | cons c cs =>
      rw [uniform]
      split
      · next hc =>
        obtain ⟨rfl, feed⟩ := hc
        rw [List.append_nil, List.head?_eq_some_iff] at feed
        obtain ⟨ds, rfl⟩ := feed
        right
        rw [uniform_cons (by decide)]
        exact ⟨rfl, rfl⟩
      · exact Or.inl rfl

/-- Every carriage return taken out is one byte less. -/
theorem byteLength_uniform (rest cs : List Char) :
    byteLength (uniform rest cs) + breakReturns rest cs = byteLength cs := by
  induction cs with
  | nil => rfl
  | cons c cs ih =>
      rw [uniform, breakReturns, byteLength_cons]
      split
      · next hc =>
        have one : c.utf8Size = 1 := by
          rw [hc.1]
          decide
        omega
      · rw [byteLength_cons]
        omega

/-- Of two carriage returns in front of a line feed the first one stays. -/
example : uniform [] ['a', '\r', '\r', '\n', '\r'] = ['a', '\r', '\n', '\r'] := by decide

end Ixo
