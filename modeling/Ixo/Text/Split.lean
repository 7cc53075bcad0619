/-!
# Splitting a text

A text cut at every occurrence of one character. There is always one part more than there are
occurrences, and a part may be empty. The first line of a text is what stands before its first
line break.
-/

set_option autoImplicit false

namespace Ixo

/-- The parts of a text between the occurrences of `separator`. -/
def splitAtEach (separator : Char) : List Char → List (List Char)
  | [] => [[]]
  | c :: cs =>
    match splitAtEach separator cs with
    | [] => [[c]]
    | part :: parts => if c = separator then [] :: part :: parts else (c :: part) :: parts

theorem splitAtEach_ne_nil (separator : Char) (cs : List Char) :
    splitAtEach separator cs ≠ [] := by
  cases cs with
  | nil => simp [splitAtEach]
  | cons c cs =>
    rw [splitAtEach]
    split
    · simp
    · split <;> simp

/-- What stands before the first separator is the first part. -/
theorem splitAtEach_append_cons {separator : Char} {cs : List Char} (h : separator ∉ cs)
    (rest : List Char) :
    splitAtEach separator (cs ++ separator :: rest) = cs :: splitAtEach separator rest := by
  induction cs with
  | nil =>
    rw [List.nil_append, splitAtEach]
    split
    · next hrest => exact absurd hrest (splitAtEach_ne_nil separator rest)
    · next part parts hrest => rw [if_pos rfl, hrest]
  | cons c cs ih =>
    have hc : c ≠ separator := fun e => h (by simp [e])
    have hcs : separator ∉ cs := fun hmem => h (List.mem_cons_of_mem c hmem)
    simp only [List.cons_append, splitAtEach, ih hcs, if_neg hc]

/-- The first line of a text. A line break is a line feed, with or without one carriage return in
front of it. A carriage return anywhere else belongs to the line. -/
def firstLine : List Char → List Char
  | [] => []
  | '\n' :: _ => []
  | '\r' :: '\n' :: _ => []
  | c :: cs => c :: firstLine cs

end Ixo
