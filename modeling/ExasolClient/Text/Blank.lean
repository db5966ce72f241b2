-- SUMMARY: White space by the Unicode property, and the trimming of a text at both ends.

/-!
# White space

A character is blank when it has the Unicode property `White_Space`: the ASCII
controls from tab to carriage return, the space, and seventeen characters
beyond ASCII. `trim` takes the blank characters off both ends of a text:
`trim_eq_self` says that a text without blank ends is left alone, and
`trim_surrounded` that white space around it is of no account.
-/

namespace ExasolClient.Text

/-- The characters with the Unicode property `White_Space`. -/
def isBlank (c : Char) : Bool :=
  let n := c.toNat
  (9 ≤ n && n ≤ 13) || n == 0x20 || n == 0x85 || n == 0xA0 || n == 0x1680 ||
  (0x2000 ≤ n && n ≤ 0x200A) || n == 0x2028 || n == 0x2029 || n == 0x202F ||
  n == 0x205F || n == 0x3000

/-- Every character that is white space in ASCII is blank. -/
theorem isBlank_of_isWhitespace {c : Char} (h : c.isWhitespace = true) : isBlank c = true := by
  simp only [Char.isWhitespace, Bool.or_eq_true, decide_eq_true_eq] at h
  rcases h with (((rfl | rfl) | rfl) | rfl) <;> decide

/-- The text without the blank characters at its end. -/
def trimEnd (cs : List Char) : List Char :=
  (cs.reverse.dropWhile isBlank).reverse

/-- The text without the blank characters at either end. -/
def trim (cs : List Char) : List Char :=
  trimEnd (cs.dropWhile isBlank)

@[simp]
theorem trim_nil : trim [] = [] := rfl

/-- A text that neither starts nor ends with a blank character is left alone. -/
theorem trim_eq_self {cs : List Char} (first : ∀ c ∈ cs.head?, isBlank c = false)
    (last : ∀ c ∈ cs.getLast?, isBlank c = false) : trim cs = cs := by
  have front : cs.dropWhile isBlank = cs := by
    cases cs with
    | nil => rfl
    | cons c rest => simp [first c rfl]
  have back : cs.reverse.dropWhile isBlank = cs.reverse := by
    rw [← List.head?_reverse] at last
    generalize cs.reverse = ds at last
    cases ds with
    | nil => rfl
    | cons c rest => simp [last c rfl]
  simp [trim, trimEnd, front, back]

/-- What stops the removal at an end of a text is kept, and so is all beyond it. -/
theorem dropWhile_append_cons {p : Char → Bool} {c : Char} (h : p c = false)
    (before after : List Char) :
    (before ++ c :: after).dropWhile p = before.dropWhile p ++ c :: after := by
  rw [List.dropWhile_append, List.dropWhile_cons_of_neg (by simp [h])]
  split
  next hnone =>
    rw [List.isEmpty_iff.1 hnone]
    rfl
  next => rfl

theorem trimEnd_append_cons {c : Char} (h : isBlank c = false) (before after : List Char) :
    trimEnd (before ++ c :: after) = before ++ c :: trimEnd after := by
  simp [trimEnd, dropWhile_append_cons h]

theorem trim_cons {c : Char} (h : isBlank c = false) (rest : List Char) :
    trim (c :: rest) = trimEnd (c :: rest) := by
  rw [trim, List.dropWhile_cons_of_neg (by simp [h])]

/-- White space around a text that neither starts nor ends with any is taken off. -/
theorem trim_surrounded {before rest after : List Char} {c : Char} (first : isBlank c = false)
    (last : ∀ d ∈ (c :: rest).getLast?, isBlank d = false)
    (hbefore : ∀ d ∈ before, isBlank d = true) (hafter : ∀ d ∈ after, isBlank d = true) :
    trim (before ++ c :: rest ++ after) = c :: rest := by
  have hself : trim (c :: rest) = c :: rest :=
    trim_eq_self (fun d hd => Option.mem_some.1 hd ▸ first) last
  have hend : trimEnd (c :: rest ++ after) = trimEnd (c :: rest) := by
    rw [trimEnd, List.reverse_append, List.dropWhile_append_of_pos, trimEnd]
    exact fun d hd => hafter d (List.mem_reverse.1 hd)
  calc trim (before ++ c :: rest ++ after)
      = trim (c :: rest ++ after) := by
        rw [List.append_assoc, trim, List.dropWhile_append_of_pos hbefore, trim]
    _ = trimEnd (c :: rest ++ after) := trim_cons first _
    _ = trimEnd (c :: rest) := hend
    _ = c :: rest := by rw [← trim_cons first, hself]

end ExasolClient.Text
