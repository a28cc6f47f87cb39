/-
The lines of a text: what stands between its line breaks.

A text that ends in a line break has a last, empty line.
-/

import VpnSuite.Foundations.PythonText

set_option autoImplicit false

namespace VpnSuite.Foundations.PythonText

/-- `text.split("\n")`. -/
def linesOf (chars : List Char) : List (List Char) := chars.splitOn '\n'

/-- `"\n".join(lines)`. -/
def joinLines (lines : List (List Char)) : List Char := ['\n'].intercalate lines

/-- `text.replace("\r\n", "\n")`. -/
def crlfToLf : List Char → List Char
  | [] => []
  | '\r' :: '\n' :: rest => '\n' :: crlfToLf rest
  | char :: rest => char :: crlfToLf rest

@[simp] theorem joinLines_linesOf (chars : List Char) : joinLines (linesOf chars) = chars :=
  List.intercalate_splitOn '\n'

theorem linesOf_of_not_mem {line : List Char} (unbroken : '\n' ∉ line) : linesOf line = [line] :=
  List.splitOn_eq_singleton unbroken

theorem linesOf_append (before after : List Char) :
    linesOf (before ++ '\n' :: after) = linesOf before ++ linesOf after :=
  List.splitOn_append_cons_self before after

theorem linesOf_ne_nil (chars : List Char) : linesOf chars ≠ [] := List.splitOn_ne_nil '\n' chars

theorem not_mem_of_mem_linesOf {chars line : List Char} (member : line ∈ linesOf chars) :
    '\n' ∉ line := by
  induction chars generalizing line with
  | nil =>
      obtain rfl := List.mem_singleton.mp member
      exact List.not_mem_nil
  | cons char rest ih =>
      rw [linesOf, List.splitOn_cons_eq_if_modifyHead] at member
      split at member
      · cases member with
        | head => exact List.not_mem_nil
        | tail _ later => exact ih later
      · rename_i different
        cases lines : linesOf rest with
        | nil => exact absurd lines (linesOf_ne_nil rest)
        | cons first others =>
            change line ∈ (linesOf rest).modifyHead (List.cons char) at member
            rw [lines, List.modifyHead_cons] at member
            cases member with
            | head =>
                have unbroken : '\n' ∉ first := ih (by rw [lines]; exact List.mem_cons_self)
                intro broken
                cases broken with
                | head => exact different rfl
                | tail _ later => exact unbroken later
            | tail _ later => exact ih (by rw [lines]; exact List.mem_cons_of_mem first later)

/-- What stands before a text without line breaks joins its first line. -/
theorem linesOf_append_front {front : List Char} (unbroken : '\n' ∉ front) (chars : List Char) :
    linesOf (front ++ chars) = (linesOf chars).modifyHead (fun line => front ++ line) := by
  induction front with
  | nil => exact (congrFun List.modifyHead_id (linesOf chars)).symm
  | cons char rest ih =>
      rw [List.mem_cons, not_or] at unbroken
      have visible : ¬ (char == '\n') = true := fun same => unbroken.1 (beq_iff_eq.mp same).symm
      have first : linesOf (char :: (rest ++ chars)) =
          (linesOf (rest ++ chars)).modifyHead (List.cons char) := by
        rw [linesOf, List.splitOn_cons_eq_if_modifyHead, if_neg visible]
        rfl
      rw [List.cons_append, first, ih unbroken.2, List.modifyHead_modifyHead]
      rfl

theorem joinLines_cons (line : List Char) {rest : List (List Char)} (more : rest ≠ []) :
    joinLines (line :: rest) = line ++ '\n' :: joinLines rest := by
  rw [joinLines, List.intercalate_cons_of_ne_nil more, List.append_assoc]
  rfl

theorem linesOf_joinLines {items : List (List Char)} (nonempty : items ≠ []) :
    linesOf (joinLines items) = items.flatMap linesOf := by
  induction items with
  | nil => exact absurd rfl nonempty
  | cons item rest ih =>
      by_cases more : rest = []
      · subst more
        simp [joinLines]
      · rw [joinLines_cons item more, linesOf_append, ih more, List.flatMap_cons]

theorem flatMap_linesOf {lines : List (List Char)} (unbroken : ∀ line ∈ lines, '\n' ∉ line) :
    lines.flatMap linesOf = lines := by
  induction lines with
  | nil => rfl
  | cons line rest ih =>
      rw [List.flatMap_cons, linesOf_of_not_mem (unbroken line List.mem_cons_self),
        ih (fun other member => unbroken other (List.mem_cons_of_mem line member))]
      rfl

/-! ### Line breaks at the end -/

/-- Lines that are visible and hold no line break can be told from their text. -/
theorem joinLines_inj {left right : List (List Char)}
    (leftLines : ∀ line ∈ left, line ≠ [] ∧ '\n' ∉ line)
    (rightLines : ∀ line ∈ right, line ≠ [] ∧ '\n' ∉ line)
    (same : joinLines left = joinLines right) : left = right := by
  have read : ∀ lines : List (List Char), (∀ line ∈ lines, line ≠ [] ∧ '\n' ∉ line) →
      linesOf (joinLines lines) = if lines = [] then [[]] else lines := by
    intro lines clean
    split
    · rename_i empty
      rw [empty]
      rfl
    · rename_i some
      rw [linesOf_joinLines some, flatMap_linesOf (fun line member => (clean line member).2)]
  have lines := (read left leftLines).symm.trans ((congrArg linesOf same).trans
    (read right rightLines))
  split_ifs at lines with noLeft noRight noRight
  · rw [noLeft, noRight]
  · exact absurd rfl (rightLines [] (by rw [← lines]; exact List.mem_cons_self)).1
  · exact absurd rfl (leftLines [] (by rw [lines]; exact List.mem_cons_self)).1
  · exact lines

theorem joinLines_concat {lines : List (List Char)} (line : List Char) (some : lines ≠ []) :
    joinLines (lines ++ [line]) = joinLines lines ++ '\n' :: line := by
  induction lines with
  | nil => exact absurd rfl some
  | cons first rest ih =>
      by_cases more : rest = []
      · subst more
        simp [joinLines, List.intercalate]
      · rw [List.cons_append, joinLines_cons first (by simp), ih more, joinLines_cons first more]
        simp

/-- A text that does not end in a line break has a last line with something in it. -/
theorem linesOf_ends {chars : List Char} (some : chars ≠ [])
    (visible : chars.getLast? ≠ Option.some '\n') :
    ∃ front last, linesOf chars = front ++ [last] ∧ last ≠ [] := by
  obtain ⟨front, last, whole⟩ := (List.eq_nil_or_concat' (linesOf chars)).resolve_left
    (linesOf_ne_nil chars)
  refine ⟨front, last, whole, ?_⟩
  rintro rfl
  have joined := joinLines_linesOf chars
  rw [whole] at joined
  by_cases more : front = []
  · subst more
    exact some joined.symm
  · rw [joinLines_concat [] more] at joined
    rw [← joined, List.getLast?_append_of_ne_nil _ (by simp)] at visible
    exact visible rfl

/-- The last character of a text ends its last line. -/
theorem linesOf_getLast {chars : List Char} {char : Char} (visible : char ≠ '\n')
    (ended : chars.getLast? = some char) :
    ∃ front last, linesOf chars = front ++ [last] ∧ last.getLast? = some char := by
  obtain ⟨front, last, whole, nonempty⟩ := @linesOf_ends chars
    (by rintro rfl; cases ended)
    (by rw [ended]; exact fun isBreak => visible (Option.some.inj isBreak))
  refine ⟨front, last, whole, ?_⟩
  have joined := joinLines_linesOf chars
  rw [whole] at joined
  by_cases more : front = []
  · subst more
    rw [← ended, ← joined]
    simp [joinLines]
  · rw [joinLines_concat last more] at joined
    rw [← ended, ← joined, List.getLast?_append_of_ne_nil _ (List.cons_ne_nil _ _),
      List.getLast?_cons_of_ne_nil nonempty]

/-- Dropping the line breaks at the end drops the empty lines there. -/
theorem rdropWhile_joinLines {lines : List (List Char)} (unbroken : ∀ line ∈ lines, '\n' ∉ line) :
    (joinLines lines).rdropWhile (fun char => char = '\n') =
      joinLines (lines.rdropWhile (fun line => line = [])) := by
  induction lines using List.reverseRecOn with
  | nil => rfl
  | append_singleton before line ih =>
      have ih := ih (fun other member => unbroken other (List.mem_append_left _ member))
      have unbrokenLast : '\n' ∉ line := unbroken line (by simp)
      by_cases empty : line = []
      · subst empty
        rw [List.rdropWhile_concat_pos _ _ _ (by simp), ← ih]
        by_cases some : before = []
        · subst some
          rfl
        · rw [joinLines_concat [] some, List.rdropWhile_concat_pos _ _ _ (by simp)]
      · rw [List.rdropWhile_concat_neg _ _ _ (by simpa using empty)]
        obtain ⟨front, last, rfl⟩ := (List.eq_nil_or_concat' line).resolve_left empty
        have visible : ¬ (decide (last = '\n') = true) := by
          intro isBreak
          rw [decide_eq_true_eq] at isBreak
          exact unbrokenLast (by simp [isBreak])
        by_cases some : before = []
        · subst some
          simp only [joinLines, List.nil_append, List.intercalate_singleton]
          exact List.rdropWhile_concat_neg _ _ _ visible
        · rw [joinLines_concat _ some]
          have ends : joinLines before ++ '\n' :: (front ++ [last]) =
              (joinLines before ++ '\n' :: front) ++ [last] := by simp
          rw [ends]
          exact List.rdropWhile_concat_neg _ _ _ visible

/-! ### Carriage returns -/

/-- A line without the carriage return at its end. -/
def withoutReturn (line : List Char) : List Char :=
  if line.getLast? = some '\r' then line.dropLast else line

theorem crlfToLf_cons {char : Char} {rest : List Char}
    (other : char = '\r' → rest.head? ≠ some '\n') :
    crlfToLf (char :: rest) = char :: crlfToLf rest := by
  cases rest with
  | nil => simp [crlfToLf]
  | cons next more =>
      by_cases isReturn : char = '\r'
      · have different : next ≠ '\n' := fun same => other isReturn (by rw [same]; rfl)
        simp [crlfToLf, different]
      · simp [crlfToLf, isReturn]

theorem crlfToLf_line {line : List Char} (unbroken : '\n' ∉ line) : crlfToLf line = line := by
  induction line with
  | nil => rfl
  | cons char rest ih =>
      rw [List.mem_cons, not_or] at unbroken
      rw [crlfToLf_cons, ih unbroken.2]
      intro _ broken
      exact unbroken.2 (List.mem_of_mem_head? broken)

theorem crlfToLf_append {line : List Char} (unbroken : '\n' ∉ line) (rest : List Char) :
    crlfToLf (line ++ '\n' :: rest) = withoutReturn line ++ '\n' :: crlfToLf rest := by
  induction line with
  | nil => exact crlfToLf_cons (fun same => absurd same (by decide))
  | cons char more ih =>
      rw [List.mem_cons, not_or] at unbroken
      have later := ih unbroken.2
      cases more with
      | nil =>
          by_cases isReturn : char = '\r'
          · subst isReturn
            rfl
          · rw [List.cons_append, crlfToLf_cons (fun same => absurd same isReturn), later]
            simp [withoutReturn, isReturn]
      | cons next others =>
          have nextVisible : next ≠ '\n' := fun same => unbroken.2 (by simp [same])
          have step : crlfToLf (char :: (next :: others ++ '\n' :: rest)) =
              char :: crlfToLf (next :: others ++ '\n' :: rest) :=
            crlfToLf_cons (fun _ => by simpa using nextVisible)
          rw [List.cons_append, step, later]
          unfold withoutReturn
          rw [List.getLast?_cons_cons]
          split
          · rfl
          · rfl

/-- A reading of the lines that passes over a carriage return at their end does not see the
line breaks being replaced. -/
theorem filterMap_linesOf_crlfToLf {α : Type} {read : List Char → Option α}
    (passesOver : ∀ line, read (withoutReturn line) = read line) (chars : List Char) :
    (linesOf (crlfToLf chars)).filterMap read = (linesOf chars).filterMap read := by
  have byLines : ∀ lines : List (List Char), lines ≠ [] → (∀ line ∈ lines, '\n' ∉ line) →
      (linesOf (crlfToLf (joinLines lines))).filterMap read = lines.filterMap read := by
    intro lines
    induction lines with
    | nil => exact fun absent => absurd rfl absent
    | cons line rest ih =>
        intro _ unbroken
        have first : '\n' ∉ line := unbroken line List.mem_cons_self
        by_cases more : rest = []
        · subst more
          rw [joinLines, List.intercalate_singleton, crlfToLf_line first, linesOf_of_not_mem first]
        · have kept : '\n' ∉ withoutReturn line := by
            unfold withoutReturn
            split
            · exact fun broken => first (List.mem_of_mem_dropLast broken)
            · exact first
          rw [joinLines_cons line more, crlfToLf_append first, linesOf_append,
            linesOf_of_not_mem kept, List.filterMap_append,
            ih more (fun other member => unbroken other (List.mem_cons_of_mem line member)),
            List.filterMap_cons, List.filterMap_cons, passesOver]
          cases read line with
          | none => rfl
          | some value => rfl
  have whole := byLines (linesOf chars) (linesOf_ne_nil chars) (fun line => not_mem_of_mem_linesOf)
  rwa [joinLines_linesOf] at whole

end VpnSuite.Foundations.PythonText
