/-
Substitution of the matches of a pattern, from left to right and without overlap (`re.sub`).

A pattern is a matcher: it reads the symbol before a position and the text from there, and
answers what is written in place of its match and the text after the match.  A run relates a
stretch of text, in front of text that is still to be read, to what the scan writes for it.
-/

import Mathlib.Data.List.Infix
import Mathlib.Data.List.TakeWhile
import Mathlib.Dynamics.FixedPoints.Basic

set_option autoImplicit false

namespace VpnSuite.Foundations.Substitutions

variable {α : Type}

abbrev Matcher (α : Type) := Option α → List α → Option (List α × List α)

/-- The scan; the next `skip` symbols belong to the match that was rewritten last. -/
def subFrom (matcher : Matcher α) : Nat → Option α → List α → List α
  | _, _, [] => []
  | skip + 1, _, symbol :: rest => subFrom matcher skip (some symbol) rest
  | 0, before, symbol :: rest =>
      match matcher before (symbol :: rest) with
      | none => symbol :: subFrom matcher 0 (some symbol) rest
      | some (written, after) =>
          written ++ subFrom matcher (rest.length - after.length) (some symbol) rest

def sub (matcher : Matcher α) (text : List α) : List α := subFrom matcher 0 none text

/-- A match is some text, and it stands in front of the text after it. -/
def Consumes (matcher : Matcher α) : Prop :=
  ∀ before text written after, matcher before text = some (written, after) →
    ∃ matched, matched ≠ [] ∧ text = matched ++ after

/-- Scanning `text` in front of `rest`, with no match reaching into `rest`. -/
inductive Run (matcher : Matcher α) (rest : List α) : Option α → List α → List α → Prop
  | nil (before : Option α) : Run matcher rest before [] []
  | copy {before : Option α} {symbol : α} {text out : List α}
      (unmatched : matcher before (symbol :: (text ++ rest)) = none)
      (more : Run matcher rest (some symbol) text out) :
      Run matcher rest before (symbol :: text) (symbol :: out)
  | rewrite {before : Option α} {matched text written out : List α} (nonempty : matched ≠ [])
      (found : matcher before (matched ++ (text ++ rest)) = some (written, text ++ rest))
      (more : Run matcher rest matched.getLast? text out) :
      Run matcher rest before (matched ++ text) (written ++ out)

variable {matcher : Matcher α} {before : Option α} {rest front back text out : List α}

/-! ### The scan and its runs -/

theorem subFrom_cons (matcher : Matcher α) (before : Option α) (symbol : α) (rest : List α) :
    subFrom matcher 0 before (symbol :: rest) =
      match matcher before (symbol :: rest) with
      | none => symbol :: subFrom matcher 0 (some symbol) rest
      | some (written, after) =>
          written ++ subFrom matcher (rest.length - after.length) (some symbol) rest :=
  rfl

theorem subFrom_skip (matcher : Matcher α) (before : Option α) (part text : List α) :
    subFrom matcher part.length before (part ++ text) =
      subFrom matcher 0 (part.getLast?.or before) text := by
  induction part generalizing before with
  | nil => simp
  | cons symbol part ih =>
      simp only [List.length_cons, List.cons_append, subFrom]
      rw [ih, List.getLast?_cons]
      cases part.getLast? <;> rfl

theorem subFrom_rewrite {matched after written : List α} (nonempty : matched ≠ [])
    (found : matcher before (matched ++ after) = some (written, after)) :
    subFrom matcher 0 before (matched ++ after) =
      written ++ subFrom matcher 0 matched.getLast? after := by
  cases matched with
  | nil => exact absurd rfl nonempty
  | cons symbol part =>
      rw [List.cons_append] at found ⊢
      have skipped := subFrom_skip matcher (some symbol) part after
      have length : (part ++ after).length - after.length = part.length := by simp
      simp only [subFrom_cons, found, length]
      rw [skipped, List.getLast?_cons]
      cases part.getLast? <;> rfl

theorem run_subFrom (consumes : Consumes matcher) (before : Option α) (text : List α) :
    Run matcher [] before text (subFrom matcher 0 before text) := by
  induction length : text.length using Nat.strongRecOn generalizing before text with
  | ind count ih =>
      cases text with
      | nil => exact Run.nil before
      | cons symbol rest =>
          cases found : matcher before (symbol :: rest) with
          | none =>
              simp only [subFrom_cons, found]
              refine Run.copy (by simpa using found) (ih rest.length ?_ _ rest rfl)
              rw [← length]
              simp
          | some result =>
              obtain ⟨written, after⟩ := result
              obtain ⟨matched, nonempty, text⟩ := consumes before _ _ _ found
              rw [text] at found length ⊢
              rw [subFrom_rewrite nonempty found]
              refine Run.rewrite nonempty (by simpa using found) (ih after.length ?_ _ after rfl)
              have positive := List.length_pos_iff.mpr nonempty
              rw [← length, List.length_append]
              omega

theorem run_sub (consumes : Consumes matcher) (text : List α) :
    Run matcher [] none text (sub matcher text) := run_subFrom consumes none text

/-! ### Splitting a run -/

/-- At every position, either the scan stops there or a match reaches over it. -/
theorem Run.split (run : Run matcher rest before (front ++ back) out) :
    (∃ outFront outBack, out = outFront ++ outBack ∧
      Run matcher (back ++ rest) before front outFront ∧
      Run matcher rest (front.getLast?.or before) back outBack) ∨
    (∃ done opening closing later outDone written outLater,
      front = done ++ opening ∧ opening ≠ [] ∧ back = closing ++ later ∧ closing ≠ [] ∧
      out = outDone ++ (written ++ outLater) ∧
      Run matcher (opening ++ (back ++ rest)) before done outDone ∧
      matcher (done.getLast?.or before) (opening ++ closing ++ (later ++ rest)) =
        some (written, later ++ rest) ∧
      Run matcher rest closing.getLast? later outLater) := by
  generalize whole : front ++ back = text at run
  induction run generalizing front with
  | nil before =>
      obtain ⟨rfl, rfl⟩ := List.append_eq_nil_iff.mp whole
      exact .inl ⟨[], [], rfl, Run.nil before, Run.nil _⟩
  | @copy before symbol text out unmatched more ih =>
      cases front with
      | nil =>
          subst whole
          exact .inl ⟨[], _, rfl, Run.nil before, Run.copy unmatched more⟩
      | cons head front =>
          obtain ⟨rfl, rfl⟩ := List.cons_eq_cons.mp whole
          have unread : matcher before (head :: (front ++ (back ++ rest))) = none := by
            rw [← List.append_assoc]
            exact unmatched
          have last (part : List α) :
              ((head :: part).getLast?).or before = part.getLast?.or (some head) := by
            rw [List.getLast?_cons]
            cases part.getLast? <;> rfl
          rcases ih rfl with ⟨outFront, outBack, rfl, runFront, runBack⟩ |
            ⟨done, opening, closing, later, outDone, written, outLater, rfl, opened, rfl, closed,
              rfl, runDone, found, runLater⟩
          · refine .inl ⟨head :: outFront, outBack, rfl, Run.copy unread runFront, ?_⟩
            rw [last]
            exact runBack
          · refine .inr ⟨head :: done, opening, closing, later, head :: outDone, written, outLater,
              rfl, opened, rfl, closed, rfl, Run.copy ?_ runDone, ?_, runLater⟩
            · rw [← List.append_assoc done]
              exact unread
            · rw [last]
              exact found
  | @rewrite before matched text written out nonempty found more ih =>
      rcases List.append_eq_append_iff.mp whole with ⟨extra, rfl, rfl⟩ | ⟨extra, rfl, rfl⟩
      · -- the match reaches at least to the position
        rcases List.eq_nil_or_concat' front with rfl | ⟨opening, last, rfl⟩
        · refine .inl ⟨[], _, rfl, Run.nil before, ?_⟩
          exact Run.rewrite nonempty found more
        · rcases List.eq_nil_or_concat' extra with rfl | ⟨closing, final, rfl⟩
          · rw [List.append_nil] at nonempty found more
            refine .inl ⟨written, out, rfl, ?_, ?_⟩
            · have single : Run matcher (text ++ rest) before ((opening ++ [last]) ++ [])
                  (written ++ []) := Run.rewrite nonempty found (Run.nil _)
              simpa using single
            · simpa using more
          · refine .inr ⟨[], opening ++ [last], closing ++ [final], text, [], written, out, rfl,
              by simp, rfl, by simp, rfl, Run.nil before, found, ?_⟩
            rw [List.getLast?_concat]
            rw [← List.append_assoc, List.getLast?_concat] at more
            exact more
      · -- the match ends in front of the position
        have last (part : List α) :
            ((matched ++ part).getLast?).or before = part.getLast?.or matched.getLast? := by
          rw [List.getLast?_append]
          cases part.getLast? with
          | none =>
              cases reached : matched.getLast? with
              | none => exact absurd (List.getLast?_eq_none_iff.mp reached) nonempty
              | some => rfl
          | some => rfl
        have taken : matcher before (matched ++ (extra ++ (back ++ rest))) =
            some (written, extra ++ (back ++ rest)) := by
          rw [← List.append_assoc extra]
          exact found
        rcases ih rfl with ⟨outFront, outBack, rfl, runFront, runBack⟩ |
          ⟨done, opening, closing, later, outDone, written', outLater, rfl, opened, rfl, closed,
            rfl, runDone, found', runLater⟩
        · refine .inl ⟨written ++ outFront, outBack, by simp,
            Run.rewrite nonempty taken runFront, ?_⟩
          rw [last]
          exact runBack
        · refine .inr ⟨matched ++ done, opening, closing, later, written ++ outDone, written',
            outLater, by simp, opened, rfl, closed, by simp, Run.rewrite nonempty ?_ runDone, ?_,
            runLater⟩
          · rw [← List.append_assoc done]
            exact taken
          · rw [last]
            exact found'

/-- No match contains the symbol. -/
def Avoids (matcher : Matcher α) (symbol : α) : Prop :=
  ∀ before matched after written,
    matcher before (matched ++ after) = some (written, after) → symbol ∉ matched

/-- A symbol that no match contains cuts the run in two. -/
theorem Run.split_at {symbol : α} (apart : Avoids matcher symbol)
    (run : Run matcher rest before (front ++ symbol :: back) out) :
    ∃ outFront outBack, out = outFront ++ symbol :: outBack ∧
      Run matcher (symbol :: (back ++ rest)) before front outFront ∧
      Run matcher rest (some symbol) back outBack := by
  rcases run.split with ⟨outFront, outBack, rfl, runFront, runBack⟩ |
    ⟨done, opening, closing, later, _, _, _, _, _, reach, closed, _, _, found, _⟩
  · generalize tail : symbol :: back = text at runBack
    cases runBack with
    | nil => exact absurd tail (List.cons_ne_nil _ _)
    | copy unmatched more =>
        obtain ⟨rfl, rfl⟩ := List.cons_eq_cons.mp tail
        exact ⟨outFront, _, rfl, runFront, more⟩
    | @rewrite _ matched text written out nonempty found more =>
        obtain ⟨head, matched, rfl⟩ := List.exists_cons_of_ne_nil nonempty
        obtain ⟨rfl, -⟩ := List.cons_eq_cons.mp tail
        exact absurd List.mem_cons_self (apart _ _ _ _ found)
  · obtain ⟨head, closing, rfl⟩ := List.exists_cons_of_ne_nil closed
    obtain ⟨rfl, -⟩ := List.cons_eq_cons.mp reach
    exact absurd (List.mem_append_right opening List.mem_cons_self) (apart _ _ _ _ found)

/-- A run copies all that stands behind its last match. -/
theorem Run.last_rewrite (run : Run matcher rest before text out) :
    out = text ∨ ∃ front matched tail done written here,
      text = front ++ (matched ++ tail) ∧ out = done ++ (written ++ tail) ∧
      matcher here (matched ++ (tail ++ rest)) = some (written, tail ++ rest) := by
  induction run with
  | nil => exact .inl rfl
  | @copy before symbol text out unmatched more ih =>
      rcases ih with rfl | ⟨front, matched, tail, done, written, here, rfl, rfl, found⟩
      · exact .inl rfl
      · exact .inr ⟨symbol :: front, matched, tail, symbol :: done, written, here, rfl, rfl, found⟩
  | @rewrite before matched text written out nonempty found more ih =>
      rcases ih with rfl | ⟨front, matched', tail, done, written', here, rfl, rfl, found'⟩
      · exact .inr ⟨[], matched, out, [], written, before, rfl, rfl, found⟩
      · exact .inr ⟨matched ++ front, matched', tail, written ++ done, written', here, by simp,
          by simp, found'⟩

/-- What every match contains, and the text does not, keeps the text as it is. -/
theorem Run.eq_self {p : α → Prop}
    (contains : ∀ before matched after written,
      matcher before (matched ++ after) = some (written, after) → ∃ symbol ∈ matched, p symbol)
    (run : Run matcher rest before text out) (lacks : ∀ symbol ∈ text, ¬ p symbol) :
    out = text := by
  induction run with
  | nil => rfl
  | copy unmatched more ih =>
      rw [ih (fun symbol member => lacks symbol (List.mem_cons_of_mem _ member))]
  | rewrite nonempty found more ih =>
      obtain ⟨symbol, member, holds⟩ := contains _ _ _ _ found
      exact absurd holds (lacks symbol (List.mem_append_left _ member))

/-! ### Words that the substitution does not spell -/

/-- No occurrence of the word takes a symbol of `written`, between `front` and `back`. -/
def Apart (word front written back : List α) : Prop :=
  ∀ left right, word <:+: left ++ (front ++ written ++ back) ++ right →
    word <:+: left ++ front ∨ word <:+: back ++ right

/-- Each match keeps some of its text on the left and on the right, and no occurrence of the word
takes a symbol of what is written between. -/
def Unwritten (matcher : Matcher α) (word : List α) : Prop :=
  ∀ before matched after written, matcher before (matched ++ after) = some (written, after) →
    ∃ front removed inserted back, matched = front ++ removed ++ back ∧
      written = front ++ inserted ++ back ∧ Apart word front inserted back

variable {word : List α}

theorem infix_of_cut {symbol : α} (foreign : symbol ∉ word)
    (occurs : word <:+: front ++ symbol :: back) : word <:+: front ∨ word <:+: back := by
  have none : word <+: symbol :: back → word = [] := by
    intro begins
    rcases List.prefix_cons_iff.mp begins with empty | ⟨more, rfl, -⟩
    · exact empty
    · exact absurd List.mem_cons_self foreign
  rcases List.infix_append_iff_ne_nil.mp occurs with
    within | within | ⟨left, right, -, some, rfl, -, begins⟩
  · exact .inl within
  · rcases List.infix_cons_iff.mp within with begins | within
    · rw [none begins]
      exact .inl List.nil_infix
    · exact .inr within
  · rcases List.prefix_cons_iff.mp begins with empty | ⟨more, rfl, -⟩
    · exact absurd empty some
    · exact absurd (List.mem_append_right left List.mem_cons_self) foreign

theorem apart_of_disjoint {written : List α} (some : written ≠ [])
    (foreign : ∀ symbol ∈ written, symbol ∉ word) : Apart word front written back := by
  intro left right occurs
  have regrouped : left ++ (front ++ written ++ back) ++ right =
      (left ++ front) ++ (written ++ (back ++ right)) := by simp
  rw [regrouped] at occurs
  clear regrouped
  generalize left ++ front = before at occurs ⊢
  induction written generalizing before with
  | nil => exact absurd rfl some
  | cons symbol more ih =>
      rcases infix_of_cut (foreign symbol List.mem_cons_self) occurs with within | within
      · exact .inl within
      · by_cases last : more = []
        · subst last
          exact .inr within
        · have after := ih last (fun other member => foreign other (List.mem_cons_of_mem _ member))
            [] within
          rcases after with empty | within
          · exact .inl (empty.trans List.nil_infix)
          · exact .inr within

/-- An occurrence in what a run writes, and around it, is one in what it reads. -/
theorem Run.occurs (unwritten : Unwritten matcher word)
    (run : Run matcher rest before text out) (left right : List α)
    (occurs : word <:+: left ++ out ++ right) : word <:+: left ++ text ++ right := by
  induction run generalizing left with
  | nil => exact occurs
  | @copy before symbol text out unmatched more ih =>
      have moved := ih (left ++ [symbol]) (by simpa using occurs)
      simpa using moved
  | @rewrite before matched text written out nonempty found more ih =>
      obtain ⟨front, removed, inserted, back, rfl, rfl, apart⟩ := unwritten _ _ _ _ found
      have around : word <:+: left ++ (front ++ inserted ++ back) ++ (out ++ right) := by
        simpa using occurs
      rcases apart left (out ++ right) around with kept | kept
      · exact kept.trans ⟨[], removed ++ back ++ text ++ right, by simp⟩
      · have read := ih back (by simpa using kept)
        exact read.trans ⟨left ++ front ++ removed, [], by simp⟩

/-- A substitution brings in no occurrence of a word that it does not spell. -/
theorem sub_free (consumes : Consumes matcher) (unwritten : Unwritten matcher word)
    (free : ¬ word <:+: text) : ¬ word <:+: sub matcher text := by
  intro occurs
  have read := (run_sub consumes text).occurs unwritten [] [] (by simpa using occurs)
  exact free (by simpa using read)

/-! ### Repeated substitutions -/

/-- Every match is written back as it is, or makes the text cheaper wherever it stands. -/
def Lowers (cost : List α → Nat) (matcher : Matcher α) : Prop :=
  ∀ before matched after written, matcher before (matched ++ after) = some (written, after) →
    ∀ left, written = matched ∨ cost (left ++ (written ++ after)) < cost (left ++ (matched ++ after))

theorem Run.lowers {cost : List α → Nat} (lowers : Lowers cost matcher)
    (run : Run matcher rest before text out) (left : List α) :
    out = text ∨ cost (left ++ (out ++ rest)) < cost (left ++ (text ++ rest)) := by
  induction run generalizing left with
  | nil => exact .inl rfl
  | @copy before symbol text out unmatched more ih =>
      rcases ih (left ++ [symbol]) with rfl | cheaper
      · exact .inl rfl
      · exact .inr (by simpa using cheaper)
  | @rewrite before matched text written out nonempty found more ih =>
      rcases ih (left ++ written) with rfl | behind
      · rcases lowers _ _ _ _ found left with rfl | cheaper
        · exact .inl rfl
        · exact .inr (by simpa using cheaper)
      · refine .inr ?_
        have here : cost (left ++ (written ++ (text ++ rest))) ≤
            cost (left ++ (matched ++ (text ++ rest))) := by
          rcases lowers _ _ _ _ found left with rfl | cheaper
          · exact Nat.le_refl _
          · exact Nat.le_of_lt cheaper
        calc cost (left ++ (written ++ out ++ rest))
            = cost (left ++ written ++ (out ++ rest)) := by simp
          _ < cost (left ++ written ++ (text ++ rest)) := behind
          _ = cost (left ++ (written ++ (text ++ rest))) := by simp
          _ ≤ cost (left ++ (matched ++ (text ++ rest))) := here
          _ = cost (left ++ (matched ++ text ++ rest)) := by simp

theorem sub_lowers {cost : List α → Nat} (consumes : Consumes matcher)
    (lowers : Lowers cost matcher) (text : List α) :
    sub matcher text = text ∨ cost (sub matcher text) < cost text := by
  simpa using (run_sub consumes text).lowers lowers []

/-- What makes every text cheaper that it changes comes to rest. -/
theorem exists_settled {cost : List α → Nat} {step : List α → List α}
    (lowers : ∀ text, step text = text ∨ cost (step text) < cost text) (text : List α) :
    ∃ count, Function.IsFixedPt step (step^[count] text) := by
  induction price : cost text using Nat.strongRecOn generalizing text with
  | ind price' ih =>
      rcases lowers text with same | cheaper
      · exact ⟨0, same⟩
      · obtain ⟨count, settled⟩ := ih _ (price ▸ cheaper) (step text) rfl
        exact ⟨count + 1, settled⟩

/-! ### Parts of a pattern -/

/-- A part of a pattern: what it matches at the beginning of a text, and the text after it. -/
abbrev Part (α : Type) := List α → Option (List α × List α)

/-- `[class]{count,}`, followed by nothing in the class. -/
def atLeast (count : Nat) (inClass : α → Bool) : Part α := fun text =>
  if count ≤ (text.takeWhile inClass).length then
    some (text.takeWhile inClass, text.dropWhile inClass)
  else none

/-- `[class]`. -/
def oneOf (inClass : α → Bool) : Part α
  | [] => none
  | symbol :: rest => if inClass symbol then some ([symbol], rest) else none

/-- `part?`, where what follows cannot begin as the part does. -/
def perhaps (part : Part α) : Part α := fun text => (part text).or (some ([], text))

/-- One part after the other. -/
def parts : List (Part α) → Part α
  | [] => fun text => some ([], text)
  | part :: more => fun text => do
      let (first, text) ← part text
      let (others, after) ← parts more text
      pure (first ++ others, after)

variable {inClass : α → Bool} {count : Nat} {matched after : List α}

theorem atLeast_eq_some (read : atLeast count inClass text = some (matched, after)) :
    text = matched ++ after ∧ count ≤ matched.length ∧ (∀ symbol ∈ matched, inClass symbol) ∧
      ∀ symbol ∈ after.head?, inClass symbol = false := by
  rw [atLeast, Option.ite_none_right_eq_some, Option.some.injEq, Prod.mk.injEq] at read
  obtain ⟨enough, rfl, rfl⟩ := read
  refine ⟨List.takeWhile_append_dropWhile.symm, enough, ?_, ?_⟩
  · intro symbol member
    exact List.mem_takeWhile_imp member
  · intro symbol atHead
    have stopped := List.head?_dropWhile_not inClass text
    rw [Option.mem_def.mp atHead] at stopped
    simpa using stopped

theorem atLeast_append (holds : ∀ symbol ∈ front, inClass symbol)
    (stops : ∀ symbol ∈ back.head?, inClass symbol = false) (enough : count ≤ front.length) :
    atLeast count inClass (front ++ back) = some (front, back) := by
  have taken : back.takeWhile inClass = [] ∧ back.dropWhile inClass = back := by
    cases back with
    | nil => exact ⟨rfl, rfl⟩
    | cons symbol more =>
        have outside := stops symbol rfl
        simp [outside]
  have front_ : (front ++ back).takeWhile inClass = front := by
    rw [List.takeWhile_append_of_pos holds, taken.1, List.append_nil]
  rw [atLeast, front_, if_pos enough, List.dropWhile_append_of_pos holds, taken.2]

theorem oneOf_eq_some (read : oneOf inClass text = some (matched, after)) :
    ∃ symbol, matched = [symbol] ∧ inClass symbol ∧ text = symbol :: after := by
  cases text with
  | nil => cases read
  | cons symbol rest =>
      rw [oneOf, Option.ite_none_right_eq_some, Option.some.injEq, Prod.mk.injEq] at read
      obtain ⟨holds, rfl, rfl⟩ := read
      exact ⟨symbol, rfl, holds, rfl⟩

theorem parts_cons_eq_some {part : Part α} {more : List (Part α)} :
    parts (part :: more) text = some (matched, after) ↔
      ∃ first middle others, part text = some (first, middle) ∧
        parts more middle = some (others, after) ∧ matched = first ++ others := by
  constructor
  · intro read
    obtain ⟨⟨first, middle⟩, begun, read⟩ := Option.bind_eq_some_iff.mp read
    obtain ⟨⟨others, last⟩, ended, read⟩ := Option.bind_eq_some_iff.mp read
    obtain ⟨rfl, rfl⟩ := Prod.mk.injEq .. |>.mp (Option.some.inj read)
    exact ⟨first, middle, others, begun, ended, rfl⟩
  · rintro ⟨first, middle, others, begun, ended, rfl⟩
    simp only [parts, begun, Option.bind_eq_bind, Option.bind_some, ended]
    rfl

/-- A text is cut in one way behind a class that what follows leaves. -/
theorem cut_unique {left right : List α} {first second : α} {others more : List α}
    (leftHolds : ∀ symbol ∈ left, inClass symbol) (rightHolds : ∀ symbol ∈ right, inClass symbol)
    (firstLeaves : inClass first = false) (secondLeaves : inClass second = false)
    (same : left ++ first :: others = right ++ second :: more) :
    left = right ∧ first = second ∧ others = more := by
  have cut (front : List α) (symbol : α) (back : List α)
      (holds : ∀ other ∈ front, inClass other) (leaves : inClass symbol = false) :
      (front ++ symbol :: back).takeWhile inClass = front ∧
        (front ++ symbol :: back).dropWhile inClass = symbol :: back := by
    rw [List.takeWhile_append_of_pos holds, List.dropWhile_append_of_pos holds]
    simp [leaves]
  have leftCut := cut left first others leftHolds firstLeaves
  have rightCut := cut right second more rightHolds secondLeaves
  rw [same] at leftCut
  refine ⟨leftCut.1.symm.trans rightCut.1, ?_⟩
  exact List.cons_eq_cons.mp (leftCut.2.symm.trans rightCut.2)

/-- What stops a class stands behind the symbols of the class. -/
theorem cover_of_stop {read after holding more : List α} (same : read ++ after = holding ++ more)
    (holds : ∀ symbol ∈ holding, inClass symbol)
    (stops : ∀ symbol ∈ after.head?, inClass symbol = false) :
    ∃ extra, read = holding ++ extra ∧ more = extra ++ after := by
  rcases List.append_eq_append_iff.mp same with ⟨extra, rfl, rfl⟩ | ⟨extra, rfl, rfl⟩
  · cases extra with
    | nil => exact ⟨[], by simp, by simp⟩
    | cons symbol extra =>
        have inside := holds symbol (List.mem_append_right _ List.mem_cons_self)
        rw [stops symbol rfl] at inside
        cases inside
  · exact ⟨extra, rfl, rfl⟩

end VpnSuite.Foundations.Substitutions
