/-
Passes over the lines of a text.

A pass cleans every line or drops it, keeps one of several blank lines in a row, drops the
blank lines at the end and ends in one.  A reader sees a line through a view.  The rules say
when a pass leaves what the reader sees alone.

The lines, the blank one, the cleaning and the view are arbitrary.
-/

import Mathlib.Data.List.Chain
import Mathlib.Data.List.DropRight

set_option autoImplicit false

namespace VpnSuite.Foundations.LinePasses

variable {α β : Type} [DecidableEq α] (blank : α)

/-! ### One blank line of several -/

/-- The lines without the blank ones that follow a blank one; the flag says that a blank line
came before. -/
def collapse : Bool → List α → List α
  | _, [] => []
  | after, line :: rest =>
      if line = blank then
        if after then collapse true rest else line :: collapse true rest
      else line :: collapse false rest

theorem collapse_sublist (after : Bool) (lines : List α) :
    (collapse blank after lines).Sublist lines := by
  induction lines generalizing after with
  | nil => exact List.Sublist.slnil
  | cons line rest ih =>
      rw [collapse]
      split
      · split
        · exact (ih true).cons line
        · exact (ih true).cons_cons line
      · exact (ih false).cons_cons line

variable {blank}

theorem collapse_eq_of_length {after : Bool} {lines : List α}
    (same : (collapse blank after lines).length = lines.length) :
    collapse blank after lines = lines :=
  (collapse_sublist blank after lines).eq_of_length same

/-- After a line that is not blank, collapsing starts afresh. -/
theorem collapse_append {last : α} (visible : last ≠ blank) (after : Bool)
    (first second : List α) :
    collapse blank after (first ++ [last] ++ second) =
      collapse blank after (first ++ [last]) ++ collapse blank false second := by
  induction first generalizing after with
  | nil => simp [collapse, visible]
  | cons line rest ih =>
      simp only [List.cons_append, collapse]
      rw [ih true, ih false]
      split
      · split <;> rfl
      · rfl

theorem collapse_map {keep : α → α} {lines : List α}
    (sameBlank : ∀ line ∈ lines, keep line = blank ↔ line = blank) (after : Bool) :
    collapse blank after (lines.map keep) = (collapse blank after lines).map keep := by
  induction lines generalizing after with
  | nil => rfl
  | cons line rest ih =>
      have later := fun flag => ih (fun other member =>
        sameBlank other (List.mem_cons_of_mem line member)) flag
      simp only [List.map_cons, collapse, sameBlank line List.mem_cons_self, later]
      split
      · split <;> rfl
      · rfl

variable (blank) in
/-- Not both are blank. -/
def Apart (first second : α) : Prop := ¬ (first = blank ∧ second = blank)

/-- No two blank lines follow each other after collapsing. -/
theorem collapse_isChain (after : Bool) (lines : List α) :
    (collapse blank after lines).IsChain (Apart blank) ∧
      (after = true → (collapse blank after lines).head? ≠ some blank) := by
  induction lines generalizing after with
  | nil => exact ⟨.nil, fun _ => nofun⟩
  | cons line rest ih =>
      rw [collapse]
      split
      · rename_i isBlank
        split
        · exact ⟨(ih true).1, fun _ => (ih true).2 rfl⟩
        · rename_i fresh
          refine ⟨(ih true).1.cons ?_, fun isAfter => absurd isAfter fresh⟩
          rintro next atHead ⟨_, nextBlank⟩
          exact (ih true).2 rfl (nextBlank ▸ atHead)
      · rename_i visible
        refine ⟨(ih false).1.cons (fun next _ both => visible both.1), fun _ atHead => ?_⟩
        exact visible (Option.some.inj atHead)

/-- Collapsing leaves lines alone of which no two blank ones follow each other. -/
theorem collapse_of_isChain {after : Bool} {lines : List α} (spaced : lines.IsChain (Apart blank))
    (visibleAfter : after = true → lines.head? ≠ some blank) :
    collapse blank after lines = lines := by
  induction lines generalizing after with
  | nil => rfl
  | cons line rest ih =>
      rw [List.isChain_cons] at spaced
      rw [collapse]
      split
      · rename_i isBlank
        split
        · rename_i isAfter
          exact absurd (congrArg some isBlank) (visibleAfter isAfter)
        · rw [ih spaced.2]
          intro _ atHead
          exact spaced.1 blank atHead ⟨isBlank, rfl⟩
      · rw [ih spaced.2 (fun fresh => absurd fresh Bool.false_ne_true)]

theorem collapse_eq_self_iff (lines : List α) :
    collapse blank false lines = lines ↔ lines.IsChain (Apart blank) := by
  constructor
  · intro same
    exact same ▸ (collapse_isChain false lines).1
  · intro spaced
    exact collapse_of_isChain spaced (fun fresh => absurd fresh Bool.false_ne_true)

omit [DecidableEq α] in
theorem isChain_cons_visible {first : α} (visible : first ≠ blank) (rest : List α) :
    (first :: rest).IsChain (Apart blank) ↔ rest.IsChain (Apart blank) := by
  rw [List.isChain_cons]
  exact and_iff_right (fun _ _ both => visible both.1)

variable (blank) in
/-- What ends in a blank line still does. -/
theorem collapse_concat_blank (lines : List α) :
    (∃ before, collapse blank false (lines ++ [blank]) = before ++ [blank]) ∧
      (collapse blank true (lines ++ [blank]) = [] ∨
        ∃ before, collapse blank true (lines ++ [blank]) = before ++ [blank]) := by
  induction lines with
  | nil => exact ⟨⟨[], by simp [collapse]⟩, Or.inl (by simp [collapse])⟩
  | cons line rest ih =>
      obtain ⟨⟨before, fresh⟩, afterBlank⟩ := ih
      by_cases isBlank : line = blank
      · subst isBlank
        simp only [List.cons_append, collapse, if_true, Bool.false_eq_true, if_false]
        refine ⟨?_, afterBlank⟩
        obtain empty | ⟨others, ended⟩ := afterBlank
        · exact ⟨[], by rw [empty]; rfl⟩
        · exact ⟨line :: others, by rw [ended]; rfl⟩
      · simp only [List.cons_append, collapse, if_neg isBlank, fresh]
        exact ⟨⟨line :: before, rfl⟩, Or.inr ⟨line :: before, rfl⟩⟩

/-! ### A pass -/

variable (blank) in
def pass (clean : α → Option α) (lines : List α) : List α :=
  (collapse blank false (lines.filterMap clean)).rdropWhile (fun line => line = blank) ++ [blank]

variable (blank) in
theorem pass_ends (clean : α → Option α) (lines : List α) :
    ∃ before, pass blank clean lines = before ++ [blank] := ⟨_, rfl⟩

omit [DecidableEq α] in
theorem rdropWhile_cons_neg {drop : α → Bool} {first : α} (kept : ¬ drop first = true)
    (rest : List α) : (first :: rest).rdropWhile drop = first :: rest.rdropWhile drop := by
  induction rest using List.reverseRecOn with
  | nil => rw [List.rdropWhile_singleton, if_neg kept, List.rdropWhile_nil]
  | append_singleton before last ih =>
      rw [← List.cons_append]
      by_cases dropped : drop last = true
      · rw [List.rdropWhile_concat_pos _ _ _ dropped, ih, List.rdropWhile_concat_pos _ _ _ dropped]
      · rw [List.rdropWhile_concat_neg _ _ _ dropped, List.rdropWhile_concat_neg _ _ _ dropped]
        rfl

/-- A first line that cleaning leaves alone stays the first. -/
theorem pass_cons {clean : α → Option α} {first : α} (visible : first ≠ blank)
    (stays : clean first = some first) (rest : List α) :
    ∃ others, pass blank clean (first :: rest) = first :: others := by
  rw [pass, List.filterMap_cons, stays]
  simp only [collapse, if_neg visible]
  rw [rdropWhile_cons_neg (by simpa using visible)]
  exact ⟨_, rfl⟩

theorem mem_collapse {line : α} (visible : line ≠ blank) (after : Bool) (lines : List α) :
    line ∈ collapse blank after lines ↔ line ∈ lines := by
  induction lines generalizing after with
  | nil => exact Iff.rfl
  | cons first rest ih =>
      rw [collapse, List.mem_cons]
      split
      · rename_i isBlank
        have different : line ≠ first := fun same => visible (same.trans isBlank)
        split
        · rw [ih true, or_iff_right different]
        · rw [List.mem_cons, ih true]
      · rw [List.mem_cons, ih false]

/-- A visible line is left exactly when it is what cleaning makes of a line. -/
theorem mem_pass {clean : α → Option α} {line : α} (visible : line ≠ blank) (lines : List α) :
    line ∈ pass blank clean lines ↔ line ∈ lines.filterMap clean := by
  rw [pass, List.mem_append, List.mem_singleton, or_iff_left visible]
  refine Iff.trans ?_ (mem_collapse visible false (lines.filterMap clean))
  generalize collapse blank false (lines.filterMap clean) = collapsed
  constructor
  · exact fun member => (List.rdropWhile_prefix _ _).subset member
  · intro member
    have whole : collapsed.rdropWhile (fun line => decide (line = blank)) ++
        collapsed.rtakeWhile (fun line => decide (line = blank)) = collapsed :=
      List.rdropWhile_append_rtakeWhile
    rw [← whole, List.mem_append] at member
    rcases member with kept | dropped
    · exact kept
    · have isBlank := List.mem_rtakeWhile_imp dropped
      exact absurd (of_decide_eq_true isBlank) visible

/-- Cleaning twice is cleaning once, and only the blank line is seen as one. -/
structure CleanerLaws (blank : α) (clean : α → Option α) (view : α → β) : Prop where
  blankKept : clean blank = some blank
  idempotent : ∀ line cleaned, clean line = some cleaned → clean cleaned = some cleaned
  blankSeen : ∀ line, view line = view blank → line = blank

/-- Every line is seen the same once it is cleaned, and no two blank lines follow each other. -/
structure Undisturbed (blank : α) (clean : α → Option α) (view : α → β) (lines : List α) : Prop where
  kept : ∀ line ∈ lines, (clean line).map view = some (view line)
  spaced : collapse blank false lines = lines

instance [DecidableEq β] (clean : α → Option α) (view : α → β) (lines : List α) :
    Decidable (Undisturbed blank clean view lines) :=
  decidable_of_iff ((∀ line ∈ lines, (clean line).map view = some (view line)) ∧
      collapse blank false lines = lines)
    ⟨fun both => ⟨both.1, both.2⟩, fun undisturbed => ⟨undisturbed.kept, undisturbed.spaced⟩⟩

def cleanedLine {α : Type} (clean : α → Option α) (line : α) : α := (clean line).getD line

section Pass

variable {clean : α → Option α} {view : α → β} {lines : List α}

omit [DecidableEq α] in
theorem filterMap_eq_map (allKept : ∀ line ∈ lines, (clean line).isSome = true) :
    lines.filterMap clean = lines.map (cleanedLine clean) := by
  induction lines with
  | nil => rfl
  | cons line rest ih =>
      obtain ⟨cleaned, found⟩ := Option.isSome_iff_exists.mp (allKept line List.mem_cons_self)
      rw [List.filterMap_cons, found, List.map_cons, cleanedLine, found,
        ih (fun other member => allKept other (List.mem_cons_of_mem line member))]
      rfl

omit [DecidableEq α] in
theorem isSome_of_length (same : (lines.filterMap clean).length = lines.length) :
    ∀ line ∈ lines, (clean line).isSome = true := by
  induction lines with
  | nil => exact fun _ member => absurd member List.not_mem_nil
  | cons line rest ih =>
      have shorter : (rest.filterMap clean).length ≤ rest.length := List.length_filterMap_le ..
      cases found : clean line with
      | none =>
          rw [List.filterMap_cons, found, List.length_cons] at same
          dsimp only at same
          omega
      | some cleaned =>
          rw [List.filterMap_cons, found] at same
          dsimp only at same
          rw [List.length_cons, List.length_cons] at same
          intro other member
          cases member with
          | head => rw [found]; rfl
          | tail _ later => exact ih (by omega) other later

theorem Undisturbed.nil : Undisturbed blank clean view [] :=
  ⟨fun _ member => absurd member List.not_mem_nil, rfl⟩

/-- Lines that end in one that is not blank can be judged apart from those that follow. -/
theorem undisturbed_append {first second : List α} {last : α} (visible : last ≠ blank) :
    Undisturbed blank clean view (first ++ [last] ++ second) ↔
      Undisturbed blank clean view (first ++ [last]) ∧ Undisturbed blank clean view second := by
  have split := collapse_append visible false first second
  constructor
  · rintro ⟨kept, spaced⟩
    have shorter := (collapse_sublist blank false (first ++ [last])).length_le
    have shorterRest := (collapse_sublist blank false second).length_le
    have whole := congrArg List.length (split.symm.trans spaced)
    rw [List.length_append, List.length_append] at whole
    refine ⟨⟨fun line member => kept line (List.mem_append_left _ member), ?_⟩,
      ⟨fun line member => kept line (List.mem_append_right _ member), ?_⟩⟩
    · exact collapse_eq_of_length (by omega)
    · exact collapse_eq_of_length (by omega)
  · rintro ⟨former, latter⟩
    refine ⟨?_, ?_⟩
    · intro line member
      obtain before | behind := List.mem_append.mp member
      · exact former.kept line before
      · exact latter.kept line behind
    · rw [split, former.spaced, latter.spaced]

/-- Groups of lines that each end in a visible one are judged one by one. -/
theorem undisturbed_flatten {groups : List (List α)} {rest : List α}
    (visible : ∀ group ∈ groups, ∃ front last, group = front ++ [last] ∧ last ≠ blank) :
    Undisturbed blank clean view (groups.flatten ++ rest) ↔
      (∀ group ∈ groups, Undisturbed blank clean view group) ∧
        Undisturbed blank clean view rest := by
  induction groups with
  | nil => simp
  | cons group others ih =>
      obtain ⟨front, last, rfl, seen⟩ := visible group List.mem_cons_self
      have later := ih (fun other member => visible other (List.mem_cons_of_mem _ member))
      rw [List.flatten_cons, List.append_assoc, undisturbed_append seen, later,
        List.forall_mem_cons, and_assoc]

omit [DecidableEq α] in
theorem isSome_of_kept {line : α} (kept : (clean line).map view = some (view line)) :
    (clean line).isSome = true := by
  obtain ⟨cleaned, found, _⟩ := Option.map_eq_some_iff.mp kept
  rw [found]
  rfl

omit [DecidableEq α] in
theorem view_cleanedLine {line : α} (kept : (clean line).map view = some (view line)) :
    view (cleanedLine clean line) = view line := by
  obtain ⟨cleaned, found, seen⟩ := Option.map_eq_some_iff.mp kept
  rw [cleanedLine, found, Option.getD_some, seen]

omit [DecidableEq α] in
theorem cleanedLine_blank_iff (laws : CleanerLaws blank clean view) {line : α}
    (kept : (clean line).map view = some (view line)) :
    cleanedLine clean line = blank ↔ line = blank := by
  constructor
  · intro isBlank
    exact laws.blankSeen line (by rw [← view_cleanedLine kept, isBlank])
  · rintro rfl
    rw [cleanedLine, laws.blankKept, Option.getD_some]

omit [DecidableEq α] in
theorem cleanedLine_idempotent (laws : CleanerLaws blank clean view) {line : α}
    (isKept : (clean line).isSome = true) :
    clean (cleanedLine clean line) = some (cleanedLine clean line) := by
  obtain ⟨cleaned, found⟩ := Option.isSome_iff_exists.mp isKept
  rw [cleanedLine, found, Option.getD_some]
  exact laws.idempotent line cleaned found

omit [DecidableEq α] in
theorem cleanedLine_cleanedLine (laws : CleanerLaws blank clean view) {line : α}
    (isKept : (clean line).isSome = true) :
    cleanedLine clean (cleanedLine clean line) = cleanedLine clean line := by
  rw [cleanedLine, cleanedLine_idempotent laws isKept, Option.getD_some]

theorem Undisturbed.cleaned (laws : CleanerLaws blank clean view)
    (undisturbed : Undisturbed blank clean view lines) :
    Undisturbed blank clean view (lines.map (cleanedLine clean)) := by
  refine ⟨?_, ?_⟩
  · intro line member
    obtain ⟨raw, isRaw, rfl⟩ := List.mem_map.mp member
    rw [cleanedLine_idempotent laws (isSome_of_kept (undisturbed.kept raw isRaw)), Option.map_some]
  · rw [collapse_map (fun line member => cleanedLine_blank_iff laws (undisturbed.kept line member)),
      undisturbed.spaced]

/-- A pass over undisturbed lines cleans them one by one. -/
theorem pass_eq_map (laws : CleanerLaws blank clean view) {last : α} (visible : last ≠ blank)
    (undisturbed : Undisturbed blank clean view (lines ++ [last] ++ [blank])) :
    pass blank clean (lines ++ [last] ++ [blank]) =
      (lines ++ [last] ++ [blank]).map (cleanedLine clean) := by
  have sameBlank : ∀ line ∈ lines ++ [last] ++ [blank],
      cleanedLine clean line = blank ↔ line = blank :=
    fun line member => cleanedLine_blank_iff laws (undisturbed.kept line member)
  have lastVisible : cleanedLine clean last ≠ blank := by
    intro isBlank
    exact visible ((sameBlank last (by simp)).mp isBlank)
  have blankCleaned : cleanedLine clean blank = blank := (sameBlank blank (by simp)).mpr rfl
  have allKept : ∀ line ∈ lines ++ [last] ++ [blank], (clean line).isSome = true :=
    fun line member => isSome_of_kept (undisturbed.kept line member)
  rw [pass, filterMap_eq_map allKept, collapse_map sameBlank, undisturbed.spaced, List.map_append,
    List.map_cons, List.map_nil, blankCleaned, List.rdropWhile_concat_pos _ _ _ (by simp),
    List.map_append, List.map_cons, List.map_nil,
    List.rdropWhile_concat_neg _ _ _ (by simpa using lastVisible)]

theorem pass_length_le (laws : CleanerLaws blank clean view) (lines : List α) :
    (pass blank clean (lines ++ [blank])).length ≤ (lines ++ [blank]).length ∧
      ((pass blank clean (lines ++ [blank])).length = (lines ++ [blank]).length →
        (∀ line ∈ lines ++ [blank], (clean line).isSome = true) ∧
          pass blank clean (lines ++ [blank]) = (lines ++ [blank]).map (cleanedLine clean) ∧
          collapse blank false ((lines ++ [blank]).map (cleanedLine clean)) =
            (lines ++ [blank]).map (cleanedLine clean)) := by
  have cleanedEnd : (lines ++ [blank]).filterMap clean = lines.filterMap clean ++ [blank] := by
    rw [List.filterMap_append, List.filterMap_cons, laws.blankKept]
    rfl
  obtain ⟨⟨before, collapsed⟩, _⟩ := collapse_concat_blank blank (lines.filterMap clean)
  have passed : pass blank clean (lines ++ [blank]) =
      before.rdropWhile (fun line => line = blank) ++ [blank] := by
    rw [pass, cleanedEnd, collapsed, List.rdropWhile_concat_pos _ _ _ (by simp)]
  have trimmed := List.rdropWhile_prefix (fun line => decide (line = blank)) before
  have shorter := (collapse_sublist blank false (lines.filterMap clean ++ [blank])).length_le
  have fewer := List.length_filterMap_le clean (lines ++ [blank])
  rw [collapsed] at shorter
  rw [cleanedEnd] at fewer
  have trimmedLength := trimmed.length_le
  simp only [passed, List.length_append] at shorter fewer ⊢
  refine ⟨by omega, ?_⟩
  intro same
  have allKept : ∀ line ∈ lines ++ [blank], (clean line).isSome = true := by
    refine isSome_of_length ?_
    rw [cleanedEnd]
    simp only [List.length_append]
    omega
  have cleaned := filterMap_eq_map allKept
  have uncollapsed : collapse blank false (lines.filterMap clean ++ [blank]) =
      lines.filterMap clean ++ [blank] := by
    refine collapse_eq_of_length ?_
    rw [collapsed]
    simp only [List.length_append]
    omega
  have untrimmed : before.rdropWhile (fun line => decide (line = blank)) = before :=
    trimmed.eq_of_length (by omega)
  refine ⟨allKept, ?_, ?_⟩
  · rw [untrimmed, ← collapsed, uncollapsed, ← cleanedEnd, cleaned]
  · rw [← cleaned, cleanedEnd, uncollapsed]

/-- A pass leaves what is seen of a text alone exactly when its lines are undisturbed. -/
theorem pass_seen_iff (laws : CleanerLaws blank clean view) {last : α} (visible : last ≠ blank) :
    (pass blank clean (lines ++ [last] ++ [blank])).map view =
        (lines ++ [last] ++ [blank]).map view ↔
      Undisturbed blank clean view (lines ++ [last] ++ [blank]) := by
  constructor
  · intro seen
    have lengths := congrArg List.length seen
    rw [List.length_map, List.length_map] at lengths
    obtain ⟨allKept, cleaned, spaced⟩ := (pass_length_le laws (lines ++ [last])).2 lengths
    rw [cleaned, List.map_map] at seen
    have kept : ∀ line ∈ lines ++ [last] ++ [blank], (clean line).map view = some (view line) := by
      intro line member
      have same := List.map_eq_map_iff.mp seen line member
      obtain ⟨result, found⟩ := Option.isSome_iff_exists.mp (allKept line member)
      rw [Function.comp_apply, cleanedLine, found, Option.getD_some] at same
      rw [found, Option.map_some, same]
    refine ⟨kept, ?_⟩
    rw [collapse_map (fun line member => cleanedLine_blank_iff laws (kept line member))] at spaced
    have sameLength := congrArg List.length spaced
    rw [List.length_map, List.length_map] at sameLength
    exact collapse_eq_of_length sameLength
  · intro undisturbed
    rw [pass_eq_map laws visible undisturbed, List.map_map]
    refine List.map_congr_left ?_
    intro line member
    exact view_cleanedLine (undisturbed.kept line member)

/-- Two passes leave what is seen of a text alone exactly when its lines are undisturbed. -/
theorem pass_pass_seen_iff (laws : CleanerLaws blank clean view) {last : α}
    (visible : last ≠ blank) :
    (pass blank clean (pass blank clean (lines ++ [last] ++ [blank]))).map view =
        (lines ++ [last] ++ [blank]).map view ↔
      Undisturbed blank clean view (lines ++ [last] ++ [blank]) := by
  constructor
  · intro seen
    have lengths := congrArg List.length seen
    rw [List.length_map, List.length_map] at lengths
    have first := pass_length_le laws (lines ++ [last])
    obtain ⟨before, ended⟩ := pass_ends blank clean (lines ++ [last] ++ [blank])
    have second := pass_length_le laws before
    rw [← ended] at second
    obtain ⟨allKept, cleaned, spaced⟩ := first.2 (by omega)
    obtain ⟨_, cleanedAgain, _⟩ := second.2 (by omega)
    rw [cleanedAgain, cleaned, List.map_map, List.map_map] at seen
    have kept : ∀ line ∈ lines ++ [last] ++ [blank], (clean line).map view = some (view line) := by
      intro line member
      have same := List.map_eq_map_iff.mp seen line member
      simp only [Function.comp_apply, cleanedLine_cleanedLine laws (allKept line member)] at same
      obtain ⟨result, found⟩ := Option.isSome_iff_exists.mp (allKept line member)
      rw [cleanedLine, found, Option.getD_some] at same
      rw [found, Option.map_some, same]
    refine ⟨kept, ?_⟩
    rw [collapse_map (fun line member => cleanedLine_blank_iff laws (kept line member))] at spaced
    have sameLength := congrArg List.length spaced
    rw [List.length_map, List.length_map] at sameLength
    exact collapse_eq_of_length sameLength
  · intro undisturbed
    have keptLast := undisturbed.kept last (by simp)
    have keptBlank := undisturbed.kept blank (by simp)
    have cleaned : (lines ++ [last] ++ [blank]).map (cleanedLine clean) =
        lines.map (cleanedLine clean) ++ [cleanedLine clean last] ++ [blank] := by
      rw [List.map_append, List.map_append, List.map_cons, List.map_nil, List.map_cons,
        List.map_nil, (cleanedLine_blank_iff laws keptBlank).mpr rfl]
    have again := undisturbed.cleaned laws
    rw [cleaned] at again
    rw [pass_eq_map laws visible undisturbed, cleaned,
      pass_eq_map laws (fun isBlank => visible ((cleanedLine_blank_iff laws keptLast).mp isBlank))
        again, ← cleaned, List.map_map, List.map_map]
    refine List.map_congr_left ?_
    intro line member
    have kept := undisturbed.kept line member
    simp only [Function.comp_apply, cleanedLine_cleanedLine laws (isSome_of_kept kept),
      view_cleanedLine kept]

end Pass

end VpnSuite.Foundations.LinePasses
