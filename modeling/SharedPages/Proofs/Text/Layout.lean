import Mathlib.Data.List.Chain
import Mathlib.Data.Nat.PSub
import SharedPages.Proofs.Text.Words
import SharedPages.Text.Fill

/-!
# Layouts

A layout cuts words into lines that have words, and within a width unless they have just one. The
greedy layout begins a line only where the next word does not fit any more. Proved here, for all
words and every width:

* `columns_append`: how wide a line is;
* `greedy_fillRest`: the columns that are counted as left are those that the line leaves;
* `beyond_eq_nil`: a line of any layout that ends with a greedy one or after it ends with it;
* `Greedy.unique`: there is one greedy layout, which is what `fill` finds (`greedy_fill`);
* `Greedy.length_le`: no layout has fewer lines, and `Layout.mono`: a wider one takes no more;
* `wrap_eq_iff_greedy`, `fewest_lines`: what that means for texts.
-/

namespace SharedPages.Text

/-! ## Lines -/

/-- How wide a line is. -/
def columns (line : List Word) : Nat := (lineText line).length

theorem columns_singleton (w : Word) : columns [w] = w.length := rfl

theorem columns_cons {line : List Word} (hline : line ≠ []) (w : Word) :
    columns (w :: line) = w.length + 1 + columns line := by
  cases line with
  | nil => exact absurd rfl hline
  | cons w' line =>
    simp only [columns, lineText, joinWith, List.length_append, List.length_cons]
    omega

/-- Between two parts of a line there is one space. -/
theorem columns_append {line other : List Word} (hline : line ≠ []) (hother : other ≠ []) :
    columns (line ++ other) = columns line + 1 + columns other := by
  induction line with
  | nil => exact absurd rfl hline
  | cons w line ih =>
    by_cases hrest : line = []
    · subst hrest
      exact columns_cons hother w
    · have hmore : line ++ other ≠ [] := List.append_ne_nil_of_left_ne_nil hrest other
      rw [List.cons_append, columns_cons hmore, columns_cons hrest, ih hrest]
      omega

/-- A part of a line is no wider than the line. -/
theorem columns_le_append (before line after : List Word) (hline : line ≠ []) :
    columns line ≤ columns (before ++ line ++ after) := by
  have hfirst : columns line ≤ columns (before ++ line) := by
    by_cases hbefore : before = []
    · simp [hbefore]
    · rw [columns_append hbefore hline]
      omega
  have hpart : before ++ line ≠ [] := List.append_ne_nil_of_right_ne_nil before hline
  by_cases hafter : after = []
  · simpa [hafter] using hfirst
  · rw [columns_append hpart hafter]
    omega

/-! ## Layouts -/

/-- Lines that have words, and within the width unless they have just one. -/
structure Layout (width : Nat) (ws : List Word) (lines : List (List Word)) : Prop where
  flatten : lines.flatten = ws
  ne_nil : ∀ line ∈ lines, line ≠ []
  fits : ∀ line ∈ lines, 2 ≤ line.length → columns line ≤ width

/-- The first word of the next line does not fit on the line any more. -/
def Full (width : Nat) (line next : List Word) : Prop :=
  ∀ w ∈ next.head?, width < columns line + 1 + w.length

/-- Every line takes what fits. -/
structure Greedy (width : Nat) (ws : List Word) (lines : List (List Word)) : Prop
    extends Layout width ws lines where
  full : lines.IsChain (Full width)

section Lines

variable {width width' : Nat} {ws : List Word} {line : List Word} {lines : List (List Word)}

theorem Layout.mono (hlayout : Layout width ws lines) (hwidth : width ≤ width') :
    Layout width' ws lines where
  flatten := hlayout.flatten
  ne_nil := hlayout.ne_nil
  fits line hline hmore := (hlayout.fits line hline hmore).trans hwidth

theorem Layout.tail (hlayout : Layout width ws (line :: lines)) :
    Layout width lines.flatten lines where
  flatten := rfl
  ne_nil := (List.forall_mem_cons.mp hlayout.ne_nil).2
  fits := (List.forall_mem_cons.mp hlayout.fits).2

theorem Greedy.tail (hgreedy : Greedy width ws (line :: lines)) :
    Greedy width lines.flatten lines where
  toLayout := hgreedy.toLayout.tail
  full := hgreedy.full.tail

/-- No words, no lines. -/
theorem Layout.eq_nil (hlayout : Layout width [] lines) : lines = [] := by
  cases lines with
  | nil => rfl
  | cons line lines =>
    have hnil : line = [] := (List.append_eq_nil_iff.mp hlayout.flatten).1
    exact absurd hnil (hlayout.ne_nil line List.mem_cons_self)

end Lines

/-! ## Greedy lines and others -/

section Exchange

variable {width : Nat} {ws line other : List Word} {lines cut : List (List Word)}

/-- **Not beyond.** A line that may stand and that reaches the end of a greedy line goes no
further: with the next word it would be too wide. -/
theorem beyond_eq_nil (before : List Word) {beyond rest : List Word}
    (hgreedy : Greedy width ws (line :: lines))
    (hother : 2 ≤ other.length → columns other ≤ width) (hends : other = before ++ line ++ beyond)
    (hrest : lines.flatten = beyond ++ rest) : beyond = [] := by
  cases beyond with
  | nil => rfl
  | cons w beyond =>
    exfalso
    cases lines with
    | nil => cases hrest
    | cons next lines =>
      have hline : line ≠ [] := hgreedy.ne_nil line List.mem_cons_self
      obtain ⟨w', next, rfl⟩ := List.exists_cons_of_ne_nil (hgreedy.tail.ne_nil next
        List.mem_cons_self)
      obtain rfl : w' = w := (List.cons.inj hrest).1
      have hwide : width < columns line + 1 + w'.length :=
        (List.isChain_cons_cons.mp hgreedy.full).1 w' rfl
      have hpart : columns (line ++ [w']) ≤ columns other := by
        have h := columns_le_append before (line ++ [w']) beyond (by simp)
        rwa [← List.append_assoc, List.append_assoc, List.singleton_append, ← hends] at h
      have hlength : 2 ≤ other.length := by
        have hpos := List.length_pos_of_ne_nil hline
        rw [hends, List.length_append, List.length_append, List.length_cons]
        omega
      rw [columns_append hline (List.cons_ne_nil w' []), columns_singleton] at hpart
      exact absurd (hother hlength) (by omega)

/-- **Ahead.** No layout has fewer lines than the greedy one, not even if it has other words to
begin with. -/
theorem Greedy.length_le (hgreedy : Greedy width ws lines) (ahead : List Word)
    (hcut : Layout width (ahead ++ ws) cut) : lines.length ≤ cut.length := by
  induction lines generalizing ws cut ahead with
  | nil => exact Nat.zero_le _
  | cons line lines ih =>
    obtain rfl := hgreedy.flatten
    cases cut with
    | nil =>
      have hnil : (line :: lines).flatten = [] := (List.append_eq_nil_iff.mp hcut.flatten.symm).2
      have hline : line = [] := (List.append_eq_nil_iff.mp hnil).1
      exact absurd hline (hgreedy.ne_nil line List.mem_cons_self)
    | cons other cut =>
      have hsame := hcut.flatten
      rw [List.flatten_cons, List.flatten_cons, ← List.append_assoc] at hsame
      have hrest : ∃ left, cut.flatten = left ++ lines.flatten := by
        obtain ⟨left, -, hleft⟩ | ⟨beyond, hends, hover⟩ := List.append_eq_append_iff.mp hsame
        · exact ⟨left, hleft⟩
        · obtain rfl := beyond_eq_nil _ hgreedy (hcut.fits other List.mem_cons_self) hends hover
          exact ⟨[], hover.symm⟩
      obtain ⟨left, hleft⟩ := hrest
      have htail : Layout width (left ++ lines.flatten) cut := hleft ▸ hcut.tail
      exact Nat.succ_le_succ (ih hgreedy.tail left htail)

/-- Two greedy layouts begin with one line. -/
theorem Greedy.head_eq (hgreedy : Greedy width ws (line :: lines))
    (hcut : Greedy width ws (other :: cut)) : line = other := by
  have hsame : line ++ lines.flatten = other ++ cut.flatten :=
    hgreedy.flatten.trans hcut.flatten.symm
  obtain ⟨beyond, rfl, hrest⟩ | ⟨beyond, rfl, hrest⟩ := List.append_eq_append_iff.mp hsame
  · obtain rfl := beyond_eq_nil [] hgreedy (hcut.fits _ List.mem_cons_self) rfl hrest
    rw [List.append_nil]
  · obtain rfl := beyond_eq_nil [] hcut (hgreedy.fits _ List.mem_cons_self) rfl hrest
    rw [List.append_nil]

/-- **One way.** There is one greedy layout of words at most. -/
theorem Greedy.unique (hgreedy : Greedy width ws lines) (hcut : Greedy width ws cut) :
    lines = cut := by
  induction lines generalizing ws cut with
  | nil =>
    obtain rfl := hgreedy.flatten
    exact hcut.toLayout.eq_nil.symm
  | cons line lines ih =>
    cases cut with
    | nil =>
      obtain rfl := hcut.flatten
      exact hgreedy.toLayout.eq_nil
    | cons other cut =>
      obtain rfl := hgreedy.head_eq hcut
      have hrest : lines.flatten = cut.flatten :=
        List.append_cancel_left (hgreedy.flatten.trans hcut.flatten.symm)
      have htail : Greedy width lines.flatten cut := hrest ▸ hcut.tail
      rw [ih hgreedy.tail htail]

end Exchange

/-! ## Filling -/

section Filling

variable {width : Nat} {ws line next : List Word} {lines : List (List Word)}

theorem greedy_singleton (hline : line ≠ []) (hfits : 2 ≤ line.length → columns line ≤ width) :
    Greedy width line [line] where
  flatten := by simp
  ne_nil := by simpa using hline
  fits := by simpa using hfits
  full := List.isChain_singleton line

theorem Greedy.cons (hgreedy : Greedy width ws (next :: lines)) (hline : line ≠ [])
    (hfits : 2 ≤ line.length → columns line ≤ width) (hfull : Full width line next) :
    Greedy width (line ++ ws) (line :: next :: lines) where
  flatten := congrArg (line ++ ·) hgreedy.flatten
  ne_nil := List.forall_mem_cons.mpr ⟨hline, hgreedy.ne_nil⟩
  fits := List.forall_mem_cons.mpr ⟨hfits, hgreedy.fits⟩
  full := List.isChain_cons_cons.mpr ⟨hfull, hgreedy.full⟩

/-- **Filling.** The columns that are counted as left are those that the line leaves: begun with a
line and with what it leaves, `fillRest` completes it and adds the lines after it. -/
theorem greedy_fillRest (hline : line ≠ []) (hfits : 2 ≤ line.length → columns line ≤ width)
    (ws : List Word) :
    let rest := fillRest width (width - columns line) ws
    Greedy width (line ++ ws) ((line ++ rest.1) :: rest.2) := by
  induction ws generalizing line with
  | nil => simpa [fillRest] using greedy_singleton hline hfits
  | cons w ws ih =>
    by_cases hroom : width - columns line < w.length + 1
    · have hword : 2 ≤ [w].length → columns [w] ≤ width := by simp
      have hfull : Full width line (w :: (fillRest width (width - w.length) ws).1) := by
        rintro w' ⟨⟩
        omega
      have hnext := (ih (List.cons_ne_nil w []) hword).cons hline hfits hfull
      simpa [fillRest, hroom, columns_singleton] using hnext
    · have hwide : columns (line ++ [w]) = columns line + 1 + w.length :=
        columns_append hline (List.cons_ne_nil w [])
      have hmore : 2 ≤ (line ++ [w]).length → columns (line ++ [w]) ≤ width := fun _ => by omega
      have hleft : width - columns (line ++ [w]) = width - columns line - (w.length + 1) := by
        omega
      have hnext := ih (by simp) hmore
      rw [hleft] at hnext
      simpa [fillRest, hroom] using hnext

/-- **The greedy layout** is what `fill` finds. -/
theorem greedy_fill (width : Nat) (ws : List Word) : Greedy width ws (fill width ws) := by
  cases ws with
  | nil => exact ⟨⟨rfl, by simp [fill], by simp [fill]⟩, List.isChain_nil⟩
  | cons w ws =>
    have hword : 2 ≤ [w].length → columns [w] ≤ width := by simp
    exact greedy_fillRest (List.cons_ne_nil w []) hword ws

end Filling

/-! ## The counter

The columns left are a natural number, and taking too many from it would leave zero unnoticed. In
`checkedFill` that has no value, and then the layout has none. -/

/-- `fillRest` with a counter that must not fall below zero. -/
def checkedRest (width room : Nat) : List Word → Option (List Word × List (List Word))
  | [] => some ([], [])
  | w :: ws =>
    if room < w.length + 1 then
      (checkedRest width (width - w.length) ws).map fun (line, lines) => ([], (w :: line) :: lines)
    else
      (Nat.psub room (w.length + 1)).bind fun room =>
        (checkedRest width room ws).map fun (line, lines) => (w :: line, lines)

/-- `fill` with a counter that must not fall below zero. -/
def checkedFill (width : Nat) : List Word → Option (List (List Word))
  | [] => some []
  | w :: ws =>
    (checkedRest width (width - w.length) ws).map fun (line, lines) => (w :: line) :: lines

theorem checkedRest_eq_some (width room : Nat) (ws : List Word) :
    checkedRest width room ws = some (fillRest width room ws) := by
  induction ws generalizing room with
  | nil => rfl
  | cons w ws ih =>
    by_cases hroom : room < w.length + 1
    · simp [checkedRest, fillRest, hroom, ih]
    · have hleft : Nat.psub room (w.length + 1) = some (room - (w.length + 1)) :=
        Nat.psub_eq_sub (Nat.le_of_not_lt hroom)
      rw [checkedRest, if_neg hroom, hleft]
      simp [fillRest, hroom, ih]

/-- **The counter** does not fall below zero. -/
theorem checkedFill_eq_some (width : Nat) (ws : List Word) :
    checkedFill width ws = some (fill width ws) := by
  cases ws with
  | nil => rfl
  | cons w ws => simp [checkedFill, fill, checkedRest_eq_some]

/-! ## Texts -/

/-- The lines of a layout as a text, with single newlines between them. -/
def render (lines : List (List Word)) : String :=
  String.ofList (joinWith '\n' (lines.map lineText))

/-- The number of lines of a text that does not end with a newline. -/
def lineCount (text : String) : Nat := text.toList.count '\n' + 1

section Joined

variable {sep : Char} {xs : List (List Char)}

theorem eq_or_mem_of_mem_joinWith {c : Char} (hc : c ∈ joinWith sep xs) :
    c = sep ∨ ∃ x ∈ xs, c ∈ x := by
  induction xs with
  | nil => cases hc
  | cons x xs ih =>
    cases xs with
    | nil => exact Or.inr ⟨x, List.mem_cons_self, hc⟩
    | cons y rest =>
      rw [joinWith, List.mem_append, List.mem_cons] at hc
      rcases hc with hc | hc | hc
      · exact Or.inr ⟨x, List.mem_cons_self, hc⟩
      · exact Or.inl hc
      · rcases ih hc with heq | ⟨z, hz, hcz⟩
        · exact Or.inl heq
        · exact Or.inr ⟨z, List.mem_cons_of_mem x hz, hcz⟩

/-- There is one separator less than there are texts. -/
theorem count_joinWith (hxs : xs ≠ []) (hsep : ∀ x ∈ xs, sep ∉ x) :
    (joinWith sep xs).count sep + 1 = xs.length := by
  induction xs with
  | nil => exact absurd rfl hxs
  | cons x xs ih =>
    obtain ⟨hx, hrest⟩ := List.forall_mem_cons.mp hsep
    cases xs with
    | nil => rw [joinWith, List.count_eq_zero.mpr hx]; rfl
    | cons y rest =>
      rw [joinWith, List.count_append, List.count_eq_zero.mpr hx, List.count_cons_self, Nat.zero_add,
        ih (List.cons_ne_nil y rest) hrest]
      rfl

end Joined

theorem newline_not_mem_lineText {line : List Word} (hline : ∀ w ∈ line, IsWord w) :
    '\n' ∉ lineText line := by
  intro hmem
  rcases eq_or_mem_of_mem_joinWith hmem with heq | ⟨w, hw, hc⟩
  · exact absurd heq (by decide)
  · exact absurd ((hline w hw).solid '\n' hc) (by decide)

theorem lineCount_render {width : Nat} {text : List Char} {lines : List (List Word)}
    (hlayout : Layout width (words text) lines) (hwords : words text ≠ []) :
    lineCount (render lines) = lines.length := by
  have hlines : lines ≠ [] := by
    rintro rfl
    exact hwords hlayout.flatten.symm
  have hclean : ∀ x ∈ lines.map lineText, '\n' ∉ x := by
    intro x hx
    obtain ⟨line, hline, rfl⟩ := List.mem_map.mp hx
    refine newline_not_mem_lineText fun w hw => (spelled_words text).isWord w ?_
    exact hlayout.flatten ▸ List.mem_flatten_of_mem hline hw
  rw [lineCount, render, String.toList_ofList, count_joinWith (by simpa using hlines) hclean,
    List.length_map]

section Wrapped

variable {text : String}

theorem wrap_of_words (hwords : words text.toList ≠ []) (width : Nat) :
    wrap text width = render (fill width (words text.toList)) := by
  rw [wrap, wrapChars]
  split
  · contradiction
  · rfl

theorem wrap_of_no_words (hwords : words text.toList = []) (width : Nat) :
    wrap text width = text := by
  rw [wrap, wrapChars, hwords, String.ofList_toList]

theorem lineCount_wrap (hwords : words text.toList ≠ []) (width : Nat) :
    lineCount (wrap text width) = (fill width (words text.toList)).length := by
  rw [wrap_of_words hwords, lineCount_render (greedy_fill width _).toLayout hwords]

end Wrapped

/-- **Greedy texts.** The words of a text are what it consists of but for blanks. A text without
words stays as it is; any other is brought into its greedy layout, and there is no other such
layout. The counter of columns does not fall below zero. -/
theorem wrap_eq_iff_greedy (text : String) (width : Nat) :
    (∀ ws, words text.toList = ws ↔ Spelled text.toList ws) ∧
    (words text.toList = [] → wrap text width = text) ∧
    (words text.toList ≠ [] → ∀ result, wrap text width = result ↔
      ∃ lines, Greedy width (words text.toList) lines ∧ result = render lines) ∧
    checkedFill width (words text.toList) = some (fill width (words text.toList)) := by
  refine ⟨fun ws => words_eq_iff_spelled, fun hwords => wrap_of_no_words hwords width,
    fun hwords result => ?_, checkedFill_eq_some width _⟩
  rw [wrap_of_words hwords]
  constructor
  · rintro rfl
    exact ⟨_, greedy_fill width _, rfl⟩
  · rintro ⟨lines, hgreedy, rfl⟩
    rw [hgreedy.unique (greedy_fill width _)]

/-- Words between blanks of several kinds; one of them is too long for a line. -/
def notice : String := " né\u00a0 日本語日本語\tab  c\nd"

theorem wrap_notice :
    words notice.toList ≠ [] ∧ wrap notice 4 = "né\n日本語日本語\nab c\nd" ∧
    ∃ lines, Greedy 4 (words notice.toList) lines ∧ "né\n日本語日本語\nab c\nd" = render lines := by
  have hwords : words notice.toList ≠ [] := by decide +kernel
  have hwrap : wrap notice 4 = "né\n日本語日本語\nab c\nd" := by decide +kernel
  exact ⟨hwords, hwrap, ((wrap_eq_iff_greedy notice 4).2.2.1 hwords _).mp hwrap⟩

/-- **Fewest lines.** A text with words is laid out in as few lines as there can be, and never in
more lines than within a smaller width. -/
theorem fewest_lines {text : String} (hwords : words text.toList ≠ []) (width : Nat) :
    (∃ cut, Layout width (words text.toList) cut ∧ cut.length = lineCount (wrap text width)) ∧
    (∀ cut, Layout width (words text.toList) cut → lineCount (wrap text width) ≤ cut.length) ∧
    ∀ width', width ≤ width' → lineCount (wrap text width') ≤ lineCount (wrap text width) := by
  have hgreedy : ∀ w, Greedy w (words text.toList) (fill w (words text.toList)) :=
    fun w => greedy_fill w _
  have hfewest (w : Nat) (cut : List (List Word)) (hcut : Layout w (words text.toList) cut) :
      lineCount (wrap text w) ≤ cut.length := by
    rw [lineCount_wrap hwords]
    exact (hgreedy w).length_le [] hcut
  refine ⟨⟨_, (hgreedy width).toLayout, (lineCount_wrap hwords width).symm⟩, hfewest width,
    fun width' hwidth => ?_⟩
  rw [lineCount_wrap hwords width]
  exact hfewest width' _ ((hgreedy width).toLayout.mono hwidth)

theorem fewest_lines_notice :
    words notice.toList ≠ [] ∧ lineCount (wrap notice 4) = 4 ∧ lineCount (wrap notice 9) = 2 ∧
    (∀ cut, Layout 4 (words notice.toList) cut → 4 ≤ cut.length) ∧
    lineCount (wrap notice 9) ≤ lineCount (wrap notice 4) := by
  have hwords : words notice.toList ≠ [] := by decide +kernel
  have hnarrow : lineCount (wrap notice 4) = 4 := by decide +kernel
  obtain ⟨-, hfewest, hwider⟩ := fewest_lines hwords 4
  rw [hnarrow] at hfewest
  exact ⟨hwords, hnarrow, by decide +kernel, hfewest, hwider 9 (by decide)⟩

end SharedPages.Text
