import ClusterDiagram.Text.Lower
import Mathlib.Data.List.TakeWhile

/-!
# Lines of a text

A text that begins and ends with ink is not changed by trimming. Lines that are joined by line feeds
are cut out again, as long as none is empty or holds a separator itself.
-/

namespace ClusterDiagram
namespace Text

/-! ## Trimming -/

private theorem dropWhile_eq_self_iff {p : Char → Bool} {cs : List Char} :
    cs.dropWhile p = cs ↔ ∀ c ∈ cs.head?, p c = false := by
  cases cs with
  | nil => simp
  | cons c rest =>
      constructor
      · intro keep other other_mem
        obtain rfl : c = other := by simpa using other_mem
        cases dropped : p c with
        | false => rfl
        | true =>
            rw [List.dropWhile_cons_of_pos dropped] at keep
            have shorter := (List.dropWhile_sublist (l := rest) p).length_le
            rw [keep, List.length_cons] at shorter
            omega
      · intro first
        exact List.dropWhile_cons_of_neg (by simp [first c rfl])

/-- Trimming changes nothing exactly when neither end is to be dropped. -/
theorem trimWhile_eq_self_iff {p : Char → Bool} {cs : List Char} :
    trimWhile p cs = cs ↔ (∀ c ∈ cs.head?, p c = false) ∧ ∀ c ∈ cs.getLast?, p c = false := by
  rw [← List.head?_reverse, ← dropWhile_eq_self_iff, ← dropWhile_eq_self_iff]
  constructor
  · intro trimmed
    have front_le := (List.dropWhile_sublist (l := cs) p).length_le
    have back_le := (List.dropWhile_sublist (l := (cs.dropWhile p).reverse) p).length_le
    have length_eq := congrArg List.length trimmed
    rw [trimWhile, List.length_reverse] at length_eq
    rw [List.length_reverse] at back_le
    have front : cs.dropWhile p = cs := (List.dropWhile_sublist p).eq_of_length (by omega)
    refine ⟨front, ?_⟩
    rwa [trimWhile, front, List.reverse_eq_iff] at trimmed
  · rintro ⟨front, back⟩
    rw [trimWhile, front, back, List.reverse_reverse]

/-- A list of characters that begins with ink. -/
def StartsInk (cs : List Char) : Prop :=
  ∃ c ∈ cs.head?, isBlank c = false

/-- A list of characters that ends in ink. -/
def EndsInk (cs : List Char) : Prop :=
  ∃ c ∈ cs.getLast?, isBlank c = false

theorem StartsInk.append {front : List Char} (start : StartsInk front) (back : List Char) :
    StartsInk (front ++ back) := by
  obtain ⟨c, c_mem, ink⟩ := start
  refine ⟨c, ?_, ink⟩
  rw [Option.mem_def] at c_mem ⊢
  rw [List.head?_append, c_mem]
  rfl

theorem EndsInk.append {back : List Char} (ending : EndsInk back) (front : List Char) :
    EndsInk (front ++ back) := by
  obtain ⟨c, c_mem, ink⟩ := ending
  refine ⟨c, ?_, ink⟩
  rw [Option.mem_def] at c_mem ⊢
  rw [List.getLast?_append, c_mem]
  rfl

theorem trimChars_of_ink {cs : List Char} (start : StartsInk cs) (ending : EndsInk cs) :
    trimChars cs = cs := by
  obtain ⟨first, first_mem, first_ink⟩ := start
  obtain ⟨last, last_mem, last_ink⟩ := ending
  rw [Option.mem_def] at first_mem last_mem
  apply trimWhile_eq_self_iff.mpr
  simp [first_mem, last_mem, first_ink, last_ink]

theorem dropWhile_isBlank_of_ink {cs : List Char} (start : StartsInk cs) :
    cs.dropWhile isBlank = cs := by
  obtain ⟨first, first_mem, ink⟩ := start
  rw [Option.mem_def] at first_mem
  apply dropWhile_eq_self_iff.mpr
  simp [first_mem, ink]

/-- Blanks around ink are trimmed away. -/
theorem trimChars_between_blanks {cs : List Char} (start : StartsInk cs) (ending : EndsInk cs)
    (lead trail : List Char) (lead_blank : ∀ c ∈ lead, isBlank c = true)
    (trail_blank : ∀ c ∈ trail, isBlank c = true) : trimChars (lead ++ cs ++ trail) = cs := by
  have trail_blank : ∀ c ∈ trail.reverse, isBlank c = true := by
    simpa using trail_blank
  have front : (lead ++ cs ++ trail).dropWhile isBlank = cs ++ trail := by
    rw [List.append_assoc, List.dropWhile_append_of_pos lead_blank,
      dropWhile_isBlank_of_ink (start.append trail)]
  have kept := trimChars_of_ink start ending
  rw [trimChars, trimWhile, dropWhile_isBlank_of_ink start] at kept
  rw [trimChars, trimWhile, front, List.reverse_append,
    List.dropWhile_append_of_pos trail_blank, kept]

/-! ## Texts on one line -/

theorem hyphenate_ne_nil {cs : List Char} (some : cs ≠ []) : hyphenate false cs ≠ [] := by
  cases cs with
  | nil => exact absurd rfl some
  | cons c rest =>
      rw [hyphenate]
      split <;> simp

theorem lowerChars_ne_nil {cs : List Char} (some : cs ≠ []) : lowerChars cs ≠ [] := by
  cases cs with
  | nil => exact absurd rfl some
  | cons c rest =>
      rw [lowerChars, lowerFrom]
      split
      · split <;> simp
      · rw [lowerChar]
        split <;> simp

theorem trimChars_ne_nil {cs : List Char} (start : StartsInk cs) : trimChars cs ≠ [] := by
  rw [trimChars, trimWhile, dropWhile_isBlank_of_ink start, ne_eq, List.reverse_eq_nil_iff,
    List.dropWhile_eq_nil_iff]
  intro blank
  obtain ⟨first, first_mem, ink⟩ := start
  have first_mem := List.mem_of_mem_head? first_mem
  simp [blank first (List.mem_reverse.mpr first_mem)] at ink

/-- The identifier form of a text that begins with ink is not empty. -/
theorem slug_ne_empty_of_startsInk {text : String} (start : StartsInk text.toList) :
    slug text ≠ "" := by
  have chars := hyphenate_ne_nil (lowerChars_ne_nil (trimChars_ne_nil start))
  intro empty
  apply chars
  rw [slug, foldKey, lower, trim] at empty
  simpa using congrArg String.toList empty

/-- What holds of every character of a text is checked character by character. -/
instance (priority := high) decidableForallMemList (cs : List Char) (p : Char → Prop)
    [DecidablePred p] : Decidable (∀ c ∈ cs, p c) :=
  List.decidableBAll p cs

instance (priority := high) decidableForallMemOption (c? : Option Char) (p : Char → Prop)
    [DecidablePred p] : Decidable (∀ c ∈ c?, p c) :=
  Option.decidableForallMem c?

/-- A text that fits on a line: not empty, trimmed and without separators of lines. -/
structure Tidy (text : String) : Prop where
  /-- There is some text. -/
  nonempty : text ≠ ""
  /-- Neither end is blank. -/
  trimmed : trim text = text
  /-- No character ends a line. -/
  unbroken : ∀ c ∈ text.toList, isLineBreak c = false

instance (text : String) : Decidable (Tidy text) :=
  decidable_of_iff
    (text ≠ "" ∧ trim text = text ∧ ∀ c ∈ text.toList, isLineBreak c = false)
    ⟨fun ⟨nonempty, trimmed, unbroken⟩ => ⟨nonempty, trimmed, unbroken⟩,
      fun tidy => ⟨tidy.nonempty, tidy.trimmed, tidy.unbroken⟩⟩

namespace Tidy

variable {text : String}

theorem trimChars_eq (tidy : Tidy text) : trimChars text.toList = text.toList := by
  have trimmed := congrArg String.toList tidy.trimmed
  rwa [trim, String.toList_ofList] at trimmed

theorem startsInk (tidy : Tidy text) : StartsInk text.toList := by
  have first := (trimWhile_eq_self_iff.mp tidy.trimChars_eq).1
  cases chars : text.toList with
  | nil => exact absurd (String.toList_eq_nil_iff.mp chars) tidy.nonempty
  | cons c rest => exact ⟨c, rfl, first c (by rw [chars]; rfl)⟩

theorem endsInk (tidy : Tidy text) : EndsInk text.toList := by
  have last := (trimWhile_eq_self_iff.mp tidy.trimChars_eq).2
  cases chars : text.toList.getLast? with
  | none =>
      rw [List.getLast?_eq_none_iff, String.toList_eq_nil_iff] at chars
      exact absurd chars tidy.nonempty
  | some c => exact ⟨c, chars, last c chars⟩

/-- The identifier form of a text is not empty. -/
theorem slug_ne_empty (tidy : Tidy text) : slug text ≠ "" :=
  slug_ne_empty_of_startsInk tidy.startsInk

end Tidy

/-! ## Cutting into lines -/

theorem splitLinesFrom_of_unbroken {line : List Char}
    (unbroken : ∀ c ∈ line, isLineBreak c = false) (before rest : List Char) :
    splitLinesFrom before (line ++ rest) = splitLinesFrom (line.reverse ++ before) rest := by
  induction line generalizing before with
  | nil => rfl
  | cons c line induction =>
      have c_unbroken := unbroken c List.mem_cons_self
      have step : splitLinesFrom before (c :: (line ++ rest)) =
          splitLinesFrom (c :: before) (line ++ rest) := by
        rw [splitLinesFrom]
        · rw [c_unbroken]
          rfl
        · rintro _ rfl
          exact absurd c_unbroken (by decide)
      rw [List.cons_append, step, induction fun other other_mem =>
        unbroken other (List.mem_cons_of_mem c other_mem), List.reverse_cons, List.append_assoc]
      rfl

theorem length_splitLinesFrom_le (line rest : List Char) :
    (splitLinesFrom line rest).length ≤ line.length + rest.length := by
  fun_induction splitLinesFrom line rest with
  | case1 => exact Nat.le_refl _
  | case2 line filled =>
      rw [List.length_singleton, List.length_nil, Nat.add_zero]
      exact List.length_pos_iff.mpr filled
  | case3 line rest induction =>
      simp only [List.length_cons, List.length_nil] at induction ⊢
      omega
  | case4 line c rest _ _ induction =>
      simp only [List.length_cons, List.length_nil] at induction ⊢
      omega
  | case5 line c rest _ _ induction =>
      simp only [List.length_cons] at induction ⊢
      omega

/-- A text has no more lines than characters. -/
theorem length_splitLines_le (text : String) : (splitLines text).length ≤ text.length := by
  have lines := length_splitLinesFrom_le [] text.toList
  rwa [List.length_nil, Nat.zero_add, String.length_toList] at lines

/-- Lines that were joined are cut out again. -/
theorem splitLinesFrom_intercalate {lines : List (List Char)} (filled : ∀ line ∈ lines, line ≠ [])
    (unbroken : ∀ line ∈ lines, ∀ c ∈ line, isLineBreak c = false) :
    splitLinesFrom [] (['\n'].intercalate lines) = lines := by
  induction lines with
  | nil => rfl
  | cons line lines induction =>
      have line_unbroken := unbroken line List.mem_cons_self
      have rest := induction
        (fun other other_mem => filled other (List.mem_cons_of_mem _ other_mem))
        fun other other_mem => unbroken other (List.mem_cons_of_mem _ other_mem)
      cases lines with
      | nil =>
          have split := splitLinesFrom_of_unbroken line_unbroken [] []
          rw [List.append_nil, List.append_nil] at split
          rw [List.intercalate_singleton, split]
          cases line_reverse : line.reverse with
          | nil =>
              exact absurd (List.reverse_eq_nil_iff.mp line_reverse)
                (filled line List.mem_cons_self)
          | cons c before =>
              rw [splitLinesFrom, ← line_reverse, List.reverse_reverse]
              rintro ⟨⟩
      | cons next lines =>
          rw [List.intercalate_cons_cons, List.append_assoc,
            splitLinesFrom_of_unbroken line_unbroken,
            List.append_nil]
          have feed : splitLinesFrom line.reverse ('\n' :: ['\n'].intercalate (next :: lines)) =
              line.reverse.reverse :: splitLinesFrom [] (['\n'].intercalate (next :: lines)) := by
            rw [splitLinesFrom]
            · rfl
            · rintro _ ⟨⟩
          rw [List.singleton_append, feed, rest, List.reverse_reverse]

theorem startsInk_intercalate {separator line : List Char} (start : StartsInk line)
    (lines : List (List Char)) : StartsInk (separator.intercalate (line :: lines)) := by
  cases lines with
  | nil => exact List.intercalate_singleton ▸ start
  | cons next lines =>
      rw [List.intercalate_cons_cons, List.append_assoc]
      exact start.append _

theorem endsInk_intercalate {separator : List Char} {lines : List (List Char)} (some : lines ≠ [])
    (ending : ∀ line ∈ lines.getLast?, EndsInk line) : EndsInk (separator.intercalate lines) := by
  induction lines with
  | nil => exact absurd rfl some
  | cons line lines induction =>
      cases lines with
      | nil =>
          rw [List.intercalate_singleton]
          exact ending line rfl
      | cons next lines =>
          rw [List.intercalate_cons_cons]
          apply EndsInk.append
          apply induction (List.cons_ne_nil next lines)
          rwa [List.getLast?_cons_cons] at ending

/-- Joined lines, whose first one begins and whose last one ends with ink, are trimmed. -/
theorem trim_intercalate {lines : List String}
    (start : ∀ line ∈ lines.head?, StartsInk line.toList)
    (ending : ∀ line ∈ lines.getLast?, EndsInk line.toList) :
    trim ("\n".intercalate lines) = "\n".intercalate lines := by
  have joined : ("\n".intercalate lines).toList = ['\n'].intercalate (lines.map String.toList) :=
    String.toList_intercalate
  have trimmed : trimChars ("\n".intercalate lines).toList = ("\n".intercalate lines).toList := by
    rw [joined]
    cases lines with
    | nil => rfl
    | cons line lines =>
        apply trimChars_of_ink
        · exact startsInk_intercalate (start line rfl) _
        · apply endsInk_intercalate (List.cons_ne_nil _ _)
          intro chars chars_mem
          rw [← List.map_cons, List.getLast?_map] at chars_mem
          obtain ⟨last, last_mem, rfl⟩ := Option.map_eq_some_iff.mp chars_mem
          exact ending last last_mem
  rw [trim, trimmed, String.ofList_toList]

/-- The lines of some joined lines. -/
theorem splitLines_intercalate {lines : List String} (filled : ∀ line ∈ lines, line ≠ "")
    (unbroken : ∀ line ∈ lines, ∀ c ∈ line.toList, isLineBreak c = false) :
    splitLines ("\n".intercalate lines) = lines.map String.toList := by
  rw [splitLines, String.toList_intercalate]
  apply splitLinesFrom_intercalate
  · intro chars chars_mem empty
    obtain ⟨line, line_mem, rfl⟩ := List.mem_map.mp chars_mem
    exact filled line line_mem (String.toList_eq_nil_iff.mp empty)
  · intro chars chars_mem
    obtain ⟨line, line_mem, rfl⟩ := List.mem_map.mp chars_mem
    exact unbroken line line_mem

end Text
end ClusterDiagram
