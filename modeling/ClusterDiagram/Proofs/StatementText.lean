import ClusterDiagram.Prompt.Writer
import ClusterDiagram.Proofs.AttributeText
import Mathlib.Data.List.Forall2
import Mathlib.Data.List.TakeWhile

/-!
# Lines are read as they are written

Every line that is written for a cluster, a node or an edge is read as just that, with its
indentation, label, alias, references and attributes.
-/

namespace ClusterDiagram

/-! ## Leading words -/

namespace Statement

/-- A word that does not begin with a blank letter is not found across the end of a text. -/
theorem dropWord?_append_blank {word cs : List Char} (absent : dropWord? word cs = none)
    (letters : ∀ letter ∈ word, isLetter letter ' ' = false) (rest : List Char) :
    dropWord? word (cs ++ ' ' :: rest) = none := by
  induction word generalizing cs with
  | nil => cases absent
  | cons letter word induction =>
      have others : ∀ other ∈ word, isLetter other ' ' = false := fun other other_mem =>
        letters other (List.mem_cons_of_mem _ other_mem)
      cases cs with
      | nil => rw [List.nil_append, dropWord?, letters letter List.mem_cons_self, if_neg (by simp)]
      | cons c cs =>
          rw [dropWord?] at absent
          rw [List.cons_append, dropWord?]
          split
          · rename_i same
            rw [if_pos same] at absent
            exact induction absent others
          · rfl

/-- A text that an edge line can begin with: only an arrow at its very start is passed over, and it
does not begin like a cluster or a node line. -/
structure IsSource (reference : String) : Prop where
  /-- There is no arrow behind the first character. -/
  no_arrow : Text.occursIn "->".toList reference.toList.tail = false
  /-- It does not begin like a cluster line. -/
  no_cluster : dropWord? "cluster:".toList reference.toList = none
  /-- It does not begin like a node line. -/
  no_node : dropWord? "node:".toList reference.toList = none

instance (reference : String) : Decidable (IsSource reference) :=
  decidable_of_iff
    (Text.occursIn "->".toList reference.toList.tail = false ∧
      dropWord? "cluster:".toList reference.toList = none ∧
      dropWord? "node:".toList reference.toList = none)
    ⟨fun ⟨no_arrow, no_cluster, no_node⟩ => ⟨no_arrow, no_cluster, no_node⟩,
      fun is => ⟨is.no_arrow, is.no_cluster, is.no_node⟩⟩

/-- A text that an edge line can refer to: it holds no arrow and does not begin like a cluster or a
node line. -/
structure IsReference (reference : String) : Prop where
  /-- There is no arrow in it. -/
  no_arrow : Text.occursIn "->".toList reference.toList = false
  /-- It does not begin like a cluster line. -/
  no_cluster : dropWord? "cluster:".toList reference.toList = none
  /-- It does not begin like a node line. -/
  no_node : dropWord? "node:".toList reference.toList = none

instance (reference : String) : Decidable (IsReference reference) :=
  decidable_of_iff
    (Text.occursIn "->".toList reference.toList = false ∧
      dropWord? "cluster:".toList reference.toList = none ∧
      dropWord? "node:".toList reference.toList = none)
    ⟨fun ⟨no_arrow, no_cluster, no_node⟩ => ⟨no_arrow, no_cluster, no_node⟩,
      fun is => ⟨is.no_arrow, is.no_cluster, is.no_node⟩⟩

theorem IsReference.isSource {reference : String} (is : IsReference reference) :
    IsSource reference where
  no_arrow := by
    have no_arrow := is.no_arrow
    cases chars : reference.toList with
    | nil => rfl
    | cons c rest =>
        rw [chars, Text.occursIn, Bool.or_eq_false_iff] at no_arrow
        exact no_arrow.2
  no_cluster := is.no_cluster
  no_node := is.no_node

theorem clusterLabel?_of_absent {line : List Char}
    (absent : dropWord? "cluster:".toList line = none) : clusterLabel? line = none := by
  rw [clusterLabel?, absent]

theorem nodeParts?_of_absent {line : List Char}
    (absent : dropWord? "node:".toList line = none) : nodeParts? line = none := by
  rw [nodeParts?, absent]

/-! ## Arrows and brackets -/

theorem splitArrow?_of_no_arrow {source : List Char}
    (no_arrow : Text.occursIn "->".toList source = false) (before rest : List Char) :
    splitArrow? before (source ++ ' ' :: '-' :: '>' :: rest) =
      some (before.reverse ++ source ++ [' '], rest) := by
  induction source generalizing before with
  | nil =>
      have blank : splitArrow? before (' ' :: '-' :: '>' :: rest) =
          splitArrow? (' ' :: before) ('-' :: '>' :: rest) := rfl
      rw [List.nil_append, blank, splitArrow?, if_neg (by simp)]
      simp
  | cons c source induction =>
      obtain ⟨here, later⟩ : "->".toList.isPrefixOf (c :: source) = false ∧
          Text.occursIn "->".toList source = false := by
        simpa [Text.occursIn] using no_arrow
      have step : splitArrow? before (c :: (source ++ ' ' :: '-' :: '>' :: rest)) =
          splitArrow? (c :: before) (source ++ ' ' :: '-' :: '>' :: rest) := by
        rw [splitArrow?]
        rintro tail rfl second
        cases source with
        | nil => exact absurd (List.cons.inj second).1 (by decide)
        | cons next source =>
            obtain rfl : next = '>' := (List.cons.inj second).1
            cases here
      rw [List.cons_append, step, induction later]
      simp

/-- An arrow at the start is passed over like any other character. -/
theorem splitArrow?_first (c : Char) (cs : List Char) :
    splitArrow? [] (c :: cs) = splitArrow? [c] cs := by
  rw [splitArrow?.eq_def]
  split
  · rename_i empty
    cases empty
  · rename_i before_eq line_eq
    obtain ⟨rfl, rfl⟩ := List.cons.inj line_eq
    rfl
  · rename_i line_eq
    obtain ⟨rfl, rfl⟩ := List.cons.inj line_eq
    rfl

theorem dropClosing?_append (cs : List Char) : dropClosing? (cs ++ [']']) = some cs := by
  simp [dropClosing?]

theorem splitTarget_append {target : List Char} (some : target ≠ [])
    (no_bracket : '[' ∉ target.tail) (attributes : List Char) :
    splitTarget (target ++ '[' :: (attributes ++ [']'])) = (target, attributes) := by
  cases target with
  | nil => exact absurd rfl some
  | cons c target =>
      have within : ∀ other ∈ target, (other != '[') = true := by
        intro other other_mem
        rw [bne_iff_ne]
        rintro rfl
        exact no_bracket other_mem
      rw [List.cons_append, splitTarget, List.dropWhile_append_of_pos within,
        List.takeWhile_append_of_pos within, List.dropWhile_cons_of_neg (by decide),
        List.takeWhile_cons_of_neg (by decide), List.append_nil]
      simp only [dropClosing?_append]

private theorem before_bracket {label : List Char} (no_bracket : '[' ∉ label) :
    ∀ c ∈ label, (c != '[') = true := by
  intro c c_mem
  rw [bne_iff_ne]
  rintro rfl
  exact no_bracket c_mem

/-! ## Trimmed lines -/

theorem clusterLabel?_of_text {label : String} (tidy : Text.Tidy label) :
    clusterLabel? ("Cluster: ".toList ++ label.toList) = some label.toList := by
  have word : dropWord? "cluster:".toList ("Cluster: ".toList ++ label.toList) =
    some (' ' :: label.toList) := rfl
  have blank : (' ' :: label.toList).dropWhile Text.isBlank = label.toList := by
    rw [List.dropWhile_cons_of_pos (by decide), Text.dropWhile_isBlank_of_ink tidy.startsInk]
  rw [clusterLabel?, word]
  simp only [blank]
  split
  · rename_i empty
    exact absurd (String.toList_eq_nil_iff.mp empty) tidy.nonempty
  · rfl

/-- The text of the attributes of a node line. -/
def nameChars : Option String → List Char
  | some name => "name=".toList ++ name.toList
  | none => []

/-- What follows the label on a node line. -/
def aliasChars : Option String → List Char
  | some name => ' ' :: '[' :: (nameChars (some name) ++ [']'])
  | none => []

theorem find?_nameChars {name : Option String}
    (bare : ∀ text, name = some text → Attributes.Bare text) :
    Attributes.find? "name" (Attributes.ofChars (nameChars name)) = name := by
  cases name with
  | none =>
      rw [nameChars, Attributes.ofChars, Attributes.pairs_nil]
      rfl
  | some name =>
      have filled : name.isEmpty = false := by
        simpa using (bare name rfl).nonempty
      rw [nameChars, Attributes.ofChars_name (bare name rfl)]
      simp [Attributes.find?, filled]

theorem nodeParts?_of_text {label : String} (tidy : Text.Tidy label)
    (no_bracket : '[' ∉ label.toList) (name : Option String) :
    nodeParts? ("Node: ".toList ++ label.toList ++ aliasChars name) =
      some (label.toList, nameChars name) := by
  have word : dropWord? "node:".toList ("Node: ".toList ++ label.toList ++ aliasChars name) =
    some (' ' :: (label.toList ++ aliasChars name)) := rfl
  have blank : (' ' :: (label.toList ++ aliasChars name)).dropWhile Text.isBlank =
      label.toList ++ aliasChars name := by
    rw [List.dropWhile_cons_of_pos (by decide),
      Text.dropWhile_isBlank_of_ink (tidy.startsInk.append _)]
  have filled : label.toList.isEmpty = false := by
    rw [List.isEmpty_eq_false_iff, Ne, String.toList_eq_nil_iff]
    exact tidy.nonempty
  have within := before_bracket no_bracket
  rw [nodeParts?, word]
  simp only [blank, List.takeWhile_append_of_pos within, List.dropWhile_append_of_pos within]
  cases name with
  | none => simp [aliasChars, nameChars, filled, tidy.trimChars_eq]
  | some name =>
      have taken : (aliasChars (some name)).takeWhile (· != '[') = [' '] := by
        rw [aliasChars, List.takeWhile_cons_of_pos (by decide),
          List.takeWhile_cons_of_neg (by decide)]
      have dropped : (aliasChars (some name)).dropWhile (· != '[') =
          '[' :: (nameChars (some name) ++ [']']) := by
        rw [aliasChars, List.dropWhile_cons_of_pos (by decide),
          List.dropWhile_cons_of_neg (by decide)]
      have trimmed : Text.trimChars (label.toList ++ [' ']) = label.toList :=
        Text.trimChars_between_blanks tidy.startsInk tidy.endsInk [] [' '] (by simp) (by decide)
      have kept : (label.toList ++ [' ']).isEmpty = false := by simp
      simp only [taken, dropped, trimmed, kept, dropClosing?_append, Bool.false_and,
        Bool.false_eq_true, if_false, Option.map_some]

/-- A node without a label is read by its alias. -/
theorem nodeParts?_of_alias (name : String) :
    nodeParts? ("Node: ".toList ++ aliasChars (some name)) = some ([], nameChars (some name)) := by
  have word : dropWord? "node:".toList ("Node: ".toList ++ aliasChars (some name)) =
    some (' ' :: aliasChars (some name)) := rfl
  have blank : (' ' :: aliasChars (some name)).dropWhile Text.isBlank =
      '[' :: (nameChars (some name) ++ [']']) := by
    rw [aliasChars, List.dropWhile_cons_of_pos (by decide), List.dropWhile_cons_of_pos (by decide),
      List.dropWhile_cons_of_neg (by decide)]
  have apart : Text.isBlank ' ' = true := by decide
  rw [nodeParts?, word]
  simp only [blank, List.takeWhile_cons_of_neg (p := (· != '[')) (a := '[') (by decide),
    List.dropWhile_cons_of_neg (p := (· != '[')) (a := '[') (by decide), List.head?_cons,
    Option.any_some, apart, Bool.not_true, Bool.and_false, Bool.false_eq_true, if_false,
    dropClosing?_append, Option.map_some]
  rfl

theorem edgeParts?_of_text {source target : String} (source_tidy : Text.Tidy source)
    (target_tidy : Text.Tidy target)
    (no_arrow : Text.occursIn "->".toList source.toList.tail = false)
    (no_bracket : '[' ∉ target.toList.tail) (attributes : List Char) :
    edgeParts? (source.toList ++ ' ' :: '-' :: '>' :: ' ' ::
        (target.toList ++ ' ' :: '[' :: (attributes ++ [']']))) =
      some (source.toList, target.toList, attributes) := by
  have blank : (' ' :: (target.toList ++ ' ' :: '[' :: (attributes ++ [']']))).dropWhile
      Text.isBlank = target.toList ++ [' '] ++ '[' :: (attributes ++ [']']) := by
    rw [List.dropWhile_cons_of_pos (by decide),
      Text.dropWhile_isBlank_of_ink (target_tidy.startsInk.append _), List.append_assoc,
      List.singleton_append]
  have split_target : splitTarget (target.toList ++ [' '] ++ '[' :: (attributes ++ [']'])) =
      (target.toList ++ [' '], attributes) := by
    apply splitTarget_append
    · simp
    · have filled : target.toList ≠ [] := by
        rw [Ne, String.toList_eq_nil_iff]
        exact target_tidy.nonempty
      rw [List.tail_append_of_ne_nil filled, List.mem_append, not_or]
      exact ⟨no_bracket, by decide⟩
  have arrow : splitArrow? [] (source.toList ++ ' ' :: '-' :: '>' :: ' ' ::
      (target.toList ++ ' ' :: '[' :: (attributes ++ [']']))) =
      some (source.toList ++ [' '],
        ' ' :: (target.toList ++ ' ' :: '[' :: (attributes ++ [']']))) := by
    obtain ⟨c, c_mem, -⟩ := source_tidy.startsInk
    cases chars : source.toList with
    | nil => simp [chars] at c_mem
    | cons c rest =>
        rw [chars, List.tail_cons] at no_arrow
        rw [List.cons_append, splitArrow?_first, splitArrow?_of_no_arrow no_arrow]
        rfl
  have source_trimmed : Text.trimChars (source.toList ++ [' ']) = source.toList :=
    Text.trimChars_between_blanks source_tidy.startsInk source_tidy.endsInk [] [' '] (by simp)
      (by decide)
  have target_trimmed : Text.trimChars (target.toList ++ [' ']) = target.toList :=
    Text.trimChars_between_blanks target_tidy.startsInk target_tidy.endsInk [] [' '] (by simp)
      (by decide)
  rw [edgeParts?, arrow]
  simp only [blank]
  split
  · rename_i empty
    simp at empty
  · rw [split_target]
    simp only [source_trimmed, target_trimmed]

end Statement

/-! ## Written lines -/

namespace Prompt

/-- A line that says just one statement: no separator occurs in it, it ends in ink, and it is read
as the statement. -/
structure Says (line : String) (statement : Statement) : Prop where
  /-- No character ends a line. -/
  unbroken : ∀ c ∈ line.toList, Text.isLineBreak c = false
  /-- The last character is no blank. -/
  ending : Text.EndsInk line.toList
  /-- Reading the line gives the statement. -/
  read : Statement.ofLine? line.toList = some statement

theorem toList_indentation (depth : Nat) :
    (indentation depth).toList = List.replicate (2 * depth) ' ' :=
  String.toList_ofList

theorem trimChars_indented (depth : Nat) {body : List Char} (start : Text.StartsInk body)
    (ending : Text.EndsInk body) :
    Text.trimChars (List.replicate (2 * depth) ' ' ++ body) = body := by
  have trimmed := Text.trimChars_between_blanks start ending (List.replicate (2 * depth) ' ') []
    (fun c c_mem => (List.eq_of_mem_replicate c_mem).symm ▸ rfl) (by simp)
  rwa [List.append_nil] at trimmed

theorem indentOf_indented (depth : Nat) {body : List Char} (start : Text.StartsInk body) :
    Statement.indentOf (List.replicate (2 * depth) ' ' ++ body) = 2 * depth := by
  have lead : ∀ c ∈ List.replicate (2 * depth) ' ', (c == ' ' || c == '\t') = true := by
    intro c c_mem
    rw [List.eq_of_mem_replicate c_mem]
    rfl
  have stop : body.takeWhile (fun c => c == ' ' || c == '\t') = [] := by
    obtain ⟨c, c_mem, ink⟩ := start
    cases body with
    | nil => rfl
    | cons first body =>
        obtain rfl : first = c := by simpa using c_mem
        apply List.takeWhile_cons_of_neg
        intro blank
        simp only [Bool.or_eq_true, beq_iff_eq] at blank
        rcases blank with rfl | rfl
        · cases ink
        · cases ink
  rw [Statement.indentOf, List.takeWhile_append_of_pos lead, stop, List.append_nil,
    List.length_replicate]

theorem unbroken_append {front back : List Char}
    (front_unbroken : ∀ c ∈ front, Text.isLineBreak c = false)
    (back_unbroken : ∀ c ∈ back, Text.isLineBreak c = false) :
    ∀ c ∈ front ++ back, Text.isLineBreak c = false := by
  intro c c_mem
  rcases List.mem_append.mp c_mem with front_mem | back_mem
  · exact front_unbroken c front_mem
  · exact back_unbroken c back_mem

theorem unbroken_indentation (depth : Nat) :
    ∀ c ∈ List.replicate (2 * depth) ' ', Text.isLineBreak c = false := by
  intro c c_mem
  rw [List.eq_of_mem_replicate c_mem]
  rfl

theorem says_cluster {label : String} (tidy : Text.Tidy label) (depth : Nat) :
    Says (clusterText label depth) (.cluster (2 * depth) label) := by
  have chars : (clusterText label depth).toList =
      List.replicate (2 * depth) ' ' ++ ("Cluster: ".toList ++ label.toList) := by
    rw [clusterText, String.toList_append, String.toList_append, toList_indentation,
      List.append_assoc]
  have start : Text.StartsInk ("Cluster: ".toList ++ label.toList) := ⟨'C', rfl, rfl⟩
  have ending : Text.EndsInk ("Cluster: ".toList ++ label.toList) := tidy.endsInk.append _
  refine ⟨?_, ?_, ?_⟩ <;> rw [chars]
  · exact unbroken_append (unbroken_indentation depth)
      (unbroken_append (by decide) tidy.unbroken)
  · exact ending.append _
  · rw [Statement.ofLine?]
    simp only [trimChars_indented depth start ending, indentOf_indented depth start,
      Statement.clusterLabel?_of_text tidy, String.ofList_toList]

theorem says_node {label : String} {name : Option String} (level : label = "" ∨ Text.Tidy label)
    (no_bracket : '[' ∉ label.toList) (bare : ∀ text, name = some text → Attributes.Bare text)
    (captioned : label = "" → name ≠ none) (depth : Nat) :
    Says (nodeText label name depth) (.node label name) := by
  have chars : (nodeText label name depth).toList = List.replicate (2 * depth) ' ' ++
      ("Node: ".toList ++ label.toList ++ Statement.aliasChars name) := by
    cases name with
    | none => simp [nodeText, toList_indentation, Statement.aliasChars]
    | some name =>
        have filled : name ≠ "" := (bare name rfl).nonempty
        simp [nodeText, toList_indentation, Statement.aliasChars, Statement.nameChars, filled]
  have start : Text.StartsInk ("Node: ".toList ++ label.toList ++ Statement.aliasChars name) :=
    ⟨'N', rfl, rfl⟩
  have ending : Text.EndsInk ("Node: ".toList ++ label.toList ++ Statement.aliasChars name) := by
    cases name with
    | none =>
        have tidy := level.resolve_left fun empty => captioned empty rfl
        rw [Statement.aliasChars, List.append_nil]
        exact tidy.endsInk.append _
    | some name =>
        have bracket : Text.EndsInk [']'] := ⟨']', rfl, rfl⟩
        exact (bracket.append (' ' :: '[' :: Statement.nameChars (some name))).append _
  refine ⟨?_, ?_, ?_⟩ <;> rw [chars]
  · have alias_unbroken : ∀ c ∈ Statement.aliasChars name, Text.isLineBreak c = false := by
      cases name with
      | none => simp [Statement.aliasChars]
      | some name =>
          have opening : ∀ c ∈ [' ', '['], Text.isLineBreak c = false := by decide
          have key : ∀ c ∈ "name=".toList, Text.isLineBreak c = false := by decide
          have closing : ∀ c ∈ [']'], Text.isLineBreak c = false := by decide
          exact unbroken_append opening
            (unbroken_append (unbroken_append key (bare name rfl).unbroken) closing)
    have label_unbroken : ∀ c ∈ label.toList, Text.isLineBreak c = false := by
      rcases level with rfl | tidy
      · simp
      · exact tidy.unbroken
    exact unbroken_append (unbroken_indentation depth)
      (unbroken_append (unbroken_append (by decide) label_unbroken) alias_unbroken)
  · exact ending.append _
  · have absent : Statement.dropWord? "cluster:".toList
      ("Node: ".toList ++ label.toList ++ Statement.aliasChars name) = none := rfl
    have parts : Statement.nodeParts?
        ("Node: ".toList ++ label.toList ++ Statement.aliasChars name) =
        some (label.toList, Statement.nameChars name) := by
      rcases level with rfl | tidy
      · cases name with
        | none => exact absurd rfl (captioned rfl)
        | some name => exact Statement.nodeParts?_of_alias name
      · exact Statement.nodeParts?_of_text tidy no_bracket name
    rw [Statement.ofLine?]
    simp only [trimChars_indented depth start ending, Statement.clusterLabel?_of_absent absent,
      parts, Statement.find?_nameChars bare, String.ofList_toList]

theorem unbroken_quoteChars {value : List Char}
    (unbroken : ∀ c ∈ value, Text.isLineBreak c = false) :
    ∀ c ∈ Attributes.quoteChars value, Text.isLineBreak c = false := by
  have single : ∀ c ∈ ['\''], Text.isLineBreak c = false := by decide
  have double : ∀ c ∈ ['"'], Text.isLineBreak c = false := by decide
  have escape : ∀ c ∈ ['\\'], Text.isLineBreak c = false := by decide
  have escaped : ∀ c ∈ value.flatMap Attributes.escapeChar, Text.isLineBreak c = false := by
    intro c c_mem
    obtain ⟨original, original_mem, c_mem⟩ := List.mem_flatMap.mp c_mem
    have original_unbroken : ∀ c ∈ [original], Text.isLineBreak c = false := by
      simpa using unbroken original original_mem
    rw [Attributes.escapeChar] at c_mem
    split at c_mem
    · exact unbroken_append escape original_unbroken c c_mem
    · exact original_unbroken c c_mem
  rw [Attributes.quoteChars]
  split
  · exact unbroken_append (unbroken_append single unbroken) single
  · split
    · exact unbroken_append (unbroken_append double unbroken) double
    · exact unbroken_append (unbroken_append single escaped) single

theorem unbroken_labelChars {edge : Edge}
    (tidy : ∀ label, edge.label = some label → Text.Tidy label) :
    ∀ c ∈ Attributes.labelChars edge, Text.isLineBreak c = false := by
  rw [Attributes.labelChars]
  split
  · rename_i label label_eq
    have key : ∀ c ∈ ", label=".toList, Text.isLineBreak c = false := by decide
    exact unbroken_append key (unbroken_quoteChars (tidy label label_eq).unbroken)
  · simp

/-- The text of an edge line. -/
def edgeChars (source target : String) (edge : Edge) : List Char :=
  source.toList ++ ' ' :: '-' :: '>' :: ' ' :: (target.toList ++ ' ' :: '[' ::
    ("arrow=".toList ++ edge.style.name.toList ++ Attributes.labelChars edge ++ [']']))

theorem says_edge {source target line : String} {edge : Edge}
    (chars : line.toList = edgeChars source target edge) (source_tidy : Text.Tidy source)
    (target_tidy : Text.Tidy target) (source_reference : Statement.IsSource source)
    (no_bracket : '[' ∉ target.toList.tail)
    (tidy : ∀ label, edge.label = some label → Text.Tidy label) :
    Says line (.edge source target (Attributes.ofEdge edge)) := by
  have start : Text.StartsInk (edgeChars source target edge) := source_tidy.startsInk.append _
  have ending : Text.EndsInk (edgeChars source target edge) := by
    have bracket : Text.EndsInk [']'] := ⟨']', rfl, rfl⟩
    have attributes := (bracket.append
      ("arrow=".toList ++ edge.style.name.toList ++ Attributes.labelChars edge)).append [' ', '[']
    exact ((attributes.append target.toList).append [' ', '-', '>', ' ']).append source.toList
  refine ⟨?_, ?_, ?_⟩ <;> rw [chars]
  · have arrow : ∀ c ∈ [' ', '-', '>', ' '], Text.isLineBreak c = false := by decide
    have opening : ∀ c ∈ [' ', '['], Text.isLineBreak c = false := by decide
    have key : ∀ c ∈ "arrow=".toList, Text.isLineBreak c = false := by decide
    have closing : ∀ c ∈ [']'], Text.isLineBreak c = false := by decide
    have style := (Attributes.bare_name edge.style).unbroken
    have attributes := unbroken_append
      (unbroken_append (unbroken_append key style) (unbroken_labelChars tidy)) closing
    exact unbroken_append source_tidy.unbroken
      (unbroken_append arrow
        (unbroken_append target_tidy.unbroken (unbroken_append opening attributes)))
  · exact ending
  · have no_cluster : Statement.dropWord? "cluster:".toList (edgeChars source target edge) = none :=
      Statement.dropWord?_append_blank source_reference.no_cluster (by decide) _
    have no_node : Statement.dropWord? "node:".toList (edgeChars source target edge) = none :=
      Statement.dropWord?_append_blank source_reference.no_node (by decide) _
    have parts := Statement.edgeParts?_of_text source_tidy target_tidy source_reference.no_arrow
      no_bracket ("arrow=".toList ++ edge.style.name.toList ++ Attributes.labelChars edge)
    rw [← edgeChars] at parts
    rw [Statement.ofLine?]
    simp only [Text.trimChars_of_ink start ending, Statement.clusterLabel?_of_absent no_cluster,
      Statement.nodeParts?_of_absent no_node, parts, Attributes.ofChars_edge tidy,
      String.ofList_toList]

/-- The line of an edge between two nodes. -/
theorem edgeLine?_eq {α : Type} {nodes : List (Node α)} {edge : Edge} {source target : Node α}
    (source_eq : Node.lastWith? edge.source nodes = some source)
    (target_eq : Node.lastWith? edge.target nodes = some target)
    (tidy : ∀ label, edge.label = some label → Text.Tidy label) :
    ∃ line, edgeLine? nodes edge = some line ∧
      line.toList = edgeChars source.reference target.reference edge := by
  simp only [edgeLine?, source_eq, target_eq]
  refine ⟨_, rfl, ?_⟩
  cases label_eq : edge.label with
  | none => simp [edgeChars, Attributes.labelChars, label_eq]
  | some label =>
      have filled : label ≠ "" := (tidy label label_eq).nonempty
      simp [edgeChars, Attributes.labelChars, label_eq, filled, Attributes.quote]

end Prompt
end ClusterDiagram
