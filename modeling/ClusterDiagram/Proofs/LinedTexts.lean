import ClusterDiagram.Proofs.AttributeText
import ClusterDiagram.Proofs.Growth

/-!
# What is read fits on lines

Every label, alias and reference that is read is a part of one line, trimmed at both ends. Only the
label of a node can be empty. So no text of a diagram that is read against nothing breaks the line
that it is written on.
-/

namespace ClusterDiagram

/-- A diagram each of whose texts fits on a line. Only a node may go without a label. -/
structure Graph.Lined {α : Type} (graph : Graph α) : Prop where
  /-- The label of a cluster fits on a line. -/
  clusterLabels : ∀ cluster ∈ graph.clusters, Text.Tidy cluster.label
  /-- The label of a node fits on a line or is empty. -/
  nodeLabels : ∀ node ∈ graph.nodes, node.label = "" ∨ Text.Tidy node.label
  /-- The alias of a node fits on a line. -/
  names : ∀ node ∈ graph.nodes, ∀ name, node.name = some name → Text.Tidy name
  /-- The label of an edge fits on a line. -/
  edgeLabels : ∀ edge ∈ graph.edges, ∀ label, edge.label = some label → Text.Tidy label

/-! ## Parts of a line -/

namespace Text

theorem trimWhile_trimWhile (p : Char → Bool) (cs : List Char) :
    trimWhile p (trimWhile p cs) = trimWhile p cs := by
  have front := List.head?_dropWhile_not p cs
  have back := List.head?_dropWhile_not p (cs.dropWhile p).reverse
  apply trimWhile_eq_self_iff.mpr
  constructor
  · intro c first
    obtain ⟨dropped, split_eq⟩ := List.dropWhile_suffix (l := (cs.dropWhile p).reverse) p
    have whole := congrArg List.reverse split_eq
    rw [List.reverse_append, List.reverse_reverse] at whole
    rw [Option.mem_def] at first
    have first_eq : (cs.dropWhile p).head? = some c := by
      rw [← whole, List.head?_append, ← trimWhile, first, Option.some_or]
    rw [first_eq] at front
    simpa using front
  · intro c last
    rw [trimWhile, List.getLast?_reverse, Option.mem_def] at last
    rw [last] at back
    simpa using back

theorem trim_trimChars (cs : List Char) :
    trim (String.ofList (trimChars cs)) = String.ofList (trimChars cs) := by
  rw [trim, String.toList_ofList, trimChars, trimChars, trimWhile_trimWhile]

theorem trimChars_subset (cs : List Char) : trimChars cs ⊆ cs := by
  intro c c_mem
  rw [trimChars, trimWhile, List.mem_reverse] at c_mem
  have front_mem := List.mem_reverse.mp ((List.dropWhile_sublist _).subset c_mem)
  exact (List.dropWhile_sublist _).subset front_mem

theorem dropWhile_subset (p : Char → Bool) (cs : List Char) : cs.dropWhile p ⊆ cs :=
  (List.dropWhile_sublist p).subset

theorem takeWhile_subset (p : Char → Bool) (cs : List Char) : cs.takeWhile p ⊆ cs :=
  (List.takeWhile_sublist p).subset

/-- What is trimmed is empty or fits on a line when nothing in it ends one. -/
theorem tidy_of_trimmed {text : String} (trimmed : trim text = text)
    (unbroken : ∀ c ∈ text.toList, isLineBreak c = false) : text = "" ∨ Tidy text := by
  by_cases empty : text = ""
  · exact Or.inl empty
  · exact Or.inr ⟨empty, trimmed, unbroken⟩

theorem nonempty_of_tidy {text : String} (tidy : Tidy text) :
    nonempty (some text) = some text := by
  have filled := tidy.nonempty
  simp [nonempty, filled]

theorem tidy_trimChars {cs : List Char} (unbroken : ∀ c ∈ cs, isLineBreak c = false) :
    String.ofList (trimChars cs) = "" ∨ Tidy (String.ofList (trimChars cs)) := by
  apply tidy_of_trimmed (trim_trimChars cs)
  rw [String.toList_ofList]
  exact fun c c_mem => unbroken c (trimChars_subset cs c_mem)

theorem tidy_trimChars_of_ink {cs : List Char} (start : StartsInk cs)
    (unbroken : ∀ c ∈ cs, isLineBreak c = false) : Tidy (String.ofList (trimChars cs)) := by
  refine (tidy_trimChars unbroken).resolve_left fun empty => trimChars_ne_nil start ?_
  simpa using congrArg String.toList empty

theorem unbroken_of_mem_splitLinesFrom {before rest : List Char}
    (unbroken : ∀ c ∈ before, isLineBreak c = false) :
    ∀ line ∈ splitLinesFrom before rest, ∀ c ∈ line, isLineBreak c = false := by
  have kept {before : List Char} (unbroken : ∀ c ∈ before, isLineBreak c = false) :
      ∀ c ∈ before.reverse, isLineBreak c = false := by
    simpa using unbroken
  fun_induction splitLinesFrom before rest with
  | case1 => simp
  | case2 before => simpa using unbroken
  | case3 before rest induction =>
      rw [List.forall_mem_cons]
      exact ⟨kept unbroken, induction (by simp)⟩
  | case4 before c rest _ ends induction =>
      rw [List.forall_mem_cons]
      exact ⟨kept unbroken, induction (by simp)⟩
  | case5 before c rest _ goes_on induction =>
      apply induction
      rw [List.forall_mem_cons]
      exact ⟨by simpa using goes_on, unbroken⟩

/-- No line holds a character that ends one. -/
theorem unbroken_of_mem_splitLines {text : String} {line : List Char}
    (line_mem : line ∈ splitLines text) : ∀ c ∈ line, isLineBreak c = false :=
  unbroken_of_mem_splitLinesFrom (by simp) line line_mem

end Text

/-! ## Attributes -/

namespace Attributes

theorem takeQuoted?_subset {quote : Char} {cs value rest : List Char}
    (taken : takeQuoted? quote cs = some (value, rest)) : value ⊆ cs ∧ rest ⊆ cs := by
  fun_induction takeQuoted? quote cs generalizing value rest with
  | case1 => cases taken
  | case2 => cases taken
  | case3 => cases taken
  | case4 c cs _ induction =>
      obtain ⟨⟨inner, after⟩, found, same⟩ := Option.map_eq_some_iff.mp taken
      obtain ⟨rfl, rfl⟩ := Prod.mk.inj same
      obtain ⟨inner_within, rest_within⟩ := induction found
      constructor
      · exact List.cons_subset_cons _ (List.cons_subset_cons _ inner_within)
      · exact fun other other_mem =>
          List.mem_cons_of_mem _ (List.mem_cons_of_mem _ (rest_within other_mem))
  | case5 cs =>
      obtain ⟨rfl, rfl⟩ := Prod.mk.inj (Option.some.inj taken)
      exact ⟨List.nil_subset _, List.subset_cons_self _ _⟩
  | case6 c cs _ _ _ induction =>
      obtain ⟨⟨inner, after⟩, found, same⟩ := Option.map_eq_some_iff.mp taken
      obtain ⟨rfl, rfl⟩ := Prod.mk.inj same
      obtain ⟨inner_within, rest_within⟩ := induction found
      exact ⟨List.cons_subset_cons _ inner_within,
        fun other other_mem => List.mem_cons_of_mem _ (rest_within other_mem)⟩

theorem unescape_subset (cs : List Char) : unescape cs ⊆ cs := by
  fun_induction unescape cs with
  | case1 => exact List.nil_subset _
  | case2 c rest _ induction =>
      exact fun other other_mem =>
        List.mem_cons_of_mem _ (List.cons_subset_cons _ induction other_mem)
  | case3 c rest _ induction => exact List.cons_subset_cons _ induction
  | case4 c rest _ induction => exact List.cons_subset_cons _ induction

theorem takeBare_subset (cs : List Char) : (takeBare cs).1 ⊆ cs ∧ (takeBare cs).2 ⊆ cs := by
  constructor
  · intro c c_mem
    simp only [takeBare, Text.trimWhile, List.mem_reverse] at c_mem
    have kept := List.mem_reverse.mp ((List.dropWhile_sublist _).subset c_mem)
    exact Text.takeWhile_subset _ _
      (Text.trimChars_subset _ ((List.dropWhile_sublist _).subset kept))
  · exact Text.dropWhile_subset _ _

theorem takeValue_subset (cs : List Char) : (takeValue cs).1 ⊆ cs ∧ (takeValue cs).2 ⊆ cs := by
  unfold takeValue
  split
  · exact ⟨List.nil_subset _, List.nil_subset _⟩
  · rename_i c rest
    split
    · split
      · rename_i value after taken
        obtain ⟨value_within, after_within⟩ := takeQuoted?_subset taken
        exact ⟨fun other other_mem =>
            List.mem_cons_of_mem _ (value_within (unescape_subset value other_mem)),
          fun other other_mem => List.mem_cons_of_mem _ (after_within other_mem)⟩
      · exact takeBare_subset _
    · exact takeBare_subset _

theorem pair?_subset {cs rest : List Char} {pair : String × String}
    (read : pair? cs = some (pair, rest)) : pair.2.toList ⊆ cs ∧ rest ⊆ cs := by
  cases cs with
  | nil => cases read
  | cons c cs =>
      simp only [pair?] at read
      split at read
      · split at read
        · rename_i after opened
          cases read
          obtain ⟨value_within, rest_within⟩ :=
            takeValue_subset (after.dropWhile Text.isBlank)
          have after_within : after.dropWhile Text.isBlank ⊆ c :: cs := by
            intro other other_mem
            have behind_sign := List.mem_cons_of_mem '=' (Text.dropWhile_subset _ _ other_mem)
            rw [← opened] at behind_sign
            exact List.mem_cons_of_mem c
              (Text.dropWhile_subset _ _ (Text.dropWhile_subset _ _ behind_sign))
          rw [String.toList_ofList]
          exact ⟨fun other other_mem =>
              after_within (value_within (Text.trimChars_subset _ other_mem)),
            fun other other_mem => after_within (rest_within other_mem)⟩
        · cases read
      · cases read

theorem subset_of_mem_pairs {cs : List Char} {pair : String × String}
    (pair_mem : pair ∈ pairs cs) : pair.2.toList ⊆ cs := by
  fun_induction pairs cs with
  | case1 cs first rest read induction =>
      obtain ⟨first_within, rest_within⟩ := pair?_subset read
      rcases List.mem_cons.mp pair_mem with rfl | rest_mem
      · exact first_within
      · exact fun c c_mem => rest_within (induction rest_mem c_mem)
  | case2 => cases pair_mem
  | case3 c rest read induction =>
      exact fun other other_mem => List.mem_cons_of_mem c (induction pair_mem other_mem)

/-- The values of attributes consist of characters that were read. -/
theorem subset_of_mem_ofChars {cs : List Char} {pair : String × String}
    (pair_mem : pair ∈ ofChars cs) : pair.2.toList ⊆ cs := by
  have value_mem := Assoc.values_ofEntries_subset (pairs cs) (List.mem_map_of_mem pair_mem)
  obtain ⟨other, other_mem, same⟩ := List.mem_map.mp value_mem
  rw [← same]
  exact subset_of_mem_pairs other_mem

theorem trim_of_pair? {cs rest : List Char} {pair : String × String}
    (read : pair? cs = some (pair, rest)) : Text.trim pair.2 = pair.2 := by
  cases cs with
  | nil => cases read
  | cons c cs =>
      simp only [pair?] at read
      split at read
      · split at read
        · cases read
          exact Text.trim_trimChars _
        · cases read
      · cases read

theorem trim_of_mem_pairs {cs : List Char} {pair : String × String} (pair_mem : pair ∈ pairs cs) :
    Text.trim pair.2 = pair.2 := by
  fun_induction pairs cs with
  | case1 cs first rest read induction =>
      rcases List.mem_cons.mp pair_mem with rfl | rest_mem
      · exact trim_of_pair? read
      · exact induction rest_mem
  | case2 => cases pair_mem
  | case3 c rest read induction => exact induction pair_mem

/-- The values of attributes are trimmed. -/
theorem trim_of_mem_ofChars {cs : List Char} {pair : String × String}
    (pair_mem : pair ∈ ofChars cs) : Text.trim pair.2 = pair.2 := by
  have value_mem := Assoc.values_ofEntries_subset (pairs cs) (List.mem_map_of_mem pair_mem)
  obtain ⟨other, other_mem, same⟩ := List.mem_map.mp value_mem
  rw [← same]
  exact trim_of_mem_pairs other_mem

/-- The attributes of a line fit on a line. -/
def Lined (attributes : List (String × String)) : Prop :=
  ∀ pair ∈ attributes, pair.2 = "" ∨ Text.Tidy pair.2

theorem lined_ofChars {cs : List Char} (unbroken : ∀ c ∈ cs, Text.isLineBreak c = false) :
    Lined (ofChars cs) := by
  intro pair pair_mem
  apply Text.tidy_of_trimmed (trim_of_mem_ofChars pair_mem)
  exact fun c c_mem => unbroken c (subset_of_mem_ofChars pair_mem c_mem)

theorem Lined.tidy_of_find? {attributes : List (String × String)} (lined : Lined attributes)
    {key value : String} (found : find? key attributes = some value) : Text.Tidy value := by
  obtain ⟨listed, filled⟩ := Option.filter_eq_some_iff.mp found
  apply (lined (key, value) (Assoc.mem_of_lookup listed)).resolve_left
  rintro rfl
  cases filled

theorem Lined.tidy_of_findEither? {attributes : List (String × String)}
    (lined : Lined attributes) {key other value : String}
    (found : findEither? key other attributes = some value) : Text.Tidy value := by
  rcases Option.or_eq_some_iff.mp found with own | ⟨-, spare⟩
  · exact lined.tidy_of_find? own
  · exact lined.tidy_of_find? spare

end Attributes

/-! ## Statements -/

namespace Statement

/-- A statement each of whose texts fits on a line. -/
def Lined : Statement → Prop
  | .cluster _ label => Text.Tidy label
  | .node label name =>
      (label = "" ∨ Text.Tidy label) ∧ ∀ text, name = some text → Text.Tidy text
  | .edge source target attributes =>
      Text.Tidy source ∧ Text.Tidy target ∧ Attributes.Lined attributes

theorem dropWord?_suffix {word cs rest : List Char} (dropped : dropWord? word cs = some rest) :
    rest <:+ cs := by
  induction word generalizing cs with
  | nil =>
      cases dropped
      exact List.suffix_refl _
  | cons letter word induction =>
      cases cs with
      | nil => cases dropped
      | cons c cs =>
          rw [dropWord?] at dropped
          split at dropped
          · exact (induction dropped).trans (List.suffix_cons c cs)
          · cases dropped

theorem dropClosing?_subset {cs rest : List Char} (dropped : dropClosing? cs = some rest) :
    rest ⊆ cs := by
  rw [dropClosing?] at dropped
  split at dropped
  · cases dropped
    exact (List.dropLast_sublist cs).subset
  · cases dropped

/-- The label of a cluster line fits on a line. -/
theorem tidy_of_clusterLabel? {line label : List Char}
    (unbroken : ∀ c ∈ line, Text.isLineBreak c = false)
    (read : clusterLabel? (Text.trimChars line) = some label) :
    Text.Tidy (String.ofList label) := by
  rw [clusterLabel?] at read
  split at read
  · cases read
  · rename_i rest dropped
    have first := List.head?_dropWhile_not Text.isBlank rest
    split at read
    · cases read
    · rename_i filled
      cases read
      have suffix : rest.dropWhile Text.isBlank <:+ Text.trimChars line :=
        (List.dropWhile_suffix _).trans (dropWord?_suffix dropped)
      have trimmed : Text.trimChars (Text.trimChars line) = Text.trimChars line :=
        Text.trimWhile_trimWhile _ _
      have last := (Text.trimWhile_eq_self_iff.mp trimmed).2
      have kept : Text.trimChars (rest.dropWhile Text.isBlank) = rest.dropWhile Text.isBlank := by
        apply Text.trimWhile_eq_self_iff.mpr
        constructor
        · intro c c_mem
          rw [Option.mem_def] at c_mem
          rw [c_mem] at first
          simpa using first
        · intro c c_mem
          obtain ⟨front, whole⟩ := suffix
          rw [Option.mem_def] at c_mem
          apply last c
          rw [Option.mem_def, ← whole, List.getLast?_append, c_mem, Option.some_or]
      refine ⟨?_, ?_, ?_⟩
      · simpa using filled
      · rw [Text.trim, String.toList_ofList, kept]
      · rw [String.toList_ofList]
        exact fun c c_mem => unbroken c (Text.trimChars_subset line (suffix.subset c_mem))

/-- The label of a node line is a trimmed part of it, its attributes are a part of it. -/
theorem nodeParts?_subset {line label attributes : List Char}
    (read : nodeParts? line = some (label, attributes)) :
    (∃ part ⊆ line, label = Text.trimChars part) ∧ attributes ⊆ line := by
  simp only [nodeParts?] at read
  split at read
  · cases read
  · rename_i rest dropped
    have body_within : rest.dropWhile Text.isBlank ⊆ line := fun c c_mem =>
      (dropWord?_suffix dropped).subset (Text.dropWhile_subset _ _ c_mem)
    have label_within : (rest.dropWhile Text.isBlank).takeWhile (· != '[') ⊆ line :=
      fun c c_mem => body_within (Text.takeWhile_subset _ _ c_mem)
    split at read
    · split at read
      · cases read
      · cases read
        exact ⟨⟨_, label_within, rfl⟩, List.nil_subset _⟩
    · rename_i bracket inner opened
      have inner_within : inner ⊆ line := by
        intro c c_mem
        have c_mem := List.mem_cons_of_mem bracket c_mem
        rw [← opened] at c_mem
        exact body_within (Text.dropWhile_subset _ _ c_mem)
      split at read
      · cases read
      · obtain ⟨closed, dropped_closing, same⟩ := Option.map_eq_some_iff.mp read
        obtain ⟨rfl, rfl⟩ := Prod.mk.inj same
        exact ⟨⟨_, label_within, rfl⟩,
          fun c c_mem => inner_within (dropClosing?_subset dropped_closing c_mem)⟩

/-- The parts on both sides of an arrow, of which the first is not empty. -/
theorem splitArrow?_eq_some {before line source rest : List Char}
    (split_at : splitArrow? before line = some (source, rest)) :
    source ≠ [] ∧ before.reverse ++ line = source ++ '-' :: '>' :: rest := by
  fun_induction splitArrow? before line with
  | case1 => cases split_at
  | case2 before rest empty induction => simpa using induction split_at
  | case3 before rest filled =>
      obtain ⟨rfl, rfl⟩ := Prod.mk.inj (Option.some.inj split_at)
      exact ⟨by simpa using filled, rfl⟩
  | case4 before c rest _ induction =>
      rw [List.reverse_cons, List.append_assoc, List.singleton_append] at induction
      exact induction split_at

/-- The target of an edge line begins like its text, and it and the attributes are parts of it. -/
theorem splitTarget_subset (cs : List Char) :
    (splitTarget cs).1.head? = cs.head? ∧ (splitTarget cs).1 ⊆ cs ∧ (splitTarget cs).2 ⊆ cs := by
  rw [splitTarget.eq_def]
  split
  · simp
  · rename_i c rest
    split
    · exact ⟨rfl, List.Subset.refl _, List.nil_subset _⟩
    · rename_i bracket inner opened
      split
      · exact ⟨rfl, List.Subset.refl _, List.nil_subset _⟩
      · rename_i attributes closed
        refine ⟨rfl, List.cons_subset_cons c (Text.takeWhile_subset _ _), ?_⟩
        intro other other_mem
        have inner_mem := List.mem_cons_of_mem bracket (dropClosing?_subset closed other_mem)
        rw [← opened] at inner_mem
        exact List.mem_cons_of_mem c (Text.dropWhile_subset _ _ inner_mem)

/-- The references of an edge line fit on a line, and so do its attributes. -/
theorem lined_of_edgeParts? {line source target attributes : List Char}
    (unbroken : ∀ c ∈ line, Text.isLineBreak c = false)
    (read : edgeParts? (Text.trimChars line) = some (source, target, attributes)) :
    Text.Tidy (String.ofList source) ∧ Text.Tidy (String.ofList target) ∧
      ∀ c ∈ attributes, Text.isLineBreak c = false := by
  have trimmed_unbroken : ∀ c ∈ Text.trimChars line, Text.isLineBreak c = false :=
    fun c c_mem => unbroken c (Text.trimChars_subset line c_mem)
  rw [edgeParts?] at read
  split at read
  · cases read
  · rename_i before after split_at
    obtain ⟨filled, whole⟩ := splitArrow?_eq_some split_at
    rw [List.reverse_nil, List.nil_append] at whole
    rw [whole] at trimmed_unbroken
    split at read
    · cases read
    · rename_i some_target
      cases read
      have target_first := List.head?_dropWhile_not Text.isBlank after
      obtain ⟨head_eq, target_within, attributes_within⟩ :=
        splitTarget_subset (after.dropWhile Text.isBlank)
      have behind : ∀ c ∈ after.dropWhile Text.isBlank, Text.isLineBreak c = false := by
        intro c c_mem
        apply trimmed_unbroken
        simp [Text.dropWhile_subset _ _ c_mem]
      refine ⟨Text.tidy_trimChars_of_ink ?_ ?_, Text.tidy_trimChars_of_ink ?_ ?_, ?_⟩
      · -- the line is trimmed, and its source is not empty
        have trimmed : Text.trimChars (Text.trimChars line) = Text.trimChars line :=
          Text.trimWhile_trimWhile _ _
        have first := (Text.trimWhile_eq_self_iff.mp trimmed).1
        rw [whole] at first
        cases before with
        | nil => exact absurd rfl filled
        | cons c before => exact ⟨c, rfl, first c rfl⟩
      · exact fun c c_mem => trimmed_unbroken c (List.mem_append_left _ c_mem)
      · cases body : after.dropWhile Text.isBlank with
        | nil => exact absurd body some_target
        | cons c rest =>
            rw [body] at head_eq target_first
            exact ⟨c, head_eq, target_first⟩
      · exact fun c c_mem => behind c (target_within c_mem)
      · exact fun c c_mem => behind c (attributes_within c_mem)

theorem lined_of_ofLine? {line : List Char} (unbroken : ∀ c ∈ line, Text.isLineBreak c = false)
    {statement : Statement} (read : ofLine? line = some statement) : statement.Lined := by
  simp only [ofLine?] at read
  split at read
  · rename_i label found
    cases read
    exact tidy_of_clusterLabel? unbroken found
  · split at read
    · rename_i label attributes found
      cases read
      obtain ⟨⟨part, part_within, rfl⟩, attributes_within⟩ := nodeParts?_subset found
      refine ⟨Text.tidy_trimChars ?_, fun text text_eq => ?_⟩
      · exact fun c c_mem => unbroken c (Text.trimChars_subset line (part_within c_mem))
      · have lined := Attributes.lined_ofChars fun c c_mem =>
          unbroken c (Text.trimChars_subset line (attributes_within c_mem))
        exact lined.tidy_of_find? text_eq
    · split at read
      · rename_i source target attributes found
        cases read
        obtain ⟨source_tidy, target_tidy, attributes_unbroken⟩ := lined_of_edgeParts? unbroken found
        exact ⟨source_tidy, target_tidy, Attributes.lined_ofChars attributes_unbroken⟩
      · cases read

theorem lined_of_mem_ofText {text : String} {statement : Statement}
    (listed : statement ∈ ofText text) : statement.Lined := by
  obtain ⟨line, line_mem, read⟩ := List.mem_filterMap.mp listed
  exact lined_of_ofLine? (Text.unbroken_of_mem_splitLines line_mem) read

end Statement

/-! ## Drafts -/

namespace Prompt

variable {α : Type} [Scalar α] {context : Context α} {draft after : Draft α}

namespace Draft

theorem lined_addNode {label : String} {name cluster : Option String}
    {position : Option (Point α)} {node : Node α} (lined : draft.graph.Lined)
    (label_level : label = "" ∨ Text.Tidy label)
    (name_tidy : ∀ text, name = some text → Text.Tidy text)
    (done : Draft.addNode context draft label name cluster position = .ok (node, after)) :
    after.graph.Lined := by
  obtain ⟨rfl, rfl, -, base, drawn, -, rfl⟩ := addNode_ok done
  refine { lined with nodeLabels := ?_, names := ?_ }
  · intro other other_mem
    rcases List.mem_append.mp other_mem with old | new
    · exact lined.nodeLabels other old
    · obtain rfl := List.mem_singleton.mp new
      exact label_level
  · intro other other_mem
    rcases List.mem_append.mp other_mem with old | new
    · exact lined.names other old
    · obtain rfl := List.mem_singleton.mp new
      exact name_tidy

theorem lined_declare {statement : Statement} (lined : draft.graph.Lined)
    (texts : statement.Lined) (done : draft.declare context statement = .ok after) :
    after.graph.Lined := by
  cases statement with
  | cluster indent label =>
      cases done
      refine { lined with clusterLabels := ?_ }
      intro cluster cluster_mem
      rcases List.mem_append.mp cluster_mem with old | new
      · exact lined.clusterLabels cluster old
      · obtain rfl := List.mem_singleton.mp new
        exact texts
  | node label name =>
      obtain ⟨⟨node, _⟩, added, rfl⟩ := ok_of_map done
      exact lined_addNode lined texts.1 texts.2 added
  | edge source target attributes =>
      cases done
      exact lined

section Unknown

variable (unknown : context.nodes = [])

include unknown

theorem lined_resolve {reference : String} {node : Node α} (lined : draft.graph.Lined)
    (tidy : Text.Tidy reference) (done : draft.resolve context reference = .ok (node, after)) :
    after.graph.Lined := by
  rcases resolve_of_unknown unknown done with ⟨-, rfl⟩ | ⟨-, added⟩
  · exact lined
  · rw [tidy.trimmed] at added
    exact lined_addNode lined (Or.inr tidy) (by simp) added

theorem lined_connect {statement : Statement} (lined : draft.graph.Lined)
    (texts : statement.Lined) (done : draft.connect context statement = .ok after) :
    after.graph.Lined := by
  cases statement with
  | cluster indent label =>
      cases done
      exact lined
  | node label name =>
      cases done
      exact lined
  | edge source target attributes =>
      obtain ⟨source_tidy, target_tidy, attributes_lined⟩ := texts
      obtain ⟨first, middle, last, before, source_done, target_done, edge, base, drawn, -, -, -,
        label_eq, -, rfl⟩ := connect_edge_ok done
      have source_lined := lined_resolve unknown lined source_tidy source_done
      have resolved := lined_resolve unknown source_lined target_tidy target_done
      refine { resolved with edgeLabels := ?_ }
      intro other other_mem
      rcases List.mem_append.mp other_mem with old | new
      · exact resolved.edgeLabels other old
      · obtain rfl := List.mem_singleton.mp new
        intro label other_label
        exact attributes_lined.tidy_of_findEither? (label_eq.symm.trans other_label)

end Unknown

end Draft

/-- The texts of a diagram that is read against nothing fit on lines. -/
theorem lined_of_read {text : String} {drawn next : Nat} {graph : Graph α}
    (unknown : context.nodes = []) (done : read context text drawn = .ok (graph, next)) :
    graph.Lined := by
  obtain ⟨declared, draft, declare_done, connect_done, rfl⟩ := rounds_of_read done
  have start : ({ drawn } : Draft α).graph.Lined :=
    ⟨by simp, by simp, by simp, by simp⟩
  have declared_lined : declared.graph.Lined :=
    foldlM_invariant (fun _ listed _ _ step lined =>
      Draft.lined_declare lined (Statement.lined_of_mem_ofText listed) step) declare_done start
  exact foldlM_invariant (fun _ listed _ _ step lined =>
    Draft.lined_connect unknown lined (Statement.lined_of_mem_ofText listed) step) connect_done
    declared_lined

end Prompt
end ClusterDiagram
