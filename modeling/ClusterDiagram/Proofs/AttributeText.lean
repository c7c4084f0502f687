import ClusterDiagram.Graph.Basic
import ClusterDiagram.Prompt.Attributes
import ClusterDiagram.Proofs.AssocLookup
import ClusterDiagram.Proofs.TextLines

/-!
# Attributes are read as they are written

Quoting a value and reading it back gives the value, whatever quotes, backslashes, commas and
brackets it holds. A bare value comes back when it holds no comma and is not quoted at either end.
-/

namespace ClusterDiagram
namespace Attributes

/-! ## Quoted values -/

theorem takeQuoted?_plain {quote : Char} {value : List Char} (escape : quote ≠ '\\')
    (no_escape : '\\' ∉ value) (no_quote : quote ∉ value) (rest : List Char) :
    takeQuoted? quote (value ++ quote :: rest) = some (value, rest) := by
  induction value with
  | nil =>
      rw [List.nil_append, takeQuoted?, if_pos rfl]
      · exact fun same _ => escape same
      · exact fun _ _ same _ => escape same
  | cons c value induction =>
      rw [List.mem_cons, not_or] at no_escape no_quote
      rw [List.cons_append, takeQuoted?, if_neg (Ne.symm no_quote.1),
        induction no_escape.2 no_quote.2]
      · rfl
      · exact fun same _ => no_escape.1 same.symm
      · exact fun _ _ same _ => no_escape.1 same.symm

theorem unescape_plain {value : List Char} (no_escape : '\\' ∉ value) :
    unescape value = value := by
  induction value with
  | nil => rfl
  | cons c value induction =>
      rw [List.mem_cons, not_or] at no_escape
      rw [unescape, induction no_escape.2]
      exact fun _ _ same _ => no_escape.1 same.symm

theorem takeQuoted?_escaped (value rest : List Char) :
    takeQuoted? '\'' (value.flatMap escapeChar ++ '\'' :: rest) =
      some (value.flatMap escapeChar, rest) := by
  induction value with
  | nil => exact takeQuoted?_plain (by decide) List.not_mem_nil List.not_mem_nil rest
  | cons c value induction =>
      rw [List.flatMap_cons, List.append_assoc]
      by_cases escaped : c = '\\' ∨ c = '\''
      · have feed : c ≠ '\n' := by
          rintro rfl
          simp at escaped
        rw [escapeChar, if_pos escaped, List.cons_append, List.cons_append, List.nil_append,
          takeQuoted?, if_neg feed, induction]
        rfl
      · rw [escapeChar, if_neg escaped]
        rw [not_or] at escaped
        rw [List.singleton_append, takeQuoted?, if_neg escaped.2, induction]
        · rfl
        · exact fun same _ => escaped.1 same
        · exact fun _ _ same _ => escaped.1 same

theorem unescape_escaped (value : List Char) : unescape (value.flatMap escapeChar) = value := by
  induction value with
  | nil => rfl
  | cons c value induction =>
      rw [List.flatMap_cons]
      by_cases escaped : c = '\\' ∨ c = '\''
      · have special : c = '\\' ∨ Text.isQuote c = true := by
          rcases escaped with rfl | rfl
          · exact Or.inl rfl
          · exact Or.inr rfl
        rw [escapeChar, if_pos escaped, List.cons_append, List.cons_append, List.nil_append,
          unescape, if_pos special, induction]
      · rw [escapeChar, if_neg escaped]
        rw [not_or] at escaped
        rw [List.singleton_append, unescape, induction]
        exact fun _ _ same _ => escaped.1 same

/-- Reading a quoted value gives it back and stops after the closing quote. -/
theorem takeValue_quoteChars (value rest : List Char) :
    takeValue (quoteChars value ++ rest) = (value, rest) := by
  rw [quoteChars]
  split
  · rename_i plain
    simp only [Bool.and_eq_true, Bool.not_eq_true', List.contains_eq_mem, decide_eq_false_iff_not]
      at plain
    have taken := takeQuoted?_plain (by decide) plain.1 plain.2 rest
    simp [takeValue, Text.isQuote, taken, unescape_plain plain.1]
  · split
    · rename_i plain
      simp only [Bool.and_eq_true, Bool.not_eq_true', List.contains_eq_mem,
        decide_eq_false_iff_not] at plain
      have taken := takeQuoted?_plain (by decide) plain.1 plain.2 rest
      simp [takeValue, Text.isQuote, taken, unescape_plain plain.1]
    · have taken := takeQuoted?_escaped value rest
      simp [takeValue, Text.isQuote, taken, unescape_escaped]

/-! ## Bare values -/

/-- A value that needs no quotes: nothing in it ends the value, and no quote stands at an end. -/
structure Bare (value : String) : Prop extends Text.Tidy value where
  /-- There is no comma. -/
  no_comma : ',' ∉ value.toList
  /-- The value does not begin with a quote. -/
  first : ∀ c ∈ value.toList.head?, Text.isQuote c = false
  /-- The value does not end in a quote. -/
  last : ∀ c ∈ value.toList.getLast?, Text.isQuote c = false

instance (value : String) : Decidable (Bare value) :=
  decidable_of_iff
    (Text.Tidy value ∧ ',' ∉ value.toList ∧
      (∀ c ∈ value.toList.head?, Text.isQuote c = false) ∧
      ∀ c ∈ value.toList.getLast?, Text.isQuote c = false)
    ⟨fun ⟨tidy, no_comma, first, last⟩ => ⟨tidy, no_comma, first, last⟩,
      fun bare => ⟨bare.toTidy, bare.no_comma, bare.first, bare.last⟩⟩

/-- Reading a bare value gives it back and stops at the next comma. -/
theorem takeValue_of_bare {value : String} (bare : Bare value) (rest : List Char)
    (stop : ∀ c ∈ rest.head?, c = ',') :
    takeValue (value.toList ++ rest) = (value.toList, rest) := by
  have within : ∀ c ∈ value.toList, (c != ',') = true := by
    intro c c_mem
    rw [bne_iff_ne]
    rintro rfl
    exact bare.no_comma c_mem
  have stop_take : rest.takeWhile (· != ',') = [] := by
    cases rest with
    | nil => rfl
    | cons c rest => simp [stop c rfl]
  have stop_drop : rest.dropWhile (· != ',') = rest := by
    cases rest with
    | nil => rfl
    | cons c rest => simp [stop c rfl]
  have taken : takeBare (value.toList ++ rest) = (value.toList, rest) := by
    rw [takeBare, List.takeWhile_append_of_pos within, List.dropWhile_append_of_pos within,
      stop_take, stop_drop, List.append_nil, bare.trimChars_eq,
      Text.trimWhile_eq_self_iff.mpr ⟨bare.first, bare.last⟩]
  obtain ⟨c, c_mem, -⟩ := bare.startsInk
  have unquoted := bare.first c c_mem
  cases chars : value.toList with
  | nil => simp [chars] at c_mem
  | cons first value =>
      obtain rfl : first = c := by simpa [chars] using c_mem
      rw [List.cons_append, takeValue, unquoted, ← List.cons_append, ← chars]
      exact taken

/-! ## Pairs -/

/-- A key in small letters. -/
structure IsKey (key : String) : Prop where
  /-- The key begins like a key and goes on like one. -/
  chars : ∃ c rest, key.toList = c :: rest ∧ isKeyStart c = true ∧
    ∀ other ∈ rest, isKeyChar other = true
  /-- The key is its own lower-case form. -/
  lowered : Text.lower key = key

/-- A key, an equals sign and a value make a pair. Outer blanks of the value do not count. -/
theorem pair?_of_key {key : String} {value cs rest : List Char} (isKey : IsKey key)
    (ink : Text.StartsInk cs) (taken : takeValue cs = (value, rest)) :
    pair? (key.toList ++ '=' :: cs) =
      some ((key, String.ofList (Text.trimChars value)), rest) := by
  obtain ⟨c, tail, chars, start, continues⟩ := isKey.chars
  have key_dropped : (tail ++ '=' :: cs).dropWhile isKeyChar = '=' :: cs := by
    rw [List.dropWhile_append_of_pos continues, List.dropWhile_cons_of_neg (by decide)]
  have key_taken : (tail ++ '=' :: cs).takeWhile isKeyChar = tail := by
    rw [List.takeWhile_append_of_pos continues, List.takeWhile_cons_of_neg (by decide),
      List.append_nil]
  have sign : ('=' :: cs).dropWhile Text.isBlank = '=' :: cs :=
    List.dropWhile_cons_of_neg (by decide)
  have key_eq : String.ofList (Text.lowerChars (c :: tail)) = key := by
    rw [← chars]
    exact isKey.lowered
  rw [chars, List.cons_append, pair?, if_pos start, key_dropped, sign]
  simp only [key_taken, Text.dropWhile_isBlank_of_ink ink, taken, key_eq]

theorem pairs_nil : pairs [] = [] := by
  rw [pairs]
  rfl

/-- A pair is read, then those that follow it. -/
theorem pairs_of_key {key : String} {value cs rest : List Char} (isKey : IsKey key)
    (ink : Text.StartsInk cs) (taken : takeValue cs = (value, rest)) :
    pairs (key.toList ++ '=' :: cs) =
      (key, String.ofList (Text.trimChars value)) :: pairs rest := by
  have read := pair?_of_key isKey ink taken
  rw [pairs]
  split
  · rename_i other after other_read
    cases other_read.symm.trans read
    rfl
  · rename_i none_read
    cases none_read.symm.trans read

theorem pairs_of_bare {key value : String} (isKey : IsKey key) (bare : Bare value)
    (rest : List Char) (stop : ∀ c ∈ rest.head?, c = ',') :
    pairs (key.toList ++ '=' :: (value.toList ++ rest)) = (key, value) :: pairs rest := by
  rw [pairs_of_key isKey (bare.startsInk.append rest) (takeValue_of_bare bare rest stop),
    bare.trimChars_eq, String.ofList_toList]

theorem pairs_of_not_start {c : Char} (other : isKeyStart c = false) (rest : List Char) :
    pairs (c :: rest) = pairs rest := by
  have none_read : pair? (c :: rest) = none := by
    simp [pair?, other]
  rw [pairs]
  split
  · rename_i read
    cases none_read.symm.trans read
  · rfl

/-! ## Attributes of a line -/

/-- The attribute that gives a node its alias is read back. -/
theorem ofChars_name {name : String} (bare : Bare name) :
    ofChars ("name=".toList ++ name.toList) = [("name", name)] := by
  have isKey : IsKey "name" :=
    ⟨⟨'n', ['a', 'm', 'e'], rfl, by decide, by decide⟩, by decide⟩
  have read := pairs_of_bare isKey bare [] (by simp)
  rw [pairs_nil, List.append_nil] at read
  exact congrArg Assoc.ofEntries read

/-- The attributes of an edge line: the style, and the label where there is one. -/
def ofEdge (edge : Edge) : List (String × String) :=
  ("arrow", edge.style.name) :: (edge.label.map fun label => ("label", label)).toList

/-- The text that follows the style on an edge line. -/
def labelChars (edge : Edge) : List Char :=
  match edge.label with
  | some label => ", label=".toList ++ quoteChars label.toList
  | none => []

theorem bare_name (style : EdgeStyle) : Bare style.name := by
  cases style <;>
    exact ⟨⟨by decide, by decide, by decide⟩, by decide, by decide, by decide⟩

theorem startsInk_quoteChars (value : List Char) : Text.StartsInk (quoteChars value) := by
  rw [quoteChars]
  split
  · exact ⟨_, rfl, by decide⟩
  · split <;> exact ⟨_, rfl, by decide⟩

/-- A style is read, then what follows a comma. -/
theorem pairs_arrow (style : EdgeStyle) {rest : List Char} (stop : ∀ c ∈ rest.head?, c = ',') :
    pairs ("arrow=".toList ++ style.name.toList ++ rest) =
      ("arrow", style.name) :: pairs rest := by
  have isKey : IsKey "arrow" :=
    ⟨⟨'a', ['r', 'r', 'o', 'w'], rfl, by decide, by decide⟩, by decide⟩
  exact pairs_of_bare isKey (bare_name style) rest stop

/-- A quoted label is read whatever it holds, but for outer blanks. -/
theorem pairs_label (label : List Char) :
    pairs (", label=".toList ++ quoteChars label) =
      [("label", String.ofList (Text.trimChars label))] := by
  have isKey : IsKey "label" :=
    ⟨⟨'l', ['a', 'b', 'e', 'l'], rfl, by decide, by decide⟩, by decide⟩
  have taken := takeValue_quoteChars label []
  rw [List.append_nil] at taken
  have read := pairs_of_key isKey (startsInk_quoteChars label) taken
  rw [pairs_nil] at read
  calc pairs (',' :: ' ' :: ("label".toList ++ '=' :: quoteChars label))
      = pairs (' ' :: ("label".toList ++ '=' :: quoteChars label)) :=
        pairs_of_not_start (by decide) _
    _ = pairs ("label".toList ++ '=' :: quoteChars label) := pairs_of_not_start (by decide) _
    _ = [("label", String.ofList (Text.trimChars label))] := read

theorem pairs_labelChars {edge : Edge}
    (tidy : ∀ label, edge.label = some label → Text.Tidy label) :
    pairs (labelChars edge) = (edge.label.map fun label => ("label", label)).toList := by
  cases label_eq : edge.label with
  | none =>
      rw [labelChars, label_eq]
      exact pairs_nil
  | some label =>
      rw [labelChars, label_eq]
      simp only [pairs_label, (tidy label label_eq).trimChars_eq, String.ofList_toList]
      rfl

/-- The attributes of an edge are read back. -/
theorem ofChars_edge {edge : Edge} (tidy : ∀ label, edge.label = some label → Text.Tidy label) :
    ofChars ("arrow=".toList ++ edge.style.name.toList ++ labelChars edge) = ofEdge edge := by
  have stop : ∀ c ∈ (labelChars edge).head?, c = ',' := by
    intro c c_mem
    rw [labelChars] at c_mem
    split at c_mem
    · exact (Option.some.inj c_mem).symm
    · cases c_mem
  have read := pairs_arrow edge.style stop
  rw [pairs_labelChars tidy] at read
  have distinct : ((ofEdge edge).map (·.1)).Nodup := by
    rw [ofEdge]
    cases edge.label <;> simp
  calc ofChars ("arrow=".toList ++ edge.style.name.toList ++ labelChars edge)
      = Assoc.ofEntries (ofEdge edge) := congrArg Assoc.ofEntries read
    _ = ofEdge edge := Assoc.ofEntries_of_nodup distinct

/-- A style and a quoted label are read back whatever the label holds, but for its outer blanks. -/
theorem ofText_quote (style : EdgeStyle) (label : String) :
    ofText ("arrow=" ++ style.name ++ ", label=" ++ quote label) =
      [("arrow", style.name), ("label", Text.trim label)] := by
  have chars : ("arrow=" ++ style.name ++ ", label=" ++ quote label).toList =
      "arrow=".toList ++ style.name.toList ++ (", label=".toList ++ quoteChars label.toList) := by
    simp only [quote, String.toList_append, String.toList_ofList, List.append_assoc]
  have stop : ∀ c ∈ (", label=".toList ++ quoteChars label.toList).head?, c = ',' :=
    fun c c_mem => (Option.some.inj c_mem).symm
  have read := pairs_arrow style stop
  rw [pairs_label] at read
  calc ofText ("arrow=" ++ style.name ++ ", label=" ++ quote label)
      = Assoc.ofEntries [("arrow", style.name), ("label", Text.trim label)] := by
        rw [ofText, chars, ofChars, read]
        rfl
    _ = [("arrow", style.name), ("label", Text.trim label)] :=
        Assoc.ofEntries_of_nodup (by simp)

theorem lookup_label_ofEdge (edge : Edge) : (ofEdge edge).lookup "label" = edge.label := by
  rw [ofEdge, List.lookup_cons, beq_false_of_ne (by decide)]
  cases edge.label with
  | none => rfl
  | some label => exact List.lookup_cons_self

/-- The label of an edge is found among its attributes. -/
theorem findEither?_label {edge : Edge}
    (tidy : ∀ label, edge.label = some label → Text.Tidy label) :
    findEither? "label" "lable" (ofEdge edge) = edge.label := by
  have misspelt : (ofEdge edge).lookup "lable" = none := by
    rw [ofEdge, List.lookup_cons, beq_false_of_ne (by decide)]
    cases edge.label with
    | none => rfl
    | some label =>
        show List.lookup "lable" [("label", label)] = none
        rw [List.lookup_cons, beq_false_of_ne (by decide)]
        rfl
  rw [findEither?, find?, find?, lookup_label_ofEdge, misspelt]
  cases label_eq : edge.label with
  | none => rfl
  | some label =>
      have filled : label ≠ "" := (tidy label label_eq).nonempty
      simp [filled]

theorem ofText_name (style : EdgeStyle) : EdgeStyle.ofText style.name = style := by
  cases style <;> decide +kernel

/-- The style of an edge is found among its attributes. -/
theorem ofText?_findEither?_arrow (edge : Edge) :
    EdgeStyle.ofText? (findEither? "arrow" "type" (ofEdge edge)) = edge.style := by
  have filled : edge.style.name.isEmpty = false := by
    simpa using (bare_name edge.style).nonempty
  have arrow : (ofEdge edge).lookup "arrow" = some edge.style.name := List.lookup_cons_self
  rw [findEither?, find?, arrow, Option.filter_some, filled]
  exact ofText_name edge.style

end Attributes
end ClusterDiagram
