import Groupwise.Evaluation.Report
import Mathlib.Data.List.Basic
import Mathlib.Data.List.Forall2
import Mathlib.Data.List.TakeWhile

/-!
# Rows of reports

Each regrouping adds a level of groups, and each group names the group it was split off from. The
keys of a group are found by going back from parent to parent. A number that is no group has no key
and no parent there, so that a parent that does not exist would make the keys fewer and nobody would
notice. Regrouping refuses such parents, and so every group of a level has one key for each
regrouping.

A report is read back by cutting it into lines and each line into columns. Keys may be any text, and
numbers need not be finite, but neither breaks the frame.
-/
namespace Groupwise

namespace GroupKeys

variable {keys keys' : GroupKeys} {children : List (Nat × GroupKey)} {depth group : Nat}

/-! ## Regrouping -/

/-- The groups after a number of regroupings, all of them with keys of their own. -/
inductive Regrouped : Nat → GroupKeys → Prop where
  | root : Regrouped 0 .root
  | explode {depth : Nat} {keys keys' : GroupKeys} {children : List (Nat × GroupKey)}
      (before : Regrouped depth keys) (keyed : ∀ child ∈ children, child.2 ≠ .initial)
      (exploded : keys.explode children = .ok keys') : Regrouped (depth + 1) keys'

/-- Regrouping succeeds if every parent is a group, and then adds the children as they are. -/
theorem explode_eq_ok_iff : keys.explode children = .ok keys' ↔
    (∀ child ∈ children, keys.contains child.1) ∧ keys' = .level keys children := by
  unfold explode
  split
  · rename_i parent key found
    have absent := List.find?_some found
    refine ⟨fun same => absurd same (by simp), fun h => ?_⟩
    simp [h.1 _ (List.mem_of_find?_eq_some found)] at absent
  · rename_i none
    simp only [List.find?_eq_none, Bool.not_eq_true, Bool.not_eq_false'] at none
    exact ⟨fun same => ⟨none, (Except.ok.inj same).symm⟩, fun h => h.2 ▸ rfl⟩

/-- Regrouping fails for the first child whose parent is no group. -/
theorem explode_eq_error_iff {reason : EvaluationError} : keys.explode children = .error reason ↔
    ∃ child, children.find? (!keys.contains ·.1) = some child ∧
      reason = .groupOutOfRange child.1 := by
  unfold explode
  split
  · rename_i parent key found
    simp only [found, Except.error.injEq, Option.some.injEq, exists_eq_left']
    exact eq_comm
  · rename_i none
    simp [none]

theorem explode_fails_iff : (∃ reason, keys.explode children = .error reason) ↔
    ∃ child ∈ children, ¬keys.contains child.1 := by
  simp only [explode_eq_error_iff]
  constructor
  · rintro ⟨_, child, found, -⟩
    exact ⟨child, List.mem_of_find?_eq_some found, by simpa using List.find?_some found⟩
  · rintro ⟨child, mem, absent⟩
    have some : (children.find? (!keys.contains ·.1)).isSome :=
      List.find?_isSome.mpr ⟨child, mem, by simpa using absent⟩
    obtain ⟨first, found⟩ := Option.isSome_iff_exists.mp some
    exact ⟨_, first, found, rfl⟩

/-! ## Keys on the way to a group -/

theorem contains_iff : keys.contains group ↔ 1 ≤ group ∧ group ≤ keys.size := by
  simp [contains]

/-- A group is one of the children that its level lists. -/
theorem exists_child? (present : keys.contains group) :
    ∃ child ∈ keys.children, keys.child? group = some child := by
  obtain ⟨hpos, hle⟩ := contains_iff.mp present
  obtain ⟨i, rfl⟩ := Nat.exists_eq_add_of_le' hpos
  exact ⟨keys.children[i], List.getElem_mem _, List.getElem?_eq_getElem hle⟩

theorem parent_of_child? {child : Nat × GroupKey} (found : keys.child? group = some child) :
    keys.parent group = child.1 := by
  rw [parent, found, Option.elim_some]

theorem key?_of_child? {child : Nat × GroupKey} (found : keys.child? group = some child) :
    keys.key? group = some child.2 := by
  rw [key?, found, Option.map_some]

/-- The keys of a group with a key of its own are those of its parent and then that key. -/
theorem path_level {child : Nat × GroupKey}
    (found : (level keys children).child? group = some child) (keyed : child.2 ≠ .initial) :
    (level keys children).path group = keys.path child.1 ++ [child.2] := by
  have own : (level keys children).ownKey group = [child.2] := by
    have named : child.2.isInitial = false := by
      cases h : child.2 <;> simp_all [GroupKey.isInitial]
    simp [ownKey, key?_of_child? found, named]
  rw [path, parent_of_child? found, own]

/-- A group has one key for each regrouping. -/
theorem Regrouped.length_path (h : Regrouped depth keys) (present : keys.contains group) :
    (keys.path group).length = depth := by
  induction h generalizing group with
  | root =>
    obtain rfl : group = 1 := by
      have := contains_iff.mp present
      simp only [size, children, List.length_singleton] at this
      omega
    rfl
  | explode before keyed exploded ih =>
    obtain ⟨parents, rfl⟩ := explode_eq_ok_iff.mp exploded
    obtain ⟨child, mem, found⟩ := exists_child? present
    rw [path_level found (keyed child mem), List.length_append, ih (parents child mem),
      List.length_singleton]

/-- The last key of a group is its own, and those before are the keys of its parent, which is a
group of the level before. -/
theorem Regrouped.path_eq (h : Regrouped (depth + 1) keys) (present : keys.contains group) :
    ∃ previous key, keys.previous? = some previous ∧ Regrouped depth previous ∧
      previous.contains (keys.parent group) ∧ keys.key? group = some key ∧
      keys.path group = previous.path (keys.parent group) ++ [key] := by
  cases h with
  | explode before keyed exploded =>
    obtain ⟨parents, rfl⟩ := explode_eq_ok_iff.mp exploded
    obtain ⟨child, mem, found⟩ := exists_child? present
    rw [parent_of_child? found]
    exact ⟨_, child.2, rfl, before, parents child mem, key?_of_child? found,
      path_level found (keyed child mem)⟩

end GroupKeys

namespace Evaluation

open GroupKeys

variable {keys : GroupKeys} {depth : Nat}

/-! ## Rows -/

theorem length_rows (keys : GroupKeys) (columns : List (List Float)) :
    (rows keys columns).length = keys.size := by
  simp [rows]

/-- The rows are those of the groups in order. -/
theorem rows_getElem? (columns : List (List Float)) {group : Nat} (present : keys.contains group) :
    (rows keys columns)[group - 1]? = some
      { keys := (keys.path group).map GroupKey.display
        stats := columns.map (·.getD group 0.0) } := by
  obtain ⟨hpos, hle⟩ := contains_iff.mp present
  have inside : group - 1 < keys.size := by omega
  simp [rows, inside, Nat.sub_add_cancel hpos]

/-- After any regroupings with keys of their own, a group has as many keys as there were
regroupings: those of its parent in the level before and then its own. The report has a row for each
group in order, with these keys and one number from each column. Regrouping further fails exactly
where a child names a parent that is no group. -/
theorem lineage_of_regrouped (h : Regrouped depth keys) :
    (∀ group, keys.contains group →
      (keys.path group).length = depth ∧
      (1 ≤ depth → ∃ previous key, keys.previous? = some previous ∧
        previous.contains (keys.parent group) ∧ keys.key? group = some key ∧
        keys.path group = previous.path (keys.parent group) ++ [key])) ∧
    (∀ columns, (rows keys columns).length = keys.size ∧
      ∀ group, keys.contains group → ∃ row, (rows keys columns)[group - 1]? = some row ∧
        row.keys = (keys.path group).map GroupKey.display ∧ row.keys.length = depth ∧
        row.stats = columns.map (·.getD group 0.0) ∧ row.stats.length = columns.length) ∧
    ∀ children, (∃ reason, keys.explode children = .error reason) ↔
      ∃ child ∈ children, ¬keys.contains child.1 := by
  refine ⟨fun group present => ⟨h.length_path present, fun regrouped => ?_⟩,
    fun columns => ⟨length_rows keys columns, fun group present => ?_⟩,
    fun _ => explode_fails_iff⟩
  · obtain ⟨before, rfl⟩ := Nat.exists_eq_add_of_le' regrouped
    obtain ⟨previous, key, last, -, parent, own, path⟩ := h.path_eq present
    exact ⟨previous, key, last, parent, own, path⟩
  · exact ⟨_, rows_getElem? columns present, rfl,
      (List.length_map _).trans (h.length_path present), rfl, List.length_map _⟩

/-- Two countries. -/
def countries : GroupKeys := .level .root [(1, .label "us"), (1, .label "gb")]

/-- Two days of the first country and what is left of the second. -/
def days : GroupKeys := .level countries [(1, .label "Mon"), (1, .label "Tue"), (2, .default)]

/-- The second day belongs to the first country, and no country has the number three. -/
theorem lineage_of_regrouped_days :
    Regrouped 2 days ∧ days.contains 2 ∧ (days.path 2).length = 2 ∧
      (∃ previous key, days.previous? = some previous ∧ days.key? 2 = some key ∧
        days.path 2 = previous.path 1 ++ [key]) ∧
      (rows days []).length = 3 ∧ ∃ reason, countries.explode [(3, .default)] = .error reason := by
  have named : ∀ child ∈ [(1, GroupKey.label "us"), (1, .label "gb")], child.2 ≠ .initial := by
    decide
  have dated : ∀ child ∈ [(1, GroupKey.label "Mon"), (1, .label "Tue"), (2, .default)],
      child.2 ≠ .initial := by
    decide
  have first : Regrouped 1 countries := .explode .root named rfl
  have second : Regrouped 2 days := .explode first dated rfl
  have present : days.contains 2 := by decide
  obtain ⟨paths, reported, -⟩ := lineage_of_regrouped second
  obtain ⟨count, parent⟩ := paths 2 present
  obtain ⟨previous, key, last, -, own, path⟩ := parent (by decide)
  obtain ⟨-, -, fails⟩ := lineage_of_regrouped first
  exact ⟨second, present, count, ⟨previous, key, last, own, path⟩, (reported []).1,
    (fails _).mpr ⟨(3, .default), List.mem_singleton_self _, by decide⟩⟩

/-! ## Joining and cutting -/

section

variable {separator : Char}

/-- The parts of a text between separators. -/
def pieces (separator : Char) (text : String) : List String :=
  (text.split separator).toList.map (·.copy)

theorem pieces_intercalate {columns : List String} (some : columns ≠ [])
    (clean : ∀ text ∈ columns, separator ∉ text.toList) :
    pieces separator ((String.singleton separator).intercalate columns) = columns := by
  rw [pieces, String.toList_split_intercalate clean, if_neg some]

theorem join_ended (separator : String) (lines : List String) :
    String.join (lines.map (· ++ separator)) = separator.intercalate (lines ++ [""]) := by
  induction lines with
  | nil => simp
  | cons line rest ih =>
    rw [List.map_cons, String.join_cons, ih, List.cons_append,
      String.intercalate_cons_of_ne_nil (by simp)]

/-- Lines that are each ended by a separator are the parts before the last one, which is empty. -/
theorem pieces_join {lines : List String} (clean : ∀ text ∈ lines, separator ∉ text.toList) :
    pieces separator (String.join (lines.map (· ++ String.singleton separator))) =
      lines ++ [""] := by
  rw [join_ended]
  refine pieces_intercalate (by simp) (List.forall_mem_append.mpr ⟨clean, ?_⟩)
  simp

/-- Joined texts end with the separator if there are several and the last one is empty. -/
theorem getLast?_intercalate {columns : List String}
    (clean : ∀ text ∈ columns, separator ∉ text.toList) :
    ((String.singleton separator).intercalate columns).toList.getLast? = some separator ↔
      2 ≤ columns.length ∧ columns.getLast? = some "" := by
  rcases List.eq_nil_or_concat' columns with rfl | ⟨front, last, rfl⟩
  · simp
  · have unended : last.toList.getLast? ≠ some separator := fun ended =>
      clean last (by simp) (List.mem_of_getLast? ended)
    by_cases single : front = []
    · simp [single, unended]
    · have several : 2 ≤ (front ++ [last]).length := by
        have := List.length_pos_iff.mpr single
        simp only [List.length_append, List.length_singleton]
        omega
      rw [String.intercalate_append_of_ne_nil single (by simp), String.intercalate_singleton,
        and_iff_right several, List.getLast?_concat, String.toList_append, String.toList_append,
        String.toList_singleton]
      by_cases empty : last = ""
      · simp [empty]
      · have own : last.toList ≠ [] := by simpa using empty
        rw [List.getLast?_append_of_ne_nil _ own]
        simp [unended, empty]

end

/-! ## Texts of one column -/

/-- A text in which no column and no line ends. -/
def Unbroken (text : String) : Prop :=
  ∀ c ∈ text.toList, c ≠ '\t' ∧ c ≠ '\r' ∧ c ≠ '\n'

theorem Unbroken.not_mem_tab {text : String} (unbroken : Unbroken text) : '\t' ∉ text.toList :=
  fun among => (unbroken _ among).1 rfl

theorem Unbroken.not_mem_newline {text : String} (unbroken : Unbroken text) :
    '\n' ∉ text.toList :=
  fun among => (unbroken _ among).2.2 rfl

theorem Unbroken.append {front back : String} (first : Unbroken front) (second : Unbroken back) :
    Unbroken (front ++ back) := by
  intro c among
  rw [String.toList_append, List.mem_append] at among
  exact among.elim (first c) (second c)

/-- Joining adds no character but those of the separator. -/
theorem not_mem_intercalate {c : Char} {separator : String} (other : c ∉ separator.toList)
    {columns : List String} (clean : ∀ text ∈ columns, c ∉ text.toList) :
    c ∉ (separator.intercalate columns).toList := by
  induction columns with
  | nil => simp
  | cons text rest ih =>
    obtain ⟨first, others⟩ := List.forall_mem_cons.mp clean
    by_cases single : rest = []
    · simpa [single] using first
    · rw [String.intercalate_cons_of_ne_nil single]
      simp only [String.toList_append, List.mem_append, not_or]
      exact ⟨⟨first, other⟩, ih others⟩

theorem unbroken_cleanKey (key : String) : Unbroken (Row.cleanKey key) := by
  intro c among
  rw [Row.cleanKey, String.toList_map] at among
  obtain ⟨original, -, rfl⟩ := List.mem_map.mp among
  split
  · decide
  · rename_i kept
    simp only [Bool.or_eq_true, decide_eq_true_eq, not_or] at kept
    exact ⟨kept.1.1, kept.1.2, kept.2⟩

theorem cleanKey_eq_empty {key : String} : Row.cleanKey key = "" ↔ key = "" :=
  String.map_eq_empty

/-! ## Numbers -/

theorem isDigit_of_mem_toString {n : Nat} : ∀ c ∈ (toString n).toList, c.isDigit := by
  intro c among
  rw [Nat.toString_eq_repr, Nat.toList_repr] at among
  exact Nat.isDigit_of_mem_toDigits (by omega) (by omega) among

/-- With places there is a point, and a digit stands before it. -/
theorem writeUnits_shape {places : Nat} (placed : places ≠ 0) (units : Nat) :
    ∃ whole fraction : List Char,
      (Decimal.writeUnits places units).toList = whole ++ '.' :: fraction ∧
        whole ≠ [] ∧ (∀ c ∈ whole, c.isDigit) ∧ ∀ c ∈ fraction, c.isDigit := by
  refine ⟨(toString (units / Nat.pow 10 places)).toList,
    (Decimal.zeros (places - (toString (units % Nat.pow 10 places)).length)).toList ++
      (toString (units % Nat.pow 10 places)).toList, ?_, ?_, isDigit_of_mem_toString,
    List.forall_mem_append.mpr ⟨?_, isDigit_of_mem_toString⟩⟩
  · simp [Decimal.writeUnits, placed]
  · rw [Nat.toString_eq_repr, Nat.toList_repr]
    exact Nat.toDigits_ne_nil
  · intro c among
    rw [Decimal.zeros, String.toList_ofList] at among
    rw [List.eq_of_mem_replicate among]
    decide

/-- Zeros and then points are dropped at the end, but no digit before a point. -/
theorem dropWhile_ne_nil {whole fraction : List Char} (some : whole ≠ [])
    (digits : ∀ c ∈ whole, c.isDigit) :
    ((whole ++ '.' :: fraction).reverse.dropWhile (· = '0')).dropWhile (· = '.') ≠ [] := by
  obtain ⟨digit, among⟩ := List.exists_mem_of_ne_nil whole some
  -- The point stops the zeros, so the digit is still there when points are dropped.
  have left : digit ∈ (whole ++ '.' :: fraction).reverse.dropWhile (· = '0') := by
    rw [List.reverse_append, List.reverse_cons, List.append_assoc, List.dropWhile_append]
    split <;> simp [among]
  intro dropped
  have point : digit = '.' := by simpa using List.dropWhile_eq_nil_iff.mp dropped digit left
  exact absurd (point ▸ digits digit among) (by decide)

theorem unbroken_of_digits {text : String}
    (digits : ∀ c ∈ text.toList, c.isDigit ∨ c = '.') : Unbroken text := by
  intro c among
  rcases digits c among with digit | rfl
  · refine ⟨?_, ?_, ?_⟩ <;> rintro rfl <;> exact absurd digit (by decide)
  · decide

theorem unbroken_writeStat (x : Float) : Unbroken (Row.writeStat x) := by
  rw [Row.writeStat]
  cases Decimal.Binary.ofFloat x with
  | nan => simp [Unbroken]
  | infinite negative => cases negative <;> simp [Unbroken]
  | finite negative significand exponent =>
    refine Unbroken.append (by split <;> simp [Unbroken]) (unbroken_of_digits fun c among => ?_)
    obtain ⟨whole, fraction, shape, -, first, last⟩ :=
      writeUnits_shape (by decide : 7 ≠ 0) (Decimal.unitsOfPlace 7 significand exponent)
    rw [String.toList_ofList, List.mem_reverse] at among
    have written := (List.dropWhile_sublist _).subset ((List.dropWhile_sublist _).subset among)
    rw [List.mem_reverse, shape, List.mem_append, List.mem_cons] at written
    rcases written with digit | rfl | digit
    · exact .inl (first c digit)
    · exact .inr rfl
    · exact .inl (last c digit)

/-- A number is never written as nothing, so its column is not an empty one. -/
theorem writeStat_ne_empty (x : Float) : Row.writeStat x ≠ "" := by
  rw [Row.writeStat]
  cases Decimal.Binary.ofFloat x with
  | nan => decide
  | infinite negative => cases negative <;> decide
  | finite negative significand exponent =>
    obtain ⟨whole, fraction, shape, some, first, -⟩ :=
      writeUnits_shape (by decide : 7 ≠ 0) (Decimal.unitsOfPlace 7 significand exponent)
    intro empty
    have nothing := (String.append_eq_empty_iff.mp empty).2
    rw [shape, String.ofList_eq_empty_iff, List.reverse_eq_nil_iff] at nothing
    exact dropWhile_ne_nil some first nothing

/-! ## Lines -/

namespace Row

theorem columns_ne_nil (r : Row) : r.columns ≠ [] := by
  unfold columns
  split <;> simp_all

theorem length_columns (r : Row) : r.columns.length = max 1 r.keys.length + r.stats.length := by
  unfold columns
  cases r.keys <;> simp <;> omega

theorem unbroken_columns (r : Row) : ∀ text ∈ r.columns, Unbroken text := by
  refine List.forall_mem_append.mpr ⟨?_, ?_⟩
  · split
    · exact List.forall_mem_singleton.mpr (by simp [Unbroken])
    · exact List.forall_mem_map.mpr fun key _ => unbroken_cleanKey key
  · exact List.forall_mem_map.mpr fun x _ => unbroken_writeStat x

/-- A number is never an empty column, so only a key at the end of a row can be one. -/
theorem getLast?_columns (r : Row) :
    2 ≤ r.columns.length ∧ r.columns.getLast? = some "" ↔
      r.stats = [] ∧ 2 ≤ r.keys.length ∧ r.keys.getLast? = some "" := by
  rw [length_columns]
  rcases List.eq_nil_or_concat' r.stats with none | ⟨stats, x, several⟩
  · have last : (r.keys.map cleanKey).getLast? = some "" ↔ r.keys.getLast? = some "" := by
      simp [List.getLast?_map, cleanKey_eq_empty]
    by_cases keyless : r.keys = []
    · simp [none, keyless]
    · have keyed : 2 ≤ max 1 r.keys.length ↔ 2 ≤ r.keys.length := by omega
      simp only [columns, none, List.isEmpty_iff, keyless, if_false, List.map_nil,
        List.append_nil, List.length_nil, Nat.add_zero, last, keyed, true_and]
  · simp [columns, several, writeStat_ne_empty]

/-- The columns of a row, joined. -/
def joined (r : Row) : String := "\t".intercalate r.columns

theorem line_eq {r : Row} (shown : r.columns ≠ [""]) : r.line = r.joined ++ "\n" := by
  unfold line joined
  split
  · contradiction
  · rfl

theorem pieces_joined (r : Row) : pieces '\t' r.joined = r.columns :=
  pieces_intercalate r.columns_ne_nil fun text among => (r.unbroken_columns text among).not_mem_tab

theorem joined_not_mem_newline (r : Row) : '\n' ∉ r.joined.toList :=
  not_mem_intercalate (by decide) fun text among =>
    (r.unbroken_columns text among).not_mem_newline

theorem joined_ends_in_tab (r : Row) :
    r.joined.toList.getLast? = some '\t' ↔
      r.stats = [] ∧ 2 ≤ r.keys.length ∧ r.keys.getLast? = some "" :=
  (getLast?_intercalate fun text among => (r.unbroken_columns text among).not_mem_tab).trans
    r.getLast?_columns

/-- What a line says of the row it is written for: its columns are the keys, or an empty one, and
the numbers. A tabulator at its end stands before an empty key that is not the only one. -/
structure WrittenAs (r : Row) (line : String) : Prop where
  columns : pieces '\t' line =
    (if r.keys = [] then [""] else r.keys.map cleanKey) ++ r.stats.map writeStat
  count : (pieces '\t' line).length = max 1 r.keys.length + r.stats.length
  ended : line.toList.getLast? = some '\t' ↔
    r.stats = [] ∧ 2 ≤ r.keys.length ∧ r.keys.getLast? = some ""

theorem writtenAs_joined (r : Row) : r.WrittenAs r.joined where
  columns := by simp only [pieces_joined, columns, List.isEmpty_iff]
  count := by rw [pieces_joined, length_columns]
  ended := r.joined_ends_in_tab

end Row

theorem pieces_writeLines {rows : List Row} (shown : ∀ r ∈ rows, r.columns ≠ [""]) :
    pieces '\n' (writeLines rows) = rows.map Row.joined ++ [""] := by
  have lines : rows.map Row.line = (rows.map Row.joined).map (· ++ "\n") := by
    rw [List.map_map]
    exact List.map_congr_left fun r among => Row.line_eq (shown r among)
  rw [writeLines, lines]
  exact pieces_join (List.forall_mem_map.mpr fun r _ => r.joined_not_mem_newline)

/-- Written rows are read back by cutting: there is one line for each row, in order, and nothing
after the last line. -/
theorem writeLines_framed (rows : List Row) (shown : ∀ r ∈ rows, r.columns ≠ [""]) :
    ∃ lines, pieces '\n' (writeLines rows) = lines ++ [""] ∧
      List.Forall₂ Row.WrittenAs rows lines := by
  refine ⟨rows.map Row.joined, pieces_writeLines shown, ?_⟩
  rw [List.forall₂_map_right_iff, List.forall₂_same]
  exact fun r _ => r.writtenAs_joined

theorem writeLines_framed_escaped :
    let rows : List Row := [{ keys := ["a\tb", "c"], stats := [1.0] }, { stats := [4.0] }]
    (∀ r ∈ rows, r.columns ≠ [""]) ∧
      ∃ lines, pieces '\n' (writeLines rows) = lines ++ [""] ∧
        List.Forall₂ Row.WrittenAs rows lines := by
  intro rows
  have shown : ∀ r ∈ rows, r.columns ≠ [""] := by simp [rows, Row.columns]
  exact ⟨shown, writeLines_framed rows shown⟩

/-- An empty key at the end of a row without numbers leaves a tabulator at the end of its line. -/
theorem writeLines_ends_in_tab :
    let r : Row := { keys := ["a", ""] }
    r.columns ≠ [""] ∧
      ∃ line ∈ pieces '\n' (writeLines [r]), line.toList.getLast? = some '\t' := by
  intro r
  have shown : r.columns ≠ [""] := by simp [r, Row.columns]
  refine ⟨shown, r.joined, ?_, r.joined_ends_in_tab.mpr (by decide)⟩
  rw [pieces_writeLines (List.forall_mem_singleton.mpr shown)]
  simp

end Evaluation

end Groupwise
