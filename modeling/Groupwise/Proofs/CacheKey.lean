import Groupwise.Proofs.Compilation.Fitness
import Groupwise.Proofs.Decimal.Numeral
import Mathlib.Data.List.Permutation

/-!
# What the bytes of a cache key determine

The zero byte behind each part keeps the parts apart as long as no text holds a zero character. It
does not say to which list a part belongs: the names in the aliases of a dataset can be read as
options, or as the name and the bounds of one more dataset. The bytes determine the datasets and the
options exactly if it is known how many aliases each dataset has and which bounds it lacks. Without
that, queries of different days can have one key.
-/
namespace Groupwise.CacheInput

/-! ## Parts behind each other -/

theorem ofNat_add_ne_zero {m k : Nat} (hk : 0 < k) (h : m + k < 256) :
    (0 : UInt8) ≠ UInt8.ofNat (m + k) := by
  intro zero
  have := congrArg UInt8.toNat zero
  rw [UInt8.toNat_ofNat', Nat.mod_eq_of_lt (by omega), UInt8.toNat_zero] at this
  omega

/-- Only the zero character has a zero byte: in a character of several bytes each one has its
highest bit set. -/
theorem eq_zero_of_zero_mem {c : Char} (h : 0 ∈ String.utf8EncodeChar c) : c = '\x00' := by
  unfold String.utf8EncodeChar at h
  extract_lets v at h
  split_ifs at h
  · have zero := congrArg UInt8.toNat (List.mem_singleton.mp h)
    rw [UInt8.toNat_ofNat', Nat.mod_eq_of_lt (by omega), UInt8.toNat_zero] at zero
    exact Char.ext (UInt32.toNat_inj.mp zero.symm)
  all_goals
    simp only [List.mem_cons, List.not_mem_nil, or_false] at h
    refine absurd h ?_
    simp only [not_or]
    repeat' constructor
    all_goals exact ofNat_add_ne_zero (by decide) (by omega)

theorem eq_of_flatMap_encode_eq {s t : String} (h : s.toList.flatMap String.utf8EncodeChar =
    t.toList.flatMap String.utf8EncodeChar) : s = t := by
  have := congrArg List.toByteArray h
  rw [← List.utf8Encode, ← List.utf8Encode, ← String.toByteArray_ofList,
    ← String.toByteArray_ofList, String.ofList_toList, String.ofList_toList] at this
  exact String.toByteArray_inj.mp this

/-- What stands before the first separator is determined, and so is what stands behind it. -/
theorem eq_of_append_separator_eq {α : Type} {separator : α} {xs ys rest more : List α}
    (hx : separator ∉ xs) (hy : separator ∉ ys)
    (h : xs ++ separator :: rest = ys ++ separator :: more) : xs = ys ∧ rest = more := by
  -- If one of the two were longer, it would go on with the separator of the other one.
  rcases List.append_eq_append_iff.mp h with ⟨longer, rfl, behind⟩ | ⟨longer, rfl, behind⟩
  · cases longer with
    | nil => simpa using behind
    | cons b _ =>
      rw [List.cons_append, List.cons.injEq] at behind
      simp [behind.1] at hy
  · cases longer with
    | nil => simpa using behind.symm
    | cons b _ =>
      rw [List.cons_append, List.cons.injEq] at behind
      simp [behind.1] at hx

theorem eq_of_framePart_append_eq {s t : String} {rest more : List UInt8}
    (hs : '\x00' ∉ s.toList) (ht : '\x00' ∉ t.toList)
    (h : framePart s ++ rest = framePart t ++ more) : s = t ∧ rest = more := by
  have absent {u : String} (hu : '\x00' ∉ u.toList) :
      0 ∉ u.toList.flatMap String.utf8EncodeChar := by
    intro zero
    obtain ⟨c, hc, within⟩ := List.mem_flatMap.mp zero
    exact hu (eq_zero_of_zero_mem within ▸ hc)
  simp only [framePart, List.append_assoc, List.singleton_append] at h
  obtain ⟨bytes, rest⟩ := eq_of_append_separator_eq (absent hs) (absent ht) h
  exact ⟨eq_of_flatMap_encode_eq bytes, rest⟩

theorem eq_of_flatMap_framePart_eq {parts parts' : List String}
    (h : ∀ part ∈ parts, '\x00' ∉ part.toList) (h' : ∀ part ∈ parts', '\x00' ∉ part.toList)
    (same : parts.flatMap framePart = parts'.flatMap framePart) : parts = parts' := by
  have some (part : String) (rest : List UInt8) : framePart part ++ rest ≠ [] := by
    simp [framePart]
  induction parts generalizing parts' with
  | nil =>
    cases parts' with
    | nil => rfl
    | cons part rest => exact absurd same.symm (some part _)
  | cons part rest ih =>
    cases parts' with
    | nil => exact absurd same (some part _)
    | cons part' rest' =>
      rw [List.forall_mem_cons] at h h'
      rw [List.flatMap_cons, List.flatMap_cons] at same
      obtain ⟨rfl, behind⟩ := eq_of_framePart_append_eq h.1 h'.1 same
      rw [ih h.2 h'.2 behind]

/-! ## Texts of an input -/

/-- The texts in a dataset's entry. -/
def rangeTexts (r : SourceRange) : List String :=
  r.name :: r.start.toList ++ r.finish.toList ++ r.fieldAliases.flatMap fun e => [e.1, e.2]

/-- The texts that are given to a cache key. -/
def texts (c : CacheInput) : List String :=
  c.commands :: c.resultFormat :: c.ranges.flatMap rangeTexts ++ c.options

/-- No text holds the zero character. -/
def ZeroFree (c : CacheInput) : Prop := ∀ text ∈ c.texts, '\x00' ∉ text.toList

/-- The options in the order in which they enter the checksum. -/
def sortedOptions (c : CacheInput) : List String :=
  c.options.mergeSort fun a b => !decide (b < a)

theorem zero_notMem_parts {c : CacheInput} (h : c.ZeroFree) :
    ∀ part ∈ c.parts, '\x00' ∉ part.toList := by
  have bound {time : Option String} (free : ∀ text ∈ time.toList, '\x00' ∉ text.toList) :
      '\x00' ∉ (time.getD "").toList := by
    cases time with
    | none => decide
    | some text => exact free text (List.mem_singleton_self _)
  simp only [ZeroFree, texts, List.cons_append, List.forall_mem_cons, List.forall_mem_append,
    List.forall_mem_flatMap, rangeTexts] at h
  obtain ⟨commands, format, ranges, options⟩ := h
  simp only [parts, List.forall_mem_append, List.forall_mem_cons, List.forall_mem_flatMap,
    List.mem_mergeSort]
  refine ⟨⟨⟨⟨by decide, ?_, format, commands, List.forall_mem_nil _⟩, fun r hr => ?_⟩, options⟩, ?_,
    List.forall_mem_nil _⟩
  · cases c.isLegacy <;> decide
  · obtain ⟨name, ⟨start, finish⟩, aliases⟩ := ranges r hr
    simp only [rangeParts, List.forall_mem_append, List.forall_mem_cons, List.forall_mem_flatMap]
    exact ⟨⟨name, bound start, bound finish, List.forall_mem_nil _⟩, aliases⟩
  · cases c.rowLimit with
    | none => decide
    | some n =>
      intro zero
      have digit := Nat.isDigit_of_mem_toDigits (by decide) (by decide)
        (show '\x00' ∈ Nat.toDigits 10 n by simpa using zero)
      revert digit
      decide

/-! ## Lists behind each other -/

/-- How many aliases a dataset has, and which of its bounds are given. -/
def shape (r : SourceRange) : Nat × Bool × Bool :=
  (r.fieldAliases.length, r.start.isSome, r.finish.isSome)

theorem length_rangeParts (r : SourceRange) :
    (rangeParts r).length = 3 + 2 * r.fieldAliases.length := by
  simp [rangeParts]
  omega

theorem eq_of_flatMap_pair_eq {d e : Dictionary String}
    (h : d.flatMap (fun e => [e.1, e.2]) = e.flatMap fun e => [e.1, e.2]) : d = e := by
  induction d generalizing e with
  | nil =>
    cases e with
    | nil => rfl
    | cons y e => simp at h
  | cons x d ih =>
    cases e with
    | nil => simp at h
    | cons y e =>
      simp only [List.flatMap_cons, List.cons_append, List.nil_append, List.cons.injEq] at h
      rw [Prod.ext h.1 h.2.1, ih h.2.2]

theorem eq_of_rangeParts_eq {r s : SourceRange} (same : rangeParts r = rangeParts s)
    (shapes : shape r = shape s) : r = s := by
  have bound {a b : Option String} (text : a.getD "" = b.getD "") (given : a.isSome = b.isSome) :
      a = b := by
    cases a <;> cases b <;> simp_all
  obtain ⟨-, start, finish⟩ : _ ∧ _ ∧ _ := by simpa [shape] using shapes
  simp only [rangeParts, List.cons_append, List.nil_append, List.cons.injEq] at same
  obtain ⟨name, starts, finishes, aliases⟩ := same
  cases r
  cases s
  simp_all only [SourceRange.mk.injEq]
  exact ⟨trivial, bound starts start, bound finishes finish, eq_of_flatMap_pair_eq aliases⟩

/-- Datasets of known shapes can be told from the options behind them. -/
theorem eq_of_flatMap_rangeParts_append_eq {rs ss : List SourceRange} {os ps : List String}
    (same : rs.flatMap rangeParts ++ os = ss.flatMap rangeParts ++ ps)
    (shapes : rs.map shape = ss.map shape) : rs = ss ∧ os = ps := by
  induction rs generalizing ss with
  | nil =>
    obtain rfl := List.map_eq_nil_iff.mp shapes.symm
    exact ⟨rfl, same⟩
  | cons r rs ih =>
    cases ss with
    | nil => cases shapes
    | cons s ss =>
      rw [List.map_cons, List.map_cons, List.cons.injEq] at shapes
      rw [List.flatMap_cons, List.flatMap_cons, List.append_assoc, List.append_assoc] at same
      have length : (rangeParts r).length = (rangeParts s).length := by
        rw [length_rangeParts, length_rangeParts]
        exact congrArg (3 + 2 * ·) (Prod.ext_iff.mp shapes.1).1
      obtain ⟨first, behind⟩ := List.append_inj same length
      obtain ⟨rfl, options⟩ := ih behind shapes.2
      exact ⟨congrArg (· :: rs) (eq_of_rangeParts_eq first shapes.1), options⟩

/-! ## What is determined -/

theorem eq_of_rowLimit_text_eq {a b : Option Nat}
    (h : (a.map fun n : Nat => toString n).getD "" = (b.map fun n : Nat => toString n).getD "") :
    a = b := by
  have digits (m n : Nat) (same : toString m = toString n) :
      Nat.toDigits 10 m = Nat.toDigits 10 n := by
    simpa using congrArg String.toList same
  have some (n : Nat) : toString n ≠ "" := fun empty =>
    Nat.toDigits_ne_nil (b := 10) (n := n) (by simpa using congrArg String.toList empty)
  cases a with
  | none =>
    cases b with
    | none => rfl
    | some n => exact absurd h.symm (some n)
  | some m =>
    cases b with
    | none => exact absurd h (some m)
    | some n => exact congrArg Option.some (Decimal.toDigits_inj (digits m n h))

/-- Inputs with the same bytes agree in their commands, row limit, kind and result format. They
agree in their datasets and sorted options exactly if their datasets have the same shapes. -/
theorem determined_of_frame_eq {c d : CacheInput} (hc : c.ZeroFree) (hd : d.ZeroFree)
    (same : c.frame = d.frame) :
    (c.commands = d.commands ∧ c.rowLimit = d.rowLimit ∧ c.isLegacy = d.isLegacy ∧
      c.resultFormat = d.resultFormat) ∧
    (c.ranges = d.ranges ∧ c.sortedOptions = d.sortedOptions ↔
      c.ranges.map shape = d.ranges.map shape) := by
  have parts := eq_of_flatMap_framePart_eq (zero_notMem_parts hc) (zero_notMem_parts hd) same
  simp only [CacheInput.parts, List.append_assoc, List.cons_append, List.nil_append,
    List.cons.injEq] at parts
  obtain ⟨-, kind, format, commands, lists⟩ := parts
  -- Nothing marks where the lists end, but a single part comes behind them.
  rw [← List.append_assoc, ← List.append_assoc] at lists
  obtain ⟨lists, limit⟩ := List.append_inj' lists rfl
  refine ⟨⟨commands, eq_of_rowLimit_text_eq (List.cons.inj limit).1, ?_, format⟩,
    fun h => congrArg (List.map shape) h.1, eq_of_flatMap_rangeParts_append_eq lists⟩
  revert kind
  cases c.isLegacy <;> cases d.isLegacy <;> simp

/-- What the cache key of a query of ads is made from. -/
def ofAds (aliases : Dictionary String) (options : List String) : CacheInput where
  commands := "[]"
  ranges := [{ name := "ads", fieldAliases := aliases }]
  options := options
  resultFormat := "tsv"

/-- Options in another order give the same bytes, from which they can be told. -/
theorem determined_of_frame_eq_reordered :
    let c := ofAds [("c", "clicks")] ["y", "x"]
    let d := ofAds [("c", "clicks")] ["x", "y"]
    c.ZeroFree ∧ d.ZeroFree ∧ c.frame = d.frame ∧ c.sortedOptions = d.sortedOptions := by
  intro c d
  have hc : c.ZeroFree := by unfold ZeroFree; decide
  have hd : d.ZeroFree := by unfold ZeroFree; decide
  have same : c.frame = d.frame := by cbv
  exact ⟨hc, hd, same, ((determined_of_frame_eq hc hd same).2.mpr rfl).2⟩

/-! ## What is not determined -/

/-- What the cache key of a compiled query is made from under the usual settings. -/
def ofCompiled (c : Compiled) : CacheInput where
  commands := c.document.compact
  ranges := c.sources.map Source.range
  rowLimit := c.rowLimit
  resultFormat := "tsv"

theorem options_of_plan {catalog : Catalog} {settings : Settings} {now : Timestamp} {q : Query}
    {planned : Query.Planned} (h : q.plan catalog settings now = .ok planned) :
    planned.plan.options = if settings.isLegacy then ["legacy"] else [] := by
  simp only [Query.plan, bind_eq_ok] at h
  obtain ⟨offset, -, h⟩ := h
  split at h
  · obtain ⟨_, fails, -⟩ := bind_eq_ok.mp h
    cases fails
  · cases h
    rfl

theorem cacheKey_of_compileText {catalog : Catalog} {now : Timestamp} {text : String}
    {compiled : Compiled} (h : Query.compileText catalog {} now text = .ok compiled) :
    compiled.cacheKey = .ofInput (ofCompiled compiled) := by
  obtain ⟨q, -, h⟩ := Query.compile_of_compileText h
  simp only [Query.compile, bind_eq_ok, pure_eq_ok] at h
  obtain ⟨planned, hplanned, _, _, _, _, _, _, _, _, _, _, rfl⟩ := h
  simp only [ofCompiled, Compiled.document, options_of_plan hplanned]
  rfl

def isCountIn (dataset : String) : Aggregate.Metric Float → Bool
  | .docStatsIn d .count => d == dataset
  | _ => false

theorem eq_of_isCountIn {dataset : String} {m : Aggregate.Metric Float}
    (h : isCountIn dataset m = true) : m = .docStatsIn dataset .count := by
  unfold isCountIn at h
  split at h
  · rw [beq_iff_eq.mp h]
  · contradiction

def isCountInBoth : Command Float → Bool
  | .measure (.stats [.add [m, n]] [none] true) => isCountIn "1st" m && isCountIn "ads" n
  | _ => false

/-- Count the documents of two datasets. -/
def countInBoth : Command Float :=
  .measure (.stats [.add [.docStatsIn "1st" .count, .docStatsIn "ads" .count]] [none] true)

theorem eq_of_isCountInBoth {c : Command Float} (h : isCountInBoth c = true) : c = countInBoth := by
  unfold isCountInBoth at h
  split at h
  · rw [Bool.and_eq_true] at h
    rw [eq_of_isCountIn h.1, eq_of_isCountIn h.2, countInBoth]
  · contradiction

/-- What the cache key of a query is made from that counts the documents of both. -/
def ofCount (ranges : List SourceRange) : CacheInput where
  commands := (Json.list Command.toJson [countInBoth]).compact
  ranges := ranges
  resultFormat := "tsv"

def countsIn (ranges : List SourceRange) : Except QueryError Compiled → Bool
  | .ok ⟨[c], _, sources, none, _⟩ => isCountInBoth c && sources.map Source.range == ranges
  | _ => false

theorem exists_of_countsIn {ranges : List SourceRange} {x : Except QueryError Compiled}
    (h : countsIn ranges x = true) :
    ∃ compiled, x = .ok compiled ∧ ofCompiled compiled = ofCount ranges := by
  unfold countsIn at h
  split at h
  · rw [Bool.and_eq_true, beq_iff_eq] at h
    obtain ⟨counts, rfl⟩ := h
    refine ⟨_, rfl, ?_⟩
    rw [ofCompiled, Compiled.document, eq_of_isCountInBoth counts]
    rfl
  · contradiction

theorem zero_notMem_escapedChar (c : Char) : '\x00' ∉ (Json.escapedChar c).toList := by
  by_cases control : c.toNat < 0x20
  · have free : ∀ n < 0x20, '\x00' ∉ (Json.escapedChar (Char.ofNat n)).toList := by
      decide +kernel
    exact Char.ofNat_toNat c ▸ free c.toNat control
  · unfold Json.escapedChar
    split_ifs
    iterate 7 decide
    rintro zero
    simp only [Char.toString, String.toList_singleton, List.mem_singleton] at zero
    exact control (zero ▸ by decide)

theorem zero_notMem_quoted (text : String) : '\x00' ∉ (Json.quoted text).toList := by
  have escaped (cs : List Char) (out : String) (free : '\x00' ∉ out.toList) :
      '\x00' ∉ (cs.foldl (fun out c => out ++ Json.escapedChar c) out).toList := by
    induction cs generalizing out with
    | nil => exact free
    | cons c cs ih =>
      refine ih _ ?_
      rw [String.toList_append, List.mem_append]
      exact not_or.mpr ⟨free, zero_notMem_escapedChar c⟩
  rw [Json.quoted, String.foldl_eq_foldl_toList, String.toList_append, List.mem_append]
  exact not_or.mpr ⟨escaped _ _ (by decide), by decide⟩

theorem zero_notMem_document :
    '\x00' ∉ (Json.list Command.toJson [countInBoth]).compact.toList := by
  simp [Json.list, Json.compact, Json.compactItems, Json.compactMembers, Command.toJson,
    commandDocument, Command.members, Measurement.members, countInBoth, formatsToJson,
    Json.option, Aggregate.Metric.toJson, zero_notMem_quoted]

def february : List SourceRange := [
  { name := "ads", fieldAliases := [("1st", "2024-01-01T00:00:00-06:00"),
      ("2024-01-02T00:00:00-06:00", "1"), ("a", "2")] },
  { name := "1st", start := some "2024-02-01T00:00:00-06:00",
    finish := some "2024-02-02T00:00:00-06:00" }]

def january : List SourceRange := [
  { name := "ads" },
  { name := "1st", start := some "2024-01-01T00:00:00-06:00",
    finish := some "2024-01-02T00:00:00-06:00",
    fieldAliases := [("1", "a"), ("2", "1st"),
      ("2024-02-01T00:00:00-06:00", "2024-02-02T00:00:00-06:00")] }]

/-- Two queries that count the documents of a day in February and of a day in January are compiled
to one cache key. The aliases of the first dataset in the one query read like the bounds of the
second dataset and the beginning of its aliases in the other. -/
theorem frame_eq_of_other_days :
    let catalog : Catalog := { datasets := [{ name := "ads" }, { name := "1st" }] }
    ∃ a b, Query.compileText catalog {} default
        ("FROM ads ALIASING (`2024-01-01T00:00:00-06:00` AS `1st`, " ++
          "`1` AS `2024-01-02T00:00:00-06:00`, `2` AS a), " ++
          "`1st` 2024-02-01 2024-02-02 SELECT count()") = .ok a ∧
      Query.compileText catalog {} default
        ("FROM ads, `1st` 2024-01-01 2024-01-02 ALIASING (a AS `1`, `1st` AS `2`, " ++
          "`2024-02-02T00:00:00-06:00` AS `2024-02-01T00:00:00-06:00`) SELECT count()") = .ok b ∧
      a.cacheKey = .ofInput (ofCompiled a) ∧ b.cacheKey = .ofInput (ofCompiled b) ∧
      (ofCompiled a).ZeroFree ∧ (ofCompiled b).ZeroFree ∧
      (ofCompiled a).frame = (ofCompiled b).frame ∧ (ofCompiled a).ranges ≠ (ofCompiled b).ranges := by
  intro catalog
  obtain ⟨a, ha, later⟩ := exists_of_countsIn (show countsIn february
      (Query.compileText catalog {} default
        ("FROM ads ALIASING (`2024-01-01T00:00:00-06:00` AS `1st`, " ++
          "`1` AS `2024-01-02T00:00:00-06:00`, `2` AS a), " ++
          "`1st` 2024-02-01 2024-02-02 SELECT count()")) = true by decide +kernel)
  obtain ⟨b, hb, earlier⟩ := exists_of_countsIn (show countsIn january
      (Query.compileText catalog {} default
        ("FROM ads, `1st` 2024-01-01 2024-01-02 ALIASING (a AS `1`, `1st` AS `2`, " ++
          "`2024-02-02T00:00:00-06:00` AS `2024-02-01T00:00:00-06:00`) SELECT count()")) = true
    by decide +kernel)
  refine ⟨a, b, ha, hb, cacheKey_of_compileText ha, cacheKey_of_compileText hb, ?_⟩
  rw [later, earlier]
  have same : february.flatMap rangeParts = january.flatMap rangeParts := by decide
  refine ⟨?_, ?_, ?_, by decide⟩
  · exact List.forall_mem_cons.mpr ⟨zero_notMem_document, by decide +kernel⟩
  · exact List.forall_mem_cons.mpr ⟨zero_notMem_document, by decide +kernel⟩
  · unfold frame parts
    rw [show (ofCount february).ranges.flatMap rangeParts = _ from same]
    rfl

end Groupwise.CacheInput
