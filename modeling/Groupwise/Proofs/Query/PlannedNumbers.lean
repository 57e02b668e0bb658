import Groupwise.Proofs.Query.ScaleResolution
import Groupwise.Proofs.Query.Soundness
import Mathlib.Data.List.Forall2

/-!
# How the numbers of a query reach its plan

A scale of a plan is the number that is written in the query, or in the expression of a dimension,
behind the argument that was resolved to the scaled metric: what is left of the number in 32 bits. A
period of a grouping by time reaches the plan as a number of buckets, which is zero where it does not
fit into 32 bits, or as a length in milliseconds that wraps around at 64 bits.
-/
namespace Groupwise.Query

/-! ## Periods -/

theorem splitSign_of_digits {ds : List Char} (digits : ∀ c ∈ ds, c.isDigit) :
    Decimal.splitSign ds = (false, ds) := by
  unfold Decimal.splitSign
  split
  · exact absurd (digits _ (List.mem_cons_self ..)) (by decide)
  · exact absurd (digits _ (List.mem_cons_self ..)) (by decide)
  · rfl

theorem readInt?_of_digits {ds : List Char} (nonempty : ds ≠ []) (digits : ∀ c ∈ ds, c.isDigit) :
    Decimal.readInt? ds = some (Decimal.digitsValue ds : Int) := by
  have read : Decimal.readNat? ds = some (Decimal.digitsValue ds) := by
    rw [Decimal.readNat?, List.isEmpty_eq_false_iff.mpr nonempty, List.all_eq_true.mpr digits]
    rfl
  rw [Decimal.readInt?, splitSign_of_digits digits]
  simp only [read]
  rfl

/-- A number in digits is read if it fits into 64 bits. -/
theorem readInt64?_of_digits {ds : List Char} (nonempty : ds ≠ [])
    (digits : ∀ c ∈ ds, c.isDigit) :
    Decimal.readInt64? (String.ofList ds) = Arithmetic.fit (Decimal.digitsValue ds) := by
  rw [Decimal.readInt64?, String.toList_ofList, readInt?_of_digits nonempty digits]
  simp only [Arithmetic.fit, Bool.and_eq_true, decide_eq_true_eq]

/-- The amount of a period is the number that is written if that fits into 64 bits, and else zero. -/
theorem splitPeriod_eq {ds unit : List Char} (nonempty : ds ≠ []) (digits : ∀ c ∈ ds, c.isDigit)
    (letters : ∀ c ∈ unit, c.isAlpha) :
    splitPeriod (String.ofList (ds ++ unit)) =
      ((Arithmetic.fit (Decimal.digitsValue ds)).getD 0, String.ofList unit) := by
  have stop : unit.takeWhile Char.isDigit = [] ∧ unit.dropWhile Char.isDigit = unit := by
    cases unit with
    | nil => exact ⟨rfl, rfl⟩
    | cons c unit => simp [Parser.isDigit_of_isAlpha (letters c (List.mem_cons_self ..))]
  rw [splitPeriod, String.toList_ofList, List.takeWhile_append_of_pos digits,
    List.dropWhile_append_of_pos digits, stop.1, stop.2, List.append_nil]
  rw [readInt64?_of_digits nonempty digits]

/-- An amount of a period that is not refused is the number that is written. -/
theorem toInt_of_pos_fit {n : Nat} (h : ¬ (Arithmetic.fit n).getD 0 ≤ 0) :
    ((Arithmetic.fit n).getD 0).toInt = n ∧ 0 < n ∧ n < 2 ^ 63 := by
  cases fits : Arithmetic.fit n with
  | none => simp [fits] at h
  | some v =>
    have value : v.toInt = n := Grammar.toInt_of_fit fits
    have below := v.toInt_lt
    rw [fits, Option.getD_some, Int64.le_iff_toInt_le, Int64.toInt_zero] at h
    refine ⟨value, ?_, ?_⟩ <;> omega

theorem toInt_max_one {v : Int64} (positive : ¬ v ≤ 0) : (max v 1).toInt = v.toInt := by
  have one : Int64.toInt 1 = 1 := rfl
  have larger : max v 1 = if v ≤ 1 then 1 else v := rfl
  rw [Int64.le_iff_toInt_le, Int64.toInt_zero] at positive
  rw [larger]
  split
  · rename_i small
    rw [Int64.le_iff_toInt_le] at small
    omega
  · rfl

/-- The units of a fixed length, with their lengths in milliseconds. -/
def unitLengths : List (String × Nat) :=
  [("s", 1000), ("S", 1000), ("m", 60 * 1000), ("h", 60 * 60 * 1000), ("H", 60 * 60 * 1000),
    ("d", 24 * 60 * 60 * 1000), ("D", 24 * 60 * 60 * 1000), ("w", 7 * 24 * 60 * 60 * 1000),
    ("W", 7 * 24 * 60 * 60 * 1000)]

theorem mem_unitLengths {unit : String} {length : Int64} (h : unitMillis? unit = some length) :
    (unit, length.toInt.toNat) ∈ unitLengths ∧ 0 ≤ length.toInt := by
  unfold unitMillis? at h
  split at h
  all_goals cases h
  all_goals decide

/-- What a period of some number of units becomes in a plan that has no errors: a number of buckets,
a calendar month, or a length. -/
inductive PeriodPlanned (n : Nat) (format : Option String) :
    String → Aggregate.Grouping Float → Prop where
  | buckets {unit : String} {field : Option FieldSet} (counts : unit ∈ ["b", "B"]) :
    PeriodPlanned n format unit (.timeBuckets (if n < UInt32.size then n else 0) field format)
  | month {field : Option FieldSet} (single : n = 1) :
    PeriodPlanned n format "M" (.month field format)
  | time {unit : String} {length : Nat} {millis : Int64} {field : Option FieldSet}
    (fixed : (unit, length) ∈ unitLengths) (wraps : millis.toInt = (n * length : Int).bmod UInt64.size) :
    PeriodPlanned n format unit (.time millis field format false)

theorem ensures_timeGrouping_planned {ds unit : List Char} (nonempty : ds ≠ [])
    (digits : ∀ c ∈ ds, c.isDigit) (letters : ∀ c ∈ unit, c.isAlpha) (field : Option FieldSet)
    (format : Option String) :
    Ensures (timeGrouping (String.ofList (ds ++ unit)) field format) fun g =>
      0 < Decimal.digitsValue ds ∧ Decimal.digitsValue ds < 2 ^ 63 ∧
        PeriodPlanned (Decimal.digitsValue ds) format (String.ofList unit) g := by
  unfold timeGrouping
  rw [splitPeriod_eq nonempty digits letters]
  dsimp only
  generalize Decimal.digitsValue ds = n
  generalize String.ofList unit = u
  refine .check ?_
  split
  · rename_i counts
    refine .pure fun positive => ?_
    obtain ⟨value, within⟩ := toInt_of_pos_fit positive
    rw [value, Int.toNat_natCast]
    exact ⟨within.1, within.2, .buckets (by simpa using counts)⟩
  split
  · rename_i single
    rw [Bool.and_eq_true, beq_iff_eq, beq_iff_eq] at single
    refine .pure fun positive => ?_
    obtain ⟨value, within⟩ := toInt_of_pos_fit positive
    rw [single.2] at value
    obtain rfl := single.1
    refine ⟨within.1, within.2, .month ?_⟩
    have one : Int64.toInt 1 = 1 := rfl
    omega
  · refine .check (.pure fun known positive => ?_)
    obtain ⟨value, within⟩ := toInt_of_pos_fit positive
    obtain ⟨length, found⟩ := Option.ne_none_iff_exists'.mp (by simpa using known)
    obtain ⟨fixed, nonneg⟩ := mem_unitLengths found
    refine ⟨within.1, within.2, .time fixed ?_⟩
    have kept : (max ((Arithmetic.fit n).getD 0) 1).toInt = n := toInt_max_one positive ▸ value
    rw [found, Option.getD_some, Int64.toInt_mul, Int.toNat_of_nonneg nonneg, kept]

/-! ## Plans -/

/-- A stage of a query that groups by a period is planned as the period says. -/
def Stage.PeriodKept (s : Stage) (s' : Groupwise.Stage Float) : Prop :=
  ∀ ds unit field format, ds ≠ [] → (∀ c ∈ ds, c.isDigit) → (∀ c ∈ unit, c.isAlpha) →
    s.grouping = .time (String.ofList (ds ++ unit)) field format →
    0 < Decimal.digitsValue ds ∧ Decimal.digitsValue ds < 2 ^ 63 ∧
      PeriodPlanned (Decimal.digitsValue ds) format (String.ofList unit) s'.grouping

theorem Stage.ensures_periodKept {resolver : Resolver} {r : Resolution}
    (sound : r.Sound resolver) (scope : Scope) (s : Stage) :
    Ensures (s.resolve r scope) s.PeriodKept := by
  have planned : Ensures (s.grouping.resolve r scope) fun g =>
      ∀ ds unit field format, ds ≠ [] → (∀ c ∈ ds, c.isDigit) → (∀ c ∈ unit, c.isAlpha) →
        s.grouping = .time (String.ofList (ds ++ unit)) field format →
        0 < Decimal.digitsValue ds ∧ Decimal.digitsValue ds < 2 ^ 63 ∧
          PeriodPlanned (Decimal.digitsValue ds) format (String.ofList unit) g := by
    intro found none
    refine ⟨(s.grouping.ensures_resolve sound scope found none).1, ?_⟩
    intro ds unit field format nonempty digits letters same
    rw [same, Grouping.resolve] at none ⊢
    have named := @ensures_resolveOptionalField resolver scope field
    exact ((Ensures.bind named fun field =>
      (ensures_timeGrouping_planned nonempty digits letters field format).imp fun _ hg _ => hg)
        found none).2
  exact .bind planned fun _ => .bind (Filter.ensures_resolveOption sound scope s.having) fun _ =>
    .pure fun _ hg => hg

theorem ensures_periodsKept (catalog : Catalog) (settings : Settings) (now : Timestamp)
    (q : Query) :
    Ensures (q.resolve catalog settings now) fun made =>
      List.Forall₂ Stage.PeriodKept q.stages made.1.stages := by
  refine .bind (.mapM_forall₂ q.sources (From.ensures_source now)) fun typed =>
    .bind (Resolver.ensures_ofSources catalog typed _) fun built => ?_
  obtain ⟨resolver, sources⟩ := built
  have sound : (Resolution.ofResolver settings resolver).Sound resolver :=
    Resolution.sound_ofResolver settings
  exact .bind (ensures_resolveFilter sound resolver.scope q.filter) fun _ =>
    .bind (.mapM_forall₂ q.stages fun s => s.ensures_periodKept sound resolver.scope) fun _ =>
      .bind (.mapM q.selects fun s _ => s.ensures_resolve sound resolver.scope) fun _ =>
        .pure fun _ hstages _ _ _ => hstages

/-- A text that can give scales to the plan of a query: the text of the query itself, or the
expression of a dimension of a dataset that the query reads. -/
def GivesScales (catalog : Catalog) (text : String) (q : Query) (source : String) : Prop :=
  source = text ∨ ∃ called dataset name, dataset ∈ q.datasetsCalled catalog called ∧
    (name, source) ∈ dataset.dimensions

/-- A scale of a plan is what is left in 32 bits of the number in a scaled call, or one if there is
no number, and the scaled metric is what the argument of the call was resolved to. -/
def Planned.ScaleGiven (planned : Planned) (catalog : Catalog) (settings : Settings)
    (text : String) (q : Query) (f : Scaling) (m' : Doc.Metric) (scale : Int) : Prop :=
  ∃ source m depth n, q.GivesScales catalog text source ∧
    Grammar.ScaledCall source.toList (Grammar.Nested.ofDepth depth).docMetric f m n ∧
    Resolution.Resolves settings planned.resolver m m' ∧ scale = (n.map (·.bmod (2 ^ 32))).getD 1

/-- A stage by a period stands in the text with some digits and a unit. Their number is positive and
less than 2 ^ 63, and what is planned is what the number and the unit say. -/
def Stage.PeriodGiven (text : String) (s : Stage) (s' : Groupwise.Stage Float) : Prop :=
  ∀ period field format, s.grouping = .time period field format →
    ∃ ds unit, Grammar.PeriodAt text.toList ds unit ∧ period = String.ofList (ds ++ unit) ∧
      0 < Decimal.digitsValue ds ∧ Decimal.digitsValue ds < 2 ^ 63 ∧
      PeriodPlanned (Decimal.digitsValue ds) format (String.ofList unit) s'.grouping

variable {catalog : Catalog} {settings : Settings} {now : Timestamp} {text : String} {q : Query}
  {planned : Planned}

/-- Where a query is planned without an error, each scale of the plan is that of a call in the query
or in a dimension, and each grouping by a period is planned as the period in the text says. -/
theorem numbers_planned (read : parse text = .ok q) (h : q.plan catalog settings now = .ok planned)
    (none : planned.found.errors = []) :
    planned.plan.EachScale (planned.ScaleGiven catalog settings text q) ∧
      List.Forall₂ (Stage.PeriodGiven text) q.stages planned.plan.stages := by
  obtain ⟨moment, run⟩ := run_resolve_of_plan h
  have clean : ((q.resolve catalog settings moment).run {}).2.errors = [] := by
    rw [run]
    exact none
  have literals : q.EachLiteral
      (fun f m scale => ∃ source, q.GivesScales catalog text source ∧
        Grammar.ScaleWritten source.toList f m scale) (Grammar.PeriodWritten text.toList) :=
    eachLiteral_of_parse (fun _ _ _ written => ⟨text, .inl rfl, written⟩) (fun _ => id) read
  have scales := (q.always_resolve catalog settings moment).result {}
  have sound := q.ensures_resolve catalog settings moment {} clean
  have periods := q.ensures_periodsKept catalog settings moment {} clean
  rw [run] at scales sound periods
  obtain ⟨-, -, -, -, datasets⟩ := sound
  constructor
  · refine scales _ _ _ (fun expression defined f m scale written => ?_) ?_ literals
    · obtain ⟨called, entry, name, found, there⟩ := defined
      refine ⟨expression, .inr ⟨called, entry.dataset, name, ?_, there⟩, written⟩
      rw [← datasets called, found]
      exact List.mem_singleton_self _
    · rintro f m scale m' ⟨source, gives, depth, n, call, rfl⟩ resolves
      exact ⟨source, m, depth, n, gives, call, resolves, rfl⟩
  · have written : ∀ s ∈ q.stages, s.grouping.EachLiteral _ _ := fun s hs => (literals.stages s hs).1
    refine ((List.forall₂_and_left ..).mpr ⟨written, periods.2⟩).imp ?_
    rintro s s' ⟨literal, kept⟩ period field format same
    rw [same] at literal
    obtain ⟨ds, unit, place, rfl⟩ := literal
    exact ⟨ds, unit, place, rfl,
      kept ds unit field format place.nonempty place.digits place.letters same⟩

/-! ## Plans of texts -/

/-- The plan of a text by the default settings, if there is one. -/
def planned? (catalog : Catalog) (text : String) : Option Planned :=
  (parse text).toOption.bind fun q => (q.plan catalog {} default).toOption

theorem exists_of_planned? {shape : Planned → Prop} [DecidablePred shape]
    (h : (planned? catalog text).any (shape ·) = true) :
    ∃ q planned, parse text = .ok q ∧ q.plan catalog {} default = .ok planned ∧ shape planned := by
  obtain ⟨planned, made, fits⟩ := (Option.any_eq_true ..).mp h
  obtain ⟨q, read, made⟩ := Option.bind_eq_some_iff.mp made
  exact ⟨q, planned, eq_ok_of_toOption read, eq_ok_of_toOption made, of_decide_eq_true fits⟩

def bucketCount? : Aggregate.Grouping Float → Option Nat
  | .timeBuckets count .. => some count
  | _ => none

def periodMillis? : Aggregate.Grouping Float → Option Int
  | .time millis .. => some millis.toInt
  | _ => none

def summedScale? : Aggregate.Metric Float → Option Int
  | .docStats (.log _ scale) | .docStats (.exponentiate _ scale) => some scale
  | _ => none

/-- A plan without errors with some numbers of buckets and lengths of periods for its stages and
some scales in its metrics. -/
def Planned.HasNumbers (planned : Planned) (buckets : List (Option Nat))
    (millis : List (Option Int)) (scales : List (Option Int)) : Prop :=
  planned.found.errors = [] ∧ planned.plan.stages.map (bucketCount? ·.grouping) = buckets ∧
    planned.plan.stages.map (periodMillis? ·.grouping) = millis ∧
    planned.plan.selects.map summedScale? = scales

instance (buckets : List (Option Nat)) (millis scales : List (Option Int)) :
    DecidablePred fun planned : Planned => planned.HasNumbers buckets millis scales :=
  fun _ => inferInstanceAs (Decidable (_ ∧ _ ∧ _ ∧ _))

/-- A dataset with a dimension that has a scale. -/
def adsWithLoss : Catalog where
  datasets := [
    { name := "ads", intFields := ["clicks"], dimensions := [("loss", "exp(-clicks, 7)")] }]

/-- A text with numbers that all fit. -/
def smallNumbers : String :=
  "FROM ads GROUP BY time(2w), time(3b) SELECT [log(clicks, 100)], loss"

theorem numbers_planned_small :
    ∃ q planned, parse smallNumbers = .ok q ∧ q.plan adsWithLoss {} default = .ok planned ∧
      planned.HasNumbers [none, some 3] [some 1209600000, none] [some 100, some 7] ∧
      planned.plan.EachScale (planned.ScaleGiven adsWithLoss {} smallNumbers q) ∧
      List.Forall₂ (Stage.PeriodGiven smallNumbers) q.stages planned.plan.stages := by
  obtain ⟨q, planned, read, made, numbers⟩ := @exists_of_planned? adsWithLoss smallNumbers
    (·.HasNumbers [none, some 3] [some 1209600000, none] [some 100, some 7]) _ (by decide +kernel)
  exact ⟨q, planned, read, made, numbers, numbers_planned read made numbers.1⟩

/-- A scale of 2 ^ 32 + 1 is planned as one, 2 ^ 32 buckets as none, and so many weeks that they do
not fit into 64 bits as less than ten hours. -/
theorem large_numbers_cut :
    ∃ q planned,
      parse ("FROM ads GROUP BY time(4294967296b), time(30500568905w) " ++
        "SELECT [log(clicks, 4294967297)]") = .ok q ∧
      q.plan adsWithLoss {} default = .ok planned ∧
      planned.HasNumbers [some 0, none] [none, some 34448384] [some 1] :=
  exists_of_planned? (by decide +kernel)

end Groupwise.Query
