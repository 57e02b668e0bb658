import Groupwise.Proofs.Evaluation.Exact
import Groupwise.Proofs.Evaluation.SiblingColumns
import Groupwise.Proofs.OrderedSet
import Mathlib.Logic.Relation

/-!
# Questions to a source of sums

To evaluate metrics over whole columns, a source is asked for the sums of every program that stands
anywhere in them, each once. As long as nothing in the metrics needs a walk over terms, that is all
that is needed: every part of a metric then has a column of full length, so that no place that is
read by its number is missing.
-/
namespace Groupwise.Evaluation

variable {ν : Type}

/-! ## Parts of metrics and filters -/

/-- A metric or a filter. -/
inductive Node (ν : Type) where
  | metric (m : Metric ν)
  | filter (f : Filter ν)

/-- Something stands immediately below a node. -/
inductive Node.Below : Node ν → Node ν → Prop
  | function {f m} : Below (.metric m) (.metric (.function f m))
  | calculateLeft {op l r} : Below (.metric l) (.metric (.calculate op l r))
  | calculateRight {op l r} : Below (.metric r) (.metric (.calculate op l r))
  | least {ms m} (mem : m ∈ ms) : Below (.metric m) (.metric (.least ms))
  | greatest {ms m} (mem : m ∈ ms) : Below (.metric m) (.metric (.greatest ms))
  | condition {c y n} : Below (.filter c) (.metric (.ifThenElse c y n))
  | yes {c y n} : Below (.metric y) (.metric (.ifThenElse c y n))
  | no {c y n} : Below (.metric n) (.metric (.ifThenElse c y n))
  | lag {distance m keys} : Below (.metric m) (.metric (.lag distance m keys))
  | window {size m keys sums} : Below (.metric m) (.metric (.window size m keys sums))
  | running {offset m keys sums} : Below (.metric m) (.metric (.running offset m keys sums))
  | iterateLag {distance m history} : Below (.metric m) (.metric (.iterateLag distance m history))
  | compareLeft {op l r} : Below (.metric l) (.filter (.compare op l r))
  | compareRight {op l r} : Below (.metric r) (.filter (.compare op l r))
  | andLeft {l r} : Below (.filter l) (.filter (.and l r))
  | andRight {l r} : Below (.filter r) (.filter (.and l r))
  | orLeft {l r} : Below (.filter l) (.filter (.or l r))
  | orRight {l r} : Below (.filter r) (.filter (.or l r))
  | not {f} : Below (.filter f) (.filter (.not f))

/-- Something stands anywhere in a node, the node itself included. -/
def Node.Within (part whole : Node ν) : Prop := Relation.ReflTransGen Node.Below part whole

/-- A node that has values only while terms are visited. -/
def Node.NeedsTerms : Node ν → Prop
  | .metric (.iterateLag ..) => True
  | .filter (.termEquals _) => True
  | .filter (.termMatches _) => True
  | _ => False

/-- Nothing in a node needs terms. -/
def Node.OverGroups (whole : Node ν) : Prop :=
  ∀ part, Node.Within part whole → ¬part.NeedsTerms

/-- The sums of a program stand somewhere in a node. -/
def Node.Reads (push : Push) (whole : Node ν) : Prop :=
  ∃ index, Node.Within (.metric (.documents push index)) whole

theorem Node.OverGroups.below {part whole : Node ν} (h : whole.OverGroups)
    (below : Node.Below part whole) : part.OverGroups :=
  fun inner within => h inner (within.tail below)

theorem Node.overGroups_iff {whole : Node ν} : whole.OverGroups ↔
    ¬whole.NeedsTerms ∧ ∀ part, Node.Below part whole → part.OverGroups := by
  refine ⟨fun h => ⟨h whole .refl, fun _ below => h.below below⟩,
    fun ⟨here, parts⟩ part within => ?_⟩
  rcases within.cases_tail with rfl | ⟨next, within, below⟩
  · exact here
  · exact parts next below part within

theorem Node.Reads.above {push : Push} {part whole : Node ν} (h : part.Reads push)
    (below : Node.Below part whole) : whole.Reads push :=
  h.imp fun _ within => within.tail below

/-- The pushes that a node reads, in the order in which they are met. -/
def Node.reads : Node ν → List Push
  | .metric m => m.reads
  | .filter f => f.reads

theorem Metric.mem_readsOfAll {push : Push} {ms : List (Metric ν)} :
    push ∈ Metric.readsOfAll ms ↔ ∃ m ∈ ms, push ∈ m.reads := by
  induction ms with
  | nil => simp [readsOfAll]
  | cons m rest ih => simp [readsOfAll, ih]

/-- What a part reads is read by the whole. -/
theorem Node.mem_reads_of_below {push : Push} {part whole : Node ν} (below : Node.Below part whole)
    (h : push ∈ part.reads) : push ∈ whole.reads := by
  cases below with
  | least mem | greatest mem => exact Metric.mem_readsOfAll.mpr ⟨_, mem, h⟩
  | _ => simp_all [reads, Metric.reads, Filter.reads]

mutual

theorem Metric.reads_of_mem_reads {push : Push} {m : Metric ν} (h : push ∈ m.reads) :
    (Node.metric m).Reads push := by
  match m with
  | .documents .. =>
    obtain rfl := List.mem_singleton.mp h
    exact ⟨_, .refl⟩
  | .constant _ | .lookup _ | .multiLookup _ => exact absurd h List.not_mem_nil
  | .function _ m => exact (Metric.reads_of_mem_reads (m := m) h).above .function
  | .lag _ m _ => exact (Metric.reads_of_mem_reads (m := m) h).above .lag
  | .window _ m _ _ => exact (Metric.reads_of_mem_reads (m := m) h).above .window
  | .running _ m _ _ => exact (Metric.reads_of_mem_reads (m := m) h).above .running
  | .iterateLag _ m _ => exact (Metric.reads_of_mem_reads (m := m) h).above .iterateLag
  | .calculate _ l r =>
    rcases List.mem_append.mp h with h | h
    · exact (Metric.reads_of_mem_reads h).above .calculateLeft
    · exact (Metric.reads_of_mem_reads h).above .calculateRight
  | .least ms =>
    obtain ⟨m, mem, h⟩ := Metric.reads_of_mem_readsOfAll h
    exact h.above (.least mem)
  | .greatest ms =>
    obtain ⟨m, mem, h⟩ := Metric.reads_of_mem_readsOfAll h
    exact h.above (.greatest mem)
  | .ifThenElse c y n =>
    rcases List.mem_append.mp h with h | h
    · rcases List.mem_append.mp h with h | h
      · exact (Filter.reads_of_mem_reads h).above .condition
      · exact (Metric.reads_of_mem_reads h).above .yes
    · exact (Metric.reads_of_mem_reads h).above .no

theorem Metric.reads_of_mem_readsOfAll {push : Push} {ms : List (Metric ν)}
    (h : push ∈ Metric.readsOfAll ms) : ∃ m ∈ ms, (Node.metric m).Reads push := by
  match ms with
  | [] => exact absurd h List.not_mem_nil
  | m :: rest =>
    rcases List.mem_append.mp h with h | h
    · exact ⟨m, List.mem_cons_self .., Metric.reads_of_mem_reads h⟩
    · obtain ⟨n, mem, h⟩ := Metric.reads_of_mem_readsOfAll h
      exact ⟨n, List.mem_cons_of_mem _ mem, h⟩

theorem Filter.reads_of_mem_reads {push : Push} {f : Filter ν} (h : push ∈ f.reads) :
    (Node.filter f).Reads push := by
  match f with
  | .constant _ | .termEquals _ | .termMatches _ | .isDefaultGroup _ =>
    exact absurd h List.not_mem_nil
  | .compare _ l r =>
    rcases List.mem_append.mp h with h | h
    · exact (Metric.reads_of_mem_reads h).above .compareLeft
    · exact (Metric.reads_of_mem_reads h).above .compareRight
  | .and l r =>
    rcases List.mem_append.mp h with h | h
    · exact (Filter.reads_of_mem_reads h).above .andLeft
    · exact (Filter.reads_of_mem_reads h).above .andRight
  | .or l r =>
    rcases List.mem_append.mp h with h | h
    · exact (Filter.reads_of_mem_reads h).above .orLeft
    · exact (Filter.reads_of_mem_reads h).above .orRight
  | .not f => exact (Filter.reads_of_mem_reads (f := f) h).above .not

end

/-- The pushes that are collected from a metric are those that stand anywhere in it. -/
theorem Metric.mem_reads_iff {push : Push} {m : Metric ν} :
    push ∈ m.reads ↔ (Node.metric m).Reads push := by
  refine ⟨Metric.reads_of_mem_reads, fun ⟨index, within⟩ => ?_⟩
  have climb {whole : Node ν} (within : Node.Within (.metric (.documents push index)) whole) :
      push ∈ whole.reads := by
    induction within with
    | refl => exact List.mem_singleton_self push
    | tail _ below ih => exact Node.mem_reads_of_below below ih
  exact climb within

/-! ## Evaluation that stops at a missing place

Reading a column beyond its end gives zero where metrics are evaluated, and columns of different
lengths are combined as far as both go. The evaluation below reads every place by its number
instead, and stops when there is no such place.
-/

/-- Why an evaluation stops that reads columns by place. -/
inductive Stop where
  | refused (error : EvaluationError)
  /-- A column ends before this place. -/
  | outOfRange (place : Nat)
  /-- A place this far back from a group lies before the first one. -/
  | beforeStart (group distance : Nat)
  deriving Repr, DecidableEq, Inhabited

abbrev StrictM := Except Stop

/-- The value at a place of a column. -/
def readAt {α : Type} (values : List α) (place : Nat) : StrictM α :=
  match values[place]? with
  | some value => .ok value
  | none => .error (.outOfRange place)

/-- The place some way back from a group. -/
def goBack (group distance : Nat) : StrictM Nat :=
  if distance ≤ group then .ok (group - distance) else .error (.beforeStart group distance)

variable [Numeric ν]

namespace Strict

def choose (count : Nat) (condition : List Bool) (yes no : List ν) : StrictM (List ν) :=
  (List.range (count + 1)).mapM fun g => do
    if ← readAt condition g then readAt yes g else readAt no g

def lagColumn (keys : GroupKeys) (distance count : Nat) (inner : List ν) : StrictM (List ν) :=
  (List.range (count + 1)).mapM fun g => do
    if distance < g then
      let previous ← goBack g distance
      if keys.parent previous == keys.parent g then readAt inner previous
      else pure Numeric.zero
    else pure Numeric.zero

def slide (keys : GroupKeys) (size : Nat) (inner : List ν) (group : Nat)
    (window : Option (Sliding ν)) : StrictM (Sliding ν) := do
  let parent := keys.parent group
  let (sum, seen) := match window with
    | some w => if w.parent == parent then (w.sum, w.seen) else (Numeric.zero, 0)
    | none => (Numeric.zero, 0)
  let sum := Numeric.add sum (← readAt inner group)
  let seen := seen + 1
  if size < seen then
    let previous ← goBack group size
    pure { parent, sum := Numeric.subtract sum (← readAt inner previous), seen }
  else pure { parent, sum, seen }

/-- The sums of the windows that end in a number of groups from the given one on. -/
def slidingSums (keys : GroupKeys) (size : Nat) (inner : List ν) :
    Nat → Nat → Option (Sliding ν) → StrictM (List ν)
  | 0, _, _ => .ok []
  | remaining + 1, group, window => do
    let window ← slide keys size inner group window
    pure (window.sum :: (← slidingSums keys size inner remaining (group + 1) (some window)))

def windowColumn (keys : GroupKeys) (size count : Nat) (inner : List ν) : StrictM (List ν) := do
  pure (Numeric.zero :: (← slidingSums keys size inner count 1 none))

def runningColumn (keys : GroupKeys) (offset : Int64) (count : Nat) (inner : List ν) :
    StrictM (List ν) := do
  let values ← (List.range count).mapM fun i => readAt inner (i + 1)
  pure (Evaluation.runningColumn keys offset count (Numeric.zero :: values))

end Strict

mutual

/-- The column of a metric, every place of its parts being read by its number. -/
def Metric.strictColumn (table : List (List ν)) (count : Nat) : Metric ν → StrictM (List ν)
  | .constant v => .ok (List.replicate (count + 1) v)
  | .function f m => do pure ((← m.strictColumn table count).map (Numeric.apply f))
  | .calculate op l r => do
    let l ← l.strictColumn table count
    pure (List.zipWith (Numeric.calculate op) l (← r.strictColumn table count))
  | .least ms => do
    pure (combineColumns Numeric.least count (← Metric.strictColumns table count ms))
  | .greatest ms => do
    pure (combineColumns Numeric.greatest count (← Metric.strictColumns table count ms))
  | .ifThenElse c y n => do
    let c ← c.strictColumn table count
    let y ← y.strictColumn table count
    Strict.choose count c y (← n.strictColumn table count)
  | .documents push index =>
    match index.bind (table[·]?) with
    | some sums => .ok (Evaluation.column count sums)
    | none => .error (.refused (.unregistered push.program))
  | .lookup values => .ok (Evaluation.column count values)
  | .multiLookup columns => .ok (Evaluation.column count (columns.headD []))
  | .lag distance m keys => do
    Strict.lagColumn keys distance count (← m.strictColumn table count)
  | .window size m keys _ => do
    Strict.windowColumn keys size count (← m.strictColumn table count)
  | .running offset m keys _ => do
    Strict.runningColumn keys offset count (← m.strictColumn table count)
  | .iterateLag .. => .error (.refused (.iterationOnly "IterateLag"))

def Metric.strictColumns (table : List (List ν)) (count : Nat) :
    List (Metric ν) → StrictM (List (List ν))
  | [] => .ok []
  | m :: rest => do
    let m ← m.strictColumn table count
    pure (m :: (← Metric.strictColumns table count rest))

def Filter.strictColumn (table : List (List ν)) (count : Nat) : Filter ν → StrictM (List Bool)
  | .constant b => .ok (List.replicate (count + 1) b)
  | .compare op l r => do
    let l ← l.strictColumn table count
    pure (List.zipWith (Numeric.compare op) l (← r.strictColumn table count))
  | .and l r => do
    let l ← l.strictColumn table count
    pure (List.zipWith (· && ·) l (← r.strictColumn table count))
  | .or l r => do
    let l ← l.strictColumn table count
    pure (List.zipWith (· || ·) l (← r.strictColumn table count))
  | .not f => do pure ((← f.strictColumn table count).map (!·))
  | .termEquals _ => .error (.refused (.iterationOnly "term filter"))
  | .termMatches _ => .error (.refused (.iterationOnly "term filter"))
  | .isDefaultGroup keys => .ok ((List.range (count + 1)).map keys.isDefault)

end

def Metric.strictOutput (table : List (List ν)) (count : Nat) :
    Metric ν → StrictM (List (List ν))
  | .multiLookup columns => .ok (columns.map (Evaluation.column count))
  | m => do pure [← m.strictColumn table count]

def strictOutputs (pushes : List Push) (table : List (List ν)) (count : Nat)
    (metrics : List (Metric ν)) : StrictM (List (List ν)) := do
  let columns ← metrics.mapM fun m => do
    (← (m.register (indexIn pushes)).mapError .refused).strictOutput table count
  pure columns.flatten

/-- The columns of some metrics, every place of a column being read by its number. -/
def strictEvaluate {m : Type → Type} [Monad m] [MonadLiftT StrictM m] (metrics : List (Metric ν))
    (ask : Push → m (List ν)) (count : Nat) : m (List (List ν)) := do
  let pushes := pushSet (metrics.flatMap Metric.reads)
  let table ← pushes.mapM ask
  liftM (strictOutputs pushes table count metrics)

/-! ## Full columns are read within their bounds -/

omit [Numeric ν] in
theorem readAt_eq_ok {α : Type} {values : List α} {place : Nat} {value : α}
    (h : values[place]? = some value) : readAt values place = .ok value := by
  rw [readAt, h]

omit [Numeric ν] in
theorem readAt_of_lt {α : Type} {values : List α} {place : Nat} (h : place < values.length)
    (default : α) : readAt values place = .ok (values.getD place default) :=
  readAt_eq_ok (by simp [h])

omit [Numeric ν] in
theorem goBack_of_le {group distance : Nat} (h : distance ≤ group) :
    goBack group distance = .ok (group - distance) := if_pos h

namespace Strict

theorem choose_eq_ok {count : Nat} {condition : List Bool} {yes no : List ν}
    (hc : condition.length = count + 1) (hy : yes.length = count + 1)
    (hn : no.length = count + 1) : choose count condition yes no =
      .ok (List.zipWith (fun b v => if b then v.1 else v.2) condition (yes.zip no)) := by
  have each : ∀ g ∈ List.range (count + 1), (do
      if ← readAt condition g then readAt yes g else readAt no g : StrictM ν) =
        .ok (if condition.getD g false then yes.getD g Numeric.zero
          else no.getD g Numeric.zero) := by
    intro g hg
    have hlt := List.mem_range.mp hg
    rw [readAt_of_lt (hc ▸ hlt) false, readAt_of_lt (hy ▸ hlt) Numeric.zero,
      readAt_of_lt (hn ▸ hlt) Numeric.zero]
    cases hb : condition.getD g false <;> simp [bind, Except.bind]
  rw [choose, mapM_eq_ok_map each]
  refine congrArg _ (List.ext_getElem (by simp [hc, hy, hn]) fun g hg _ => ?_)
  have hlt : g < count + 1 := by simpa using hg
  simp [hc, hy, hn, hlt]

theorem lagColumn_eq_ok (keys : GroupKeys) (distance : Nat) {count : Nat} {inner : List ν}
    (full : inner.length = count + 1) :
    lagColumn keys distance count inner = .ok (Evaluation.lagColumn keys distance count inner) := by
  refine mapM_eq_ok_map fun g hg => ?_
  have hlt := List.mem_range.mp hg
  by_cases far : distance < g
  · rw [if_pos far, goBack_of_le far.le]
    by_cases same : keys.parent (g - distance) = keys.parent g
    · simp only [bind, Except.bind]
      rw [if_pos (by simpa using same), if_pos (by simpa [far] using same)]
      exact readAt_of_lt (by omega) Numeric.zero
    · simp [bind, Except.bind, same, pure, Except.pure]
  · simp [far, pure, Except.pure]

/-- A window that has seen fewer groups than there are before it never reaches back too far. -/
theorem slide_eq_ok (keys : GroupKeys) (size : Nat) {inner : List ν} {group : Nat} {value : ν}
    {window : Option (Sliding ν)} (here : inner[group]? = some value)
    (few : ∀ w ∈ window, w.seen < group) (first : 0 < group) :
    slide keys size inner group window = .ok (Sliding.step keys size inner group value window) ∧
      (Sliding.step keys size inner group value window).seen ≤ group := by
  have inRange : group < inner.length := (List.getElem?_eq_some_iff.mp here).1
  have slid {sum : ν} {seen : Nat} (hseen : seen < group) : (do
      let sum := Numeric.add sum (← readAt inner group)
      let seen := seen + 1
      if size < seen then
        let previous ← goBack group size
        pure (⟨keys.parent group, Numeric.subtract sum (← readAt inner previous), seen⟩ : Sliding ν)
      else pure ⟨keys.parent group, sum, seen⟩ : StrictM (Sliding ν)) =
        .ok ⟨keys.parent group, if size < seen + 1 then
          Numeric.subtract (Numeric.add sum value) (inner.getD (group - size) Numeric.zero)
          else Numeric.add sum value, seen + 1⟩ := by
    simp only [readAt_eq_ok here, bind, Except.bind, pure, Except.pure]
    by_cases full : size < seen + 1
    · simp only [if_pos full, goBack_of_le (show size ≤ group by omega),
        readAt_of_lt (show group - size < inner.length by omega) Numeric.zero]
    · simp only [if_neg full]
  rcases window with _ | w
  · exact ⟨slid first, first⟩
  · have fewer : w.seen < group := few w rfl
    by_cases same : (w.parent == keys.parent group) = true
    · simp only [slide, Sliding.step, same, if_true]
      exact ⟨slid fewer, fewer⟩
    · simp only [slide, Sliding.step, same]
      exact ⟨slid first, first⟩

theorem slidingSums_eq_ok (keys : GroupKeys) (size : Nat) {inner : List ν} {remaining group : Nat}
    {window : Option (Sliding ν)} (full : inner.length = group + remaining)
    (few : ∀ w ∈ window, w.seen < group) (first : 0 < group) :
    slidingSums keys size inner remaining group window =
      .ok (Evaluation.slidingSums keys size inner group window (inner.drop group)) := by
  induction remaining generalizing group window with
  | zero =>
    rw [List.drop_eq_nil_iff.mpr (by omega)]
    rfl
  | succ remaining ih =>
    have inRange : group < inner.length := by omega
    obtain ⟨slid, seen⟩ := slide_eq_ok keys size (List.getElem?_eq_getElem inRange) few first
    have fewer : ∀ w ∈ some (Sliding.step keys size inner group inner[group] window),
        w.seen < group + 1 := by
      rintro _ ⟨⟩
      omega
    have later := ih (show inner.length = group + 1 + remaining by omega) fewer (by omega)
    rw [List.drop_eq_getElem_cons inRange, slidingSums, slid]
    simp only [bind, Except.bind, later]
    rfl

theorem windowColumn_eq_ok (keys : GroupKeys) (size : Nat) {count : Nat} {inner : List ν}
    (full : inner.length = count + 1) :
    windowColumn keys size count inner = .ok (Evaluation.windowColumn keys size inner) := by
  cases inner with
  | nil => simp at full
  | cons first rest =>
    rw [windowColumn, slidingSums_eq_ok keys size (by omega) (by simp) Nat.one_pos]
    rfl

theorem runningColumn_eq_ok (keys : GroupKeys) (offset : Int64) {count : Nat} {inner : List ν}
    (full : inner.length = count + 1) : runningColumn keys offset count inner =
      .ok (Evaluation.runningColumn keys offset count inner) := by
  have each : ∀ i ∈ List.range count, readAt inner (i + 1) =
      .ok (inner.getD (i + 1) Numeric.zero) := by
    intro i hi
    have hlt := List.mem_range.mp hi
    exact readAt_of_lt (by omega) _
  have tail : (List.range count).map (fun i => inner.getD (i + 1) Numeric.zero) = inner.tail := by
    refine List.ext_getElem (by simp [full]) fun i hi _ => ?_
    have hlt : i < count := by simpa using hi
    simp [full, hlt]
  rw [runningColumn, mapM_eq_ok_map each, tail]
  rfl

end Strict

theorem length_slidingSums (keys : GroupKeys) (size : Nat) (inner : List ν) (group : Nat)
    (window : Option (Sliding ν)) (values : List ν) :
    (slidingSums keys size inner group window values).length = values.length := by
  induction values generalizing group window with
  | nil => rfl
  | cons value rest ih => simp [slidingSums, ih]

/-! ## Parts of registered metrics -/

/-- A column of full length, whichever way its parts are read. -/
def Fills {α : Type} (count : Nat) (values? : EvaluationM (List α)) (strict? : StrictM (List α)) :
    Prop :=
  ∃ values, values.length = count + 1 ∧ values? = .ok values ∧ strict? = .ok values

namespace Fills

variable {α β γ : Type} {count : Nat}

omit [Numeric ν] in
theorem ok {values : List α} (full : values.length = count + 1) :
    Fills count (.ok values) (.ok values) := ⟨values, full, rfl, rfl⟩

omit [Numeric ν] in
theorem bind {x : EvaluationM (List α)} {y : StrictM (List α)} (h : Fills count x y)
    {f : List α → EvaluationM (List β)} {g : List α → StrictM (List β)}
    (next : ∀ values, values.length = count + 1 → Fills count (f values) (g values)) :
    Fills count (x >>= f) (y >>= g) := by
  obtain ⟨values, full, rfl, rfl⟩ := h
  exact next values full

end Fills

theorem column_full (count : Nat) (values : List ν) : (column count values).length = count + 1 := by
  simp [Evaluation.column]

mutual

/-- A metric that needs no terms is registered, and has a full column, once its pushes have their
places in the table. -/
theorem Metric.fills_of_register {index : Push → Option Nat} {table : List (List ν)} {count : Nat}
    {m : Metric ν} (grouped : (Node.metric m).OverGroups)
    (placed : ∀ push ∈ m.reads, ∃ i, index push = some i ∧ i < table.length) :
    ∃ m', m.register index = .ok m' ∧
      Fills count (m'.column table count) (m'.strictColumn table count) := by
  match m with
  | .constant v => exact ⟨_, rfl, .ok (by simp)⟩
  | .lookup values => exact ⟨_, rfl, .ok (column_full ..)⟩
  | .multiLookup columns => exact ⟨_, rfl, .ok (column_full ..)⟩
  | .documents push _ =>
    obtain ⟨i, hi, within⟩ := placed push List.mem_cons_self
    refine ⟨.documents push (some i), by simp [Metric.register, hi], ?_⟩
    have found : (some i).bind (table[·]?) = some table[i] := by simp [within]
    simp only [Metric.column, Metric.strictColumn, found]
    exact .ok (column_full ..)
  | .function f m =>
    obtain ⟨m', hm, fills⟩ := Metric.fills_of_register (grouped.below .function) placed
    exact ⟨.function f m', by simp [Metric.register, hm],
      fills.bind fun values full => .ok (by simpa using full)⟩
  | .calculate op l r =>
    obtain ⟨left, right⟩ := List.forall_mem_append.mp placed
    obtain ⟨l', hl, fillsLeft⟩ := Metric.fills_of_register (grouped.below .calculateLeft) left
    obtain ⟨r', hr, fillsRight⟩ := Metric.fills_of_register (grouped.below .calculateRight) right
    exact ⟨.calculate op l' r', by simp [Metric.register, bind_eq_ok, hl, hr],
      fillsLeft.bind fun _ fullLeft => fillsRight.bind fun _ fullRight =>
        .ok (by simp [fullLeft, fullRight])⟩
  | .least ms =>
    obtain ⟨ms', hms, columns, full, plain, strict⟩ :=
      Metric.fills_of_registerAll (fun m mem => grouped.below (.least mem)) placed
    refine ⟨.least ms', by simp [Metric.register, hms], _,
      length_combineColumns Numeric.least full, ?_, ?_⟩
    · simp [Metric.column, plain]
    · simp [Metric.strictColumn, strict]
  | .greatest ms =>
    obtain ⟨ms', hms, columns, full, plain, strict⟩ :=
      Metric.fills_of_registerAll (fun m mem => grouped.below (.greatest mem)) placed
    refine ⟨.greatest ms', by simp [Metric.register, hms], _,
      length_combineColumns Numeric.greatest full, ?_, ?_⟩
    · simp [Metric.column, plain]
    · simp [Metric.strictColumn, strict]
  | .ifThenElse c y n =>
    obtain ⟨conditionAndYes, no⟩ := List.forall_mem_append.mp placed
    obtain ⟨condition, yes⟩ := List.forall_mem_append.mp conditionAndYes
    obtain ⟨c', hc, fillsCondition⟩ := Filter.fills_of_register (grouped.below .condition) condition
    obtain ⟨y', hy, fillsYes⟩ := Metric.fills_of_register (grouped.below .yes) yes
    obtain ⟨n', hn, fillsNo⟩ := Metric.fills_of_register (grouped.below .no) no
    refine ⟨.ifThenElse c' y' n', by simp [Metric.register, bind_eq_ok, hc, hy, hn],
      fillsCondition.bind fun _ fullCondition => fillsYes.bind fun _ fullYes =>
        fillsNo.bind fun _ fullNo => ?_⟩
    rw [Strict.choose_eq_ok fullCondition fullYes fullNo]
    exact .ok (by simp [fullCondition, fullYes, fullNo])
  | .lag distance m keys =>
    obtain ⟨m', hm, fills⟩ := Metric.fills_of_register (grouped.below .lag) placed
    refine ⟨.lag distance m' keys, by simp [Metric.register, hm], fills.bind fun values full => ?_⟩
    rw [Strict.lagColumn_eq_ok keys distance full]
    exact .ok (by simp [lagColumn])
  | .window size m keys sums =>
    obtain ⟨m', hm, fills⟩ := Metric.fills_of_register (grouped.below .window) placed
    refine ⟨.window size m' keys sums, by simp [Metric.register, hm],
      fills.bind fun values full => ?_⟩
    rw [Strict.windowColumn_eq_ok keys size full]
    cases values with
    | nil => simp at full
    | cons first rest => exact .ok (by simpa [windowColumn, length_slidingSums] using full)
  | .running offset m keys sums =>
    obtain ⟨m', hm, fills⟩ := Metric.fills_of_register (grouped.below .running) placed
    refine ⟨.running offset m' keys sums, by simp [Metric.register, hm],
      fills.bind fun values full => ?_⟩
    rw [Strict.runningColumn_eq_ok keys offset full]
    exact .ok (by simp [runningColumn])
  | .iterateLag .. => exact absurd trivial (grouped _ .refl)

theorem Metric.fills_of_registerAll {index : Push → Option Nat} {table : List (List ν)}
    {count : Nat} {ms : List (Metric ν)} (grouped : ∀ m ∈ ms, (Node.metric m).OverGroups)
    (placed : ∀ push ∈ Metric.readsOfAll ms, ∃ i, index push = some i ∧ i < table.length) :
    ∃ ms', Metric.registerAll index ms = .ok ms' ∧
      ∃ columns, (∀ values ∈ columns, values.length = count + 1) ∧
        Metric.columns table count ms' = .ok columns ∧
          Metric.strictColumns table count ms' = .ok columns := by
  match ms with
  | [] => exact ⟨[], rfl, [], by simp, rfl, rfl⟩
  | m :: rest =>
    obtain ⟨first, later⟩ := List.forall_mem_append.mp placed
    obtain ⟨m', hm, values, full, plain, strict⟩ :=
      Metric.fills_of_register (grouped m (List.mem_cons_self ..)) first
    obtain ⟨rest', hrest, columns, fullRest, plainRest, strictRest⟩ :=
      Metric.fills_of_registerAll (fun n mem => grouped n (List.mem_cons_of_mem _ mem)) later
    refine ⟨m' :: rest', by simp [Metric.registerAll, bind_eq_ok, hm, hrest], values :: columns,
      List.forall_mem_cons.mpr ⟨full, fullRest⟩, ?_, ?_⟩
    · simp [Metric.columns, bind_eq_ok, plain, plainRest]
    · simp [Metric.strictColumns, bind_eq_ok, strict, strictRest]

theorem Filter.fills_of_register {index : Push → Option Nat} {table : List (List ν)} {count : Nat}
    {f : Filter ν} (grouped : (Node.filter f).OverGroups)
    (placed : ∀ push ∈ f.reads, ∃ i, index push = some i ∧ i < table.length) :
    ∃ f', f.register index = .ok f' ∧
      Fills count (f'.column table count) (f'.strictColumn table count) := by
  match f with
  | .constant b => exact ⟨_, rfl, .ok (by simp)⟩
  | .isDefaultGroup keys => exact ⟨_, rfl, .ok (by simp)⟩
  | .compare op l r =>
    obtain ⟨left, right⟩ := List.forall_mem_append.mp placed
    obtain ⟨l', hl, fillsLeft⟩ := Metric.fills_of_register (grouped.below .compareLeft) left
    obtain ⟨r', hr, fillsRight⟩ := Metric.fills_of_register (grouped.below .compareRight) right
    exact ⟨.compare op l' r', by simp [Filter.register, bind_eq_ok, hl, hr],
      fillsLeft.bind fun _ fullLeft => fillsRight.bind fun _ fullRight =>
        .ok (by simp [fullLeft, fullRight])⟩
  | .and l r =>
    obtain ⟨left, right⟩ := List.forall_mem_append.mp placed
    obtain ⟨l', hl, fillsLeft⟩ := Filter.fills_of_register (grouped.below .andLeft) left
    obtain ⟨r', hr, fillsRight⟩ := Filter.fills_of_register (grouped.below .andRight) right
    exact ⟨.and l' r', by simp [Filter.register, bind_eq_ok, hl, hr],
      fillsLeft.bind fun _ fullLeft => fillsRight.bind fun _ fullRight =>
        .ok (by simp [fullLeft, fullRight])⟩
  | .or l r =>
    obtain ⟨left, right⟩ := List.forall_mem_append.mp placed
    obtain ⟨l', hl, fillsLeft⟩ := Filter.fills_of_register (grouped.below .orLeft) left
    obtain ⟨r', hr, fillsRight⟩ := Filter.fills_of_register (grouped.below .orRight) right
    exact ⟨.or l' r', by simp [Filter.register, bind_eq_ok, hl, hr],
      fillsLeft.bind fun _ fullLeft => fillsRight.bind fun _ fullRight =>
        .ok (by simp [fullLeft, fullRight])⟩
  | .not f =>
    obtain ⟨f', hf, fills⟩ := Filter.fills_of_register (grouped.below .not) placed
    exact ⟨.not f', by simp [Filter.register, hf],
      fills.bind fun values full => .ok (by simpa using full)⟩
  | .termEquals _ => exact absurd trivial (grouped _ .refl)
  | .termMatches _ => exact absurd trivial (grouped _ .refl)

end

/-! ## Whole evaluations -/

omit [Numeric ν] in
/-- Only a look-up of several columns gives several columns, before and after registration. -/
theorem Metric.eq_multiLookup_of_register {index : Push → Option Nat} {m : Metric ν}
    {columns : List (List ν)} (h : m.register index = .ok (.multiLookup columns)) :
    m = .multiLookup columns := by
  cases m with
  | multiLookup => simpa [register] using h
  | documents push =>
    simp only [register] at h
    split at h <;> cases h
  | _ => simp [register, bind_eq_ok, pure_eq_ok, -bind_pure_comp] at h

/-- A metric gives as many full columns as it is wide. -/
theorem Metric.outputs_of_register {index : Push → Option Nat} {table : List (List ν)}
    (count : Nat) {m : Metric ν} (grouped : (Node.metric m).OverGroups)
    (placed : ∀ push ∈ m.reads, ∃ i, index push = some i ∧ i < table.length) :
    ∃ m' columns, m.register index = .ok m' ∧ m'.output table count = .ok columns ∧
      m'.strictOutput table count = .ok columns ∧ columns.length = m.width ∧
        ∀ values ∈ columns, values.length = count + 1 := by
  obtain ⟨m', hm, fills⟩ := Metric.fills_of_register grouped placed
  obtain ⟨values, full, plain, strict⟩ : Fills count _ _ := fills
  by_cases several : ∃ columns, m = .multiLookup columns
  · obtain ⟨columns, rfl⟩ := several
    obtain rfl := Except.ok.inj hm
    refine ⟨_, columns.map (Evaluation.column count), rfl, rfl, rfl, List.length_map .., ?_⟩
    rintro _ made
    obtain ⟨sums, -, rfl⟩ := List.mem_map.mp made
    exact column_full ..
  · have single : ∀ columns, m' ≠ .multiLookup columns := by
      rintro columns rfl
      exact several ⟨columns, Metric.eq_multiLookup_of_register hm⟩
    refine ⟨m', [values], hm, ?_, ?_, ?_, by simpa using full⟩
    · unfold output
      split
      · exact absurd rfl (single _)
      · simp [plain]
    · unfold strictOutput
      split
      · exact absurd rfl (single _)
      · simp [strict]
    · unfold width
      split
      · exact absurd ⟨_, rfl⟩ several
      · rfl

/-- Metrics give as many full columns as they are wide together. -/
theorem outputs_eq_ok {pushes : List Push} {table : List (List ν)} (count : Nat)
    {metrics : List (Metric ν)} (answered : table.length = pushes.length)
    (grouped : ∀ m ∈ metrics, (Node.metric m).OverGroups)
    (asked : ∀ m ∈ metrics, ∀ push ∈ m.reads, push ∈ pushes) :
    ∃ columns, outputs pushes table count metrics = .ok columns ∧
      strictOutputs pushes table count metrics = .ok columns ∧
        columns.length = (metrics.map Metric.width).sum ∧
          ∀ values ∈ columns, values.length = count + 1 := by
  simp only [outputs, strictOutputs, bind_eq_ok, pure_eq_ok]
  induction metrics with
  | nil => exact ⟨[], ⟨[], rfl, rfl⟩, ⟨[], rfl, rfl⟩, rfl, by simp⟩
  | cons m rest ih =>
    obtain ⟨_, ⟨others, plainRest, rfl⟩, ⟨_, strictRest, same⟩, lengthRest, fullRest⟩ :=
      ih (fun n mem => grouped n (List.mem_cons_of_mem _ mem))
        fun n mem => asked n (List.mem_cons_of_mem _ mem)
    have placed : ∀ push ∈ m.reads, ∃ i, indexIn pushes push = some i ∧ i < table.length := by
      intro push read
      obtain ⟨i, hi, found⟩ := exists_indexIn (asked m (List.mem_cons_self ..) push read)
      exact ⟨i, hi, answered ▸ (List.getElem?_eq_some_iff.mp found).1⟩
    obtain ⟨m', columns, hm, plain, strict, length, full⟩ :=
      Metric.outputs_of_register count (grouped m (List.mem_cons_self ..)) placed
    refine ⟨columns ++ others.flatten, ⟨columns :: others, ?_, rfl⟩,
      ⟨columns :: _, ?_, by rw [List.flatten_cons, same]⟩, by simp [length, lengthRest],
      List.forall_mem_append.mpr ⟨full, fullRest⟩⟩
    · simp only [List.mapM_cons, hm]
      exact bind_eq_ok.mpr ⟨columns, plain, bind_eq_ok.mpr ⟨others, plainRest, rfl⟩⟩
    · simp only [List.mapM_cons, hm]
      exact bind_eq_ok.mpr ⟨columns, strict, bind_eq_ok.mpr ⟨_, strictRest, rfl⟩⟩

/-- A source that answers every question. Its state may change with each. -/
def answering {σ ε : Type} (answer : Push → σ → List ν × σ) (push : Push) :
    StateT σ (Except ε) (List ν) := fun state => .ok (answer push state)

/-- The state of a source after some questions. -/
def stateAfter {σ : Type} (answer : Push → σ → List ν × σ) (state : σ) (asked : List Push) : σ :=
  asked.foldl (fun state push => (answer push state).2) state

omit [Numeric ν] in
theorem run_mapM_answering {σ : Type} (answer : Push → σ → List ν × σ) (state : σ)
    (pushes : List Push) : ∃ table, table.length = pushes.length ∧
      ∀ ε : Type, (pushes.mapM (answering answer) : StateT σ (Except ε) _).run state =
        .ok (table, stateAfter answer state pushes) := by
  induction pushes generalizing state with
  | nil => exact ⟨[], rfl, fun _ => rfl⟩
  | cons push rest ih =>
    obtain ⟨table, length, run⟩ := ih (answer push state).2
    refine ⟨(answer push state).1 :: table, by simp [length], fun ε => ?_⟩
    rw [List.mapM_cons, StateT.run_bind]
    show ((rest.mapM (answering answer) >>= fun others => pure ((answer push state).1 :: others) :
      StateT σ (Except ε) _).run (answer push state).2) = _
    rw [StateT.run_bind, run]
    rfl

theorem liftM_run {σ ε α : Type} (x : Except ε α) (state : σ) :
    (liftM x : StateT σ (Except ε) α).run state = x.map (·, state) := by
  cases x <;> rfl

/-- To evaluate metrics that need no terms, a source that answers is asked for the sums of each
program in them once and for nothing else. Then each metric has as many columns as it is wide, all
of full length, and no place is read that a column does not have. -/
theorem evaluate_asks_once (metrics : List (Metric ν)) (count : Nat)
    (grouped : ∀ m ∈ metrics, (Node.metric m).OverGroups) :
    ∃ asked : List Push, asked.Nodup ∧
      (∀ push, push ∈ asked ↔ ∃ m ∈ metrics, (Node.metric m).Reads push) ∧
      ∀ {σ : Type} (answer : Push → σ → List ν × σ) (state : σ), ∃ columns,
        (evaluate metrics (answering answer) count : StateT σ EvaluationM _).run state =
          .ok (columns, stateAfter answer state asked) ∧
        (strictEvaluate metrics (answering answer) count : StateT σ StrictM _).run state =
          .ok (columns, stateAfter answer state asked) ∧
        columns.length = (metrics.map Metric.width).sum ∧
        ∀ values ∈ columns, values.length = count + 1 := by
  have collected (push : Push) : push ∈ pushSet (metrics.flatMap Metric.reads) ↔
      ∃ m ∈ metrics, (Node.metric m).Reads push := by
    rw [pushSet, Push.orders.mem_orderedSet, List.mem_flatMap]
    simp only [Metric.mem_reads_iff]
  refine ⟨pushSet (metrics.flatMap Metric.reads),
    Push.orders.nodup (Push.orders.increasing_orderedSet _), collected, fun answer state => ?_⟩
  have asked : ∀ m ∈ metrics, ∀ push ∈ m.reads, push ∈ pushSet (metrics.flatMap Metric.reads) :=
    fun m mem push read => (collected push).mpr ⟨m, mem, Metric.mem_reads_iff.mp read⟩
  -- Both evaluations ask first and then read the same table.
  obtain ⟨table, answered, run⟩ := run_mapM_answering answer state
    (pushSet (metrics.flatMap Metric.reads))
  obtain ⟨columns, plain, strict, length, full⟩ := outputs_eq_ok count answered grouped asked
  refine ⟨columns, ?_, ?_, length, full⟩
  · rw [evaluate, StateT.run_bind]
    refine bind_eq_ok.mpr ⟨_, run _, ?_⟩
    rw [liftM_run, plain]
    rfl
  · rw [strictEvaluate, StateT.run_bind]
    refine bind_eq_ok.mpr ⟨_, run _, ?_⟩
    rw [liftM_run, strict]
    rfl

/-- Where there are more clicks than shows, the clicks of the group before; elsewhere none. -/
def clicksBefore : Metric ℚ :=
  .ifThenElse
    (.compare .gt (.documents ⟨"ads", ["clicks"]⟩ none) (.documents ⟨"ads", ["shows"]⟩ none))
    (.lag 1 (.documents ⟨"ads", ["clicks"]⟩ none) .root) (.constant 0)

theorem overGroups_clicksBefore : (Node.metric clicksBefore).OverGroups := by
  have documents (push : Push) : (Node.metric (.documents push none : Metric ℚ)).OverGroups :=
    Node.overGroups_iff.mpr ⟨id, by rintro _ ⟨⟩⟩
  refine Node.overGroups_iff.mpr ⟨id, fun part below => ?_⟩
  cases below with
  | condition =>
    refine Node.overGroups_iff.mpr ⟨id, fun part below => ?_⟩
    cases below <;> exact documents _
  | yes =>
    refine Node.overGroups_iff.mpr ⟨id, fun part below => ?_⟩
    cases below
    exact documents _
  | no => exact Node.overGroups_iff.mpr ⟨id, by rintro _ ⟨⟩⟩

/-- The sums of the clicks are asked for once, though they stand in two places. -/
theorem evaluate_asks_once_for_clicks : (∀ m ∈ [clicksBefore], (Node.metric m).OverGroups) ∧
    ∃ asked : List Push, asked.Nodup ∧
      (∀ push, push ∈ asked ↔ ∃ m ∈ [clicksBefore], (Node.metric m).Reads push) ∧
      ∀ {σ : Type} (answer : Push → σ → List ℚ × σ) (state : σ), ∃ columns,
        (evaluate [clicksBefore] (answering answer) 3 : StateT σ EvaluationM _).run state =
          .ok (columns, stateAfter answer state asked) ∧
        (strictEvaluate [clicksBefore] (answering answer) 3 : StateT σ StrictM _).run state =
          .ok (columns, stateAfter answer state asked) ∧
        columns.length = ([clicksBefore].map Metric.width).sum ∧
        ∀ values ∈ columns, values.length = 3 + 1 :=
  have grouped : ∀ m ∈ [clicksBefore], (Node.metric m).OverGroups :=
    List.forall_mem_singleton.mpr overGroups_clicksBefore
  ⟨grouped, evaluate_asks_once [clicksBefore] 3 grouped⟩

end Groupwise.Evaluation
