import Groupwise.Proofs.Aggregate.Expansion
import Groupwise.Proofs.Plan.Completeness
import Mathlib.Logic.Relation

/-!
# References to named metrics

A definition is expanded while the names on the way to it are open, and an open name is not expanded
again. So there are always fewer definitions left to open, and replacing references ends: with a
plan without names, or with an error exactly if a name is defined twice, if a reference has no
definition or if the definitions refer to each other in a circle.
-/
namespace Groupwise

open Aggregate

open Relation (TransGen ReflTransGen)

variable {ν : Type}

namespace Definitions

variable {definitions : Definitions ν} {opened : List String} {name : String}

/-! ## Definitions left to open -/

/-- The names whose definitions are not being expanded. -/
def unopened (definitions : Definitions ν) (opened : List String) : List String :=
  definitions.keys.filter fun name => !opened.contains name

theorem length_unopened_lt {m : Metric ν} (known : definitions.find? name = some m)
    (fresh : name ∉ opened) :
    (definitions.unopened (opened ++ [name])).length < (definitions.unopened opened).length := by
  have before : name ∈ definitions.unopened opened :=
    List.mem_filter.mpr ⟨Dictionary.mem_keys.mpr (by rw [known]; rfl), by simpa using fresh⟩
  have fewer : definitions.unopened (opened ++ [name]) =
      (definitions.unopened opened).filter (· ≠ name) := by
    rw [unopened, unopened, List.filter_filter]
    refine List.filter_congr fun other _ => ?_
    simp [Bool.and_comm]
  rw [fewer]
  exact List.length_filter_lt_length_iff_exists.mpr ⟨name, before, by simp⟩

variable [Numeric ν] {m : Metric ν}

/-- The metric that a name stands for, with its own references replaced, while some names are
open. -/
def resolve (definitions : Definitions ν) (opened : List String) (name : String) :
    CompileM (Metric ν) :=
  match _ : definitions.find? name with
  | none => .error (.invalid ("Unknown metric name: " ++ name))
  | some m =>
    if _ : name ∉ opened then m.expand fun other => definitions.resolve (opened ++ [name]) other
    else cycle (opened ++ [name])
termination_by (definitions.unopened opened).length
decreasing_by exact length_unopened_lt (by assumption) (by assumption)

theorem resolve_of_unknown (unknown : definitions.find? name = none) :
    definitions.resolve opened name = .error (.invalid ("Unknown metric name: " ++ name)) := by
  rw [resolve]
  split <;> simp_all

theorem resolve_of_mem (known : definitions.find? name = some m) (again : name ∈ opened) :
    definitions.resolve opened name = cycle (opened ++ [name]) := by
  rw [resolve]
  split <;> simp_all

theorem resolve_of_not_mem (known : definitions.find? name = some m) (fresh : name ∉ opened) :
    definitions.resolve opened name = m.expand (definitions.resolve (opened ++ [name])) := by
  rw [resolve]
  split <;> simp_all

/-- Fuel does not run out if there is more of it than there are definitions left to open. -/
theorem refer_eq_resolve {fuel : Nat} (enough : (definitions.unopened opened).length < fuel) :
    definitions.refer fuel opened = definitions.resolve opened := by
  induction fuel generalizing opened with
  | zero => exact absurd enough (Nat.not_lt_zero _)
  | succ fuel ih =>
    funext name
    rw [refer]
    cases known : definitions.find? name with
    | none => rw [resolve_of_unknown known]
    | some m =>
      by_cases again : name ∈ opened
      · rw [resolve_of_mem known again]
        exact if_pos (List.contains_iff_mem.mpr again)
      · have later := Nat.lt_of_lt_of_le (length_unopened_lt known again) (Nat.le_of_lt_succ enough)
        rw [resolve_of_not_mem known again, ← ih later]
        exact if_neg (mt List.contains_iff_mem.mp again)

theorem substitute_eq_expand : definitions.substitute = Metric.expand (definitions.resolve []) := by
  funext m
  rw [substitute, refer_eq_resolve]
  simp [unopened, Dictionary.keys]

/-! ## Circles -/

omit [Numeric ν] in
/-- The definition of one name refers to the other. -/
def Refers (definitions : Definitions ν) (name other : String) : Prop :=
  ∃ m, definitions.find? name = some m ∧ Metric.reference other ∈ m.nodes

theorem mem_keys_of_succeeds (resolved : Succeeds (definitions.resolve opened name)) :
    name ∈ definitions.keys := by
  cases known : definitions.find? name with
  | none =>
    rw [resolve_of_unknown known] at resolved
    exact absurd resolved (Succeeds.not_error _)
  | some m => exact Dictionary.mem_keys.mpr (by rw [known]; rfl)

/-- A name that can be expanded is not on a circle. -/
theorem no_circle_of_succeeds (resolved : Succeeds (definitions.resolve opened name)) :
    ¬TransGen definitions.Refers name name := by
  fun_induction resolve definitions opened name with
  | case1 opened name unknown => exact absurd resolved (Succeeds.not_error _)
  | case2 opened name m known fresh ih =>
    intro circle
    obtain ⟨next, ⟨m', known', mentioned⟩, back⟩ := TransGen.head'_iff.mp circle
    obtain rfl := Option.some.inj (known.symm.trans known')
    refine ih next ((Metric.succeeds_expand m).mp resolved next mentioned) ?_
    exact TransGen.tail' back ⟨m, known, mentioned⟩
  | case3 opened name m known again => exact absurd resolved (Succeeds.not_error _)

/-- A name can be expanded if every definition refers to defined names only, none refers to itself
in a circle, and the open names lead to it. -/
theorem succeeds_of_no_circle
    (closed : ∀ name other, definitions.Refers name other → other ∈ definitions.keys)
    (acyclic : ∀ name, ¬TransGen definitions.Refers name name) (defined : name ∈ definitions.keys)
    (leads : ∀ other ∈ opened, TransGen definitions.Refers other name) :
    Succeeds (definitions.resolve opened name) := by
  fun_induction resolve definitions opened name with
  | case1 opened name unknown =>
    rw [Dictionary.mem_keys, unknown] at defined
    exact absurd defined nofun
  | case2 opened name m known fresh ih =>
    refine (Metric.succeeds_expand m).mpr fun other mentioned => ?_
    have refers : definitions.Refers name other := ⟨m, known, mentioned⟩
    refine ih other (closed name other refers) fun before earlier => ?_
    rcases List.mem_append.mp earlier with earlier | last
    · exact (leads before earlier).tail refers
    · exact List.mem_singleton.mp last ▸ TransGen.single refers
  | case3 opened name m known again =>
    exact absurd (leads name (not_not.mp again)) (acyclic name)

/-! ## Entering definitions -/

omit [Numeric ν] in
/-- The names that some metrics define. -/
def definedNames : List (Metric ν) → List String
  | [] => []
  | .named _ name :: rest => name :: definedNames rest
  | _ :: rest => definedNames rest

omit [Numeric ν] in
theorem mem_definedNames {ms : List (Metric ν)} :
    name ∈ definedNames ms ↔ ∃ m, .named m name ∈ ms := by
  fun_induction definedNames ms with
  | case1 => simp
  | case2 m other rest ih =>
    rw [List.mem_cons, ih]
    grind
  | case3 m rest other ih =>
    rw [ih]
    grind

omit [Numeric ν] in
/-- Definitions can be entered exactly if their names are new and differ. -/
theorem succeeds_enter {ms : List (Metric ν)} : Succeeds (definitions.enter ms) ↔
    (definedNames ms).Nodup ∧ ∀ name ∈ definedNames ms, name ∉ definitions.keys := by
  fun_induction Definitions.enter definitions ms with
  | case1 => simp [definedNames]
  | case2 definitions m name rest taken =>
    exact iff_of_false (Succeeds.not_error _) fun free =>
      free.2 name (List.mem_cons_self ..) (Dictionary.mem_keys.mpr taken)
  | case3 definitions m name rest free ih =>
    rw [← Dictionary.mem_keys] at free
    simp only [ih, Dictionary.mem_keys_insert, definedNames, List.nodup_cons, List.forall_mem_cons]
    grind
  | case4 definitions m rest other ih =>
    rw [ih, definedNames]
    exact other

omit [Numeric ν] in
/-- What is entered under a name is what it defines. -/
theorem find?_enter {entered : Definitions ν} {ms : List (Metric ν)}
    (h : definitions.enter ms = .ok entered) {m : Metric ν} :
    entered.find? name = some m ↔ definitions.find? name = some m ∨ .named m name ∈ ms := by
  fun_induction Definitions.enter definitions ms with
  | case1 =>
    obtain rfl := Except.ok.inj h
    simp
  | case2 => cases h
  | case3 definitions m' other rest free ih =>
    rw [ih h, Dictionary.find?_insert]
    by_cases same : other = name
    · subst same
      grind
    · grind
  | case4 definitions m' rest other ih =>
    rw [ih h]
    grind

end Definitions

theorem Stage.succeeds_traverse [Numeric ν] {refer : String → CompileM (Metric ν)} (s : Stage ν) :
    Succeeds (s.traverse (Metric.expand refer)) ↔ Resolves refer s.nodes := by
  rw [Stage.traverse, Grouping.traverse_expand, Filter.traverseOption_expand]
  refine (Succeeds.bind_iff fun _ => Succeeds.bind_pure_iff).trans ?_
  rw [Grouping.succeeds_expand, Filter.succeeds_expandOption, Stage.nodes, Resolves.append]

namespace Plan

/-- The names that a plan defines. -/
def definedNames (p : Plan ν) : List String := Definitions.definedNames p.selects

/-- What a plan defines under one name refers to the other. -/
def Refers (p : Plan ν) (name other : String) : Prop :=
  ∃ m, .named m name ∈ p.selects ∧ Metric.reference other ∈ m.nodes

variable {p : Plan ν}

/-- The references of a definition are references of the plan. -/
theorem Refers.mem_nodes {name other : String} (h : p.Refers name other) :
    Metric.reference other ∈ p.nodes := by
  obtain ⟨m, selected, mentioned⟩ := h
  refine List.mem_append_right _ ?_
  rw [Metric.nodesOfAll, Metric.collectAll_eq_flatMap]
  exact List.mem_flatMap.mpr ⟨_, selected, List.mem_append_left _ mentioned⟩

variable [Numeric ν]

theorem succeeds_traverse {refer : String → CompileM (Metric ν)} :
    Succeeds (p.traverse (Metric.expand refer)) ↔ Resolves refer p.nodes := by
  rw [Plan.traverse]
  refine (Succeeds.bind_iff fun _ => Succeeds.bind_pure_iff).trans ?_
  rw [Succeeds.mapM_iff, Succeeds.mapM_iff, nodes, Resolves.append, Resolves.flatMap,
    Metric.nodesOfAll, Metric.collectAll_eq_flatMap, Resolves.flatMap]
  simp only [Stage.succeeds_traverse, Metric.succeeds_expand]

theorem substitute_eq_traverse : p.substitute = (do
    let definitions ← Definitions.enter [] p.selects
    p.traverse (Metric.expand (definitions.resolve []))) := by
  simp only [substitute, Definitions.substitute_eq_expand]

/-- The references of a plan are replaced if its names are defined once, if it defines the names
that it refers to and if no definition refers to itself in a circle. -/
theorem succeeds_substitute : Succeeds p.substitute ↔ p.definedNames.Nodup ∧
    (∀ name, Metric.reference name ∈ p.nodes → name ∈ p.definedNames) ∧
      ∀ name, ¬TransGen p.Refers name name := by
  have entering : Succeeds (Definitions.enter [] p.selects) ↔ p.definedNames.Nodup :=
    Definitions.succeeds_enter.trans (and_iff_left fun _ _ => List.not_mem_nil)
  rw [substitute_eq_traverse]
  by_cases distinct : p.definedNames.Nodup
  · obtain ⟨definitions, entered⟩ := entering.mpr distinct
    have known {name : String} {m : Metric ν} :
        definitions.find? name = some m ↔ .named m name ∈ p.selects :=
      (Definitions.find?_enter entered).trans (or_iff_right nofun)
    have refers : definitions.Refers = p.Refers := by
      funext name other
      simp only [Definitions.Refers, Refers, known]
    have defined {name : String} : name ∈ definitions.keys ↔ name ∈ p.definedNames := by
      simp only [Dictionary.mem_keys, Option.isSome_iff_exists, known, definedNames,
        Definitions.mem_definedNames]
    rw [entered]
    refine succeeds_traverse.trans ⟨fun resolved => ⟨distinct, ?_, ?_⟩, ?_⟩
    · exact fun name mentioned =>
        defined.mp (Definitions.mem_keys_of_succeeds (resolved name mentioned))
    · intro name circle
      obtain ⟨next, first, back⟩ := TransGen.head'_iff.mp circle
      have apart := Definitions.no_circle_of_succeeds (resolved next first.mem_nodes)
      exact apart (refers ▸ TransGen.tail' back first)
    · rintro ⟨-, closed, acyclic⟩ name mentioned
      refine Definitions.succeeds_of_no_circle ?_ ?_ (defined.mpr (closed name mentioned)) nofun
      · exact fun name other refer =>
          defined.mpr (closed other (refers ▸ refer : p.Refers name other).mem_nodes)
      · exact refers ▸ acyclic
  · exact iff_of_false (fun h => distinct (entering.mp h.of_bind)) fun h => distinct h.1

/-- Replacing the references of a plan opens no definition while it is open, so that it always ends.
It leaves no names, or it fails because a name is defined twice, because a reference has no
definition or because definitions refer to each other in a circle. -/
theorem names_replaced_unless_unresolvable (p : Plan ν) :
    (p.substitute = do
      let definitions ← Definitions.enter [] p.selects
      p.traverse (Metric.expand (definitions.resolve []))) ∧
    (∀ q, p.substitute = .ok q → ∀ m ∈ q.nodes, m.isNamed = false) ∧
    ((∃ e, p.substitute = .error e) ↔ ¬p.definedNames.Nodup ∨
      (∃ name, Metric.reference name ∈ p.nodes ∧ name ∉ p.definedNames) ∨
        ∃ name, TransGen p.Refers name name) := by
  refine ⟨substitute_eq_traverse, fun q h => nameless_substitute h, ?_⟩
  rw [← Succeeds.not_iff, succeeds_substitute]
  simp only [not_and_or, not_forall, not_not, exists_prop]

/-- A share of a total that is defined by its parts, asked for in a filter of groups, and the same
with a total that is defined by the share. -/
theorem names_replaced_unless_unresolvable_share :
    let share (total : Metric Float) : Plan Float :=
      { sources := [{ dataset := "ads" }]
        stages := [⟨.terms (.single "ads" "country") none none (some (.reference "total")) false,
          some (.compare .gt (.reference "share") (.docStats .count)), none⟩]
        selects := [.named (.calculate .divide (.docStats .count) (.reference "total")) "share",
          .named (.sumAcross (.terms (.single "ads" "q") none none none false) total) "total"]
        formats := [none, none] }
    (∃ q, (share (.docStats .count)).substitute = .ok q ∧ ∀ m ∈ q.nodes, m.isNamed = false) ∧
      ∃ e, (share (.reference "share")).substitute = .error e := by
  intro share
  refine ⟨⟨_, rfl, (names_replaced_unless_unresolvable (share (.docStats .count))).2.1 _ rfl⟩, ?_⟩
  have circle : TransGen (share (.reference "share")).Refers "share" "share" := by
    refine .head (b := "total") ⟨_, List.mem_cons_self .., ?_⟩
      (.single ⟨_, List.mem_cons_of_mem _ (List.mem_cons_self ..), ?_⟩)
    · simp [Metric.collect]
    · simp [Metric.collect]
  exact (names_replaced_unless_unresolvable _).2.2.mpr (.inr (.inr ⟨"share", circle⟩))

end Plan

end Groupwise
