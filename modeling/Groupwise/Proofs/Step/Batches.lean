import Groupwise.Proofs.Step.Commands

/-!
# Batches of computations

Merging joins neighbouring computations and does nothing else: taken apart again, the batches give
the steps they were made from. The members of a batch do not look up each other's results, and a
batch has commands exactly if each of its members has, which come one after another or share one
command.
-/
namespace Groupwise

variable {ν : Type}

namespace Step

/-- A step taken apart into its computations. -/
def single : Step ν → List (Step ν)
  | .computeAll scope members => members.map fun e => .compute scope e.1 e.2
  | step => [step]

def isBatch : Step ν → Bool
  | .computeAll .. => true
  | _ => false

/-- No member looks up results of the members before it, in any of its metrics. -/
def Independent (members : List (Computation ν × String)) : Prop :=
  members.Pairwise fun earlier later =>
    ∀ m ∈ later.1.nodes, ∀ name ∈ m.lookedUp, name ∉ earlier.1.outputs earlier.2

variable {steps : List (Step ν)}

/-! ## Taking batches apart -/

theorem single_of_not_isBatch {step : Step ν} (plain : step.isBatch = false) :
    step.single = [step] := by
  cases step with
  | computeAll => cases plain
  | _ => rfl

theorem flatMap_single_of_not_isBatch (plain : ∀ step ∈ steps, step.isBatch = false) :
    steps.flatMap single = steps := by
  rw [List.flatMap_congr fun step h => single_of_not_isBatch (plain step h),
    List.flatMap_singleton']

theorem single_toStep (b : Batch ν) :
    b.toStep.single = b.members.flatMap fun e => [.compute b.scope e.1 e.2] := by
  unfold Batch.toStep
  split
  · simp_all [single]
  · rw [single, List.map_eq_flatMap]

theorem flatMap_single_mergeComputations (steps : List (Step ν)) :
    (mergeComputations steps).flatMap single = steps.flatMap single :=
  flatMap_mergeInto (g := fun scope c name => [.compute scope c name]) (fun _ _ _ => rfl)
    single_toStep none steps

/-! ## Independence -/

/-- What a batch admits looks up none of its results. -/
theorem independent_admitted {b : Batch ν} {scope : Names} {c : Computation ν} {name : String}
    (admitted : b.admits scope c = true) (independent : Independent b.members) :
    Independent (b.members ++ [(c, name)]) := by
  refine List.pairwise_append.mpr ⟨independent, List.pairwise_singleton .., ?_⟩
  intro earlier he later hl m hm name hn
  obtain rfl := List.mem_singleton.mp hl
  have read : name ∈ c.lookedUp := by
    rw [Computation.lookedUp_eq_flatMap_nodes]
    exact List.mem_flatMap.mpr ⟨m, hm, hn⟩
  have apart := Batch.disjoint_of_admits admitted read
  rw [Batch.outputs_toStep, List.mem_flatMap] at apart
  exact fun found => apart ⟨earlier, he, found⟩

theorem independent_toStep {b : Batch ν} (independent : Independent b.members) {scope : Names}
    {members : List (Computation ν × String)} (h : b.toStep = .computeAll scope members) :
    Independent members := by
  unfold Batch.toStep at h
  split at h
  · cases h
  · cases h
    exact independent

/-- Batches stay independent while computations join the open one. -/
theorem independent_mergeInto {opened : Option (Batch ν)} {scope : Names}
    {members : List (Computation ν × String)}
    (independent : ∀ b ∈ opened, Independent b.members)
    (plain : ∀ step ∈ steps, step.isBatch = false)
    (h : .computeAll scope members ∈ mergeInto opened steps) : Independent members := by
  have closed {opened : Option (Batch ν)} (independent : ∀ b ∈ opened, Independent b.members)
      (h : .computeAll scope members ∈ (opened.map Batch.toStep).toList) :
      Independent members := by
    obtain ⟨b, hb, made⟩ := Option.map_eq_some_iff.mp (Option.mem_toList.mp h)
    exact independent_toStep (independent b hb) made
  -- The open batch is the only one that still grows; a step that is no computation closes it.
  fun_induction mergeInto opened steps with
  | case1 opened => exact closed independent h
  | case2 scope c name rest ih =>
    refine ih ?_ (List.forall_mem_cons.mp plain).2 h
    rintro _ ⟨⟩
    exact List.pairwise_singleton ..
  | case3 scope c name rest b admitted ih =>
    refine ih ?_ (List.forall_mem_cons.mp plain).2 h
    rintro _ ⟨⟩
    exact independent_admitted admitted (independent b rfl)
  | case4 scope c name rest b refused ih =>
    rcases List.mem_cons.mp h with h | h
    · exact independent_toStep (independent b rfl) h.symm
    · refine ih ?_ (List.forall_mem_cons.mp plain).2 h
      rintro _ ⟨⟩
      exact List.pairwise_singleton ..
  | case5 opened step rest other ih =>
    rcases List.mem_append.mp h with h | h
    · exact closed independent h
    · rcases List.mem_cons.mp h with rfl | h
      · exact absurd (plain _ List.mem_cons_self) (by simp [isBatch])
      · exact ih (by simp) (List.forall_mem_cons.mp plain).2 h

/-! ## Commands of batches -/

variable [Numeric ν] {scope : Names} {members : List (Computation ν × String)}

/-- A batch has commands exactly if each member has, since all of them come from its recipe. -/
theorem succeeds_commands_computeAll : Succeeds (commands (.computeAll scope members)) ↔
    ∀ e ∈ members, Succeeds (commands (.compute scope e.1 e.2)) := by
  have shared : Succeeds (commands (.computeAll scope members)) ↔
      Succeeds (recipes scope members) := by
    rw [commands]
    refine (Succeeds.bind_iff fun rs => iff_true_intro ?_).trans (iff_of_eq (and_true _))
    split
    · exact .ok _
    · exact .ok _
  rw [shared, recipes, Succeeds.mapM_iff]
  simp only [commands, Succeeds.bind_pure_iff]

/-- By itself each member has the commands of its recipe. -/
theorem mapM_commands_of_recipes {rs : List (Computation.Recipe ν × String)}
    (h : recipes scope members = .ok rs) :
    members.mapM (fun e => commands (.compute scope e.1 e.2)) =
        .ok (rs.map fun r => keepCommands r.1 r.2) ∧
      rs.map (·.2) = members.map (·.2) := by
  induction members generalizing rs with
  | nil =>
    obtain rfl := pure_eq_ok.mp h
    exact ⟨rfl, rfl⟩
  | cons e rest ih =>
    simp only [recipes, List.mapM_cons, bind_eq_ok, pure_eq_ok] at h
    obtain ⟨_, ⟨r, hr, rfl⟩, others, hothers, rfl⟩ := h
    obtain ⟨own, names⟩ := ih hothers
    refine ⟨?_, congrArg (e.2 :: ·) names⟩
    rw [List.mapM_cons, own, commands, hr]
    rfl

omit [Numeric ν] in
/-- A recipe that leaves the groups alone is a single measurement. -/
theorem keepCommands_of_not_regroups {r : Computation.Recipe ν} (alone : r.regroups = false)
    (name : String) : keepCommands r name = [.keep r.measurement name] := by
  simp only [Computation.Recipe.regroups, Bool.or_eq_false_iff, Bool.not_eq_false',
    List.isEmpty_iff] at alone
  rw [keepCommands, alone.1, alone.2]
  rfl

/-- The commands of a batch are those of its members, or share one command if each of them keeps a
single measurement. -/
theorem commands_computeAll {shared : List (Command ν)}
    (h : commands (.computeAll scope members) = .ok shared) :
    ∃ own, members.mapM (fun e => commands (.compute scope e.1 e.2)) = .ok own ∧
      (shared = own.flatten ∨ ∃ kept, kept.map (·.2) = members.map (·.2) ∧
        own = kept.map (fun e => [.keep e.1 e.2]) ∧ shared = [.keepAll kept]) := by
  simp only [commands, bind_eq_ok] at h
  obtain ⟨rs, hrs, h⟩ := h
  obtain ⟨own, names⟩ := mapM_commands_of_recipes hrs
  refine ⟨_, own, ?_⟩
  split at h
  · obtain rfl := pure_eq_ok.mp h
    exact .inl List.flatMap_def
  · rename_i alone
    obtain rfl := pure_eq_ok.mp h
    refine .inr ⟨_, ?_, ?_, rfl⟩
    · rw [List.map_map, ← names]
      rfl
    · rw [List.map_map]
      refine List.map_congr_left fun r hr => keepCommands_of_not_regroups ?_ r.2
      simpa using (List.any_eq_false.mp (Bool.not_eq_true _ ▸ alone)) r hr

/-- Merging only joins neighbouring computations of one scope that are independent. What is joined
has commands exactly if its members have, which are those of the members, or one for all. -/
theorem mergeComputations_faithful (steps : List (Step ν))
    (plain : ∀ step ∈ steps, step.isBatch = false) :
    (mergeComputations steps).flatMap single = steps ∧
      (∀ scope members, .computeAll scope members ∈ mergeComputations steps →
        Independent members) ∧
      ∀ (scope : Names) (members : List (Computation ν × String)),
        (Succeeds (commands (.computeAll scope members)) ↔
          ∀ e ∈ members, Succeeds (commands (.compute scope e.1 e.2))) ∧
        ∀ shared, commands (.computeAll scope members) = .ok shared →
          ∃ own, members.mapM (fun e => commands (.compute scope e.1 e.2)) = .ok own ∧
            (shared = own.flatten ∨ ∃ kept, kept.map (·.2) = members.map (·.2) ∧
              own = kept.map (fun e => [.keep e.1 e.2]) ∧ shared = [.keepAll kept]) := by
  refine ⟨?_, fun scope members h => ?_, fun scope members =>
    ⟨succeeds_commands_computeAll, fun _ => commands_computeAll⟩⟩
  · rw [flatMap_single_mergeComputations, flatMap_single_of_not_isBatch plain]
  · exact independent_mergeInto (by simp) plain h

/-- Two counts of terms, and the country for which the first of them is greatest: the third
computation looks up the first, so that only the two counts are joined. -/
theorem mergeComputations_faithful_counts :
    let queries : Computation Float := .distinct (.single "ads" "q") none none
    let clients : Computation Float := .distinct (.single "ads" "client") none none
    let greatest : Computation Float :=
      .extreme (.single "ads" "country") (.lookup "v0") none
    let scope : Names := ["ads"]
    let steps : List (Step Float) :=
      [.compute scope queries "v0", .compute scope clients "v1", .compute scope greatest "v2"]
    (∀ step ∈ steps, step.isBatch = false) ∧
      .computeAll scope [(queries, "v0"), (clients, "v1")] ∈ mergeComputations steps ∧
      (mergeComputations steps).length = 2 ∧ (mergeComputations steps).flatMap single = steps ∧
      Independent [(queries, "v0"), (clients, "v1")] ∧
      Succeeds (commands (.computeAll scope [(queries, "v0"), (clients, "v1")])) := by
  intro queries clients greatest scope steps
  have plain : ∀ step ∈ steps, step.isBatch = false := by simp [steps, isBatch]
  obtain ⟨apart, independent, lowered⟩ := mergeComputations_faithful steps plain
  have joined : .computeAll scope [(queries, "v0"), (clients, "v1")] ∈ mergeComputations steps :=
    List.mem_cons_self
  refine ⟨plain, joined, rfl, apart, independent _ _ joined, (lowered _ _).1.mpr ?_⟩
  exact List.forall_mem_cons.mpr ⟨⟨_, rfl⟩, List.forall_mem_singleton.mpr ⟨_, rfl⟩⟩

end Step

end Groupwise
