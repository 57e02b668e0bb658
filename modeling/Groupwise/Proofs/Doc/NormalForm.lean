import Groupwise.Proofs.Doc.Settled

/-!
# The normal form of document expressions

Sums, extremes, conjunctions and disjunctions in a simplified expression are merged, negations stand
in front of what has no negation of its own, and no node is left that its literals decide. The form
is said by what stands below a node, without the rules that bring it about. It holds in every
surrounding, so that it passes from the parts of an expression to the whole.
-/
namespace Groupwise.Doc

/-! ## Nodes in normal form -/

/-- The terms of a merged sum or extreme: several, none of the same kind, none that counts the
document, and no constant other than the last. -/
structure Metric.Gathered (own : List Metric → Metric) (ms : List Metric) : Prop where
  several : 2 ≤ ms.length
  ownKind : ∀ inner, own inner ∉ ms
  noCount : Metric.count ∉ ms
  lastConstant : ∀ v, Metric.constant v ∉ ms.dropLast

def Metric.IsLiteral (m : Metric) : Prop := ∃ v, m = .constant v

/-- A comparison that its sides do not decide: not both are literals, and there is no equality or
inequality of a literal with a field or with another comparison. -/
structure Undecided (op : Comparison) (l r : Metric) : Prop where
  literals : ¬(l.IsLiteral ∧ r.IsLiteral)
  equality : op = .eq ∨ op = .ne →
    ¬(l.IsLiteral ∧ r.Equatable) ∧ ¬(l.Equatable ∧ r.IsLiteral)

/-- A filter of which the negation is a filter without a "not" in front. -/
def Filter.Negatable : Filter → Prop
  | .always | .never | .compare .. | .not _ | .regex .. | .notRegex .. | .fieldIs ..
  | .fieldIsnt .. => True
  | _ => False

namespace Node

/-- A node has the normal form, whatever is below its parts. -/
def Normal : Node → Prop
  | .metric (.add ms) => Metric.Gathered .add ms ∧ Metric.constant 0 ∉ ms
  | .metric (.least ms) => Metric.Gathered .least ms
  | .metric (.greatest ms) => Metric.Gathered .greatest ms
  | .metric (.arithmetic op l r) =>
    ∀ a b, l.constant? = some a → r.constant? = some b → op.apply a b = none
  | .metric (.compare op l r) => Undecided op l r
  | .metric (.ifThenElse c _ _) => c ≠ .always ∧ c ≠ .never
  | .filter (.and fs) => 2 ≤ fs.length ∧ Filter.Conjoined fs
  | .filter (.or fs) => 2 ≤ fs.length ∧ Filter.Disjoined fs
  | .filter (.compare op l r) => Undecided op l r
  | .filter (.not f) => ¬f.Negatable
  | _ => True

/-- Every node of an expression has the normal form. -/
def InNormalForm (whole : Node) : Prop := ∀ part, Within part whole → part.Normal

end Node

/-! ## Settled nodes are normal -/

theorem Metric.Merged.gathered {own : List Metric → Metric} {c : Option Int64} {ms : List Metric}
    (merged : Merged own c ms) (several : 2 ≤ ms.length)
    (constant : ∀ v inner, Metric.constant v ≠ own inner) : Gathered own ms := by
  have ownKind := merged.forall_ne constant
  obtain ⟨others, rfl, plain⟩ := merged
  have absent {m : Metric} (known : m.constant?.isSome) : m ∉ others := fun mem => by
    rw [(plain m mem).1] at known
    cases known
  refine ⟨several, fun inner mem => ownKind _ mem inner rfl, fun mem => ?_, fun v mem => ?_⟩
  · rcases List.mem_append.mp mem with mem | mem
    · exact absent rfl mem
    · obtain ⟨v, -, same⟩ := Option.map_eq_some_iff.mp (Option.mem_toList.mp mem)
      cases same
  · cases c with
    | none =>
      rw [Option.map_none, Option.toList_none, List.append_nil] at mem
      exact absent rfl (List.dropLast_subset _ mem)
    | some =>
      rw [Option.map_some, Option.toList_some, List.dropLast_concat] at mem
      exact absent rfl mem

/-- Only zero could be added without effect, and merging leaves it out. -/
theorem Metric.Merged.zero_notMem {c : Option Int64} {ms : List Metric}
    (merged : Merged .add c ms) (nonzero : c ≠ some 0) : Metric.constant 0 ∉ ms := by
  obtain ⟨others, rfl, plain⟩ := merged
  intro mem
  rcases List.mem_append.mp mem with mem | mem
  · exact absurd (plain _ mem).1 (Option.some_ne_none _)
  · obtain ⟨v, known, same⟩ := Option.map_eq_some_iff.mp (Option.mem_toList.mp mem)
    cases same
    exact nonzero known

theorem Irreducible.undecided {op : Comparison} {l r : Metric} (h : Irreducible op l r) :
    Undecided op l r := by
  obtain ⟨single, unequal⟩ := h
  constructor
  · rintro ⟨⟨a, rfl⟩, b, rfl⟩
    exact single.elim nofun nofun
  · intro equality
    have asks : (equality? op).isSome := by
      rcases equality with rfl | rfl <;> rfl
    constructor
    · rintro ⟨⟨a, rfl⟩, equatable⟩
      exact unequal asks (a, r) rfl equatable
    · rintro ⟨equatable, b, rfl⟩
      refine unequal asks (b, l) ?_ equatable
      cases l with
      | field | compare => rfl
      | _ => exact absurd equatable id

namespace Node

/-- The negation of a filter has a "not" in front only if the filter has no other negation. -/
theorem not_negatable_of_settled {f : Filter} (settled : (filter (.not f)).Settled) :
    ¬f.Negatable := by
  have stays : f.foldNot = .not f := settled.stays
  intro negatable
  cases f with
  | compare op l r =>
    have irreducible : Irreducible op l r := (settled.part (List.mem_singleton_self _)).stays
    rw [Filter.foldNot, Filter.foldCompare_of_irreducible irreducible.negate] at stays
    split at stays
    · cases op <;> cases stays
    · cases stays
  | not f =>
    have same : f = .not (.not f) := stays
    have := congrArg sizeOf same
    simp at this
    omega
  | always | never | regex | notRegex | fieldIs | fieldIsnt => cases stays
  | _ => exact negatable

theorem ne_of_settled {c : Filter} {yes no : Metric}
    (settled : (metric (.ifThenElse c yes no)).Settled) : c ≠ .always ∧ c ≠ .never := by
  have stays : (Metric.ifThenElse c yes no).fold = .ifThenElse c yes no := settled.stays
  have smaller {m : Metric} (below : metric m ∈ (metric (.ifThenElse c yes no)).parts) :
      m ≠ .ifThenElse c yes no := by
    rintro rfl
    exact Nat.lt_irrefl _ (sizeOf_lt_of_mem_parts below)
  constructor
  · rintro rfl
    exact smaller (m := yes) (by simp [parts]) stays
  · rintro rfl
    exact smaller (m := no) (by simp [parts]) stays

theorem normal_of_settled {n : Node} (settled : n.Settled) : n.Normal := by
  have stays := settled.stays
  cases n with
  | metric m =>
    cases m with
    | add ms =>
      obtain ⟨several, c, nonzero, merged⟩ := stays
      exact ⟨merged.gathered several fun _ _ => Metric.noConfusion, merged.zero_notMem nonzero⟩
    | least ms | greatest ms =>
      obtain ⟨several, c, merged⟩ := stays
      exact merged.gathered several fun _ _ => Metric.noConfusion
    | arithmetic op l r =>
      intro a b left right
      cases value : op.apply a b with
      | none => rfl
      | some v =>
        have folded : Metric.foldArithmetic op l r = .constant v := by
          simp only [Metric.foldArithmetic, left, right, value]
        exact Metric.noConfusion (folded.symm.trans stays)
    | compare op l r => exact Irreducible.undecided stays
    | ifThenElse c yes no => exact ne_of_settled settled
    | _ => trivial
  | filter f =>
    cases f with
    | and fs | or fs => exact stays
    | compare op l r => exact Irreducible.undecided stays
    | not f => exact not_negatable_of_settled settled
    | _ => trivial

theorem Settled.inNormalForm {n : Node} (settled : n.Settled) : n.InNormalForm :=
  fun _ within => normal_of_settled fun inner below => settled inner (below.trans within)

end Node

/-- Whatever the filter and the metric are like, all nodes of what they are simplified to have the
normal form. -/
theorem simplify_inNormalForm (f : Filter) (m : Metric) :
    (Node.filter f.simplify).InNormalForm ∧ (Node.metric m.simplify).InNormalForm :=
  ⟨(Node.settled_simplify (.filter f)).inNormalForm,
    (Node.settled_simplify (.metric m)).inNormalForm⟩

/-- Without its empty conjunction and its nested disjunction the filter is a single comparison, into
which the negation is pushed. -/
example :
    let clicks := Metric.field (.single "ads" "clicks")
    (Filter.and [.and [], .not (.or [.or [.compare .gt clicks (.constant 5)], .never])]).simplify =
      .compare .lte clicks (.constant 5) := rfl

end Groupwise.Doc
