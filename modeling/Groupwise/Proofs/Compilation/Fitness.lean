import Groupwise.Proofs.Plan.Commands

/-!
# Internal errors of compilations

Compilation meets an internal error only where a computation does not fit: where it is needed deeper
than the schedule reaches for its expression, or where it walks the terms of a field in other
datasets than those of its scope. No such query compiles. Everything else that the stages of the
compilation take for granted of each other holds for every query.
-/
namespace Groupwise

/-- Checking commands whose metrics are settled is never at fault. -/
theorem Command.faultless_checkAll {schema : Schema} {scope : Names}
    {commands : List (Command Float)} (settled : ∀ c ∈ commands, Aggregate.Settled c.nodes)
    (found : Findings) : Faultless (Command.checkAll schema scope commands found) :=
  .foldlM (fun found c hc => c.faultless_check found (settled c hc)) found

theorem Findings.faultless_toExcept (found : Findings) : Faultless found.toExcept := by
  unfold Findings.toExcept
  split <;> rintro _ ⟨⟩

namespace Query

variable {catalog : Catalog} {settings : Settings} {now : Timestamp} {text : String}

/-- The plan of a text as computations are taken out of it. -/
def prepared? (catalog : Catalog) (settings : Settings) (now : Timestamp) (text : String) :
    Option (Plan Float) := do
  let q ← (parse text).toOption
  let planned ← (q.plan catalog settings now).toOption
  let plan ← planned.plan.substitute.toOption
  pure plan.simplify.filterTopTerms

theorem faultless_plan (q : Query) : Faultless (q.plan catalog settings now) := by
  have clock : Faultless (clockOffset settings) := by
    unfold clockOffset
    dsimp only
    split <;> rintro _ ⟨⟩
  refine clock.bind fun offset => ?_
  by_cases early : (!q.sources.all (From.isCountable (now.withOffset offset))) = true
  · rw [if_pos early]
    rintro _ ⟨⟩
  · rw [if_neg early]
    exact .pure _

/-- Compiling a query meets no internal error if its prepared plan fits. -/
theorem faultless_compile {q : Query} (fits : ∀ planned plan,
    q.plan catalog settings now = .ok planned → planned.plan.substitute = .ok plan →
      plan.simplify.filterTopTerms.fits = true) :
    Faultless (q.compile catalog settings now) := by
  refine q.faultless_plan.bind_ok fun planned hplanned => ?_
  refine planned.found.faultless_toExcept.bind fun _ => ?_
  refine (Plan.faultless_program fun plan => fits planned plan hplanned).bind_ok
    fun program hprogram => ?_
  obtain ⟨plan, hplan, settled, apt⟩ := Plan.program_spec hprogram
  refine (Program.faultless_commands (apt.mpr (fits planned plan hplanned hplan))).bind_ok
    fun commands hcommands => ?_
  refine (Command.faultless_checkAll (Program.settled_commands settled hcommands) _).bind
    fun found => ?_
  exact found.faultless_toExcept.bind fun _ => .pure _

/-- The prepared plan of a query that compiles fits. -/
theorem fits_of_compile {q : Query} {compiled : Compiled}
    (h : q.compile catalog settings now = .ok compiled) :
    ∃ planned plan, q.plan catalog settings now = .ok planned ∧
      planned.plan.substitute = .ok plan ∧ plan.simplify.filterTopTerms.fits = true := by
  simp only [compile, bind_eq_ok] at h
  obtain ⟨planned, hplanned, _, _, program, hprogram, commands, hcommands, _⟩ := h
  obtain ⟨plan, hplan, -, apt⟩ := Plan.program_spec hprogram
  exact ⟨planned, plan, hplanned, hplan, apt.mp (Program.apt_of_commands hcommands)⟩

theorem compile_of_compileText {compiled : Compiled}
    (h : compileText catalog settings now text = .ok compiled) :
    ∃ q, parse text = .ok q ∧ q.compile catalog settings now = .ok compiled := by
  simp only [compileText, bind_eq_ok] at h
  obtain ⟨q, hq, h⟩ := h
  split at h
  · rename_i found
    exact ⟨q, hq, found.trans (congrArg _ (Except.ok.inj h))⟩
  · cases h

theorem parse_ne_compile (e : CompileError) : parse text ≠ .error (.compile e) := by
  unfold parse readAll
  dsimp only
  split
  · exact nofun
  · split <;> exact nofun

theorem compile_of_compileText_error {e : CompileError}
    (h : compileText catalog settings now text = .error (.compile e)) :
    ∃ q, parse text = .ok q ∧ q.compile catalog settings now = .error e := by
  cases hq : parse text with
  | error refused =>
    simp only [compileText, hq, bind, Except.bind, Except.error.injEq] at h
    exact absurd (h ▸ hq) (parse_ne_compile e)
  | ok q =>
    refine ⟨q, rfl, ?_⟩
    simp only [compileText, hq, bind, Except.bind] at h
    split at h
    · exact absurd h nofun
    · rename_i failed
      rw [failed, QueryError.compile.inj (Except.error.inj h)]

/-- The prepared plan of a text that compiles fits, and that of a text that meets an internal error
does not. -/
theorem fits_of_compileText (catalog : Catalog) (settings : Settings) (now : Timestamp)
    (text : String) :
    (∀ compiled, compileText catalog settings now text = .ok compiled →
      ∃ p, prepared? catalog settings now text = some p ∧ p.fits = true) ∧
    ∀ reason, compileText catalog settings now text = .error (.compile (.internal reason)) →
      ∃ p, prepared? catalog settings now text = some p ∧ p.fits = false := by
  have prepares {q : Query} {planned : Planned} {plan : Plan Float}
      (hq : parse text = .ok q) (hplanned : q.plan catalog settings now = .ok planned)
      (hplan : planned.plan.substitute = .ok plan) :
      prepared? catalog settings now text = some plan.simplify.filterTopTerms := by
    simp [prepared?, hq, hplanned, hplan, Except.toOption]
  constructor
  · intro compiled h
    obtain ⟨q, hq, h⟩ := compile_of_compileText h
    obtain ⟨planned, plan, hplanned, hplan, fits⟩ := fits_of_compile h
    exact ⟨_, prepares hq hplanned hplan, fits⟩
  · intro reason h
    obtain ⟨q, hq, h⟩ := compile_of_compileText_error h
    by_contra none
    refine faultless_compile (fun planned plan hplanned hplan => ?_) reason h
    exact Bool.of_not_eq_false fun unfit => none ⟨_, prepares hq hplanned hplan, unfit⟩

/-- Two datasets with the same fields. -/
def adsAndNews : Catalog where
  datasets := [
    { name := "ads", intFields := ["clicks"], stringFields := ["country", "q"] },
    { name := "news", intFields := ["clicks"], stringFields := ["country", "q"] }]

def meetsInternalError : Except QueryError Compiled → Bool
  | .error (.compile (.internal _)) => true
  | _ => false

theorem exists_of_meetsInternalError {x : Except QueryError Compiled}
    (h : meetsInternalError x = true) : ∃ reason, x = .error (.compile (.internal reason)) := by
  unfold meetsInternalError at h
  split at h
  · exact ⟨_, rfl⟩
  · contradiction

/-- A sum across the countries of one dataset compiles where its metric is in that dataset too, and
a filter may count terms for the parent groups. Where only the field is in one dataset, the walk
over the countries does not fit. -/
theorem fits_of_compileText_across :
    (∃ compiled p, compileText adsAndNews {} default
        ("FROM ads, news GROUP BY country " ++
          "SELECT ads.(sum_across(country, count())), parent(distinct(q HAVING count() > 1))") =
        .ok compiled ∧
      prepared? adsAndNews {} default
        ("FROM ads, news GROUP BY country " ++
          "SELECT ads.(sum_across(country, count())), parent(distinct(q HAVING count() > 1))") =
        some p ∧ p.fits = true) ∧
    ∃ p, prepared? adsAndNews {} default "FROM ads, news SELECT sum_across(ads.country, count())" =
      some p ∧ p.fits = false := by
  constructor
  · have compiles : (compileText adsAndNews {} default
        ("FROM ads, news GROUP BY country " ++
          "SELECT ads.(sum_across(country, count())), parent(distinct(q HAVING count() > 1))")).isOk =
        true := by decide +kernel
    obtain ⟨compiled, h⟩ := exists_of_isOk compiles
    obtain ⟨p, found, fits⟩ := (fits_of_compileText ..).1 compiled h
    exact ⟨compiled, p, h, found, fits⟩
  · have fails : meetsInternalError (compileText adsAndNews {} default
        "FROM ads, news SELECT sum_across(ads.country, count())") = true := by decide +kernel
    obtain ⟨reason, h⟩ := exists_of_meetsInternalError fails
    exact (fits_of_compileText ..).2 reason h

/-- The field of a sum across names one dataset of two, and a filter counts terms for the groups of
the groups of the terms that are counted. -/
theorem compileText_meets_internal_errors :
    (∃ reason, compileText adsAndNews {} default
      "FROM ads, news SELECT sum_across(ads.country, count())" =
        .error (.compile (.internal reason))) ∧
    ∃ reason, compileText adsAndNews {} default
      "FROM ads SELECT distinct(q HAVING distinct(country HAVING distinct(q) > 1) > 1)" =
        .error (.compile (.internal reason)) :=
  ⟨exists_of_meetsInternalError (by decide +kernel),
    exists_of_meetsInternalError (by decide +kernel)⟩

end Query

end Groupwise
