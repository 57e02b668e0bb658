import Groupwise.Proofs.Outcome
import Groupwise.Proofs.Time.Calendar
import Groupwise.Query.Grammar
import Groupwise.Query.Planning

/-!
# Times that break off

A point in time is resolved or reported unless it breaks off what is being done. That happens where
the local date of the moment, or the day before, is not on the calendar, and for spans that are too
long to be counted. A query is planned exactly if none of its times breaks off and its clock is less
than a day ahead or behind; the clock is multiplied out in 32 bits, which holds for clocks that are
not ahead or behind by more than 596523 hours.
-/
namespace Groupwise

open Time (Date)

/-! ## The calendar in seconds -/

/-- The moments on the calendar, by their seconds. -/
def OnCalendar (seconds : Int) : Prop :=
  Date.firstDay * 86400 ≤ seconds ∧ seconds < (Date.lastDay + 1) * 86400

theorem isStorable_ofDays_iff_onCalendar {seconds : Int} :
    Date.isStorable (Date.ofDays (seconds / 86400)).year = true ↔ OnCalendar seconds := by
  rw [Date.isStorable_ofDays_iff, OnCalendar]
  omega

namespace Timestamp

variable {t : Timestamp}

theorem isSome_storable?_iff : t.storable?.isSome = true ↔ OnCalendar t.seconds := by
  rw [storable?, ← isStorable_ofDays_iff_onCalendar]
  split <;> simp_all

theorem hasLocalDate_iff : t.hasLocalDate = true ↔ OnCalendar t.localSeconds :=
  isStorable_ofDays_iff_onCalendar

/-- The seconds at which the local day starts. -/
def midnight (t : Timestamp) : Int := t.localSeconds - t.localSeconds % 86400 - t.offset

theorem startOfDay?_eq : t.startOfDay? = storable? { seconds := t.midnight, offset := t.offset } := by
  have days : t.localSeconds / 86400 * 86400 = t.localSeconds - t.localSeconds % 86400 := by omega
  simp [startOfDay?, ofLocal?, localDate, Date.toDays_ofDays, midnight, days]

theorem isSome_startOfDay?_iff : t.startOfDay?.isSome = true ↔ OnCalendar t.midnight := by
  rw [startOfDay?_eq, isSome_storable?_iff]

theorem eq_of_startOfDay? {today : Timestamp} (h : t.startOfDay? = some today) :
    today = { seconds := t.midnight, offset := t.offset } := by
  rw [startOfDay?_eq, storable?] at h
  split at h
  · exact (Option.some.inj h).symm
  · cases h

end Timestamp

namespace Query

/-! ## Points in time -/

namespace TimePoint

variable {now : Timestamp} {t : TimePoint}

/-- The seconds of a unit that always has the same length. -/
def unitSeconds? : Char → Option Int
  | 's' => some 1
  | 'm' => some 60
  | 'h' => some 3600
  | 'd' => some 86400
  | 'w' => some 604800
  | _ => none

/-- What it takes for a point in time to be resolved or reported. -/
def Countable (now : Timestamp) : TimePoint → Prop
  | .now | .absolute _ => True
  | .today => OnCalendar now.localSeconds
  | .yesterday =>
    OnCalendar now.localSeconds ∧ (OnCalendar now.midnight → OnCalendar (now.midnight - 86400))
  | .ago amount unit =>
    OnCalendar now.localSeconds ∧
      (OnCalendar now.midnight → ∀ n ∈ unitSeconds? unit, (amount.toInt * n).natAbs ≤ longestSpan)

/-- A step of resolving a time breaks off exactly where a condition fails. -/
def BreaksUnless {α : Type} (fits : Prop) (x : Except TimeError α) : Prop :=
  (fits ∧ ∃ a, x = .ok a) ∨ ¬ fits ∧ x = .error .spanTooLong

namespace BreaksUnless

variable {α β : Type} {x : Except TimeError α} {fits fits' : Prop}

theorem ok (here : fits) (a : α) : BreaksUnless fits (Except.ok a) := .inl ⟨here, a, rfl⟩

theorem congr (h : BreaksUnless fits x) (same : fits' ↔ fits) : BreaksUnless fits' x := by
  rwa [BreaksUnless, same]

theorem map (h : BreaksUnless fits x) (f : α → β) : BreaksUnless fits (f <$> x) := by
  rcases h with ⟨here, a, rfl⟩ | ⟨early, rfl⟩
  · exact .inl ⟨here, f a, rfl⟩
  · exact .inr ⟨early, rfl⟩

end BreaksUnless

theorem spanBefore_breaksUnless (t : Timestamp) (amount n : Int) :
    BreaksUnless ((amount * n).natAbs ≤ longestSpan) (spanBefore t amount n) := by
  unfold spanBefore span
  split
  · rename_i here
    exact .inl ⟨here, _, rfl⟩
  · rename_i long
    exact .inr ⟨long, rfl⟩

theorem dayBefore_breaksUnless {seconds offset : Int} :
    BreaksUnless (OnCalendar (seconds - 86400)) (dayBefore { seconds, offset }) := by
  have found := @Timestamp.isSome_storable?_iff { seconds := seconds - 86400, offset }
  change (Timestamp.before? { seconds, offset } 86400).isSome = true ↔ _ at found
  unfold dayBefore
  rw [BreaksUnless, ← found]
  cases Timestamp.before? { seconds, offset } 86400 with
  | some earlier => exact .inl ⟨rfl, earlier, rfl⟩
  | none => exact .inr ⟨Bool.false_ne_true, rfl⟩

/-- The start of the day is found, is not on the calendar, or breaks off. -/
theorem startOfDay_cases (now : Timestamp) :
    (OnCalendar now.localSeconds ∧ OnCalendar now.midnight ∧
      startOfDay now = .ok (some { seconds := now.midnight, offset := now.offset })) ∨
    (OnCalendar now.localSeconds ∧ ¬ OnCalendar now.midnight ∧ startOfDay now = .ok none) ∨
    ¬ OnCalendar now.localSeconds ∧ startOfDay now = .error .spanTooLong := by
  rw [← Timestamp.hasLocalDate_iff, ← Timestamp.isSome_startOfDay?_iff, startOfDay]
  cases now.hasLocalDate with
  | false => exact .inr (.inr ⟨Bool.false_ne_true, rfl⟩)
  | true =>
    cases found : now.startOfDay? with
    | none => exact .inr (.inl ⟨rfl, Bool.false_ne_true, rfl⟩)
    | some today =>
      rw [Timestamp.eq_of_startOfDay? found]
      exact .inl ⟨rfl, rfl, rfl⟩

/-- Counting back breaks off only for units that always have the same length. -/
theorem before_breaksUnless (now today : Timestamp) (amount : Int) (unit : Char) :
    BreaksUnless (∀ n ∈ unitSeconds? unit, (amount * n).natAbs ≤ longestSpan)
      (before now today amount unit) := by
  have measured (t : Timestamp) (n : Int) (h : unitSeconds? unit = some n) :
      BreaksUnless (∀ n ∈ unitSeconds? unit, (amount * n).natAbs ≤ longestSpan)
        (spanBefore t amount n) :=
    (spanBefore_breaksUnless t amount n).congr (by simp [h])
  unfold before
  split
  · exact measured now 1 rfl
  · exact measured now 60 rfl
  · exact measured now 3600 rfl
  · exact measured today 86400 rfl
  · exact measured today 604800 rfl
  · exact .ok nofun _
  · exact .ok nofun _
  · exact .ok (by simp [unitSeconds?, *]) _

theorem find_breaksUnless (now : Timestamp) (t : TimePoint) :
    BreaksUnless (t.Countable now) (t.find now) := by
  cases t with
  | now | absolute => exact .ok trivial _
  | today =>
    rcases startOfDay_cases now with ⟨dated, -, start⟩ | ⟨dated, -, start⟩ | ⟨undated, start⟩
    · exact .inl ⟨dated, _, start⟩
    · exact .inl ⟨dated, _, start⟩
    · exact .inr ⟨undated, start⟩
  | yesterday =>
    rw [find, Countable]
    rcases startOfDay_cases now with ⟨dated, here, start⟩ | ⟨dated, off, start⟩ | ⟨undated, start⟩
    · rw [start]
      exact (dayBefore_breaksUnless.map some).congr (by simp [dated, here])
    · rw [start]
      exact .ok ⟨dated, fun here => absurd here off⟩ _
    · rw [start]
      exact .inr ⟨fun both => undated both.1, rfl⟩
  | ago amount unit =>
    rw [find, Countable]
    rcases startOfDay_cases now with ⟨dated, here, start⟩ | ⟨dated, off, start⟩ | ⟨undated, start⟩
    · rw [start]
      exact (before_breaksUnless now _ amount.toInt unit).congr (by simp [dated, here])
    · rw [start]
      exact .ok ⟨dated, fun here => absurd here off⟩ _
    · rw [start]
      exact .inr ⟨fun both => undated both.1, rfl⟩

/-- A point in time is resolved or reported exactly if it can be counted, and breaks off what is
being done otherwise. -/
theorem resolve_cases (now : Timestamp) (t : TimePoint) :
    (t.Countable now ∧
      ((∃ time, t.resolve now = .ok time) ∨ t.resolve now = .error (.invalid t))) ∨
    ¬ t.Countable now ∧ t.resolve now = .error .spanTooLong := by
  rw [resolve]
  rcases t.find_breaksUnless now with ⟨countable, _ | time, found⟩ | ⟨early, found⟩
  · rw [found]
    exact .inl ⟨countable, .inr rfl⟩
  · rw [found]
    exact .inl ⟨countable, .inl ⟨time, rfl⟩⟩
  · rw [found]
    exact .inr ⟨early, rfl⟩

theorem isCountable_iff : t.isCountable now = true ↔ t.Countable now := by
  rw [isCountable]
  rcases t.resolve_cases now with ⟨countable, ⟨time, resolved⟩ | reported⟩ | ⟨early, broken⟩
  · simp [countable, resolved]
  · simp [countable, reported]
  · simp [early, broken]

/-- At a moment that is not at the ends of the calendar, only spans are too long to be counted. -/
theorem countable_iff_of_inner (clock : now.offset.natAbs < 86400)
    (early : OnCalendar (now.seconds - 4 * 86400)) (late : OnCalendar (now.seconds + 86400)) :
    t.Countable now ↔ ∀ amount unit, t = .ago amount unit →
      ∀ n ∈ unitSeconds? unit, (amount.toInt * n).natAbs ≤ longestSpan := by
  have here : OnCalendar now.localSeconds ∧ OnCalendar now.midnight ∧
      OnCalendar (now.midnight - 86400) := by
    simp only [OnCalendar, Timestamp.midnight, Timestamp.localSeconds] at early late ⊢
    omega
  obtain ⟨today, start, before⟩ := here
  cases t with
  | ago amount unit =>
    simp only [Countable, today, start, forall_const, true_and, ago.injEq]
    constructor
    · rintro h _ _ ⟨rfl, rfl⟩
      exact h
    · intro h
      exact h amount unit ⟨rfl, rfl⟩
  | _ => simp [Countable, today, before]

end TimePoint

/-! ## Plans -/

variable {catalog : Catalog} {settings : Settings} {now : Timestamp} {q : Query}

/-- All times of the sources of a query can be counted. -/
def TimesCountable (now : Timestamp) (q : Query) : Prop :=
  ∀ f ∈ q.sources, (∀ t ∈ f.start, t.Countable now) ∧ ∀ t ∈ f.finish, t.Countable now

theorem all_isCountable_iff :
    q.sources.all (From.isCountable now) = true ↔ q.TimesCountable now := by
  simp [TimesCountable, From.isCountable, Option.all_eq_true, ← TimePoint.isCountable_iff]

/-- Clocks of up to 596523 hours are multiplied out without wrapping around. -/
theorem clockOffset_eq (small : settings.timezoneHours.natAbs ≤ 596523) : clockOffset settings =
    if settings.timezoneHours.natAbs < 24 then .ok (settings.timezoneHours * 3600)
    else .error (.invalid ("Invalid timezone offset: " ++ toString settings.timezoneHours)) := by
  have exact : (settings.timezoneHours * 3600).bmod UInt32.size = settings.timezoneHours * 3600 := by
    refine Int.bmod_eq_of_le ?_ ?_ <;> simp only [UInt32.size] <;> omega
  have day : (settings.timezoneHours * 3600).natAbs < 86400 ↔ settings.timezoneHours.natAbs < 24 := by
    omega
  simp only [clockOffset, exact, day]

/-- Planning at a known clock breaks off or succeeds. -/
theorem plan_cases {offset : Int} (h : clockOffset settings = .ok offset) :
    (q.TimesCountable (now.withOffset offset) ∧
      ∃ planned, q.plan catalog settings now = .ok planned) ∨
    ¬ q.TimesCountable (now.withOffset offset) ∧
      q.plan catalog settings now = .error .spanTooLong := by
  rw [← all_isCountable_iff, plan, h]
  cases countable : q.sources.all (From.isCountable (now.withOffset offset)) with
  | false => exact .inr ⟨Bool.false_ne_true, by simp [bind, Except.bind, countable]⟩
  | true => exact .inl ⟨rfl, _, by simp only [bind, Except.bind, countable]; rfl⟩

/-- Times are resolved or reported exactly if they can be counted. With a clock that can be
multiplied out, a query is planned exactly if the clock is less than a day ahead or behind and the
times of the sources can be counted; a clock beyond that is reported. -/
theorem resolved_iff_countable (small : settings.timezoneHours.natAbs ≤ 596523) (t : TimePoint) :
    ((∃ time, t.resolve now = .ok time) ∨ t.resolve now = .error (.invalid t) ↔
      t.Countable now) ∧
    (t.resolve now = .error .spanTooLong ↔ ¬ t.Countable now) ∧
    ((∃ planned, q.plan catalog settings now = .ok planned) ↔
      settings.timezoneHours.natAbs < 24 ∧
        q.TimesCountable (now.withOffset (settings.timezoneHours * 3600))) ∧
    (q.plan catalog settings now = .error .spanTooLong ↔
      settings.timezoneHours.natAbs < 24 ∧
        ¬ q.TimesCountable (now.withOffset (settings.timezoneHours * 3600))) ∧
    (q.plan catalog settings now =
        .error (.invalid ("Invalid timezone offset: " ++ toString settings.timezoneHours)) ↔
      24 ≤ settings.timezoneHours.natAbs) := by
  have clock := clockOffset_eq small
  rw [← and_assoc]
  constructor
  · rcases t.resolve_cases now with ⟨countable, ⟨time, resolved⟩ | reported⟩ | ⟨early, broken⟩
    · simp [countable, resolved]
    · simp [countable, reported]
    · simp [early, broken]
  · by_cases day : settings.timezoneHours.natAbs < 24
    · rw [if_pos day] at clock
      have near : ¬ 24 ≤ settings.timezoneHours.natAbs := by omega
      rcases @plan_cases catalog settings now q _ clock with
        ⟨countable, planned, made⟩ | ⟨early, broken⟩
      · simp [countable, made, day, near]
      · simp [early, broken, day, near]
    · rw [if_neg day] at clock
      have far : 24 ≤ settings.timezoneHours.natAbs := by omega
      have reported : q.plan catalog settings now =
          .error (.invalid ("Invalid timezone offset: " ++ toString settings.timezoneHours)) := by
        rw [plan, clock]
        rfl
      simp [reported, day, far]

/-- A week before the first of January 1970, by a clock six hours behind. -/
theorem resolved_iff_countable_week :
    let now : Timestamp := { seconds := 0, offset := 0 }
    let q : Query := { sources := [{ name := "ads", start := some (.ago 1 'w'),
                                     finish := some .now }] }
    ((-6 : Int).natAbs ≤ 596523) ∧
      ∃ planned, q.plan {} { timezoneHours := -6 } now = .ok planned := by
  intro now q
  refine ⟨by decide, ?_⟩
  obtain ⟨-, -, planned, -⟩ := @resolved_iff_countable {} { timezoneHours := -6 } now q (by decide) .now
  refine planned.mpr ⟨by decide, ?_⟩
  rw [← all_isCountable_iff]
  decide

/-- A time that the grammar reads breaks off, and a clock that is ahead by more than a century is
taken for one that is ahead by half an hour or so. -/
theorem longest_ago_breaks_off :
    Grammar.timePoint "9223372036854775807s".toList =
      .ok (.ago 9223372036854775807 's', []) ∧
    (TimePoint.ago 9223372036854775807 's').resolve { seconds := 0, offset := 0 } =
      .error .spanTooLong ∧
    clockOffset { timezoneHours := 1193047 } = .ok 1904 :=
  ⟨rfl, rfl, rfl⟩

end Query

end Groupwise
