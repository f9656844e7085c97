import Mathlib.Order.Monotone.Basic
import FileClerk.Disk.Scripted
import FileClerk.Proofs.Ending

/-!
# Times that have a date

A year has begun once its first day has come, however far it lies from now (`le_year_ofDays_iff`).
So the instants with a date are those between the first second of the calendar and its last one
(`text?_isSome_iff`), and a place is shown unless the disk tells a time outside these
(`info_of_status`).
-/

namespace FileClerk

namespace CalendarDate

/-- The year of an era of 400 years in which a day of it lies, counted from March. -/
def yearOfEra (day : Nat) : Nat := (day - day / 1460 + day / 36524 - day / 146096) / 365

/-- The first day of a year of an era. -/
def dayOfEra (year : Nat) : Nat := 365 * year + year / 4 - year / 100

theorem yearOfEra_mono : Monotone yearOfEra := by
  refine monotone_nat_of_le_succ fun day => Nat.div_le_div_right ?_
  have hleap : (day + 1) / 1460 ≤ day / 1460 + 1 := by omega
  have hera : ∀ d : Nat, d / 146096 = d / 36524 / 4 := fun d => by omega
  rw [hera, hera]
  have hcentury : day / 36524 ≤ (day + 1) / 36524 := by omega
  generalize day / 36524 = c at *
  generalize (day + 1) / 36524 = c' at *
  omega

theorem yearOfEra_dayOfEra : ∀ year < 400, yearOfEra (dayOfEra year) = year := by decide +kernel

theorem yearOfEra_pred : ∀ year < 400, 0 < year → yearOfEra (dayOfEra year - 1) < year := by
  decide +kernel

theorem le_yearOfEra_iff (day : Nat) {year : Nat} (h : year < 400) :
    year ≤ yearOfEra day ↔ dayOfEra year ≤ day := by
  constructor
  · intro hle
    by_contra hlt
    have hpos : 0 < year := by
      rcases Nat.eq_zero_or_pos year with rfl | hpos
      · exact absurd (Nat.zero_le day) hlt
      · exact hpos
    have hmono := yearOfEra_mono (show day ≤ dayOfEra year - 1 by omega)
    have hpred := yearOfEra_pred year h hpos
    omega
  · intro hle
    have hmono := yearOfEra_mono hle
    rwa [yearOfEra_dayOfEra year h] at hmono

/-- The days from 1 March of the year 0 to 1 March of a year. -/
def marchFirst (year : Int) : Int := 365 * year + year / 4 - year / 100 + year / 400

/-- The first day of a year, in days after 1 January 1970. -/
def firstDay (year : Int) : Int := marchFirst (year - 1) + 306 - 719468

theorem marchFirst_eq (era : Int) {year : Nat} (h : year < 400) :
    marchFirst (era * 400 + year) = era * 146097 + dayOfEra year := by
  unfold marchFirst dayOfEra
  omega

theorem yearOfEra_lt {day : Nat} (h : day < 146097) : yearOfEra day < 400 := by
  have hmono := yearOfEra_mono (show day ≤ 146096 by omega)
  have hlast : yearOfEra 146096 = 399 := by decide
  omega

/-- A year counted from March has begun once its first of March has come. -/
theorem le_marchYear_iff (year days : Int) :
    year ≤ days / 146097 * 400 + yearOfEra (days % 146097).toNat ↔ marchFirst year ≤ days := by
  have hday : (days % 146097).toNat < 146097 := by omega
  have hlt := yearOfEra_lt hday
  have hyear : (year % 400).toNat < 400 := by omega
  have hiff := le_yearOfEra_iff (days % 146097).toNat hyear
  have hfirst := marchFirst_eq (year / 400) hyear
  have hsplit : year / 400 * 400 + ((year % 400).toNat : Int) = year := by omega
  rw [hsplit] at hfirst
  have hbound : dayOfEra (year % 400).toNat < 146097 := by
    unfold dayOfEra
    omega
  rw [hfirst]
  generalize yearOfEra (days % 146097).toNat = y at *
  generalize dayOfEra (year % 400).toNat = d at *
  omega

theorem sub_dayOfEra_le {day : Nat} (h : day < 146097) :
    dayOfEra (yearOfEra day) ≤ day ∧ day ≤ dayOfEra (yearOfEra day) + 365 := by
  have hlt := yearOfEra_lt h
  refine ⟨(le_yearOfEra_iff day hlt).1 (Nat.le_refl _), ?_⟩
  by_cases hlast : yearOfEra day = 399
  · rw [hlast, dayOfEra]
    omega
  · have hnext := (le_yearOfEra_iff day (show yearOfEra day + 1 < 400 by omega)).not
    generalize yearOfEra day = y at *
    simp only [dayOfEra] at *
    omega

theorem month_le_two_iff {day : Nat} (h : day ≤ 365) :
    (if (5 * day + 2) / 153 < 10 then (5 * day + 2) / 153 + 3 else (5 * day + 2) / 153 - 9) ≤ 2
      ↔ 306 ≤ day := by
  split_ifs <;> omega

/-- A date is in its year counted from March, or in the January or February after it. -/
theorem year_ofDays {days : Int} {day : Nat} (hday : day = ((days + 719468) % 146097).toNat) :
    (ofDays days).year = (days + 719468) / 146097 * 400 + yearOfEra day
      + if 306 ≤ day - dayOfEra (yearOfEra day) then 1 else 0 := by
  have hfdiv := Int.fdiv_eq_ediv_of_nonneg (days + 719468) (show (0 : Int) ≤ 146097 by decide)
  have hfmod := Int.fmod_eq_emod_of_nonneg (days + 719468) (show (0 : Int) ≤ 146097 by decide)
  have hbounds := sub_dayOfEra_le (show day < 146097 by omega)
  have hmonth := month_le_two_iff (show day - dayOfEra (yearOfEra day) ≤ 365 by omega)
  simp only [ofDays, hfdiv, hfmod, ← hday]
  exact congrArg (_ + ·) (if_congr hmonth rfl rfl)

/-- A year has begun once its first day has come. -/
theorem le_year_ofDays_iff (year days : Int) :
    year ≤ (ofDays days).year ↔ firstDay year ≤ days := by
  obtain ⟨day, hday⟩ : ∃ day, day = ((days + 719468) % 146097).toNat := ⟨_, rfl⟩
  have hlt : day < 146097 := by omega
  have hmarch := le_marchYear_iff year (days + 719468)
  have hbefore := le_marchYear_iff (year - 1) (days + 719468)
  have hfirst := marchFirst_eq ((days + 719468) / 146097) (yearOfEra_lt hlt)
  have hbounds := sub_dayOfEra_le hlt
  have hgap : marchFirst (year - 1) + 306 ≤ marchFirst year := by
    unfold marchFirst
    omega
  rw [year_ofDays hday, firstDay]
  rw [← hday] at hmarch hbefore
  generalize yearOfEra day = y at *
  generalize dayOfEra y = first at *
  by_cases hlater : year = (days + 719468) / 146097 * 400 + y + 1
  · rw [hlater, Int.add_sub_cancel, hfirst]
    split_ifs <;> omega
  · split_ifs <;> omega

end CalendarDate

/-- The instant lies between the first second of the calendar and its last one. -/
structure Instant.InCalendar (t : Instant) : Prop where
  first : -8334601228800 ≤ t.seconds
  last : t.seconds ≤ 8210266876799

theorem Instant.text?_isSome_iff (t : Instant) : t.text?.isSome ↔ t.InCalendar := by
  have hday : t.seconds.fdiv 86400 = t.seconds / 86400 :=
    Int.fdiv_eq_ediv_of_nonneg _ (by decide)
  have hfirst : CalendarDate.firstYear ≤ t.date.year ↔ -96465292 ≤ t.seconds / 86400 := by
    rw [date, hday]
    exact CalendarDate.le_year_ofDays_iff _ _
  have hlast : CalendarDate.lastYear + 1 ≤ t.date.year ↔ 95026237 ≤ t.seconds / 86400 := by
    rw [date, hday]
    exact CalendarDate.le_year_ofDays_iff _ _
  have hyears : (CalendarDate.firstYear ≤ t.date.year ∧ t.date.year ≤ CalendarDate.lastYear)
      ↔ t.InCalendar := by
    constructor
    · rintro ⟨h₁, h₂⟩
      exact ⟨by omega, by omega⟩
    · rintro ⟨h₁, h₂⟩
      exact ⟨by omega, by omega⟩
  rw [text?, ← hyears]
  split_ifs with h <;> simp [h]

/-- The times that a status tells. -/
def FileStatus.times (status : FileStatus) : List Instant :=
  status.created.toList ++ status.modified.toList ++ status.accessed.toList

namespace Execution

open FileClerk.Action

theorem timeText?_isSome_iff (time : Option Instant) :
    (timeText? time).isSome ↔ ∀ t ∈ time, t.InCalendar := by
  cases time with
  | none => simp [timeText?]
  | some t => simp [timeText?, t.text?_isSome_iff]

theorem infoReport?_isSome_iff (raw : Text) (status : FileStatus) :
    (infoReport? raw status).isSome ↔ ∀ t ∈ status.times, t.InCalendar := by
  have hshown : (infoReport? raw status).isSome ↔ (timeText? status.created).isSome
      ∧ (timeText? status.modified).isSome ∧ (timeText? status.accessed).isSome := by
    unfold infoReport?
    cases timeText? status.created <;> cases timeText? status.modified <;>
      cases timeText? status.accessed <;> simp
  rw [hshown, timeText?_isSome_iff, timeText?_isSome_iff, timeText?_isSome_iff]
  simp only [FileStatus.times, List.mem_append, Option.mem_toList, Option.mem_def, or_imp,
    forall_and, and_assoc]

section Info

variable {σ : Type} {answering : Answering σ} {s : σ} {box : Sandbox} {raw : Text}
  {place : Location} {status : FileStatus}

theorem result_info (hplace : box.resolve raw = .ok place)
    (hthere : (answering (.isPresent place.text) s).1 = .ok true)
    (hstatus : (answering (.status place.text) (answering (.isPresent place.text) s).2).1
      = .ok status) :
    (((Operation.info raw).execute box).run answering s).result
      = (infoReport? raw status).elim (.error .timeOutOfRange) fun message =>
        .ok (.success message) := by
  simp only [Operation.execute, info, resolving_of_ok hplace, ifPresent, attempting, Action.run,
    hthere, if_true, hstatus]
  cases infoReport? raw status <;> rfl

/-- What is told of a place that exists is shown, whatever it is, unless one of its times lies
outside the calendar. Then there is no outcome. -/
theorem info_of_status (hplace : box.resolve raw = .ok place)
    (hthere : (answering (.isPresent place.text) s).1 = .ok true)
    (hstatus : (answering (.status place.text) (answering (.isPresent place.text) s).2).1
      = .ok status) :
    let result := (((Operation.info raw).execute box).run answering s).result
    (∀ t ∈ status.times, t.InCalendar)
        ∧ (∃ message, infoReport? raw status = some message ∧ result = .ok (.success message))
      ∨ (∃ t ∈ status.times, ¬ t.InCalendar) ∧ result = .error .timeOutOfRange := by
  have hresult := result_info hplace hthere hstatus
  have hiff := infoReport?_isSome_iff raw status
  cases hreport : infoReport? raw status with
  | none =>
    rw [hreport] at hresult hiff
    refine .inr ⟨?_, hresult⟩
    simpa using hiff
  | some message =>
    rw [hreport] at hresult hiff
    exact .inl ⟨hiff.1 rfl, message, rfl, hresult⟩

/-- A file changed in the last second of the calendar. -/
theorem info_of_status_last_second :
    let box : Sandbox := ⟨⟨["work".toList]⟩⟩
    let place : Location := ⟨["work".toList, "a".toList]⟩
    let status : FileStatus := ⟨.file, 1, none, some ⟨8210266876799, 999999999⟩, none⟩
    let script : Script := ⟨[.ok true], [], [], [], [], [], [], [], [], [.ok status]⟩
    box.resolve "a".toList = .ok place
      ∧ (Script.answer (.isPresent place.text) script).1 = .ok true
      ∧ (Script.answer (.status place.text) (Script.answer (.isPresent place.text) script).2).1
        = .ok status
      ∧ ∃ message,
        (((Operation.info "a".toList).execute box).run Script.answer script).result
          = .ok (.success message) := by
  intro box place status script
  have hplace : box.resolve "a".toList = .ok place := by decide
  have htimes : ∀ t ∈ status.times, t.InCalendar := by
    intro t ht
    obtain rfl : t = ⟨8210266876799, 999999999⟩ := by simpa [FileStatus.times, status] using ht
    exact ⟨by decide, by decide⟩
  have hthere : (Script.answer (.isPresent place.text) script).1 = .ok true := rfl
  have hstatus : (Script.answer (.status place.text)
      (Script.answer (.isPresent place.text) script).2).1 = .ok status := rfl
  refine ⟨hplace, hthere, hstatus, ?_⟩
  obtain ⟨-, message, -, hresult⟩ | ⟨⟨t, ht, hout⟩, -⟩ := info_of_status hplace hthere hstatus
  · exact ⟨message, hresult⟩
  · exact absurd (htimes t ht) hout

/-- A file may have a time in 64 bits that has no date. -/
theorem crash_of_status_undated :
    ∃ (box : Sandbox) (place : Location) (status : FileStatus) (script : Script),
      box.resolve "a".toList = .ok place
        ∧ (∀ t ∈ status.times, -9223372036854775808 ≤ t.seconds
          ∧ t.seconds ≤ 9223372036854775807 ∧ t.nanos < 1000000000)
        ∧ (Script.answer (.isPresent place.text) script).1 = .ok true
        ∧ (Script.answer (.status place.text) (Script.answer (.isPresent place.text) script).2).1
          = .ok status
        ∧ ∀ outcome, (((Operation.info "a".toList).execute box).run Script.answer script).result
          ≠ .ok outcome := by
  let status : FileStatus := ⟨.file, 1, none, some ⟨9000000000000000, 0⟩, none⟩
  let script : Script := ⟨[.ok true], [], [], [], [], [], [], [], [], [.ok status]⟩
  have hplace : (⟨⟨["work".toList]⟩⟩ : Sandbox).resolve "a".toList
      = .ok ⟨["work".toList, "a".toList]⟩ := by decide
  have hreport : infoReport? "a".toList status = none := by
    rw [Option.eq_none_iff_forall_ne_some]
    intro message hmessage
    have htimes := (infoReport?_isSome_iff _ _).1 (Option.isSome_of_eq_some hmessage)
    exact absurd (htimes ⟨9000000000000000, 0⟩ List.mem_cons_self).2 (by decide)
  refine ⟨_, _, status, script, hplace, fun t ht => ?_, rfl, rfl, fun outcome h => ?_⟩
  · obtain rfl : t = ⟨9000000000000000, 0⟩ := by simpa [FileStatus.times, status] using ht
    decide
  · rw [result_info hplace rfl rfl, hreport] at h
    cases h

end Info

end Execution

end FileClerk
