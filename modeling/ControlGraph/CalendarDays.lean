import Mathlib.Data.Int.Order.Basic

/-!
# Days of the Gregorian calendar

Days are numbered from the first day of 1970, in both directions. The year of
a day is estimated by the mean length of a year and corrected by one where the
estimate is off; the month follows from the day within the year. A day number
and a calendar date determine each other, and so do a count of seconds and a
date with a time of day.
-/

namespace ControlGraph.CalendarDays

def isLeapYear (year : Int) : Bool := year%4==0 && (year%100!= 0 || year%400==0)

/-- Number of the first day of a year. -/
def daysBeforeYear (year : Int) : Int :=
  365*(year-1970)+(year-1969)/4-(year-1901)/100+(year-1601)/400

/-- The days of a year are the 365 common ones and the leap day. -/
theorem daysBeforeYear_succ (year : Int) :
    daysBeforeYear (year+1)=daysBeforeYear year+365+(isLeapYear year).toNat := by
  unfold daysBeforeYear isLeapYear
  by_cases hfour : year%4=0
  · by_cases hhundred : year%100=0
    · by_cases hcycle : year%400=0
      · simp only [hfour,hhundred,hcycle,bne_self_eq_false,beq_self_eq_true,Bool.or_true,
          Bool.and_self,Bool.toNat_true]
        omega
      · simp only [hfour,hhundred,bne_self_eq_false,beq_self_eq_true,Bool.false_or,Bool.true_and,
          beq_eq_false_iff_ne.mpr hcycle,Bool.toNat_false]
        omega
    · simp only [hfour,beq_self_eq_true,Bool.true_and,bne_iff_ne.mpr hhundred,Bool.true_or,
        Bool.toNat_true]
      omega
  · simp only [beq_eq_false_iff_ne.mpr hfour,Bool.false_and,Bool.toNat_false]
    omega

/-- Later years start later, by at least 365 days a year. -/
theorem daysBeforeYear_add_le {first second : Int} (h : first ≤ second) :
    daysBeforeYear first+365*(second-first) ≤ daysBeforeYear second := by
  unfold daysBeforeYear
  omega

def yearOfDay (day : Int) : Int :=
  let year := 1970+day*400/146097
  if day<daysBeforeYear year then year-1
  else if daysBeforeYear (year+1) ≤ day then year+1
  else year

/-- A day falls between the first day of its year and the next one. -/
theorem yearOfDay_bounds (day : Int) :
    daysBeforeYear (yearOfDay day) ≤ day ∧ day<daysBeforeYear (yearOfDay day+1) := by
  unfold yearOfDay
  simp only
  split_ifs with hbefore hafter
  · have hnext : 1970+day*400/146097-1+1=1970+day*400/146097 := by omega
    rw [hnext]
    refine ⟨?_,hbefore⟩
    unfold daysBeforeYear
    omega
  · refine ⟨hafter,?_⟩
    unfold daysBeforeYear
    omega
  · exact ⟨by omega,by omega⟩

theorem yearOfDay_eq {day year : Int} (hstart : daysBeforeYear year ≤ day)
    (hend : day<daysBeforeYear (year+1)) : yearOfDay day=year := by
  obtain ⟨hfirst,hlast⟩ := yearOfDay_bounds day
  rcases lt_trichotomy (yearOfDay day) year with hlt | heq | hgt
  · have hle := daysBeforeYear_add_le (show yearOfDay day+1 ≤ year by omega)
    omega
  · exact heq
  · have hle := daysBeforeYear_add_le (show year+1 ≤ yearOfDay day by omega)
    omega

def daysBeforeMonth (leap : Bool) : Nat → Nat
  | 1 => 0
  | 2 => 31
  | 3 => 59+leap.toNat
  | 4 => 90+leap.toNat
  | 5 => 120+leap.toNat
  | 6 => 151+leap.toNat
  | 7 => 181+leap.toNat
  | 8 => 212+leap.toNat
  | 9 => 243+leap.toNat
  | 10 => 273+leap.toNat
  | 11 => 304+leap.toNat
  | 12 => 334+leap.toNat
  | _ => 365+leap.toNat

def monthOfYearDay (leap : Bool) (yearDay : Nat) : Nat :=
  1+((List.range 11).filter (fun month => daysBeforeMonth leap (month+2) ≤ yearDay)).length

/-- The day of a year falls between the first day of its month and the next one. -/
theorem monthOfYearDay_bounds : ∀ (leap : Bool),∀ yearDay<365+leap.toNat,
    1 ≤ monthOfYearDay leap yearDay ∧ monthOfYearDay leap yearDay ≤ 12 ∧
      daysBeforeMonth leap (monthOfYearDay leap yearDay) ≤ yearDay ∧
        yearDay<daysBeforeMonth leap (monthOfYearDay leap yearDay+1) := by
  decide +kernel

theorem daysBeforeMonth_le {leap : Bool} {first second : Nat} (hpos : 1 ≤ first)
    (h : first ≤ second) : daysBeforeMonth leap first ≤ daysBeforeMonth leap second := by
  have hlast : ∀ month,12 < month → daysBeforeMonth leap month=365+leap.toNat := by
    intro month hmonth
    unfold daysBeforeMonth
    split <;> omega
  by_cases hsecond : second ≤ 12
  · have htable : ∀ (leap : Bool),∀ second<13,∀ first<second+1,1 ≤ first →
        daysBeforeMonth leap first ≤ daysBeforeMonth leap second := by
      decide
    exact htable leap second (by omega) first (by omega) hpos
  · rw [hlast second (by omega)]
    by_cases hfirst : first ≤ 12
    · have htable : ∀ (leap : Bool),∀ first<13,1 ≤ first →
          daysBeforeMonth leap first ≤ 365+leap.toNat := by
        decide
      exact htable leap first (by omega) hpos
    · exact Nat.le_of_eq (hlast first (by omega))

theorem monthOfYearDay_eq {leap : Bool} {yearDay month : Nat} (hpos : 1 ≤ month)
    (hle : month ≤ 12) (hstart : daysBeforeMonth leap month ≤ yearDay)
    (hend : yearDay<daysBeforeMonth leap (month+1)) : monthOfYearDay leap yearDay=month := by
  have hyear : daysBeforeMonth leap (month+1) ≤ daysBeforeMonth leap 13 :=
    daysBeforeMonth_le (by omega) (by omega)
  obtain ⟨hfirst,-,hbefore,hafter⟩ := monthOfYearDay_bounds leap yearDay
    (Nat.lt_of_lt_of_le hend hyear)
  rcases Nat.lt_trichotomy (monthOfYearDay leap yearDay) month with hlt | heq | hgt
  · have hmono := @daysBeforeMonth_le leap _ _ (by omega)
      (show monthOfYearDay leap yearDay+1 ≤ month by omega)
    omega
  · exact heq
  · have hmono := @daysBeforeMonth_le leap _ _ (by omega)
      (show month+1 ≤ monthOfYearDay leap yearDay by omega)
    omega

/-- A date of the calendar. -/
structure CalendarDate where
  year : Int
  month : Nat
  day : Nat
  deriving DecidableEq,Repr

def daysInMonth (leap : Bool) (month : Nat) : Nat :=
  daysBeforeMonth leap (month+1)-daysBeforeMonth leap month

def CalendarDate.onCalendar (date : CalendarDate) : Bool :=
  1 ≤ date.month && date.month ≤ 12 && 1 ≤ date.day &&
    date.day ≤ daysInMonth (isLeapYear date.year) date.month

/-- Number of a date's day. -/
def CalendarDate.number (date : CalendarDate) : Int :=
  daysBeforeYear date.year+daysBeforeMonth (isLeapYear date.year) date.month+date.day-1

def dateOfDay (number : Int) : CalendarDate :=
  let year := yearOfDay number
  let yearDay := (number-daysBeforeYear year).toNat
  let month := monthOfYearDay (isLeapYear year) yearDay
  ⟨year,month,yearDay-daysBeforeMonth (isLeapYear year) month+1⟩

theorem yearDay_lt (number : Int) :
    (number-daysBeforeYear (yearOfDay number)).toNat<365+(isLeapYear (yearOfDay number)).toNat := by
  obtain ⟨hstart,hend⟩ := yearOfDay_bounds number
  rw [daysBeforeYear_succ] at hend
  omega

theorem dateOfDay_onCalendar (number : Int) : (dateOfDay number).onCalendar=true := by
  obtain ⟨hone,htwelve,hstart,hend⟩ := monthOfYearDay_bounds _ _ (yearDay_lt number)
  simp only [CalendarDate.onCalendar,Bool.and_eq_true,decide_eq_true_eq]
  simp only [dateOfDay,daysInMonth]
  omega

theorem number_dateOfDay (number : Int) : (dateOfDay number).number=number := by
  obtain ⟨hyear,-⟩ := yearOfDay_bounds number
  obtain ⟨-,-,hstart,-⟩ := monthOfYearDay_bounds _ _ (yearDay_lt number)
  simp only [dateOfDay,CalendarDate.number]
  omega

theorem dateOfDay_number {date : CalendarDate} (h : date.onCalendar=true) :
    dateOfDay date.number=date := by
  simp only [CalendarDate.onCalendar,Bool.and_eq_true,decide_eq_true_eq] at h
  unfold daysInMonth at h
  obtain ⟨⟨⟨hone,htwelve⟩,hday⟩,hlast⟩ := h
  have hbound := @daysBeforeMonth_le (isLeapYear date.year) (date.month+1) 13 (by omega) (by omega)
  have hthirteen : daysBeforeMonth (isLeapYear date.year) 13=365+(isLeapYear date.year).toNat := rfl
  have hsucc := daysBeforeYear_succ date.year
  have hyear : yearOfDay date.number=date.year := by
    apply yearOfDay_eq <;> unfold CalendarDate.number <;> omega
  have hyearDay : (date.number-daysBeforeYear date.year).toNat=
      daysBeforeMonth (isLeapYear date.year) date.month+date.day-1 := by
    unfold CalendarDate.number
    omega
  have hmonth : monthOfYearDay (isLeapYear date.year)
      (daysBeforeMonth (isLeapYear date.year) date.month+date.day-1)=date.month :=
    monthOfYearDay_eq hone htwelve (by omega) (by omega)
  simp only [dateOfDay,hyear,hyearDay,hmonth]
  have hsame : daysBeforeMonth (isLeapYear date.year) date.month+date.day-1-
      daysBeforeMonth (isLeapYear date.year) date.month+1=date.day := by omega
  rw [hsame]

example : dateOfDay (-719162)=⟨1,1,1⟩ := by decide

/-- A date with a time of day. -/
structure CalendarSecond where
  date : CalendarDate
  hour : Nat
  minute : Nat
  second : Nat
  deriving DecidableEq,Repr

/-- Whether the date is on the calendar and the time is one of its day. -/
def CalendarSecond.onCalendar (time : CalendarSecond) : Bool :=
  time.date.onCalendar && decide (time.hour<24 ∧ time.minute<60 ∧ time.second<60)

/-- Seconds since the start of 1970. -/
def CalendarSecond.number (time : CalendarSecond) : Int :=
  86400*time.date.number+3600*time.hour+60*time.minute+time.second

/-- Date and time of a count of seconds. -/
def timeOfSecond (number : Int) : CalendarSecond :=
  let dayTime := (number%86400).toNat
  ⟨dateOfDay (number/86400),dayTime/3600,dayTime/60%60,dayTime%60⟩

/-- Every count of seconds has a date and time on the calendar. -/
theorem timeOfSecond_onCalendar (number : Int) : (timeOfSecond number).onCalendar=true := by
  have hdate := dateOfDay_onCalendar (number/86400)
  rw [CalendarSecond.onCalendar,Bool.and_eq_true,decide_eq_true_eq]
  refine ⟨hdate,?_⟩
  simp only [timeOfSecond]
  omega

/-- A date and time on the calendar belongs to its count of seconds. -/
theorem timeOfSecond_number {time : CalendarSecond} (h : time.onCalendar=true) :
    timeOfSecond time.number=time := by
  rw [CalendarSecond.onCalendar,Bool.and_eq_true,decide_eq_true_eq] at h
  obtain ⟨hdate,hhour,hminute,hsecond⟩ := h
  have hday : time.number/86400=time.date.number := by
    unfold CalendarSecond.number
    omega
  have htime : (time.number%86400).toNat=3600*time.hour+60*time.minute+time.second := by
    unfold CalendarSecond.number
    omega
  have hhours : (3600*time.hour+60*time.minute+time.second)/3600=time.hour := by omega
  have hminutes : (3600*time.hour+60*time.minute+time.second)/60%60=time.minute := by omega
  have hseconds : (3600*time.hour+60*time.minute+time.second)%60=time.second := by omega
  simp only [timeOfSecond,hday,htime,dateOfDay_number hdate,hhours,hminutes,hseconds]

end ControlGraph.CalendarDays
