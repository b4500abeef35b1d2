import ControlGraph.MonitoringIngestion

/-!
# Timestamps by their text

The text of a timestamp has six numbers in decimal digits, each ended by a mark
that is no digit. The marks give the numbers back, whatever their width; the
year, the month and the day give the day number back, and the hours, minutes and
seconds the second of the day. Two timestamps with one text are the same.
-/

namespace ControlGraph.TimestampTexts

open ContractText JsonText JsonValues MonitoringContracts

/-- Leading zeros do not change the value of digits. -/
theorem decimalValue_padded (width value : Nat) : decimalValue (padded width value)=value := by
  have hzeros : ∀ count (digits : Text),
      decimalValue (List.replicate count (code '0')++digits)=decimalValue digits := by
    intro count digits
    induction count with
    | zero => rfl
    | succ count ih => rw [← ih,List.replicate_succ]; rfl
  rw [padded,hzeros,decimalValue_decimal]

theorem isDigit_padded {width value : Nat} : ∀ digit∈padded width value,isDigit digit=true := by
  intro digit hmem
  rw [padded,List.mem_append] at hmem
  rcases hmem with hmem | hmem
  · rw [List.eq_of_mem_replicate hmem]
    rfl
  · obtain ⟨first,rest,hdecimal,hdigits,-⟩ := decimal_cons value
    rw [hdecimal] at hmem
    exact hdigits digit hmem

/-- A number is determined by its digits and the mark that ends them. -/
theorem padded_append_injective {width first second mark : Nat} {rest tail : Text}
    (hmark : isDigit mark=false)
    (h : padded width first++mark::rest=padded width second++mark::tail) :
    first=second ∧ rest=tail := by
  have hspan : ∀ value (after : Text),
      (padded width value++mark::after).span isDigit=(padded width value,mark::after) := by
    intro value after
    have hstop : ¬isDigit mark=true := by
      rw [hmark]
      exact Bool.false_ne_true
    rw [List.span_eq_takeWhile_dropWhile,List.takeWhile_append_of_pos isDigit_padded,
      List.dropWhile_append_of_pos isDigit_padded,List.takeWhile_cons_of_neg hstop,
      List.dropWhile_cons_of_neg hstop,List.append_nil]
  have hboth := congrArg (List.span isDigit) h
  rw [hspan,hspan,Prod.mk.injEq] at hboth
  have hvalue := congrArg decimalValue hboth.1
  rw [decimalValue_padded,decimalValue_padded] at hvalue
  exact ⟨hvalue,(List.cons.inj hboth.2).2⟩

/-- Number of days since 1970 of a date. -/
def daysOfDate (date : Int×Nat×Nat) : Int :=
  let year := if date.2.1 ≤ 2 then date.1-1 else date.1
  let shiftedMonth := if date.2.1 ≤ 2 then date.2.1+9 else date.2.1-3
  let yearOfEra := (year-year/400*400).toNat
  let dayOfYear := (153*shiftedMonth+2)/5+date.2.2-1
  year/400*146097+(365*yearOfEra+yearOfEra/4-yearOfEra/100+dayOfYear : Nat)-719468

/-- The year within a cycle of four hundred years starts on or before the day, at most
365 days earlier. Each century of the cycle is a case of its own. -/
theorem yearOfEra_bounds {dayOfEra yearOfEra : Nat} (hday : dayOfEra < 146097)
    (hyear : yearOfEra=(dayOfEra-dayOfEra/1460+dayOfEra/36524-dayOfEra/146096)/365) :
    yearOfEra < 400 ∧ 365*yearOfEra+yearOfEra/4-yearOfEra/100 ≤ dayOfEra ∧
      dayOfEra ≤ 365*yearOfEra+yearOfEra/4-yearOfEra/100+365 := by
  have hleap : yearOfEra/4=(dayOfEra-dayOfEra/1460+dayOfEra/36524-dayOfEra/146096)/1460 := by
    rw [hyear,Nat.div_div_eq_div_mul]
  have hcentury : yearOfEra/100=
      (dayOfEra-dayOfEra/1460+dayOfEra/36524-dayOfEra/146096)/36500 := by
    rw [hyear,Nat.div_div_eq_div_mul]
  rw [hleap,hcentury]
  clear hleap hcentury
  generalize hdays : dayOfEra-dayOfEra/1460+dayOfEra/36524-dayOfEra/146096=days at *
  have hcases : dayOfEra/36524=0 ∨ dayOfEra/36524=1 ∨ dayOfEra/36524=2 ∨ dayOfEra/36524=3 ∨
      dayOfEra/36524=4 := by omega
  rcases hcases with h | h | h | h | h
  all_goals
    rw [h] at hdays
    have hfour : dayOfEra/1460=days/1460 ∨ dayOfEra/1460=days/1460+1 := by omega
    have hhundred : days/36500=dayOfEra/36524-dayOfEra/146096 := by omega
    rw [hhundred,h]
    omega

theorem daysOfDate_civilDate (days : Int) : daysOfDate (civilDate days)=days := by
  obtain ⟨era,hera⟩ : ∃ era,era=(days+719468)/146097 := ⟨_,rfl⟩
  obtain ⟨dayOfEra,hday⟩ : ∃ dayOfEra,dayOfEra=(days+719468-era*146097).toNat := ⟨_,rfl⟩
  have hrange : dayOfEra < 146097 ∧ (dayOfEra : Int)=days+719468-era*146097 := by omega
  obtain ⟨yearOfEra,hyear⟩ : ∃ yearOfEra,
      yearOfEra=(dayOfEra-dayOfEra/1460+dayOfEra/36524-dayOfEra/146096)/365 := ⟨_,rfl⟩
  have hbounds : yearOfEra < 400 ∧ 365*yearOfEra+yearOfEra/4-yearOfEra/100 ≤ dayOfEra ∧
      dayOfEra ≤ 365*yearOfEra+yearOfEra/4-yearOfEra/100+365 := yearOfEra_bounds hrange.1 hyear
  obtain ⟨dayOfYear,hdayOfYear⟩ : ∃ dayOfYear,
      dayOfYear=dayOfEra-(365*yearOfEra+yearOfEra/4-yearOfEra/100) := ⟨_,rfl⟩
  obtain ⟨shiftedMonth,hmonth⟩ : ∃ shiftedMonth,shiftedMonth=(5*dayOfYear+2)/153 := ⟨_,rfl⟩
  have hshifted : shiftedMonth ≤ 11 ∧ (153*shiftedMonth+2)/5 ≤ dayOfYear := by omega
  unfold daysOfDate civilDate
  simp only [← hera,← hday,← hyear,← hdayOfYear,← hmonth]
  have hquotient : ((yearOfEra : Int)+era*400)/400=era := by omega
  by_cases hearly : shiftedMonth < 10
  · have hlate : ¬shiftedMonth+3 ≤ 2 := by omega
    simp only [hearly,if_true,hlate,if_false,Nat.add_sub_cancel,hquotient,
      add_sub_cancel_right,Int.toNat_natCast]
    omega
  · have hlate : shiftedMonth-9 ≤ 2 := by omega
    have hmonths : shiftedMonth-9+9=shiftedMonth := by omega
    simp only [hearly,if_false,hlate,if_true,hmonths,hquotient,
      add_sub_cancel_right,Int.toNat_natCast]
    omega

theorem civilDate_year {days : Int} (h : -719162 ≤ days) : 0 ≤ (civilDate days).1 := by
  unfold civilDate
  simp only
  split_ifs <;> omega

theorem utcText_injective {first second : UtcSecond} (h : utcText first=utcText second) :
    first=second := by
  have hyears := And.intro (civilDate_year (show -719162 ≤ first.1/86400 by have := first.2; omega))
    (civilDate_year (show -719162 ≤ second.1/86400 by have := second.2; omega))
  simp only [utcText,List.append_assoc,List.singleton_append] at h
  obtain ⟨hyear,h⟩ := padded_append_injective rfl h
  obtain ⟨hmonth,h⟩ := padded_append_injective rfl h
  obtain ⟨hday,h⟩ := padded_append_injective rfl h
  obtain ⟨hhour,h⟩ := padded_append_injective rfl h
  obtain ⟨hminute,h⟩ := padded_append_injective rfl h
  obtain ⟨hsecond,-⟩ := padded_append_injective rfl h
  have hdate : civilDate (first.1/86400)=civilDate (second.1/86400) :=
    Prod.ext (by omega) (Prod.ext hmonth hday)
  have hdays := congrArg daysOfDate hdate
  rw [daysOfDate_civilDate,daysOfDate_civilDate] at hdays
  exact Subtype.ext (by omega)

end ControlGraph.TimestampTexts
