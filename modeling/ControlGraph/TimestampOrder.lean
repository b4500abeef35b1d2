import ControlGraph.TimestampTexts

/-!
# Timestamps are ordered as their texts

The source compares timestamps as texts. The numbers of a text have fixed widths, so
two texts are compared at the first number in which they differ, and digits of one
width are ordered as their numbers. Years, months and days follow the order of the days.
So a later second has a greater text, and counting seconds models the comparison.
-/

namespace ControlGraph.TimestampOrder

open ContractText JsonText JsonValues MonitoringContracts TimestampTexts

/-- Texts with beginnings of one length are compared at the beginnings first. -/
theorem append_lt_append {first second rest tail : Text} (hlength : first.length=second.length)
    (h : first<second ∨ first=second ∧ rest<tail) : first++rest<second++tail := by
  induction first generalizing second with
  | nil =>
    rw [List.eq_nil_of_length_eq_zero hlength.symm] at h ⊢
    exact h.elim (fun hlt => absurd hlt (List.not_lt_nil _)) fun hsame => hsame.2
  | cons character first ih =>
    cases second with
    | nil => cases hlength
    | cons other second =>
      have hlengths : first.length=second.length := Nat.succ.inj hlength
      rw [List.cons_append,List.cons_append,List.cons_lt_cons_iff]
      rcases h with hlt | ⟨hsame,hrest⟩
      · rcases List.cons_lt_cons_iff.mp hlt with hcharacter | ⟨hcharacter,hlt⟩
        · exact .inl hcharacter
        · exact .inr ⟨hcharacter,ih hlengths (.inl hlt)⟩
      · obtain ⟨hcharacter,hfirst⟩ := List.cons.inj hsame
        exact .inr ⟨hcharacter,ih hlengths (.inr ⟨hfirst,hrest⟩)⟩

/-- The first digit counts for the width of the others. -/
theorem decimalValue_cons (digit : Nat) (digits : Text) :
    decimalValue (digit::digits)=(digit-code '0')*10^digits.length+decimalValue digits := by
  have hfold : ∀ (digits : Text) (start : Nat),
      digits.foldl (fun value digit => 10*value+(digit-code '0')) start=
        start*10^digits.length+decimalValue digits := by
    intro digits
    induction digits with
    | nil =>
      intro start
      rw [List.foldl_nil,List.length_nil,pow_zero,mul_one]
      rfl
    | cons other digits ih =>
      intro start
      rw [decimalValue,List.foldl_cons,List.foldl_cons,ih,ih,List.length_cons,pow_succ]
      ring
  rw [decimalValue,List.foldl_cons,hfold,mul_zero,zero_add]

/-- Digits stay below the power of their width. -/
theorem decimalValue_lt {digits : Text} (h : ∀ digit∈digits,isDigit digit=true) :
    decimalValue digits<10^digits.length := by
  induction digits with
  | nil => exact Nat.one_pos
  | cons digit digits ih =>
    have hrest := ih fun other hother => h other (List.mem_cons_of_mem _ hother)
    have hdigit := h digit List.mem_cons_self
    rw [isDigit,Bool.and_eq_true,decide_eq_true_eq,decide_eq_true_eq] at hdigit
    have hnine : digit-code '0' ≤ 9 := by
      have hcode : code '9'=code '0'+9 := rfl
      omega
    have hscaled := Nat.mul_le_mul_right (10^digits.length) hnine
    rw [decimalValue_cons,List.length_cons,pow_succ]
    omega

/-- Digits of one width are ordered as their values. -/
theorem lt_of_decimalValue {first second : Text} (hlength : first.length=second.length)
    (hfirst : ∀ digit∈first,isDigit digit=true) (hsecond : ∀ digit∈second,isDigit digit=true)
    (h : decimalValue first<decimalValue second) : first<second := by
  induction first generalizing second with
  | nil =>
    rw [List.eq_nil_of_length_eq_zero hlength.symm] at h
    exact absurd h (lt_irrefl _)
  | cons digit first ih =>
    cases second with
    | nil => cases hlength
    | cons other second =>
      have hlengths : first.length=second.length := Nat.succ.inj hlength
      have hrest := decimalValue_lt fun one hone => hfirst one (List.mem_cons_of_mem _ hone)
      have hotherRest := decimalValue_lt fun one hone => hsecond one (List.mem_cons_of_mem _ hone)
      have hdigit := hfirst digit List.mem_cons_self
      have hother := hsecond other List.mem_cons_self
      rw [isDigit,Bool.and_eq_true,decide_eq_true_eq,decide_eq_true_eq] at hdigit hother
      rw [decimalValue_cons,decimalValue_cons,hlengths] at h
      rw [hlengths] at hrest
      rw [List.cons_lt_cons_iff]
      rcases lt_trichotomy digit other with hlt | rfl | hgt
      · exact .inl hlt
      · refine .inr ⟨rfl,ih hlengths (fun one hone => hfirst one (List.mem_cons_of_mem _ hone))
          (fun one hone => hsecond one (List.mem_cons_of_mem _ hone)) (by omega)⟩
      · have hstep : other-code '0'+1 ≤ digit-code '0' := by omega
        have hscaled := Nat.mul_le_mul_right (10^second.length) hstep
        rw [Nat.add_mul,one_mul] at hscaled
        omega

/-- A number that fits its width takes exactly the width. -/
theorem length_padded {width value : Nat} (hwidth : 0 < width) (h : value < 10^width) :
    (padded width value).length=width := by
  have hdigits : (decimal value).length ≤ width := by
    unfold decimal
    split_ifs with hzero
    · exact hwidth
    · rw [List.length_map,List.length_reverse]
      exact (Nat.digits_length_le_iff (by decide) value).mpr h
  rw [padded,List.length_append,List.length_replicate]
  omega

/-- Padded numbers before a mark are compared by their values first. -/
theorem padded_append_lt {width first second mark : Nat} {rest tail : Text} (hwidth : 0 < width)
    (hfirst : first < 10^width) (hsecond : second < 10^width)
    (h : first<second ∨ first=second ∧ rest<tail) :
    padded width first++mark::rest<padded width second++mark::tail := by
  have hlength := (length_padded hwidth hfirst).trans (length_padded hwidth hsecond).symm
  refine append_lt_append hlength ?_
  rcases h with hlt | ⟨rfl,hrest⟩
  · refine .inl (lt_of_decimalValue hlength isDigit_padded isDigit_padded ?_)
    rwa [decimalValue_padded,decimalValue_padded]
  · exact .inr ⟨rfl,List.cons_lt_cons_iff.mpr (.inr ⟨rfl,hrest⟩)⟩

/-- Year, month and day are ordered as the days. -/
theorem civilDate_lt {first second : Int} (h : first<second) :
    (civilDate first).1<(civilDate second).1 ∨ (civilDate first).1=(civilDate second).1 ∧
      ((civilDate first).2.1<(civilDate second).2.1 ∨
        (civilDate first).2.1=(civilDate second).2.1 ∧
          (civilDate first).2.2<(civilDate second).2.2) := by
  obtain ⟨era,hera⟩ : ∃ era,era=(first+719468)/146097 := ⟨_,rfl⟩
  obtain ⟨otherEra,hotherEra⟩ : ∃ era,era=(second+719468)/146097 := ⟨_,rfl⟩
  obtain ⟨day,hday⟩ : ∃ day,day=(first+719468-era*146097).toNat := ⟨_,rfl⟩
  obtain ⟨otherDay,hotherDay⟩ : ∃ day,day=(second+719468-otherEra*146097).toNat := ⟨_,rfl⟩
  have hdays : day < 146097 ∧ otherDay < 146097 ∧ (era < otherEra ∨ era=otherEra ∧ day < otherDay) :=
    by omega
  obtain ⟨year,hyear⟩ : ∃ year,year=(day-day/1460+day/36524-day/146096)/365 := ⟨_,rfl⟩
  obtain ⟨otherYear,hotherYear⟩ : ∃ year,
      year=(otherDay-otherDay/1460+otherDay/36524-otherDay/146096)/365 := ⟨_,rfl⟩
  have hbounds := yearOfEra_bounds hdays.1 hyear
  have hotherBounds := yearOfEra_bounds hdays.2.1 hotherYear
  obtain ⟨yearDay,hyearDay⟩ : ∃ yearDay,yearDay=day-(365*year+year/4-year/100) := ⟨_,rfl⟩
  obtain ⟨otherYearDay,hotherYearDay⟩ : ∃ yearDay,
      yearDay=otherDay-(365*otherYear+otherYear/4-otherYear/100) := ⟨_,rfl⟩
  -- A year starts at least 365 days after the year before it, so the order of the years is
  -- that of the days.
  have hyears : era < otherEra ∨ era=otherEra ∧
      (year < otherYear ∨ year=otherYear ∧ yearDay < otherYearDay) := by
    rcases hdays.2.2 with hlt | ⟨hsame,hlt⟩
    · exact .inl hlt
    · refine .inr ⟨hsame,?_⟩
      rcases lt_trichotomy year otherYear with hlt | rfl | hgt
      · exact .inl hlt
      · exact .inr ⟨rfl,by omega⟩
      · exfalso
        have hstart : 365*otherYear+otherYear/4-otherYear/100+365 ≤ 365*year+year/4-year/100 := by
          omega
        omega
  have hsmall : year < 400 ∧ otherYear < 400 ∧ yearDay ≤ 365 ∧ otherYearDay ≤ 365 := by omega
  unfold civilDate
  simp only [← hera,← hotherEra,← hday,← hotherDay,← hyear,← hotherYear,← hyearDay,
    ← hotherYearDay]
  clear hbounds hotherBounds hyearDay hotherYearDay hdays hday hotherDay hyear hotherYear hera
    hotherEra
  split_ifs <;> omega

/-- Years up to the year 9999, months and days fit their widths. -/
theorem civilDate_width {days : Int} (hlow : -719162 ≤ days) (hhigh : days ≤ 2932896) :
    0 ≤ (civilDate days).1 ∧ (civilDate days).1 ≤ 9999 ∧ (civilDate days).2.1 < 100 ∧
      (civilDate days).2.2 < 100 := by
  have hlast : (civilDate 2932896).1=9999 := by decide
  have hyear : (civilDate days).1 ≤ 9999 := by
    rcases lt_or_eq_of_le hhigh with hlt | rfl
    · have hdates := civilDate_lt hlt
      omega
    · omega
  refine ⟨civilDate_year hlow,hyear,?_⟩
  unfold civilDate
  simp only
  split_ifs <;> omega

/-- A timestamp is before another one exactly when its text is before the other's. -/
theorem utcText_lt_iff (first second : UtcSecond) :
    utcText first<utcText second ↔ first.1<second.1 := by
  have hmono : ∀ {first second : UtcSecond},first.1<second.1 → utcText first<utcText second := by
    rintro ⟨first,hfirst⟩ ⟨second,hsecond⟩ hlt
    have hwidth := civilDate_width (show -719162 ≤ first/86400 by omega) (by omega)
    have hotherWidth := civilDate_width (show -719162 ≤ second/86400 by omega) (by omega)
    have hlt : first<second := hlt
    have hdates : first/86400=second/86400 ∧ civilDate (first/86400)=civilDate (second/86400) ∨
        _ := or_iff_not_imp_left.mpr fun hne => civilDate_lt (show first/86400<second/86400 by
          rcases lt_or_eq_of_le (show first/86400 ≤ second/86400 by omega) with hday | hday
          · exact hday
          · exact absurd ⟨hday,congrArg civilDate hday⟩ hne)
    simp only [utcText,List.append_assoc,List.singleton_append]
    rcases hdate : civilDate (first/86400) with ⟨year,month,day⟩
    rcases hotherDate : civilDate (second/86400) with ⟨otherYear,otherMonth,otherDay⟩
    rw [hdate] at hwidth hdates
    rw [hotherDate] at hotherWidth hdates
    simp only at hwidth hotherWidth hdates ⊢
    refine padded_append_lt (by decide) (by omega) (by omega) ?_
    rcases hdates with ⟨hday,hsame⟩ | hyear | ⟨rfl,hsame⟩
    · cases hsame
      have htime : (first%86400).toNat < (second%86400).toNat ∧ (second%86400).toNat < 86400 := by
        omega
      refine .inr ⟨rfl,padded_append_lt (by decide) (by omega) (by omega) (.inr ⟨rfl,
        padded_append_lt (by decide) (by omega) (by omega) (.inr ⟨rfl,?_⟩)⟩)⟩
      refine padded_append_lt (by decide) (by omega) (by omega) ?_
      by_cases hhour : (first%86400).toNat/3600=(second%86400).toNat/3600
      · refine .inr ⟨hhour,padded_append_lt (by decide) (by omega) (by omega) ?_⟩
        by_cases hminute : (first%86400).toNat/60%60=(second%86400).toNat/60%60
        · exact .inr ⟨hminute,padded_append_lt (by decide) (by omega) (by omega) (.inl (by omega))⟩
        · exact .inl (by omega)
      · exact .inl (by omega)
    · exact .inl (by omega)
    · refine .inr ⟨rfl,padded_append_lt (by decide) (by omega) (by omega) ?_⟩
      exact hsame.imp_right fun hsame => ⟨hsame.1,
        padded_append_lt (by decide) (by omega) (by omega) (.inl hsame.2)⟩
  constructor
  · intro h
    rcases lt_trichotomy first.1 second.1 with hlt | heq | hgt
    · exact hlt
    · exact absurd h (by rw [Subtype.ext heq]; exact lt_irrefl _)
    · exact absurd h (lt_asymm (hmono hgt))
  · exact hmono

end ControlGraph.TimestampOrder
