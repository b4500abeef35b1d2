import ControlGraph.CalendarDays
import ControlGraph.CanonicalCodec

/-!
# Timestamps of whole seconds

Both codecs read a timestamp by one pattern of fixed width. The services accept
a text in normal form that matches the pattern and whose fields are on the
calendar, from the year one on.
-/

namespace ControlGraph.UtcTimestamps

open CalendarDays CanonicalCodec Checks JsonValues JsonText Utf8Text

/-- Decimal digits of a number, in a fixed width. -/
def fixedDigits : Nat → Nat → Text
  | 0,_ => []
  | width+1,value => fixedDigits width (value/10)++[code '0'+value%10]

/-- Text `YYYY-MM-DDTHH:MM:SSZ` of a date and time. -/
def utcSecondText (time : CalendarSecond) : Text :=
  fixedDigits 4 time.date.year.toNat++[code '-']++fixedDigits 2 time.date.month++[code '-']++
    fixedDigits 2 time.date.day++[code 'T']++fixedDigits 2 time.hour++[code ':']++
    fixedDigits 2 time.minute++[code ':']++fixedDigits 2 time.second++[code 'Z']

/-- Fields of a text of the pattern of timestamps. -/
def matchUtcSecond (text : Text) : Option CalendarSecond :=
  match text with
  | [y₁,y₂,y₃,y₄,s₁,o₁,o₂,s₂,d₁,d₂,s₃,h₁,h₂,s₄,m₁,m₂,s₅,c₁,c₂,s₆] =>
    if [y₁,y₂,y₃,y₄,o₁,o₂,d₁,d₂,h₁,h₂,m₁,m₂,c₁,c₂].all isDigit=true ∧
        [s₁,s₂,s₃,s₄,s₅,s₆]=[code '-',code '-',code 'T',code ':',code ':',code 'Z'] then
      some ⟨⟨decimalValue [y₁,y₂,y₃,y₄],decimalValue [o₁,o₂],decimalValue [d₁,d₂]⟩,
        decimalValue [h₁,h₂],decimalValue [m₁,m₂],decimalValue [c₁,c₂]⟩
    else none
  | _ => none

/-- Whether every field fits the width that the pattern gives it. -/
def Fits (time : CalendarSecond) : Prop :=
  0 ≤ time.date.year ∧ time.date.year<10000 ∧ time.date.month<100 ∧ time.date.day<100 ∧
    time.hour<100 ∧ time.minute<100 ∧ time.second<100

/-- The text of a date and time as a list of characters. -/
theorem utcSecondText_eq (time : CalendarSecond) : utcSecondText time=
    [48+time.date.year.toNat/10/10/10%10,48+time.date.year.toNat/10/10%10,
      48+time.date.year.toNat/10%10,48+time.date.year.toNat%10,code '-',
      48+time.date.month/10%10,48+time.date.month%10,code '-',48+time.date.day/10%10,
      48+time.date.day%10,code 'T',48+time.hour/10%10,48+time.hour%10,code ':',
      48+time.minute/10%10,48+time.minute%10,code ':',48+time.second/10%10,48+time.second%10,
      code 'Z'] := rfl

theorem matchUtcSecond_eq_some {text : Text} {time : CalendarSecond} :
    matchUtcSecond text=some time ↔ text=utcSecondText time ∧ Fits time := by
  have hcode : code '0'=48 ∧ code '9'=57 := by decide
  constructor
  · intro h
    unfold matchUtcSecond at h
    split at h
    · rename_i y₁ y₂ y₃ y₄ s₁ o₁ o₂ s₂ d₁ d₂ s₃ h₁ h₂ s₄ m₁ m₂ s₅ c₁ c₂ s₆
      split_ifs at h with hshape
      obtain ⟨hdigits,hmarks⟩ := hshape
      obtain ⟨rfl,rfl,rfl,rfl,rfl,rfl⟩ : s₁=code '-' ∧ s₂=code '-' ∧ s₃=code 'T' ∧ s₄=code ':' ∧
          s₅=code ':' ∧ s₆=code 'Z' := by
        simpa only [List.cons.injEq,and_true] using hmarks
      rw [Option.some.injEq] at h
      subst h
      simp only [List.all_cons,List.all_nil,isDigit,Bool.and_eq_true,decide_eq_true_eq,
        Bool.and_true,hcode] at hdigits
      rw [utcSecondText_eq]
      simp only [Fits,decimalValue,List.foldl_cons,List.foldl_nil,Int.toNat_natCast,
        List.cons.injEq,true_and,and_true,hcode]
      omega
    · cases h
  · rintro ⟨rfl,hfits⟩
    unfold Fits at hfits
    rw [utcSecondText_eq,matchUtcSecond,if_pos]
    · obtain ⟨⟨year,month,day⟩,hour,minute,second⟩ := time
      simp only [decimalValue,List.foldl_cons,List.foldl_nil,hcode,Option.some.injEq,
        CalendarSecond.mk.injEq,CalendarDate.mk.injEq] at hfits ⊢
      omega
    · simp only [List.all_cons,List.all_nil,isDigit,Bool.and_eq_true,decide_eq_true_eq,hcode,
        and_true]
      omega

/-- The characters of a timestamp are digits, hyphens, colons and the two letters. -/
theorem mem_utcSecondText {time : CalendarSecond} {character : Nat}
    (h : character∈utcSecondText time) : 48 ≤ character ∧ character<91 ∨ character=45 := by
  have hcode : code '-'=45 ∧ code 'T'=84 ∧ code ':'=58 ∧ code 'Z'=90 := by decide
  rw [utcSecondText_eq] at h
  simp only [List.mem_cons,List.not_mem_nil,or_false,hcode] at h
  omega

section

variable (nfc : Text → Text)

/-- Require one exact UTC timestamp of whole seconds. -/
def validateUtcSecond (value : Text) : Except String Unit := do
  validateNfcText nfc value
  let time ← requireSome (matchUtcSecond value) "timestamp must use YYYY-MM-DDTHH:MM:SSZ"
  require (1 ≤ time.date.year ∧ time.onCalendar=true) "timestamp is not a valid UTC calendar second"

/-- Validation of a field of the timestamp type, which bounds the length first. -/
def validateUtcSecondField (value : Text) : Except String Unit := do
  require (20 ≤ value.length) "String should have at least 20 characters"
  require (value.length ≤ 20) "String should have at most 20 characters"
  validateUtcSecond nfc value

end

/-- The services accept the texts of the seconds of the calendar from the year one on. -/
theorem validateUtcSecondField_eq_ok {nfc : Text → Text}
    (hascii : ∀ text : Text,(∀ character∈text,character<128) → nfc text=text) {value : Text} :
    validateUtcSecondField nfc value=.ok () ↔ ∃ time,matchUtcSecond value=some time ∧
      1 ≤ time.date.year ∧ time.onCalendar=true := by
  simp only [validateUtcSecondField,validateUtcSecond,validateNfcText,check_bind_eq_ok,
    require_eq_ok]
  rw [bind_eq_ok]
  simp only [requireSome_eq_ok,require_eq_ok]
  constructor
  · rintro ⟨-,-,-,htime⟩
    exact htime
  · rintro ⟨time,hmatch,hyear,htime⟩
    obtain ⟨rfl,-⟩ := matchUtcSecond_eq_some.mp hmatch
    have hlength : (utcSecondText time).length=20 := by
      rw [utcSecondText_eq]
      rfl
    have hlow : ∀ character∈utcSecondText time,character<128 := by
      intro character hmem
      have hbounds := mem_utcSecondText hmem
      omega
    have hscalar : ∀ character∈utcSecondText time,character.isValidChar :=
      fun character hmem => .inl (Nat.lt_trans (hlow character hmem) (by decide))
    have hencoded : (encodeUtf8 (utcSecondText time)).isSome=true := by
      rw [encodeUtf8,if_pos hscalar,Option.isSome_some]
    exact ⟨by omega,by omega,⟨hencoded,hascii _ hlow⟩,time,hmatch,hyear,htime⟩

end ControlGraph.UtcTimestamps
