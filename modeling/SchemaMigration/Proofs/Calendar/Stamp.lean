import SchemaMigration.Proofs.Calendar.Gregorian
import SchemaMigration.Proofs.Number.Padded

/-!
# Stamps

A year of four digits makes a stamp of fourteen. It is the numeral of one number, which grows with
the seconds, and the moment can be read back from it.
-/

namespace SchemaMigration.Calendar

open Number

namespace Moment

variable {m n : Moment}

/-- Cuts a text into parts of the given lengths. -/
def cutParts : List Nat → List Char → List (List Char)
  | [], _ => []
  | width :: widths, cs => cs.take width :: cutParts widths (cs.drop width)

/-- The moment of fourteen digits: four for the year, and two for each smaller unit. -/
def ofStamp? (cs : List Char) : Option Moment :=
  if cs.length = 14 ∧ cs.all Char.isDigit then
    match (cutParts [4, 2, 2, 2, 2, 2] cs).map (natOfDigits 10) with
    | [year, month, day, hour, minute, second] => some { year, month, day, hour, minute, second }
    | _ => none
  else none

/-- In a year that is written with four digits. -/
def HasPlainYear (m : Moment) : Prop := 0 ≤ m.year ∧ m.year ≤ 9999

instance : DecidablePred HasPlainYear := fun m =>
  inferInstanceAs (Decidable (0 ≤ m.year ∧ m.year ≤ 9999))

/-- The number of which the stamp is the numeral. -/
def stampNumber (m : Moment) : Nat :=
  ((((m.year.toNat * 100 + m.month) * 100 + m.day) * 100 + m.hour) * 100 + m.minute) * 100 + m.second

theorem Valid.bounds (hvalid : m.Valid) : m.month < 10 ^ 2 ∧ m.day < 10 ^ 2 ∧ m.hour < 10 ^ 2 ∧
    m.minute < 10 ^ 2 ∧ m.second < 10 ^ 2 := by
  obtain ⟨-, hmonth, -, hday, hhour, hminute, hsecond⟩ := hvalid
  have hmost : monthLength m.year m.month ≤ 31 := by
    unfold monthLength
    split <;> (try split) <;> omega
  omega

theorem mem_yearText {year : Int} {c : Char} (hmem : c ∈ yearText year) :
    c.isDigit = true ∨ c = '+' ∨ c = '-' := by
  unfold yearText at hmem
  split at hmem
  · exact .inl (isDigit_of_mem_paddedDigits hmem)
  rcases List.mem_append.mp hmem with hfront | hdigit
  · rcases List.mem_cons.mp hfront with rfl | hzero
    · split
      · exact .inr (.inr rfl)
      · exact .inr (.inl rfl)
    · obtain rfl := List.eq_of_mem_replicate hzero
      exact .inl rfl
  · exact .inl (isDigit_of_mem_decimalDigits hdigit)

theorem mem_stamp {c : Char} (hmem : c ∈ m.stamp.toList) : c.isDigit = true ∨ c = '+' ∨ c = '-' := by
  unfold stamp at hmem
  simp only [String.toList_ofList, List.mem_append] at hmem
  rcases hmem with ((((hyear | hdigit) | hdigit) | hdigit) | hdigit) | hdigit
  · exact mem_yearText hyear
  all_goals exact .inl (isDigit_of_mem_paddedDigits hdigit)

theorem toList_stamp (hplain : m.HasPlainYear) : m.stamp.toList =
    paddedDigits 4 m.year.toNat ++ paddedDigits 2 m.month ++ paddedDigits 2 m.day ++
      paddedDigits 2 m.hour ++ paddedDigits 2 m.minute ++ paddedDigits 2 m.second := by
  unfold stamp yearText
  rw [if_pos (show 0 ≤ m.year ∧ m.year ≤ 9999 from hplain), String.toList_ofList]

theorem stamp_eq (hplain : m.HasPlainYear) (hvalid : m.Valid) :
    m.stamp.toList = paddedDigits 14 m.stampNumber := by
  obtain ⟨hmonth, hday, hhour, hminute, hsecond⟩ := hvalid.bounds
  rw [toList_stamp hplain, paddedDigits_append hmonth, paddedDigits_append hday, paddedDigits_append hhour,
    paddedDigits_append hminute, paddedDigits_append hsecond]
  rfl

theorem stampNumber_lt (hplain : m.HasPlainYear) (hvalid : m.Valid) : m.stampNumber < 10 ^ 14 := by
  obtain ⟨hmonth, hday, hhour, hminute, hsecond⟩ := hvalid.bounds
  have hmost := hplain.2
  unfold stampNumber
  omega

theorem cutParts_paddedDigits (width n : Nat) (widths : List Nat) (rest : List Char) :
    cutParts (width :: widths) (paddedDigits width n ++ rest) =
      paddedDigits width n :: cutParts widths rest := by
  have hlength := length_paddedDigits width n
  rw [cutParts, List.take_left' hlength, List.drop_left' hlength]

theorem ofStamp?_stamp (hplain : m.HasPlainYear) (hvalid : m.Valid) : ofStamp? m.stamp.toList = some m := by
  obtain ⟨hmonth, hday, hhour, hminute, hsecond⟩ := hvalid.bounds
  have hyear : m.year.toNat < 10 ^ 4 := by
    have hmost := hplain.2
    omega
  have hdigits : m.stamp.toList.all Char.isDigit = true := by
    rw [List.all_eq_true, stamp_eq hplain hvalid]
    exact fun c hmem => isDigit_of_mem_paddedDigits hmem
  have hlength : m.stamp.toList.length = 14 := by
    rw [stamp_eq hplain hvalid, length_paddedDigits]
  unfold ofStamp?
  rw [if_pos ⟨hlength, hdigits⟩, toList_stamp hplain, ← List.append_nil (paddedDigits 2 m.second)]
  simp only [List.append_assoc, cutParts_paddedDigits, show cutParts [] [] = [] from rfl,
    List.map_cons, List.map_nil, natOfDigits_paddedDigits, hmonth, hday, hhour, hminute, hsecond, hyear,
    Int.toNat_of_nonneg hplain.1]

theorem stampNumber_lt_of_seconds (hplain : m.HasPlainYear) (hvalid : m.Valid) (hvalid' : n.Valid)
    (hbefore : m.seconds < n.seconds) : m.stampNumber < n.stampNumber := by
  obtain ⟨hmonth, hday, hhour, hminute, hsecond⟩ := hvalid.bounds
  have hstart := hplain.1
  have hdayPos := hvalid.day_pos
  have hdayPos' := hvalid'.day_pos
  unfold stampNumber
  rcases lt_or_eq_of_le (hvalid.year_le hvalid' hbefore) with hyear | hyear
  · omega
  have hordinal := hvalid.dayOfYear_le hvalid' hbefore hyear
  rcases lt_or_eq_of_le (hvalid'.month_le_of_dayOfYear hyear hordinal) with hearlier | hsame
  · omega
  unfold Moment.seconds secondsPerDay at hbefore
  unfold dayOfYear at hbefore hordinal
  rw [hyear, hsame] at hbefore hordinal
  rw [hyear, hsame]
  rcases lt_or_eq_of_le (show m.day ≤ n.day by omega) with hsooner | hday
  · omega
  rw [hday] at hbefore ⊢
  unfold secondOfDay at hbefore
  have hminute' := hvalid'.minute_lt
  have hsecond' := hvalid'.second_lt
  rcases lt_or_eq_of_le (show m.hour ≤ n.hour by omega) with hearlier | hhour
  · omega
  · omega

end Moment

end SchemaMigration.Calendar
