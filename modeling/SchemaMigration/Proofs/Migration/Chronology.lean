import SchemaMigration.Proofs.Calendar.Stamp
import SchemaMigration.Proofs.Migration.Union

/-!
# New migrations in the order of time

The name of a new migration file tells the moment when it was made. So files that were made one
after the other come in this order when they are discovered, whatever they are called.
-/

namespace SchemaMigration

open Files Calendar

namespace Calendar

/-- At the offset the second lies in a year of four digits. -/
def InPlainYear (offset t : Int) : Prop := (momentOfSeconds (t + offset)).HasPlainYear

instance (offset t : Int) : Decidable (InPlainYear offset t) :=
  inferInstanceAs (Decidable (momentOfSeconds (t + offset)).HasPlainYear)

theorem localMoment?_of_plain {offset t : Int} (hbelow : offset.natAbs < 86400)
    (hplain : InPlainYear offset t) :
    localMoment? t offset = some (momentOfSeconds (t + offset)) := by
  obtain ⟨hleast, hmost⟩ := hplain
  have hbounds := (valid_momentOfSeconds (t + offset)).le_seconds
  have hbounds' := (valid_momentOfSeconds t).le_seconds
  rw [seconds_momentOfSeconds, daysBeforeYear_succ] at hbounds hbounds'
  have hminimal : minYear ≤ (momentOfSeconds t).year := by
    by_contra hearly
    have hapart := daysBeforeYear_mono (Int.lt_of_not_ge hearly)
    unfold daysBeforeYear at hapart hbounds hbounds'
    unfold minYear secondsPerDay at *
    omega
  have hmaximal : (momentOfSeconds t).year ≤ maxYear := by
    by_contra hlate
    have hapart := daysBeforeYear_mono (Int.lt_of_not_ge hlate)
    have hlongest := yearLength_le (momentOfSeconds (t + offset)).year
    unfold daysBeforeYear at hapart hbounds hbounds'
    unfold maxYear secondsPerDay at *
    omega
  unfold localMoment?
  exact if_pos ⟨hbelow, hminimal, hmaximal⟩

end Calendar

namespace Migration

/-- The name has the required start, then the digits of a moment, and it ends like the files of the
format. -/
structure TellsMoment (file : String) (m : Moment) (format : Format) : Prop where
  valid : isValidId file = true
  stamp : Moment.ofStamp? ((file.toList.drop idStart.length).take 14) = some m
  format : Format.ofFileName? file = some format

variable {m n : Moment}

theorem toList_fileName (name stamp : String) (format : Format) :
    (fileName name stamp format).toList =
      idStart.toList ++ (stamp.toList ++ '_' :: (name ++ "." ++ format.extension).toList) := by
  simp [fileName]

theorem tellsMoment_fileName (hplain : m.HasPlainYear) (hvalid : m.Valid) (name : String)
    (format : Format) : TellsMoment (fileName name m.stamp format) m format where
  valid := isValidId_fileName name m.stamp format
  stamp := by
    have hlength : m.stamp.toList.length = 14 := by
      rw [Moment.stamp_eq hplain hvalid, Number.length_paddedDigits]
    have hstart : idStart.toList.length = idStart.length := String.length_toList
    rw [toList_fileName, List.drop_left' hstart, List.take_left' hlength]
    exact Moment.ofStamp?_stamp hplain hvalid
  format := ofFileName?_fileName name m.stamp format

theorem fileName_lt (hplain : m.HasPlainYear) (hplain' : n.HasPlainYear) (hvalid : m.Valid)
    (hvalid' : n.Valid) (hbefore : m.seconds < n.seconds) (name name' : String)
    (format format' : Format) : fileName name m.stamp format < fileName name' n.stamp format' := by
  rw [String.lt_iff_toList_lt, toList_fileName, toList_fileName, Moment.stamp_eq hplain hvalid,
    Moment.stamp_eq hplain' hvalid']
  apply List.append_left_lt
  apply Number.paddedDigits_lt
  · exact Moment.stampNumber_lt hplain' hvalid'
  · exact Moment.stampNumber_lt_of_seconds hplain hvalid hvalid' hbefore

theorem pair_sublist {ids : List String} {a b : String} (hsorted : ids.Pairwise (· ≤ ·)) (hless : a < b)
    (ha : a ∈ ids) (hb : b ∈ ids) : [a, b].Sublist ids := by
  obtain ⟨before, after, rfl⟩ := List.append_of_mem ha
  have hlater : b ∈ after := by
    rcases List.mem_append.mp hb with hearly | hhere
    · have hleast := (List.pairwise_append.mp hsorted).2.2 b hearly a List.mem_cons_self
      exact absurd hless (not_lt_of_ge hleast)
    · rcases List.mem_cons.mp hhere with rfl | hlate
      · exact absurd hless (lt_irrefl b)
      · exact hlate
  refine List.Sublist.trans ?_ (List.sublist_append_right before (a :: after))
  exact List.Sublist.cons_cons a (List.singleton_sublist.mpr hlater)

/-- At any offset, files made one after the other in years of four digits come in this order. Each
has the required start, a known format, and digits that tell its local date and time. -/
theorem files_in_order_of_time {offset t₁ t₂ : Int} (hbelow : offset.natAbs < 86400)
    (hearlier : t₁ < t₂) (hplain₁ : InPlainYear offset t₁) (hplain₂ : InPlainYear offset t₂)
    (name₁ name₂ : String) (format₁ format₂ : Format) :
    ∃ m₁ m₂, localMoment? t₁ offset = some m₁ ∧ localMoment? t₂ offset = some m₂ ∧
      (m₁.Valid ∧ m₁.seconds = t₁ + offset) ∧ (m₂.Valid ∧ m₂.seconds = t₂ + offset) ∧
      TellsMoment (fileName name₁ m₁.stamp format₁) m₁ format₁ ∧
      TellsMoment (fileName name₂ m₂.stamp format₂) m₂ format₂ ∧
      utf8Bytes (fileName name₁ m₁.stamp format₁) < utf8Bytes (fileName name₂ m₂.stamp format₂) ∧
      ∀ (c : Catalog) (tree : FileTree) ids, c.discover tree = .ok ids →
        fileName name₁ m₁.stamp format₁ ∈ ids → fileName name₂ m₂.stamp format₂ ∈ ids →
          [fileName name₁ m₁.stamp format₁, fileName name₂ m₂.stamp format₂].Sublist ids := by
  obtain ⟨hvalid₁, hseconds₁⟩ := momentOfSeconds_spec (t₁ + offset)
  obtain ⟨hvalid₂, hseconds₂⟩ := momentOfSeconds_spec (t₂ + offset)
  have hbefore : (momentOfSeconds (t₁ + offset)).seconds < (momentOfSeconds (t₂ + offset)).seconds := by
    omega
  have hless := fileName_lt hplain₁ hplain₂ hvalid₁ hvalid₂ hbefore name₁ name₂ format₁ format₂
  refine ⟨_, _, localMoment?_of_plain hbelow hplain₁, localMoment?_of_plain hbelow hplain₂,
    ⟨hvalid₁, hseconds₁⟩, ⟨hvalid₂, hseconds₂⟩, tellsMoment_fileName hplain₁ hvalid₁ name₁ format₁,
    tellsMoment_fileName hplain₂ hvalid₂ name₂ format₂, utf8Bytes_lt_iff.mpr hless, ?_⟩
  intro c tree ids hdiscovered hthere₁ hthere₂
  obtain ⟨⟨files, -, rfl⟩, -⟩ := Catalog.discover_spec hdiscovered
  exact pair_sublist (Catalog.sortIds_sorted _) hless hthere₁ hthere₂

/-- The last second of a leap day, three hours west, and the next one. -/
theorem files_in_order_of_time_leapDay :
    (-10800 : Int).natAbs < 86400 ∧ (1709261999 : Int) < 1709262000 ∧
      InPlainYear (-10800) 1709261999 ∧ InPlainYear (-10800) 1709262000 ∧
      utf8Bytes "lipgrade_20240229235959_zebra.toml" <
        utf8Bytes "lipgrade_20240301000000_apple.json" := by
  have hbelow : (-10800 : Int).natAbs < 86400 := by decide
  have hearlier : (1709261999 : Int) < 1709262000 := by decide
  have hplain₁ : InPlainYear (-10800) 1709261999 := by decide
  have hplain₂ : InPlainYear (-10800) 1709262000 := by decide
  obtain ⟨m₁, m₂, hhere₁, hhere₂, -, -, -, -, hless, -⟩ :=
    files_in_order_of_time hbelow hearlier hplain₁ hplain₂ "zebra" "apple" .toml .json
  have hmoment₁ : localMoment? 1709261999 (-10800) = some ⟨2024, 2, 29, 23, 59, 59⟩ := by decide
  have hmoment₂ : localMoment? 1709262000 (-10800) = some ⟨2024, 3, 1, 0, 0, 0⟩ := by decide
  obtain rfl := Option.some.inj (hhere₁.symm.trans hmoment₁)
  obtain rfl := Option.some.inj (hhere₂.symm.trans hmoment₂)
  have hwritten₁ : fileName "zebra" (Moment.stamp ⟨2024, 2, 29, 23, 59, 59⟩) .toml =
      "lipgrade_20240229235959_zebra.toml" := by decide +kernel
  have hwritten₂ : fileName "apple" (Moment.stamp ⟨2024, 3, 1, 0, 0, 0⟩) .json =
      "lipgrade_20240301000000_apple.json" := by decide +kernel
  rw [hwritten₁, hwritten₂] at hless
  exact ⟨hbelow, hearlier, hplain₁, hplain₂, hless⟩

end Migration

end SchemaMigration
