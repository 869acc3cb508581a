import SchemaMigration.Sql.Interpolate

/-!
# Question marks

The values of a statement with question marks are written from left to right: the first mark gives
way to the first value, and so on. What was written is not read again, so cutting the values out of
the result gives the statement back.
-/

namespace SchemaMigration.Sql

/-! ## What stands for each character -/

/-- The value of the mark at a place, if there is one. The marks before it have used up as many. -/
def valueAt? (params : List SqlValue) (cs : List Char) (i : Nat) : Option SqlValue :=
  if cs[i]? = some '?' then params[(cs.take i).count '?']? else none

def writtenAt (params : List SqlValue) (cs : List Char) (i : Nat) : List Char :=
  match valueAt? params cs i with
  | some value => value.literal.toList
  | none => cs[i]?.toList

/-- What is written for the first `n` characters. -/
def writtenUpTo (params : List SqlValue) (cs : List Char) (n : Nat) : List Char :=
  (List.range n).flatMap (writtenAt params cs)

/-- The values that are left behind a character. -/
def leftBehind (c : Char) (params : List SqlValue) : List SqlValue :=
  if c = '?' then params.tail else params

variable {params : List SqlValue} {c : Char} {cs : List Char} {i n : Nat} {value : SqlValue}

theorem valueAt?_succ : valueAt? params (c :: cs) (i + 1) = valueAt? (leftBehind c params) cs i := by
  unfold valueAt? leftBehind
  by_cases hmark : c = '?' <;> simp [hmark]

theorem writtenAt_succ : writtenAt params (c :: cs) (i + 1) = writtenAt (leftBehind c params) cs i := by
  unfold writtenAt
  rw [valueAt?_succ]
  rfl

theorem writtenUpTo_succ : writtenUpTo params (c :: cs) (n + 1) =
    writtenAt params (c :: cs) 0 ++ writtenUpTo (leftBehind c params) cs n := by
  unfold writtenUpTo
  rw [List.range_succ_eq_map, List.flatMap_cons, List.flatMap_map]
  simp only [writtenAt_succ]

theorem first_cases (params : List SqlValue) (c : Char) (cs : List Char) :
    (valueAt? params (c :: cs) 0 = none ∧ writtenAt params (c :: cs) 0 = [c] ∧
      fillMarks params (c :: cs) = c :: fillMarks (leftBehind c params) cs ∧
      (c = '?' → params = [])) ∨
    ∃ value, c = '?' ∧ params = value :: leftBehind c params ∧
      valueAt? params (c :: cs) 0 = some value ∧
      writtenAt params (c :: cs) 0 = value.literal.toList ∧
      fillMarks params (c :: cs) = value.literal.toList ++ fillMarks (leftBehind c params) cs := by
  cases params with
  | nil =>
    left
    have hkept : fillMarks [] cs = cs := by cases cs <;> rfl
    simp [valueAt?, writtenAt, leftBehind, fillMarks, hkept]
  | cons value params =>
    by_cases hmark : c = '?'
    · right
      exact ⟨value, by simp [valueAt?, writtenAt, leftBehind, fillMarks, hmark]⟩
    · left
      simp [valueAt?, writtenAt, leftBehind, fillMarks, hmark]

theorem fillMarks_eq (params : List SqlValue) (cs : List Char) :
    fillMarks params cs = writtenUpTo params cs cs.length := by
  induction cs generalizing params with
  | nil => cases params <;> rfl
  | cons c cs ih =>
    rw [List.length_cons, writtenUpTo_succ, ← ih]
    rcases first_cases params c cs with ⟨-, hwritten, hfilled, -⟩ | ⟨value, -, -, -, hwritten, hfilled⟩
    · rw [hwritten, hfilled]
      rfl
    · rw [hwritten, hfilled]

/-! ## Cutting a text -/

/-- A part of a text. -/
structure Stretch where
  start : Nat
  length : Nat
  deriving DecidableEq, Repr

namespace Stretch

def of (s : Stretch) (text : List Char) : List Char := (text.drop s.start).take s.length

def shift (n : Nat) (s : Stretch) : Stretch := { s with start := n + s.start }

theorem shift_of (s : Stretch) (front text : List Char) :
    (s.shift front.length).of (front ++ text) = s.of text := by
  simp only [of, shift, List.drop_append, Nat.add_sub_cancel_left]
  rw [List.drop_eq_nil_of_le (by omega), List.nil_append]

end Stretch

/-- What is left of a text between stretches of it. The first number is the place where the text
begins. -/
def cutOut : Nat → List Stretch → List Char → List (List Char)
  | _, [], text => [text]
  | start, s :: rest, text =>
    text.take (s.start - start) ::
      cutOut (s.start + s.length) rest (text.drop (s.start + s.length - start))

theorem cutOut_shift (n start : Nat) (stretches : List Stretch) (text : List Char) :
    cutOut (n + start) (stretches.map (Stretch.shift n)) text = cutOut start stretches text := by
  induction stretches generalizing start text with
  | nil => rfl
  | cons s rest ih =>
    have hbefore : n + s.start - (n + start) = s.start - start := by omega
    have hbehind : n + (s.start + s.length) - (n + start) = s.start + s.length - start := by omega
    simp only [List.map_cons, Stretch.shift, cutOut, hbefore, hbehind, Nat.add_assoc, ih]

theorem cutOut_append (front text : List Char) (stretches : List Stretch) :
    ∃ first rest, cutOut 0 stretches text = first :: rest ∧
      cutOut 0 (stretches.map (Stretch.shift front.length)) (front ++ text) =
        (front ++ first) :: rest := by
  cases stretches with
  | nil => exact ⟨text, [], rfl, rfl⟩
  | cons s rest =>
    refine ⟨_, _, rfl, ?_⟩
    have hlater := cutOut_shift front.length (s.start + s.length) rest (text.drop (s.start + s.length))
    simp only [List.map_cons, Stretch.shift, cutOut, Nat.sub_zero, List.take_append, List.drop_append]
    have hinside : front.length + s.start - front.length = s.start := by omega
    have hbehind : front.length + s.start + s.length - front.length = s.start + s.length := by omega
    rw [hinside, hbehind, List.take_of_length_le (by omega), List.drop_eq_nil_of_le (by omega),
      List.nil_append, Nat.add_assoc, hlater]

theorem intercalate_append (sep front first : List Char) (rest : List (List Char)) :
    sep.intercalate ((front ++ first) :: rest) = front ++ sep.intercalate (first :: rest) := by
  cases rest with
  | nil => simp [List.intercalate]
  | cons second rest => simp [List.intercalate]

/-! ## Cutting the values out -/

/-- Where the values stand in the result. -/
def valueStretches (params : List SqlValue) (cs : List Char) : List Stretch :=
  (List.range cs.length).filterMap fun i =>
    (valueAt? params cs i).map fun value =>
      ⟨(writtenUpTo params cs i).length, value.literal.toList.length⟩

theorem valueStretches_cons : valueStretches params (c :: cs) =
    ((valueAt? params (c :: cs) 0).map fun value => ⟨0, value.literal.toList.length⟩).toList ++
      (valueStretches (leftBehind c params) cs).map
        (Stretch.shift (writtenAt params (c :: cs) 0).length) := by
  have hlater : ∀ i, (valueAt? params (c :: cs) (i + 1)).map (fun value =>
        (⟨(writtenUpTo params (c :: cs) (i + 1)).length, value.literal.toList.length⟩ : Stretch)) =
      ((valueAt? (leftBehind c params) cs i).map fun value =>
        ⟨(writtenUpTo (leftBehind c params) cs i).length, value.literal.toList.length⟩).map
          (Stretch.shift (writtenAt params (c :: cs) 0).length) := by
    intro i
    rw [valueAt?_succ, writtenUpTo_succ]
    simp [Stretch.shift, Function.comp_def]
  unfold valueStretches
  rw [List.length_cons, List.range_succ_eq_map, List.filterMap_cons, List.filterMap_map,
    List.map_filterMap]
  simp only [Function.comp_def, Nat.succ_eq_add_one, hlater]
  cases valueAt? params (c :: cs) 0 <;> rfl

theorem values_cut (params : List SqlValue) (cs : List Char) :
    (valueStretches params cs).map (·.of (fillMarks params cs)) =
      (params.take (cs.count '?')).map (·.literal.toList) := by
  induction cs generalizing params with
  | nil => simp [valueStretches]
  | cons c cs ih =>
    have hlater (front : List Char) : ((valueStretches (leftBehind c params) cs).map
        (Stretch.shift front.length)).map (·.of (front ++ fillMarks (leftBehind c params) cs)) =
        ((leftBehind c params).take (cs.count '?')).map (·.literal.toList) := by
      rw [← ih, List.map_map]
      exact List.map_congr_left fun s _ => s.shift_of front _
    rw [valueStretches_cons]
    rcases first_cases params c cs with
      ⟨hnone, hwritten, hfilled, hunvalued⟩ | ⟨value, hmark, hgiven, hsome, hwritten, hfilled⟩
    · rw [hnone, hwritten, hfilled]
      have hsame : params.take ((c :: cs).count '?') = (leftBehind c params).take (cs.count '?') := by
        by_cases hmark : c = '?'
        · simp [hunvalued hmark, leftBehind]
        · simp [leftBehind, hmark]
      rw [hsame]
      exact hlater [c]
    · rw [hsome, hwritten, hfilled, List.map_append, hlater]
      rw [hmark] at hgiven ⊢
      rw [hgiven]
      simp [Stretch.of, leftBehind]

theorem marks_restored (params : List SqlValue) (cs : List Char) :
    ['?'].intercalate (cutOut 0 (valueStretches params cs) (fillMarks params cs)) = cs := by
  induction cs generalizing params with
  | nil => cases params <;> rfl
  | cons c cs ih =>
    have hrest := ih (leftBehind c params)
    rw [valueStretches_cons]
    rcases first_cases params c cs with
      ⟨hnone, hwritten, hfilled, -⟩ | ⟨value, rfl, -, hsome, hwritten, hfilled⟩
    · rw [hnone, hwritten, hfilled]
      obtain ⟨first, others, hcut, hshifted⟩ :=
        cutOut_append [c] (fillMarks (leftBehind c params) cs) (valueStretches (leftBehind c params) cs)
      have hjoined := intercalate_append ['?'] [c] first others
      rw [← hcut, hrest, ← hshifted] at hjoined
      exact hjoined
    · rw [hsome, hwritten, hfilled]
      have hlater := cutOut_shift value.literal.toList.length 0
        (valueStretches (leftBehind '?' params) cs) (fillMarks (leftBehind '?' params) cs)
      obtain ⟨first, others, hcut, -⟩ :=
        cutOut_append [] (fillMarks (leftBehind '?' params) cs) (valueStretches (leftBehind '?' params) cs)
      rw [hcut] at hrest hlater
      simp only [Option.map_some, Option.toList_some, List.singleton_append, cutOut, Nat.sub_zero,
        List.take_zero, Nat.zero_add, List.drop_left]
      rw [Nat.add_zero] at hlater
      rw [hlater]
      simpa [List.intercalate] using hrest

/-- Each mark that has a value gives way to it, the `k`-th to the `k`-th, and all else stays. Cut out
of the result, the values are those of the marks in their order, and marks in their places make the
statement whole. -/
theorem marks_written_once {dialect : Dialect} (hunnumbered : dialect ≠ .postgresql)
    (params : List SqlValue) (sql : String) :
    (interpolate dialect sql params).toList =
        writtenUpTo params sql.toList sql.toList.length ∧
      (valueStretches params sql.toList).map (·.of (interpolate dialect sql params).toList) =
        (params.take (sql.toList.count '?')).map (·.literal.toList) ∧
      ['?'].intercalate
        (cutOut 0 (valueStretches params sql.toList) (interpolate dialect sql params).toList) =
          sql.toList := by
  have hfilled : (interpolate dialect sql params).toList = fillMarks params sql.toList := by
    unfold interpolate
    cases dialect with
    | postgresql => contradiction
    | mysql | sqlite => exact String.toList_ofList
  rw [hfilled]
  exact ⟨fillMarks_eq _ _, values_cut _ _, marks_restored _ _⟩

/-- A value with marks of its own, and a mark without a value. -/
theorem marks_written_once_nested :
    Dialect.mysql ≠ .postgresql ∧
      interpolate .mysql "a = ? AND b = ? OR c = ?" [.text "?", .null] =
        "a = '?' AND b = NULL OR c = ?" ∧
      valueStretches [.text "?", .null] "a = ? AND b = ? OR c = ?".toList = [⟨4, 3⟩, ⟨16, 4⟩] ∧
      [⟨4, 3⟩, ⟨16, 4⟩].map (Stretch.of · "a = '?' AND b = NULL OR c = ?".toList) =
        ["'?'".toList, "NULL".toList] := by
  have hwritten : interpolate .mysql "a = ? AND b = ? OR c = ?" [.text "?", .null] =
      "a = '?' AND b = NULL OR c = ?" := by decide +kernel
  have hstretches : valueStretches [.text "?", .null] "a = ? AND b = ? OR c = ?".toList =
      [⟨4, 3⟩, ⟨16, 4⟩] := by decide +kernel
  have hmysql : Dialect.mysql ≠ .postgresql := by decide
  obtain ⟨-, hcut, -⟩ := marks_written_once hmysql [.text "?", .null] "a = ? AND b = ? OR c = ?"
  rw [hwritten, hstretches] at hcut
  exact ⟨hmysql, hwritten, hstretches, hcut.trans (by decide +kernel)⟩

end SchemaMigration.Sql
