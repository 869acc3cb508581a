import Mathlib.Data.List.Nodup
import SchemaMigration.Document.Decode
import SchemaMigration.Proofs.Fallible

/-!
# Decoding records

Decoding starts from a blank record and sets its fields. What no field changes is as it
was in the blank one. A value is read as a record whenever its entries, or its items, fit the fields.
-/

namespace SchemaMigration

namespace RecordShape

variable {α : Type} {shape : RecordShape α} {P : α → Prop}

/-- Reading a field keeps the property. -/
def Keeps (P : α → Prop) (f : Field α) : Prop :=
  ∀ d record next, P record → f.read d record = .ok next → P next

theorem decodeEntries_keeps (hfields : ∀ f ∈ shape.fields, Keeps P f) {seen : List String}
    {record result : α} {entries : List (Option String × Document)} (hrecord : P record)
    (h : shape.decodeEntries seen record entries = .ok result) : P result := by
  induction entries generalizing seen record with
  | nil =>
    obtain ⟨_, -, h⟩ := bind_eq_ok.mp h
    obtain rfl := Except.ok.inj h
    exact hrecord
  | cons entry rest ih =>
    obtain ⟨_ | key, value⟩ := entry
    · simp [decodeEntries] at h
    rw [decodeEntries] at h
    split at h
    · next f hf =>
      split at h
      · simp at h
      · obtain ⟨next, hnext, h⟩ := bind_eq_ok.mp h
        exact ih (hfields f (List.mem_of_find?_eq_some hf) value record next hrecord hnext) h
    · split at h
      · simp at h
      · obtain ⟨_, -, h⟩ := bind_eq_ok.mp h
        exact ih hrecord h

theorem decodeItems_keeps {format : Format} {fields : List (Field α)}
    (hfields : ∀ f ∈ fields, Keeps P f) {position : Nat} {record result : α}
    {items : List Document} (hrecord : P record)
    (h : shape.decodeItems format record position fields items = .ok result) : P result := by
  induction fields generalizing position record items with
  | nil =>
    cases items with
    | nil =>
      obtain rfl := Except.ok.inj h
      exact hrecord
    | cons d rest =>
      rw [decodeItems] at h
      split at h
      · obtain rfl := Except.ok.inj h
        exact hrecord
      · simp at h
  | cons f fields ih =>
    have hrest : ∀ f ∈ fields, Keeps P f := fun f hf => hfields f (List.mem_cons_of_mem _ hf)
    cases items with
    | nil =>
      rw [decodeItems] at h
      split at h
      · exact ih hrest hrecord h
      · simp at h
    | cons d rest =>
      obtain ⟨next, hnext, h⟩ := bind_eq_ok.mp h
      exact ih hrest (hfields f List.mem_cons_self d record next hrecord hnext) h

theorem decode_keeps (hfields : ∀ f ∈ shape.fields, Keeps P f) {format : Format} {blank result : α}
    {d : Document} (hblank : P blank) (h : shape.decode format blank d = .ok result) : P result := by
  unfold decode at h
  split at h
  · exact decodeEntries_keeps hfields hblank h
  · exact decodeItems_keeps hfields hblank h
  · obtain ⟨_, -, h⟩ := bind_eq_ok.mp h
    simp at h

end RecordShape

/-! ## What a record takes -/

namespace Field

variable {α β : Type} {name : String} {read : Document → Decoded β}

/-- The field takes the value, whatever was read before it. -/
def Takes (f : Field α) (d : Document) : Prop := ∀ record, ∃ next, f.read d record = .ok next

/-- What the field is set to depends on its own value alone. -/
def IsPlain (f : Field α) : Prop :=
  ∃ (β : Type) (read : Document → Decoded β) (set : β → α → α),
    ∀ d record, f.read d record = (read d).map (set · record)

@[simp] theorem isPlain_orNone (set : Option β → α → α) : (orNone name read set).IsPlain :=
  ⟨_, _, set, fun _ _ => rfl⟩

@[simp] theorem isPlain_orDefault (set : β → α → α) : (orDefault name read set).IsPlain :=
  ⟨_, _, set, fun _ _ => rfl⟩

@[simp] theorem isPlain_required (set : β → α → α) : (required name read set).IsPlain :=
  ⟨_, _, set, fun _ _ => rfl⟩

theorem IsPlain.takes {f : Field α} {d : Document} {record next : α} (h : f.IsPlain)
    (hread : f.read d record = .ok next) : f.Takes d := by
  obtain ⟨_, read, set, hplain⟩ := h
  rw [hplain] at hread
  obtain ⟨value, hvalue, -⟩ := map_eq_ok.mp hread
  exact fun other => ⟨set value other, by rw [hplain, hvalue]; rfl⟩

end Field

namespace RecordShape

variable {α : Type} {shape : RecordShape α} {seen : List String} {record : α} {format : Format}
variable {entries : List (Option String × Document)}

/-- An entry is one of a field that takes its value, or else any value under a name that a lenient
record does not know. -/
inductive TakesEntry (shape : RecordShape α) : Option String × Document → Prop
  | known {name : String} {f : Field α} {d : Document} :
      shape.fields.find? (·.name == name) = some f → f.Takes d → TakesEntry shape (some name, d)
  | unknown {name : String} {d : Document} :
      shape.fields.find? (·.name == name) = none → shape.strict = false → d.intact = true →
      TakesEntry shape (some name, d)

/-- The entries make up a record, together with fields that were seen before: each of them fits,
no field comes twice, and none is missing that has to be there. -/
structure TakesEntries (shape : RecordShape α) (seen : List String)
    (entries : List (Option String × Document)) : Prop where
  each : ∀ e ∈ entries, shape.TakesEntry e
  fresh : ∀ f ∈ shape.fields, f.name ∈ seen → some f.name ∉ entries.map (·.1)
  once : ∀ f ∈ shape.fields, (entries.map (·.1)).count (some f.name) ≤ 1
  present : ∀ f ∈ shape.fields, f.optional = true ∨ f.name ∈ seen ∨ some f.name ∈ entries.map (·.1)

/-- The items make up a record: those that there are fit their fields, the others have values of
their own, and too many are only given in TOML. -/
structure TakesItems (format : Format) (fields : List (Field α)) (items : List Document) : Prop where
  each : ∀ pair ∈ fields.zip items, pair.1.Takes pair.2
  others : ∀ f ∈ fields.drop items.length, f.defaulted = true
  extra : items.length ≤ fields.length ∨ format = .toml

/-- The values that are read as a record. -/
def Takes (shape : RecordShape α) (format : Format) : Document → Prop
  | .mapping entries => shape.TakesEntries [] entries
  | .sequence items => TakesItems format shape.fields items
  | _ => False

theorem checkMissing_eq_ok_iff {u : Unit} :
    shape.checkMissing seen = .ok u ↔ ∀ f ∈ shape.fields, f.optional = true ∨ f.name ∈ seen := by
  have hnone : (shape.fields.find? fun f => !f.optional && !seen.contains f.name) = none ↔
      ∀ f ∈ shape.fields, f.optional = true ∨ f.name ∈ seen := by
    rw [List.find?_eq_none]
    refine forall₂_congr fun f _ => ?_
    cases f.optional <;> simp
  rw [← hnone]
  unfold checkMissing
  split <;> simp_all

theorem takesEntries_nil : shape.TakesEntries seen [] ↔
    ∀ f ∈ shape.fields, f.optional = true ∨ f.name ∈ seen := by
  constructor
  · intro h f hf
    simpa using h.present f hf
  · intro h
    exact ⟨nofun, by simp, by simp, fun f hf => (h f hf).imp_right .inl⟩

theorem takesEntry_known {name : String} {f : Field α} {d : Document}
    (hf : shape.fields.find? (·.name == name) = some f) :
    shape.TakesEntry (some name, d) ↔ f.Takes d := by
  constructor
  · intro h
    cases h with
    | known hg htakes =>
      obtain rfl := Option.some.inj (hf.symm.trans hg)
      exact htakes
    | unknown hnone => simp [hf] at hnone
  · exact .known hf

theorem takesEntry_unknown {name : String} {d : Document}
    (hnone : shape.fields.find? (·.name == name) = none) :
    shape.TakesEntry (some name, d) ↔ shape.strict = false ∧ d.intact = true := by
  constructor
  · intro h
    cases h with
    | known hf => simp [hf] at hnone
    | unknown _ hstrict hintact => exact ⟨hstrict, hintact⟩
  · rintro ⟨hstrict, hintact⟩
    exact .unknown hnone hstrict hintact

theorem takesEntries_cons {name : String} {d : Document} :
    shape.TakesEntries seen ((some name, d) :: entries) ↔
      shape.TakesEntry (some name, d) ∧ (∀ f ∈ shape.fields, f.name = name → name ∉ seen) ∧
        shape.TakesEntries (name :: seen) entries := by
  constructor
  · rintro ⟨heach, hfresh, honce, hpresent⟩
    refine ⟨heach _ List.mem_cons_self, ?_, fun e he => heach e (List.mem_cons_of_mem _ he), ?_, ?_, ?_⟩
    · rintro f hf rfl hseen
      exact hfresh f hf hseen List.mem_cons_self
    · intro f hf hseen hin
      rcases List.mem_cons.mp hseen with rfl | hseen
      · -- The field came already, and now it comes again.
        have hcount := honce f hf
        rw [List.map_cons, List.count_cons_self] at hcount
        have hpos := List.count_pos_iff.mpr hin
        omega
      · exact hfresh f hf hseen (List.mem_cons_of_mem _ hin)
    · intro f hf
      exact Nat.le_trans List.count_le_count_cons (honce f hf)
    · intro f hf
      have hthere := hpresent f hf
      simp only [List.map_cons, List.mem_cons, Option.some.injEq] at hthere ⊢
      tauto
  · rintro ⟨htakes, hnew, heach, hfresh, honce, hpresent⟩
    refine ⟨List.forall_mem_cons.mpr ⟨htakes, heach⟩, ?_, ?_, ?_⟩
    · intro f hf hseen hin
      rcases List.mem_cons.mp hin with hname | hin
      · obtain rfl := Option.some.inj hname
        exact hnew f hf rfl hseen
      · exact hfresh f hf (List.mem_cons_of_mem _ hseen) hin
    · intro f hf
      rw [List.map_cons, List.count_cons]
      split
      · next hname =>
        obtain rfl : name = f.name := by simpa using hname
        have hzero := List.count_eq_zero.mpr (hfresh f hf List.mem_cons_self)
        omega
      · exact honce f hf
    · intro f hf
      have hthere := hpresent f hf
      simp only [List.map_cons, List.mem_cons, Option.some.injEq] at hthere ⊢
      tauto

theorem TakesEntries.congr {others : List String}
    (h : ∀ f ∈ shape.fields, f.name ∈ seen ↔ f.name ∈ others) :
    shape.TakesEntries seen entries → shape.TakesEntries others entries := by
  rintro ⟨heach, hfresh, honce, hpresent⟩
  refine ⟨heach, fun f hf hin => hfresh f hf ((h f hf).mpr hin), honce, fun f hf => ?_⟩
  exact (hpresent f hf).imp_right (Or.imp_left (h f hf).mp)

theorem takesEntries_known {name : String} {f : Field α} {d : Document}
    (hf : shape.fields.find? (·.name == name) = some f) :
    shape.TakesEntries seen ((some name, d) :: entries) ↔
      f.Takes d ∧ name ∉ seen ∧ shape.TakesEntries (name :: seen) entries := by
  have hname : f.name = name := by simpa using List.find?_some hf
  have hmem : f ∈ shape.fields := List.mem_of_find?_eq_some hf
  have hnew : (∀ g ∈ shape.fields, g.name = name → name ∉ seen) ↔ name ∉ seen :=
    ⟨fun h => h f hmem hname, fun h _ _ _ => h⟩
  rw [takesEntries_cons, takesEntry_known hf, hnew]

theorem takesEntries_unknown {name : String} {d : Document}
    (hnone : shape.fields.find? (·.name == name) = none) :
    shape.TakesEntries seen ((some name, d) :: entries) ↔
      shape.strict = false ∧ d.intact = true ∧ shape.TakesEntries seen entries := by
  have hother : ∀ f ∈ shape.fields, f.name ≠ name := by
    simpa using List.find?_eq_none.mp hnone
  have hseen : ∀ f ∈ shape.fields, f.name ∈ name :: seen ↔ f.name ∈ seen := by
    intro f hf
    simp [hother f hf]
  rw [takesEntries_cons, takesEntry_unknown hnone, and_assoc]
  refine and_congr_right' (and_congr_right' ⟨?_, ?_⟩)
  · rintro ⟨-, hentries⟩
    exact hentries.congr hseen
  · intro hentries
    exact ⟨fun f hf hname => absurd hname (hother f hf), hentries.congr fun f hf => (hseen f hf).symm⟩

theorem decodeEntries_ok_iff (hplain : ∀ f ∈ shape.fields, f.IsPlain) :
    (∃ result, shape.decodeEntries seen record entries = .ok result) ↔
      shape.TakesEntries seen entries := by
  induction entries generalizing seen record with
  | nil =>
    rw [takesEntries_nil, ← checkMissing_eq_ok_iff (u := ())]
    unfold decodeEntries
    cases shape.checkMissing seen <;> simp [bind, Except.bind, pure, Except.pure]
  | cons entry rest ih =>
    obtain ⟨_ | name, d⟩ := entry
    · refine iff_of_false (by simp [decodeEntries]) fun h => ?_
      cases h.each _ List.mem_cons_self
    rw [decodeEntries]
    cases hf : shape.fields.find? (·.name == name) with
    | some f =>
      rw [takesEntries_known hf]
      by_cases hseen : name ∈ seen
      · simp [hseen]
      simp only [List.contains_eq_mem, hseen, decide_false, Bool.false_eq_true, if_false,
        not_false_eq_true, true_and]
      constructor
      · rintro ⟨result, h⟩
        obtain ⟨next, hnext, h⟩ := bind_eq_ok.mp h
        exact ⟨(hplain f (List.mem_of_find?_eq_some hf)).takes hnext, ih.mp ⟨result, h⟩⟩
      · rintro ⟨htakes, hrest⟩
        obtain ⟨next, hnext⟩ := htakes record
        obtain ⟨result, h⟩ := ih.mpr hrest
        exact ⟨result, bind_eq_ok.mpr ⟨next, hnext, h⟩⟩
    | none =>
      rw [takesEntries_unknown hf]
      cases hstrict : shape.strict with
      | true => simp
      | false =>
        rw [← @ih _ record]
        unfold Document.skip
        cases d.intact <;> simp [bind, Except.bind]

theorem takesItems_cons {f : Field α} {fields : List (Field α)} {d : Document} {items : List Document} :
    TakesItems format (f :: fields) (d :: items) ↔ f.Takes d ∧ TakesItems format fields items := by
  constructor
  · rintro ⟨heach, hothers, hextra⟩
    rw [List.zip_cons_cons, List.forall_mem_cons] at heach
    exact ⟨heach.1, heach.2, hothers, hextra.imp_left Nat.le_of_succ_le_succ⟩
  · rintro ⟨htakes, heach, hothers, hextra⟩
    refine ⟨?_, hothers, hextra.imp_left Nat.succ_le_succ⟩
    rw [List.zip_cons_cons]
    exact List.forall_mem_cons.mpr ⟨htakes, heach⟩

theorem takesItems_short {f : Field α} {fields : List (Field α)} :
    TakesItems format (f :: fields) [] ↔ f.defaulted = true ∧ TakesItems format fields [] := by
  constructor
  · rintro ⟨-, hothers, -⟩
    obtain ⟨hfirst, hothers⟩ := List.forall_mem_cons.mp hothers
    exact ⟨hfirst, by simp, hothers, .inl (Nat.zero_le _)⟩
  · rintro ⟨hfirst, -, hothers, -⟩
    exact ⟨by simp, List.forall_mem_cons.mpr ⟨hfirst, hothers⟩, .inl (Nat.zero_le _)⟩

theorem takesItems_long {d : Document} {items : List Document} :
    TakesItems format ([] : List (Field α)) (d :: items) ↔ format = .toml := by
  constructor
  · intro h
    exact h.extra.resolve_left (Nat.not_succ_le_zero _)
  · intro htoml
    exact ⟨nofun, nofun, .inr htoml⟩

theorem decodeItems_ok_iff {fields : List (Field α)} (hplain : ∀ f ∈ fields, f.IsPlain)
    {position : Nat} {items : List Document} :
    (∃ result, shape.decodeItems format record position fields items = .ok result) ↔
      TakesItems format fields items := by
  induction fields generalizing position record items with
  | nil =>
    cases items with
    | nil => exact iff_of_true ⟨record, rfl⟩ ⟨nofun, nofun, .inl (Nat.le_refl 0)⟩
    | cons d rest =>
      rw [decodeItems, takesItems_long]
      by_cases htoml : format = .toml <;> simp [htoml]
  | cons f fields ih =>
    have hrest : ∀ f ∈ fields, f.IsPlain := fun f hf => hplain f (List.mem_cons_of_mem _ hf)
    cases items with
    | nil =>
      rw [decodeItems, takesItems_short]
      cases f.defaulted with
      | true => simpa using ih hrest
      | false => simp
    | cons d rest =>
      rw [decodeItems, takesItems_cons]
      constructor
      · rintro ⟨result, h⟩
        obtain ⟨next, hnext, h⟩ := bind_eq_ok.mp h
        exact ⟨(hplain f List.mem_cons_self).takes hnext, (ih hrest).mp ⟨result, h⟩⟩
      · rintro ⟨htakes, hitems⟩
        obtain ⟨next, hnext⟩ := htakes record
        obtain ⟨result, h⟩ := (ih hrest).mpr hitems
        exact ⟨result, bind_eq_ok.mpr ⟨next, hnext, h⟩⟩

/-- Which values are read as a record: mappings and sequences that fit the fields. -/
theorem decode_ok_iff (hplain : ∀ f ∈ shape.fields, f.IsPlain) {d : Document} :
    (∃ result, shape.decode format record d = .ok result) ↔ shape.Takes format d := by
  unfold decode Takes
  split
  · exact decodeEntries_ok_iff hplain
  · exact decodeItems_ok_iff hplain
  · refine iff_of_false ?_ (by simp_all)
    rintro ⟨result, h⟩
    obtain ⟨_, -, h⟩ := bind_eq_ok.mp h
    cases h

theorem TakesEntries.names (h : shape.TakesEntries seen entries) (hstrict : shape.strict = true) :
    ∃ names : List String, entries.map (·.1) = names.map some ∧ names.Nodup ∧
      ∀ name ∈ names, ∃ f ∈ shape.fields, f.name = name := by
  have hknown : ∀ key ∈ entries.map (·.1), ∃ f ∈ shape.fields, some f.name = key := by
    rw [List.forall_mem_map]
    intro e he
    cases h.each e he with
    | known hf =>
      exact ⟨_, List.mem_of_find?_eq_some hf, by simpa using List.find?_some hf⟩
    | unknown _ hlenient => simp [hstrict] at hlenient
  have hnames : entries.map (·.1) = ((entries.map (·.1)).filterMap id).map some := by
    generalize entries.map (·.1) = keys at hknown
    induction keys with
    | nil => rfl
    | cons key keys ih =>
      obtain ⟨⟨f, -, rfl⟩, hkeys⟩ := List.forall_mem_cons.mp hknown
      simpa using ih hkeys
  refine ⟨_, hnames, ?_, fun name hname => ?_⟩
  · refine List.Nodup.of_map some ?_
    rw [← hnames, List.nodup_iff_count_le_one]
    intro key
    by_cases hkey : key ∈ entries.map (·.1)
    · obtain ⟨f, hf, rfl⟩ := hknown key hkey
      exact h.once f hf
    · rw [List.count_eq_zero.mpr hkey]
      exact Nat.zero_le 1
  · obtain ⟨f, hf, hsome⟩ := hknown (some name) (hnames ▸ List.mem_map_of_mem hname)
    exact ⟨f, hf, Option.some.inj hsome⟩

end RecordShape

end SchemaMigration
