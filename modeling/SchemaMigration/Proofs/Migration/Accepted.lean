import Mathlib.Data.List.Permutation
import SchemaMigration.Proofs.Document.Record
import SchemaMigration.Proofs.Migration.Written
import SchemaMigration.Proofs.Operation.Accepted

/-!
# Which files are migrations

A migration file lists the operations of both directions under their names. It is read as a whole:
one entry that is no operation, a name too many or the missing way up, and there is no migration.
-/

namespace SchemaMigration

open Document RecordShape

/-- The text denotes the document. A date or time of TOML is a mapping with one key. -/
def Format.Denotes : Format → String → Document → Prop
  | .json, source, d => Json.read source = (d, true)
  | .toml, source, d => Toml.read source = some d

theorem Format.Denotes.unique {format : Format} {source : String} {d d' : Document}
    (h : format.Denotes source d) (h' : format.Denotes source d') : d = d' := by
  cases format with
  | json => exact (Prod.mk.inj (h.symm.trans h')).1
  | toml => exact Option.some.inj (h.symm.trans h')

theorem Format.decode_eq_ok_iff {α : Type} {format : Format} {reader : Document → Decoded α}
    {source : String} {a : α} :
    format.decode reader source = .ok a ↔ ∃ d, format.Denotes source d ∧ reader d = .ok a := by
  cases format with
  | json =>
    simp only [Format.decode, Json.decode, Denotes]
    generalize Json.read source = answer
    obtain ⟨d, _ | _⟩ := answer <;> cases hread : reader d <;>
      simp [hread, bind, Except.bind, pure, Except.pure]
  | toml =>
    unfold Format.decode Toml.decode Denotes
    cases hread : Toml.read source <;> simp [hread]

/-! ## Lists of operations -/

/-- The operations of one direction, each from an entry of its own: a list of entries, or one
entry alone. -/
def Operation.AreEntries (format : Format) : List Operation → Document → Prop :=
  OneOrMany (IsEntry format)

theorem Document.readAll_eq_ok_iff {α : Type} {read : Document → Decoded α} {ds : List Document}
    {items : List α} : readAll read ds = .ok items ↔
      List.Forall₂ (fun a d => read d = .ok a) items ds := by
  constructor
  · intro h
    induction ds generalizing items with
    | nil =>
      obtain rfl : [] = items := Except.ok.inj h
      exact .nil
    | cons d rest ih =>
      obtain ⟨a, ha, h⟩ := bind_eq_ok.mp h
      obtain ⟨others, hothers, h⟩ := bind_eq_ok.mp h
      obtain rfl : a :: others = items := Except.ok.inj h
      exact .cons ha (ih hothers)
  · intro h
    induction h with
    | nil => rfl
    | cons ha _ ih => exact bind_eq_ok.mpr ⟨_, ha, bind_eq_ok.mpr ⟨_, ih, rfl⟩⟩

namespace Migration

variable {format : Format} {ops : List Operation} {d : Document} {m : Migration} {id source : String}

theorem operations_eq_ok_iff : asOneOrMany (Operation.decode format) d = .ok ops ↔
    Operation.AreEntries format ops d := by
  have hbare : ∀ op, Operation.IsEntry format op d → d.IsBare := by
    rintro op ⟨kind, payload, rfl, -⟩
    exact True.intro
  constructor
  · intro h
    by_cases hd : d.IsBare
    · rw [asOneOrMany_bare hd] at h
      obtain ⟨op, hop, rfl⟩ := map_eq_ok.mp h
      exact .inr ⟨op, rfl, Operation.decode_eq_ok_iff.mp hop⟩
    cases d with
    | sequence ds =>
      refine .inl ⟨ds, rfl, (readAll_eq_ok_iff.mp h).imp fun op d hread => ?_⟩
      exact Operation.decode_eq_ok_iff.mp hread
    | mapping | text => exact absurd True.intro hd
    | _ =>
      obtain ⟨_, -, h⟩ := bind_eq_ok.mp h
      simp at h
  · rintro (⟨ds, rfl, hds⟩ | ⟨op, rfl, hop⟩)
    · exact readAll_eq_ok_iff.mpr (hds.imp fun op d hop => Operation.decode_eq_ok_iff.mpr hop)
    · rw [asOneOrMany_bare (hbare op hop), Operation.decode_eq_ok_iff.mpr hop]
      rfl

/-! ## Files -/

/-- Both directions under their names, in any order; the way back may be missing. -/
def IsFile (format : Format) (m : Migration) : Document → Prop :=
  IsObject [
    ("up", Required (Operation.AreEntries format) m.up),
    ("down", Defaulted [] (Operation.AreEntries format) m.down)]

/-- The directions one after the other, without their names. -/
def IsBareFile (format : Format) (m : Migration) : Document → Prop
  | .sequence [up] => Operation.AreEntries format m.up up ∧ m.down = []
  | .sequence (up :: down :: rest) => Operation.AreEntries format m.up up ∧
      Operation.AreEntries format m.down down ∧ (rest = [] ∨ format = .toml)
  | _ => False

theorem isFile_iff : IsFile format m d ↔ ∃ up, Operation.AreEntries format m.up up ∧
    (m.down = [] ∧ d = .mapping [(some "up", up)] ∨
      ∃ down, Operation.AreEntries format m.down down ∧
        (d = .mapping [(some "up", up), (some "down", down)] ∨
          d = .mapping [(some "down", down), (some "up", up)])) := by
  constructor
  · rintro ⟨listed, entries, hlisted, hperm, rfl⟩
    cases hlisted with
    | omitted hnone => exact hnone.elim
    | @given _ _ up _ _ hup hrest =>
    cases hrest with
    | omitted hdown hnil =>
      cases hnil
      exact ⟨up, hup, .inl ⟨hdown, by rw [List.perm_singleton.mp hperm]⟩⟩
    | @given _ _ down _ _ hdown hnil =>
      cases hnil
      refine ⟨up, hup, .inr ⟨down, hdown, ?_⟩⟩
      rcases List.perm_pair.mp hperm with rfl | rfl
      · exact .inl rfl
      · exact .inr rfl
  · rintro ⟨up, hup, ⟨hdown, rfl⟩ | ⟨down, hdown, rfl | rfl⟩⟩
    · exact ⟨_, _, .given hup (.omitted hdown .nil), .refl _, rfl⟩
    · exact ⟨_, _, .given hup (.given hdown .nil), .refl _, rfl⟩
    · exact ⟨_, _, .given hup (.given hdown .nil), .swap _ _ _, rfl⟩

theorem not_isFile (h : ∀ entries, d ≠ .mapping entries) : ¬IsFile format m d := by
  rintro ⟨listed, entries, -, -, heq⟩
  exact h entries heq

theorem isPlain_fileShape : ∀ f ∈ (fileShape format).fields, f.IsPlain := by
  simp only [fileShape, List.forall_mem_cons, List.not_mem_nil, false_imp_iff, implies_true, and_true]
  exact ⟨Field.isPlain_required _, Field.isPlain_orDefault _⟩

theorem names_cases {entries : List (Option String × Document)}
    (h : (fileShape format).TakesEntries [] entries) : ∃ names : List String,
      entries.map (·.1) = names.map some ∧
        (names = ["up"] ∨ names = ["up", "down"] ∨ names = ["down", "up"]) := by
  obtain ⟨names, hnames, hnodup, hfields⟩ := h.names rfl
  have hknown : ∀ name ∈ names, name = "up" ∨ name = "down" := by
    intro name hname
    obtain ⟨f, hf, rfl⟩ := hfields name hname
    simp only [fileShape, List.mem_cons, List.not_mem_nil, or_false] at hf
    exact hf.imp (congrArg Field.name) (congrArg Field.name)
  have hup : "up" ∈ names := by
    have hpresent := h.present _ List.mem_cons_self
    rw [hnames] at hpresent
    simpa [Field.required] using hpresent
  refine ⟨names, hnames, ?_⟩
  -- The names are now known but for their order.
  by_cases hdown : "down" ∈ names
  · refine .inr (List.perm_pair.mp ((List.perm_ext_iff_of_nodup hnodup (by decide)).mpr ?_))
    intro name
    simp only [List.mem_cons, List.not_mem_nil, or_false]
    refine ⟨hknown name, ?_⟩
    rintro (rfl | rfl) <;> assumption
  · refine .inl (List.perm_singleton.mp ((List.perm_ext_iff_of_nodup hnodup (by decide)).mpr ?_))
    intro name
    rw [List.mem_singleton]
    refine ⟨fun hname => (hknown name hname).resolve_right ?_, ?_⟩
    · rintro rfl
      exact hdown hname
    · rintro rfl
      exact hup

theorem entries_cases {record : Migration} {entries : List (Option String × Document)}
    (h : (fileShape format).decodeEntries [] record entries = .ok m) :
    (∃ up, entries = [(some "up", up)]) ∨
      ∃ up down, entries = [(some "up", up), (some "down", down)] ∨
        entries = [(some "down", down), (some "up", up)] := by
  obtain ⟨names, hnames, rfl | rfl | rfl⟩ :=
    names_cases ((decodeEntries_ok_iff isPlain_fileShape).mp ⟨m, h⟩)
  · obtain ⟨⟨_, up⟩, rfl, rfl⟩ := List.map_eq_singleton_iff.mp hnames
    exact .inl ⟨up, rfl⟩
  · match entries, hnames with
    | [(_, up), (_, down)], hnames =>
      obtain ⟨rfl, rfl⟩ : _ ∧ _ := by simpa using hnames
      exact .inr ⟨up, down, .inl rfl⟩
  · match entries, hnames with
    | [(_, down), (_, up)], hnames =>
      obtain ⟨rfl, rfl⟩ : _ ∧ _ := by simpa using hnames
      exact .inr ⟨up, down, .inr rfl⟩

theorem put_eq_iff {up down : List Operation} :
    ({ id, up, down } : Migration) = m ↔ m.id = id ∧ m.up = up ∧ m.down = down := by
  obtain ⟨_, _, _⟩ := m
  simp only [Migration.mk.injEq]
  tauto

section Forms

variable {up down : Document} {seen : List String} {rest : List (Option String × Document)}
variable {items : List Document} {record : Migration}

theorem decodeEntries_up (h : "up" ∉ seen) :
    (fileShape format).decodeEntries seen record ((some "up", up) :: rest) =
      asOneOrMany (Operation.decode format) up >>= fun ups =>
        (fileShape format).decodeEntries ("up" :: seen) { record with up := ups } rest := by
  simp [decodeEntries, fileShape, Field.required, Field.orDefault, h, bind_of_map]

theorem decodeEntries_down (h : "down" ∉ seen) :
    (fileShape format).decodeEntries seen record ((some "down", down) :: rest) =
      asOneOrMany (Operation.decode format) down >>= fun downs =>
        (fileShape format).decodeEntries ("down" :: seen) { record with down := downs } rest := by
  simp [decodeEntries, fileShape, Field.required, Field.orDefault, h, bind_of_map]

theorem decodeEntries_end (h : "up" ∈ seen) :
    (fileShape format).decodeEntries seen record [] = .ok record := by
  rw [decodeEntries, checkMissing_ok]
  · rfl
  · simp [fileShape, Field.required, Field.orDefault, h]

theorem decode_up : decode format id (.mapping [(some "up", up)]) = .ok m ↔
    m.id = id ∧ Operation.AreEntries format m.up up ∧ m.down = [] := by
  unfold decode RecordShape.decode
  dsimp only
  rw [decodeEntries_up List.not_mem_nil, bind_eq_ok]
  simp only [decodeEntries_end List.mem_cons_self, operations_eq_ok_iff, Except.ok.injEq, put_eq_iff]
  constructor
  · rintro ⟨ups, hups, hid, rfl, hdown⟩
    exact ⟨hid, hups, hdown⟩
  · rintro ⟨hid, hups, hdown⟩
    exact ⟨m.up, hups, hid, rfl, hdown⟩

theorem decode_upDown : decode format id (.mapping [(some "up", up), (some "down", down)]) = .ok m ↔
    m.id = id ∧ Operation.AreEntries format m.up up ∧ Operation.AreEntries format m.down down := by
  unfold decode RecordShape.decode
  dsimp only
  rw [decodeEntries_up List.not_mem_nil, bind_eq_ok]
  simp only [decodeEntries_down (show "down" ∉ ["up"] by decide), bind_eq_ok,
    decodeEntries_end (show "up" ∈ ["down", "up"] by decide), operations_eq_ok_iff, Except.ok.injEq,
    put_eq_iff]
  constructor
  · rintro ⟨ups, hups, downs, hdowns, hid, rfl, rfl⟩
    exact ⟨hid, hups, hdowns⟩
  · rintro ⟨hid, hups, hdowns⟩
    exact ⟨m.up, hups, m.down, hdowns, hid, rfl, rfl⟩

theorem decode_downUp : decode format id (.mapping [(some "down", down), (some "up", up)]) = .ok m ↔
    m.id = id ∧ Operation.AreEntries format m.up up ∧ Operation.AreEntries format m.down down := by
  unfold decode RecordShape.decode
  dsimp only
  rw [decodeEntries_down List.not_mem_nil, bind_eq_ok]
  simp only [decodeEntries_up (show "up" ∉ ["down"] by decide), bind_eq_ok,
    decodeEntries_end (show "up" ∈ ["up", "down"] by decide), operations_eq_ok_iff, Except.ok.injEq,
    put_eq_iff]
  constructor
  · rintro ⟨downs, hdowns, ups, hups, hid, rfl, rfl⟩
    exact ⟨hid, hups, hdowns⟩
  · rintro ⟨hid, hups, hdowns⟩
    exact ⟨m.down, hdowns, m.up, hups, hid, rfl, rfl⟩

theorem decode_bareUp : decode format id (.sequence [up]) = .ok m ↔
    m.id = id ∧ Operation.AreEntries format m.up up ∧ m.down = [] := by
  rw [← decode_up]
  unfold decode RecordShape.decode
  dsimp only
  rw [decodeEntries_up List.not_mem_nil]
  simp only [decodeEntries_end List.mem_cons_self]
  simp [decodeItems, fileShape, Field.required, Field.orDefault, bind_of_map]

theorem decode_bareUpDown : decode format id (.sequence (up :: down :: items)) = .ok m ↔
    (m.id = id ∧ Operation.AreEntries format m.up up ∧ Operation.AreEntries format m.down down) ∧
      (items = [] ∨ format = .toml) := by
  rw [← decode_upDown]
  unfold decode RecordShape.decode
  dsimp only
  rw [decodeEntries_up List.not_mem_nil]
  simp only [decodeEntries_down (show "down" ∉ ["up"] by decide),
    decodeEntries_end (show "up" ∈ ["down", "up"] by decide)]
  cases items <;> cases format <;>
    simp [decodeItems, fileShape, Field.required, Field.orDefault, bind_of_map, bind_eq_ok]

end Forms

theorem decode_eq_ok_iff : decode format id d = .ok m ↔
    m.id = id ∧ (IsFile format m d ∨ IsBareFile format m d) := by
  cases d with
  | mapping entries =>
    simp only [IsBareFile, or_false, isFile_iff]
    constructor
    · intro h
      rcases entries_cases h with ⟨up, rfl⟩ | ⟨up, down, rfl | rfl⟩
      · obtain ⟨hid, hup, hdown⟩ := decode_up.mp h
        exact ⟨hid, up, hup, .inl ⟨hdown, rfl⟩⟩
      · obtain ⟨hid, hup, hdown⟩ := decode_upDown.mp h
        exact ⟨hid, up, hup, .inr ⟨down, hdown, .inl rfl⟩⟩
      · obtain ⟨hid, hup, hdown⟩ := decode_downUp.mp h
        exact ⟨hid, up, hup, .inr ⟨down, hdown, .inr rfl⟩⟩
    · rintro ⟨hid, up, hup, ⟨hdown, heq⟩ | ⟨down, hdown, heq | heq⟩⟩
      · rw [heq]
        exact decode_up.mpr ⟨hid, hup, hdown⟩
      · rw [heq]
        exact decode_upDown.mpr ⟨hid, hup, hdown⟩
      · rw [heq]
        exact decode_downUp.mpr ⟨hid, hup, hdown⟩
  | sequence items =>
    rw [or_iff_right (not_isFile fun entries h => by cases h)]
    match items with
    | [] =>
      refine iff_of_false (fun h => ?_) (fun h => h.2.elim)
      cases h
    | [up] => exact decode_bareUp
    | up :: down :: rest =>
      rw [decode_bareUpDown]
      unfold IsBareFile
      tauto
  | _ =>
    refine iff_of_false (fun h => ?_) fun h => ?_
    · obtain ⟨_, -, h⟩ := bind_eq_ok.mp h
      cases h
    · exact h.2.elim (not_isFile fun entries h => by cases h) fun h => h

/-! ## What spoils a file -/

/-- What the entries of a file have in common. -/
structure Sound (format : Format) (entries : List (Option String × Document)) : Prop where
  up : ∃ entry ∈ entries, entry.1 = some "up"
  names : ∀ entry ∈ entries, entry.1 = some "up" ∨ entry.1 = some "down"
  nodup : (entries.map (·.1)).Nodup
  values : ∀ entry ∈ entries, ∃ ops, Operation.AreEntries format ops entry.2

theorem parse_ok_iff : parse format id source = .ok m ↔
    m.id = id ∧ ∃ d, format.Denotes source d ∧ (IsFile format m d ∨ IsBareFile format m d) := by
  unfold parse
  rw [mapError_eq_ok, Format.decode_eq_ok_iff]
  simp only [decode_eq_ok_iff]
  constructor
  · rintro ⟨d, hdenotes, hid, hform⟩
    exact ⟨hid, d, hdenotes, hform⟩
  · rintro ⟨hid, d, hdenotes, hform⟩
    exact ⟨d, hdenotes, hid, hform⟩

end Migration

end SchemaMigration
