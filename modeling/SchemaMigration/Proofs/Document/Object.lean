import Mathlib.Data.List.Pairwise
import Mathlib.Data.List.Perm.Basic
import Mathlib.Logic.Function.Conjugate
import SchemaMigration.Document.Decode
import SchemaMigration.Proofs.Fallible

/-!
# Objects

An object gives its fields in any order. Each field has its own ways of being written, and
leaving it out may be one of them. A record that is decoded from an object has the given
fields set, and all others as they are in the blank record.
-/

namespace SchemaMigration

/-- Some document writes the value down, and every one that does is read as the value. -/
structure RoundTrips {α : Type} (written : Document → Prop) (read : Document → Decoded α) (a : α) :
    Prop where
  exists_written : ∃ d, written d
  reads : ∀ d, written d → read d = .ok a

namespace Document

variable {α : Type}

/-! ## How values are written -/

def IsText (s : String) (d : Document) : Prop := d = .text s

def IsBoolean (b : Bool) (d : Document) : Prop := d = .boolean b

def Items (written : α → Document → Prop) (items : List α) (d : Document) : Prop :=
  ∃ ds, d = .sequence ds ∧ List.Forall₂ written items ds

/-- A list, or the bare item of a list of one. -/
def OneOrMany (written : α → Document → Prop) (items : List α) (d : Document) : Prop :=
  Items written items d ∨ ∃ a, items = [a] ∧ written a d

/-- A text or a mapping, which count as a list of one where a list is wanted. -/
def IsBare : Document → Prop
  | .text _ | .mapping _ => True
  | _ => False

theorem roundTrips_text (s : String) : RoundTrips (IsText s) asString s where
  exists_written := ⟨.text s, rfl⟩
  reads := by
    rintro _ rfl
    rfl

theorem roundTrips_boolean (b : Bool) : RoundTrips (IsBoolean b) asBool b where
  exists_written := ⟨.boolean b, rfl⟩
  reads := by
    rintro _ rfl
    rfl

section Lists

variable {written : α → Document → Prop} {read : Document → Decoded α} {items : List α}

theorem exists_forall₂ (h : ∀ a ∈ items, ∃ d, written a d) : ∃ ds, List.Forall₂ written items ds := by
  induction items with
  | nil => exact ⟨[], .nil⟩
  | cons a rest ih =>
    rw [List.forall_mem_cons] at h
    obtain ⟨d, hd⟩ := h.1
    obtain ⟨ds, hds⟩ := ih h.2
    exact ⟨d :: ds, .cons hd hds⟩

theorem readAll_forall₂ {ds : List Document} (h : ∀ a ∈ items, RoundTrips (written a) read a)
    (hds : List.Forall₂ written items ds) : readAll read ds = .ok items := by
  induction hds with
  | nil => rfl
  | cons hd _ ih =>
    rw [List.forall_mem_cons] at h
    rw [readAll, h.1.reads _ hd, ih h.2]
    rfl

theorem roundTrips_items (h : ∀ a ∈ items, RoundTrips (written a) read a) :
    RoundTrips (Items written items) (asList read) items where
  exists_written := by
    obtain ⟨ds, hds⟩ := exists_forall₂ fun a ha => (h a ha).exists_written
    exact ⟨.sequence ds, ds, rfl, hds⟩
  reads := by
    rintro _ ⟨ds, rfl, hds⟩
    exact readAll_forall₂ h hds

theorem asOneOrMany_bare {d : Document} (h : d.IsBare) :
    asOneOrMany read d = (read d).map ([·]) := by
  cases d <;> first | rfl | exact h.elim

theorem roundTrips_oneOrMany (hbare : ∀ a ∈ items, ∀ d, written a d → d.IsBare)
    (h : ∀ a ∈ items, RoundTrips (written a) read a) :
    RoundTrips (OneOrMany written items) (asOneOrMany read) items where
  exists_written := by
    obtain ⟨d, hd⟩ := (roundTrips_items h).exists_written
    exact ⟨d, .inl hd⟩
  reads := by
    rintro d (⟨ds, rfl, hds⟩ | ⟨a, rfl, hd⟩)
    · exact readAll_forall₂ h hds
    · rw [List.forall_mem_singleton] at h hbare
      rw [asOneOrMany_bare (hbare d hd), h.reads d hd]
      rfl

end Lists

/-! ## How fields are written -/

/-- The ways to write a field: with a value, or not at all. -/
abbrev Spelling := Option Document → Prop

/-- No value is written as null or left out. -/
def Optional (written : α → Document → Prop) : Option α → Spelling
  | none, d => d = none ∨ d = some .null
  | some a, d => ∃ value, d = some value ∧ written a value

/-- The value that the field has by itself may be left out, but null is no value for it. -/
def Defaulted (blank : α) (written : α → Document → Prop) (a : α) : Spelling
  | none => a = blank
  | some d => written a d

def Required (written : α → Document → Prop) (a : α) : Spelling
  | none => False
  | some d => written a d

/-- The entries of an object in the order of its fields. -/
inductive Lists : List (String × Spelling) → List (Option String × Document) → Prop
  | nil : Lists [] []
  | omitted {name : String} {spelling : Spelling} {fields : List (String × Spelling)}
      {entries : List (Option String × Document)} :
      spelling none → Lists fields entries → Lists ((name, spelling) :: fields) entries
  | given {name : String} {spelling : Spelling} {d : Document}
      {fields : List (String × Spelling)} {entries : List (Option String × Document)} :
      spelling (some d) → Lists fields entries →
      Lists ((name, spelling) :: fields) ((some name, d) :: entries)

/-- A mapping with the given fields, in any order, and nothing else. -/
def IsObject (fields : List (String × Spelling)) (d : Document) : Prop :=
  ∃ listed entries, Lists fields listed ∧ entries.Perm listed ∧ d = .mapping entries

theorem Optional.readable {written : α → Document → Prop} {value : Option α} {d : Document}
    (h : Optional written value (some d)) (hwritten : ∀ a d, written a d → d.readable) :
    d.readable := by
  cases value with
  | none =>
    obtain h | h := h
    · simp at h
    · obtain rfl := Option.some.inj h
      rfl
  | some a =>
    obtain ⟨_, heq, hd⟩ := h
    obtain rfl := Option.some.inj heq
    exact hwritten a d hd

theorem readable_mapping {entries : List (Option String × Document)}
    (h : ∀ e ∈ entries, e.1.isSome ∧ e.2.readable) : (Document.mapping entries).readable := by
  unfold readable
  induction entries with
  | nil => rfl
  | cons e rest ih =>
    rw [List.forall_mem_cons] at h
    simp [entriesReadable, h.1, ih h.2]

theorem Lists.readable {fields : List (String × Spelling)}
    {entries : List (Option String × Document)} (h : Lists fields entries)
    (hfields : ∀ f ∈ fields, ∀ d, f.2 (some d) → d.readable) :
    ∀ e ∈ entries, e.1.isSome ∧ e.2.readable := by
  induction h with
  | nil => simp
  | omitted _ _ ih => exact ih fun f hf => hfields f (List.mem_cons_of_mem _ hf)
  | given hd _ ih =>
    rw [List.forall_mem_cons] at hfields ⊢
    exact ⟨⟨rfl, hfields.1 _ hd⟩, ih hfields.2⟩

theorem IsObject.readable {fields : List (String × Spelling)} {d : Document}
    (h : IsObject fields d) (hfields : ∀ f ∈ fields, ∀ d, f.2 (some d) → d.readable) :
    d.readable := by
  obtain ⟨listed, entries, hlisted, hperm, rfl⟩ := h
  exact readable_mapping fun e he => hlisted.readable hfields e (hperm.subset he)

end Document

namespace RecordShape

open Document

variable {α β : Type} {blank : α}

/-! ## Fields and their spellings -/

/-- The spellings of a field are all read alike: a value that is given makes the change
`put`, and where none has to be given `put` leaves the blank record as it is. -/
structure Fit (blank : α) (f : Field α) (spelled : String × Spelling) (put : α → α) : Prop where
  name : f.name = spelled.1
  possible : ∃ value, spelled.2 value
  given : ∀ d, spelled.2 (some d) → ∀ record, f.read d record = .ok (put record)
  omitted : spelled.2 none → f.optional ∧ put blank = blank

section Fields

variable {name : String} {written : β → Document → Prop} {read : Document → Decoded β}

theorem Fit.orNone {set : Option β → α → α} {value : Option β}
    (h : ∀ b, value = some b → RoundTrips (written b) read b)
    (hnull : ∀ b, read .null ≠ .ok b) (hblank : set none blank = blank) :
    Fit blank (.orNone name read set) (name, Optional written value) (set value) where
  name := rfl
  possible := by
    cases value with
    | none => exact ⟨none, .inl rfl⟩
    | some b =>
      obtain ⟨d, hd⟩ := (h b rfl).exists_written
      exact ⟨some d, d, rfl, hd⟩
  given d hd record := by
    cases value with
    | none =>
      obtain hd | hd := hd
      · simp at hd
      · obtain rfl := Option.some.inj hd
        rfl
    | some b =>
      obtain ⟨_, heq, hd⟩ := hd
      obtain rfl := Option.some.inj heq
      have hread := (h b rfl).reads d hd
      have hsome : d.asOptional read = (read d).map some := by
        cases d <;> first | rfl | exact absurd hread (hnull b)
      simp [Field.orNone, hsome, hread, Except.map]
  omitted hnone := by
    cases value with
    | none => exact ⟨rfl, hblank⟩
    | some b =>
      obtain ⟨_, heq, -⟩ := hnone
      simp at heq

theorem Fit.orDefault {set : β → α → α} {value default : β}
    (h : RoundTrips (written value) read value) (hblank : set default blank = blank) :
    Fit blank (.orDefault name read set) (name, Defaulted default written value) (set value) where
  name := rfl
  possible := by
    obtain ⟨d, hd⟩ := h.exists_written
    exact ⟨some d, hd⟩
  given d hd record := by
    simp [Field.orDefault, h.reads d hd, Except.map]
  omitted hnone := by
    obtain rfl : value = default := hnone
    exact ⟨rfl, hblank⟩

theorem Fit.required {set : β → α → α} {value : β} (h : RoundTrips (written value) read value) :
    Fit blank (.required name read set) (name, Required written value) (set value) where
  name := rfl
  possible := by
    obtain ⟨d, hd⟩ := h.exists_written
    exact ⟨some d, hd⟩
  given d hd record := by
    simp [Field.required, h.reads d hd, Except.map]
  omitted hnone := hnone.elim

end Fields

/-- The fields of a record beside their spellings and the changes that these make. -/
inductive Fits (blank : α) : List (Field α) → List (String × Spelling) → List (α → α) → Prop
  | nil : Fits blank [] [] []
  | cons {f : Field α} {spelled : String × Spelling} {put : α → α} {fields : List (Field α)}
      {spellings : List (String × Spelling)} {puts : List (α → α)} :
      Fit blank f spelled put → Fits blank fields spellings puts →
      Fits blank (f :: fields) (spelled :: spellings) (put :: puts)

variable {fields : List (Field α)} {spellings : List (String × Spelling)} {puts : List (α → α)}

theorem Fits.names (h : Fits blank fields spellings puts) :
    fields.map Field.name = spellings.map Prod.fst := by
  induction h with
  | nil => rfl
  | cons hf _ ih => rw [List.map_cons, List.map_cons, hf.name, ih]

theorem Fits.after {put : α → α} (h : Fits blank fields spellings puts)
    (hcomm : ∀ q ∈ puts, Function.Commute put q) :
    Fits (put blank) fields spellings puts := by
  induction h with
  | nil => exact .nil
  | cons hf _ ih =>
    rw [List.forall_mem_cons] at hcomm
    refine .cons { hf with omitted := fun hnone => ?_ } (ih hcomm.2)
    obtain ⟨hoptional, hblank⟩ := hf.omitted hnone
    exact ⟨hoptional, by rw [← hcomm.1 blank, hblank]⟩

theorem Fits.exists_lists (h : Fits blank fields spellings puts) : ∃ listed, Lists spellings listed := by
  induction h with
  | nil => exact ⟨[], .nil⟩
  | cons hf _ ih =>
    obtain ⟨listed, hlisted⟩ := ih
    obtain ⟨_ | d, hvalue⟩ := hf.possible
    · exact ⟨listed, .omitted hvalue hlisted⟩
    · exact ⟨_, .given hvalue hlisted⟩

/-! ## Decoding -/

def putAll (puts : List (α → α)) (record : α) : α := puts.foldl (fun record put => put record) record

theorem putAll_perm {puts' : List (α → α)} (hperm : puts'.Perm puts)
    (hcomm : puts.Pairwise Function.Commute) (record : α) :
    putAll puts' record = putAll puts record := by
  have hpairs : ∀ p ∈ puts, ∀ q ∈ puts, Function.Commute p q := by
    intro p hp q hq
    exact hcomm.forall_of_forall_of_flip (fun p _ => .refl p) (hcomm.imp fun h => h.symm) hp hq
  refine hperm.foldl_eq' (fun p hp q hq record => ?_) record
  exact hpairs q (hperm.subset hq) p (hperm.subset hp) record

/-- A field that is given, with what its value changes. -/
structure Given (α : Type) where
  field : Field α
  value : Document
  put : α → α
  reads : ∀ record, field.read value record = .ok (put record)

def Given.name (g : Given α) : String := g.field.name

def Gives (entries : List (Option String × Document)) (givens : List (Given α)) : Prop :=
  List.Forall₂ (fun entry g => entry = (some g.name, g.value)) entries givens

/-- The entries, taken in the order of the fields, are those of the fields that are given. The
other fields are not missed, and what they are set to is what they are. -/
theorem Fits.givens {listed : List (Option String × Document)}
    (h : Fits blank fields spellings puts) (hcomm : puts.Pairwise Function.Commute)
    (hlisted : Lists spellings listed) :
    ∃ givens : List (Given α), Gives listed givens ∧
      (givens.map Given.field).Sublist fields ∧ (givens.map Given.put).Sublist puts ∧
      (∀ f ∈ fields, f.optional ∨ f ∈ givens.map Given.field) ∧
      putAll (givens.map Given.put) blank = putAll puts blank := by
  -- What a field is set to is part of the blank record for the fields after it.
  induction hlisted generalizing blank fields puts with
  | nil =>
    cases h
    exact ⟨[], .nil, .slnil, .slnil, by simp, rfl⟩
  | omitted hnone _ ih =>
    obtain _ | ⟨hf, hrest⟩ := h
    obtain ⟨givens, hentries, hfields, hputs, hmissing, hfold⟩ := ih hrest hcomm.of_cons
    obtain ⟨hoptional, hblank⟩ := hf.omitted hnone
    refine ⟨givens, hentries, hfields.cons _, hputs.cons _, ?_, ?_⟩
    · exact List.forall_mem_cons.mpr ⟨.inl hoptional, hmissing⟩
    · unfold putAll at hfold ⊢
      rw [List.foldl_cons, hblank, hfold]
  | @given name _ d _ _ hd _ ih =>
    obtain _ | @⟨f, _, put, _, _, _, hf, hrest⟩ := h
    obtain ⟨hput, hcomm⟩ := List.pairwise_cons.mp hcomm
    obtain ⟨givens, hentries, hfields, hputs, hmissing, hfold⟩ := ih (hrest.after hput) hcomm
    let g : Given α := ⟨f, d, put, hf.given d hd⟩
    refine ⟨g :: givens, .cons ?_ hentries, hfields.cons_cons f, hputs.cons_cons put, ?_, hfold⟩
    · rw [show g.name = name from hf.name]
    · rw [List.map_cons, List.forall_mem_cons]
      exact ⟨.inr List.mem_cons_self, fun f hf => (hmissing f hf).imp_right (List.mem_cons_of_mem _)⟩

variable {shape : RecordShape α} {givens : List (Given α)}

theorem find?_name {f : Field α} (hnodup : (fields.map Field.name).Nodup) (hf : f ∈ fields) :
    fields.find? (·.name == f.name) = some f := by
  induction fields with
  | nil => simp at hf
  | cons g rest ih =>
    rw [List.map_cons, List.nodup_cons] at hnodup
    rw [List.find?_cons]
    obtain rfl | hf := List.mem_cons.mp hf
    · simp
    · have hne : (g.name == f.name) = false := by
        rw [beq_eq_false_iff_ne]
        intro heq
        exact hnodup.1 (heq ▸ List.mem_map_of_mem hf)
      rw [hne]
      exact ih hnodup.2 hf

theorem checkMissing_ok {seen : List String} (h : ∀ f ∈ shape.fields, f.optional ∨ f.name ∈ seen) :
    shape.checkMissing seen = .ok () := by
  have hnone : shape.fields.find? (fun f => !f.optional && !seen.contains f.name) = none := by
    rw [List.find?_eq_none]
    intro f hf
    obtain hoptional | hseen := h f hf
    · simp [hoptional]
    · simp [hseen]
  unfold checkMissing
  rw [hnone]

theorem decodeEntries_givens {entries : List (Option String × Document)} {seen : List String}
    {record : α}
    (hentries : Gives entries givens) (hfields : ∀ g ∈ givens, g.field ∈ shape.fields)
    (hnodup : (shape.fields.map Field.name).Nodup) (hfresh : (givens.map Given.name ++ seen).Nodup)
    (hmissing : ∀ f ∈ shape.fields, f.optional ∨ f.name ∈ givens.map Given.name ++ seen) :
    shape.decodeEntries seen record entries = .ok (putAll (givens.map Given.put) record) := by
  induction hentries generalizing seen record with
  | nil =>
    have hseen : ∀ f ∈ shape.fields, f.optional ∨ f.name ∈ seen := hmissing
    rw [decodeEntries, checkMissing_ok hseen]
    rfl
  | @cons _ g _ givens hentry _ ih =>
    subst hentry
    -- The name moves from those to come to those seen.
    rw [List.forall_mem_cons] at hfields
    have hperm : ((g :: givens).map Given.name ++ seen).Perm
        (givens.map Given.name ++ g.name :: seen) :=
      List.perm_middle.symm
    have hnew : g.name ∉ seen := by
      intro hseen
      exact (List.nodup_cons.mp hfresh).1 (List.mem_append_right _ hseen)
    have hfind : shape.fields.find? (·.name == g.name) = some g.field := find?_name hnodup hfields.1
    rw [decodeEntries, hfind]
    simp only [List.contains_eq_mem, hnew, decide_false, Bool.false_eq_true, ↓reduceIte]
    rw [g.reads]
    refine ih hfields.2 (hperm.nodup_iff.mp hfresh) fun f hf => ?_
    exact (hmissing f hf).imp_right fun hseen => hperm.subset hseen

/-- A record is decoded from every object of its fields: none is lost, and none is set to what
another one says. -/
theorem roundTrips_object {format : Format} {a : α}
    (hfits : Fits blank shape.fields spellings puts)
    (hnames : (spellings.map Prod.fst).Nodup)
    (hcomm : puts.Pairwise fun p q => ∀ record, p (q record) = q (p record))
    (hall : putAll puts blank = a) :
    RoundTrips (IsObject spellings) (shape.decode format blank) a where
  exists_written := by
    obtain ⟨listed, hlisted⟩ := hfits.exists_lists
    exact ⟨.mapping listed, listed, listed, hlisted, .refl _, rfl⟩
  reads := by
    rintro _ ⟨listed, entries, hlisted, hperm, rfl⟩
    have hnodup : (shape.fields.map Field.name).Nodup := hfits.names ▸ hnames
    obtain ⟨inOrder, hinOrder, hfields, hputs, hmissing, hfold⟩ := hfits.givens hcomm hlisted
    obtain ⟨givens, hentries, hgivens⟩ := List.perm_comp_forall₂ hperm hinOrder
    have hknown : ∀ g ∈ givens, g.field ∈ shape.fields := by
      intro g hg
      exact hfields.subset (List.mem_map_of_mem (hgivens.subset hg))
    have hdistinct : (givens.map Given.name).Nodup := by
      have hsub := (hfields.map Field.name).nodup hnodup
      rw [List.map_map] at hsub
      exact (hgivens.map _).nodup_iff.mpr hsub
    have hpresent : ∀ f ∈ shape.fields, f.optional ∨ f.name ∈ givens.map Given.name := by
      intro f hf
      refine (hmissing f hf).imp_right fun hgiven => ?_
      obtain ⟨g, hg, rfl⟩ := List.mem_map.mp hgiven
      exact List.mem_map_of_mem (hgivens.mem_iff.mpr hg)
    rw [decode, decodeEntries_givens hentries hknown hnodup (by simpa using hdistinct)
      (by simpa using hpresent), putAll_perm (hgivens.map _) (List.Pairwise.sublist hputs hcomm), hfold,
      hall]

end RecordShape

end SchemaMigration
