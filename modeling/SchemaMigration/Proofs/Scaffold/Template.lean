import SchemaMigration.Proofs.Document.Ahead
import SchemaMigration.Proofs.Document.Tables
import SchemaMigration.Proofs.Migration.Accepted
import SchemaMigration.Sql.Statement
import SchemaMigration.Scaffold

/-!
# The template of a migration

The template of a new migration names its file in a comment. It says a new table as long as the name
stays within that comment, and something else, or nothing, whenever it does not.
-/

namespace SchemaMigration.Scaffold

open Toml

variable {dialect : Dialect} {body : List Char}

def newTable (id : String) : Migration where
  id
  up := [.createTable {
    name := some "your_table_name", columns := [("id", "increments")], timestamps := true }]
  down := [.dropTable { name := some "your_table_name" }]

/-- What the text says as a migration without a name. -/
def saidBy (text : List Char) : Option Migration :=
  (readAllLines (text.length + 1) text).bind fun lines =>
    (assemble (splitSections lines).1 (splitSections lines).2).bind fun root =>
      (Migration.decode .toml "" root.document).toOption

theorem parse_behind {text rest : List Char} {m : Migration} (hcomment : IsComment text)
    (hmark : rest.head? ≠ some '\uFEFF') (h : saidBy rest = some m) (id : String) :
    Migration.parse .toml id (String.ofList ('#' :: text ++ '\n' :: rest)) = .ok { m with id } := by
  obtain ⟨lines, hlines, h⟩ := Option.bind_eq_some_iff.mp h
  obtain ⟨root, hroot, h⟩ := Option.bind_eq_some_iff.mp h
  have halone : read (String.ofList rest) = some root.document := by
    rw [read_eq (by rwa [String.toList_ofList]), String.toList_ofList, hlines, Option.bind_some, hroot]
    rfl
  have hwhole := read_behind_comment hcomment hmark halone
  cases hdecoded : Migration.decode .toml "" root.document with
  | error e =>
    rw [hdecoded] at h
    cases h
  | ok m' =>
    rw [hdecoded] at h
    obtain rfl := Option.some.inj h
    rw [Migration.parse_ok_iff]
    exact ⟨rfl, root.document, hwhole, (Migration.decode_eq_ok_iff.mp hdecoded).2⟩

theorem append_ofList {s t front : String} {cs ds : List Char} (hs : s = front ++ String.ofList cs)
    (ht : t = String.ofList ds) : s ++ t = front ++ String.ofList (cs ++ ds) := by
  rw [hs, ht, String.ofList_append, String.append_assoc]

/-! ## What follows the name -/

/-- A name that goes on behind its first line. -/
def droppingUsers : String := "x\n[[up]]\ndropTable = \"users\"\n#"

/-- What it says there. -/
def dropUsers : List Char := droppingUsers.toList.drop 2

/-- Sections alone, and among them one more operation for both directions. -/
def addsBoth (lines : List Line) : Bool :=
  (splitSections lines).1.isEmpty && ["up", "down"].all fun key =>
    (splitSections lines).2.any fun s =>
      s.header.row && s.header.path.isEmpty && s.header.key == key

theorem addsRow_of_addsBoth {lines : List Line} (h : addsBoth lines = true) :
    splitSections lines = ([], (splitSections lines).2) ∧
      ∀ key ∈ ["up", "down"], AddsRow key (splitSections lines).2 := by
  rw [addsBoth, Bool.and_eq_true, List.isEmpty_iff, List.all_eq_true] at h
  refine ⟨Prod.ext h.1 rfl, fun key hkey => ?_⟩
  obtain ⟨⟨⟨row, path, k⟩, pairs⟩, hs, hheader⟩ := List.any_eq_true.mp (h.2 key hkey)
  simp only [Bool.and_eq_true, List.isEmpty_iff, beq_iff_eq] at hheader
  obtain ⟨⟨rfl, rfl⟩, rfl⟩ := hheader
  exact ⟨_, hs, rfl⟩

section Arrays

variable {cs : List Char} {fuel depth : Nat}

theorem readArray_of_value {c : Char} (hc : c ≠ ']')
    (h : ∀ fuel depth, readValue fuel depth (c :: cs) = none) :
    ∀ fuel depth, readArray fuel depth (c :: cs) = none := by
  rintro (_ | fuel) depth
  · rw [readArray]
  · rw [readArray, h]
    · rfl
    · rintro _ hsame
      exact hc (List.cons.inj hsame).1

theorem readValue_of_array {c : Char} (hc : c = '[' ∨ c = 'u')
    (h : ∀ fuel depth, readArray fuel depth (c :: cs) = none) :
    ∀ fuel depth, readValue fuel depth ('[' :: c :: cs) = none := by
  have hskip : ∀ fuel, skipLines fuel (c :: cs) = c :: cs := by
    rintro (_ | fuel)
    · rfl
    · rcases hc with rfl | rfl <;> rfl
  rintro (_ | fuel) depth
  · rw [readValue]
  · simp [readValue, hskip, h]

theorem readValue_word : ∀ fuel depth, readValue fuel depth ('u' :: cs) = none := by
  rintro (_ | fuel) depth
  · rw [readValue]
  · have hdatetime : readDatetime ('u' :: cs) = none := by
      simp [readDatetime, readDate, readTime, readField]
    have hnumber : readNumber ('u' :: cs) = none := by
      simp [readNumber, hdatetime, readDecimal, Number.Decimal.splitSign, readSpecial, readWhole,
        readDigits]
    simp [readValue, hnumber]

theorem readArray_tables (rest : List Char) :
    ∀ fuel depth, readArray fuel depth ('[' :: '[' :: 'u' :: rest) = none := by
  have hword := readArray_of_value (by decide) (@readValue_word rest)
  have hinner := readArray_of_value (by decide) (readValue_of_array (.inr rfl) hword)
  exact readArray_of_value (by decide) (readValue_of_array (.inl rfl) hinner)

end Arrays

/-- What follows the name of the file. Alone it says the new table, and an operation before it is
the first of the migration. -/
structure IsBody (dialect : Dialect) (body : List Char) : Prop where
  template_eq : ∀ file, template dialect file =
    "# " ++ dialect.displayName ++ " migration: " ++ file ++ String.ofList ('\n' :: body)
  comment : body.head? = some '#'
  alone : saidBy body = some (newTable "")
  behindDrop : saidBy (dropUsers ++ ".toml\n".toList ++ body) = some { newTable "" with
    up := .dropTable { name := some "users" } :: (newTable "").up }
  adds : (readAllLines (body.length + 1) body).any addsBoth = true
  quotes : ∀ q ∈ ['"', '\''], Text.occursIn [q, q, q] body = false
  tables : (skipLines body.length body).take 3 = ['[', '[', 'u']

set_option maxRecDepth 10000 in
theorem exists_isBody (dialect : Dialect) : ∃ body, IsBody dialect body := by
  -- The pieces of the template are joined as lists of characters, for the text is read as one.
  cases dialect with
  | postgresql | mysql | sqlite =>
    refine ⟨_, fun file => append_ofList (append_ofList (append_ofList (append_ofList (append_ofList
      (append_ofList (congrArg _ (rfl : _ = String.ofList ('\n' :: _))) rfl) rfl) rfl) rfl) rfl) rfl,
      rfl, ?_, ?_, ?_, List.forall_mem_cons.mpr ⟨?_, List.forall_mem_singleton.mpr ?_⟩, ?_⟩
    all_goals decide +kernel

theorem IsBody.closing (h : IsBody dialect body) : Closing body := by
  have hquotes : ∀ q ∈ ['"', '\''], ¬ [q, q, q] <:+: body := by
    intro q hq hinfix
    rw [← Text.occursIn_iff, h.quotes q hq] at hinfix
    cases hinfix
  obtain ⟨rest, hrest⟩ : ∃ rest, skipLines body.length body = '[' :: '[' :: 'u' :: rest :=
    ⟨_, by rw [← List.take_append_drop 3 (skipLines body.length body), h.tables]; rfl⟩
  exact {
    basic := hquotes _ List.mem_cons_self
    literal := hquotes _ (by simp)
    item := hrest ▸ readArray_tables rest
    comma := by simp [hrest] }

/-- What stands between the first `#` and the name of the file. -/
def intro (dialect : Dialect) : List Char := (" " ++ dialect.displayName ++ " migration: ").toList

theorem isContent_intro (dialect : Dialect) : ∀ c ∈ intro dialect, isContent c = true := by
  rw [← List.all_eq_true]
  cases dialect <;> decide +kernel

theorem IsBody.template_ofList (h : IsBody dialect body) (file : String) :
    template dialect file =
      String.ofList ('#' :: (intro dialect ++ file.toList) ++ '\n' :: body) := by
  rw [h.template_eq, ← String.toList_inj]
  simp [intro]

/-! ## Which names stay within the comment -/

theorem parse_template {file : String} (hcomment : IsComment file.toList) :
    Migration.parse .toml file (template dialect file) = .ok (newTable file) := by
  obtain ⟨body, h⟩ := exists_isBody dialect
  have hmark : body.head? ≠ some '\uFEFF' := by
    rw [h.comment]
    decide
  rw [h.template_ofList]
  exact parse_behind ((isComment_append (isContent_intro dialect)).mpr hcomment) hmark h.alone file

section Parsed

variable {file id : String} {m : Migration}

theorem isComment_of_parse (hline : '\n' ∉ file.toList)
    (hparsed : Migration.parse .toml id (template dialect file) = .ok m) : IsComment file.toList := by
  obtain ⟨body, h⟩ := exists_isBody dialect
  obtain ⟨-, d, hdenotes, -⟩ := Migration.parse_ok_iff.mp hparsed
  have hread : read (template dialect file) = some d := hdenotes
  have hintro : '\n' ∉ intro dialect ++ file.toList :=
    List.not_mem_append (fun hmem => absurd (isContent_intro dialect _ hmem) (by decide)) hline
  rw [h.template_ofList] at hread
  have hfirst := commentLine_of_read hintro hread
  rw [← isComment_append (isContent_intro dialect), IsComment, Text.splitOn_eq_self]
  · exact List.forall_mem_singleton.mpr hfirst
  · exact List.not_mem_cons_of_ne_of_not_mem (by decide) hintro

theorem length_of_sequence {format : Format} {ops : List Operation} {ds : List Document}
    (h : Operation.AreEntries format ops (.sequence ds)) : ops.length = ds.length := by
  rcases h with ⟨ds', hsame, hds⟩ | ⟨op, -, kind, payload, hmapping, -⟩
  · obtain rfl := Document.sequence.inj hsame
    exact hds.length_eq
  · cases hmapping

/-- A name that breaks the comment says something, or leaves nothing to be read: then the file has
another operation on one of its ways, or something that a migration has not. -/
theorem isComment_of_operations (hparsed : Migration.parse .toml id (template dialect file) = .ok m)
    (hup : m.up.length = 1) (hdown : m.down.length = 1) : IsComment file.toList := by
  obtain ⟨body, h⟩ := exists_isBody dialect
  obtain ⟨-, d, hdenotes, hform⟩ := Migration.parse_ok_iff.mp hparsed
  have hread : read (template dialect file) = some d := hdenotes
  rw [h.template_ofList, read_eq (by simp), String.toList_ofList] at hread
  obtain ⟨lines, hlines, hread⟩ := Option.bind_eq_some_iff.mp hread
  obtain ⟨root, hroot, rfl⟩ := Option.map_eq_some_iff.mp hread
  obtain ⟨first, others, more, rfl, hothers, hblank⟩ := readAllLines_before h.closing hlines
  by_cases hfirst : ∀ line ∈ first, line = .blank
  · exact (isComment_append (isContent_intro dialect)).mp (hblank hfirst)
  -- What the name says is in the root, under a key that the rest of the file does not give alone.
  exfalso
  obtain ⟨lines, hlines, hadds⟩ : ∃ lines, readAllLines (body.length + 1) body = some lines ∧
      addsBoth lines = true := by
    simpa [Option.any_eq_true] using h.adds
  obtain rfl : others = lines := by
    have hsame := readAllLines_mono hothers (body.length + 1)
    rw [Nat.add_comm, readAllLines_mono hlines more] at hsame
    exact (Option.some.inj hsame).symm
  obtain ⟨hsections, hrows⟩ := addsRow_of_addsBoth hadds
  rw [splitSections_append hsections] at hroot
  obtain ⟨key, hkey, hmany⟩ := count_assemble (splitSections_ne_nil hfirst) hroot
  obtain ⟨entries, d, hdocument, hmem, hsequence⟩ := exists_entry hkey
  rw [hdocument] at hform
  obtain ⟨up, hups, hways⟩ := Migration.isFile_iff.mp (hform.resolve_right fun hbare => hbare)
  have hone : ∀ {ops : List Operation}, key ∈ ["up", "down"] →
      Operation.AreEntries .toml ops d → ops.length ≠ 1 := by
    intro ops hway hentries hone
    obtain ⟨ds, rfl, hds⟩ := hsequence (hmany (hrows key hway))
    have hlength := length_of_sequence hentries
    omega
  rcases hways with ⟨-, hsame⟩ | ⟨down, hdowns, hsame | hsame⟩
  all_goals
    obtain rfl := Document.mapping.inj hsame
    simp only [List.mem_cons, Prod.mk.injEq, Option.some.injEq, List.not_mem_nil, or_false] at hmem
  · obtain ⟨rfl, rfl⟩ := hmem
    exact hone (by simp) hups hup
  · rcases hmem with ⟨rfl, rfl⟩ | ⟨rfl, rfl⟩
    · exact hone (by simp) hups hup
    · exact hone (by simp) hdowns hdown
  · rcases hmem with ⟨rfl, rfl⟩ | ⟨rfl, rfl⟩
    · exact hone (by simp) hdowns hdown
    · exact hone (by simp) hups hup

end Parsed

theorem statement_newTable (dialect : Dialect) (id : String) :
    ∀ op ∈ (newTable id).up ++ (newTable id).down, ∃ statement, op.statement dialect = .ok statement := by
  have htranslated : ∀ op ∈ (newTable "").up ++ (newTable "").down,
      (op.statement dialect).toOption.isSome = true := by
    cases dialect <;> decide +kernel
  intro op hop
  cases h : op.statement dialect with
  | ok statement => exact ⟨statement, rfl⟩
  | error e =>
    have hsome := htranslated op hop
    rw [h] at hsome
    cases hsome

end SchemaMigration.Scaffold
