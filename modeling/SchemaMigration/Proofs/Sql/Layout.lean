import SchemaMigration.Proofs.Fallible
import SchemaMigration.Sql.Statement

/-!
# Where the names stand in a statement

A statement of PostgreSQL is laid out as text with names in it: of tables, columns, indexes and
constraints. A name is written between double quotes or as it was given.
-/

namespace SchemaMigration

open Text Sql

namespace Sql

inductive Role
  | table
  | column
  | index
  | constraint
  deriving DecidableEq, Repr

inductive Part
  | text (s : String)
  | name (role : Role) (quoted : Bool) (given : String)
  deriving DecidableEq, Repr

def Part.written : Part → String
  | .text s => s
  | .name _ true given => quoteIdentifier given
  | .name _ false given => given

def render (parts : List Part) : String := String.join (parts.map (·.written))

def Part.name? : Part → Option (Role × String)
  | .text _ => none
  | .name role _ given => some (role, given)

/-- The names that are written, in order. -/
def namesIn (parts : List Part) : List (Role × String) := parts.filterMap (·.name?)

def commaSeparated (items : List (List Part)) : List Part := [Part.text ", "].intercalate items

abbrev bareTable (given : Option String) : Part := .name .table false (fieldText given)

abbrev bareColumn (given : Option String) : Part := .name .column false (fieldText given)

abbrev quotedTable (given : Option String) : Part := .name .table true (fieldText given)

abbrev quotedColumn (given : Option String) : Part := .name .column true (fieldText given)

def quotedColumns (names : List String) : List Part :=
  commaSeparated (names.map fun given => [.name .column true given])

def columnPart (given sql : String) : List Part := [.name .column false given, .text (" " ++ sql)]

/-- The columns of a new table, up to the first that cannot be written. -/
def columnParts : Columns → Except MigrationError (List (List Part))
  | [] => .ok []
  | (given, definition) :: rest => do
    let sql ← columnSql .postgresql given definition
    let columns ← columnParts rest
    return columnPart given sql :: columns

/-- The columns that no name is given for. -/
def timeParts (timestamps : Bool) : List (List Part) :=
  if timestamps then (timestampColumns .postgresql).map fun s => [.text s] else []

end Sql

namespace Operation

/-- The statement of an operation on PostgreSQL with its names apart from the text. -/
def layout : Operation → Except MigrationError (List Part)
  | .createTable op => do
    let columns ← columnParts op.columns
    return [.text "CREATE TABLE IF NOT EXISTS ", bareTable op.name, .text " ("] ++
      commaSeparated (columns ++ timeParts op.timestamps) ++ [.text ");"]
  | .dropTable op => .ok [.text "DROP TABLE IF EXISTS ", bareTable op.name, .text ";"]
  | .renameTable op =>
    .ok [.text "ALTER TABLE ", bareTable op.old, .text " RENAME TO ", bareTable op.new, .text ";"]
  | .addColumn op => do
    let sql ← columnSql .postgresql (fieldText op.column) (fieldText op.definition)
    return [.text "ALTER TABLE ", bareTable op.table, .text " ADD COLUMN ", bareColumn op.column,
      .text (" " ++ sql ++ ";")]
  | .dropColumn op =>
    .ok [.text "ALTER TABLE ", bareTable op.table, .text " DROP COLUMN ", bareColumn op.column,
      .text ";"]
  | .renameColumn op =>
    .ok [.text "ALTER TABLE ", quotedTable op.table, .text " RENAME COLUMN ", quotedColumn op.old,
      .text " TO ", quotedColumn op.new, .text ";"]
  | .alterColumn op => do
    let c ← parseColumn (fieldText op.definition)
    let type ← columnType .postgresql c
    return [.text "ALTER TABLE ", quotedTable op.table, .text " ALTER COLUMN ",
      quotedColumn op.column, .text (" TYPE " ++ type ++ " USING "), quotedColumn op.column,
      .text ("::" ++ type ++ ";")]
  | .addIndex op =>
    .ok ([.text (if op.isUnique then "CREATE UNIQUE INDEX " else "CREATE INDEX "),
      .name .index true (fieldText op.name), .text " ON ", quotedTable op.table, .text " ("] ++
        quotedColumns op.columns ++ [.text ");"])
  | .dropIndex op =>
    .ok [.text "DROP INDEX IF EXISTS ", .name .index true (fieldText op.name), .text ";"]
  | .addForeignKey op =>
    let target := op.references.getD {}
    .ok ([.text "ALTER TABLE ", quotedTable op.table, .text " ADD CONSTRAINT ",
      .name .constraint true (fieldText op.name), .text " FOREIGN KEY ("] ++
        quotedColumns op.columns ++ [.text ") REFERENCES ", quotedTable target.table, .text " ("] ++
        quotedColumns target.columns ++ [.text ")", .text (referentialActions op ++ ";")])
  | .dropForeignKey op =>
    .ok [.text "ALTER TABLE ", quotedTable op.table, .text " DROP CONSTRAINT IF EXISTS ",
      .name .constraint true (fieldText op.name), .text ";"]
  | .raw op => .ok [.text (fieldText op.sql)]
  | .unknown kind => .error (.unsupported kind .postgresql none)

/-- The names of an operation in the order of its statement on PostgreSQL. -/
def names : Operation → List (Role × String)
  | .createTable op => (.table, fieldText op.name) :: op.columns.map fun column => (.column, column.1)
  | .dropTable op => [(.table, fieldText op.name)]
  | .renameTable op => [(.table, fieldText op.old), (.table, fieldText op.new)]
  | .addColumn op => [(.table, fieldText op.table), (.column, fieldText op.column)]
  | .dropColumn op => [(.table, fieldText op.table), (.column, fieldText op.column)]
  | .renameColumn op =>
    [(.table, fieldText op.table), (.column, fieldText op.old), (.column, fieldText op.new)]
  | .alterColumn op =>
    [(.table, fieldText op.table), (.column, fieldText op.column), (.column, fieldText op.column)]
  | .addIndex op =>
    [(.index, fieldText op.name), (.table, fieldText op.table)] ++
      op.columns.map fun given => (.column, given)
  | .dropIndex op => [(.index, fieldText op.name)]
  | .addForeignKey op =>
    let target := op.references.getD {}
    [(.table, fieldText op.table), (.constraint, fieldText op.name)] ++
      op.columns.map (fun given => (.column, given)) ++ [(.table, fieldText target.table)] ++
      target.columns.map fun given => (.column, given)
  | .dropForeignKey op => [(.table, fieldText op.table), (.constraint, fieldText op.name)]
  | .raw _ | .unknown _ => []

/-- The statement writes its names between quotes. -/
def quotes : Operation → Bool
  | .renameColumn _ | .alterColumn _ | .addIndex _ | .dropIndex _ | .addForeignKey _ |
    .dropForeignKey _ => true
  | _ => false

end Operation

namespace Sql

@[simp] theorem written_text (s : String) : (Part.text s).written = s := rfl

@[simp] theorem written_quoted (role : Role) (given : String) :
    (Part.name role true given).written = identifier .postgresql given := rfl

@[simp] theorem written_bare (role : Role) (given : String) :
    (Part.name role false given).written = given := rfl

@[simp] theorem render_nil : render [] = "" := rfl

@[simp] theorem render_cons (part : Part) (parts : List Part) :
    render (part :: parts) = part.written ++ render parts := String.join_cons

@[simp] theorem render_append (parts others : List Part) :
    render (parts ++ others) = render parts ++ render others := by
  unfold render
  rw [List.map_append, String.join_append]

@[simp] theorem commaSeparated_nil : commaSeparated [] = [] := rfl

@[simp] theorem commaSeparated_singleton (item : List Part) : commaSeparated [item] = item := by
  simp [commaSeparated]

@[simp] theorem commaSeparated_cons_cons (item other : List Part) (items : List (List Part)) :
    commaSeparated (item :: other :: items) =
      item ++ .text ", " :: commaSeparated (other :: items) := by
  simp [commaSeparated, List.intercalate_cons_cons]

theorem render_commaSeparated (items : List (List Part)) :
    render (commaSeparated items) = ", ".intercalate (items.map render) := by
  induction items with
  | nil => rfl
  | cons item items ih =>
    cases items with
    | nil => simp
    | cons other items =>
      rw [commaSeparated_cons_cons, render_append, render_cons, ih]
      simp [String.append_assoc]

theorem render_quotedColumns (names : List String) :
    render (quotedColumns names) = identifierList .postgresql names := by
  unfold quotedColumns identifierList
  rw [render_commaSeparated, List.map_map]
  congr

theorem columnList_eq (columns : Columns) :
    columnList .postgresql columns = (columnParts columns).map (·.map render) := by
  induction columns with
  | nil => rfl
  | cons column columns ih =>
    unfold columnList columnParts
    rw [ih, map_bind]
    refine bind_congr fun sql => ?_
    rw [map_bind, bind_of_map]
    refine bind_congr fun parts => ?_
    simp [pure, Except.pure, Except.map, columnPart, String.append_assoc]

theorem map_timeParts (timestamps : Bool) : (timeParts timestamps).map render =
    if timestamps then timestampColumns .postgresql else [] := by
  cases timestamps <;> rfl

theorem createTable_eq (op : CreateTable) :
    createTable .postgresql op = (Operation.createTable op).layout.map render := by
  unfold createTable Operation.layout
  dsimp only
  rw [columnList_eq, map_bind, bind_of_map]
  refine bind_congr fun columns => ?_
  rw [← map_timeParts]
  simp [pure, Except.pure, Except.map, render_commaSeparated, String.append_assoc]

theorem addColumn_eq (op : AddColumn) :
    addColumn .postgresql op = (Operation.addColumn op).layout.map render := by
  unfold addColumn Operation.layout
  dsimp only
  rw [map_bind]
  refine bind_congr fun sql => ?_
  simp [pure, Except.pure, Except.map, String.append_assoc]

theorem alterColumn_eq (op : AlterColumn) :
    alterColumn .postgresql op = (Operation.alterColumn op).layout.map render := by
  unfold alterColumn Operation.layout
  dsimp only
  rw [map_bind]
  refine bind_congr fun c => ?_
  rw [map_bind]
  refine bind_congr fun type => ?_
  -- The appends are put in order only once every part is written out.
  simp only [pure, Except.pure, Except.map, render_cons, render_nil, written_text, written_quoted]
  simp only [String.append_assoc, String.append_empty]

theorem addIndex_eq (op : AddIndex) :
    .ok (addIndex .postgresql op) = (Operation.addIndex op).layout.map render := by
  unfold addIndex Operation.layout
  cases hunique : op.isUnique <;>
    simp [hunique, Except.map, render_quotedColumns, String.append_assoc]

theorem addForeignKey_eq (op : AddForeignKey) :
    .ok (addForeignKey .postgresql op) = (Operation.addForeignKey op).layout.map render := by
  unfold addForeignKey Operation.layout
  simp [Except.map, render_quotedColumns, String.append_assoc]

end Sql

theorem Operation.write_eq (op : Operation) : write .postgresql op = op.layout.map render := by
  cases op with
  | createTable op => exact createTable_eq op
  | addColumn op => exact addColumn_eq op
  | alterColumn op => exact alterColumn_eq op
  | addIndex op => exact addIndex_eq op
  | addForeignKey op => exact addForeignKey_eq op
  | dropTable op =>
    unfold write Sql.dropTable layout
    simp [Except.map, String.append_assoc]
  | renameTable op =>
    unfold write Sql.renameTable layout
    simp [Except.map, String.append_assoc]
  | dropColumn op =>
    unfold write Sql.dropColumn layout
    simp [Except.map, String.append_assoc]
  | renameColumn op =>
    unfold write Sql.renameColumn layout
    simp only [Except.map, render_cons, render_nil, written_text, written_quoted]
    simp only [String.append_assoc, String.append_empty]
  | dropIndex op =>
    unfold write Sql.dropIndex layout
    simp [Except.map, String.append_assoc]
  | dropForeignKey op =>
    unfold write Sql.dropForeignKey layout
    simp [Except.map, String.append_assoc]
  | raw op =>
    unfold write layout
    simp [Except.map]
  | unknown kind => rfl

namespace Sql

/-! ## Names in the layout -/

variable {parts others : List Part} {items : List (List Part)} {part : Part}

@[simp] theorem namesIn_nil : namesIn [] = [] := rfl

@[simp] theorem namesIn_text (s : String) (parts : List Part) :
    namesIn (.text s :: parts) = namesIn parts := rfl

@[simp] theorem namesIn_name (role : Role) (quoted : Bool) (given : String) (parts : List Part) :
    namesIn (.name role quoted given :: parts) = (role, given) :: namesIn parts := rfl

@[simp] theorem namesIn_append (parts others : List Part) :
    namesIn (parts ++ others) = namesIn parts ++ namesIn others := List.filterMap_append

theorem namesIn_commaSeparated (items : List (List Part)) :
    namesIn (commaSeparated items) = items.flatMap namesIn := by
  induction items with
  | nil => rfl
  | cons item items ih =>
    cases items with
    | nil => simp
    | cons other items =>
      rw [commaSeparated_cons_cons, namesIn_append, namesIn_text, ih]
      simp

theorem namesIn_quotedColumns (names : List String) :
    namesIn (quotedColumns names) = names.map fun given => (.column, given) := by
  unfold quotedColumns
  rw [namesIn_commaSeparated, List.flatMap_map]
  exact List.map_eq_flatMap.symm

theorem namesIn_timeParts (timestamps : Bool) : (timeParts timestamps).flatMap namesIn = [] := by
  cases timestamps <;> rfl

theorem forall₂_columnParts {columns : Columns} (hlaid : columnParts columns = .ok items) :
    List.Forall₂ (fun column item => ∃ sql, item = columnPart column.1 sql) columns items := by
  induction columns generalizing items with
  | nil =>
    cases hlaid
    exact .nil
  | cons column columns ih =>
    unfold columnParts at hlaid
    obtain ⟨sql, -, hlaid⟩ := bind_eq_ok.mp hlaid
    obtain ⟨rest, hlaidRest, hlaid⟩ := bind_eq_ok.mp hlaid
    cases hlaid
    exact .cons ⟨sql, rfl⟩ (ih hlaidRest)

theorem exists_of_mem_columnParts {columns : Columns} {item : List Part}
    (hlaid : columnParts columns = .ok items) (hmem : item ∈ items) :
    ∃ given sql, item = columnPart given sql := by
  have hshape := forall₂_columnParts hlaid
  clear hlaid
  induction hshape with
  | nil => cases hmem
  | @cons column _ _ _ hfirst _ ih =>
    rcases List.mem_cons.mp hmem with rfl | hmem
    · exact ⟨column.1, hfirst⟩
    · exact ih hmem

theorem namesIn_columnParts {columns : Columns} (hlaid : columnParts columns = .ok items) :
    items.flatMap namesIn = columns.map fun column => (.column, column.1) := by
  have hshape := forall₂_columnParts hlaid
  clear hlaid
  induction hshape with
  | nil => rfl
  | cons hfirst _ ih =>
    obtain ⟨sql, rfl⟩ := hfirst
    simp [columnPart, ih]

theorem mem_commaSeparated (hmem : part ∈ commaSeparated items) :
    part = .text ", " ∨ ∃ item ∈ items, part ∈ item := by
  induction items with
  | nil => cases hmem
  | cons item items ih =>
    cases items with
    | nil => exact .inr ⟨item, List.mem_cons_self, by simpa using hmem⟩
    | cons other items =>
      rw [commaSeparated_cons_cons, List.mem_append, List.mem_cons] at hmem
      rcases hmem with hmem | hmem | hmem
      · exact .inr ⟨item, List.mem_cons_self, hmem⟩
      · exact .inl hmem
      · exact (ih hmem).imp_right fun ⟨inner, hmemItems, hmemPart⟩ =>
          ⟨inner, List.mem_cons_of_mem _ hmemItems, hmemPart⟩

/-- The text tells that a name before it has ended. -/
def Delimits (s : String) : Prop := ∃ c ∈ s.toList.head?, c ∈ [' ', ',', ')', ';', ':']

/-- Every name is followed by a text that tells so. -/
def Delimited : List Part → Prop
  | [] => True
  | .text _ :: parts => Delimited parts
  | .name _ _ _ :: .text s :: parts => Delimits s ∧ Delimited parts
  | .name _ _ _ :: _ => False

@[simp] theorem delimited_nil : Delimited [] := trivial

@[simp] theorem delimited_text (s : String) : Delimited (.text s :: parts) ↔ Delimited parts := by
  cases parts <;> rfl

@[simp] theorem delimited_name (role : Role) (quoted : Bool) (given s : String) :
    Delimited (.name role quoted given :: .text s :: parts) ↔ Delimits s ∧ Delimited parts := Iff.rfl

theorem Delimits.append {s : String} (hdelimits : Delimits s) (x : String) : Delimits (s ++ x) := by
  obtain ⟨c, hhead, hmem⟩ := hdelimits
  refine ⟨c, ?_, hmem⟩
  rw [String.toList_append, List.head?_append, Option.mem_def.mp hhead]
  rfl

theorem Delimited.after_name {role : Role} {quoted : Bool} {given : String}
    (hdelimited : Delimited (.name role quoted given :: parts)) :
    Delimits (render parts) ∧ Delimited parts := by
  cases parts with
  | nil => cases hdelimited
  | cons part parts =>
    cases part with
    | name => cases hdelimited
    | text s =>
      obtain ⟨hends, hafter⟩ := hdelimited
      exact ⟨by simpa using hends.append (render parts), (delimited_text s).mpr hafter⟩

/-- Parts that a delimiting text may follow. -/
def Closed (parts : List Part) : Prop :=
  ∀ s rest, Delimits s → Delimited rest → Delimited (parts ++ .text s :: rest)

theorem closed_nil : Closed [] := fun s _ _ hafter => (delimited_text s).mpr hafter

theorem closed_commaSeparated (hclosed : ∀ item ∈ items, Closed item) :
    Closed (commaSeparated items) := by
  induction items with
  | nil => exact closed_nil
  | cons item items ih =>
    obtain ⟨hfirst, hothers⟩ := List.forall_mem_cons.mp hclosed
    cases items with
    | nil => simpa using hfirst
    | cons other items =>
      intro s rest hends hafter
      rw [commaSeparated_cons_cons, List.append_assoc, List.cons_append]
      exact hfirst ", " _ (by simp [Delimits]) (ih hothers s rest hends hafter)

theorem closed_quotedColumns (names : List String) : Closed (quotedColumns names) := by
  refine closed_commaSeparated fun item hmem => ?_
  obtain ⟨given, -, rfl⟩ := List.mem_map.mp hmem
  exact fun _ _ hends hafter => ⟨hends, hafter⟩

theorem closed_timeParts (timestamps : Bool) : ∀ item ∈ timeParts timestamps, Closed item := by
  unfold timeParts
  split
  · refine List.forall_mem_map.mpr fun text _ s rest _ hafter => ?_
    simpa using hafter
  · exact List.forall_mem_nil _

theorem closed_columnParts {columns : Columns} (hlaid : columnParts columns = .ok items) :
    ∀ item ∈ items, Closed item := by
  intro item hmem
  obtain ⟨given, sql, rfl⟩ := exists_of_mem_columnParts hlaid hmem
  intro s rest _ hafter
  simpa [columnPart, Delimits] using hafter

def Part.WrittenAs (quotes : Bool) : Part → Prop
  | .text _ => True
  | .name _ quoted _ => quoted = quotes

@[simp] theorem writtenAs_text (quotes : Bool) (s : String) : (Part.text s).WrittenAs quotes := trivial

@[simp] theorem writtenAs_name (role : Role) (quoted : Bool) (given : String) :
    (Part.name role quoted given).WrittenAs quoted := rfl

theorem writtenAs_commaSeparated {quotes : Bool}
    (heach : ∀ item ∈ items, ∀ part ∈ item, part.WrittenAs quotes) :
    ∀ part ∈ commaSeparated items, part.WrittenAs quotes := by
  intro part hmem
  rcases mem_commaSeparated hmem with rfl | ⟨item, hmemItems, hmem⟩
  · trivial
  · exact heach item hmemItems part hmem

theorem writtenAs_quotedColumns (names : List String) :
    ∀ part ∈ quotedColumns names, part.WrittenAs true :=
  writtenAs_commaSeparated <| List.forall_mem_map.mpr fun given _ =>
    List.forall_mem_singleton.mpr (writtenAs_name .column true given)

theorem writtenAs_timeParts (timestamps : Bool) :
    ∀ item ∈ timeParts timestamps, ∀ part ∈ item, part.WrittenAs false := by
  unfold timeParts
  split
  · exact List.forall_mem_map.mpr fun s _ => List.forall_mem_singleton.mpr trivial
  · exact List.forall_mem_nil _

theorem writtenAs_columnParts {columns : Columns} (hlaid : columnParts columns = .ok items) :
    ∀ item ∈ items, ∀ part ∈ item, part.WrittenAs false := by
  intro item hmem
  obtain ⟨given, sql, rfl⟩ := exists_of_mem_columnParts hlaid hmem
  simp [columnPart]

end Sql

namespace Operation

/-- The parts are the operation's names in their order, each ends where its text does, and they are
either all quoted or all bare. -/
structure LaidOut (op : Operation) (parts : List Part) : Prop where
  names : namesIn parts = op.names
  delimited : Delimited parts
  quoted : ∀ part ∈ parts, part.WrittenAs op.quotes

variable {parts : List Part}

theorem laidOut_createTable {op : CreateTable} (hlaid : layout (.createTable op) = .ok parts) :
    LaidOut (.createTable op) parts := by
  obtain ⟨columns, hlaidColumns, hlaid⟩ := bind_eq_ok.mp hlaid
  cases hlaid
  constructor
  · simp [names, namesIn_commaSeparated, namesIn_timeParts, namesIn_columnParts hlaidColumns]
  · have hclosed : Closed (commaSeparated (columns ++ timeParts op.timestamps)) :=
      closed_commaSeparated <| List.forall_mem_append.mpr
        ⟨closed_columnParts hlaidColumns, closed_timeParts op.timestamps⟩
    have hended := hclosed ");" [] (by simp [Delimits]) trivial
    simpa [Delimits] using hended
  · have hbare := writtenAs_commaSeparated <| List.forall_mem_append.mpr
      ⟨writtenAs_columnParts hlaidColumns, writtenAs_timeParts op.timestamps⟩
    simpa [quotes, or_imp, forall_and] using hbare

theorem laidOut_addColumn {op : AddColumn} (hlaid : layout (.addColumn op) = .ok parts) :
    LaidOut (.addColumn op) parts := by
  obtain ⟨sql, -, hlaid⟩ := bind_eq_ok.mp hlaid
  cases hlaid
  exact ⟨rfl, by simp [Delimits], by simp [quotes]⟩

theorem laidOut_alterColumn {op : AlterColumn} (hlaid : layout (.alterColumn op) = .ok parts) :
    LaidOut (.alterColumn op) parts := by
  obtain ⟨c, -, hlaid⟩ := bind_eq_ok.mp hlaid
  obtain ⟨type, -, hlaid⟩ := bind_eq_ok.mp hlaid
  cases hlaid
  exact ⟨rfl, by simp [Delimits], by simp [quotes]⟩

theorem laidOut_addIndex {op : AddIndex} (hlaid : layout (.addIndex op) = .ok parts) :
    LaidOut (.addIndex op) parts := by
  cases hlaid
  constructor
  · simp [names, namesIn_quotedColumns]
  · have hended := closed_quotedColumns op.columns ");" [] (by simp [Delimits]) trivial
    simpa [Delimits] using hended
  · have hquoted := writtenAs_quotedColumns op.columns
    simpa [quotes, or_imp, forall_and] using hquoted

theorem laidOut_addForeignKey {op : AddForeignKey} (hlaid : layout (.addForeignKey op) = .ok parts) :
    LaidOut (.addForeignKey op) parts := by
  cases hlaid
  constructor
  · simp [names, namesIn_quotedColumns]
  · -- The second list of columns belongs to what follows the first.
    have htarget := closed_quotedColumns (op.references.getD {}).columns
      ")" [.text (referentialActions op ++ ";")] (by simp [Delimits]) trivial
    have hended := closed_quotedColumns op.columns ") REFERENCES "
      (quotedTable (op.references.getD {}).table :: .text " (" ::
        (quotedColumns (op.references.getD {}).columns ++
          [.text ")", .text (referentialActions op ++ ";")]))
      (by simp [Delimits]) (by simpa [Delimits] using htarget)
    simpa [Delimits] using hended
  · have hquoted := writtenAs_quotedColumns op.columns
    have htarget := writtenAs_quotedColumns (op.references.getD {}).columns
    simpa [quotes, or_imp, forall_and] using ⟨hquoted, htarget⟩

theorem laidOut_of_layout {op : Operation} (hlaid : op.layout = .ok parts) : op.LaidOut parts := by
  cases op with
  | createTable op => exact laidOut_createTable hlaid
  | addColumn op => exact laidOut_addColumn hlaid
  | alterColumn op => exact laidOut_alterColumn hlaid
  | addIndex op => exact laidOut_addIndex hlaid
  | addForeignKey op => exact laidOut_addForeignKey hlaid
  | dropTable | renameTable | dropColumn | renameColumn | dropIndex | dropForeignKey | raw =>
    cases hlaid
    exact ⟨rfl, by simp [Delimits], by simp [quotes]⟩
  | unknown kind => cases hlaid

end Operation

end SchemaMigration
