import SchemaMigration.Proofs.Operation.Required
import SchemaMigration.Proofs.Sql.Layout
import SchemaMigration.Proofs.Text.Doubled

/-!
# Identifiers between quotes

The statements of PostgreSQL that write nothing but names between quotes tell the names apart,
whatever characters they have.
-/

namespace SchemaMigration

open Text Sql

namespace Sql

variable {a b s x y rest others : String} {as bs : List String}

/-! ## One quoted name -/

theorem toList_identifier_append (a rest : String) : (identifier .postgresql a ++ rest).toList =
    '"' :: (doubled '"' a.toList ++ '"' :: rest.toList) := by
  simp [identifier, quoteIdentifier]

theorem identifier_append_inj (hends : rest.toList.head? ≠ some '"')
    (hends' : others.toList.head? ≠ some '"')
    (hsame : identifier .postgresql a ++ rest = identifier .postgresql b ++ others) :
    a = b ∧ rest = others := by
  have hchars := congrArg String.toList hsame
  rw [toList_identifier_append, toList_identifier_append] at hchars
  obtain ⟨hnames, hrests⟩ := doubled_append_inj hends hends' (List.cons.inj hchars).2
  exact ⟨String.toList_inj.mp hnames, String.toList_inj.mp hrests⟩

theorem head?_ne_of_delimits (hdelimits : Delimits s) : s.toList.head? ≠ some '"' := by
  obtain ⟨c, hhead, hmem⟩ := hdelimits
  rw [Option.mem_def.mp hhead]
  rintro ⟨⟩
  simp at hmem

theorem identifier_inj (hdelimits : Delimits s)
    (hsame : identifier .postgresql a ++ (s ++ x) = identifier .postgresql b ++ (s ++ y)) :
    a = b ∧ x = y := by
  obtain ⟨hnames, hrests⟩ := identifier_append_inj (head?_ne_of_delimits (hdelimits.append x))
    (head?_ne_of_delimits (hdelimits.append y)) hsame
  exact ⟨hnames, (String.append_right_inj s).mp hrests⟩

/-! ## A list of quoted names -/

/-- The names that follow the first of a list. -/
def moreIdentifiers (names : List String) : String :=
  String.join (names.map (", " ++ identifier .postgresql ·))

@[simp] theorem moreIdentifiers_nil : moreIdentifiers [] = "" := rfl

@[simp] theorem moreIdentifiers_cons (a : String) (as : List String) :
    moreIdentifiers (a :: as) = ", " ++ (identifier .postgresql a ++ moreIdentifiers as) := by
  simp [moreIdentifiers, String.append_assoc]

theorem identifierList_cons (a : String) (as : List String) :
    identifierList .postgresql (a :: as) = identifier .postgresql a ++ moreIdentifiers as := by
  unfold identifierList
  induction as generalizing a with
  | nil => simp
  | cons b as ih =>
    rw [List.map_cons, List.map_cons, String.intercalate_cons_cons, ← List.map_cons, ih]
    simp [String.append_assoc]

theorem head?_moreIdentifiers (as : List String) (hends : rest.toList.head? = some ')') :
    (moreIdentifiers as ++ rest).toList.head? ≠ some '"' := by
  cases as <;> simp [hends]

theorem moreIdentifiers_append_inj (hends : rest.toList.head? = some ')')
    (hends' : others.toList.head? = some ')')
    (hsame : moreIdentifiers as ++ rest = moreIdentifiers bs ++ others) :
    as = bs ∧ rest = others := by
  -- Neither list can end where the other goes on: that place has a parenthesis or a comma.
  induction as generalizing bs with
  | nil =>
    cases bs with
    | nil => simpa using hsame
    | cons b bs =>
      obtain rfl : rest = moreIdentifiers (b :: bs) ++ others := by simpa using hsame
      simp at hends
  | cons a as ih =>
    cases bs with
    | nil =>
      obtain rfl : moreIdentifiers (a :: as) ++ rest = others := by simpa using hsame
      simp at hends'
    | cons b bs =>
      simp only [moreIdentifiers_cons, String.append_assoc, String.append_right_inj] at hsame
      obtain ⟨hfirst, htails⟩ := identifier_append_inj (head?_moreIdentifiers as hends)
        (head?_moreIdentifiers bs hends') hsame
      obtain ⟨hmore, hrests⟩ := ih htails
      exact ⟨by rw [hfirst, hmore], hrests⟩

theorem identifierList_append_inj (hends : rest.toList.head? = some ')')
    (hends' : others.toList.head? = some ')')
    (hsame : identifierList .postgresql as ++ rest = identifierList .postgresql bs ++ others) :
    as = bs ∧ rest = others := by
  cases as with
  | nil =>
    cases bs with
    | nil => simpa [identifierList] using hsame
    | cons b bs =>
      obtain rfl : rest = identifierList .postgresql (b :: bs) ++ others := by
        simpa [identifierList] using hsame
      simp [identifierList_cons, identifier, quoteIdentifier] at hends
  | cons a as =>
    cases bs with
    | nil =>
      obtain rfl : identifierList .postgresql (a :: as) ++ rest = others := by
        simpa [identifierList] using hsame
      simp [identifierList_cons, identifier, quoteIdentifier] at hends'
    | cons b bs =>
      simp only [identifierList_cons, String.append_assoc] at hsame
      obtain ⟨hfirst, htails⟩ := identifier_append_inj (head?_moreIdentifiers as hends)
        (head?_moreIdentifiers bs hends') hsame
      obtain ⟨hmore, hrests⟩ := moreIdentifiers_append_inj hends hends' htails
      exact ⟨by rw [hfirst, hmore], hrests⟩

theorem identifierList_inj (hends : s.toList.head? = some ')')
    (hsame : identifierList .postgresql as ++ (s ++ x) = identifierList .postgresql bs ++ (s ++ y)) :
    as = bs ∧ x = y := by
  obtain ⟨hnames, hrests⟩ := identifierList_append_inj (by simp [hends]) (by simp [hends]) hsame
  exact ⟨hnames, (String.append_right_inj s).mp hrests⟩

/-! ## One kind of statement -/

theorem renameColumn_inj {a b : RenameColumn}
    (hsame : Sql.renameColumn .postgresql a = Sql.renameColumn .postgresql b) :
    fieldText a.table = fieldText b.table ∧ fieldText a.old = fieldText b.old ∧
      fieldText a.new = fieldText b.new := by
  unfold Sql.renameColumn at hsame
  simp only [Except.ok.injEq, String.append_assoc, String.append_right_inj] at hsame
  obtain ⟨htable, hsame⟩ := identifier_inj (by simp [Delimits]) hsame
  obtain ⟨hold, hsame⟩ := identifier_inj (by simp [Delimits]) hsame
  obtain ⟨hnew, -⟩ := identifier_append_inj (by simp) (by simp) hsame
  exact ⟨htable, hold, hnew⟩

theorem addIndex_inj {a b : AddIndex}
    (hsame : Sql.addIndex .postgresql a = Sql.addIndex .postgresql b) :
    a.isUnique = b.isUnique ∧ fieldText a.name = fieldText b.name ∧
      fieldText a.table = fieldText b.table ∧ a.columns = b.columns := by
  unfold Sql.addIndex at hsame
  simp only [String.append_assoc, String.append_right_inj] at hsame
  have hunique : a.isUnique = b.isUnique := by
    have hheads := congrArg (fun s : String => s.toList.head?) hsame
    cases hua : a.isUnique <;> cases hub : b.isUnique <;> simp [hua, hub] at hheads ⊢
  rw [hunique] at hsame
  simp only [String.append_right_inj] at hsame
  obtain ⟨hname, hsame⟩ := identifier_inj (by simp [Delimits]) hsame
  obtain ⟨htable, hsame⟩ := identifier_inj (by simp [Delimits]) hsame
  obtain ⟨hcolumns, -⟩ := identifierList_append_inj (by simp) (by simp) hsame
  exact ⟨hunique, hname, htable, hcolumns⟩

theorem dropIndex_inj {a b : DropIndex}
    (hsame : Sql.dropIndex .postgresql a = Sql.dropIndex .postgresql b) :
    fieldText a.name = fieldText b.name := by
  unfold Sql.dropIndex at hsame
  simp only [String.append_assoc, String.append_right_inj] at hsame
  exact (identifier_append_inj (by simp) (by simp) hsame).1

theorem addForeignKey_inj {a b : AddForeignKey}
    (hsame : Sql.addForeignKey .postgresql a = Sql.addForeignKey .postgresql b) :
    fieldText a.table = fieldText b.table ∧ fieldText a.name = fieldText b.name ∧
      a.columns = b.columns ∧
      fieldText (a.references.getD {}).table = fieldText (b.references.getD {}).table ∧
      (a.references.getD {}).columns = (b.references.getD {}).columns ∧
      referentialActions a = referentialActions b := by
  unfold Sql.addForeignKey at hsame
  simp only [String.append_assoc, String.append_right_inj] at hsame
  obtain ⟨htable, hsame⟩ := identifier_inj (by simp [Delimits]) hsame
  obtain ⟨hname, hsame⟩ := identifier_inj (by simp [Delimits]) hsame
  obtain ⟨hcolumns, hsame⟩ := identifierList_inj (by simp) hsame
  obtain ⟨htarget, hsame⟩ := identifier_inj (by simp [Delimits]) hsame
  rw [String.append_right_inj] at hsame
  obtain ⟨htargetColumns, hsame⟩ := identifierList_inj (by simp) hsame
  exact ⟨htable, hname, hcolumns, htarget, htargetColumns, (String.append_left_inj ";").mp hsame⟩

theorem dropForeignKey_inj {a b : DropForeignKey}
    (hsame : Sql.dropForeignKey .postgresql a = Sql.dropForeignKey .postgresql b) :
    fieldText a.table = fieldText b.table ∧ fieldText a.name = fieldText b.name := by
  unfold Sql.dropForeignKey at hsame
  simp only [String.append_assoc, String.append_right_inj] at hsame
  obtain ⟨htable, hsame⟩ := identifier_inj (by simp [Delimits]) hsame
  obtain ⟨hname, -⟩ := identifier_append_inj (by simp) (by simp) hsame
  exact ⟨htable, hname⟩

/-! ## Names found in a statement -/

/-- What stands between double quotes, in order. -/
def quotedNames : List Char → List String
  | [] => []
  | c :: cs =>
    if c = '"' then
      match _ : readDoubled? '"' cs with
      | some (name, rest) => String.ofList name :: quotedNames rest
      | none => []
    else quotedNames cs
termination_by cs => cs.length
decreasing_by
  · next hread => exact Nat.lt_succ_of_lt (length_readDoubled? hread)
  · exact Nat.lt_succ_self _

theorem quotedNames_append {cs : List Char} (hplain : '"' ∉ cs) (rest : List Char) :
    quotedNames (cs ++ rest) = quotedNames rest := by
  induction cs with
  | nil => rfl
  | cons c cs ih =>
    obtain ⟨hother, hplain⟩ := List.ne_and_not_mem_of_not_mem_cons hplain
    rw [List.cons_append, quotedNames, if_neg (Ne.symm hother), ih hplain]

theorem quotedNames_identifier (hends : rest.toList.head? ≠ some '"') :
    quotedNames (identifier .postgresql a ++ rest).toList = a :: quotedNames rest.toList := by
  rw [toList_identifier_append, quotedNames, if_pos rfl]
  split
  · next name left hread =>
    rw [readDoubled?_doubled a.toList hends] at hread
    cases hread
    rw [String.ofList_toList]
  · next hunread =>
    rw [readDoubled?_doubled a.toList hends] at hunread
    cases hunread

/-- Nothing but names is quoted. -/
def Part.QuotesNames : Part → Prop
  | .text s => '"' ∉ s.toList
  | .name _ quoted _ => quoted = true

theorem quotedNames_render {parts more : List Part} (hdelimited : Delimited (parts ++ more))
    (hquotes : ∀ part ∈ parts, part.QuotesNames) :
    quotedNames (render (parts ++ more)).toList =
      (namesIn parts).map (·.2) ++ quotedNames (render more).toList := by
  induction parts with
  | nil => rfl
  | cons part parts ih =>
    obtain ⟨hfirst, hothers⟩ := List.forall_mem_cons.mp hquotes
    rw [List.cons_append] at hdelimited ⊢
    cases part with
    | text s =>
      have hafter := (delimited_text s).mp hdelimited
      rw [render_cons, written_text, String.toList_append, quotedNames_append hfirst,
        ih hafter hothers, namesIn_text]
    | name role quoted given =>
      obtain ⟨hends, hafter⟩ := hdelimited.after_name
      obtain rfl : quoted = true := hfirst
      rw [render_cons, written_quoted, quotedNames_identifier (head?_ne_of_delimits hends),
        ih hafter hothers]
      rfl

theorem quotesNames_quotedColumns (names : List String) :
    ∀ part ∈ quotedColumns names, part.QuotesNames := by
  intro part hmem
  rcases mem_commaSeparated hmem with rfl | ⟨item, hmemItems, hmem⟩
  · simp [Part.QuotesNames]
  · obtain ⟨given, -, rfl⟩ := List.mem_map.mp hmemItems
    obtain rfl := List.mem_singleton.mp hmem
    rfl

end Sql

namespace Operation

/-- The statement on PostgreSQL consists of names and fixed words; that of a foreign key ends with
what was asked for rows that refer. -/
def NamesOnly : Operation → Prop
  | .renameColumn _ | .addIndex _ | .dropIndex _ | .addForeignKey _ | .dropForeignKey _ => True
  | _ => False

def ending : Operation → String
  | .addForeignKey op => referentialActions op ++ ";"
  | _ => ""

/-- Operations that agree in every name of their statements. -/
def SameNames : Operation → Operation → Prop
  | .renameColumn a, .renameColumn b => a.table = b.table ∧ a.old = b.old ∧ a.new = b.new
  | .addIndex a, .addIndex b =>
    a.table = b.table ∧ a.columns = b.columns ∧ a.name = b.name ∧ a.isUnique = b.isUnique
  | .dropIndex a, .dropIndex b => a.name = b.name
  | .addForeignKey a, .addForeignKey b =>
    a.table = b.table ∧ a.columns = b.columns ∧ a.name = b.name ∧ a.references = b.references ∧
      referentialActions a = referentialActions b
  | .dropForeignKey a, .dropForeignKey b => a.table = b.table ∧ a.name = b.name
  | _, _ => False

variable {a b : Operation} {sql : String}

theorem quotesNames_layout {parts : List Part} (hnamesOnly : a.NamesOnly)
    (hlaid : a.layout = .ok parts) :
    ∃ body more, parts = body ++ more ∧ (∀ part ∈ body, part.QuotesNames) ∧ namesIn more = [] ∧
      render more = a.ending := by
  cases a with
  | renameColumn | dropIndex | dropForeignKey =>
    cases hlaid
    exact ⟨_, [], (List.append_nil _).symm, by simp [Part.QuotesNames], rfl, rfl⟩
  | addIndex op =>
    cases hlaid
    refine ⟨_, [], (List.append_nil _).symm, ?_, rfl, rfl⟩
    have hcolumns := quotesNames_quotedColumns op.columns
    cases hunique : op.isUnique <;>
      simpa [hunique, Part.QuotesNames, or_imp, forall_and] using hcolumns
  | addForeignKey op =>
    cases hlaid
    refine ⟨_ ++ [.text ")"], [.text (referentialActions op ++ ";")],
      (List.append_assoc _ [_] [_]).symm, ?_, rfl, by simp [ending]⟩
    have hcolumns := quotesNames_quotedColumns op.columns
    have htarget := quotesNames_quotedColumns (op.references.getD {}).columns
    simpa [Part.QuotesNames, or_imp, forall_and] using ⟨hcolumns, htarget⟩
  | createTable | dropTable | renameTable | addColumn | dropColumn | alterColumn | raw | unknown =>
    cases hnamesOnly

theorem layout_of_write (hwritten : write .postgresql a = .ok sql) :
    ∃ parts, a.layout = .ok parts ∧ render parts = sql :=
  map_eq_ok.mp (a.write_eq ▸ hwritten)

theorem quotedNames_write (hnamesOnly : a.NamesOnly) (hwritten : write .postgresql a = .ok sql) :
    quotedNames sql.toList = a.names.map (·.2) ++ quotedNames a.ending.toList := by
  obtain ⟨parts, hlaid, rfl⟩ := layout_of_write hwritten
  have hlaidOut := laidOut_of_layout hlaid
  -- The end of a foreign key is free text, so only the part before it is known to quote names.
  obtain ⟨body, more, rfl, hquotes, hnameless, hending⟩ := quotesNames_layout hnamesOnly hlaid
  rw [quotedNames_render hlaidOut.delimited hquotes, hending, ← hlaidOut.names, namesIn_append, hnameless,
    List.append_nil]

/-! ## Statements that are equal -/

def Present (value : Option String) : Prop := ¬(Content.text value).Missing

def Complete (op : Operation) : Prop := ∀ field ∈ op.required .postgresql, ¬op.Lacks field

theorem complete_renameColumn {op : RenameColumn} :
    Complete (.renameColumn op) ↔ Present op.table ∧ Present op.old ∧ Present op.new := by
  simp [Complete, Present, required, Lacks, contents]

theorem complete_addIndex {op : AddIndex} :
    Complete (.addIndex op) ↔ Present op.table ∧ op.columns ≠ [] ∧ Present op.name := by
  simp [Complete, Present, required, Lacks, contents]

theorem complete_dropIndex {op : DropIndex} : Complete (.dropIndex op) ↔ Present op.name := by
  simp [Complete, Present, required, Lacks, contents]

theorem complete_addForeignKey {op : AddForeignKey} :
    Complete (.addForeignKey op) ↔ Present op.table ∧ op.columns ≠ [] ∧ Present op.name ∧
      Present (op.references.bind (·.table)) ∧ op.references.elim [] (·.columns) ≠ [] := by
  simp [Complete, Present, required, Lacks, contents]

theorem complete_dropForeignKey {op : DropForeignKey} :
    Complete (.dropForeignKey op) ↔ Present op.table ∧ Present op.name := by
  simp [Complete, Present, required, Lacks, contents]

theorem not_present_none : ¬Present none := fun hpresent => hpresent trivial

theorem eq_of_fieldText {x y : Option String} (hgiven : Present x) (hgiven' : Present y)
    (hsame : fieldText x = fieldText y) : x = y := by
  cases x with
  | none => exact absurd hgiven not_present_none
  | some s =>
    cases y with
    | none => exact absurd hgiven' not_present_none
    | some t => exact congrArg some hsame

theorem eq_references {x y : Option References} (hgiven : Present (x.bind (·.table)))
    (hgiven' : Present (y.bind (·.table)))
    (htable : fieldText (x.getD {}).table = fieldText (y.getD {}).table)
    (hcolumns : (x.getD {}).columns = (y.getD {}).columns) : x = y := by
  cases x with
  | none => exact absurd hgiven not_present_none
  | some r =>
    cases y with
    | none => exact absurd hgiven' not_present_none
    | some t =>
      obtain ⟨htable, hcolumns⟩ : r.table = t.table ∧ r.columns = t.columns :=
        ⟨eq_of_fieldText hgiven hgiven' htable, hcolumns⟩
      exact congrArg some (by cases r; cases t; simp_all)

theorem sameNames_renameColumn {a b : RenameColumn} (hcomplete : Complete (.renameColumn a))
    (hcomplete' : Complete (.renameColumn b))
    (hsame : Sql.renameColumn .postgresql a = Sql.renameColumn .postgresql b) :
    SameNames (.renameColumn a) (.renameColumn b) := by
  obtain ⟨htable, hold, hnew⟩ := renameColumn_inj hsame
  obtain ⟨htable', hold', hnew'⟩ := complete_renameColumn.mp hcomplete
  obtain ⟨htable'', hold'', hnew''⟩ := complete_renameColumn.mp hcomplete'
  exact ⟨eq_of_fieldText htable' htable'' htable, eq_of_fieldText hold' hold'' hold,
    eq_of_fieldText hnew' hnew'' hnew⟩

theorem sameNames_addIndex {a b : AddIndex} (hcomplete : Complete (.addIndex a))
    (hcomplete' : Complete (.addIndex b))
    (hsame : Sql.addIndex .postgresql a = Sql.addIndex .postgresql b) :
    SameNames (.addIndex a) (.addIndex b) := by
  obtain ⟨hunique, hname, htable, hcolumns⟩ := addIndex_inj hsame
  obtain ⟨htable', -, hname'⟩ := complete_addIndex.mp hcomplete
  obtain ⟨htable'', -, hname''⟩ := complete_addIndex.mp hcomplete'
  exact ⟨eq_of_fieldText htable' htable'' htable, hcolumns, eq_of_fieldText hname' hname'' hname,
    hunique⟩

theorem sameNames_dropIndex {a b : DropIndex} (hcomplete : Complete (.dropIndex a))
    (hcomplete' : Complete (.dropIndex b))
    (hsame : Sql.dropIndex .postgresql a = Sql.dropIndex .postgresql b) :
    SameNames (.dropIndex a) (.dropIndex b) :=
  eq_of_fieldText (complete_dropIndex.mp hcomplete) (complete_dropIndex.mp hcomplete')
    (dropIndex_inj hsame)

theorem sameNames_addForeignKey {a b : AddForeignKey} (hcomplete : Complete (.addForeignKey a))
    (hcomplete' : Complete (.addForeignKey b))
    (hsame : Sql.addForeignKey .postgresql a = Sql.addForeignKey .postgresql b) :
    SameNames (.addForeignKey a) (.addForeignKey b) := by
  obtain ⟨htable, hname, hcolumns, htarget, htargetColumns, hactions⟩ := addForeignKey_inj hsame
  obtain ⟨htable', -, hname', htarget', -⟩ := complete_addForeignKey.mp hcomplete
  obtain ⟨htable'', -, hname'', htarget'', -⟩ := complete_addForeignKey.mp hcomplete'
  exact ⟨eq_of_fieldText htable' htable'' htable, hcolumns, eq_of_fieldText hname' hname'' hname,
    eq_references htarget' htarget'' htarget htargetColumns, hactions⟩

theorem sameNames_dropForeignKey {a b : DropForeignKey} (hcomplete : Complete (.dropForeignKey a))
    (hcomplete' : Complete (.dropForeignKey b))
    (hsame : Sql.dropForeignKey .postgresql a = Sql.dropForeignKey .postgresql b) :
    SameNames (.dropForeignKey a) (.dropForeignKey b) := by
  obtain ⟨htable, hname⟩ := dropForeignKey_inj hsame
  obtain ⟨htable', hname'⟩ := complete_dropForeignKey.mp hcomplete
  obtain ⟨htable'', hname''⟩ := complete_dropForeignKey.mp hcomplete'
  exact ⟨eq_of_fieldText htable' htable'' htable, eq_of_fieldText hname' hname'' hname⟩

theorem sameNames_of_write (hnamesOnly : a.NamesOnly) (hkinds : a.kind = b.kind)
    (hcomplete : a.Complete) (hcomplete' : b.Complete) (hwritten : write .postgresql a = .ok sql)
    (hwritten' : write .postgresql b = .ok sql) : a.SameNames b := by
  have hsame : write .postgresql a = write .postgresql b := hwritten.trans hwritten'.symm
  -- An unknown operation may have any kind, but it has no statement.
  cases a with
  | renameColumn a =>
    cases b with
    | renameColumn b => exact sameNames_renameColumn hcomplete hcomplete' hsame
    | unknown => cases hwritten'
    | _ => simp [kind] at hkinds
  | addIndex a =>
    cases b with
    | addIndex b => exact sameNames_addIndex hcomplete hcomplete' (Except.ok.inj hsame)
    | unknown => cases hwritten'
    | _ => simp [kind] at hkinds
  | dropIndex a =>
    cases b with
    | dropIndex b => exact sameNames_dropIndex hcomplete hcomplete' (Except.ok.inj hsame)
    | unknown => cases hwritten'
    | _ => simp [kind] at hkinds
  | addForeignKey a =>
    cases b with
    | addForeignKey b => exact sameNames_addForeignKey hcomplete hcomplete' (Except.ok.inj hsame)
    | unknown => cases hwritten'
    | _ => simp [kind] at hkinds
  | dropForeignKey a =>
    cases b with
    | dropForeignKey b => exact sameNames_dropForeignKey hcomplete hcomplete' (Except.ok.inj hsame)
    | unknown => cases hwritten'
    | _ => simp [kind] at hkinds
  | createTable | dropTable | renameTable | addColumn | dropColumn | alterColumn | raw | unknown =>
    cases hnamesOnly

/-- The names are found again in the statement, between its double quotes, and an operation of the
same kind with this statement has the same names. -/
theorem names_read_back (hnamesOnly : a.NamesOnly) (htranslated : a.toSql .postgresql = .ok sql) :
    quotedNames sql.toList = a.names.map (·.2) ++ quotedNames a.ending.toList ∧
    ∀ b : Operation, a.kind = b.kind → b.toSql .postgresql = .ok sql → a.SameNames b := by
  obtain ⟨-, hcomplete, hwritten⟩ := toSql_eq_ok.mp htranslated
  refine ⟨quotedNames_write hnamesOnly hwritten, fun b hkinds htranslated' => ?_⟩
  obtain ⟨-, hcomplete', hwritten'⟩ := toSql_eq_ok.mp htranslated'
  exact sameNames_of_write hnamesOnly hkinds hcomplete hcomplete' hwritten hwritten'

/-- Names that look like the statement around them. -/
def crowded : Operation :=
  .addForeignKey {
    table := some "a\"b", columns := ["x\", \"y", ")"], name := some "fk; --",
    references := some { table := some "t (\"u\")", columns := ["\""] }, onDelete := some "cascade" }

def crowdedSql : String :=
  "ALTER TABLE \"a\"\"b\" ADD CONSTRAINT \"fk; --\" FOREIGN KEY (\"x\"\", \"\"y\", \")\") " ++
    "REFERENCES \"t (\"\"u\"\")\" (\"\"\"\") ON DELETE CASCADE;"

theorem names_read_back_crowded :
    quotedNames crowdedSql.toList = ["a\"b", "fk; --", "x\", \"y", ")", "t (\"u\")", "\""] ++
      quotedNames " ON DELETE CASCADE;".toList ∧
    ∀ b : Operation, "addForeignKey" = b.kind → b.toSql .postgresql = .ok crowdedSql →
      crowded.SameNames b :=
  names_read_back (a := crowded) trivial (by decide +kernel)

end Operation

end SchemaMigration
