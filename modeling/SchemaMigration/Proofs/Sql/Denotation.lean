import SchemaMigration.Proofs.Sql.Identifiers

/-!
# What names denote

PostgreSQL takes a name between double quotes as it stands there and folds any other to lower case.
Some of its statements quote their names and some do not, so a name with capital letters denotes
two different objects.
-/

namespace SchemaMigration

open Text Sql

namespace Sql

variable {given rest : String} {parts : List Part}

/-! ## One identifier -/

def startsIdentifier (c : Char) : Bool := c.isAlpha || c = '_' || 128 ≤ c.toNat

def continuesIdentifier (c : Char) : Bool := startsIdentifier c || c.isDigit || c = '$'

/-- What an identifier without quotes denotes. -/
def folded (name : String) : String := String.ofList (name.toList.map Char.toLower)

/-- What the identifier at the start of a text denotes. -/
def denoted? : List Char → Option String
  | [] => none
  | c :: cs =>
    if c = '"' then (readDoubled? '"' cs).map fun read => String.ofList read.1
    else if startsIdentifier c then some (folded (String.ofList (c :: cs.takeWhile continuesIdentifier)))
    else none

/-- A letter or an underscore, then letters, digits and underscores. -/
def Regular (name : String) : Prop :=
  ∃ c cs, name.toList = c :: cs ∧ (c.isAlpha = true ∨ c = '_') ∧
    ∀ d ∈ cs, d.isAlphanum = true ∨ d = '_'

theorem denoted?_quoted (hends : Delimits rest) :
    denoted? (identifier .postgresql given ++ rest).toList = some given := by
  rw [toList_identifier_append, denoted?, if_pos rfl,
    readDoubled?_doubled given.toList (head?_ne_of_delimits hends)]
  simp

theorem startsIdentifier_of_regular {c : Char} (hregular : c.isAlpha = true ∨ c = '_') :
    startsIdentifier c = true := by
  rcases hregular with hletter | rfl
  · simp [startsIdentifier, hletter]
  · rfl

theorem continuesIdentifier_of_regular {c : Char} (hregular : c.isAlphanum = true ∨ c = '_') :
    continuesIdentifier c = true := by
  rcases hregular with hletter | rfl
  · rcases Bool.or_eq_true _ _ |>.mp hletter with hletter | hdigit
    · simp [continuesIdentifier, startsIdentifier, hletter]
    · simp [continuesIdentifier, hdigit]
  · rfl

theorem takeWhile_continuesIdentifier {word : List Char}
    (hregular : ∀ d ∈ word, d.isAlphanum = true ∨ d = '_') (hends : Delimits rest) :
    (word ++ rest.toList).takeWhile continuesIdentifier = word := by
  obtain ⟨c, hhead, hmem⟩ := hends
  obtain ⟨_, hchars⟩ := List.head?_eq_some_iff.mp hhead
  have hstops : continuesIdentifier c = false := by
    simp only [List.mem_cons, List.not_mem_nil, or_false] at hmem
    rcases hmem with rfl | rfl | rfl | rfl | rfl <;> decide
  rw [List.takeWhile_append_of_pos fun d hmem => continuesIdentifier_of_regular (hregular d hmem), hchars,
    List.takeWhile_cons_of_neg (by simp [hstops]), List.append_nil]

theorem denoted?_bare (hregular : Regular given) (hends : Delimits rest) :
    denoted? (given ++ rest).toList = some (folded given) := by
  obtain ⟨c, cs, hchars, hfirst, hothers⟩ := hregular
  have hunquoted : c ≠ '"' := by
    rintro rfl
    rcases hfirst with hletter | hsame
    · revert hletter; decide
    · revert hsame; decide
  rw [String.toList_append, hchars, List.cons_append, denoted?, if_neg hunquoted,
    if_pos (startsIdentifier_of_regular hfirst), takeWhile_continuesIdentifier hothers hends, ← hchars,
    String.ofList_toList]

/-! ## The names of a statement -/

structure Mention where
  name : Role × String
  denotes : Option String
  deriving DecidableEq, Repr

/-- Each name with what the text from its place on denotes. -/
def mentions : List Part → List Mention
  | [] => []
  | .text _ :: parts => mentions parts
  | .name role quoted given :: parts =>
    ⟨(role, given), denoted? (render (.name role quoted given :: parts)).toList⟩ :: mentions parts

theorem map_name_mentions (parts : List Part) : (mentions parts).map (·.name) = namesIn parts := by
  induction parts with
  | nil => rfl
  | cons part parts ih =>
    cases part with
    | text s => exact ih
    | name role quoted given => exact congrArg ((role, given) :: ·) ih

theorem denotes_of_mem_mentions {quotes : Bool} {m : Mention} (hdelimited : Delimited parts)
    (huniform : ∀ part ∈ parts, part.WrittenAs quotes) (hmem : m ∈ mentions parts)
    (hregular : Regular m.name.2) :
    m.denotes = some (if quotes then m.name.2 else folded m.name.2) := by
  induction parts with
  | nil => cases hmem
  | cons part parts ih =>
    obtain ⟨hfirst, hothers⟩ := List.forall_mem_cons.mp huniform
    cases part with
    | text s => exact ih ((delimited_text s).mp hdelimited) hothers hmem
    | name role quoted given =>
      obtain ⟨hends, hafter⟩ := hdelimited.after_name
      rcases List.mem_cons.mp hmem with rfl | hmem
      · obtain rfl : quoted = quotes := hfirst
        rw [render_cons]
        cases quoted with
        | true =>
          rw [written_quoted, denoted?_quoted hends, if_pos rfl]
        | false =>
          rw [written_bare, denoted?_bare hregular hends, if_neg Bool.false_ne_true]
      · exact ih hafter hothers hmem

end Sql

namespace Operation

variable {a b : Operation} {sqlA sqlB : String}

/-- The statement mentions the names of the operation. -/
def Mentions (op : Operation) (sql : String) (ms : List Mention) : Prop :=
  ∃ parts, op.layout = .ok parts ∧ render parts = sql ∧ mentions parts = ms

theorem mentions_of_toSql (htranslated : a.toSql .postgresql = .ok sqlA) :
    ∃ ms, a.Mentions sqlA ms ∧ ms.map (·.name) = a.names ∧
      ∀ m ∈ ms, Regular m.name.2 →
        m.denotes = some (if a.quotes then m.name.2 else folded m.name.2) := by
  obtain ⟨-, -, hwritten⟩ := toSql_eq_ok.mp htranslated
  obtain ⟨parts, hlaid, hsql⟩ := layout_of_write hwritten
  have hlaidOut := laidOut_of_layout hlaid
  refine ⟨mentions parts, ⟨parts, hlaid, hsql, rfl⟩, ?_, fun m hmem hregular => ?_⟩
  · rw [map_name_mentions, hlaidOut.names]
  · exact denotes_of_mem_mentions hlaidOut.delimited hlaidOut.quoted hmem hregular

theorem same_denotation_iff {name : String} {p q : Bool} :
    (∃ object, some (if p then name else folded name) = some object ∧
      some (if q then name else folded name) = some object) ↔ p = q ∨ folded name = name := by
  cases p <;> cases q <;> simp [eq_comm]

/-- A name denotes the same object in two statements exactly when both quote their names, or neither
does, or the name has no capital letters. -/
theorem names_agree_iff (htranslatedA : a.toSql .postgresql = .ok sqlA)
    (htranslatedB : b.toSql .postgresql = .ok sqlB) :
    ∃ ms ns, a.Mentions sqlA ms ∧ b.Mentions sqlB ns ∧
      ms.map (·.name) = a.names ∧ ns.map (·.name) = b.names ∧
      ∀ x ∈ ms, ∀ y ∈ ns, x.name = y.name → Regular x.name.2 →
        ((∃ object, x.denotes = some object ∧ y.denotes = some object) ↔
          a.quotes = b.quotes ∨ folded x.name.2 = x.name.2) := by
  obtain ⟨ms, hmentionsA, hnamesA, hdenoteA⟩ := mentions_of_toSql htranslatedA
  obtain ⟨ns, hmentionsB, hnamesB, hdenoteB⟩ := mentions_of_toSql htranslatedB
  refine ⟨ms, ns, hmentionsA, hmentionsB, hnamesA, hnamesB, fun x hmemX y hmemY hsame hregular => ?_⟩
  rw [hdenoteA x hmemX hregular, hdenoteB y hmemY (hsame ▸ hregular), ← hsame]
  exact same_denotation_iff

def created (table : String) : Operation :=
  .createTable { name := some table, columns := [("Id", "integer")] }

def indexed (table : String) : Operation :=
  .addIndex { table := some table, columns := ["Id"], name := some "ids" }

theorem names_agree_iff_users : ∃ ms ns,
    (created "users").Mentions "CREATE TABLE IF NOT EXISTS users (Id INTEGER);" ms ∧
    (indexed "users").Mentions "CREATE INDEX \"ids\" ON \"users\" (\"Id\");" ns ∧
    ms.map (·.name) = [(.table, "users"), (.column, "Id")] ∧
    ns.map (·.name) = [(.index, "ids"), (.table, "users"), (.column, "Id")] ∧
    ∀ x ∈ ms, ∀ y ∈ ns, x.name = y.name → Regular x.name.2 →
      ((∃ object, x.denotes = some object ∧ y.denotes = some object) ↔
        (created "users").quotes = (indexed "users").quotes ∨ folded x.name.2 = x.name.2) :=
  names_agree_iff (a := created "users") (b := indexed "users") (by decide +kernel) (by decide +kernel)

/-- The index is asked for on a table that was not made. -/
theorem index_astray :
    (created "Users").toSql .postgresql = .ok "CREATE TABLE IF NOT EXISTS Users (Id INTEGER);" ∧
    (indexed "Users").toSql .postgresql = .ok "CREATE INDEX \"ids\" ON \"Users\" (\"Id\");" ∧
    Regular "Users" ∧
    (∃ ms, (created "Users").Mentions "CREATE TABLE IF NOT EXISTS Users (Id INTEGER);" ms ∧
      ⟨(.table, "Users"), some "users"⟩ ∈ ms) ∧
    ∃ ns, (indexed "Users").Mentions "CREATE INDEX \"ids\" ON \"Users\" (\"Id\");" ns ∧
      ⟨(.table, "Users"), some "Users"⟩ ∈ ns := by
  refine ⟨by decide +kernel, by decide +kernel, ⟨'U', ['s', 'e', 'r', 's'], rfl, by decide, by simp⟩,
    ⟨_, ⟨[.text "CREATE TABLE IF NOT EXISTS ", bareTable (some "Users"), .text " (",
      bareColumn (some "Id"), .text " INTEGER", .text ");"], by decide +kernel, by decide +kernel, rfl⟩,
      by decide +kernel⟩,
    ⟨_, ⟨_, rfl, by decide +kernel, rfl⟩, by decide +kernel⟩⟩

end Operation

end SchemaMigration
