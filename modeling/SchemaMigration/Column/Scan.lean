import SchemaMigration.Text.Blank

/-!
# Parentheses and quotes

A character is at the top level where no quote is open and every parenthesis has
been closed. `findTopLevel?` looks for the first such character. A stray
apostrophe leaves a quote open to the end; then the search is repeated with
parentheses only.
-/

namespace SchemaMigration.Column

def isQuote (c : Char) : Bool := c == '\'' || c == '"'

def consFirst (c : Char) (parts : List Char × List Char) : List Char × List Char :=
  (c :: parts.1, parts.2)

/-- The text before and after the first `target` at the top level. Quotes count
only where `quotes` is set. -/
def scan? (quotes : Bool) (target : Char) :
    Option Char → Nat → List Char → Option (List Char × List Char)
  | _, _, [] => none
  | some q, depth, c :: rest =>
    (scan? quotes target (if c = q then none else some q) depth rest).map (consFirst c)
  | none, depth, c :: rest =>
    if quotes ∧ isQuote c then (scan? quotes target (some c) depth rest).map (consFirst c)
    else if c = target ∧ depth = 0 then some ([], rest)
    else if c = '(' then (scan? quotes target none (depth + 1) rest).map (consFirst c)
    else if c = ')' then
      match depth with
      | 0 => none
      | depth + 1 => (scan? quotes target none depth rest).map (consFirst c)
    else (scan? quotes target none depth rest).map (consFirst c)

def findTopLevel? (target : Char) (cs : List Char) : Option (List Char × List Char) :=
  (scan? true target none 0 cs).or (scan? false target none 0 cs)

/-- Whether the parentheses close in order and none is left open. -/
def balancedFrom : Nat → List Char → Bool
  | depth, [] => depth == 0
  | depth, c :: rest =>
    if c = '(' then balancedFrom (depth + 1) rest
    else if c = ')' then
      match depth with
      | 0 => false
      | depth + 1 => balancedFrom depth rest
    else balancedFrom depth rest

def balanced (cs : List Char) : Bool := balancedFrom 0 cs

def consPiece (c : Char) : List (List Char) → List (List Char)
  | [] => [[c]]
  | piece :: pieces => (c :: piece) :: pieces

/-- The pieces between the separators at the top level. A closing parenthesis
that closes nothing does not count. -/
def splitFrom (separator : Char) : Option Char → Nat → List Char → List (List Char)
  | _, _, [] => [[]]
  | some q, depth, c :: rest =>
    consPiece c (splitFrom separator (if c = q then none else some q) depth rest)
  | none, depth, c :: rest =>
    if isQuote c then consPiece c (splitFrom separator (some c) depth rest)
    else if c = '(' then consPiece c (splitFrom separator none (depth + 1) rest)
    else if c = ')' then consPiece c (splitFrom separator none (depth - 1) rest)
    else if c = separator ∧ depth = 0 then [] :: splitFrom separator none depth rest
    else consPiece c (splitFrom separator none depth rest)

def splitTopLevel (separator : Char) (cs : List Char) : List (List Char) :=
  splitFrom separator none 0 cs

/-! ## What a search finds -/

/-- The target stands between the two parts. -/
theorem eq_of_scan? {quotes : Bool} {target : Char} {quote : Option Char} {depth : Nat}
    {cs before after : List Char} (h : scan? quotes target quote depth cs = some (before, after)) :
    cs = before ++ target :: after := by
  induction cs generalizing quote depth before with
  | nil => simp [scan?] at h
  | cons c rest ih =>
    cases quote with
    | some q =>
      simp only [scan?, Option.map_eq_some_iff, consFirst, Prod.mk.injEq, Prod.exists] at h
      obtain ⟨b, a, hba, rfl, rfl⟩ := h
      simp [ih hba]
    | none =>
      simp only [scan?] at h
      split at h
      · simp only [Option.map_eq_some_iff, consFirst, Prod.mk.injEq, Prod.exists] at h
        obtain ⟨b, a, hba, rfl, rfl⟩ := h
        simp [ih hba]
      · split at h
        · next hc =>
          simp only [Option.some.injEq, Prod.mk.injEq] at h
          obtain ⟨rfl, rfl⟩ := h
          simp [hc.1]
        · split at h
          · simp only [Option.map_eq_some_iff, consFirst, Prod.mk.injEq, Prod.exists] at h
            obtain ⟨b, a, hba, rfl, rfl⟩ := h
            simp [ih hba]
          · split at h
            · split at h
              · simp at h
              · simp only [Option.map_eq_some_iff, consFirst, Prod.mk.injEq, Prod.exists] at h
                obtain ⟨b, a, hba, rfl, rfl⟩ := h
                simp [ih hba]
            · simp only [Option.map_eq_some_iff, consFirst, Prod.mk.injEq, Prod.exists] at h
              obtain ⟨b, a, hba, rfl, rfl⟩ := h
              simp [ih hba]

theorem eq_of_findTopLevel? {target : Char} {cs before after : List Char}
    (h : findTopLevel? target cs = some (before, after)) : cs = before ++ target :: after := by
  simp only [findTopLevel?, Option.or_eq_some_iff] at h
  rcases h with h | ⟨_, h⟩ <;> exact eq_of_scan? h

end SchemaMigration.Column
