import SchemaMigration.Document.Toml.Reader

/-!
# Tables that grow

Pairs and sections add to the tables of a text and take nothing away. What stands under a key of
the whole text stays there, and an array of tables only gets more rows.
-/

namespace SchemaMigration.Toml

variable {items : List (String × Item)} {item old : Item} {key other : String} {n next root : Node}

/-- How many things stand under a key: the rows, or one. -/
def Item.count : Item → Nat
  | .rows nodes => nodes.length
  | _ => 1

namespace Node

def count (n : Node) (key : String) : Nat := ((n.items.lookup key).map Item.count).getD 0

theorem count_of_lookup (h : n.items.lookup key = some item) : n.count key = item.count := by
  rw [count, h]
  rfl

theorem count_of_none (h : n.items.lookup key = none) : n.count key = 0 := by
  rw [count, h]
  rfl

/-- Every array of tables has a row. -/
def Filled (n : Node) : Prop := ∀ key item, n.items.lookup key = some item → 0 < item.count

/-- Nothing is lost on the way from one table to another. -/
structure Grows (n next : Node) : Prop where
  filled : n.Filled → next.Filled
  count_le : ∀ key, n.count key ≤ next.count key

theorem Grows.refl (n : Node) : n.Grows n := ⟨id, fun _ => Nat.le_refl _⟩

theorem Grows.trans {last : Node} (h : n.Grows next) (h' : next.Grows last) : n.Grows last :=
  ⟨h'.filled ∘ h.filled, fun key => Nat.le_trans (h.count_le key) (h'.count_le key)⟩

/-- Something is put under the key, no less than before, and the other keys keep what they have. -/
structure Puts (n : Node) (key : String) (item : Item) (next : Node) : Prop where
  lookup : next.items.lookup key = some item
  pos : 0 < item.count
  count_le : n.count key ≤ item.count
  others : ∀ other, other ≠ key → next.items.lookup other = n.items.lookup other

theorem Puts.count_eq (h : n.Puts key item next) : next.count key = item.count :=
  count_of_lookup h.lookup

theorem Puts.grows (h : n.Puts key item next) : n.Grows next where
  filled hfilled other found hfound := by
    by_cases hother : other = key
    · subst hother
      obtain rfl := Option.some.inj (h.lookup.symm.trans hfound)
      exact h.pos
    · exact hfilled other found (h.others other hother ▸ hfound)
  count_le other := by
    by_cases hother : other = key
    · subst hother
      exact h.count_eq ▸ h.count_le
    · exact Nat.le_of_eq (by rw [count, count, h.others other hother])

theorem lookup_concat (items : List (String × Item)) (key other : String) (item : Item) :
    (items ++ [(key, item)]).lookup other =
      (items.lookup other).or (if other = key then some item else none) := by
  rw [List.lookup_append, List.lookup_cons]
  by_cases h : other = key
  · simp [h]
  · simp [h, beq_false_of_ne h]

theorem lookup_replaceItem (h : items.lookup key = some old) (item : Item) (other : String) :
    (replaceItem key item items).lookup other = if other = key then some item else items.lookup other := by
  induction items with
  | nil => simp at h
  | cons entry rest ih =>
    obtain ⟨k, first⟩ := entry
    unfold replaceItem
    by_cases hk : k = key
    · subst hk
      rw [if_pos rfl, List.lookup_cons, List.lookup_cons]
      by_cases ho : other = k
      · simp [ho]
      · simp [ho, beq_false_of_ne ho]
    · have hrest : rest.lookup key = some old := by
        rwa [List.lookup_cons, beq_false_of_ne (Ne.symm hk)] at h
      rw [if_neg hk, List.lookup_cons, List.lookup_cons, ih hrest]
      by_cases ho : other = k
      · subst ho
        simp [hk]
      · rw [beq_false_of_ne ho]

theorem lookup_filter (items : List (String × Item)) (key other : String) :
    (items.filter (·.1 != key)).lookup other = if other = key then none else items.lookup other := by
  induction items with
  | nil => simp
  | cons entry rest ih =>
    obtain ⟨k, item⟩ := entry
    rw [List.filter_cons, List.lookup_cons]
    by_cases hk : k = key
    · subst hk
      rw [if_neg (by simp), ih]
      by_cases ho : other = k
      · rw [if_pos ho, if_pos ho]
      · rw [if_neg ho, if_neg ho, beq_false_of_ne ho]
    · by_cases ho : other = key
      · subst ho
        simp [hk, List.lookup_cons, ih, beq_false_of_ne (Ne.symm hk)]
      · simp [hk, List.lookup_cons, ih, ho]

theorem puts_concat (hnone : n.items.lookup key = none) (hpos : 0 < item.count) :
    n.Puts key item (n.withItems (n.items ++ [(key, item)])) where
  lookup := (lookup_concat ..).trans (by rw [hnone, if_pos rfl, Option.none_or])
  pos := hpos
  count_le := count_of_none hnone ▸ Nat.zero_le _
  others _ hother := (lookup_concat ..).trans (by rw [if_neg hother, Option.or_none])

theorem puts_replaceItem (hold : n.items.lookup key = some old) (hpos : 0 < item.count)
    (hle : old.count ≤ item.count) : n.Puts key item (n.withItems (replaceItem key item n.items)) where
  lookup := (lookup_replaceItem hold ..).trans (if_pos rfl)
  pos := hpos
  count_le := count_of_lookup hold ▸ hle
  others _ hother := (lookup_replaceItem hold ..).trans (if_neg hother)

theorem puts_moved {table : Node} (hold : n.items.lookup key = some (.table table)) (new : Node) :
    n.Puts key (.table new) (n.withItems (n.items.filter (·.1 != key) ++ [(key, .table new)])) where
  lookup := by
    refine (lookup_concat ..).trans ?_
    rw [lookup_filter, if_pos rfl, if_pos rfl, Option.none_or]
  pos := Nat.one_pos
  count_le := by
    rw [count_of_lookup hold]
    exact Nat.le_refl 1
  others _ hother := by
    refine (lookup_concat ..).trans ?_
    rw [lookup_filter, if_neg hother, if_neg hother, Option.or_none]

end Node

open Node

/-! ## Pairs and sections -/

theorem descend_puts {dotted : Bool} {change : Node → Option Node} {path : List String}
    (hchange : ∀ m m', change m = some m' → ∃ key item, m.Puts key item m')
    (h : descend dotted change path n = some next) : ∃ key item, n.Puts key item next := by
  cases path with
  | nil => exact hchange n next h
  | cons key path =>
    unfold descend at h
    split at h
    · next hnone =>
      obtain ⟨child, -, h⟩ := Option.bind_eq_some_iff.mp h
      obtain rfl := Option.some.inj h
      exact ⟨_, _, puts_concat hnone Nat.one_pos⟩
    · cases h
    · next child htable =>
      split at h
      · cases h
      obtain ⟨child, -, h⟩ := Option.bind_eq_some_iff.mp h
      obtain rfl := Option.some.inj h
      exact ⟨_, _, puts_replaceItem htable Nat.one_pos (Nat.le_refl _)⟩
    · next nodes hrows =>
      obtain ⟨last, hlast, h⟩ := Option.bind_eq_some_iff.mp h
      obtain ⟨child, -, h⟩ := Option.bind_eq_some_iff.mp h
      obtain rfl := Option.some.inj h
      obtain ⟨start, rfl⟩ := List.getLast?_eq_some_iff.mp hlast
      exact ⟨_, _, puts_replaceItem hrows (by simp [Item.count]) (by simp [Item.count])⟩

theorem place_puts {p : Pair} (h : place n p = some next) : ∃ key item, n.Puts key item next := by
  refine descend_puts (fun m m' h => ?_) h
  split at h
  · cases h
  split at h
  · cases h
  · next hnone =>
    obtain rfl := Option.some.inj h
    exact ⟨_, _, puts_concat hnone Nat.one_pos⟩

theorem addHere_puts {s : Section} (h : addSection n { s with header := { s.header with path := [] } } =
    some next) : ∃ item, n.Puts s.header.key item next ∧
      (s.header.row = true → n.count s.header.key + 1 ≤ item.count) := by
  unfold addSection descend at h
  dsimp only at h
  cases hrow : s.header.row with
  | true =>
    rw [hrow, if_pos rfl] at h
    split at h
    · next hnone =>
      obtain ⟨new, -, h⟩ := Option.bind_eq_some_iff.mp h
      obtain rfl := Option.some.inj h
      exact ⟨_, puts_concat hnone Nat.one_pos, fun _ => by simp [count_of_none hnone, Item.count]⟩
    · next hrows =>
      obtain ⟨new, -, h⟩ := Option.bind_eq_some_iff.mp h
      obtain rfl := Option.some.inj h
      refine ⟨_, puts_replaceItem hrows (by simp [Item.count]) (by simp [Item.count]), fun _ => ?_⟩
      simp [count_of_lookup hrows, Item.count]
    · cases h
  | false =>
    rw [hrow, if_neg Bool.false_ne_true] at h
    refine ?_
    split at h
    · next hnone =>
      obtain ⟨new, -, h⟩ := Option.bind_eq_some_iff.mp h
      obtain rfl := Option.some.inj h
      exact ⟨_, puts_concat hnone Nat.one_pos, nofun⟩
    · next htable =>
      split at h
      · obtain ⟨new, -, h⟩ := Option.bind_eq_some_iff.mp h
        obtain rfl := Option.some.inj h
        exact ⟨_, puts_moved htable new, nofun⟩
      · cases h
    · cases h

theorem addSection_puts {s : Section} (h : addSection n s = some next) :
    ∃ key item, n.Puts key item next := by
  refine descend_puts (fun m m' h => ?_) h
  obtain ⟨item, hputs, -⟩ := addHere_puts (s := s) h
  exact ⟨_, item, hputs⟩

/-! ## Whole texts -/

theorem foldlM_grows {β : Type} {f : Node → β → Option Node}
    (hf : ∀ m x m', f m x = some m' → ∃ key item, m.Puts key item m') {xs : List β}
    (h : xs.foldlM f n = some next) :
    n.Grows next ∧ (xs ≠ [] → ∃ key, 0 < next.count key) := by
  induction xs generalizing n with
  | nil =>
    obtain rfl := Option.some.inj h
    exact ⟨.refl n, nofun⟩
  | cons x xs ih =>
    obtain ⟨m, hm, h⟩ := Option.bind_eq_some_iff.mp h
    obtain ⟨key, item, hputs⟩ := hf _ _ _ hm
    obtain ⟨hgrows, -⟩ := ih h
    refine ⟨hputs.grows.trans hgrows, fun _ => ⟨key, ?_⟩⟩
    exact Nat.lt_of_lt_of_le (hputs.count_eq ▸ hputs.pos) (hgrows.count_le key)

/-- Among the sections is one that adds a row under the key. -/
def AddsRow (key : String) (sections : List Section) : Prop :=
  ∃ s ∈ sections, s.header = ⟨true, [], key⟩

theorem count_of_addsRow {sections : List Section} (hrow : AddsRow key sections)
    (h : sections.foldlM addSection n = some next) : n.count key + 1 ≤ next.count key := by
  obtain ⟨s, hs, hheader⟩ := hrow
  obtain ⟨before, after, rfl⟩ := List.append_of_mem hs
  rw [List.foldlM_append] at h
  obtain ⟨m, hm, h⟩ := Option.bind_eq_some_iff.mp h
  obtain ⟨m', hm', hrest⟩ := Option.bind_eq_some_iff.mp h
  obtain ⟨header, pairs⟩ := s
  obtain rfl : header = ⟨true, [], key⟩ := hheader
  obtain ⟨item, hputs, hmore⟩ := addHere_puts (s := ⟨⟨true, [], key⟩, pairs⟩) hm'
  have hbefore := (foldlM_grows (fun _ _ _ => addSection_puts) hm).1.count_le key
  have hafter := (foldlM_grows (fun _ _ _ => addSection_puts) hrest).1.count_le key
  have hadded : m.count key + 1 ≤ item.count := hmore rfl
  have hcount : m'.count key = item.count := hputs.count_eq
  omega

/-- What was said before the last sections is in the whole, beside the rows that they add. -/
theorem count_assemble {pairs : List Pair} {sections later : List Section}
    (hsomething : pairs ≠ [] ∨ sections ≠ []) (h : assemble pairs (sections ++ later) = some root) :
    ∃ key, 0 < root.count key ∧ (AddsRow key later → 2 ≤ root.count key) := by
  obtain ⟨first, hfirst, h⟩ := Option.bind_eq_some_iff.mp h
  rw [List.foldlM_append] at h
  obtain ⟨middle, hmiddle, h⟩ := Option.bind_eq_some_iff.mp h
  obtain ⟨-, hpairs⟩ := foldlM_grows (fun _ _ _ => place_puts) hfirst
  obtain ⟨hgrows, hsections⟩ := foldlM_grows (fun _ _ _ => addSection_puts) hmiddle
  obtain ⟨key, hkey⟩ : ∃ key, 0 < middle.count key := by
    rcases hsomething with hsome | hsome
    · obtain ⟨key, hkey⟩ := hpairs hsome
      exact ⟨key, Nat.lt_of_lt_of_le hkey (hgrows.count_le key)⟩
    · exact hsections hsome
  refine ⟨key, ?_, fun hrow => ?_⟩
  · exact Nat.lt_of_lt_of_le hkey ((foldlM_grows (fun _ _ _ => addSection_puts) h).1.count_le key)
  · exact Nat.le_trans (Nat.succ_le_succ hkey) (count_of_addsRow hrow h)

/-! ## Documents -/

theorem length_nodeDocuments (nodes : List Node) : (nodeDocuments nodes).length = nodes.length := by
  induction nodes with
  | nil => rfl
  | cons n rest ih => exact congrArg Nat.succ ih

theorem mem_itemDocuments (h : items.lookup key = some item) :
    (some key, item.document) ∈ itemDocuments items := by
  induction items with
  | nil => simp at h
  | cons entry rest ih =>
    obtain ⟨k, first⟩ := entry
    rw [List.lookup_cons] at h
    by_cases hk : key = k
    · subst hk
      obtain rfl : first = item := by simpa using h
      exact List.mem_cons_self
    · rw [beq_false_of_ne hk] at h
      exact List.mem_cons_of_mem _ (ih h)

theorem exists_entry (h : 0 < n.count key) : ∃ entries d, n.document = .mapping entries ∧
    (some key, d) ∈ entries ∧ (2 ≤ n.count key → ∃ ds, d = .sequence ds ∧ 2 ≤ ds.length) := by
  obtain ⟨implied, dotted, items⟩ := n
  cases hlookup : items.lookup key with
  | none =>
    rw [count_of_none hlookup] at h
    cases h
  | some item =>
    refine ⟨_, _, rfl, mem_itemDocuments hlookup, fun hmany => ?_⟩
    rw [count_of_lookup hlookup] at hmany
    cases item with
    | rows nodes => exact ⟨_, rfl, by rwa [length_nodeDocuments]⟩
    | value | table => exact absurd hmany (Nat.not_succ_le_self 1)

/-! ## Lines -/

theorem splitSections_append {first others : List Line} {sections : List Section}
    (h : splitSections others = ([], sections)) : splitSections (first ++ others) =
      ((splitSections first).1, (splitSections first).2 ++ sections) := by
  induction first with
  | nil => exact h
  | cons line first ih =>
    cases line with
    | blank => exact ih
    | header _ =>
      rw [List.cons_append, splitSections, splitSections, ih]
      rfl
    | pair _ => rw [List.cons_append, splitSections, splitSections, ih]

theorem splitSections_ne_nil {lines : List Line} (h : ¬∀ line ∈ lines, line = .blank) :
    (splitSections lines).1 ≠ [] ∨ (splitSections lines).2 ≠ [] := by
  induction lines with
  | nil => exact absurd nofun h
  | cons line lines ih =>
    cases line with
    | blank => exact ih fun hlines => h (List.forall_mem_cons.mpr ⟨rfl, hlines⟩)
    | header _ => exact .inr (List.cons_ne_nil _ _)
    | pair _ => exact .inl (List.cons_ne_nil _ _)

end SchemaMigration.Toml
