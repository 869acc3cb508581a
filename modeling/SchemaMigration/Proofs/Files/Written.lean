import SchemaMigration.Proofs.Files.Directory
import SchemaMigration.Proofs.Files.Path

/-!
# A file that was written

A file that is written where there was none is read back from there. Under a name of its own it
stands in the directory where the rest of the path leads.
-/

namespace SchemaMigration.Files.FileTree

open SchemaMigration.Files.Path

variable {tree made : FileTree} {path : Path} {content : String}

theorem find_eq_ok_iff {node : Node} : tree.find path = .ok node ↔
    ∃ location, tree.resolve path = .ok location ∧ tree.node? location = some node := by
  unfold find
  rw [bind_eq_ok]
  refine exists_congr fun location => and_congr_right fun _ => ?_
  cases tree.node? location with
  | none => simp
  | some node => simp [pure, Except.pure]

theorem holds_iff : tree.holds path = true ↔
    ∃ location node, tree.resolve path = .ok location ∧ tree.node? location = some node := by
  unfold holds
  constructor
  · intro hfound
    cases hthere : tree.find path with
    | error e =>
      rw [hthere] at hfound
      cases hfound
    | ok node =>
      obtain ⟨location, hleads, hthere⟩ := find_eq_ok_iff.mp hthere
      exact ⟨location, node, hleads, hthere⟩
  · rintro ⟨location, node, hleads, hthere⟩
    rw [find_eq_ok_iff.mpr ⟨location, hleads, hthere⟩]
    rfl

theorem Keeps.holds (hkept : tree.Keeps made) (hthere : tree.holds path = true) :
    made.holds path = true := by
  obtain ⟨location, node, hleads, hthere⟩ := holds_iff.mp hthere
  exact holds_iff.mpr ⟨location, node, hkept.resolve hleads, hkept hthere⟩

theorem find_of_follow {location : Location} {node : Node} (hnoNul : hasNul path = false)
    (hnonempty : path ≠ "") (hleads : tree.follow [] (steps path) = .ok location)
    (hthere : tree.node? location = some node) : tree.find path = .ok node :=
  find_eq_ok_iff.mpr ⟨location, resolve_eq_ok_iff.mpr ⟨hnoNul, hnonempty, hleads⟩, hthere⟩

theorem write_spec (hwritten : tree.write path content = .ok made) :
    hasNul path = false ∧ path ≠ "" ∧ ∃ location node, tree.place (steps path) = .ok (location, node) ∧
      made = tree.insert location (.file (.text content)) := by
  unfold write at hwritten
  by_cases hnul : hasNul path = true
  · rw [if_pos hnul] at hwritten
    cases hwritten
  rw [if_neg hnul] at hwritten
  by_cases hempty : path = ""
  · rw [if_pos hempty] at hwritten
    cases hwritten
  rw [if_neg hempty] at hwritten
  by_cases hasks : asksDirectory path = true
  · rw [if_pos hasks] at hwritten
    cases hwritten
  rw [if_neg hasks] at hwritten
  obtain ⟨⟨location, node⟩, hplaced, hwritten⟩ := bind_eq_ok.mp hwritten
  refine ⟨by simpa using hnul, hempty, location, node, hplaced, ?_⟩
  dsimp only at hwritten
  split at hwritten
  · cases hwritten
  · exact (Except.ok.inj hwritten).symm

theorem asks_of_write (hwritten : tree.write path content = .ok made) : asksDirectory path = false := by
  by_contra hasks
  unfold write at hwritten
  rw [Bool.not_eq_false] at hasks
  simp only [hasks, if_true] at hwritten
  split at hwritten
  · cases hwritten
  · split at hwritten <;> cases hwritten

theorem follow_of_place {location : Location} {node : Node} {way : List String}
    (hplaced : tree.place way = .ok (location, some node)) :
    tree.follow [] way = .ok location ∧ tree.node? location = some node := by
  rcases List.eq_nil_or_concat' way with rfl | ⟨above, last, rfl⟩
  · obtain ⟨rfl, hsame⟩ := Prod.mk.inj (Except.ok.inj hplaced)
    exact ⟨rfl, hsame⟩
  · cases hfound : tree.follow [] above with
    | error e => simp [place, hfound, bind, Except.bind] at hplaced
    | ok parent =>
      rw [place_concat hfound] at hplaced
      split at hplaced
      · next next hentered =>
        obtain ⟨rfl, hthere⟩ := Prod.mk.inj (Except.ok.inj hplaced)
        exact ⟨follow_concat.mpr ⟨parent, hfound, hentered⟩, hthere⟩
      · split at hplaced <;> simp at hplaced
      · simp at hplaced

theorem readText_write (hwritten : tree.write path content = .ok made)
    (habsent : tree.holds path = false) : made.readText path = .ok content := by
  obtain ⟨hnoNul, hnonempty, location, node, hplaced, rfl⟩ := write_spec hwritten
  cases node with
  | some node =>
    obtain ⟨hleads, hthere⟩ := follow_of_place hplaced
    rw [holds, find_of_follow hnoNul hnonempty hleads hthere] at habsent
    cases habsent
  | none =>
    obtain ⟨hnew, hleads⟩ := place_new hplaced (.file (.text content))
    have hthere := node?_insert hnew (.file (.text content)) location
    rw [if_pos rfl] at hthere
    unfold readText
    rw [find_of_follow hnoNul hnonempty hleads hthere]
    rfl

/-! ## Under a name of its own -/

section Named

variable {name : String} {way : List String} {location parent : Location}

theorem place_named (hsimple : IsSimple name) (hleads : tree.follow [] way = .ok parent) :
    tree.node? parent = some .directory ∧ tree.place (way ++ [name]) =
        .ok (parent ++ [.text name], tree.node? (parent ++ [.text name])) ∨
      ∃ e, e ≠ .notFound ∧ tree.place (way ++ [name]) = .error e := by
  have hdown : ¬isIdle name = true := by simp [hsimple.notIdle]
  rw [place_concat hleads]
  unfold enter
  cases habove : tree.node? parent with
  | none => exact .inr ⟨.notADirectory, by decide, rfl⟩
  | some node =>
  cases node with
  | file content => exact .inr ⟨.notADirectory, by decide, rfl⟩
  | directory =>
  dsimp only
  rw [if_neg hdown, if_neg hsimple.notParent]
  by_cases hlong : nameLimit < name.utf8ByteSize
  · rw [if_pos hlong]
    exact .inr ⟨.nameTooLong, by decide, rfl⟩
  · rw [if_neg hlong]
    refine .inl ⟨rfl, ?_⟩
    cases hfound : tree.node? (parent ++ [.text name]) with
    | none => simp [hsimple.notParent]
    | some node => simp [hfound]

theorem place_named_spec {found : Option Node} (hsimple : IsSimple name)
    (hplaced : tree.place (way ++ [name]) = .ok (location, found)) :
    ∃ parent, tree.follow [] way = .ok parent ∧ tree.node? parent = some .directory ∧
      location = parent ++ [.text name] ∧ found = tree.node? location := by
  cases hleads : tree.follow [] way with
  | error e => simp [place, hleads, bind, Except.bind] at hplaced
  | ok parent =>
    rcases place_named hsimple hleads with ⟨hdirectory, hsame⟩ | ⟨e, -, hsame⟩
    · obtain ⟨rfl, rfl⟩ := Prod.mk.inj (Except.ok.inj (hplaced.symm.trans hsame))
      exact ⟨parent, rfl, hdirectory, rfl, rfl⟩
    · rw [hsame] at hplaced
      cases hplaced

theorem write_absent (hsimple : IsSimple name) (hlast : steps path = way ++ [name])
    (hwritten : tree.write path content = .ok made) (habsent : tree.holds path = false) :
    ∃ parent, tree.follow [] way = .ok parent ∧ tree.node? parent = some .directory ∧
      tree.node? (parent ++ [.text name]) = none ∧
      made = tree.insert (parent ++ [.text name]) (.file (.text content)) ∧
      made.resolve path = .ok (parent ++ [.text name]) := by
  obtain ⟨hnoNul, hnonempty, location, found, hplaced, rfl⟩ := write_spec hwritten
  cases found with
  | some node =>
    obtain ⟨hleads, hthere⟩ := follow_of_place hplaced
    have hholds := holds_iff.mpr ⟨location, node, resolve_eq_ok_iff.mpr ⟨hnoNul, hnonempty, hleads⟩, hthere⟩
    rw [habsent] at hholds
    cases hholds
  | none =>
    obtain ⟨hnew, hleads⟩ := place_new hplaced (.file (.text content))
    rw [hlast] at hplaced
    obtain ⟨parent, habove, hdirectory, rfl, -⟩ := place_named_spec hsimple hplaced
    exact ⟨parent, habove, hdirectory, hnew, rfl, resolve_eq_ok_iff.mpr ⟨hnoNul, hnonempty, hleads⟩⟩

end Named

end SchemaMigration.Files.FileTree
