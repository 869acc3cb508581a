import SchemaMigration.Files.Path
import SchemaMigration.Proofs.Text.Search

/-!
# Names in paths

A name without a slash that is put behind a directory is the file name of the path.
-/

namespace SchemaMigration

open Text

namespace Files.Path

/-- A name that stands for itself in a path. -/
structure IsSimple (name : String) : Prop where
  noSlash : '/' ∉ name.toList
  notIdle : isIdle name = false
  notParent : name ≠ ".."

theorem isAbsolute_of_noSlash {name : String} (h : '/' ∉ name.toList) : isAbsolute name = false := by
  unfold isAbsolute
  cases hname : name.toList with
  | nil => rfl
  | cons c rest =>
    have hc : c ≠ '/' := by
      rintro rfl
      exact h (by simp [hname])
    simp [hc]

section Join

variable {name directory : String}

theorem join_eq (h : '/' ∉ name.toList) (hdirectory : directory ≠ "") : join directory name =
    if directory.toList.getLast? = some '/' then directory ++ name else directory ++ "/" ++ name := by
  unfold join
  rw [if_neg (by simp [isAbsolute_of_noSlash h, hdirectory])]

theorem join_empty (name : String) : join "" name = name := by
  unfold join
  rw [if_pos (.inr rfl)]

theorem isAbsolute_join (h : '/' ∉ name.toList) (directory : Path) :
    isAbsolute (join directory name) = isAbsolute directory := by
  by_cases hdirectory : directory = ""
  · rw [hdirectory, join_empty, isAbsolute_of_noSlash h]
    rfl
  obtain ⟨c, rest, hchars⟩ :=
    List.exists_cons_of_ne_nil (mt String.toList_eq_nil_iff.mp hdirectory)
  rw [join_eq h hdirectory]
  unfold isAbsolute
  split <;> simp [hchars]

theorem pieces_join (directory : Path) :
    ∃ way, (pieces directory = way ∨ pieces directory = way ++ [""]) ∧
      ∀ name, '/' ∉ name.toList → pieces (join directory name) = way ++ [name] := by
  by_cases hdirectory : directory = ""
  · refine ⟨[], .inr (by rw [hdirectory]; rfl), fun name h => ?_⟩
    rw [hdirectory, join_empty]
    unfold pieces
    rw [splitOn_eq_self h]
    simp
  by_cases hlast : directory.toList.getLast? = some '/'
  · obtain ⟨start, hstart⟩ := List.getLast?_eq_some_iff.mp hlast
    refine ⟨(splitOn '/' start).map String.ofList, .inr ?_, fun name h => ?_⟩
    · unfold pieces
      rw [hstart, splitOn_append]
      simp [splitOn]
    · have hjoin : (directory ++ name).toList = start ++ '/' :: name.toList := by simp [hstart]
      rw [join_eq h hdirectory, if_pos hlast]
      unfold pieces
      rw [hjoin, splitOn_append, splitOn_eq_self h]
      simp
  · refine ⟨pieces directory, .inl rfl, fun name h => ?_⟩
    have hjoin : (directory ++ "/" ++ name).toList = directory.toList ++ '/' :: name.toList := by
      simp
    rw [join_eq h hdirectory, if_neg hlast]
    unfold pieces
    rw [hjoin, splitOn_append, splitOn_eq_self h]
    simp

theorem steps_join (directory : Path) :
    ∃ way, (steps directory = way ∨ steps directory = way ++ [""]) ∧
      ∀ name, '/' ∉ name.toList → steps (join directory name) = way ++ [name] := by
  obtain ⟨way, hway, hjoin⟩ := pieces_join directory
  by_cases habsolute : isAbsolute directory = true
  · refine ⟨rootName :: way, ?_, fun name h => ?_⟩
    · unfold steps
      rw [if_pos habsolute]
      exact hway.imp (congrArg _) (congrArg _)
    · unfold steps
      rw [isAbsolute_join h, if_pos habsolute, hjoin name h]
      rfl
  · refine ⟨way, ?_, fun name h => ?_⟩
    · unfold steps
      rwa [if_neg habsolute]
    · unfold steps
      rw [isAbsolute_join h, if_neg habsolute, hjoin name h]

theorem ne_empty_of_steps {path : Path} {way : List String} (hsimple : IsSimple name)
    (hlast : steps path = way ++ [name]) : path ≠ "" := by
  rintro rfl
  have hsingle : [] ++ [""] = way ++ [name] := hlast
  obtain ⟨-, rfl⟩ := List.append_singleton_inj.mp hsingle
  exact absurd hsimple.notIdle (by decide)

theorem steps_join_named {last : String} {way : List String} (hsimple : IsSimple last)
    (hwithin : steps directory = way ++ [last]) (h : '/' ∉ name.toList) :
    steps (join directory name) = way ++ [last, name] := by
  obtain ⟨way', hway, hjoin⟩ := steps_join directory
  rw [hjoin name h]
  rcases hway with hsame | hsame
  · rw [← hsame, hwithin, List.append_assoc]
    rfl
  · rw [hwithin] at hsame
    obtain ⟨-, rfl⟩ := List.append_singleton_inj.mp hsame
    exact absurd hsimple.notIdle (by decide)

end Join

theorem getLast?_pieces_join {name : String} (h : '/' ∉ name.toList) (directory : Path) :
    (pieces (join directory name)).getLast? = some name := by
  obtain ⟨way, -, hjoin⟩ := pieces_join directory
  rw [hjoin name h]
  simp

theorem fileName?_join {name : String} (h : IsSimple name) (directory : Path) :
    fileName? (join directory name) = some name := by
  obtain ⟨before, hbefore⟩ := List.getLast?_eq_some_iff.mp (getLast?_pieces_join h.noSlash directory)
  unfold fileName? components
  rw [hbefore, List.filter_append]
  simp [h.notIdle, h.notParent]

theorem fileName?_join_parent (directory : Path) : fileName? (join directory "..") = none := by
  have hparent : '/' ∉ "..".toList := by decide
  obtain ⟨before, hbefore⟩ := List.getLast?_eq_some_iff.mp (getLast?_pieces_join hparent directory)
  unfold fileName? components
  rw [hbefore, List.filter_append]
  simp [isIdle]

theorem noSlash_of_fileName? {path : Path} {name : String} (h : fileName? path = some name) :
    '/' ∉ name.toList := by
  obtain ⟨hlast, -⟩ := Option.filter_eq_some_iff.mp h
  obtain ⟨hcomponent, -⟩ := List.mem_filter.mp (List.mem_of_getLast? hlast)
  obtain ⟨piece, hpiece, rfl⟩ := List.mem_map.mp hcomponent
  rw [String.toList_ofList]
  exact not_mem_of_mem_splitOn hpiece

theorem getLast?_steps (path : Path) : (steps path).getLast? = (pieces path).getLast? := by
  have hpieces : pieces path ≠ [] := by
    unfold pieces
    simp [splitOn_ne_nil]
  unfold steps
  split
  · exact List.getLast?_cons_of_ne_nil hpieces
  · rfl

theorem isSimple_of_fileName? {path : Path} {name : String} (h : fileName? path = some name) :
    IsSimple name := by
  obtain ⟨hlast, hparent⟩ := Option.filter_eq_some_iff.mp h
  obtain ⟨-, hactive⟩ := List.mem_filter.mp (List.mem_of_getLast? hlast)
  exact ⟨noSlash_of_fileName? h, by simpa using hactive, by simpa using hparent⟩

theorem steps_of_fileName? {path : Path} {name : String} (h : fileName? path = some name)
    (hasks : asksDirectory path = false) : ∃ way, steps path = way ++ [name] := by
  rw [← List.getLast?_eq_some_iff, getLast?_steps]
  cases hlast : (pieces path).getLast? with
  | none =>
    unfold fileName? components at h
    simp [List.getLast?_eq_none_iff.mp hlast] at h
  | some last =>
    have hactive : isIdle last = false := by simpa [asksDirectory, hlast] using hasks
    obtain ⟨front, hpieces⟩ := List.getLast?_eq_some_iff.mp hlast
    unfold fileName? components at h
    rw [hpieces, List.filter_append] at h
    simp only [hactive, Bool.not_false, List.filter_cons_of_pos, List.filter_nil,
      List.getLast?_concat] at h
    exact (Option.filter_eq_some_iff.mp h).1

end Files.Path

end SchemaMigration
