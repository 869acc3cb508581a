import SchemaMigration.Proofs.Files.Listing
import SchemaMigration.Proofs.Files.Written

/-!
# What stands in a directory

On a disk every node stands in a directory. So there is nothing below a location that is missing,
and a path gets out of there only by a step back.
-/

namespace SchemaMigration.Files.FileTree

open SchemaMigration.Files.Path

variable {tree made : FileTree} {start next location top : Location} {node : Node}
variable {way part names : List String} {name : String} {path : Path}

/-- Every node stands in a directory. -/
def Grounded (tree : FileTree) : Prop :=
  ∀ entry ∈ tree.entries, tree.node? entry.1.dropLast = some .directory

instance : Decidable tree.Grounded :=
  inferInstanceAs (Decidable (∀ entry ∈ tree.entries, _))

theorem Grounded.parent (hgrounded : tree.Grounded) {name : Name}
    (hthere : tree.node? (location ++ [name]) = some node) : tree.node? location = some .directory := by
  unfold node? at hthere
  rw [if_neg (by simp)] at hthere
  obtain ⟨before, after, hentries, -⟩ := List.lookup_eq_some_iff.mp hthere
  have habove := hgrounded (location ++ [name], node) (by simp [hentries])
  rwa [List.dropLast_concat] at habove

theorem Grounded.below (hgrounded : tree.Grounded) (hmissing : tree.node? location = none)
    (hstarts : location <+: next) : tree.node? next = none := by
  obtain ⟨rest, rfl⟩ := hstarts
  induction rest using List.reverseRecOn with
  | nil => rwa [List.append_nil]
  | append_singleton rest name ih =>
    rw [← List.append_assoc]
    cases hthere : tree.node? (location ++ rest ++ [name]) with
    | none => rfl
    | some node =>
      have habove := hgrounded.parent hthere
      rw [ih] at habove
      cases habove

/-! ## Steps -/

theorem enter_spec (hentered : tree.enter start name = .ok next) :
    tree.node? start = some .directory ∧
      (isIdle name = true ∧ next = start ∨ name = ".." ∧ next = start.dropLast ∨
        name ≠ ".." ∧ next = start ++ [.text name] ∧ tree.node? next ≠ none) := by
  unfold enter at hentered
  split at hentered
  swap
  · cases hentered
  next hdirectory =>
  refine ⟨hdirectory, ?_⟩
  split at hentered
  · next hidle => exact .inl ⟨hidle, (Except.ok.inj hentered).symm⟩
  split at hentered
  · next hback =>
    split at hentered
    · cases hentered
    · exact .inr (.inl ⟨hback, (Except.ok.inj hentered).symm⟩)
  next hdown =>
  split at hentered
  · cases hentered
  split at hentered
  · next hfound =>
    obtain rfl := Except.ok.inj hentered
    exact .inr (.inr ⟨hdown, rfl, by simp [hfound]⟩)
  · cases hentered

theorem follow_named (hsimple : IsSimple name) (hleads : tree.follow [] (way ++ [name]) = .ok location) :
    ∃ parent, tree.follow [] way = .ok parent ∧ tree.node? parent = some .directory ∧
      location = parent ++ [.text name] := by
  obtain ⟨parent, habove, hentered⟩ := follow_concat.mp hleads
  obtain ⟨hdirectory, ⟨hidle, -⟩ | ⟨hback, -⟩ | ⟨-, hsame, -⟩⟩ := enter_spec hentered
  · rw [hsimple.notIdle] at hidle
    cases hidle
  · exact absurd hback hsimple.notParent
  · exact ⟨parent, habove, hdirectory, hsame⟩

theorem enter_or_new (hdirectory : tree.node? start = some .directory)
    (hentered : made.enter start name = .ok next) :
    tree.enter start name = .ok next ∨ next = start ++ [.text name] ∧ tree.node? next = none := by
  obtain ⟨habove, -⟩ := enter_spec hentered
  unfold enter at hentered ⊢
  rw [habove] at hentered
  rw [hdirectory]
  dsimp only at hentered ⊢
  split at hentered
  · next hidle => exact .inl (by rwa [if_pos hidle])
  next hactive =>
  rw [if_neg hactive]
  split at hentered
  · next hback => exact .inl (by rwa [if_pos hback])
  next hdown =>
  rw [if_neg hdown]
  split at hentered
  · cases hentered
  next hshort =>
  rw [if_neg hshort]
  split at hentered
  · obtain rfl := Except.ok.inj hentered
    cases hfound : tree.node? (start ++ [.text name]) with
    | none => exact .inr ⟨rfl, rfl⟩
    | some node => exact .inl rfl
  · cases hentered

theorem Grounded.node?_of_follow (hgrounded : tree.Grounded)
    (hleads : tree.follow [] way = .ok location) : ∃ node, tree.node? location = some node := by
  induction way using List.reverseRecOn generalizing location with
  | nil =>
    obtain rfl := Except.ok.inj hleads
    exact ⟨.directory, rfl⟩
  | append_singleton way name ih =>
    obtain ⟨parent, -, hentered⟩ := follow_concat.mp hleads
    obtain ⟨hdirectory, ⟨-, rfl⟩ | ⟨-, rfl⟩ | ⟨-, -, hthere⟩⟩ := enter_spec hentered
    · exact ⟨.directory, hdirectory⟩
    · rcases List.eq_nil_or_concat' parent with rfl | ⟨above, last, rfl⟩
      · exact ⟨.directory, rfl⟩
      · rw [List.dropLast_concat]
        exact ⟨.directory, hgrounded.parent hdirectory⟩
    · exact Option.ne_none_iff_exists'.mp hthere

/-! ## Ways -/

/-- The way leads back only out of what is there. -/
def NoDetour (tree : FileTree) (way : List String) : Prop :=
  ∀ above, above ++ [".."] <+: way → ∃ location, tree.follow [] above = .ok location

theorem NoDetour.of_prefix (hnoDetour : tree.NoDetour way) (hstarts : part <+: way) : tree.NoDetour part :=
  fun above hback => hnoDetour above (hback.trans hstarts)

theorem noDetour_append (hleads : tree.follow [] way = .ok location) (hdown : ".." ∉ names) :
    tree.NoDetour (way ++ names) := by
  rintro above ⟨rest, hsame⟩
  rw [List.append_assoc] at hsame
  obtain ⟨more, rfl, -⟩ | ⟨more, rfl, hwithin⟩ := List.append_eq_append_iff.mp hsame
  · obtain ⟨mid, hreached, -⟩ := follow_append.mp hleads
    exact ⟨mid, hreached⟩
  · cases more with
    | nil =>
      rw [List.append_nil]
      exact ⟨location, hleads⟩
    | cons first more =>
      exact absurd (hwithin ▸ by simp) hdown

theorem NoDetour.standing (hnoDetour : tree.NoDetour (way ++ [".."])) (hgrounded : tree.Grounded)
    (hkept : tree.Keeps made) (hleads : made.follow [] way = .ok location) :
    tree.node? location ≠ none := by
  obtain ⟨other, hbefore⟩ := hnoDetour way List.prefix_rfl
  obtain rfl := Except.ok.inj ((hkept.follow hbefore).symm.trans hleads)
  obtain ⟨node, hthere⟩ := hgrounded.node?_of_follow hbefore
  simp [hthere]

theorem noDetour_join {directory : Path} {inner : String} (hleads : tree.follow [] way = .ok location)
    (hsimple : IsSimple name) (hwithin : steps directory = way ++ [name]) (hsimple' : IsSimple inner) :
    tree.NoDetour (steps (directory.join inner)) := by
  rw [steps_join_named hsimple hwithin hsimple'.noSlash]
  exact noDetour_append hleads (by simp [Ne.symm hsimple.notParent, Ne.symm hsimple'.notParent])

theorem follow_or_new (hgrounded : tree.Grounded) (hkept : tree.Keeps made) (hnoDetour : tree.NoDetour way)
    (hleads : made.follow [] way = .ok location) :
    tree.follow [] way = .ok location ∨ tree.node? location = none := by
  -- From the end, for a step back depends on where the way before it leads.
  induction way using List.reverseRecOn generalizing location with
  | nil => exact .inl hleads
  | append_singleton way name ih =>
    obtain ⟨parent, habove, hentered⟩ := follow_concat.mp hleads
    obtain ⟨hdirectory, hstep⟩ := enter_spec hentered
    rcases ih (hnoDetour.of_prefix (List.prefix_append way [name])) habove with hbefore | hmissing
    · obtain ⟨node, hthere⟩ := hgrounded.node?_of_follow hbefore
      obtain rfl : node = .directory := Option.some.inj ((hkept hthere).symm.trans hdirectory)
      rcases enter_or_new hthere hentered with hsame | ⟨-, hnew⟩
      · exact .inl (follow_concat.mpr ⟨parent, hbefore, hsame⟩)
      · exact .inr hnew
    · right
      obtain ⟨-, rfl⟩ | ⟨rfl, -⟩ | ⟨-, rfl, -⟩ := hstep
      · exact hmissing
      · exact absurd hmissing (hnoDetour.standing hgrounded hkept habove)
      · exact hgrounded.below hmissing (List.prefix_append parent _)

theorem prefix_of_new (hgrounded : tree.Grounded) (hkept : tree.Keeps made) (hnoDetour : tree.NoDetour way)
    (hstarts : part <+: way) (hreached : made.follow [] part = .ok top)
    (hnew : tree.node? top = none) (hleads : made.follow [] way = .ok location) :
    top <+: location := by
  obtain ⟨rest, rfl⟩ := hstarts
  induction rest using List.reverseRecOn generalizing location with
  | nil =>
    rw [List.append_nil] at hleads
    obtain rfl := Except.ok.inj (hreached.symm.trans hleads)
    exact List.prefix_rfl
  | append_singleton rest name ih =>
    rw [← List.append_assoc] at hleads hnoDetour
    obtain ⟨mid, habove, hentered⟩ := follow_concat.mp hleads
    have hfurther := ih (hnoDetour.of_prefix (List.prefix_append _ [name])) habove
    obtain ⟨-, ⟨-, rfl⟩ | ⟨rfl, -⟩ | ⟨-, rfl, -⟩⟩ := enter_spec hentered
    · exact hfurther
    · exact absurd (hgrounded.below hnew hfurther) (hnoDetour.standing hgrounded hkept habove)
    · exact hfurther.trans (List.prefix_append mid _)

/-! ## A new directory -/

theorem createDirectories_named (hsimple : IsSimple name) (hlast : steps path = way ++ [name])
    (hleads : tree.follow [] way = .ok top) (habsent : tree.isDirectory path = false)
    (hdone : tree.createDirectories path = (none, made)) :
    tree.node? (top ++ [.text name]) = none ∧ made = tree.insert (top ++ [.text name]) .directory ∧
      made.resolve path = .ok (top ++ [.text name]) := by
  have hnonempty := ne_empty_of_steps hsimple hlast
  have hchanged : made ≠ tree := by
    rintro rfl
    rw [isDirectory_of_created hnonempty hdone] at habsent
    cases habsent
  have hactive : (activeSteps path).reverse = name :: (way.filter (!isIdle ·)).reverse := by
    simp [activeSteps, hlast, List.filter_append, hsimple.notIdle]
  unfold createDirectories at hdone
  split at hdone
  · cases hdone
  next hnoNul =>
  split at hdone
  · cases hdone
  rw [hactive] at hdone
  unfold createMissing at hdone
  dsimp only at hdone
  rw [List.reverse_cons, List.reverse_reverse] at hdone
  have hsame : tree.place (way.filter (!isIdle ·) ++ [name]) = tree.place (way ++ [name]) :=
    (place_concat (follow_active hleads)).trans (place_concat hleads).symm
  have hplaced := place_named hsimple hleads
  unfold createDirectory at hdone
  rw [hsame] at hdone
  obtain ⟨hdirectory, hplaced⟩ | ⟨e, hother, hfailed⟩ := hplaced
  · rw [hplaced] at hdone
    cases hfound : tree.node? (top ++ [.text name]) with
    | none =>
      rw [hfound] at hdone
      obtain ⟨-, rfl⟩ := Prod.mk.inj hdone
      rw [hfound, ← hlast] at hplaced
      obtain ⟨-, hreached⟩ := place_new hplaced .directory
      exact ⟨rfl, rfl, resolve_eq_ok_iff.mpr ⟨by simpa using hnoNul, hnonempty, hreached⟩⟩
    | some node =>
      rw [hfound] at hdone
      exact absurd (Prod.mk.inj hdone).2.symm hchanged
  · rw [hfailed] at hdone
    cases e with
    | notFound => exact absurd rfl hother
    | _ => exact absurd (Prod.mk.inj hdone).2.symm hchanged

/-- A name that stands in a directory once the directory was made has stood there before, unless
the way to the directory leads back out of something missing. -/
theorem eq_of_createDirectories {directory : Path} (hgrounded : tree.Grounded) (hsimple : IsSimple name)
    (hnoDetour : tree.NoDetour (activeSteps directory))
    (hdone : tree.createDirectories directory = (none, made))
    (hthere : made.holds (directory.join name) = true) : made = tree := by
  have hgrown := grows_createDirectories tree directory
  rw [hdone] at hgrown
  obtain ⟨location, node, hleads, hthere⟩ := holds_iff.mp hthere
  obtain ⟨-, -, hleads⟩ := resolve_eq_ok_iff.mp hleads
  obtain ⟨way, hwithin, hjoin⟩ := steps_join directory
  rw [hjoin name hsimple.noSlash] at hleads
  obtain ⟨parent, habove, hstanding, rfl⟩ := follow_named hsimple hleads
  have hactive : activeSteps directory = way.filter (!isIdle ·) := by
    unfold activeSteps
    rcases hwithin with hsame | hsame <;> simp [hsame, List.filter_append, isIdle]
  have hreached := follow_active habove
  rw [← hactive] at hreached
  rcases follow_or_new hgrounded hgrown.kept hnoDetour hreached with hbefore | hmissing
  · obtain ⟨old, hfound⟩ := hgrounded.node?_of_follow hbefore
    obtain rfl : old = .directory := Option.some.inj ((hgrown.kept hfound).symm.trans hstanding)
    exact createDirectories_of_leads ⟨parent, hbefore, hfound⟩ hdone
  · -- The name itself would be a directory on the way, and the way leads on from there.
    have hnew := hgrounded.below hmissing (List.prefix_append parent [.text name])
    obtain ⟨-, part, hstarts, hthrough⟩ := hgrown.added hnew hthere
    have hlonger := (prefix_of_new hgrounded hgrown.kept hnoDetour hstarts hthrough hnew hreached).length_le
    rw [List.length_append, List.length_singleton] at hlonger
    omega

end SchemaMigration.Files.FileTree
