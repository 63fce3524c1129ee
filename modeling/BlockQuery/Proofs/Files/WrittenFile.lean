import BlockQuery.Files.FileTree
import BlockQuery.Files.PrivateFile
import BlockQuery.Proofs.Outcome
import Mathlib.Data.List.Nodup
import Mathlib.Data.List.Perm.Subperm

/-!
# Written files

A private write that succeeds leaves the content at its path: the file can be found
there, and reading it gives the content.  Every step of the write changes the tree
at one or two paths only, and none of these lies on the way to the file.
-/

namespace BlockQuery.Files

/-! ## Paths -/

namespace Path

theorem eq_child_of_ne_root {path : Path} (proper : path ≠ root) :
    path = path.parent.child path.name := by
  obtain ⟨names⟩ := path
  cases names with
  | nil => exact absurd rfl proper
  | cons name above => rfl

theorem child_ne_root (folder : Path) (name : String) : folder.child name ≠ root := by
  intro same
  exact List.cons_ne_nil _ _ (congrArg names same)

/-- What stands in a folder does not lie on the way there. -/
theorem ne_child_of_suffix {folder : Path} {names : List String} {name : String}
    (inside : names <:+ folder.names) : (⟨names⟩ : Path) ≠ folder.child name := by
  intro same
  have longer : names.length = folder.names.length + 1 := congrArg (·.names.length) same
  have shorter := inside.length_le
  omega

/-- No path but the root lies on the way to its parent. -/
theorem ne_of_suffix_parent {path : Path} (proper : path ≠ root) {names : List String}
    (inside : names <:+ path.parent.names) : (⟨names⟩ : Path) ≠ path := by
  rw [eq_child_of_ne_root proper]
  exact ne_child_of_suffix inside

/-- A path ends with its innermost name, and what stands before it depends on the folder only. -/
theorem exists_text_child (folder : Path) :
    ∃ start : String, ∀ name, (folder.child name).text = start ++ name := by
  cases names : folder.names with
  | nil => exact ⟨"/", fun name => by simp [text, child, names]⟩
  | cons last above =>
      refine ⟨"/" ++ ("/".intercalate folder.names.reverse ++ "/"), fun name => ?_⟩
      rw [text, child, List.reverse_cons, String.intercalate_append_of_ne_nil (by simp [names])
        (List.cons_ne_nil _ _), String.intercalate_singleton, ← String.append_assoc]

theorem size_text_child_le {folder : Path} {name other : String}
    (shorter : name.utf8ByteSize ≤ other.utf8ByteSize) :
    (folder.child name).text.utf8ByteSize ≤ (folder.child other).text.utf8ByteSize := by
  obtain ⟨start, text⟩ := folder.exists_text_child
  rw [text, text, String.utf8ByteSize_append, String.utf8ByteSize_append]
  exact Nat.add_le_add_left shorter _

theorem size_name_lt (path : Path) :
    path.name.utf8ByteSize < s!".{path.name}.".utf8ByteSize := by
  have dotted : s!".{path.name}." = "." ++ path.name ++ "." := rfl
  have dot : ".".utf8ByteSize = 1 := rfl
  rw [dotted, String.utf8ByteSize_append, String.utf8ByteSize_append, dot]
  omega

end Path

namespace FileTree

/-! ## Nodes -/

section

variable {tree : FileTree} {path other : Path}

theorem lookup_erase_of_ne (differ : other ≠ path) :
    (tree.erase path).lookup other = tree.lookup other := by
  induction tree with
  | nil => rfl
  | cons entry tree ih =>
      obtain ⟨place, node⟩ := entry
      rw [erase] at ih
      rw [erase, List.filter_cons]
      by_cases here : place = path
      · simp [here, List.lookup_cons, beq_eq_false_iff_ne.mpr differ, ih]
      · simp [here, List.lookup_cons, ih]

theorem node?_congr {later : FileTree} (same : later.lookup path = tree.lookup path) :
    later.node? path = tree.node? path := by
  rw [node?, node?]
  split
  · next isRoot => rw [rootMode, rootMode, ← isRoot, same]
  · exact same

theorem node?_erase_of_ne (differ : other ≠ path) :
    (tree.erase path).node? other = tree.node? other :=
  node?_congr (lookup_erase_of_ne differ)

theorem node?_put_of_ne (differ : other ≠ path) (node : Node) :
    (tree.put path node).node? other = tree.node? other := by
  have elsewhere : (tree.put path node).lookup other = (tree.erase path).lookup other := by
    rw [put, List.lookup_cons, beq_eq_false_iff_ne.mpr differ]
    rfl
  exact node?_congr (elsewhere.trans (lookup_erase_of_ne differ))

theorem node?_erase_self (proper : path ≠ Path.root) : (tree.erase path).node? path = none := by
  rw [node?, if_neg proper, List.lookup_eq_none_iff]
  intro entry listed
  rw [erase, List.mem_filter, bne_iff_ne] at listed
  exact bne_iff_ne.mpr (Ne.symm listed.2)

theorem node?_put_self (proper : path ≠ Path.root) (node : Node) :
    (tree.put path node).node? path = some node := by
  rw [node?, if_neg proper, put, List.lookup_cons_self]

end

/-! ## Ways -/

theorem reach_cons_eq_ok_iff {tree : FileTree} {target : Path} {name : String}
    {above : List String} :
    tree.reach target (name :: above) = .ok () ↔
      tree.reach target above = .ok () ∧ name.utf8ByteSize ≤ nameLimit ∧
        ∃ mode, tree.node? ⟨name :: above⟩ = some (.directory mode) := by
  rw [reach]
  cases before : tree.reach target above with
  | error error =>
      apply iff_of_false (error_bind_ne_ok _ _ _)
      rintro ⟨⟨⟩, -⟩
  | ok =>
      rw [ok_bind]
      by_cases long : nameLimit < name.utf8ByteSize
      · rw [if_pos long]
        exact iff_of_false (error_bind_ne_ok _ _ _)
          fun fits => absurd fits.2.1 (Nat.not_le_of_lt long)
      · rw [if_neg long]
        cases tree.node? ⟨name :: above⟩ with
        | none => simp
        | some node =>
            cases node with
            | directory mode => simp [Nat.le_of_not_lt long]
            | file mode content => simp

/-- A way leads through the same directories in trees that agree on them. -/
theorem reach_of_reach {tree later : FileTree} {names : List String}
    (agree : ∀ way, way <:+ names → later.node? ⟨way⟩ = tree.node? ⟨way⟩) {target other : Path}
    (reached : tree.reach target names = .ok ()) : later.reach other names = .ok () := by
  induction names with
  | nil => rfl
  | cons name above ih =>
      rw [reach_cons_eq_ok_iff] at reached ⊢
      rw [agree _ List.suffix_rfl]
      refine ⟨ih (fun way inside => ?_) reached.1, reached.2⟩
      exact agree way (inside.trans (List.suffix_cons name above))

theorem find_eq_ok_iff {tree : FileTree} {path : Path} {node : Option Node} :
    tree.find path = .ok node ↔ path.text.utf8ByteSize ≤ pathLimit ∧
      tree.reach path path.parent.names = .ok () ∧ path.name.utf8ByteSize ≤ nameLimit ∧
      tree.node? path = node := by
  rw [find]
  by_cases far : pathLimit < path.text.utf8ByteSize
  · rw [if_pos far]
    exact iff_of_false (error_bind_ne_ok _ _ _) fun fits => absurd fits.1 (Nat.not_le_of_lt far)
  · rw [if_neg far]
    cases tree.reach path path.parent.names with
    | error error =>
        apply iff_of_false (error_bind_ne_ok _ _ _)
        rintro ⟨-, ⟨⟩, -⟩
    | ok =>
        by_cases long : nameLimit < path.name.utf8ByteSize
        · rw [ok_bind, if_pos long]
          exact iff_of_false (error_bind_ne_ok _ _ _)
            fun fits => absurd fits.2.2.1 (Nat.not_le_of_lt long)
        · rw [ok_bind, if_neg long]
          constructor
          · intro same
            exact ⟨Nat.le_of_not_lt far, rfl, Nat.le_of_not_lt long, Except.ok.inj same⟩
          · rintro ⟨-, -, -, rfl⟩
            rfl

/-! ## Steps -/

section

variable {tree later : FileTree} {path : Path}

theorem eq_ok_of_run_step {change : FileTree → Except FileError FileTree}
    (ended : (step change).run.run tree = (.ok (), later)) : change tree = .ok later := by
  unfold step at ended
  obtain ⟨_, _, ⟨⟩, rest⟩ := exists_of_run_bind ended
  cases made : change tree with
  | error error =>
      rw [made] at rest
      cases rest
  | ok next =>
      rw [made] at rest
      cases rest
      rfl

theorem exists_of_setMode {mode : Nat} (changed : tree.setMode path mode = .ok later) :
    ∃ node, tree.node? path = some node ∧ later = tree.put path (node.withMode mode) := by
  unfold setMode at changed
  split at changed
  case h_1 node here => exact ⟨node, here, (Except.ok.inj changed).symm⟩
  case h_2 => cases changed

theorem exists_of_write {content : String} (changed : tree.write path content = .ok later) :
    ∃ mode old, tree.node? path = some (.file mode old) ∧
      later = tree.put path (.file mode content) := by
  unfold write at changed
  split at changed
  case h_1 mode old here => exact ⟨mode, old, here, (Except.ok.inj changed).symm⟩
  case h_2 => cases changed
  case h_3 => cases changed

theorem exists_of_rename {mode : Nat} {content : String} {target : Path}
    (there : tree.node? path = some (.file mode content))
    (changed : tree.rename path target = .ok later) :
    target ≠ Path.root ∧ later = (tree.erase path).put target (.file mode content) := by
  unfold rename at changed
  split at changed
  case isTrue => cases changed
  case isFalse proper =>
    rw [there] at changed
    cases here : tree.node? target with
    | none =>
        rw [here] at changed
        exact ⟨proper, (Except.ok.inj changed).symm⟩
    | some node =>
        rw [here] at changed
        cases node with
        | directory => cases changed
        | file => exact ⟨proper, (Except.ok.inj changed).symm⟩

end

/-- The name of a temporary file stands between the given texts. -/
theorem exists_unusedPath (tree : FileTree) (folder : Path) (start tag finish : String) :
    ∃ count, tree.unusedPath folder start tag finish =
      folder.child (start ++ tag ++ String.ofList (List.replicate count 'x') ++ finish) := by
  unfold unusedPath
  dsimp only
  cases found : List.find? _ _ with
  | none => exact ⟨_, rfl⟩
  | some path =>
      obtain ⟨count, -, rfl⟩ := List.mem_map.mp (List.mem_of_find?_eq_some found)
      exact ⟨count, rfl⟩

theorem numberedName_injective (folder : Path) (start tag finish : String) :
    Function.Injective fun count : Nat =>
      folder.child (start ++ tag ++ String.ofList (List.replicate count 'x') ++ finish) := by
  intro count other same
  have names := congrArg (String.length ∘ Path.name) same
  simpa [Path.name, Path.child] using names

theorem mem_of_node?_ne_none {tree : FileTree} {path : Path} (proper : path ≠ Path.root)
    (there : tree.node? path ≠ none) : path ∈ tree.map Prod.fst := by
  rw [node?, if_neg proper] at there
  by_contra absent
  apply there
  rw [List.lookup_eq_none_iff]
  intro entry listed
  rw [bne_iff_ne]
  rintro rfl
  exact absent (List.mem_map_of_mem listed)

/-- The name of a temporary file is not in use: there are more names to choose from than nodes. -/
theorem node?_unusedPath (tree : FileTree) (folder : Path) (start tag finish : String) :
    tree.node? (tree.unusedPath folder start tag finish) = none := by
  unfold unusedPath
  dsimp only
  cases found : List.find? _ _ with
  | some path =>
      have unused := List.find?_some found
      exact Option.isNone_iff_eq_none.mp unused
  | none =>
      rw [List.find?_eq_none] at found
      have listed : (List.range (List.length tree + 1)).map (fun count =>
          folder.child (start ++ tag ++ String.ofList (List.replicate count 'x') ++ finish)) ⊆
          tree.map Prod.fst := by
        intro path numbered
        have used := found path numbered
        obtain ⟨count, -, rfl⟩ := List.mem_map.mp numbered
        rw [Option.isNone_iff_eq_none] at used
        exact mem_of_node?_ne_none (Path.child_ne_root _ _) used
      have distinct := numberedName_injective folder start tag finish
      have fewer := (List.subperm_of_subset (List.nodup_range.map distinct) listed).length_le
      rw [List.length_map, List.length_map, List.length_range] at fewer
      omega

/-- What is known when a temporary file has been created in a folder. -/
structure Prepared (tree : FileTree) (folder : Path) (start tag finish : String)
    (temporary : Path) (later : FileTree) : Prop where
  named : ∃ count, temporary =
    folder.child (start ++ tag ++ String.ofList (List.replicate count 'x') ++ finish)
  near : temporary.text.utf8ByteSize ≤ pathLimit
  reached : tree.reach temporary folder.names = .ok ()
  short : start.utf8ByteSize + tagSize + finish.utf8ByteSize ≤ nameLimit
  fresh : tree.node? temporary = none
  made : later = tree.put temporary (.file 0o600 "")

section

variable {tree later : FileTree} {folder temporary : Path} {start tag finish : String}

theorem Prepared.ne_root (prepared : Prepared tree folder start tag finish temporary later) :
    temporary ≠ Path.root := by
  obtain ⟨count, named⟩ := prepared.named
  rw [named]
  exact Path.child_ne_root _ _

theorem Prepared.ne_of_suffix (prepared : Prepared tree folder start tag finish temporary later)
    {names : List String} (inside : names <:+ folder.names) : (⟨names⟩ : Path) ≠ temporary := by
  obtain ⟨count, named⟩ := prepared.named
  rw [named]
  exact Path.ne_child_of_suffix inside

theorem prepared_of_createTemporary
    (created : tree.createTemporary folder start tag finish = .ok (temporary, later)) :
    Prepared tree folder start tag finish temporary later := by
  unfold createTemporary at created
  dsimp only at created
  by_cases far : pathLimit < (tree.unusedPath folder start tag finish).text.utf8ByteSize
  · rw [if_pos far] at created
    cases created
  · rw [if_neg far] at created
    obtain ⟨⟨⟩, reached, created⟩ := bind_eq_ok_iff.mp created
    split at created
    · cases created
    · next short =>
        cases created
        exact ⟨tree.exists_unusedPath folder start tag finish, Nat.le_of_not_lt far, reached,
          Nat.le_of_not_lt short, tree.node?_unusedPath folder start tag finish, rfl⟩

theorem prepared_of_run_createTemporary
    (ended : ((system tag).createTemporary folder start finish).run.run tree =
      (.ok temporary, later)) :
    Prepared tree folder start tag finish temporary later := by
  obtain ⟨_, _, ⟨⟩, rest⟩ := exists_of_run_bind ended
  cases created : tree.createTemporary folder start tag finish with
  | error error =>
      rw [created] at rest
      cases rest
  | ok result =>
      rw [created] at rest
      cases rest
      exact prepared_of_createTemporary created

end

/-! ## Private writes -/

/-- A file that has been filled and renamed. -/
theorem exists_of_fillAndRename {tag content : String} {tree later : FileTree}
    {temporary path : Path} (proper : temporary ≠ Path.root)
    (ended : (fillAndRename (system tag) temporary path content).run.run tree = (.ok (), later)) :
    path ≠ Path.root ∧ later.node? path = some (.file privateFileMode content) ∧
      ∀ other, other ≠ temporary → other ≠ path → later.node? other = tree.node? other := by
  unfold fillAndRename at ended
  obtain ⟨⟨⟩, secured, moded, ended⟩ := exists_of_run_bind ended
  obtain ⟨⟨⟩, filled, written, ended⟩ := exists_of_run_bind ended
  obtain ⟨node, here, rfl⟩ := exists_of_setMode (eq_ok_of_run_step moded)
  obtain ⟨mode, old, there, rfl⟩ := exists_of_write (eq_ok_of_run_step written)
  rw [node?_put_self proper] at there
  have restricted : mode = privateFileMode := by
    cases node with
    | directory => cases there
    | file =>
        cases there
        rfl
  obtain ⟨placed, rfl⟩ :=
    exists_of_rename (node?_put_self proper _) (eq_ok_of_run_step ended)
  refine ⟨placed, ?_, ?_⟩
  · rw [node?_put_self placed, restricted]
  · intro other notTemporary notPath
    rw [node?_put_of_ne notPath, node?_erase_of_ne notTemporary, node?_put_of_ne notTemporary,
      node?_put_of_ne notTemporary]

section

variable {tag content : String} {tree middle later : FileTree} {temporary path : Path}

/-- Where there is room for a temporary sibling, there is room for the file. -/
theorem Prepared.fits
    (prepared : Prepared tree path.parent s!".{path.name}." tag ".tmp" temporary middle)
    (proper : path ≠ Path.root) :
    path.text.utf8ByteSize ≤ pathLimit ∧ path.name.utf8ByteSize ≤ nameLimit := by
  obtain ⟨count, named⟩ := prepared.named
  have longer := path.size_name_lt
  have near := prepared.near
  have short := prepared.short
  refine ⟨?_, by omega⟩
  rw [named] at near
  rw [Path.eq_child_of_ne_root proper]
  refine Nat.le_trans (Path.size_text_child_le ?_) near
  rw [String.utf8ByteSize_append, String.utf8ByteSize_append, String.utf8ByteSize_append]
  omega

/-- The last steps of a private write, from the creation of the temporary file on. -/
theorem find_of_fillAndRename
    (prepared : Prepared tree path.parent s!".{path.name}." tag ".tmp" temporary middle)
    (ended : (fillAndRename (system tag) temporary path content).run.run middle =
      (.ok (), later)) :
    later.find path = .ok (some (.file privateFileMode content)) := by
  obtain ⟨placed, here, kept⟩ := exists_of_fillAndRename prepared.ne_root ended
  obtain ⟨near, short⟩ := prepared.fits placed
  rw [find_eq_ok_iff]
  refine ⟨near, ?_, short, here⟩
  apply reach_of_reach _ prepared.reached
  intro way inside
  have notTemporary : (⟨way⟩ : Path) ≠ temporary := prepared.ne_of_suffix inside
  have notPath : (⟨way⟩ : Path) ≠ path := Path.ne_of_suffix_parent placed inside
  rw [kept _ notTemporary notPath, prepared.made, node?_put_of_ne notTemporary]

end

/-- A private write that succeeds leaves the content at its path. -/
theorem find_of_writePrivate {tag content : String} {tree later : FileTree} {path : Path}
    (ended : (writePrivate (system tag) path content).run.run tree = (.ok (), later)) :
    later.find path = .ok (some (.file privateFileMode content)) := by
  unfold writePrivate at ended
  obtain ⟨⟨⟩, parents, -, ended⟩ := exists_of_run_bind ended
  obtain ⟨⟨⟩, secured, -, ended⟩ := exists_of_run_bind ended
  obtain ⟨temporary, middle, created, ended⟩ := exists_of_run_bind ended
  rcases exists_of_run_tryCatch ended with filled | ⟨error, failed, -, cleaned⟩
  · exact find_of_fillAndRename (prepared_of_run_createTemporary created) filled
  · obtain ⟨⟨⟩, removed, -, thrown⟩ := exists_of_run_bind cleaned
    cases thrown

end FileTree

end BlockQuery.Files
