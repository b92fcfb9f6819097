import Codewright.Proofs.Workspace.Listing
import Codewright.Proofs.Workspace.Walk

/-!
# Directories in order

The directories that a listing goes through hold what the file system has below them, each entry
once and in the order of their names. A listing is therefore in order, too: names are compared byte
by byte and rows of names name by name.
-/

namespace Codewright.Workspace.WorkspaceFile

/-! ## The order of names -/

theorem nameLe_iff {a b : Name} : nameLe a b = true ↔ a ≤ b := by
  rw [List.le_iff_lt_or_eq]
  induction a generalizing b with
  | nil => cases b <;> simp [nameLe]
  | cons x a ih =>
      cases b with
      | nil => simp [nameLe]
      | cons y b =>
          rw [nameLe, List.cons_lt_cons_iff, List.cons.injEq]
          by_cases hxy : x = y
          · simp [hxy, ih]
          · simp [hxy]

namespace Folder

variable {fs : FileSystem} {loc : Location} {f : Folder} {name : Name} {names : List Name}
  {e : Entry}

/-! ## Entries -/

/-- A directory holds what the file system has below a location. -/
structure Mirrors (fs : FileSystem) (loc : Location) (f : Folder) : Prop where
  mem_tree : ∀ names e, names ≠ [] → ((names, e) ∈ f.tree ↔ fs.get? (loc ++ names) = some e)
  nodup : (f.tree.map (·.1)).Nodup

/-- Entries that are selected have names of their own if the way to an entry can be told from the
names that are left of it. -/
theorem nodup_filterMap {β : Type} {tree : List (Location × Entry)}
    {select : Location × Entry → Option (β × Entry)} (way : β → Location)
    (hway : ∀ x y, select x = some y → x.1 = way y.1) (h : (tree.map (·.1)).Nodup) :
    ((tree.filterMap select).map (·.1)).Nodup := by
  refine List.pairwise_map.mpr (List.pairwise_filterMap.mpr ((List.pairwise_map.mp h).imp ?_))
  intro a b hne x hx y hy hxy
  rw [hway a x hx, hway b y hy, hxy] at hne
  exact hne rfl

theorem below_eq_some {x y : Location × Entry} :
    (loc.isPrefixOf? x.1).map (·, x.2) = some y ↔ x = (loc ++ y.1, y.2) := by
  obtain ⟨l, e⟩ := x
  obtain ⟨rest, e'⟩ := y
  rw [Option.map_eq_some_iff, Prod.mk.injEq]
  constructor
  · rintro ⟨_, hrest, heq⟩
    obtain ⟨rfl, rfl⟩ := Prod.mk.inj heq
    exact ⟨(List.isPrefixOf?_eq_some_iff_append_eq.mp hrest).symm, rfl⟩
  · rintro ⟨rfl, rfl⟩
    exact ⟨rest, List.isPrefixOf?_eq_some_iff_append_eq.mpr rfl, rfl⟩

theorem mirrors_top (fs : FileSystem) (root : Path) (loc : Location) :
    (top fs root loc).Mirrors fs loc where
  mem_tree names e hne := by
    have hloc : loc ++ names ≠ [] := List.append_ne_nil_of_right_ne_nil loc hne
    rw [FileSystem.get?, if_neg hloc, ← Std.ExtTreeMap.mem_toList_iff_getElem?_eq_some]
    simp only [top, FileSystem.below, List.mem_filterMap, below_eq_some, exists_eq_right]
    rfl
  nodup := by
    have hkeys : fs.toList.Pairwise fun a b => a.1 ≠ b.1 :=
      Std.ExtTreeMap.distinct_keys_toList.imp fun h heq =>
        h (Std.LawfulEqCmp.compare_eq_iff_eq.mpr heq)
    exact nodup_filterMap (loc ++ ·) (fun x y h => congrArg Prod.fst (below_eq_some.mp h))
      (List.pairwise_map.mpr hkeys)

/-- How what lies below the directory of a name is picked out. -/
def ofChild? (name : Name) : Location × Entry → Option (Location × Entry)
  | (first :: second :: rest, e) => if first = name then some (second :: rest, e) else none
  | _ => none

theorem ofChild?_eq_some {x y : Location × Entry} :
    ofChild? name x = some y ↔ y.1 ≠ [] ∧ x = (name :: y.1, y.2) := by
  obtain ⟨names, e⟩ := y
  unfold ofChild?
  split
  · rename_i first second rest e'
    split
    · rename_i hfirst
      subst hfirst
      constructor
      · rintro ⟨⟩
        exact ⟨nofun, rfl⟩
      · rintro ⟨-, ⟨⟩⟩
        rfl
    · rename_i hfirst
      refine ⟨nofun, ?_⟩
      rintro ⟨-, ⟨⟩⟩
      exact absurd rfl hfirst
  · rename_i hshape
    refine ⟨nofun, ?_⟩
    rintro ⟨hne, rfl⟩
    obtain ⟨second, rest, rfl⟩ := List.exists_cons_of_ne_nil hne
    exact absurd rfl (hshape name second rest e)

theorem tree_child (f : Folder) (name : Name) :
    (f.child name).tree = f.tree.filterMap (ofChild? name) :=
  rfl

theorem Mirrors.child (h : f.Mirrors fs loc) (name : Name) :
    (f.child name).Mirrors fs (loc ++ [name]) where
  mem_tree names e hne := by
    rw [List.append_assoc, List.singleton_append, ← h.mem_tree _ _ (List.cons_ne_nil name names)]
    simp [tree_child, ofChild?_eq_some, hne]
  nodup := by
    rw [tree_child]
    exact nodup_filterMap (name :: ·)
      (fun x y h => congrArg Prod.fst (ofChild?_eq_some.mp h).2) h.nodup

/-- How the entries of a directory itself are picked out. -/
def own? : Location × Entry → Option (Name × Entry)
  | ([name], e) => some (name, e)
  | _ => none

theorem own?_eq_some {x : Location × Entry} {y : Name × Entry} :
    own? x = some y ↔ x = ([y.1], y.2) := by
  obtain ⟨name, e⟩ := y
  unfold own?
  split
  · simp
  · rename_i hshape
    exact ⟨nofun, fun hx => absurd hx (hshape name e)⟩

theorem entries_eq (f : Folder) :
    f.entries = (f.tree.filterMap own?).mergeSort fun a b => nameLe a.1 b.1 :=
  rfl

theorem Mirrors.mem_entries (h : f.Mirrors fs loc) :
    (name, e) ∈ f.entries ↔ fs.get? (loc ++ [name]) = some e := by
  rw [entries_eq, List.mem_mergeSort, ← h.mem_tree _ _ (List.cons_ne_nil name [])]
  simp [own?_eq_some]

theorem Mirrors.sorted_entries (h : f.Mirrors fs loc) :
    f.entries.Pairwise fun a b => a.1 < b.1 := by
  have hle : f.entries.Pairwise fun a b => nameLe a.1 b.1 = true := by
    refine List.pairwise_mergeSort (fun a b c hab hbc => ?_) (fun a b => ?_) _
    · exact nameLe_iff.mpr (List.le_trans (nameLe_iff.mp hab) (nameLe_iff.mp hbc))
    · rw [Bool.or_eq_true, nameLe_iff, nameLe_iff]
      exact List.le_total a.1 b.1
  have hne : f.entries.Pairwise fun a b => a.1 ≠ b.1 := by
    have hown : ((f.tree.filterMap own?).map (·.1)).Nodup :=
      nodup_filterMap ([·]) (fun x y h => congrArg Prod.fst (own?_eq_some.mp h)) h.nodup
    have hperm : (f.entries.map (·.1)).Nodup :=
      ((List.mergeSort_perm _ _).map _).nodup_iff.mpr hown
    exact List.pairwise_map.mp hperm
  exact (hle.and hne).imp fun ⟨hab, hne⟩ => Std.lt_of_le_of_ne (nameLe_iff.mp hab) hne

end Folder

/-! ## Listings -/

variable {fs : FileSystem} {useRules : Bool} {depth : Nat} {f : Folder} {chain : IgnoreChain}
  {loc : Location} {files row : List WorkspaceFile} {file : WorkspaceFile} {entry : Name × Entry}

theorem pairwise_flatten_of_mapM {α β : Type} {R : α → α → Prop} {S : β → β → Prop}
    {step : α → Except IoError (List β)} {xs : List α} {rows : List (List β)}
    (h : xs.mapM step = .ok rows) (hxs : xs.Pairwise R)
    (hrow : ∀ x row, step x = .ok row → row.Pairwise S)
    (hrows : ∀ x y row row', R x y → step x = .ok row → step y = .ok row' →
      ∀ a ∈ row, ∀ b ∈ row', S a b) : rows.flatten.Pairwise S := by
  induction xs generalizing rows with
  | nil =>
      cases h
      exact .nil
  | cons x xs ih =>
      obtain ⟨row, rest, hx, hrest, rfl⟩ := mapM_cons_ok h
      obtain ⟨hfirst, hxs⟩ := List.pairwise_cons.mp hxs
      rw [List.flatten_cons, List.pairwise_append]
      refine ⟨hrow x row hx, ih hrest hxs, fun a ha b hb => ?_⟩
      obtain ⟨y, hy, row', hrow', hb⟩ := (mem_flatten_of_mapM hrest).mp hb
      exact hrows x y row row' (hfirst y hy) hx hrow' a ha b hb

/-- The names of what an entry adds to a listing start with the name of the entry. -/
theorem names_of_listEntry (h : listEntry fs useRules depth f chain entry = .ok row)
    (hfile : file ∈ row) : ∃ rest, file.path.names = f.path.names ++ entry.1 :: rest := by
  obtain rfl | ⟨content, -, -, -, rfl⟩ | ⟨-, -, hbelow⟩ := listEntry_ok h
  · cases hfile
  · obtain rfl := List.mem_singleton.mp hfile
    exact ⟨[], rfl⟩
  · obtain ⟨names, content, -, rfl⟩ := leads_of_mem_listBelow hbelow hfile
    rw [Folder.fileAt_child]
    exact ⟨names, rfl⟩

theorem sorted_listBelow (hf : f.Mirrors fs loc)
    (h : listBelow fs useRules depth f chain = .ok files) :
    files.Pairwise fun a b => a.path.names < b.path.names := by
  induction depth generalizing f chain loc files with
  | zero => cases h
  | succ depth ih =>
      obtain ⟨rows, hrows, rfl⟩ := listBelow_succ_ok h
      refine pairwise_flatten_of_mapM hrows hf.sorted_entries (fun entry row hrow => ?_)
        fun x y row row' hxy hx hy a ha b hb => ?_
      · obtain rfl | ⟨content, -, -, -, rfl⟩ | ⟨-, -, hbelow⟩ := listEntry_ok hrow
        · exact .nil
        · exact List.pairwise_singleton ..
        · exact ih (hf.child entry.1) hbelow
      -- The names of two entries differ, and these come first in the paths of what they add.
      · obtain ⟨rest, ha⟩ := names_of_listEntry hx ha
        obtain ⟨rest', hb⟩ := names_of_listEntry hy hb
        rw [ha, hb]
        exact List.append_left_lt (List.cons_lt_cons_iff.mpr (.inl hxy))

/-- The files in a listing are in the order of their names. -/
theorem sorted_list {root : Path} (h : list fs root useRules = .ok files) :
    files.Pairwise fun a b => a.path.names < b.path.names := by
  obtain rfl | ⟨loc, -, hbelow⟩ := list_ok h
  · exact .nil
  · exact sorted_listBelow (Folder.mirrors_top fs root loc) hbelow

end Codewright.Workspace.WorkspaceFile
