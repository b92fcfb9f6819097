import Codewright.Proofs.Workspace.Path
import Codewright.Workspace.FileSystem

/-!
# Walks

How following names goes on behind a directory that has been reached, and where it leads if there
are no links.
-/

namespace Codewright.Workspace

namespace FileSystem

variable {fs fs' : FileSystem} {aim : Aim} {links links' : Nat} {dir loc : Location} {name : Name}
  {names rest skipped : List Name}

/-! ## Entries -/

theorem get?_set (h : loc ≠ []) (e : Entry) (l : Location) :
    (fs.set loc e).get? l = if l = loc then some e else fs.get? l := by
  by_cases hl : l = []
  · rw [hl, if_neg h.symm]
    rfl
  · rw [get?, if_neg hl, get?, if_neg hl, FileSystem.set, Std.ExtTreeMap.getElem?_insert]
    simp only [Std.LawfulEqCmp.compare_eq_iff_eq]
    simp only [eq_comm]

theorem get?_erase (h : loc ≠ []) (l : Location) :
    (fs.erase loc).get? l = if l = loc then none else fs.get? l := by
  by_cases hl : l = []
  · rw [hl, if_neg h.symm]
    rfl
  · rw [get?, if_neg hl, get?, if_neg hl, FileSystem.erase, Std.ExtTreeMap.getElem?_erase]
    simp only [Std.LawfulEqCmp.compare_eq_iff_eq]
    simp only [eq_comm]

/-! ## Steps of a walk -/

theorem walk_stays (h : name.Stays) :
    fs.walk aim links dir (name :: rest) = fs.walk aim links dir rest := by
  rw [walk, if_pos (show name = [] ∨ name = Path.here from h)]

theorem walk_up :
    fs.walk aim links dir (Path.up :: rest) = fs.walk aim links dir.dropLast rest := by
  rw [walk, if_neg (by decide), if_pos rfl]

/-- Whether it is clear that a name is not that of a new file, before it is looked up. -/
abbrev RulesOutFile (aim : Aim) (rest : List Name) : Prop :=
  aim = .newFile ∧ rest ≠ [] ∧ rest.all (· = [])

theorem not_rulesOutFile_entry (rest : List Name) : ¬ RulesOutFile .entry rest :=
  fun h => nomatch h.1

/-- Where the target of a link in a directory starts, and the names from there. -/
def linkStart (dir : Location) (target : List UInt8) : Location × List Name :=
  match Path.splitNames target with
  | [] :: names => ([], names)
  | names => (dir, names)

/-- What a proper name leads to depends on the entry of that name. -/
theorem walk_proper (h : name.IsProper) (hlength : name.length ≤ maxNameLength)
    (hrest : ¬ RulesOutFile aim rest) :
    fs.walk aim links dir (name :: rest) =
      match fs.get? (dir ++ [name]) with
      | some .dir => fs.walk aim links (dir ++ [name]) rest
      | some (.link target) =>
        if rest = [] ∧ aim = .entry then .ok (dir ++ [name])
        else
          match links with
          | 0 => .error .tooManyLinks
          | links + 1 =>
            fs.walk aim links (linkStart dir target).1 ((linkStart dir target).2 ++ rest)
      | some (.file _) => if rest = [] then .ok (dir ++ [name]) else .error .notADirectory
      | none => if rest = [] then .ok (dir ++ [name]) else .error .notFound := by
  rw [walk, if_neg h.not_stays, if_neg h.ne_up, if_neg hrest,
    if_neg (Nat.not_lt.mpr hlength)]
  cases fs.get? (dir ++ [name]) with
  | none => rfl
  | some e =>
      cases e with
      | dir | file => rfl
      | link target =>
          cases links with
          | zero => rfl
          | succ links =>
              dsimp only [linkStart]
              cases Path.splitNames target with
              | nil => rfl
              | cons first names => cases first <;> rfl

/-- A walk that gets behind a proper name has looked it up. -/
theorem walk_proper_ok (h : name.IsProper) (hw : fs.walk aim links dir (name :: rest) = .ok loc) :
    name.length ≤ maxNameLength ∧ ¬ RulesOutFile aim rest := by
  rw [walk, if_neg h.not_stays, if_neg h.ne_up] at hw
  by_cases hrest : RulesOutFile aim rest
  · rw [if_pos hrest] at hw
    cases hw
  · rw [if_neg hrest] at hw
    by_cases hlength : maxNameLength < name.length
    · rw [if_pos hlength] at hw
      cases hw
    · exact ⟨Nat.not_lt.mp hlength, hrest⟩

/-- A walk that ends somewhere. It goes through directories and links; behind its last name there
may be anything, but a link is followed unless the entry is asked for. -/
inductive Walks (fs : FileSystem) (aim : Aim) : Nat → Location → List Name → Location → Prop where
  | nil {links : Nat} {dir : Location} : Walks fs aim links dir [] dir
  | stay {links : Nat} {dir loc : Location} {name : Name} {rest : List Name} :
      name.Stays → Walks fs aim links dir rest loc → Walks fs aim links dir (name :: rest) loc
  | up {links : Nat} {dir loc : Location} {rest : List Name} :
      Walks fs aim links dir.dropLast rest loc → Walks fs aim links dir (Path.up :: rest) loc
  | into {links : Nat} {dir loc : Location} {name : Name} {rest : List Name} :
      name.IsProper → name.length ≤ maxNameLength → ¬ RulesOutFile aim rest →
      fs.get? (dir ++ [name]) = some .dir → Walks fs aim links (dir ++ [name]) rest loc →
      Walks fs aim links dir (name :: rest) loc
  | follow {links : Nat} {dir loc : Location} {name : Name} {target : List UInt8}
      {rest : List Name} : name.IsProper → name.length ≤ maxNameLength → ¬ RulesOutFile aim rest →
      fs.get? (dir ++ [name]) = some (.link target) → ¬ (rest = [] ∧ aim = .entry) →
      Walks fs aim links (linkStart dir target).1 ((linkStart dir target).2 ++ rest) loc →
      Walks fs aim (links + 1) dir (name :: rest) loc
  | last {links : Nat} {dir : Location} {name : Name} :
      name.IsProper → name.length ≤ maxNameLength → fs.get? (dir ++ [name]) ≠ some .dir →
      (∀ target, fs.get? (dir ++ [name]) = some (.link target) → aim = .entry) →
      Walks fs aim links dir [name] (dir ++ [name])

theorem Walks.of_walk {links : Nat} {dir : Location} {names : List Name}
    (hw : fs.walk aim links dir names = .ok loc) : Walks fs aim links dir names loc := by
  cases names with
  | nil =>
      rw [walk] at hw
      cases hw
      exact .nil
  | cons name rest =>
      by_cases hstays : name.Stays
      · rw [walk_stays hstays] at hw
        exact .stay hstays (of_walk hw)
      by_cases hup : name = Path.up
      · subst hup
        rw [walk_up] at hw
        exact .up (of_walk hw)
      obtain ⟨hnil, hhere⟩ := not_or.mp hstays
      have hproper : name.IsProper := ⟨hnil, hhere, hup⟩
      obtain ⟨hlength, hrest⟩ := walk_proper_ok hproper hw
      rw [walk_proper hproper hlength hrest] at hw
      cases he : fs.get? (dir ++ [name]) with
      | none =>
          rw [he] at hw
          dsimp only at hw
          split at hw
          · subst rest
            cases hw
            exact .last hproper hlength (by simp [he]) (by simp [he])
          · cases hw
      | some e =>
          rw [he] at hw
          cases e with
          | dir => exact .into hproper hlength hrest he (of_walk hw)
          | file =>
              dsimp only at hw
              split at hw
              · subst rest
                cases hw
                exact .last hproper hlength (by simp [he]) (by simp [he])
              · cases hw
          | link target =>
              dsimp only at hw
              split at hw
              · rename_i hentry
                obtain ⟨rfl, rfl⟩ := hentry
                cases hw
                exact .last hproper hlength (by simp [he]) fun _ _ => rfl
              · rename_i hmore
                cases links with
                | zero => cases hw
                | succ links => exact .follow hproper hlength hrest he hmore (of_walk hw)
termination_by (links, names.length)

theorem Walks.walk (h : Walks fs aim links dir names loc) :
    fs.walk aim links dir names = .ok loc := by
  induction h with
  | nil => rw [FileSystem.walk]
  | stay hstays _ ih => rw [walk_stays hstays, ih]
  | up _ ih => rw [walk_up, ih]
  | into hproper hlength hrest hdir _ ih =>
      rw [walk_proper hproper hlength hrest, hdir]
      exact ih
  | follow hproper hlength hrest hlink hmore _ ih =>
      rw [walk_proper hproper hlength hrest, hlink]
      dsimp only
      rw [if_neg hmore]
      exact ih
  | @last links dir name hproper hlength hdir hlink =>
      rw [walk_proper hproper hlength fun hrest => hrest.2.1 rfl]
      cases he : fs.get? (dir ++ [name]) with
      | none => rfl
      | some e =>
          cases e with
          | dir => exact absurd he hdir
          | file => rfl
          | link target => simp [hlink target he]

/-! ## Walks through directories -/

/-- Following these names leads through directories and links alone, from a directory where so many
links may be followed to one where there are as many left. -/
inductive Passes (fs : FileSystem) : Nat → Location → List Name → Nat → Location → Prop where
  | nil {links : Nat} {dir : Location} : Passes fs links dir [] links dir
  | stay {links links' : Nat} {dir loc : Location} {name : Name} {rest : List Name} :
      name.Stays → Passes fs links dir rest links' loc →
      Passes fs links dir (name :: rest) links' loc
  | up {links links' : Nat} {dir loc : Location} {rest : List Name} :
      Passes fs links dir.dropLast rest links' loc →
      Passes fs links dir (Path.up :: rest) links' loc
  | into {links links' : Nat} {dir loc : Location} {name : Name} {rest : List Name} :
      name.IsProper → name.length ≤ maxNameLength → fs.get? (dir ++ [name]) = some .dir →
      Passes fs links (dir ++ [name]) rest links' loc →
      Passes fs links dir (name :: rest) links' loc
  | follow {links links' : Nat} {dir loc : Location} {name : Name} {target : List UInt8}
      {rest : List Name} : name.IsProper → name.length ≤ maxNameLength →
      fs.get? (dir ++ [name]) = some (.link target) →
      Passes fs links (linkStart dir target).1 ((linkStart dir target).2 ++ rest) links' loc →
      Passes fs (links + 1) dir (name :: rest) links' loc

namespace Passes

/-- Behind the directory a walk goes on with what is left of the names. -/
theorem walk_append (h : fs.Passes links dir names links' loc)
    (hrest : aim = .target ∨ ∃ name ∈ rest, name ≠ []) :
    fs.walk aim links dir (names ++ rest) = fs.walk aim links' loc rest := by
  have hfile (more : List Name) : ¬ RulesOutFile aim (more ++ rest) := by
    rintro ⟨rfl, -, hall⟩
    rcases hrest with h | ⟨name, hname, hne⟩
    · cases h
    · exact hne (of_decide_eq_true (List.all_eq_true.mp hall name (List.mem_append_right _ hname)))
  induction h with
  | nil => rfl
  | stay hstays _ ih => rw [List.cons_append, walk_stays hstays, ih]
  | up _ ih => rw [List.cons_append, walk_up, ih]
  | into hproper hlength hdir _ ih =>
      rw [List.cons_append, walk_proper hproper hlength (hfile _), hdir]
      exact ih
  | follow hproper hlength hlink _ ih =>
      rw [List.cons_append, walk_proper hproper hlength (hfile _), hlink]
      dsimp only
      rw [if_neg, ← List.append_assoc, ih]
      rintro ⟨hnil, rfl⟩
      rcases hrest with h | ⟨name, hname, -⟩
      · cases h
      · rw [(List.append_eq_nil_iff.mp hnil).2] at hname
        cases hname

theorem walk_target (h : fs.Passes links dir names links' loc) :
    fs.walk .target links dir names = .ok loc := by
  have hw : fs.walk .target links dir (names ++ []) = fs.walk .target links' loc [] :=
    h.walk_append (.inl rfl)
  rwa [List.append_nil, FileSystem.walk.eq_def _ _ _ loc] at hw

/-- A directory that a walk leads to is reached through directories and links. -/
theorem of_walk (h : fs.walk .target links dir names = .ok loc) (hl : fs.get? loc = some .dir) :
    ∃ links', fs.Passes links dir names links' loc := by
  replace h := Walks.of_walk h
  induction h with
  | nil => exact ⟨_, .nil⟩
  | stay hstays _ ih => exact (ih hl).imp fun _ => .stay hstays
  | up _ ih => exact (ih hl).imp fun _ => .up
  | into hproper hlength _ hdir _ ih => exact (ih hl).imp fun _ => .into hproper hlength hdir
  | follow hproper hlength _ hlink _ _ ih =>
      exact (ih hl).imp fun _ => .follow hproper hlength hlink
  | last _ _ hdir => exact absurd hl hdir

theorem append {links₁ : Nat} {loc₁ : Location} {more : List Name}
    (h : fs.Passes links dir names links₁ loc₁) (h₁ : fs.Passes links₁ loc₁ more links' loc) :
    fs.Passes links dir (names ++ more) links' loc := by
  induction h with
  | nil => exact h₁
  | stay hstays _ ih => exact .stay hstays (ih h₁)
  | up _ ih => exact .up (ih h₁)
  | into hproper hlength hdir _ ih => exact .into hproper hlength hdir (ih h₁)
  | follow hproper hlength hlink _ ih =>
      refine .follow hproper hlength hlink ?_
      exact List.append_assoc .. ▸ ih h₁

/-- What leads on can be cut in two. -/
theorem split {more : List Name} (h : fs.Passes links dir (names ++ more) links' loc) :
    ∃ links₁ loc₁, fs.Passes links dir names links₁ loc₁ ∧
      fs.Passes links₁ loc₁ more links' loc := by
  generalize hall : names ++ more = all at h
  induction h generalizing names with
  | nil =>
      obtain ⟨rfl, rfl⟩ := List.append_eq_nil_iff.mp hall
      exact ⟨_, _, .nil, .nil⟩
  | stay hstays h ih =>
      cases names with
      | nil =>
          obtain rfl : more = _ := hall
          exact ⟨_, _, .nil, .stay hstays h⟩
      | cons first names =>
          obtain ⟨rfl, rfl⟩ := List.cons.inj hall
          obtain ⟨links₁, loc₁, h₁, h₂⟩ := ih rfl
          exact ⟨links₁, loc₁, .stay hstays h₁, h₂⟩
  | up h ih =>
      cases names with
      | nil =>
          obtain rfl : more = _ := hall
          exact ⟨_, _, .nil, .up h⟩
      | cons first names =>
          obtain ⟨rfl, rfl⟩ := List.cons.inj hall
          obtain ⟨links₁, loc₁, h₁, h₂⟩ := ih rfl
          exact ⟨links₁, loc₁, .up h₁, h₂⟩
  | into hproper hlength hdir h ih =>
      cases names with
      | nil =>
          obtain rfl : more = _ := hall
          exact ⟨_, _, .nil, .into hproper hlength hdir h⟩
      | cons first names =>
          obtain ⟨rfl, rfl⟩ := List.cons.inj hall
          obtain ⟨links₁, loc₁, h₁, h₂⟩ := ih rfl
          exact ⟨links₁, loc₁, .into hproper hlength hdir h₁, h₂⟩
  | follow hproper hlength hlink h ih =>
      cases names with
      | nil =>
          obtain rfl : more = _ := hall
          exact ⟨_, _, .nil, .follow hproper hlength hlink h⟩
      | cons first names =>
          obtain ⟨rfl, rfl⟩ := List.cons.inj hall
          obtain ⟨links₁, loc₁, h₁, h₂⟩ := ih (List.append_assoc ..)
          exact ⟨links₁, loc₁, .follow hproper hlength hlink h₁, h₂⟩

/-- Names that lead nowhere else end where they start. -/
theorem eq_of_stays (h : fs.Passes links dir skipped links' loc)
    (hs : ∀ name ∈ skipped, name.Stays) : loc = dir := by
  induction h with
  | nil => rfl
  | stay _ _ ih => exact ih fun name hname => hs name (.tail _ hname)
  | up => exact absurd (hs _ (.head _)) Name.not_stays_up
  | into hproper | follow hproper => exact absurd (hs _ (.head _)) hproper.not_stays

/-- Names that lead to a directory lead to an entry if what is skipped at their end is left out. -/
theorem walk_entry (h : fs.Passes links dir (names ++ skipped) links' loc)
    (hs : ∀ name ∈ skipped, name.Stays) (hl : fs.get? loc = some .dir) :
    ∃ loc', fs.walk .entry links dir names = .ok loc' ∧ (fs.get? loc').isSome := by
  obtain ⟨links₁, loc₁, hnames, hskipped⟩ := h.split
  obtain rfl := hskipped.eq_of_stays hs
  clear h hskipped
  induction hnames with
  | nil => exact ⟨_, by rw [walk], by rw [hl]; rfl⟩
  | stay hstays _ ih =>
      rw [walk_stays hstays]
      exact ih hl
  | up _ ih =>
      rw [walk_up]
      exact ih hl
  | into hproper hlength hdir _ ih =>
      rw [walk_proper hproper hlength (not_rulesOutFile_entry _), hdir]
      exact ih hl
  | follow hproper hlength hlink _ ih =>
      rw [walk_proper hproper hlength (not_rulesOutFile_entry _), hlink]
      dsimp only
      split
      · exact ⟨_, rfl, by rw [hlink]; rfl⟩
      · exact ih hl

end Passes

/-! ## Walks without links -/

/-- There is no link at a location or below it. -/
def Linkless (fs : FileSystem) (dir : Location) : Prop :=
  ∀ loc target, dir <+: loc → fs.get? loc ≠ some (.link target)

theorem Linkless.below (h : fs.Linkless dir) (hd : dir <+: loc) : fs.Linkless loc :=
  fun _ target hl => h _ target (hd.trans hl)

/-- Without links, proper names lead straight down. -/
theorem Linkless.walk (h : fs.Linkless dir) (hn : ∀ name ∈ names, name.IsProper)
    (hw : fs.walk aim links dir names = .ok loc) : loc = dir ++ names := by
  replace hw := Walks.of_walk hw
  induction hw with
  | nil => exact (List.append_nil _).symm
  | stay hstays => exact absurd hstays (hn _ (.head _)).not_stays
  | up => exact absurd rfl (hn _ (.head _)).ne_up
  | into _ _ _ _ _ ih =>
      have hloc := ih (h.below (List.prefix_append ..)) fun n hn' => hn n (.tail _ hn')
      rw [hloc, List.append_assoc, List.singleton_append]
  | follow _ _ _ hlink => exact absurd hlink (h _ _ (List.prefix_append ..))
  | last => rfl

end FileSystem

end Codewright.Workspace
