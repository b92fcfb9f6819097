import Mathlib
import Codewright.Workspace.Listing

/-!
# Ways to the files of a workspace

A listing holds the files to which a way leads that the rules let through, entry by entry. A hidden
entry is on such a way only where a rule keeps it: the rules are asked first, and what is hidden is
left out only if none of them applies.
-/

namespace Codewright.Workspace

namespace WorkspaceFile

theorem mapM_cons_ok {α β : Type} {step : α → Except IoError β} {x : α} {xs : List α} {ys : List β}
    (h : (x :: xs).mapM step = .ok ys) :
    ∃ y rest, step x = .ok y ∧ xs.mapM step = .ok rest ∧ ys = y :: rest := by
  rw [List.mapM_cons] at h
  cases hx : step x with
  | error e =>
      rw [hx] at h
      cases h
  | ok y =>
      cases hxs : xs.mapM step with
      | error e =>
          rw [hx, hxs] at h
          cases h
      | ok rest =>
          rw [hx, hxs] at h
          cases h
          exact ⟨y, rest, rfl, rfl, rfl⟩

theorem mem_flatten_of_mapM {α β : Type} {f : α → Except IoError (List β)} {xs : List α}
    {rows : List (List β)} {y : β} (h : xs.mapM f = .ok rows) :
    y ∈ rows.flatten ↔ ∃ x ∈ xs, ∃ row, f x = .ok row ∧ y ∈ row := by
  induction xs generalizing rows with
  | nil =>
      cases h
      simp
  | cons x xs ih =>
      obtain ⟨row, rest, hx, hxs, rfl⟩ := mapM_cons_ok h
      simp [hx, ih hxs]

namespace Folder

/-- The rules that bear on what is in a directory, given those that bear on the directory itself. -/
def rules (fs : FileSystem) (useRules : Bool) (f : Folder) (chain : IgnoreChain) : IgnoreChain :=
  if useRules then chain.descend (.load fs f.path fun name => f.entries.lookup name) else chain

/-- The directory to which names lead. -/
def descend (f : Folder) (names : List Name) : Folder :=
  names.foldl child f

/-- The rules that bear on what is in the directory to which names lead. -/
def rulesBelow (fs : FileSystem) (useRules : Bool) : Folder → IgnoreChain → List Name → IgnoreChain
  | f, chain, [] => f.rules fs useRules chain
  | f, chain, name :: names =>
    rulesBelow fs useRules (f.child name) (f.rules fs useRules chain) names

/-- The path of an entry of a directory, as bytes. -/
def entryBytes (f : Folder) (name : Name) : List UInt8 :=
  Path.joinName f.bytes name

/-- Names lead from a directory down to a file, and the rules let each entry on the way through. -/
inductive Leads (fs : FileSystem) (useRules : Bool) :
    Folder → IgnoreChain → List Name → ByteArray → Prop where
  | file {f : Folder} {chain : IgnoreChain} {name : Name} {content : ByteArray}
      (hmem : (name, .file content) ∈ f.entries)
      (hkept : (f.rules fs useRules chain).skips (f.entryBytes name) name false = false) :
      Leads fs useRules f chain [name] content
  | dir {f : Folder} {chain : IgnoreChain} {name : Name} {names : List Name} {content : ByteArray}
      (hmem : (name, .dir) ∈ f.entries)
      (hkept : (f.rules fs useRules chain).skips (f.entryBytes name) name true = false)
      (hrest : Leads fs useRules (f.child name) (f.rules fs useRules chain) names content) :
      Leads fs useRules f chain (name :: names) content

/-- The directory at which a listing starts, and where it is. -/
def top (fs : FileSystem) (root : Path) (loc : Location) : Folder where
  path := root
  bytes := root.bytes
  names := []
  tree := fs.below loc

/-- The rules that bear on the directory at which a listing starts. -/
def topRules (fs : FileSystem) (useRules : Bool) (root : Path) (loc : Location) : IgnoreChain where
  root := root.bytes
  base := slash :: Path.joinNames loc
  above := (if useRules then rulesAbove fs loc else []).filter (!·.isEmpty)

/-- The file to which names lead. -/
def fileAt (f : Folder) (names : List Name) (content : ByteArray) : WorkspaceFile where
  relativePath := relativeText (f.names ++ names)
  path := { f.path with names := f.path.names ++ names }
  content := content

theorem fileAt_child (f : Folder) (name : Name) (names : List Name) (content : ByteArray) :
    (f.child name).fileAt names content = f.fileAt (name :: names) content := by
  simp [fileAt, child, Path.child]

end Folder

variable {fs : FileSystem} {useRules : Bool} {depth : Nat} {f : Folder} {chain : IgnoreChain}
  {files : List WorkspaceFile} {file : WorkspaceFile}

/-- What an entry of a directory adds to the listing, under the rules in the directory. -/
def listEntry (fs : FileSystem) (useRules : Bool) (depth : Nat) (f : Folder) (chain : IgnoreChain)
    (entry : Name × Entry) : Except IoError (List WorkspaceFile) :=
  match entry.2 with
  | .link _ => .ok []
  | .file content =>
    if chain.skips (f.entryBytes entry.1) entry.1 false then .ok []
    else if pathLengthLimit ≤ (f.entryBytes entry.1).length then .error .nameTooLong
    else .ok [f.fileAt [entry.1] content]
  | .dir =>
    if chain.skips (f.entryBytes entry.1) entry.1 true then .ok []
    else listBelow fs useRules depth (f.child entry.1) chain

theorem listBelow_succ (fs : FileSystem) (useRules : Bool) (depth : Nat) (f : Folder)
    (chain : IgnoreChain) :
    listBelow fs useRules (depth + 1) f chain =
      if pathLengthLimit ≤ f.bytes.length then .error (walkFailure f.path .nameTooLong)
      else
        (f.entries.mapM (listEntry fs useRules depth f (f.rules fs useRules chain))).map
          List.flatten :=
  rfl

theorem listBelow_succ_ok (h : listBelow fs useRules (depth + 1) f chain = .ok files) :
    ∃ rows, f.entries.mapM (listEntry fs useRules depth f (f.rules fs useRules chain)) = .ok rows ∧
      files = rows.flatten := by
  rw [listBelow_succ] at h
  split at h
  · cases h
  cases hrows : f.entries.mapM (listEntry fs useRules depth f (f.rules fs useRules chain)) with
  | error e =>
      rw [hrows] at h
      cases h
  | ok rows =>
      rw [hrows] at h
      cases h
      exact ⟨rows, rfl, rfl⟩

theorem mem_listBelow_succ (h : listBelow fs useRules (depth + 1) f chain = .ok files) :
    file ∈ files ↔ ∃ entry ∈ f.entries, ∃ row,
      listEntry fs useRules depth f (f.rules fs useRules chain) entry = .ok row ∧ file ∈ row := by
  obtain ⟨rows, hrows, rfl⟩ := listBelow_succ_ok h
  exact mem_flatten_of_mapM hrows

/-- An entry adds nothing, or it is a file that is let through, or a directory that is. -/
theorem listEntry_ok {entry : Name × Entry} {row : List WorkspaceFile}
    (h : listEntry fs useRules depth f chain entry = .ok row) :
    row = [] ∨
      (∃ content, entry.2 = .file content ∧
        chain.skips (f.entryBytes entry.1) entry.1 false = false ∧
        (f.entryBytes entry.1).length < pathLengthLimit ∧ row = [f.fileAt [entry.1] content]) ∨
      entry.2 = .dir ∧ chain.skips (f.entryBytes entry.1) entry.1 true = false ∧
        listBelow fs useRules depth (f.child entry.1) chain = .ok row := by
  unfold listEntry at h
  split at h
  · cases h
    exact .inl rfl
  · rename_i content hentry
    split at h
    · cases h
      exact .inl rfl
    · rename_i hkept
      split at h
      · cases h
      · rename_i hlength
        cases h
        exact .inr (.inl ⟨content, hentry, by simpa using hkept, Nat.not_le.mp hlength, rfl⟩)
  · rename_i hentry
    split at h
    · cases h
      exact .inl rfl
    · rename_i hkept
      exact .inr (.inr ⟨hentry, by simpa using hkept, h⟩)

theorem leads_of_mem_listBelow (h : listBelow fs useRules depth f chain = .ok files)
    (hfile : file ∈ files) :
    ∃ names content,
      Folder.Leads fs useRules f chain names content ∧ file = f.fileAt names content := by
  induction depth generalizing f chain files with
  | zero => cases h
  | succ depth ih =>
      obtain ⟨⟨name, entry⟩, hmem, row, hrow, hfile⟩ := (mem_listBelow_succ h).mp hfile
      obtain rfl | ⟨content, rfl, hkept, -, rfl⟩ | ⟨rfl, hkept, hbelow⟩ := listEntry_ok hrow
      · cases hfile
      · exact ⟨_, _, .file hmem hkept, List.mem_singleton.mp hfile⟩
      · obtain ⟨names, content, hleads, rfl⟩ := ih hbelow hfile
        exact ⟨_, _, .dir hmem hkept hleads, f.fileAt_child name names content⟩

/-- Files are listed in a directory only. -/
theorem list_ok {root : Path} (h : list fs root useRules = .ok files) :
    files = [] ∨ ∃ loc, fs.find .target root = .ok (loc, .dir) ∧
      listBelow fs useRules (fs.entries.size + 1) (.top fs root loc)
        (Folder.topRules fs useRules root loc) = .ok files := by
  simp only [list] at h
  split at h
  · cases h
    exact .inl rfl
  · split at h
    · cases h
    · rename_i loc hfind
      by_cases hfault : (if useRules then rulesAbove fs loc else []).any (·.hasFault) = true
      · rw [if_pos hfault] at h
        cases h
      · rw [if_neg hfault] at h
        exact .inr ⟨loc, hfind, h⟩
    · cases h
      exact .inl rfl

theorem leads_of_mem_list {root : Path} (h : list fs root useRules = .ok files)
    (hfile : file ∈ files) :
    ∃ loc names content, fs.find .target root = .ok (loc, .dir) ∧
      Folder.Leads fs useRules (.top fs root loc) (Folder.topRules fs useRules root loc) names
        content ∧
      file = (Folder.top fs root loc).fileAt names content := by
  obtain rfl | ⟨loc, hfind, hbelow⟩ := list_ok h
  · cases hfile
  · obtain ⟨names, content, hleads, hat⟩ := leads_of_mem_listBelow hbelow hfile
    exact ⟨loc, names, content, hfind, hleads, hat⟩

end WorkspaceFile

/-! ## Hidden entries -/

namespace IgnoreChain

/-- Whether a rule is among those of a chain. -/
def Has (chain : IgnoreChain) (r : IgnoreRule) : Prop :=
  ∃ files ∈ chain.within ++ chain.above,
    r ∈ files.plain.rules ∨ r ∈ files.git.rules ∨ r ∈ files.exclude.rules

theorem verdict?_of_hidden {chain : IgnoreChain} {path : List UInt8} {name : Name} {isDir : Bool}
    (hname : name.head? = some 0x2E) (h : chain.skips path name isDir = false) :
    chain.verdict? path isDir = some true := by
  simp only [skips] at h
  split at h
  · rename_i keeps hverdict
    rw [hverdict]
    cases keeps with
    | true => rfl
    | false => cases h
  · rw [hname] at h
    cases h

end IgnoreChain

theorem IgnoreFile.exists_rule {f : IgnoreFile} {path : List UInt8} {isDir keeps : Bool}
    (h : f.verdict? path isDir = some keeps) : ∃ r ∈ f.rules, r.keeps = keeps := by
  obtain ⟨r, hr, hkeeps⟩ := Option.map_eq_some_iff.mp h
  exact ⟨r, List.mem_reverse.mp (List.mem_of_find?_eq_some hr), hkeeps⟩

theorem IgnoreFiles.exists_rule {f : IgnoreFiles} {kind : IgnoreFiles → IgnoreFile}
    {path : List UInt8} {isDir keeps : Bool} (h : f.verdict? kind path isDir = some keeps) :
    ∃ r ∈ (kind f).rules, r.keeps = keeps := by
  simp only [verdict?] at h
  split at h
  · cases h
  · exact IgnoreFile.exists_rule h

namespace IgnoreChain

theorem exists_rule_of_verdictOf {chain : IgnoreChain} {kind : IgnoreFiles → IgnoreFile}
    {path : List UInt8} {isDir keeps : Bool} (h : chain.verdictOf kind path isDir = some keeps) :
    ∃ files ∈ chain.within ++ chain.above, ∃ r ∈ (kind files).rules, r.keeps = keeps := by
  rcases Option.or_eq_some_iff.mp h with h | ⟨-, h⟩
  · obtain ⟨files, hfiles, hverdict⟩ := List.exists_of_findSome?_eq_some h
    exact ⟨files, List.mem_append_left _ hfiles, IgnoreFiles.exists_rule hverdict⟩
  · obtain ⟨files, hfiles, hverdict⟩ := List.exists_of_findSome?_eq_some h
    exact ⟨files, List.mem_append_right _ hfiles, IgnoreFiles.exists_rule hverdict⟩

/-- Where the rules say something, one of them says it. -/
theorem exists_rule {chain : IgnoreChain} {path : List UInt8} {isDir keeps : Bool}
    (h : chain.verdict? path isDir = some keeps) : ∃ r, chain.Has r ∧ r.keeps = keeps := by
  rcases Option.or_eq_some_iff.mp h with h | ⟨-, h⟩
  · obtain ⟨files, hfiles, r, hr, hkeeps⟩ := exists_rule_of_verdictOf h
    exact ⟨r, ⟨files, hfiles, .inl hr⟩, hkeeps⟩
  rcases Option.or_eq_some_iff.mp h with h | ⟨-, h⟩
  · obtain ⟨files, hfiles, r, hr, hkeeps⟩ := exists_rule_of_verdictOf h
    exact ⟨r, ⟨files, hfiles, .inr (.inl hr)⟩, hkeeps⟩
  · obtain ⟨files, hfiles, r, hr, hkeeps⟩ := exists_rule_of_verdictOf h
    exact ⟨r, ⟨files, hfiles, .inr (.inr hr)⟩, hkeeps⟩

end IgnoreChain

namespace WorkspaceFile

namespace Folder

variable {fs : FileSystem} {useRules : Bool} {f : Folder} {chain : IgnoreChain}
  {name : Name} {names before after : List Name} {content : ByteArray}

theorem Leads.names_ne_nil (h : Leads fs useRules f chain names content) : names ≠ [] := by
  cases h <;> exact List.cons_ne_nil _ _

/-- On a way to a file, what is hidden is kept by the rules. -/
theorem Leads.verdict?_of_hidden (h : Leads fs useRules f chain names content)
    (hnames : names = before ++ name :: after) (hname : name.head? = some 0x2E) :
    (rulesBelow fs useRules f chain before).verdict? ((f.descend before).entryBytes name)
      (!after.isEmpty) = some true := by
  induction h generalizing before with
  | @file f chain first content hmem hkept =>
      obtain ⟨rfl, rfl, rfl⟩ : before = [] ∧ name = first ∧ after = [] := by
        cases before with
        | nil =>
            obtain ⟨rfl, rfl⟩ := List.cons.inj hnames
            exact ⟨rfl, rfl, rfl⟩
        | cons other before =>
            have hnil : [] = before ++ name :: after := (List.cons.inj hnames).2
            simp at hnil
      exact IgnoreChain.verdict?_of_hidden hname hkept
  | dir hmem hkept hrest ih =>
      cases before with
      | nil =>
          obtain ⟨rfl, rfl⟩ := List.cons.inj hnames
          rw [List.isEmpty_eq_false_iff.mpr hrest.names_ne_nil]
          exact IgnoreChain.verdict?_of_hidden hname hkept
      | cons other before =>
          obtain ⟨rfl, hrest⟩ := List.cons.inj hnames
          exact ih hrest

theorem not_has_rulesBelow {r : IgnoreRule} (h : ¬chain.Has r) :
    ¬(rulesBelow fs false f chain names).Has r := by
  induction names generalizing f chain with
  | nil => exact h
  | cons name names ih => exact ih h

theorem not_has_topRules (fs : FileSystem) (root : Path) (loc : Location) (r : IgnoreRule) :
    ¬(topRules fs false root loc).Has r := by
  rintro ⟨files, hfiles, -⟩
  cases hfiles

end Folder

/-- A listed file has hidden names below the root only where a rule keeps them, among the rules that
bear on the directory of the name. -/
theorem hidden_kept_by_rule {fs : FileSystem} {root : Path} {useRules : Bool}
    {files : List WorkspaceFile} (h : list fs root useRules = .ok files) :
    ∀ file ∈ files, ∃ loc names, fs.find .target root = .ok (loc, .dir) ∧
      file.path = { root with names := root.names ++ names } ∧
      file.relativePath = relativeText names ∧
      ∀ before name after, names = before ++ name :: after → name.head? = some 0x2E →
        useRules = true ∧
        let top := Folder.top fs root loc
        let chain := top.rulesBelow fs useRules (Folder.topRules fs useRules root loc) before
        chain.verdict? ((top.descend before).entryBytes name) (!after.isEmpty) = some true ∧
        ∃ r, chain.Has r ∧ r.keeps = true := by
  intro file hfile
  obtain ⟨loc, names, content, hfind, hleads, rfl⟩ := leads_of_mem_list h hfile
  refine ⟨loc, names, hfind, rfl, rfl, fun before name after hnames hname => ?_⟩
  have hverdict := hleads.verdict?_of_hidden hnames hname
  obtain ⟨r, hr, hkeeps⟩ := IgnoreChain.exists_rule hverdict
  refine ⟨?_, hverdict, r, hr, hkeeps⟩
  cases useRules with
  | true => rfl
  | false => exact absurd hr (Folder.not_has_rulesBelow (Folder.not_has_topRules fs root loc r))

/-- A workspace with a hidden file that the ignore file beside it keeps. -/
def keptFs : FileSystem :=
  .ofList [] [([Text.bytes ".env"], .file "S".toUTF8),
    ([Text.bytes ".gitignore"], .file "!.env\n".toUTF8)]

def keptFile : WorkspaceFile :=
  ⟨".env", ⟨[slash], [Text.bytes ".env"]⟩, "S".toUTF8⟩

theorem list_keptFs : list keptFs ⟨[slash], []⟩ true = .ok [keptFile] := by
  cbv

theorem hidden_kept_by_rule_keptFs :
    let root : Path := ⟨[slash], []⟩
    list keptFs root true = .ok [keptFile] ∧ ∃ loc r,
      (Folder.rulesBelow keptFs true (.top keptFs root loc) (Folder.topRules keptFs true root loc)
        []).Has r ∧ r.keeps = true := by
  refine ⟨list_keptFs, ?_⟩
  obtain ⟨loc, names, -, hpath, -, hhidden⟩ := hidden_kept_by_rule list_keptFs keptFile (.head _)
  obtain ⟨-, -, r, hr, hkeeps⟩ := hhidden [] (Text.bytes ".env") []
    (congrArg Path.names hpath).symm (by decide +kernel)
  exact ⟨loc, r, hr, hkeeps⟩

/-- A listing can hold a hidden file. -/
theorem hidden_file_listed :
    ∃ files, list keptFs ⟨[slash], []⟩ true = .ok files ∧
      ∃ file ∈ files, ∃ name ∈ file.path.names, name.head? = some 0x2E :=
  ⟨_, list_keptFs, keptFile, .head _, Text.bytes ".env", .head _, by decide +kernel⟩

end WorkspaceFile

end Codewright.Workspace
