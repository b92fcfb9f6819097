import Codewright.Proofs.Workspace.Folder
import Codewright.Proofs.Workspace.Locate

/-!
# What shows is listed

A listing that succeeds holds every file to which a way leads that the rules let through. Without
rules these are the files that show: real directories lead to them, and no name on the way starts
with a dot.
-/

namespace Codewright.Workspace

/-- Without rules, what is hidden is left out and nothing else. -/
theorem IgnoreChain.skips_of_not_has {chain : IgnoreChain} (h : ∀ r, ¬chain.Has r)
    (path : List UInt8) (name : Name) (isDir : Bool) :
    chain.skips path name isDir = decide (name.head? = some 0x2E) := by
  cases hverdict : chain.verdict? path isDir with
  | some keeps =>
      obtain ⟨r, hr, -⟩ := exists_rule hverdict
      exact absurd hr (h r)
  | none => rw [skips, hverdict]

namespace WorkspaceFile

variable {fs : FileSystem} {useRules : Bool} {depth : Nat} {f : Folder} {chain : IgnoreChain}
  {loc home : Location} {name : Name} {names : List Name} {content : ByteArray} {root : Path}
  {files : List WorkspaceFile} {file : WorkspaceFile}

/-! ## Ways that the rules let through -/

theorem exists_row_of_mapM {α β : Type} {step : α → Except IoError β} {xs : List α} {ys : List β}
    {x : α} (h : xs.mapM step = .ok ys) (hx : x ∈ xs) : ∃ y, step x = .ok y := by
  induction xs generalizing ys with
  | nil => cases hx
  | cons first xs ih =>
      obtain ⟨y, rest, hfirst, hrest, -⟩ := mapM_cons_ok h
      rcases List.mem_cons.mp hx with rfl | hx
      · exact ⟨y, hfirst⟩
      · exact ih hrest hx

theorem exists_row_of_listBelow {entry : Name × Entry}
    (h : listBelow fs useRules (depth + 1) f chain = .ok files) (hmem : entry ∈ f.entries) :
    ∃ row, listEntry fs useRules depth f (f.rules fs useRules chain) entry = .ok row ∧
      ∀ file ∈ row, file ∈ files := by
  obtain ⟨rows, hrows, -⟩ := listBelow_succ_ok h
  obtain ⟨row, hrow⟩ := exists_row_of_mapM hrows hmem
  exact ⟨row, hrow, fun file hfile => (mem_listBelow_succ h).mpr ⟨entry, hmem, row, hrow, hfile⟩⟩

theorem listEntry_file {row : List WorkspaceFile}
    (hkept : chain.skips (f.entryBytes name) name false = false)
    (h : listEntry fs useRules depth f chain (name, .file content) = .ok row) :
    row = [f.fileAt [name] content] := by
  simp only [listEntry, hkept] at h
  rw [if_neg Bool.false_ne_true] at h
  split at h
  · cases h
  · cases h
    rfl

theorem listEntry_dir {row : List WorkspaceFile}
    (hkept : chain.skips (f.entryBytes name) name true = false)
    (h : listEntry fs useRules depth f chain (name, .dir) = .ok row) :
    listBelow fs useRules depth (f.child name) chain = .ok row := by
  simp only [listEntry, hkept] at h
  rwa [if_neg Bool.false_ne_true] at h

/-- A file to which a way leads is listed. -/
theorem mem_listBelow_of_leads (hleads : Folder.Leads fs useRules f chain names content)
    (h : listBelow fs useRules depth f chain = .ok files) : f.fileAt names content ∈ files := by
  induction hleads generalizing depth files with
  | file hmem hkept =>
      cases depth with
      | zero => cases h
      | succ depth =>
          obtain ⟨row, hrow, hsub⟩ := exists_row_of_listBelow h hmem
          apply hsub
          rw [listEntry_file hkept hrow]
          exact .head _
  | dir hmem hkept _ ih =>
      cases depth with
      | zero => cases h
      | succ depth =>
          obtain ⟨row, hrow, hsub⟩ := exists_row_of_listBelow h hmem
          apply hsub
          rw [← Folder.fileAt_child]
          exact ih (listEntry_dir hkept hrow)

theorem mem_listBelow_iff (h : listBelow fs useRules depth f chain = .ok files) :
    file ∈ files ↔ ∃ names content,
      Folder.Leads fs useRules f chain names content ∧ file = f.fileAt names content := by
  constructor
  · intro hfile
    exact leads_of_mem_listBelow h hfile
  · rintro ⟨names, content, hleads, rfl⟩
    exact mem_listBelow_of_leads hleads h

/-! ## Files that show -/

/-- A file shows below a directory if real directories lead to it, and neither its own name nor one
of theirs starts with a dot. -/
structure Shows (fs : FileSystem) (dir : Location) (names : List Name) (content : ByteArray) :
    Prop where
  ne_nil : names ≠ []
  file : fs.get? (dir ++ names) = some (.file content)
  dirs : ∀ init rest, names = init ++ rest → rest ≠ [] → fs.get? (dir ++ init) = some .dir
  unhidden : ∀ name ∈ names, name.head? ≠ some 0x2E

namespace Shows

theorem single (hdir : fs.get? loc = some .dir) (hfile : fs.get? (loc ++ [name]) = some (.file content))
    (hname : name.head? ≠ some 0x2E) : Shows fs loc [name] content where
  ne_nil := List.cons_ne_nil name []
  file := hfile
  dirs init rest hnames hrest := by
    cases init with
    | nil => rwa [List.append_nil]
    | cons first init =>
        have hnil : [] = init ++ rest := (List.cons.inj hnames).2
        exact absurd (List.append_eq_nil_iff.mp hnil.symm).2 hrest
  unhidden n hn := List.mem_singleton.mp hn ▸ hname

theorem cons (hdir : fs.get? loc = some .dir) (hname : name.head? ≠ some 0x2E)
    (h : Shows fs (loc ++ [name]) names content) : Shows fs loc (name :: names) content where
  ne_nil := List.cons_ne_nil name names
  file := by
    have hfile := h.file
    rwa [List.append_assoc, List.singleton_append] at hfile
  dirs init rest hnames hrest := by
    cases init with
    | nil => rwa [List.append_nil]
    | cons first init =>
        obtain ⟨rfl, rfl⟩ := List.cons.inj hnames
        have hinit := h.dirs init rest rfl hrest
        rwa [List.append_assoc, List.singleton_append] at hinit
  unhidden n hn := by
    rcases List.mem_cons.mp hn with rfl | hn
    · exact hname
    · exact h.unhidden n hn

theorem head (h : Shows fs loc (name :: names) content) : name.head? ≠ some 0x2E :=
  h.unhidden name (.head _)

theorem tail (h : Shows fs loc (name :: names) content) (hne : names ≠ []) :
    fs.get? (loc ++ [name]) = some .dir ∧ Shows fs (loc ++ [name]) names content := by
  refine ⟨h.dirs [name] names rfl hne, hne, ?_, ?_, ?_⟩
  · rw [List.append_assoc, List.singleton_append]
    exact h.file
  · intro init rest hnames hrest
    rw [List.append_assoc, List.singleton_append]
    apply h.dirs (name :: init) rest _ hrest
    rw [hnames, List.cons_append]
  · intro n hn
    exact h.unhidden n (.tail _ hn)

end Shows

theorem Folder.rules_false (fs : FileSystem) (f : Folder) (chain : IgnoreChain) :
    f.rules fs false chain = chain :=
  if_neg Bool.false_ne_true

/-- Where there are no rules, a way leads to the files that show. -/
theorem leads_iff_shows (hf : f.Mirrors fs loc) (hchain : ∀ r, ¬chain.Has r)
    (hdir : fs.get? loc = some .dir) :
    Folder.Leads fs false f chain names content ↔ Shows fs loc names content := by
  constructor
  · intro h
    induction h generalizing loc with
    | file hmem hkept =>
        rw [Folder.rules_false, IgnoreChain.skips_of_not_has hchain, decide_eq_false_iff_not] at hkept
        exact .single hdir (hf.mem_entries.mp hmem) hkept
    | dir hmem hkept _ ih =>
        rw [Folder.rules_false, IgnoreChain.skips_of_not_has hchain, decide_eq_false_iff_not] at hkept
        have hmem := hf.mem_entries.mp hmem
        exact .cons hdir hkept (ih (hf.child _) hchain hmem)
  · intro h
    induction names generalizing loc f with
    | nil => exact absurd rfl h.ne_nil
    | cons name names ih =>
        have hkept (isDir : Bool) :
            (f.rules fs false chain).skips (f.entryBytes name) name isDir = false := by
          rw [Folder.rules_false, IgnoreChain.skips_of_not_has hchain, decide_eq_false_iff_not]
          exact h.head
        by_cases hnil : names = []
        · subst hnil
          exact .file (hf.mem_entries.mpr h.file) (hkept false)
        · obtain ⟨hentry, hrest⟩ := h.tail hnil
          refine .dir (hf.mem_entries.mpr hentry) (hkept true) ?_
          rw [Folder.rules_false]
          exact ih (hf.child name) hentry hrest

/-! ## Listings without rules -/

theorem lt_of_append_left_lt {start : List Name} {a b : List Name}
    (h : start ++ a < start ++ b) : a < b := by
  induction start with
  | nil => exact h
  | cons name start ih =>
      rw [List.cons_append, List.cons_append, List.cons_lt_cons_iff] at h
      rcases h with h | ⟨-, h⟩
      · exact absurd h (List.lt_irrefl name)
      · exact ih h

theorem list_of_dash (hdash : isDash root = true) : list fs root useRules = .ok [] := by
  rw [list, if_pos hdash]

theorem list_without_rules (hdash : isDash root = false)
    (hroot : fs.find .target root = .ok (home, .dir)) :
    list fs root false = listBelow fs false (fs.entries.size + 1) (.top fs root home)
      (Folder.topRules fs false root home) := by
  rw [list, hdash, if_neg Bool.false_ne_true, hroot]
  rfl

/-- The file to which names lead from a root. -/
def below (root : Path) (names : List Name) (content : ByteArray) : WorkspaceFile where
  relativePath := relativeText names
  path := { root with names := root.names ++ names }
  content := content

/-- A listing without rules holds the files that show below the root, each with its content, in the
order of the rows of names that lead to them: these are compared name by name and the names byte by
byte. There is no listing of the standard input. -/
theorem list_exact (h : list fs root false = .ok files)
    (hroot : fs.find .target root = .ok (home, .dir)) :
    (isDash root = true → files = []) ∧
    (isDash root = false → ∃ found : List (List Name × ByteArray),
      files = found.map (fun x => below root x.1 x.2) ∧
      found.Pairwise (fun x y => x.1 < y.1) ∧
      ∀ names content, (names, content) ∈ found ↔ Shows fs home names content) := by
  constructor
  · intro hdash
    rw [list_of_dash hdash] at h
    cases h
    rfl
  · intro hdash
    have hbelow := (list_without_rules hdash hroot).symm.trans h
    have hmem (file : WorkspaceFile) :
        file ∈ files ↔ ∃ names content, Shows fs home names content ∧
          file = below root names content := by
      rw [mem_listBelow_iff hbelow]
      simp only [leads_iff_shows (Folder.mirrors_top fs root home)
        (Folder.not_has_topRules fs root home) (FileSystem.of_find hroot).2]
      rfl
    let found := files.map fun file => (file.path.names.drop root.names.length, file.content)
    have hfound (names : List Name) (content : ByteArray) :
        (names, content) ∈ found ↔ below root names content ∈ files := by
      rw [List.mem_map]
      constructor
      · rintro ⟨file, hfile, heq⟩
        obtain ⟨names', content', -, rfl⟩ := (hmem file).mp hfile
        rw [below, List.drop_left] at heq
        obtain ⟨rfl, rfl⟩ := Prod.mk.inj heq
        exact hfile
      · intro hfile
        exact ⟨below root names content, hfile, by rw [below, List.drop_left]⟩
    refine ⟨found, ?_, ?_, fun names content => ?_⟩
    · rw [List.map_map]
      refine (List.map_id files).symm.trans (List.map_congr_left fun file hfile => ?_)
      obtain ⟨names, content, -, rfl⟩ := (hmem file).mp hfile
      simp [below]
    · apply List.pairwise_map.mpr
      refine (sorted_list h).imp_of_mem fun {a b} ha hb hlt => ?_
      obtain ⟨names, content, -, rfl⟩ := (hmem a).mp ha
      obtain ⟨names', content', -, rfl⟩ := (hmem b).mp hb
      simp only [below, List.drop_left]
      exact lt_of_append_left_lt hlt
    · rw [hfound, hmem]
      constructor
      · rintro ⟨names', content', hshows, heq⟩
        have hnames := congrArg (fun file => file.path.names) heq
        obtain rfl := List.append_cancel_left hnames
        obtain rfl : content = content' := congrArg WorkspaceFile.content heq
        exact hshows
      · intro hshows
        exact ⟨names, content, hshows, rfl⟩

/-- A workspace with ignore rules, a hidden directory and a link beside two files. As text the name
of the second one comes before the path of the first one. -/
def mixedFs : FileSystem :=
  .ofList [] [([Text.bytes ".gitignore"], .file "a.b\nx\n".toUTF8),
    ([Text.bytes ".h"], .dir),
    ([Text.bytes ".h", Text.bytes "x"], .file "H".toUTF8),
    ([Text.bytes "a"], .dir),
    ([Text.bytes "a", Text.bytes "x"], .file "X".toUTF8),
    ([Text.bytes "a.b"], .file "B".toUTF8),
    ([Text.bytes "l"], .link (Text.bytes "a"))]

theorem list_mixedFs :
    list mixedFs ⟨[slash], []⟩ false = .ok [
      ⟨"a/x", ⟨[slash], [Text.bytes "a", Text.bytes "x"]⟩, "X".toUTF8⟩,
      ⟨"a.b", ⟨[slash], [Text.bytes "a.b"]⟩, "B".toUTF8⟩] := by
  cbv

theorem find_mixedFs : mixedFs.find .target ⟨[slash], []⟩ = .ok ([], .dir) := by
  cbv

/-- What lies behind the link does not show, and what the rules of the workspace ignore does. -/
theorem list_exact_mixed :
    let root : Path := ⟨[slash], []⟩
    (list mixedFs root false = .ok [
        ⟨"a/x", ⟨[slash], [Text.bytes "a", Text.bytes "x"]⟩, "X".toUTF8⟩,
        ⟨"a.b", ⟨[slash], [Text.bytes "a.b"]⟩, "B".toUTF8⟩] ∧
      mixedFs.find .target root = .ok ([], .dir) ∧ isDash root = false) ∧
    Shows mixedFs [] [Text.bytes "a.b"] "B".toUTF8 ∧
    ∀ content, ¬Shows mixedFs [] [Text.bytes "l", Text.bytes "x"] content := by
  intro root
  have hdash : isDash root = false := by decide
  obtain ⟨found, hfiles, -, hmem⟩ := (list_exact list_mixedFs find_mixedFs).2 hdash
  have hfound : found = [([Text.bytes "a", Text.bytes "x"], "X".toUTF8),
      ([Text.bytes "a.b"], "B".toUTF8)] := by
    have hnames := congrArg (List.map fun file => (file.path.names, file.content)) hfiles
    rw [List.map_map] at hnames
    exact (List.map_id found).symm.trans hnames.symm
  rw [hfound] at hmem
  refine ⟨⟨list_mixedFs, find_mixedFs, hdash⟩, ?_, fun content hshows => ?_⟩
  · exact (hmem _ _).mp (.tail _ (.head _))
  · have hnames : [Text.bytes "l", Text.bytes "x"] ∈
        [[Text.bytes "a", Text.bytes "x"], [Text.bytes "a.b"]] :=
      List.mem_map_of_mem (f := Prod.fst) ((hmem _ content).mpr hshows)
    exact absurd hnames (by decide +kernel)

/-- A directory that goes by the name of the standard input, with a file in it. -/
def dashFs : FileSystem :=
  .ofList [] [([Text.bytes "-"], .dir), ([Text.bytes "-", Text.bytes "a"], .file "A".toUTF8)]

/-- The file shows below this root, but is not listed. -/
theorem list_dash_misses :
    let root : Path := ⟨Text.bytes "-", []⟩
    dashFs.find .target root = .ok ([Text.bytes "-"], .dir) ∧
      Shows dashFs [Text.bytes "-"] [Text.bytes "a"] "A".toUTF8 ∧
      list dashFs root false = .ok [] := by
  intro root
  have hfound : dashFs.find .target root = .ok ([Text.bytes "-"], .dir) := by
    cbv
  have hfile : dashFs.get? ([Text.bytes "-"] ++ [Text.bytes "a"]) = some (.file "A".toUTF8) := by
    cbv
  refine ⟨hfound, .single (FileSystem.of_find hfound).2 hfile (by decide +kernel), ?_⟩
  exact list_of_dash (by decide +kernel)

end WorkspaceFile

end Codewright.Workspace
