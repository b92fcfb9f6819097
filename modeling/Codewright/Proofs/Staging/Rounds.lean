import Mathlib.Data.List.Dedup
import Mathlib.Data.String.Basic
import Codewright.Proofs.Staging

/-!
# Rounds of staged files

Each round of code generation stages its files below its upload id. An address is the id, a slash
and the path of the file, one behind the other, and does not tell where the id ends: files of two
rounds can have one address if the id of one is that of the other with a slash and a path behind it.
Where no id is like that, a later round leaves the files of an earlier one as they are.
-/

namespace Codewright.Staging

open Service (GeneratedFile)

/-! ## Addresses -/

/-- Whether an id is another one with a slash and a path behind it. -/
def Beneath (id other : String) : Prop :=
  ∃ path : List Char, path ≠ [] ∧ path.head? ≠ some '/' ∧ id.toList = other.toList ++ '/' :: path

/-- Whether two ids are different, and neither continues the other one with a path. -/
structure Apart (a b : String) : Prop where
  ne : a ≠ b
  not_beneath : ¬Beneath a b
  not_above : ¬Beneath b a

theorem Apart.symm {a b : String} (h : Apart a b) : Apart b a :=
  ⟨h.ne.symm, h.not_above, h.not_beneath⟩

namespace Uri

theorem toList_path_ofFile (id path : String) :
    (ofFile id path).path.toList = id.toList ++ '/' :: path.toList.dropWhile (· = '/') := by
  simp [ofFile]

theorem ofFile_inj_iff {a b p q : String} :
    ofFile a p = ofFile b q ↔
      a.toList ++ '/' :: p.toList.dropWhile (· = '/') =
        b.toList ++ '/' :: q.toList.dropWhile (· = '/') := by
  rw [← toList_path_ofFile, ← toList_path_ofFile, String.toList_inj]
  exact ⟨congrArg path, fun h => congrArg mk h⟩

theorem head?_dropWhile_slash (path : List Char) : (path.dropWhile (· = '/')).head? ≠ some '/' := by
  intro h
  have hhead := List.head?_dropWhile_not (· = '/') path
  rw [h] at hhead
  simp at hhead

/-- If an id goes on where another one ends, and files below both have one address, it goes on with
a slash and a path. -/
theorem beneath_of_append_eq {a b : String} {rest p q : List Char} (hp : p.head? ≠ some '/')
    (hb : b.toList = a.toList ++ rest) (hne : rest ≠ [])
    (h : '/' :: p = rest ++ '/' :: q) : Beneath b a := by
  obtain ⟨c, path, rfl⟩ := List.exists_cons_of_ne_nil hne
  obtain ⟨rfl, hpath⟩ := List.cons.inj h
  refine ⟨path, ?_, ?_, hb⟩
  · rintro rfl
    rw [hpath] at hp
    exact hp rfl
  · cases path with
    | nil => nofun
    | cons d path =>
        rw [hpath] at hp
        exact hp

theorem exists_ofFile_eq_of_beneath {a b : String} (h : Beneath a b) :
    ∃ q, ofFile a "" = ofFile b q := by
  obtain ⟨path, hne, hhead, ha⟩ := h
  refine ⟨String.ofList (path ++ ['/']), ofFile_inj_iff.mpr ?_⟩
  cases path with
  | nil => exact absurd rfl hne
  | cons c path =>
      have hc : c ≠ '/' := fun h => hhead (congrArg some h)
      simp [ha, hc]

/-- Below two ids there are files with one address unless the ids are apart. -/
theorem exists_ofFile_eq_iff (a b : String) :
    (∃ p q, ofFile a p = ofFile b q) ↔ ¬Apart a b := by
  constructor
  · rintro ⟨p, q, h⟩ hapart
    rcases List.append_eq_append_iff.mp (ofFile_inj_iff.mp h) with
      ⟨rest, hb, hrest⟩ | ⟨rest, ha, hrest⟩
    · by_cases hne : rest = []
      · rw [hne, List.append_nil] at hb
        exact hapart.ne (String.toList_inj.mp hb.symm)
      · exact hapart.not_above (beneath_of_append_eq (head?_dropWhile_slash _) hb hne hrest)
    · by_cases hne : rest = []
      · rw [hne, List.append_nil] at ha
        exact hapart.ne (String.toList_inj.mp ha)
      · exact hapart.not_beneath (beneath_of_append_eq (head?_dropWhile_slash _) ha hne hrest)
  · intro h
    by_cases hab : a = b
    · exact ⟨"", "", by rw [hab]⟩
    by_cases hbeneath : Beneath a b
    · obtain ⟨q, h⟩ := exists_ofFile_eq_of_beneath hbeneath
      exact ⟨"", q, h⟩
    by_cases habove : Beneath b a
    · obtain ⟨p, h⟩ := exists_ofFile_eq_of_beneath habove
      exact ⟨p, "", h.symm⟩
    · exact absurd ⟨hab, hbeneath, habove⟩ h

end Uri

/-! ## Rounds -/

/-- A round of code generation: the id of its upload and the files it has generated. -/
structure Round where
  uploadId : String
  files : List GeneratedFile

namespace Round

/-- The files of a round as they are staged. -/
def staged (r : Round) : List StagedFile :=
  r.files.map (.ofGenerated r.uploadId)

/-- The addresses at which a round stages files. -/
def uris (r : Round) : List Uri :=
  r.files.map fun f => .ofFile r.uploadId f.path

/-- The last file of a round at an address. -/
def lastAt? (r : Round) (u : Uri) : Option GeneratedFile :=
  r.files.reverse.find? fun f => Uri.ofFile r.uploadId f.path = u

theorem exists_lastAt? {r : Round} {u : Uri} (h : u ∈ r.uris) : ∃ f, r.lastAt? u = some f := by
  obtain ⟨f, hf, rfl⟩ := List.mem_map.mp h
  rw [← Option.isSome_iff_exists, lastAt?, List.find?_isSome]
  exact ⟨f, List.mem_reverse.mpr hf, decide_eq_true rfl⟩

theorem lastAt?_eq_none {r : Round} {u : Uri} (h : u ∉ r.uris) : r.lastAt? u = none := by
  rw [lastAt?, List.find?_eq_none]
  intro f hf heq
  exact h (List.mem_map.mpr ⟨f, List.mem_reverse.mp hf, of_decide_eq_true heq⟩)

end Round

namespace Store

/-- Stages the files of rounds, one round after the other. -/
def registerRounds (s : Store) (rounds : List Round) : Store :=
  rounds.foldl (fun s r => s.registerAll r.staged) s

theorem registerRounds_append (s : Store) (rounds more : List Round) :
    s.registerRounds (rounds ++ more) = (s.registerRounds rounds).registerRounds more :=
  List.foldl_append

theorem registerRounds_cons (s : Store) (r : Round) (rounds : List Round) :
    s.registerRounds (r :: rounds) = (s.registerAll r.staged).registerRounds rounds :=
  rfl

/-- Of the files of a round at one address the last one is read. -/
theorem read_registerAll_staged (s : Store) (r : Round) (u : Uri) :
    (s.registerAll r.staged).read u =
      match r.lastAt? u with
      | some f => some f.content.toUTF8
      | none => s.read u := by
  rw [Round.staged, read_registerAll_ofGenerated]
  rfl

/-- Rounds leave alone what they have no files for. -/
theorem read_registerRounds_of_not_mem {s : Store} {rounds : List Round} {u : Uri}
    (h : ∀ r ∈ rounds, u ∉ r.uris) : (s.registerRounds rounds).read u = s.read u := by
  induction rounds generalizing s with
  | nil => rfl
  | cons r rounds ih =>
      rw [registerRounds_cons, ih fun r' hr' => h r' (.tail _ hr'), read_registerAll_staged,
        Round.lastAt?_eq_none (h r (.head _))]

/-! ## Order -/

/-- The addresses of the files in a store. -/
def uris (s : Store) : List Uri :=
  s.files.map (·.1)

/-- The paths of a store are in increasing order. -/
def Ordered (s : Store) : Prop :=
  s.uris.Pairwise fun u v => u.path < v.path

theorem mem_insertInto {u v : Uri} {content : ByteArray} {files : List (Uri × ByteArray)} :
    v ∈ (insertInto u content files).map (·.1) ↔ v = u ∨ v ∈ files.map (·.1) := by
  induction files with
  | nil => simp [insertInto]
  | cons file rest ih =>
      obtain ⟨name, old⟩ := file
      simp only [insertInto]
      split
      · rename_i hu
        simp [hu]
      · split
        · simp
        · rw [List.map_cons, List.mem_cons, ih, List.map_cons, List.mem_cons]
          exact or_left_comm

theorem pairwise_insertInto {u : Uri} {content : ByteArray} {files : List (Uri × ByteArray)}
    (h : (files.map (·.1)).Pairwise fun v w => v.path < w.path) :
    ((insertInto u content files).map (·.1)).Pairwise fun v w => v.path < w.path := by
  induction files with
  | nil => exact List.pairwise_singleton _ _
  | cons file rest ih =>
      obtain ⟨name, old⟩ := file
      obtain ⟨hname, hrest⟩ := List.pairwise_cons.mp h
      simp only [insertInto]
      split
      · rename_i hu
        exact hu ▸ h
      · rename_i hne
        split
        · rename_i hlt
          refine List.pairwise_cons.mpr ⟨fun v hv => ?_, h⟩
          rcases List.mem_cons.mp hv with rfl | hv
          · exact hlt
          · exact hlt.trans (hname v hv)
        · rename_i hle
          refine List.pairwise_cons.mpr ⟨fun v hv => ?_, ih hrest⟩
          rcases mem_insertInto.mp hv with rfl | hv
          · exact lt_of_le_of_ne (not_lt.mp hle) fun hpath => hne (congrArg Uri.mk hpath.symm)
          · exact hname v hv

theorem Ordered.registerAll {s : Store} (h : s.Ordered) (files : List StagedFile) :
    (s.registerAll files).Ordered := by
  induction files generalizing s with
  | nil => exact h
  | cons f files ih => exact ih (s := s.registerStaged f) (pairwise_insertInto h)

theorem mem_uris_registerAll {s : Store} {files : List StagedFile} {u : Uri} :
    u ∈ (s.registerAll files).uris ↔ u ∈ s.uris ∨ u ∈ files.map (·.uri) := by
  induction files generalizing s with
  | nil => simp [registerAll]
  | cons f files ih =>
      have hinsert : u ∈ (s.registerStaged f).uris ↔ u = f.uri ∨ u ∈ s.uris := mem_insertInto
      have hall : s.registerAll (f :: files) = (s.registerStaged f).registerAll files := rfl
      rw [hall, ih, hinsert, List.map_cons, List.mem_cons, or_comm (a := u = f.uri), or_assoc]

theorem Ordered.registerRounds {s : Store} (h : s.Ordered) (rounds : List Round) :
    (s.registerRounds rounds).Ordered := by
  induction rounds generalizing s with
  | nil => exact h
  | cons r rounds ih => exact ih (h.registerAll r.staged)

theorem mem_uris_registerRounds {s : Store} {rounds : List Round} {u : Uri} :
    u ∈ (s.registerRounds rounds).uris ↔ u ∈ s.uris ∨ u ∈ rounds.flatMap Round.uris := by
  induction rounds generalizing s with
  | nil => simp [registerRounds]
  | cons r rounds ih =>
      have hstaged : r.staged.map (·.uri) = r.uris := by
        rw [Round.staged, List.map_map]
        rfl
      rw [registerRounds_cons, ih, mem_uris_registerAll, hstaged, List.flatMap_cons,
        List.mem_append, or_assoc]

theorem Ordered.paths {s : Store} (h : s.Ordered) : s.paths.Pairwise (· < ·) := by
  have hpaths : s.paths = s.uris.map (·.path) := by
    rw [uris, List.map_map]
    rfl
  rw [hpaths]
  exact List.pairwise_map.mpr h

theorem Ordered.nodup_uris {s : Store} (h : s.Ordered) : s.uris.Nodup :=
  h.imp fun hlt heq => (congrArg Uri.path heq).not_lt hlt

end Store

theorem Round.not_mem_uris_of_apart {r later : Round} (h : Apart r.uploadId later.uploadId)
    {u : Uri} (hu : u ∈ r.uris) : u ∉ later.uris := by
  intro hlater
  obtain ⟨f, -, rfl⟩ := List.mem_map.mp hu
  obtain ⟨g, -, heq⟩ := List.mem_map.mp hlater
  exact (Uri.exists_ofFile_eq_iff _ _).mp ⟨_, _, heq.symm⟩ h

/-- Of the files of a round that have one address the last one is read there, and this stays so
after any rounds with ids apart from its own. The paths are in increasing order, and there is one
for each address. -/
theorem rounds_keep_files (rounds : List Round) :
    let s := Store.empty.registerRounds rounds
    (∀ before r after, rounds = before ++ r :: after → ∀ u ∈ r.uris, ∃ f, r.lastAt? u = some f ∧
      (Store.empty.registerRounds (before ++ [r])).read u = some f.content.toUTF8 ∧
      ((∀ later ∈ after, Apart r.uploadId later.uploadId) →
        s.read u = some f.content.toUTF8)) ∧
    s.paths.Pairwise (· < ·) ∧ s.paths.length = s.size ∧
    s.paths.Perm ((rounds.flatMap Round.uris).dedup.map (·.path)) := by
  intro s
  have hs : s.Ordered := Store.Ordered.registerRounds (s := .empty) List.Pairwise.nil rounds
  refine ⟨?_, hs.paths, List.length_map _, ?_⟩
  · intro before r after hrounds u hu
    obtain ⟨f, hf⟩ := Round.exists_lastAt? hu
    have hread : (Store.empty.registerRounds (before ++ [r])).read u = some f.content.toUTF8 := by
      rw [Store.registerRounds_append, Store.registerRounds_cons, Store.registerRounds,
        List.foldl_nil, Store.read_registerAll_staged, hf]
    refine ⟨f, hf, hread, fun hafter => ?_⟩
    have hs' : s = (Store.empty.registerRounds (before ++ [r])).registerRounds after := by
      rw [← Store.registerRounds_append, List.append_assoc, List.singleton_append, ← hrounds]
    rw [hs', Store.read_registerRounds_of_not_mem, hread]
    exact fun later hlater => Round.not_mem_uris_of_apart (hafter later hlater) hu
  · have huris : s.uris.Perm (rounds.flatMap Round.uris).dedup := by
      rw [List.perm_ext_iff_of_nodup hs.nodup_uris (List.nodup_dedup _)]
      intro u
      rw [List.mem_dedup, Store.mem_uris_registerRounds]
      exact or_iff_right List.not_mem_nil
    have hpaths := huris.map (·.path)
    rwa [Store.uris, List.map_map] at hpaths

theorem rounds_keep_files_twice :
    let rounds : List Round :=
      [⟨"up-1", [⟨"a.txt", "first"⟩, ⟨"/a.txt", "second"⟩]⟩, ⟨"up-2", [⟨"a.txt", "third"⟩]⟩]
    Apart "up-1" "up-2" ∧ Uri.ofFile "up-1" "a.txt" = Uri.ofFile "up-1" "/a.txt" ∧
      (Store.empty.registerRounds rounds).read (.ofFile "up-1" "a.txt") =
        some "second".toUTF8 := by
  intro rounds
  have hapart : Apart "up-1" "up-2" := by
    refine ⟨by decide, ?_, ?_⟩
    · rintro ⟨path, -, -, h⟩
      simpa using congrArg List.length h
    · rintro ⟨path, -, -, h⟩
      simpa using congrArg List.length h
  have hsame : Uri.ofFile "up-1" "a.txt" = Uri.ofFile "up-1" "/a.txt" := by decide +kernel
  obtain ⟨f, hf, -, hread⟩ := (rounds_keep_files rounds).1 [] _ _ rfl (.ofFile "up-1" "a.txt")
    (by decide +kernel)
  have hlast : f = ⟨"/a.txt", "second"⟩ := by
    have hsecond : (⟨"up-1", [⟨"a.txt", "first"⟩, ⟨"/a.txt", "second"⟩]⟩ : Round).lastAt?
        (.ofFile "up-1" "a.txt") = some ⟨"/a.txt", "second"⟩ := by decide +kernel
    exact Option.some.inj (hf.symm.trans hsecond)
  refine ⟨hapart, hsame, ?_⟩
  rw [hread (by simpa using hapart), hlast]

/-- A file of a later round takes the place of one of an earlier round with another id. -/
theorem rounds_meet :
    let earlier : Round := ⟨"u", [⟨"a/b", "1"⟩]⟩
    let later : Round := ⟨"u/a", [⟨"b", "2"⟩]⟩
    let u := Uri.ofFile "u" "a/b"
    earlier.uploadId ≠ later.uploadId ∧ u ∈ earlier.uris ∧
      (Store.empty.registerRounds [earlier]).read u = some "1".toUTF8 ∧
      (Store.empty.registerRounds [earlier, later]).read u = some "2".toUTF8 ∧
      "1".toUTF8 ≠ "2".toUTF8 := by
  decide +kernel

end Codewright.Staging
