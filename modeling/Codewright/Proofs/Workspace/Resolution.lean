import Mathlib.Data.List.Basic
import Codewright.Proofs.Workspace.Segments

/-!
# Where a text leads

The segments of a text decide where it leads below the root of a workspace: nowhere if one of them
leads up or none names an entry, and along the entries that they name otherwise. Written down, that
path begins with the root and goes on with these entries.
-/

namespace Codewright.Workspace

open Workspace.Path (joinName segments splitNames)

variable {text : List UInt8} {name : Name} {names : List Name} {s : String}

/-! ## A name behind a path -/

namespace Path

/-- A name stands behind the names of a path, in place of those at its end that lead nowhere. -/
theorem splitNames_joinName (hne : text ≠ []) (hslash : slash ∉ name) :
    ∃ first rest skipped, splitNames text = first :: (rest ++ skipped) ∧
      (∀ n ∈ skipped, n.Stays) ∧ splitNames (joinName text name) = first :: (rest ++ [name]) := by
  have hname := splitNames_of_not_mem hslash
  by_cases hlast : text.getLast? = some slash
  · obtain ⟨init, rfl⟩ := List.getLast?_eq_some_iff.mp hlast
    obtain ⟨first, rest, hinit⟩ := List.exists_cons_of_ne_nil (splitNames_ne_nil init)
    refine ⟨first, rest, [[]], ?_, ?_, ?_⟩
    · rw [splitNames_append_slash, hinit]
      rfl
    · rintro n hn
      exact .inl (List.mem_singleton.mp hn)
    · rw [joinName, if_pos (by simp), List.append_assoc, List.singleton_append,
        splitNames_append_slash, hinit, hname]
      rfl
  · obtain ⟨first, rest, htext⟩ := List.exists_cons_of_ne_nil (splitNames_ne_nil text)
    refine ⟨first, rest, [], ?_, List.forall_mem_nil _, ?_⟩
    · rw [htext, List.append_nil]
    · rw [joinName, if_neg (by simp [hne, hlast]), splitNames_append_slash, htext, hname]
      rfl

/-- Names are put one after the other behind the bytes of a path. -/
theorem bytes_append (p : Path) (hp : ∀ n ∈ p.names, n ≠ [] ∧ slash ∉ n)
    (hnames : ∀ n ∈ names, n ≠ [] ∧ slash ∉ n) :
    bytes { p with names := p.names ++ names } = names.foldl joinName p.bytes := by
  induction names generalizing p with
  | nil => rw [List.append_nil, List.foldl_nil]
  | cons name names ih =>
      have hchild : ∀ n ∈ (p.child name).names, n ≠ [] ∧ slash ∉ n := by
        intro n hn
        rcases List.mem_append.mp hn with hn | hn
        · exact hp n hn
        · exact List.mem_singleton.mp hn ▸ hnames name (.head _)
      have hrest := ih (p.child name) hchild fun n hn => hnames n (.tail _ hn)
      rw [List.foldl_cons, ← bytes_child hp, ← hrest, child]
      simp only [List.append_assoc, List.singleton_append]

end Path

/-! ## The steps of a path as text -/

namespace PathStep

theorem filterMap_of_stays (h : ∀ n ∈ names, n.Stays) : names.filterMap ofName? = [] :=
  List.filterMap_eq_nil_iff.mpr fun n hn => ofName?_of_stays (h n hn)

theorem ofText_of_ne_nil {first : Name} {rest : List Name} (hne : text ≠ [])
    (h : splitNames text = first :: rest) :
    ofText text =
      (if first = [] then some root else if first = Path.here then some here
        else ofName? first).toList ++ rest.filterMap ofName? := by
  rw [ofText, h]
  cases rest with
  | nil =>
      have hfirst : first ≠ [] := by
        rintro rfl
        exact hne (by rw [← Path.joinNames_splitNames text, h]; rfl)
      rw [if_neg hfirst]
      simp
  | cons next rest => rfl

/-- A proper name put behind a path is one more step. -/
theorem ofText_joinName (text : List UInt8) (h : name.IsProper) (hslash : slash ∉ name) :
    ofText (joinName text name) = ofText text ++ [.into name] := by
  have hinto := ofName?_of_proper h
  by_cases hne : text = []
  · subst hne
    rw [joinName, if_pos (by simp), List.nil_append, ofText,
      Path.splitNames_of_not_mem hslash]
    dsimp only
    rw [if_neg h.ne_here, hinto]
    rfl
  · obtain ⟨first, rest, skipped, htext, hskipped, hjoin⟩ := Path.splitNames_joinName hne hslash
    rw [ofText_of_ne_nil (Path.joinName_ne_nil text h.ne_nil) hjoin, ofText_of_ne_nil hne htext,
      List.filterMap_append, List.filterMap_append, filterMap_of_stays hskipped, List.append_nil,
      List.append_assoc]
    simp [hinto]

theorem ofText_foldl_joinName (text : List UInt8) (h : ∀ n ∈ names, n.IsProper ∧ slash ∉ n) :
    ofText (names.foldl joinName text) = ofText text ++ names.map .into := by
  induction names generalizing text with
  | nil => simp
  | cons name names ih =>
      obtain ⟨hproper, hslash⟩ := h name (.head _)
      rw [List.foldl_cons, ih _ fun n hn => h n (.tail _ hn), ofText_joinName text hproper hslash,
        List.append_assoc, List.map_cons, List.singleton_append]

end PathStep

/-! ## Segments that name an entry -/

namespace Path

/-- The segments of a text that name an entry. -/
def entrySegments (s : String) : List String :=
  (segments s).filter fun t => t ≠ "" ∧ t ≠ "."

theorem stays_bytes {t : String} : Name.Stays (Text.bytes t) ↔ t = "" ∨ t = "." := by
  have hnil : ([] : Name) = Text.bytes "" := by decide +kernel
  have hhere : here = Text.bytes "." := by decide +kernel
  rw [Name.Stays, hnil, hhere, Text.bytes_injective.eq_iff, Text.bytes_injective.eq_iff]

theorem up_mem_splitNames (s : String) : up ∈ splitNames (Text.bytes s) ↔ ".." ∈ segments s := by
  have hup : up = Text.bytes ".." := by decide +kernel
  rw [splitNames_bytes, hup, List.mem_map_of_injective Text.bytes_injective]

theorem entryNames_eq (s : String) : entryNames s = (entrySegments s).map Text.bytes := by
  rw [entryNames, splitNames_bytes, List.filter_map, entrySegments]
  refine congrArg (List.map Text.bytes) (List.filter_congr fun t _ => decide_eq_decide.mpr ?_)
  rw [stays_bytes, not_or]

theorem entrySegments_eq_nil : entrySegments s = [] ↔ ∀ t ∈ segments s, t = "" ∨ t = "." := by
  rw [entrySegments, List.filter_eq_nil_iff]
  simp only [decide_eq_true_eq, not_and_or, not_not]

/-! ## Where a text leads -/

/-- A text leads along the entries that its segments name, unless one leads up or none names one. -/
theorem inWorkspace?_eq (root : Path) (relative : String) :
    root.inWorkspace? relative =
      if ".." ∈ segments relative ∨ entrySegments relative = [] then none
      else some { root with names := root.names ++ (entrySegments relative).map Text.bytes } := by
  rw [inWorkspace?_eq_names, entryNames_eq]
  simp only [up_mem_splitNames, List.map_eq_nil_iff]

/-- Slashes in front of a text do not count. -/
theorem inWorkspace?_slashes (root : Path) (n : Nat) (relative : String) :
    root.inWorkspace? (String.ofList (List.replicate n '/') ++ relative) =
      root.inWorkspace? relative := by
  have hdrop : (List.replicate n '/' ++ relative.toList).dropWhile (· = '/') =
      relative.toList.dropWhile (· = '/') := by
    refine List.dropWhile_append_of_pos fun c hc => ?_
    simpa using List.eq_of_mem_replicate hc
  have htext : String.ofList (List.replicate n '/') ++ relative =
      String.ofList (List.replicate n '/' ++ relative.toList) := by
    rw [String.ofList_append, String.ofList_toList]
  rw [htext, ← inWorkspace?_dropWhile, hdrop, inWorkspace?_dropWhile, String.ofList_toList]

/-- A text leads nowhere exactly if a segment leads up or none names an entry. Otherwise it leads
along the named entries: the path that is reached is written as the root with these names behind it,
and read again its steps are those of the root and one into each entry. Slashes in front of the text
do not count, so that texts with one address in a round lead to one path. -/
theorem resolved_by_segments (root : Path) (relative : String) :
    (root.inWorkspace? relative = none ↔
      ".." ∈ segments relative ∨ ∀ t ∈ segments relative, t = "" ∨ t = ".") ∧
    (∀ p, root.inWorkspace? relative = some p →
      root.Extends ((entrySegments relative).map Text.bytes) p ∧
      ((∀ n ∈ root.names, n ≠ [] ∧ slash ∉ n) →
        p.bytes = ((entrySegments relative).map Text.bytes).foldl joinName root.bytes ∧
        PathStep.ofText p.bytes =
          PathStep.ofText root.bytes ++ (entrySegments relative).map (.into <| Text.bytes ·))) ∧
    (∀ n, root.inWorkspace? (String.ofList (List.replicate n '/') ++ relative) =
      root.inWorkspace? relative) ∧
    ∀ uploadId other, Staging.Uri.ofFile uploadId relative = Staging.Uri.ofFile uploadId other →
      root.inWorkspace? relative = root.inWorkspace? other := by
  have heq := inWorkspace?_eq root relative
  refine ⟨?_, fun p hp => ?_, fun n => inWorkspace?_slashes root n relative,
    fun _ _ h => inWorkspace?_eq_of_ofFile_eq root h⟩
  · rw [heq, ← entrySegments_eq_nil]
    simp only [ite_eq_left_iff, reduceCtorEq, imp_false, not_not]
  · obtain ⟨names, hextends⟩ := inWorkspace?_extends hp
    rw [hp, hextends.eq] at heq
    split at heq
    · cases heq
    · obtain rfl : names = (entrySegments relative).map Text.bytes := by
        simpa using heq
      refine ⟨hextends, fun hroot => ?_⟩
      have hslash : ∀ n ∈ (entrySegments relative).map Text.bytes, slash ∉ n := by
        intro n hn
        rw [← entryNames_eq] at hn
        exact slash_not_mem_of_mem_splitNames (List.mem_of_mem_filter hn)
      have hbytes := bytes_append root hroot fun n hn =>
        ⟨(hextends.proper n hn).ne_nil, hslash n hn⟩
      rw [hextends.eq, hbytes]
      refine ⟨rfl, ?_⟩
      rw [PathStep.ofText_foldl_joinName _ fun n hn => ⟨hextends.proper n hn, hslash n hn⟩,
        List.map_map]
      rfl

theorem resolved_by_segments_dotted :
    let root : Path := .ofText "/w"
    let p : Path := ⟨Text.bytes "/w", [Text.bytes "a", Text.bytes "..b"]⟩
    (root.inWorkspace? "//a/./..b/" = some p ∧ ∀ n ∈ root.names, n ≠ [] ∧ slash ∉ n) ∧
      p.bytes = Text.bytes "/w/a/..b" ∧
      PathStep.ofText p.bytes =
        [.root, .into (Text.bytes "w"), .into (Text.bytes "a"), .into (Text.bytes "..b")] := by
  intro root p
  have hp : root.inWorkspace? "//a/./..b/" = some p := by decide +kernel
  have hroot : ∀ n ∈ root.names, n ≠ [] ∧ slash ∉ n := nofun
  obtain ⟨hbytes, hsteps⟩ :=
    ((resolved_by_segments root "//a/./..b/").2.1 p hp).2 hroot
  refine ⟨⟨hp, hroot⟩, hbytes.trans ?_, hsteps.trans ?_⟩
  · decide +kernel
  · decide +kernel

end Path

end Codewright.Workspace
