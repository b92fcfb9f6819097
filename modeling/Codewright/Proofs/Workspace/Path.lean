import Codewright.Workspace.Place

/-!
# Names and slashes

A text is split at its slashes and put together again. What the service names is a row of proper
names below the root of a workspace, or nothing.
-/

namespace Codewright.Workspace

/-- A name that leads to where one is. -/
abbrev Name.Stays (name : Name) : Prop :=
  name = [] ∨ name = Path.here

/-- A name that leads into an entry. -/
structure Name.IsProper (name : Name) : Prop where
  ne_nil : name ≠ []
  ne_here : name ≠ Path.here
  ne_up : name ≠ Path.up

theorem Name.not_stays_up : ¬ Name.Stays Path.up := by decide

theorem Name.IsProper.not_stays {name : Name} (h : name.IsProper) : ¬ name.Stays :=
  not_or.mpr ⟨h.ne_nil, h.ne_here⟩

namespace Path

variable {text base path : List UInt8} {name : Name} {names : List Name} {p : Path}

/-! ## Splitting and joining -/

theorem splitNames_ne_nil (text : List UInt8) : splitNames text ≠ [] := by
  cases text with
  | nil => nofun
  | cons b rest =>
      rw [splitNames]
      split
      · nofun
      · split <;> nofun

theorem splitNames_append_slash (text rest : List UInt8) :
    splitNames (text ++ slash :: rest) = splitNames text ++ splitNames rest := by
  induction text with
  | nil => simp [splitNames]
  | cons b text ih =>
      by_cases hb : b = slash
      · simp [splitNames, hb, ih]
      · obtain ⟨name, more, h⟩ := List.exists_cons_of_ne_nil (splitNames_ne_nil text)
        simp [splitNames, hb, ih, h]

theorem splitNames_of_not_mem (h : slash ∉ name) : splitNames name = [name] := by
  induction name with
  | nil => rfl
  | cons b name ih =>
      have hb : b ≠ slash := fun hb => h (hb ▸ .head _)
      simp [splitNames, ih fun hname => h (.tail _ hname), hb]

theorem slash_not_mem_of_mem_splitNames (h : name ∈ splitNames text) : slash ∉ name := by
  induction text generalizing name with
  | nil =>
      rw [splitNames, List.mem_singleton] at h
      subst h
      exact List.not_mem_nil
  | cons b text ih =>
      obtain ⟨first, more, hsplit⟩ := List.exists_cons_of_ne_nil (splitNames_ne_nil text)
      rw [hsplit] at ih
      by_cases hb : b = slash
      · simp only [splitNames, hb, if_pos, hsplit] at h
        rcases List.mem_cons.mp h with rfl | h
        · exact List.not_mem_nil
        · exact ih h
      · simp only [splitNames, hb, if_false, hsplit] at h
        rcases List.mem_cons.mp h with rfl | h
        · exact List.not_mem_cons_of_ne_of_not_mem (Ne.symm hb) (ih (.head _))
        · exact ih (.tail _ h)

theorem splitNames_joinNames (hne : names ≠ []) (h : ∀ name ∈ names, slash ∉ name) :
    splitNames (joinNames names) = names := by
  induction names with
  | nil => exact absurd rfl hne
  | cons name names ih =>
      have hname := splitNames_of_not_mem (h name (.head _))
      cases names with
      | nil => exact hname
      | cons next rest =>
          rw [joinNames, splitNames_append_slash, hname, ih nofun fun n hn => h n (.tail _ hn),
            List.singleton_append]
          nofun

theorem joinNames_cons (hne : names ≠ []) (name : Name) :
    joinNames (name :: names) = name ++ slash :: joinNames names := by
  cases names with
  | nil => exact absurd rfl hne
  | cons first rest => rfl

theorem joinNames_concat (hne : names ≠ []) (name : Name) :
    joinNames (names ++ [name]) = joinNames names ++ slash :: name := by
  induction names with
  | nil => exact absurd rfl hne
  | cons first names ih =>
      by_cases hnil : names = []
      · subst hnil
        rfl
      · rw [List.cons_append, joinNames_cons (List.append_ne_nil_of_left_ne_nil hnil _), ih hnil,
          joinNames_cons hnil, List.append_assoc, List.cons_append]

theorem joinNames_splitNames (text : List UInt8) : joinNames (splitNames text) = text := by
  induction text with
  | nil => rfl
  | cons b text ih =>
      rw [splitNames]
      split
      · rename_i hb
        rw [joinNames_cons (splitNames_ne_nil text), ih, hb, List.nil_append]
      · obtain ⟨name, more, hsplit⟩ := List.exists_cons_of_ne_nil (splitNames_ne_nil text)
        rw [hsplit] at ih ⊢
        rw [← ih]
        cases more with
        | nil | cons => rfl

theorem joinNames_isPrefix (names more : List Name) :
    joinNames names <+: joinNames (names ++ more) := by
  induction names with
  | nil => exact List.nil_prefix
  | cons name names ih =>
      by_cases hnil : names = []
      · subst hnil
        cases more with
        | nil => exact List.prefix_rfl
        | cons => exact List.prefix_append ..
      · rw [List.cons_append, joinNames_cons hnil,
          joinNames_cons (List.append_ne_nil_of_left_ne_nil hnil _)]
        exact (List.prefix_append_right_inj _).mpr ((List.prefix_cons_inj _).mpr ih)

/-! ## Trimming -/

theorem baseNames_eq (base : List UInt8) :
    ∃ first rest skipped, splitNames base = first :: (rest ++ skipped) ∧
      baseNames base = first :: rest ∧ ∀ name ∈ skipped, name.Stays := by
  obtain ⟨first, rest, h⟩ := List.exists_cons_of_ne_nil (splitNames_ne_nil base)
  let stays := fun name : Name => name = [] || name = here
  refine ⟨first, (rest.reverse.dropWhile stays).reverse, (rest.reverse.takeWhile stays).reverse,
    ?_, ?_, fun name hname => ?_⟩
  · rw [h, ← List.reverse_append, List.takeWhile_append_dropWhile, List.reverse_reverse]
  · simp only [baseNames, h, stays]
  · have hstays := List.all_eq_true.mp List.all_takeWhile name (List.mem_reverse.mp hname)
    simpa [stays] using hstays

/-- Trimming takes away names at the end that lead nowhere, but of the root directory nothing. -/
theorem splitNames_trimBase (h : base ≠ []) :
    ∃ first rest skipped, splitNames base = first :: (rest ++ skipped) ∧
      (∀ name ∈ skipped, name.Stays) ∧
      (first :: rest ≠ [[]] ∧ splitNames (trimBase base) = first :: rest ∨
        first :: rest = [[]] ∧ splitNames (trimBase base) = [[], []]) := by
  obtain ⟨first, rest, skipped, hs, hb, hskipped⟩ := baseNames_eq base
  refine ⟨first, rest, skipped, hs, hskipped, ?_⟩
  have hslash : ∀ name ∈ first :: rest, slash ∉ name := by
    intro name hname
    have hmem : name ∈ splitNames base := by
      rw [hs, ← List.cons_append]
      exact List.mem_append_left _ hname
    exact slash_not_mem_of_mem_splitNames hmem
  rw [trimBase, hb]
  split
  · rename_i hroot
    rw [if_neg h]
    exact .inr ⟨hroot, rfl⟩
  · rename_i hroot
    exact .inl ⟨hroot, splitNames_joinNames nofun hslash⟩

theorem trimBase_ne_nil (h : base ≠ []) : trimBase base ≠ [] := by
  intro hnil
  obtain ⟨first, rest, skipped, -, -, htrim⟩ := splitNames_trimBase h
  rw [hnil] at htrim
  rcases htrim with ⟨hroot, ht⟩ | ⟨-, ht⟩
  · exact hroot ht.symm
  · cases ht

theorem trimBase_isPrefix (base : List UInt8) : trimBase base <+: base := by
  obtain ⟨first, rest, skipped, hsplit, hbase, -⟩ := baseNames_eq base
  have hjoin := joinNames_splitNames base
  rw [hsplit] at hjoin
  rw [trimBase, hbase]
  split
  · rename_i hroot
    obtain ⟨rfl, rfl⟩ := List.cons.inj hroot
    split
    · exact List.nil_prefix
    · rename_i hne
      have hskipped : skipped ≠ [] := by
        rintro rfl
        exact hne hjoin.symm
      rw [List.nil_append, joinNames_cons hskipped, List.nil_append] at hjoin
      rw [← hjoin]
      exact List.prefix_append [slash] _
  · rw [← hjoin]
    exact joinNames_isPrefix (first :: rest) skipped

/-- The directory that holds a name below a path. -/
theorem parent?_concat (base : List UInt8) (names : List Name) (name : Name) :
    parent? ⟨base, names ++ [name]⟩ =
      some (if names = [] then ⟨trimBase base, []⟩ else ⟨base, names⟩) := by
  cases names with
  | nil => rfl
  | cons first rest =>
      simp only [parent?]
      split
      · rename_i h
        cases h
      · rename_i h
        cases rest <;> cases h
      · rw [List.dropLast_concat, if_neg nofun]

/-! ## Bytes of a path -/

theorem isPrefix_joinName (path : List UInt8) (name : Name) : path <+: joinName path name := by
  rw [joinName]
  split
  · exact List.prefix_append ..
  · exact List.prefix_append ..

theorem joinName_ne_nil (path : List UInt8) (h : name ≠ []) : joinName path name ≠ [] := by
  rw [joinName]
  split
  · exact List.append_ne_nil_of_right_ne_nil _ h
  · exact List.append_ne_nil_of_right_ne_nil _ (List.cons_ne_nil _ _)

theorem joinName_append (path text more : List UInt8) :
    joinName path (text ++ more) = joinName path text ++ more := by
  simp only [joinName]
  split
  · rw [List.append_assoc]
  · rw [List.append_assoc, List.cons_append]

theorem mem_joinName {b : UInt8} (h : b ∈ joinName path name) :
    b ∈ path ∨ b = slash ∨ b ∈ name := by
  rw [joinName] at h
  split at h
  · exact (List.mem_append.mp h).imp_right .inr
  · exact (List.mem_append.mp h).imp_right List.mem_cons.mp

theorem getLast?_append_of_ne_nil (text : List UInt8) (h : name ≠ []) :
    (text ++ name).getLast? = name.getLast? := by
  rw [List.getLast?_append, Option.or_of_isSome (List.getLast?_isSome.mpr h)]

/-- A path that is written down ends with its last name. -/
theorem getLast?_bytes (base : List UInt8) (init : List Name) (h : name ≠ []) :
    (bytes ⟨base, init ++ [name]⟩).getLast? = name.getLast? := by
  have hnames : (joinNames (init ++ [name])).getLast? = name.getLast? := by
    by_cases hnil : init = []
    · rw [hnil]
      rfl
    · rw [joinNames_concat hnil, List.append_cons, getLast?_append_of_ne_nil _ h]
  have hne : joinNames (init ++ [name]) ≠ [] := by
    rw [← List.getLast?_isSome, hnames, List.getLast?_isSome]
    exact h
  rw [bytes, if_neg (List.concat_ne_nil _ _), ← hnames, joinName]
  split
  · exact getLast?_append_of_ne_nil base hne
  · rw [List.append_cons, getLast?_append_of_ne_nil _ hne]

theorem bytes_append_ne_nil (hp : p.bytes ≠ []) (h : ∀ name ∈ names, name ≠ []) :
    bytes { p with names := p.names ++ names } ≠ [] := by
  obtain rfl | ⟨init, last, rfl⟩ := names.eq_nil_or_concat
  · rwa [List.append_nil]
  · rw [List.concat_eq_append] at h ⊢
    have hlast : last ≠ [] := h last (List.mem_append_right _ (.head _))
    rw [← List.getLast?_isSome, ← List.append_assoc, getLast?_bytes _ _ hlast,
      List.getLast?_isSome]
    exact hlast

/-- A name is put behind the bytes of a path. -/
theorem bytes_child (h : ∀ name ∈ p.names, name ≠ [] ∧ slash ∉ name) (name : Name) :
    (p.child name).bytes = joinName p.bytes name := by
  obtain ⟨base, names⟩ := p
  obtain rfl | ⟨init, last, rfl⟩ := names.eq_nil_or_concat
  · rfl
  · rw [List.concat_eq_append] at h ⊢
    obtain ⟨hne, hslash⟩ := h last (List.mem_append_right _ (.head _))
    have hend := getLast?_bytes base init hne
    have hbytes : ¬(bytes ⟨base, init ++ [last]⟩ = [] ∨
        (bytes ⟨base, init ++ [last]⟩).getLast? = some slash) := by
      rw [hend]
      rintro (hnil | hlast)
      · rw [hnil] at hend
        exact hne (List.getLast?_eq_none_iff.mp hend.symm)
      · exact hslash (List.mem_of_getLast? hlast)
    rw [joinName, if_neg (by simpa using hbytes), child, bytes, if_neg (List.concat_ne_nil _ _),
      joinNames_concat (List.concat_ne_nil _ _), joinName_append, bytes,
      if_neg (List.concat_ne_nil _ _)]

end Path

/-! ## Places in a workspace -/

/-- Proper names lead from `root` down to `p`. -/
structure Path.Extends (root : Path) (names : List Name) (p : Path) : Prop where
  eq : p = { root with names := root.names ++ names }
  ne_nil : names ≠ []
  proper : ∀ name ∈ names, name.IsProper

/-- The directories that a path lies in: the one that holds it and those above. -/
inductive Path.LiesIn (p : Path) : Path → Prop where
  | parent {q : Path} : p.parent? = some q → LiesIn p q
  | further {q dir : Path} : LiesIn p q → q.parent? = some dir → LiesIn p dir

/-- A path of a directory that holds what proper names lead to from `root`. -/
inductive Path.Holds (root : Path) : Path → Prop where
  | root : Holds root root
  | trimmed : root.names = [] → Holds root ⟨trimBase root.base, []⟩
  | below {names : List Name} {dir : Path} : root.Extends names dir → Holds root dir

theorem Path.Extends.parent? {root p dir : Path} {names : List Name} (h : root.Extends names p)
    (hdir : p.parent? = some dir) : root.Holds dir := by
  obtain ⟨rfl, hne, hproper⟩ := h
  obtain rfl | ⟨init, last, rfl⟩ := names.eq_nil_or_concat
  · exact absurd rfl hne
  · rw [List.concat_eq_append, ← List.append_assoc, parent?_concat] at hdir
    obtain rfl := Option.some.inj hdir
    split
    · rename_i hnil
      exact .trimmed (List.append_eq_nil_iff.mp hnil).1
    · cases init with
      | nil =>
          rw [List.append_nil]
          exact .root
      | cons name init =>
          refine .below ⟨rfl, nofun, fun n hn => hproper n ?_⟩
          rw [List.concat_eq_append]
          exact List.mem_append_left _ hn

namespace PathStep

variable {name : Name}

theorem ofName?_of_stays (h : name.Stays) : ofName? name = none := by
  rw [ofName?, if_pos (by simpa using h)]

theorem ofName?_of_proper (h : name.IsProper) : ofName? name = some (.into name) := by
  rw [ofName?, if_neg (by simpa using h.not_stays), if_neg h.ne_up]

theorem filterMap_cons_ofName? (name : Name) (rest : List Name) :
    (name :: rest).filterMap ofName? = (ofName? name).toList ++ rest.filterMap ofName? := by
  rw [List.filterMap_cons]
  cases ofName? name with
  | none | some => rfl

end PathStep

namespace Path

theorem follow?_dot (p : Path) (name : Name) (steps : List PathStep) :
    follow? p
        ((if name = here then some PathStep.here else PathStep.ofName? name).toList ++ steps) =
      follow? p ((PathStep.ofName? name).toList ++ steps) := by
  split
  · rename_i h
    simp [h, PathStep.ofName?, follow?]
  · rfl

/-- Only the names in a text count, but for the empty one and the dot. -/
theorem follow?_ofText (p : Path) (text : List UInt8) :
    follow? p (PathStep.ofText text) =
      follow? p ((splitNames text).filterMap PathStep.ofName?) := by
  obtain ⟨first, rest, h⟩ := List.exists_cons_of_ne_nil (splitNames_ne_nil text)
  rw [PathStep.ofText, h, PathStep.filterMap_cons_ofName?, ← follow?_dot]
  cases rest with
  | nil => simp
  | cons next rest =>
      dsimp only
      split
      · rename_i hnil
        simp [hnil, PathStep.ofName?, follow?, here]
      · rfl

/-- Names lead nowhere if one of them leads up, and else into the entries among them. -/
theorem follow?_names (p : Path) (names : List Name) :
    follow? p (names.filterMap PathStep.ofName?) =
      if up ∈ names then none
      else some { p with names := p.names ++ names.filter fun n => ¬ n.Stays } := by
  induction names generalizing p with
  | nil => simp [follow?]
  | cons name names ih =>
      rw [List.filterMap_cons]
      by_cases hstays : name.Stays
      · have hne : up ≠ name := by
          rintro rfl
          exact Name.not_stays_up hstays
        rw [PathStep.ofName?_of_stays hstays,
          List.filter_cons_of_neg (by simpa only [decide_eq_true_eq, Decidable.not_not])]
        simp [ih, hne]
      by_cases hup : name = up
      · subst hup
        have hstep : PathStep.ofName? up = some .up := rfl
        simp [hstep, follow?]
      · have hproper : name.IsProper := by
          obtain ⟨hnil, hhere⟩ := not_or.mp hstays
          exact ⟨hnil, hhere, hup⟩
        rw [PathStep.ofName?_of_proper hproper, List.filter_cons_of_pos (by simpa using hstays)]
        simp [follow?, ih, child, Ne.symm hup]

/-- The names in a text that lead on. -/
def entryNames (s : String) : List Name :=
  (splitNames (Text.bytes s)).filter fun n => ¬ n.Stays

/-- A text leads along the names in it, unless one of them leads up or none leads on. -/
theorem inWorkspace?_eq_names (root : Path) (relative : String) :
    root.inWorkspace? relative =
      if up ∈ splitNames (Text.bytes relative) ∨ entryNames relative = [] then none
      else some { root with names := root.names ++ entryNames relative } := by
  rw [inWorkspace?, follow?_ofText, follow?_names, ← entryNames]
  by_cases hup : up ∈ splitNames (Text.bytes relative)
  · simp [hup]
  · simp [hup]

/-- What the service names lies below the root, or nowhere. -/
theorem inWorkspace?_extends {root p : Path} {relative : String}
    (h : inWorkspace? root relative = some p) : ∃ names, root.Extends names p := by
  rw [inWorkspace?_eq_names] at h
  split at h
  · cases h
  · rename_i hleads
    obtain ⟨hup, hne⟩ := not_or.mp hleads
    refine ⟨_, (Option.some.inj h).symm, hne, fun name hname => ?_⟩
    obtain ⟨hmem, hstays⟩ := List.mem_filter.mp hname
    obtain ⟨hnil, hhere⟩ := not_or.mp (of_decide_eq_true hstays)
    exact ⟨hnil, hhere, fun h => hup (h ▸ hmem)⟩

end Path

end Codewright.Workspace
