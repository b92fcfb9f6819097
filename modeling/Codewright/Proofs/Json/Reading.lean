import Codewright.Json.Decode
import Codewright.Proofs.Json.Written
import Mathlib.Data.List.Forall2
import Mathlib.Data.List.Perm.Basic

/-!
# Messages as they are written

A reader takes a value from the head of a text, whatever follows it. What holds of the readers of
texts is lifted to lists, whose items stand in a row, and to records. The members of a record are
found by their names, and so the order in which they are written does not matter; nor does it matter
whether a member is null or missing, where its reader takes null for what is absent.
-/

namespace Codewright.Json

open Text (Symbol)

variable {s rest r : List Symbol} {item : Reader} {j value : Json} {values : List Json} {fuel : Nat}

/-! ## Beginnings -/

theorem skipSpace_cons {x : Symbol} (h : isSpace x = false) : skipSpace (x :: s) = x :: s :=
  List.dropWhile_cons_of_neg (by simp [h])

/-- The text starts with a character that is neither white space nor the end of a list. -/
def Begins (s : List Symbol) : Prop :=
  ∃ c t, s = some c :: t ∧ isSpace (some c) = false ∧ c ≠ ']'

theorem begins_chars (j : Json) (rest : List Symbol) : Begins (j.chars.map some ++ rest) := by
  obtain ⟨c, t, hj, hmark, hspace⟩ := exists_chars_cons j
  rw [hj]
  refine ⟨c, _, rfl, hspace, ?_⟩
  rintro rfl
  exact mark_ne_close j hmark.symm

/-- The reader finds `value` where `written` stands, whatever follows. -/
def Reads (read : Reader) (written value : Json) : Prop :=
  ∀ rest, read (written.chars.map some ++ rest) = .ok (value, rest)

theorem reads_text (s : String) : Reads readText (text s) (text s) := by
  intro rest
  have h := readString_escaped s.toList rest
  simp only [chars, quoted, List.map_cons, List.map_append, List.map_nil, List.cons_append,
    List.append_assoc, List.nil_append]
  simp only [readText, skipSpace_cons (show isSpace (some '"') = false by decide)]
  rw [h]
  simp

theorem reads_nullableText (s? : Option String) :
    Reads readNullableText (ofText? s?) (ofText? s?) := by
  intro rest
  cases s? with
  | none => rfl
  | some s => exact reads_text s rest

/-! ## Lists -/

theorem length_le_itemChars (js : List Json) : js.length ≤ (itemChars js).length := by
  induction js with
  | nil => exact Nat.zero_le _
  | cons j js ih =>
      simp only [itemChars, List.length_cons, List.length_append, List.cons_append]
      omega

theorem readItems_first (hs : Begins s) (h : item s = .ok (value, r))
    (hr : readItems item fuel false r = .ok (values, rest)) :
    readItems item (fuel + 1) true s = .ok (value :: values, rest) := by
  obtain ⟨c, t, rfl, hspace, hclose⟩ := hs
  rw [readItems, skipSpace_cons hspace]
  split
  · rename_i heq
    cases heq
  · rename_i heq
    cases heq
    exact absurd rfl hclose
  · rename_i heq
    cases heq
    simp [h, hr]

theorem readItems_next (hs : Begins s) (h : item s = .ok (value, r))
    (hr : readItems item fuel false r = .ok (values, rest)) :
    readItems item (fuel + 1) false (some ',' :: s) = .ok (value :: values, rest) := by
  obtain ⟨c, t, rfl, hspace, hclose⟩ := hs
  rw [readItems, skipSpace_cons (by decide)]
  split
  · rename_i heq
    cases heq
  · rename_i heq
    cases heq
  · rename_i heq
    cases heq
    rw [if_neg Bool.false_ne_true, if_pos rfl, skipSpace_cons hspace]
    split
    · rename_i heq
      cases heq
    · rename_i heq
      cases heq
      exact absurd rfl hclose
    · simp [h, hr]

theorem readItems_rest {js : List Json} (h : List.Forall₂ (Reads item) js values)
    (hfuel : js.length < fuel) (rest : List Symbol) :
    readItems item fuel false ((itemChars js).map some ++ some ']' :: rest) =
      .ok (values, rest) := by
  induction h generalizing fuel with
  | nil =>
      obtain ⟨fuel, rfl⟩ := Nat.exists_eq_add_one.mpr (Nat.zero_lt_of_lt hfuel)
      rfl
  | @cons j value js values hj _ ih =>
      obtain ⟨fuel, rfl⟩ := Nat.exists_eq_add_one.mpr (Nat.zero_lt_of_lt hfuel)
      simp only [itemChars, List.map_cons, List.map_append, List.cons_append, List.append_assoc]
      exact readItems_next (begins_chars j _) (hj _) (ih (Nat.lt_of_succ_lt_succ hfuel))

theorem readList_of_readItems (h : readItems item (s.length + 1) true s = .ok (values, r)) :
    readList item (some '[' :: s) = .ok (list values, r) := by
  unfold readList
  rw [skipSpace_cons (by decide)]
  simp [h]

theorem reads_list {js : List Json} (h : List.Forall₂ (Reads item) js values) :
    Reads (readList item) (list js) (list values) := by
  intro rest
  cases h with
  | nil => rfl
  | @cons j value js values hj hjs =>
      have hlength := length_le_itemChars js
      simp only [chars, List.map_cons, List.map_append, List.cons_append, List.append_assoc,
        List.map_nil, List.nil_append]
      refine readList_of_readItems
        (readItems_first (begins_chars j _) (hj _) (readItems_rest hjs ?_ rest))
      simp only [List.length_append, List.length_map, List.length_cons]
      omega

/-! ## Records -/

/-- The members with the values of those that have been seen. -/
def Slots.of (members : List Member) (values : String → Json) (seen : List String) : Slots :=
  members.map fun m => (m, if m.name ∈ seen then some (values m.name) else none)

variable {members : List Member} {vals : String → Json} {seen : List String}

theorem Slots.empty_eq (members : List Member) (vals : String → Json) :
    Slots.empty members = Slots.of members vals [] := by
  simp [Slots.empty, Slots.of]

theorem Slots.fill_of (name : String) :
    (Slots.of members vals seen).fill name (vals name) = Slots.of members vals (name :: seen) := by
  simp only [Slots.fill, Slots.of, List.map_map, List.mem_cons]
  refine List.map_congr_left fun m _ => ?_
  by_cases h : m.name = name
  · simp [h]
  · simp [h]

theorem Slots.find?_of (vals : String → Json) (seen : List String) {m : Member}
    (hnames : (members.map (·.name)).Nodup) (hm : m ∈ members) :
    (Slots.of members vals seen).find? (·.1.name = m.name) =
      some (m, if m.name ∈ seen then some (vals m.name) else none) := by
  induction members with
  | nil => cases hm
  | cons first members ih =>
      obtain ⟨hfirst, hnames⟩ := List.nodup_cons.mp hnames
      rw [Slots.of, List.map_cons, List.find?_cons]
      rcases List.mem_cons.mp hm with rfl | hm
      · simp
      · have hne : first.name ≠ m.name :=
          fun h => hfirst (List.mem_map.mpr ⟨m, hm, h.symm⟩)
        simp [hne, ← ih hnames hm, Slots.of]

theorem mapM_eq_some_map {α β : Type} {f : α → Option β} {g : α → β} {l : List α}
    (h : ∀ x ∈ l, f x = some (g x)) : l.mapM f = some (l.map g) := by
  induction l with
  | nil => rfl
  | cons x l ih => simp [h x (.head _), ih fun y hy => h y (.tail _ hy)]

theorem Slots.finish_of (h : ∀ m ∈ members, m.name ∈ seen ∨ m.absent = some (vals m.name)) :
    (Slots.of members vals seen).finish =
      .ok (record (members.map fun m => (m.name, vals m.name))) := by
  unfold Slots.finish
  rw [mapM_eq_some_map (g := fun x => (x.1.name, vals x.1.name))]
  · simp [Slots.of]
  · intro x hx
    obtain ⟨m, hm, rfl⟩ := List.mem_map.mp hx
    by_cases hs : m.name ∈ seen
    · simp [hs]
    · simp [hs, (h m hm).resolve_left hs]

theorem skipColon_cons (s : List Symbol) : skipColon (some ':' :: s) = .ok s := by
  unfold skipColon
  rw [skipSpace_cons (by decide)]
  rfl

theorem readMembers_first {slots slots' : Slots} {m : Member} {name : String}
    (hm : slots.find? (·.1.name = name) = some (m, none)) (h : m.read s = .ok (value, r))
    (hr : readMembers fuel false (slots.fill m.name value) r = .ok (slots', rest)) :
    readMembers (fuel + 1) true slots ((quoted name).map some ++ some ':' :: s) =
      .ok (slots', rest) := by
  have hname := readString_escaped name.toList (some ':' :: s)
  simp only [quoted, List.map_cons, List.map_append, List.map_nil, List.cons_append,
    List.append_assoc, List.nil_append]
  rw [readMembers, skipSpace_cons (by decide)]
  simp [hname, hm, skipColon_cons, h, hr]

theorem readMembers_next {slots slots' : Slots} {m : Member} {name : String}
    (hm : slots.find? (·.1.name = name) = some (m, none)) (h : m.read s = .ok (value, r))
    (hr : readMembers fuel false (slots.fill m.name value) r = .ok (slots', rest)) :
    readMembers (fuel + 1) false slots (some ',' :: ((quoted name).map some ++ some ':' :: s)) =
      .ok (slots', rest) := by
  have hname := readString_escaped name.toList (some ':' :: s)
  simp only [quoted, List.map_cons, List.map_append, List.map_nil, List.cons_append,
    List.append_assoc, List.nil_append]
  rw [readMembers, skipSpace_cons (by decide)]
  simp [skipSpace_cons (show isSpace (some '"') = false by decide), hname, hm, skipColon_cons, h,
    hr]

/-- A member is read from what stands for it in an object, and null only stands for what may be
absent. -/
structure Member.Finds (m : Member) (vals : String → Json) (written : String × Json) : Prop where
  name : written.1 = m.name
  reads : Reads m.read written.2 (vals m.name)
  absent : written.2 = .null → m.absent = some (vals m.name)

theorem length_le_memberChars (ws : List (String × Json)) :
    ws.length ≤ (memberChars ws).length := by
  induction ws with
  | nil => exact Nat.zero_le _
  | cons w ws ih =>
      obtain ⟨name, value⟩ := w
      simp only [memberChars, List.length_cons, List.length_append, List.cons_append]
      omega

theorem readMembers_rest {ws : List (String × Json)} (hnames : (members.map (·.name)).Nodup)
    (hws : ∀ w ∈ ws, ∃ m ∈ members, m.Finds vals w) (hnew : (ws.map (·.1) ++ seen).Nodup)
    (hfuel : ws.length < fuel) (rest : List Symbol) :
    readMembers fuel false (.of members vals seen)
        ((memberChars ws).map some ++ some '\x7d' :: rest) =
      .ok (.of members vals ((ws.map (·.1)).reverse ++ seen), rest) := by
  -- With each member that is read its name goes over from those to come to those seen.
  induction ws generalizing fuel seen with
  | nil =>
      obtain ⟨fuel, rfl⟩ := Nat.exists_eq_add_one.mpr (Nat.zero_lt_of_lt hfuel)
      rw [memberChars, List.map_nil, List.nil_append, readMembers, skipSpace_cons (by decide)]
      rfl
  | cons w ws ih =>
      obtain ⟨fuel, rfl⟩ := Nat.exists_eq_add_one.mpr (Nat.zero_lt_of_lt hfuel)
      obtain ⟨name, written⟩ := w
      obtain ⟨m, hm, hname, hreads, -⟩ := hws _ (.head _)
      dsimp only at hname hreads
      subst hname
      have hnew' : (ws.map (·.1) ++ m.name :: seen).Nodup := List.perm_middle.nodup_iff.mpr hnew
      have hseen : m.name ∉ seen :=
        fun h => (List.nodup_cons.mp hnew).1 (List.mem_append_right _ h)
      have hfind := Slots.find?_of vals seen hnames hm
      rw [if_neg hseen] at hfind
      have hrest := ih (fun w hw => hws w (.tail _ hw)) hnew' (Nat.lt_of_succ_lt_succ hfuel)
      rw [← Slots.fill_of] at hrest
      simp only [memberChars, List.map_cons, List.map_append, List.cons_append, List.append_assoc]
      rw [readMembers_next hfind (hreads _) hrest]
      simp

theorem readMembers_written {ws : List (String × Json)} (hnames : (members.map (·.name)).Nodup)
    (hws : ∀ w ∈ ws, ∃ m ∈ members, m.Finds vals w) (hnew : (ws.map (·.1)).Nodup)
    (rest : List Symbol) :
    ∃ s, (record ws).chars.map some ++ rest = some '\x7b' :: s ∧
      readMembers (s.length + 1) true (.empty members) s =
        .ok (.of members vals (ws.map (·.1)).reverse, rest) := by
  rw [Slots.empty_eq members vals]
  cases ws with
  | nil =>
      refine ⟨some '\x7d' :: rest, rfl, ?_⟩
      rw [readMembers, skipSpace_cons (by decide)]
      rfl
  | cons w ws =>
      obtain ⟨name, written⟩ := w
      obtain ⟨m, hm, hname, hreads, -⟩ := hws _ (.head _)
      dsimp only at hname hreads
      subst hname
      have hnew' : (ws.map (·.1) ++ [m.name]).Nodup :=
        List.perm_middle.nodup_iff.mpr (by simpa using hnew)
      have hfind := Slots.find?_of vals [] hnames hm
      have hlength := length_le_memberChars ws
      simp only [chars, List.map_cons, List.map_append, List.cons_append, List.append_assoc,
        List.map_nil, List.nil_append]
      refine ⟨_, rfl, ?_⟩
      rw [readMembers_first hfind (hreads _)]
      · rw [Slots.fill_of, readMembers_rest hnames (fun w hw => hws w (.tail _ hw)) hnew']
        · simp
        · simp only [List.length_append, List.length_map, List.length_cons]
          omega

/-- The record of these members, written in any order. Members that are null may be missing. -/
def Spells (fields : List (String × Json)) (j : Json) : Prop :=
  ∃ written missing, j = record written ∧ (written ++ missing).Perm fields ∧
    ∀ field ∈ missing, field.2 = null

theorem exists_of_mem_left {α β : Type} {R : α → β → Prop} {l : List α} {l' : List β}
    (h : List.Forall₂ R l l') {x : α} (hx : x ∈ l) : ∃ y ∈ l', R x y := by
  induction h with
  | nil => cases hx
  | @cons a b l l' hab _ ih =>
      rcases List.mem_cons.mp hx with rfl | hx
      · exact ⟨b, .head _, hab⟩
      · obtain ⟨y, hy, hxy⟩ := ih hx
        exact ⟨y, .tail _ hy, hxy⟩

theorem names_eq {fields : List (String × Json)}
    (h : List.Forall₂ (Member.Finds · vals ·) members fields) :
    fields.map (·.1) = members.map (·.name) := by
  induction h with
  | nil => rfl
  | cons h _ ih => rw [List.map_cons, List.map_cons, h.name, ih]

theorem reads_record {fields : List (String × Json)} (hnames : (members.map (·.name)).Nodup)
    (h : List.Forall₂ (Member.Finds · vals ·) members fields) (hj : Spells fields j) :
    Reads (readRecord members) j (record (members.map fun m => (m.name, vals m.name))) := by
  obtain ⟨ws, missing, rfl, hperm, hmissing⟩ := hj
  have hws : ∀ w ∈ ws, ∃ m ∈ members, m.Finds vals w := fun w hw =>
    exists_of_mem_left (List.Forall₂.flip (R := flip (Member.Finds · vals ·)) h)
      (hperm.subset (List.mem_append_left _ hw))
  have hnew : (ws.map (·.1)).Nodup := by
    have hall : ((ws ++ missing).map (·.1)).Nodup :=
      (hperm.map (·.1)).nodup_iff.mpr (names_eq h ▸ hnames)
    rw [List.map_append] at hall
    exact hall.sublist (List.sublist_append_left ..)
  have hfinish : (Slots.of members vals (ws.map (·.1)).reverse).finish =
      .ok (record (members.map fun m => (m.name, vals m.name))) := by
    refine Slots.finish_of fun m hm => ?_
    obtain ⟨w, hw, hname, -, habsent⟩ := exists_of_mem_left h hm
    rcases List.mem_append.mp (hperm.mem_iff.mpr hw) with hw | hw
    · exact .inl (List.mem_reverse.mpr (hname ▸ List.mem_map_of_mem hw))
    · exact .inr (habsent (hmissing w hw))
  intro rest
  obtain ⟨s, hs, hread⟩ := readMembers_written hnames hws hnew rest
  rw [hs]
  unfold readRecord
  rw [skipSpace_cons (by decide)]
  simp [hread, hfinish]

end Codewright.Json
