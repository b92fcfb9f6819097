import Codewright.Staging

/-!
# Reading staged files

What is read at an address is the last thing that was staged there.
-/

namespace Codewright.Staging

/-- What is read when the files of a round lie over what is read otherwise: of the files at an
address the last one counts. -/
def overlay (uploadId : String) (round : List Service.GeneratedFile)
    (read : Uri → Option ByteArray) (u : Uri) : Option ByteArray :=
  match round.reverse.find? fun f => Uri.ofFile uploadId f.path = u with
  | some f => some f.content.toUTF8
  | none => read u

namespace Store

theorem lookup_cons (u v : Uri) (content : ByteArray) (rest : List (Uri × ByteArray)) :
    ((u, content) :: rest).lookup v = if v = u then some content else rest.lookup v := by
  by_cases h : v = u
  · simp [h]
  · rw [List.lookup_cons, beq_false_of_ne h, if_neg h]

theorem lookup_insertInto (u v : Uri) (content : ByteArray) (files : List (Uri × ByteArray)) :
    (insertInto u content files).lookup v = if v = u then some content else files.lookup v := by
  induction files with
  | nil => exact lookup_cons u v content []
  | cons file rest ih =>
      obtain ⟨name, old⟩ := file
      simp only [insertInto]
      split
      · rename_i hu
        subst hu
        rw [lookup_cons, lookup_cons]
        split <;> rfl
      · rename_i hu
        split
        · exact lookup_cons u v content _
        · rw [lookup_cons, lookup_cons, ih]
          by_cases h : v = name
          · rw [if_pos h, if_pos h, if_neg fun hv => hu (hv.symm.trans h)]
          · rw [if_neg h, if_neg h]

@[simp] theorem read_register (s : Store) (u v : Uri) (content : ByteArray) :
    (s.register u content).read v = if v = u then some content else s.read v :=
  lookup_insertInto u v content s.files

/-- The last of the files that were staged at an address is read there. -/
theorem read_registerAll (s : Store) (files : List StagedFile) (u : Uri) :
    (s.registerAll files).read u =
      ((files.reverse.find? fun f => f.uri = u).map fun f => f.content.toUTF8).or (s.read u) := by
  induction files generalizing s with
  | nil => rfl
  | cons f files ih =>
      rw [registerAll, List.foldl_cons, ← registerAll, ih, registerStaged, read_register,
        List.reverse_cons, List.find?_append]
      cases files.reverse.find? fun f => f.uri = u with
      | some last => rfl
      | none => by_cases h : u = f.uri <;> simp [h, eq_comm]

/-- Staging a round lays its files over those that were staged before. -/
theorem read_registerAll_ofGenerated (s : Store) (uploadId : String)
    (round : List Service.GeneratedFile) :
    (s.registerAll (round.map (StagedFile.ofGenerated uploadId))).read =
      overlay uploadId round s.read := by
  funext u
  rw [read_registerAll, ← List.map_reverse, List.find?_map, overlay]
  change (((round.reverse.find? fun f => Uri.ofFile uploadId f.path = u).map _).map _).or _ = _
  cases round.reverse.find? fun f => Uri.ofFile uploadId f.path = u with
  | none | some => rfl

end Store

end Codewright.Staging
