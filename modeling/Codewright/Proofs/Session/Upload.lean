import Codewright.Proofs.Session.Snapshot
import Codewright.Proofs.Workspace.Listing
import Codewright.Proofs.Workspace.Zip

/-!
# Snapshots and uploads

A snapshot is taken of all files of a workspace or of none: they must not be too large together, and
no two of them may have one name. Without a snapshot nothing is asked of the service. With one, the
service is asked for a place and then, if there is one, the archive is transferred to it; both calls
carry the checksum of that archive.
-/

namespace Codewright.Workspace

variable {format : ArchiveFormat} {fs : FileSystem} {root : Path} {maxSizeBytes : Nat}
  {files : List WorkspaceFile}

/-- A file as it is packed. -/
def WorkspaceFile.packed (f : WorkspaceFile) : String × ByteArray :=
  (f.relativePath, f.content)

theorem WorkspaceFile.totalSize_eq_sum (files : List WorkspaceFile) :
    totalSize files = (files.map (·.content.size)).sum := by
  induction files with
  | nil => rfl
  | cons f files ih =>
      rw [List.map_cons, List.sum_cons, ← ih]
      rfl

namespace Snapshot

theorem take_of_error {e : IoError} (h : WorkspaceFile.list fs root true = .error e) :
    take format fs root maxSizeBytes = .error (.prepareRepoFailed e) := by
  rw [take, h]

/-- The size of a listing is looked at before its files are packed. -/
theorem take_of_large (h : WorkspaceFile.list fs root true = .ok files)
    (hsize : maxSizeBytes < (files.map (·.content.size)).sum) :
    take format fs root maxSizeBytes =
      .error (.contentLength (files.map (·.content.size)).sum maxSizeBytes) := by
  rw [← WorkspaceFile.totalSize_eq_sum] at hsize ⊢
  rw [take, h]
  exact if_pos hsize

theorem take_of_small (h : WorkspaceFile.list fs root true = .ok files)
    (hsize : (files.map (·.content.size)).sum ≤ maxSizeBytes) :
    take format fs root maxSizeBytes =
      match format.pack (files.map (·.packed)) with
      | .error e => .error (.prepareRepoFailed e)
      | .ok archive => .ok ⟨archive, (files.map (·.content.size)).sum, files.length⟩ := by
  rw [← WorkspaceFile.totalSize_eq_sum] at hsize ⊢
  rw [take, h]
  exact if_neg (Nat.not_lt.mpr hsize)

/-- A snapshot is an archive of all the files of a listing. -/
theorem take_eq_ok_iff {s : Snapshot} :
    take format fs root maxSizeBytes = .ok s ↔
      ∃ files, WorkspaceFile.list fs root true = .ok files ∧
        (files.map (·.content.size)).sum ≤ maxSizeBytes ∧
        format.pack (files.map (·.packed)) = .ok s.archive ∧
        s.totalBytes = (files.map (·.content.size)).sum ∧ s.fileCount = files.length := by
  constructor
  · intro h
    cases hlist : WorkspaceFile.list fs root true with
    | error e => cases (take_of_error hlist).symm.trans h
    | ok files =>
        rcases Nat.lt_or_ge maxSizeBytes (files.map (·.content.size)).sum with hlarge | hsize
        · cases (take_of_large hlist hlarge).symm.trans h
        · rw [take_of_small hlist hsize] at h
          cases hpack : format.pack (files.map (·.packed)) with
          | error e => simp [hpack] at h
          | ok archive =>
              rw [hpack] at h
              obtain rfl := Except.ok.inj h
              exact ⟨files, rfl, hsize, hpack, rfl, rfl⟩
  · rintro ⟨files, hlist, hsize, hpack, htotal, hcount⟩
    rw [take_of_small hlist hsize, hpack]
    obtain ⟨archive, total, count⟩ := s
    obtain rfl : total = _ := htotal
    obtain rfl : count = _ := hcount
    rfl

end Snapshot

/-- A workspace with two files whose names are no text. As text they have the same name. -/
def twinFs : FileSystem :=
  .ofList [] [([[0xFE]], .file "A".toUTF8), ([[0xFF]], .file "B".toUTF8)]

theorem WorkspaceFile.list_twinFs :
    list twinFs ⟨[slash], []⟩ true =
      .ok [⟨"\uFFFD", ⟨[slash], [[0xFE]]⟩, "A".toUTF8⟩,
        ⟨"\uFFFD", ⟨[slash], [[0xFF]]⟩, "B".toUTF8⟩] := by
  cbv

end Codewright.Workspace

namespace Codewright.Session

open Service (Call UploadSlot)
open Transcript (slotRequest transfer)
open Workspace (Snapshot WorkspaceFile Zip.format Zip.keeps checksumOf slash twinFs)
open Workspace.WorkspaceFile (keptFs list_keptFs list_twinFs)

variable {σ : Type} {env : Environment σ} {c : Context} {w : World σ} {s : Snapshot}

/-- A call passes the answer of the environment on, and logs it. -/
theorem call_served (env : Environment σ) (c : Call) (wrap : Service.Error → Error) (w : World σ) :
    ∃ w₁, exec (Action.call env c wrap) w = ((env.serve w.outside c).result.mapError wrap, w₁) ∧
      w₁.outside = (env.serve w.outside c).outside ∧
      w₁.log = .call c (env.serve w.outside c).result :: w.log :=
  ⟨_, exec_call env c wrap w, rfl, rfl⟩

theorem exec_uploadSnapshot_of_refused {e : Service.Error}
    (hplace : (env.serve w.outside (slotRequest c s)).result = .error e) :
    (exec (uploadSnapshot env c s) w).1 = .error (.serverSide .upload e) ∧
      (exec (uploadSnapshot env c s) w).2.log = .call (slotRequest c s) (.error e) :: w.log := by
  obtain ⟨w₁, hcall, -, hlog⟩ := call_served env (slotRequest c s) (.serverSide .upload) w
  rw [hplace] at hcall hlog
  rw [uploadSnapshot, exec_bind, hcall]
  exact ⟨rfl, hlog⟩

theorem exec_uploadSnapshot_of_place {slot : UploadSlot}
    (hplace : (env.serve w.outside (slotRequest c s)).result = .ok slot) :
    let sent := (env.serve (env.serve w.outside (slotRequest c s)).outside (transfer slot s)).result
    (exec (uploadSnapshot env c s) w).1 = (sent.map fun _ => slot.id).mapError .uploadCode ∧
      (exec (uploadSnapshot env c s) w).2.log =
        .call (transfer slot s) sent :: .call (slotRequest c s) (.ok slot) :: w.log := by
  intro sent
  obtain ⟨w₁, hcall, houtside, hlog⟩ := call_served env (slotRequest c s) (.serverSide .upload) w
  obtain ⟨w₂, hcall₂, -, hlog₂⟩ := call_served env (transfer slot s) .uploadCode w₁
  have hsent : (env.serve w₁.outside (transfer slot s)).result = sent := by
    rw [houtside]
  rw [hplace] at hcall hlog
  rw [hsent] at hcall₂ hlog₂
  rw [uploadSnapshot, exec_bind, hcall]
  dsimp only [Except.mapError]
  rw [exec_bind, hcall₂, ← hlog, ← hlog₂]
  cases sent <;> exact ⟨rfl, rfl⟩

/-- What an upload asks of the service and what comes of it, in a format that keeps the files of the
workspace. A snapshot is taken of all files that are listed or of none. -/
theorem uploadWorkspace_transfers (env : Environment σ) (c : Context) (w : World σ)
    (hformat : ∀ files, WorkspaceFile.list w.files c.root true = .ok files →
      env.format.Keeps (files.map (·.packed))) :
    let listing := WorkspaceFile.list w.files c.root true
    let size (files : List WorkspaceFile) := (files.map (·.content.size)).sum
    let snapshot := Snapshot.take env.format w.files c.root c.maxRepoSizeBytes
    let r := exec (uploadWorkspace env c) w
    ((∃ s, snapshot = .ok s) ↔ ∃ files, listing = .ok files ∧
      size files ≤ c.maxRepoSizeBytes ∧ (files.map (·.relativePath)).Nodup) ∧
    (∀ files, listing = .ok files → c.maxRepoSizeBytes < size files →
      snapshot = .error (.contentLength (size files) c.maxRepoSizeBytes)) ∧
    (∀ s, snapshot = .ok s → ∃ files, listing = .ok files ∧
      env.format.unpack s.archive = some (files.map (·.packed)) ∧
      s.totalBytes = size files ∧ s.fileCount = files.length) ∧
    (∀ e, snapshot = .error e → r.1 = .error e ∧ r.2.log = w.log) ∧
    ∀ s, snapshot = .ok s →
      let checksum := checksumOf s.archive
      let request : Call := .createUploadUrl c.conversationId checksum
      let transfer (slot : UploadSlot) : Call :=
        .upload slot.url s.archive checksum slot.kmsKeyArn
      let place := env.serve w.outside request
      let sent slot := (env.serve place.outside (transfer slot)).result
      (∀ e, place.result = .error e →
        r.1 = .error (.serverSide .upload e) ∧
        r.2.log = .call request (.error e) :: w.log) ∧
      (∀ slot, place.result = .ok slot →
        r.1 = ((sent slot).map fun _ => slot.id).mapError .uploadCode ∧
        r.2.log = .call (transfer slot) (sent slot) :: .call request (.ok slot) :: w.log) ∧
      ∀ id, r.1 = .ok id ↔
        ∃ slot, place.result = .ok slot ∧ sent slot = .ok () ∧ slot.id = id := by
  intro listing size snapshot r
  have hnames (files : List WorkspaceFile) :
      (files.map (·.packed)).map (·.1) = files.map (·.relativePath) := List.map_map
  refine ⟨?_, ?_, ?_, ?_, ?_⟩
  · constructor
    · rintro ⟨s, hs⟩
      obtain ⟨files, hlist, hsize, hpack, -⟩ := Snapshot.take_eq_ok_iff.mp hs
      have hdistinct := (hformat files hlist).packs_iff.mp ⟨s.archive, hpack⟩
      exact ⟨files, hlist, hsize, hnames files ▸ hdistinct⟩
    · rintro ⟨files, hlist, hsize, hdistinct⟩
      rw [← hnames] at hdistinct
      obtain ⟨archive, hpack⟩ := (hformat files hlist).packs_iff.mpr hdistinct
      exact ⟨⟨archive, size files, files.length⟩,
        Snapshot.take_eq_ok_iff.mpr ⟨files, hlist, hsize, hpack, rfl, rfl⟩⟩
  · intro files hlist hsize
    exact Snapshot.take_of_large hlist hsize
  · intro s hs
    obtain ⟨files, hlist, -, hpack, htotal, hcount⟩ := Snapshot.take_eq_ok_iff.mp hs
    exact ⟨files, hlist, (hformat files hlist).unpack_pack s.archive hpack, htotal, hcount⟩
  · intro e he
    have hr : r = (.error e, w) := exec_uploadWorkspace_of_error he
    rw [hr]
    exact ⟨rfl, rfl⟩
  · intro s hs checksum request transfer place sent
    have hr : r = exec (uploadSnapshot env c s) w := exec_uploadWorkspace_of_ok hs
    rw [hr]
    refine ⟨fun e he => exec_uploadSnapshot_of_refused he,
      fun slot hslot => exec_uploadSnapshot_of_place hslot, fun id => ?_⟩
    cases hplace : place.result with
    | error e =>
        rw [(exec_uploadSnapshot_of_refused hplace).1]
        simp
    | ok slot =>
        have hdone : (exec (uploadSnapshot env c s) w).1 =
            ((sent slot).map fun _ => slot.id).mapError .uploadCode :=
          (exec_uploadSnapshot_of_place hplace).1
        rw [hdone]
        cases hsent : sent slot with
        | error e => simp [Except.map, Except.mapError, hsent]
        | ok answer =>
            have hunit : answer = () := rfl
            simp [Except.map, Except.mapError, hsent, hunit]

/-- The format keeps what is listed here. -/
theorem keeps_kept (files : List WorkspaceFile)
    (h : WorkspaceFile.list keptFs ⟨[slash], []⟩ true = .ok files) :
    Zip.format.Keeps (files.map (·.packed)) := by
  obtain rfl := Except.ok.inj (list_keptFs.symm.trans h)
  exact Zip.keeps (by decide +kernel)

theorem keeps_twins (files : List WorkspaceFile)
    (h : WorkspaceFile.list twinFs ⟨[slash], []⟩ true = .ok files) :
    Zip.format.Keeps (files.map (·.packed)) := by
  obtain rfl := Except.ok.inj (list_twinFs.symm.trans h)
  exact Zip.keeps (by decide +kernel)

theorem uploadWorkspace_transfers_kept :
    let env := obliging (.ok "job") ⟨[], []⟩
    let c : Context :=
      { conversationId := "conversation", root := ⟨[slash], []⟩, maxRepoSizeBytes := 1 }
    let kept : World Unit := { outside := (), files := keptFs }
    let twins : World Unit := { outside := (), files := twinFs }
    (∃ s, Snapshot.take Zip.format keptFs c.root 1 = .ok s ∧
        Zip.format.unpack s.archive = some [(".env", "S".toUTF8)]) ∧
      (exec (uploadWorkspace env c) kept).1 = .ok "place" ∧
      (exec (uploadWorkspace env c) kept).2.log.length = 2 ∧
      (exec (uploadWorkspace env c) twins).1 = .error (.contentLength 2 1) ∧
      (exec (uploadWorkspace env c) twins).2.log = [] ∧
      ∀ limit, ¬∃ s, Snapshot.take Zip.format twinFs c.root limit = .ok s := by
  intro env c kept twins
  obtain ⟨htaken, -, hfiles, -, hcalls⟩ := uploadWorkspace_transfers env c kept keeps_kept
  obtain ⟨-, hlarge, -, hfailed, -⟩ := uploadWorkspace_transfers env c twins keeps_twins
  obtain ⟨s, hs⟩ := htaken.mpr ⟨_, list_keptFs, by decide +kernel, List.pairwise_singleton ..⟩
  obtain ⟨files, hlist, hentries, -⟩ := hfiles s hs
  obtain rfl := Except.ok.inj (list_keptFs.symm.trans hlist)
  obtain ⟨-, hplace, hdone⟩ := hcalls s hs
  obtain ⟨-, hlog⟩ := hplace ⟨"slot", "place", none⟩ rfl
  obtain ⟨herror, hnone⟩ := hfailed _ (hlarge _ list_twinFs (by decide +kernel))
  refine ⟨⟨s, hs, hentries⟩, (hdone "place").mpr ⟨⟨"slot", "place", none⟩, rfl, rfl, rfl⟩,
    congrArg List.length hlog, herror, hnone, fun limit hsome => ?_⟩
  obtain ⟨htwins, -⟩ :=
    uploadWorkspace_transfers env { c with maxRepoSizeBytes := limit } twins keeps_twins
  obtain ⟨files, hlist, -, hnames⟩ := htwins.mp hsome
  obtain rfl := Except.ok.inj (list_twinFs.symm.trans hlist)
  exact absurd hnames (by decide +kernel)

end Codewright.Session
