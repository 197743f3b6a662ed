import Blackcell.Kernel.Artifacts

/-!
# The accounts of the artifact store

A call of `put_bytes` writes a file and a row, in that order and not at once, and can fail or be cut
off between any two of its operations. A file without a row is found and used by the next call for
its bytes; a row without its file would be found by whoever reads it. The accounts say that there is
none: every row, committed or in the open transaction, has its blob, and together they are within
the quota. Each operation keeps the accounts, whether it succeeds or fails, so every sequence of
calls does.

## Main definitions

* `HasBlob` : the file at the path of a digest has this digest and a size.
* `Accounted` : what holds of the rows.
* `Artifacts.Exact`, `Artifacts.Extends` : the accounts of a store, and that no row is lost.
* `Artifacts.Unchanged` : nothing has changed, but for an open transaction.

## Main results

* `writeOnce_spec` : the blob is there in whole when `_write_once` returns.
* `putBytes_spec`, `putBytes_stored_spec` : calls, and calls for stored bytes.
* `getBytes_spec` : what is read.
* `serve_spec` : sequences of calls.
* `artifacts_exact` : the accounts are exact.
-/

namespace Blackcell.Kernel

open Faulty

variable {H : Host} {D : BytesDigest}

/-! ### Paths -/

/-- The path of a temporary file: its name begins with a dot. -/
def IsTemporary (path : List String) : Prop := ∃ parents name, path = parents ++ ["." ++ name]

theorem isTemporary_temporaryPath (path : List String) (uuid : String) :
    IsTemporary (temporaryPath path uuid) :=
  ⟨path.dropLast, path.getLastD "" ++ "." ++ uuid ++ ".tmp", by
    simp only [temporaryPath, temporaryName, String.append_assoc]⟩

/-- The digits of a digest. -/
theorem withoutDigestPrefix_bytesDigest (data : ByteArray) :
    withoutDigestPrefix (D.bytesDigest data) = D.hexdigest data :=
  withoutDigestPrefix_append _

/-- The path of a blob is not that of a temporary file. -/
theorem not_isTemporary_blobPath (data : ByteArray) :
    ¬IsTemporary (blobPath (D.bytesDigest data)) := by
  rintro ⟨parents, name, h⟩
  have hlast := congrArg List.getLast? h
  simp only [blobPath, withoutDigestPrefix_bytesDigest, List.getLast?_append,
    List.getLast?_singleton, Option.some_or] at hlast
  have hname : D.hexdigest data = "." ++ name := by simpa using hlast
  have hhex := D.isHex_hexdigest data
  rw [hname, isHex_iff] at hhex
  have hdot := hhex.2 '.' (by simp)
  exact absurd hdot (by decide)

/-- Digests with one path are equal. -/
theorem blobPath_inj {data data' : ByteArray}
    (h : blobPath (D.bytesDigest data) = blobPath (D.bytesDigest data')) :
    D.bytesDigest data = D.bytesDigest data' := by
  have hlast := congrArg List.getLast? h
  simp only [blobPath, withoutDigestPrefix_bytesDigest] at hlast
  rw [BytesDigest.bytesDigest, BytesDigest.bytesDigest, show D.hexdigest data = D.hexdigest data' by
    simpa using hlast]

/-- The digests of the store are valid. -/
theorem relativePath_bytesDigest (data : ByteArray) :
    relativePath H (D.bytesDigest data) = .ok (blobPath (D.bytesDigest data)) := by
  have hhex := D.isHex_hexdigest data
  have hlength : (D.hexdigest data).length = 64 := (isHex_iff.mp hhex).1
  have hvalid : validateDigest H (D.bytesDigest data) = .ok ⟨⟩ := by
    rw [validateDigest, withoutDigestPrefix_bytesDigest, Checked.require_eq_ok]
    exact ⟨hasDigestPrefix_append _, hlength, H.parsesBase16_of_isHex 64 _ (by omega) hhex⟩
  rw [relativePath, hvalid]
  rfl

/-! ### The accounts -/

/-- Every file is a blob of bytes that were put, or temporary. -/
def HoldsBlobs (D : BytesDigest) (put : ByteArray → Prop) (files : Blobs) : Prop :=
  ∀ path data, files path = some data →
    IsTemporary path ∨ (put data ∧ path = blobPath (D.bytesDigest data))

/-- The file at the path of the digest has this digest and this size. -/
def HasBlob (D : BytesDigest) (files : Blobs) (digest : String) (size : ℕ) : Prop :=
  ∃ data, files (blobPath digest) = some data ∧ D.bytesDigest data = digest ∧ data.size = size

/-- The rows are within the quota, name different blobs, can be read, and each has its blob. -/
structure Accounted (H : Host) (D : BytesDigest) (store : ArtifactStore) (files : Blobs)
    (rows : List ArtifactRow) : Prop where
  quota : ∀ n ∈ store.maxTotalBytes, totalBytes rows ≤ n
  blob : ∀ row ∈ rows, HasBlob D files row.digest row.sizeBytes
  readable : ∀ row ∈ rows, ∃ reference, row.reference H = .ok reference
  nodup : (rows.map (·.digest)).Nodup

/-- The committed rows and those of the open transaction are accounted for, and the transaction only
adds rows. -/
structure Artifacts.Exact (H : Host) (D : BytesDigest) (store : ArtifactStore)
    (put : ByteArray → Prop) (s : Artifacts) : Prop where
  files : HoldsBlobs D put s.files
  rows : Accounted H D store s.files s.rows
  visible : Accounted H D store s.files s.visible
  isPrefix : s.rows <+: s.visible

variable {store : ArtifactStore} {put : ByteArray → Prop} {s t : Artifacts} {files : Blobs}
  {path : List String} {data : ByteArray} {faults : Faults}

/-- The path of a blob is not that of a temporary file. -/
theorem HasBlob.not_isTemporary {digest : String} {size : ℕ} (h : HasBlob D files digest size) :
    ¬IsTemporary (blobPath digest) := by
  obtain ⟨data, -, rfl, -⟩ := h
  exact not_isTemporary_blobPath data

/-- A blob that is not written is still there. -/
theorem HasBlob.update {digest : String} {size : ℕ} (h : HasBlob D files digest size)
    (hpath : blobPath digest ≠ path) (content : Option ByteArray) :
    HasBlob D (Function.update files path content) digest size := by
  obtain ⟨data, hdata, hdigest, hsize⟩ := h
  exact ⟨data, by rw [Function.update_of_ne hpath, hdata], hdigest, hsize⟩

/-- A temporary file is not a blob. -/
theorem HasBlob.update_temporary {digest : String} {size : ℕ} (h : HasBlob D files digest size)
    (hpath : IsTemporary path) (content : Option ByteArray) :
    HasBlob D (Function.update files path content) digest size :=
  h.update (fun heq ↦ h.not_isTemporary (heq ▸ hpath)) content

theorem HoldsBlobs.update_temporary (h : HoldsBlobs D put files) (hpath : IsTemporary path)
    (content : Option ByteArray) : HoldsBlobs D put (Function.update files path content) := by
  intro path' data hdata
  by_cases heq : path' = path
  · exact .inl (heq ▸ hpath)
  · rw [Function.update_of_ne heq] at hdata
    exact h path' data hdata

/-- A new blob of bytes that were put. -/
theorem HoldsBlobs.update_blob (h : HoldsBlobs D put files) (hput : put data) :
    HoldsBlobs D put
      (Function.update files (blobPath (D.bytesDigest data)) (some data)) := by
  intro path' data' hdata
  by_cases heq : path' = blobPath (D.bytesDigest data)
  · rw [heq, Function.update_self, Option.some.injEq] at hdata
    exact .inr ⟨hdata ▸ hput, by rw [heq, hdata]⟩
  · rw [Function.update_of_ne heq] at hdata
    exact h path' data' hdata

theorem Accounted.update {rows : List ArtifactRow} (h : Accounted H D store files rows)
    (hpath : ∀ digest size, HasBlob D files digest size → blobPath digest ≠ path)
    (content : Option ByteArray) :
    Accounted H D store (Function.update files path content) rows where
  quota := h.quota
  blob row hrow := (h.blob row hrow).update (hpath _ _ (h.blob row hrow)) content
  readable := h.readable
  nodup := h.nodup

/-- **A new row.** It is within the quota, its digest is new, and its blob is there. -/
theorem Accounted.append {rows : List ArtifactRow} (h : Accounted H D store files rows)
    {row : ArtifactRow} (hquota : ∀ n ∈ store.maxTotalBytes, totalBytes rows + row.sizeBytes ≤ n)
    (hblob : HasBlob D files row.digest row.sizeBytes)
    (hreadable : ∃ reference, row.reference H = .ok reference)
    (hnew : ∀ old ∈ rows, old.digest ≠ row.digest) :
    Accounted H D store files (rows ++ [row]) where
  quota n hn := by
    simpa [totalBytes] using hquota n hn
  blob old hold := by
    rcases List.mem_append.mp hold with hold | hold
    · exact h.blob old hold
    · rw [List.mem_singleton.mp hold]
      exact hblob
  readable old hold := by
    rcases List.mem_append.mp hold with hold | hold
    · exact h.readable old hold
    · rw [List.mem_singleton.mp hold]
      exact hreadable
  nodup := by
    rw [List.map_append, List.nodup_append]
    refine ⟨h.nodup, List.nodup_singleton _, ?_⟩
    intro digest hdigest digest' hdigest'
    obtain ⟨old, hold, rfl⟩ := List.mem_map.mp hdigest
    rw [List.map_singleton, List.mem_singleton] at hdigest'
    exact hdigest' ▸ hnew old hold

namespace Artifacts.Exact

/-- The new store. -/
theorem initial : Artifacts.initial.Exact H D store put where
  files _ _ h := by cases h
  rows := ⟨fun _ _ ↦ Nat.zero_le _, nofun, nofun, List.nodup_nil⟩
  visible := ⟨fun _ _ ↦ Nat.zero_le _, nofun, nofun, List.nodup_nil⟩
  isPrefix := List.prefix_rfl

/-- The rows of an open transaction are dropped. -/
theorem disconnect (h : s.Exact H D store put) : s.disconnect.Exact H D store put :=
  ⟨h.files, h.rows, h.rows, List.prefix_rfl⟩

/-- A transaction is opened. -/
theorem beginImmediate (h : s.Exact H D store put) :
    Artifacts.Exact H D store put { s with transaction := some s.rows } :=
  ⟨h.files, h.rows, h.rows, List.prefix_rfl⟩

/-- The transaction is committed. -/
theorem commit (h : s.Exact H D store put) :
    Artifacts.Exact H D store put { s with rows := s.visible, transaction := none } :=
  ⟨h.files, h.visible, h.visible, List.prefix_rfl⟩

/-- Files that are no blobs of the rows. -/
theorem withFiles (h : s.Exact H D store put) {content : Option ByteArray}
    (hfiles : HoldsBlobs D put (Function.update s.files path content))
    (hpath : ∀ digest size, HasBlob D s.files digest size → blobPath digest ≠ path) :
    Artifacts.Exact H D store put { s with files := Function.update s.files path content } :=
  ⟨hfiles, h.rows.update hpath content, h.visible.update hpath content, h.isPrefix⟩

/-- A temporary file. -/
theorem withTemporary (h : s.Exact H D store put) (hpath : IsTemporary path)
    (content : Option ByteArray) :
    Artifacts.Exact H D store put { s with files := Function.update s.files path content } :=
  h.withFiles (h.files.update_temporary hpath content)
    fun _ _ hblob heq ↦ hblob.not_isTemporary (heq ▸ hpath)

/-- A blob that was missing. -/
theorem withBlob (h : s.Exact H D store put) (hput : put data)
    (hmissing : s.files (blobPath (D.bytesDigest data)) = none) :
    Artifacts.Exact H D store put
      { s with files := Function.update s.files (blobPath (D.bytesDigest data)) (some data) } := by
  refine h.withFiles (h.files.update_blob hput) ?_
  rintro digest size ⟨data', hdata', -⟩ heq
  rw [heq, hmissing] at hdata'
  cases hdata'

end Artifacts.Exact

/-! ### The methods keep the accounts -/

/-- The postconditions of a part of a method, whatever its failures. -/
abbrev Guards {α : Type} (faults : Faults) (J : Artifacts → Prop) (p : StoreProg α)
    (Q : Except ArtifactError α → Artifacts → Prop) (s : Artifacts) : Prop :=
  Withstands ArtifactOp.perform ArtifactOp.leave faults J p Q s

/-- A file that is there is renamed. -/
theorem perform_replace {source : List String} (target : List String)
    (h : s.files source = some data) : ArtifactOp.perform (.replace source target) s =
      (.ok ⟨⟩, { s with
        files := Function.update (Function.update s.files target (some data)) source none }) := by
  simp only [ArtifactOp.perform, h]

/-- An operation that only reads, followed by more. -/
theorem guards_read_bind {α : Type} {J E : Artifacts → Prop} {G : α → Artifacts → Prop}
    {o : ArtifactOp} {f : o.Val → StoreProg α} (hJ : J s) (hE : E s) (hread : (o.perform s).2 = s)
    (hleave : ∀ left, o.leave left s = s)
    (hok : ∀ a, (o.perform s).1 = .ok a → Guards faults J (f a) (Ends G E) s) :
    Guards faults J ((execute o).bind f) (Ends G E) s := by
  refine withstands_act_bind_of_left ⟨hJ, hE⟩ (by rw [hread]; exact ⟨hJ, hE⟩)
    (fun left ↦ by rw [hleave]; exact ⟨hJ, hE⟩) fun a t h ↦ ?_
  obtain rfl : s = t := by rw [← hread, h]
  exact hok a (by rw [h])

/-- The last check of a part of a method. -/
theorem withstands_require {J E : Artifacts → Prop} {G : PUnit → Artifacts → Prop} {p : Prop}
    [Decidable p] {e : ArtifactError} (hJ : J s) (hok : p → G ⟨⟩ s) (herror : ¬p → E s) :
    Guards faults J (.ofExcept (Checked.require p e)) (Ends G E) s := by
  refine withstands_ofExcept hJ ?_
  by_cases h : p
  · rw [Checked.require, if_pos h]
    exact hok h
  · rw [Checked.require, if_neg h]
    exact herror h

/-- A file that is verified is read, and has its digest and its size. -/
theorem verifyPath_spec {J : Artifacts → Prop} (hJ : J s) (path : List String) (digest : String)
    (size : ℕ) : Guards faults J (verifyPath D path digest size) (Ends (fun _ t ↦ t = s ∧
      ∃ data, s.files path = some data ∧ D.bytesDigest data = digest ∧ data.size = size)
      (· = s)) s := by
  refine guards_read_bind hJ rfl rfl (fun _ ↦ rfl) fun found h ↦ ?_
  cases h
  refine withstands_ofExcept_bind hJ (fun data hdata ↦ ?_) fun _ _ ↦ rfl
  have hfound : s.files path = some data := Checked.ofOption_eq_ok.mp hdata
  exact withstands_require hJ (fun h ↦ ⟨rfl, data, hfound, h.2, h.1⟩) fun _ ↦ rfl

/-- A passed check of the quota leaves room. -/
theorem checkQuota_spec {J : Artifacts → Prop} (hJ : J s) (size : ℕ) :
    Guards faults J (store.checkQuota size) (Ends (fun _ t ↦ t = s ∧
      ∀ n ∈ store.maxTotalBytes, totalBytes s.visible + size ≤ n) (· = s)) s := by
  unfold ArtifactStore.checkQuota
  cases hmax : store.maxTotalBytes with
  | none => exact withstands_done hJ ⟨rfl, by simp⟩
  | some maximum =>
    have hsum : ArtifactOp.perform .sumSizes s = if isBound (totalBytes s.visible) then
        (.ok (totalBytes s.visible), s) else (.error .raised, s) := rfl
    have hread : (ArtifactOp.perform .sumSizes s).2 = s := by
      rw [hsum]
      split <;> rfl
    refine guards_read_bind hJ rfl hread (fun _ ↦ rfl) fun (used : ℕ) h ↦ ?_
    have hused : used = totalBytes s.visible := by
      rw [hsum] at h
      split at h
      · exact (Except.ok.inj h).symm
      · cases h
    refine withstands_require hJ (fun hroom ↦ ⟨rfl, ?_⟩) fun _ ↦ rfl
    rintro n ⟨⟩
    exact hused ▸ hroom

/-- The accounts are exact, and no row has been lost. -/
structure Artifacts.Extends (H : Host) (D : BytesDigest) (store : ArtifactStore)
    (put : ByteArray → Prop) (s t : Artifacts) : Prop where
  isExact : t.Exact H D store put
  isPrefix : s.rows <+: t.rows

/-- The database is as it was. -/
def Artifacts.SameRows (s t : Artifacts) : Prop := t.rows = s.rows ∧ t.transaction = s.transaction

variable {s₀ : Artifacts} {uuid : String}

/-- A temporary file. -/
theorem Artifacts.Extends.withTemporary (h : Artifacts.Extends H D store put s₀ s)
    (hpath : IsTemporary path) (content : Option ByteArray) : Artifacts.Extends H D store put s₀
      { s with files := Function.update s.files path content } :=
  ⟨h.isExact.withTemporary hpath content, h.isPrefix⟩

/-- The states in which a blob is missing, and only temporary files are written. -/
structure Missing (H : Host) (D : BytesDigest) (store : ArtifactStore) (put : ByteArray → Prop)
    (s₀ s : Artifacts) (data : ByteArray) (t : Artifacts) : Prop where
  isExtension : s₀.Extends H D store put t
  sameRows : s.SameRows t
  missing : t.files (blobPath (D.bytesDigest data)) = none

theorem Missing.withTemporary (h : Missing H D store put s₀ s data t) (hpath : IsTemporary path)
    (content : Option ByteArray) : Missing H D store put s₀ s data
      { t with files := Function.update t.files path content } where
  isExtension := h.isExtension.withTemporary hpath content
  sameRows := h.sameRows
  missing := by
    have hne : blobPath (D.bytesDigest data) ≠ path :=
      fun heq ↦ not_isTemporary_blobPath data (heq ▸ hpath)
    change Function.update t.files path content _ = none
    rw [Function.update_of_ne hne, h.missing]

/-- The states in which a blob has been written. -/
structure Written (H : Host) (D : BytesDigest) (store : ArtifactStore) (put : ByteArray → Prop)
    (s₀ s : Artifacts) (data : ByteArray) (t : Artifacts) : Prop where
  isExtension : s₀.Extends H D store put t
  sameRows : s.SameRows t
  written : t.files (blobPath (D.bytesDigest data)) = some data

theorem Written.withTemporary (h : Written H D store put s₀ s data t) (hpath : IsTemporary path)
    (content : Option ByteArray) : Written H D store put s₀ s data
      { t with files := Function.update t.files path content } where
  isExtension := h.isExtension.withTemporary hpath content
  sameRows := h.sameRows
  written := by
    have hne : blobPath (D.bytesDigest data) ≠ path :=
      fun heq ↦ not_isTemporary_blobPath data (heq ▸ hpath)
    change Function.update t.files path content _ = some data
    rw [Function.update_of_ne hne, h.written]

/-- **The rename.** The missing blob is there, and the temporary file is not. -/
theorem Missing.rename (h : Missing H D store put s₀ s data t) (hput : put data)
    (hpath : IsTemporary path) :
    Written H D store put s₀ s data { t with
      files := Function.update (Function.update t.files (blobPath (D.bytesDigest data)) (some data))
        path none } := by
  have hblob : Written H D store put s₀ s data
      { t with files := Function.update t.files (blobPath (D.bytesDigest data)) (some data) } :=
    ⟨⟨h.isExtension.isExact.withBlob hput h.missing, h.isExtension.isPrefix⟩, h.sameRows,
      by simp only [Function.update_self]⟩
  exact hblob.withTemporary hpath none

/-- **A new file.** It is written in full or not at all, and whatever fails, no row changes. -/
theorem writeNew_spec (hput : put data) (h : Missing H D store put s₀ s data t) :
    Guards faults (s₀.Extends H D store put) (writeNew (blobPath (D.bytesDigest data)) data uuid)
      (Ends (fun _ ↦ Written H D store put s₀ s data) s.SameRows) t := by
  have htemp := isTemporary_temporaryPath (blobPath (D.bytesDigest data)) uuid
  unfold writeNew
  generalize temporaryPath (blobPath (D.bytesDigest data)) uuid = path at htemp ⊢
  have hbefore : ∀ {u}, Missing H D store put s₀ s data u →
      s₀.Extends H D store put u ∧ s.SameRows u :=
    fun hu ↦ ⟨hu.isExtension, hu.sameRows⟩
  have hafter : ∀ {u}, Written H D store put s₀ s data u →
      s₀.Extends H D store put u ∧ s.SameRows u :=
    fun hu ↦ ⟨hu.isExtension, hu.sameRows⟩
  have hopen : ArtifactOp.perform (.openNew path) t = if (t.files path).isSome then
      (.error .raised, t) else
      (.ok ⟨⟩, { t with files := Function.update t.files path (some ⟨#[]⟩) }) := rfl
  refine Withstands.tryFinally_ends (A := fun _ ↦ Written H D store put s₀ s data)
    (B := s.SameRows) ?_ (fun _ u _ hu ↦ ?_) fun u hu hsame ↦ ?_
  · refine withstands_act_bind_of_left (hbefore h) ?_ (fun _ ↦ hbefore h) fun _ u hu ↦ ?_
    · rw [hopen]
      split
      · exact hbefore h
      · exact hbefore (h.withTemporary htemp _)
    have hu' : Missing H D store put s₀ s data u := by
      rw [hopen] at hu
      split at hu
      · cases hu
      · obtain ⟨-, rfl⟩ := Prod.mk.inj hu
        exact h.withTemporary htemp _
    refine withstands_act_bind_of_left (hbefore hu') (hbefore (hu'.withTemporary htemp _))
      (fun _ ↦ hbefore (hu'.withTemporary htemp _)) fun _ v hv ↦ ?_
    obtain ⟨-, rfl⟩ := Prod.mk.inj hv
    have hwritten := hu'.withTemporary htemp (some data)
    have hreplace : ArtifactOp.perform (.replace path (blobPath (D.bytesDigest data)))
        { u with files := Function.update u.files path (some data) } =
        (.ok ⟨⟩, { u with files := Function.update (Function.update (Function.update u.files path
          (some data)) (blobPath (D.bytesDigest data)) (some data)) path none }) :=
      perform_replace _ (by simp only [Function.update_self])
    refine withstands_act_of_left (hbefore hwritten) ?_ (fun _ ↦ hbefore hwritten) fun _ v hv ↦ ?_
    · rw [hreplace]
      exact hafter (hwritten.rename hput htemp)
    · rw [hreplace] at hv
      obtain ⟨-, rfl⟩ := Prod.mk.inj hv
      exact hwritten.rename hput htemp
  · refine withstands_act_of_left (hafter hu) (hafter (hu.withTemporary htemp none))
      (fun _ ↦ hafter hu) fun _ v hv ↦ ?_
    obtain ⟨-, rfl⟩ := Prod.mk.inj hv
    exact hu.withTemporary htemp none
  · have hcleared := hu.withTemporary htemp none
    refine withstands_act_of_left ⟨hu, hsame⟩ ⟨hcleared, hsame⟩ (fun _ ↦ ⟨hu, hsame⟩)
      fun _ v hv ↦ ?_
    obtain ⟨-, rfl⟩ := Prod.mk.inj hv
    exact hsame

/-- **The blob.** Afterwards it is there, in whole, whoever wrote it. -/
theorem writeOnce_spec (hput : put data) (h : s₀.Extends H D store put s) :
    Guards faults (s₀.Extends H D store put)
      (writeOnce D (blobPath (D.bytesDigest data)) data (D.bytesDigest data) uuid)
      (Ends (fun _ t ↦ s.SameRows t ∧ HasBlob D t.files (D.bytesDigest data) data.size)
        s.SameRows) s := by
  have hsame : s.SameRows s := ⟨rfl, rfl⟩
  refine guards_read_bind h hsame rfl (fun _ ↦ rfl) fun _ _ ↦ ?_
  refine guards_read_bind h hsame rfl (fun _ ↦ rfl) fun (found : Bool) hfound ↦ ?_
  have hexists : (s.files (blobPath (D.bytesDigest data))).isSome = found := Except.ok.inj hfound
  cases found with
  | true =>
    refine (verifyPath_spec h _ _ _).mono fun r t _ hr ↦ ?_
    cases r with
    | ok _ =>
      obtain ⟨rfl, hblob⟩ := hr
      exact ⟨hsame, hblob⟩
    | error _ =>
      cases hr
      exact hsame
  | false =>
    have hmissing : s.files (blobPath (D.bytesDigest data)) = none := by simpa using hexists
    refine (writeNew_spec hput (s := s) ⟨h, hsame, hmissing⟩).mono fun r t _ hr ↦ ?_
    cases r with
    | ok _ => exact ⟨hr.sameRows, data, hr.written, rfl, rfl⟩
    | error _ => exact hr

/-- The transaction is committed. -/
theorem Artifacts.Extends.commit (h : s₀.Extends H D store put s) :
    s₀.Extends H D store put { s with rows := s.visible, transaction := none } :=
  ⟨h.isExact.commit, h.isPrefix.trans h.isExact.isPrefix⟩

/-- The open transaction is dropped. -/
theorem Artifacts.Extends.disconnect (h : s₀.Extends H D store put s) :
    s₀.Extends H D store put s.disconnect :=
  ⟨h.isExact.disconnect, h.isPrefix⟩

/-- A row is inserted if it satisfies the constraints, and else nothing happens. -/
theorem perform_insertRow_cases (row : ArtifactRow) (s : Artifacts) :
    ArtifactOp.perform (.insertRow row) s = (.error .raised, s) ∨
      ArtifactOp.Insertable s.visible row ∧ ∃ t,
        ArtifactOp.perform (.insertRow row) s = (.ok ⟨⟩, t) ∧ t.files = s.files ∧
          t.visible = s.visible ++ [row] ∧ (t.rows = s.rows ∨ t.rows = t.visible) := by
  simp only [ArtifactOp.perform]
  by_cases h : ArtifactOp.Insertable s.visible row
  · rw [if_pos h]
    refine .inr ⟨h, ?_⟩
    cases htransaction : s.transaction with
    | none => exact ⟨_, rfl, rfl, by simp [Artifacts.visible, htransaction], .inr (by
        simp [Artifacts.visible])⟩
    | some rows => exact ⟨_, rfl, rfl, by simp [Artifacts.visible, htransaction], .inl rfl⟩
  · rw [if_neg h]
    exact .inl rfl

/-- **A new row**, whose blob is there, within the quota. -/
theorem Artifacts.Extends.insertRow (h : s₀.Extends H D store put s) (row : ArtifactRow)
    (hquota : ∀ n ∈ store.maxTotalBytes, totalBytes s.visible + row.sizeBytes ≤ n)
    (hblob : HasBlob D s.files row.digest row.sizeBytes)
    (hreadable : ∃ reference, row.reference H = .ok reference)
    (hinsertable : ArtifactOp.Insertable s.visible row) (hfiles : t.files = s.files)
    (hvisible : t.visible = s.visible ++ [row]) (hrows : t.rows = s.rows ∨ t.rows = t.visible) :
    s₀.Extends H D store put t := by
  have haccounted : Accounted H D store t.files t.visible := by
    rw [hfiles, hvisible]
    exact h.isExact.visible.append hquota hblob hreadable fun old hold ↦
      (hinsertable.2.2 old hold).1
  have hprefix : s.rows <+: t.visible :=
    h.isExact.isPrefix.trans (hvisible ▸ List.prefix_append _ _)
  rcases hrows with hrows | hrows
  · exact ⟨⟨hfiles ▸ h.isExact.files, hfiles ▸ hrows ▸ h.isExact.rows, haccounted, hrows ▸ hprefix⟩,
      hrows ▸ h.isPrefix⟩
  · exact ⟨⟨hfiles ▸ h.isExact.files, hrows ▸ haccounted, haccounted, hrows ▸ List.prefix_rfl⟩,
      hrows ▸ h.isPrefix.trans hprefix⟩

/-- What a method that returns a reference has left: a row of the digest that has this reference. -/
def Refers (H : Host) (digest : String) (reference : ArtifactRef) (t : Artifacts) : Prop :=
  ∃ row ∈ t.rows, row.digest = digest ∧ row.reference H = .ok reference

/-- A reference has the digest and the size of its row. -/
theorem reference_spec {row : ArtifactRow} {reference : ArtifactRef}
    (h : row.reference H = .ok reference) :
    reference.digest = row.digest ∧ reference.sizeBytes = row.sizeBytes := by
  simp only [ArtifactRow.reference, Checked.bind_eq_ok, Checked.pure_eq_ok] at h
  obtain ⟨_, -, rfl⟩ := h
  exact ⟨rfl, rfl⟩

/-- A digest that has a row. -/
theorem putStored_spec {row : ArtifactRow} {path : List String} {digest : String}
    (h : s₀.Extends H D store put s) (hrow : row ∈ s.visible) (hdigest : row.digest = digest) :
    Guards faults (s₀.Extends H D store put) (ArtifactStore.putStored H D path digest row)
      (Ends (Refers H digest) fun _ ↦ True) s := by
  refine withstands_ofExcept_bind h (fun reference hreference ↦ ?_) fun _ _ ↦ trivial
  refine (verifyPath_spec h _ _ _).bind_ends (fun _ t ht hverified ↦ ?_) fun _ _ _ ↦ trivial
  obtain ⟨rfl, -⟩ := hverified
  refine withstands_act_bind_of_left ⟨ht, trivial⟩ ⟨ht.commit, trivial⟩ (fun _ ↦ ⟨ht, trivial⟩)
    fun _ u hu ↦ ?_
  obtain ⟨-, rfl⟩ := Prod.mk.inj hu
  exact withstands_done ht.commit ⟨row, hrow, hdigest, hreference⟩

/-- A digest that has no row. -/
theorem putNew_spec {mediaType : String} {encoding : Option String} {now : Timestamp}
    (hput : put data) (hnow : H.fromisoformat (H.isoformat now) = some ⟨now, true⟩)
    (h : s₀.Extends H D store put s) :
    Guards faults (s₀.Extends H D store put)
      (store.putNew H D (blobPath (D.bytesDigest data)) (D.bytesDigest data) data mediaType encoding
        uuid now) (Ends (Refers H (D.bytesDigest data)) fun _ ↦ True) s := by
  refine (checkQuota_spec h _).bind_ends (fun _ t ht hquota ↦ ?_) fun _ _ _ ↦ trivial
  obtain ⟨rfl, hquota⟩ := hquota
  refine (writeOnce_spec hput ht).bind_ends (fun _ u hu hwritten ↦ ?_) fun _ _ _ ↦ trivial
  obtain ⟨⟨hrows, htransaction⟩, hblob⟩ := hwritten
  have hvisible : u.visible = t.visible := by
    rw [Artifacts.visible, Artifacts.visible, hrows, htransaction]
  rw [← hvisible] at hquota
  let row := ArtifactStore.newRow H (blobPath (D.bytesDigest data)) (D.bytesDigest data) data
    mediaType encoding now
  have hreference : row.reference H =
      .ok ⟨D.bytesDigest data, data.size, mediaType, encoding, ⟨now, true⟩⟩ := by
    simp [row, ArtifactRow.reference, ArtifactStore.newRow, hnow, Checked.ofOption, pure,
      Except.pure]
  rcases perform_insertRow_cases row u with hinsert | ⟨hinsertable, v, hinsert, hv⟩
  · refine withstands_act_bind_of_left ⟨hu, trivial⟩ (by rw [hinsert]; exact ⟨hu, trivial⟩)
      (fun _ ↦ ⟨hu, trivial⟩) fun _ w hw ↦ ?_
    rw [hinsert] at hw
    cases hw
  · obtain ⟨hfiles, hadded, hcases⟩ := hv
    have hv : s₀.Extends H D store put v :=
      hu.insertRow row hquota hblob ⟨_, hreference⟩ hinsertable hfiles hadded hcases
    refine withstands_act_bind_of_left ⟨hu, trivial⟩ (by rw [hinsert]; exact ⟨hv, trivial⟩)
      (fun _ ↦ ⟨hu, trivial⟩) fun _ w hw ↦ ?_
    rw [hinsert] at hw
    obtain ⟨-, rfl⟩ := Prod.mk.inj hw
    refine withstands_act_bind_of_left ⟨hv, trivial⟩ ⟨hv.commit, trivial⟩ (fun _ ↦ ⟨hv, trivial⟩)
      fun _ w hw ↦ ?_
    obtain ⟨-, rfl⟩ := Prod.mk.inj hw
    refine withstands_done hv.commit ⟨row, ?_, rfl, hreference⟩
    change row ∈ v.visible
    rw [hadded]
    exact List.mem_append_right _ List.mem_cons_self

/-- The part of `put_bytes` inside the transaction. -/
theorem putRow_spec {mediaType : String} {encoding : Option String} {now : Timestamp}
    (hput : put data) (hnow : H.fromisoformat (H.isoformat now) = some ⟨now, true⟩)
    (h : s₀.Extends H D store put s) :
    Guards faults (s₀.Extends H D store put)
      (store.putRow H D (blobPath (D.bytesDigest data)) (D.bytesDigest data) data mediaType encoding
        uuid now) (Ends (Refers H (D.bytesDigest data)) fun _ ↦ True) s := by
  refine guards_read_bind h trivial rfl (fun _ ↦ rfl) fun (found : Option ArtifactRow) hfound ↦ ?_
  have hfind : s.visible.find? (fun row ↦ decide (row.digest = D.bytesDigest data)) = found :=
    Except.ok.inj hfound
  cases found with
  | none => exact putNew_spec hput hnow h
  | some row =>
    exact putStored_spec h (List.mem_of_find?_eq_some hfind)
      (by simpa using List.find?_some hfind)

/-- A method with a connection. -/
theorem withConnection_spec {α : Type} {J E : Artifacts → Prop} {G : α → Artifacts → Prop}
    {body : StoreProg α} (hJ : J s) (hE : ∀ t, J t → E t) (hdisconnect : ∀ t, J t → J t.disconnect)
    (hG : ∀ a t, G a t → G a t.disconnect) (hbody : Guards faults J body (Ends G E) s) :
    Guards faults J (withConnection body) (Ends G E) s := by
  refine guards_read_bind hJ (hE s hJ) rfl (fun _ ↦ rfl) fun _ _ ↦ ?_
  refine Withstands.tryFinally_ends (A := G) (B := E)
    (guards_read_bind hJ (hE s hJ) rfl (fun _ ↦ rfl) fun _ _ ↦ hbody) (fun a t ht hGt ↦ ?_)
    fun t ht _ ↦ ?_
  · refine withstands_act_of_left ⟨ht, hE t ht⟩ ⟨hdisconnect t ht, hE _ (hdisconnect t ht)⟩
      (fun _ ↦ ⟨ht, hE t ht⟩) fun _ u hu ↦ ?_
    obtain ⟨-, rfl⟩ := Prod.mk.inj hu
    exact hG a t hGt
  · refine withstands_act_of_left ⟨ht, hE t ht⟩ ⟨hdisconnect t ht, hE _ (hdisconnect t ht)⟩
      (fun _ ↦ ⟨ht, hE t ht⟩) fun _ u hu ↦ ?_
    obtain ⟨-, rfl⟩ := Prod.mk.inj hu
    exact hE _ (hdisconnect t ht)

/-- Opening a transaction on a store without one. -/
theorem perform_beginImmediate (h : s.transaction = none) :
    ArtifactOp.perform .beginImmediate s = (.ok ⟨⟩, { s with transaction := some s.rows }) := by
  simp only [ArtifactOp.perform, h]

/-- **`put_bytes`.** Wherever it fails, the accounts stay exact and no row is lost; and a reference
that it returns is that of a row. -/
theorem putBytes_spec {call : PutCall} (hput : put call.data) (hnow : call.ReadsBack H)
    (h : s₀.Extends H D store put s) (hclosed : s.transaction = none) :
    Guards call.faults (s₀.Extends H D store put) (call.program H D store)
      (Ends (Refers H (D.bytesDigest call.data)) fun _ ↦ True) s := by
  refine withstands_ofExcept_bind h (fun _ _ ↦ ?_) fun _ _ ↦ trivial
  refine withstands_ofExcept_bind h (fun path hpath ↦ ?_) fun _ _ ↦ trivial
  obtain rfl := Except.ok.inj ((relativePath_bytesDigest (H := H) call.data).symm.trans hpath)
  refine withConnection_spec h (fun _ _ ↦ trivial) (fun _ ↦ .disconnect) (fun _ _ ↦ id) ?_
  have hbegin := perform_beginImmediate hclosed
  have hopen : s₀.Extends H D store put { s with transaction := some s.rows } :=
    ⟨h.isExact.beginImmediate, h.isPrefix⟩
  refine withstands_act_bind_of_left ⟨h, trivial⟩ (by rw [hbegin]; exact ⟨hopen, trivial⟩)
    (fun _ ↦ ⟨h, trivial⟩) fun _ t ht ↦ ?_
  rw [hbegin] at ht
  obtain ⟨-, rfl⟩ := Prod.mk.inj ht
  refine (putRow_spec hput hnow hopen).onException_ends (fun _ _ _ ↦ trivial) fun u hu _ ↦ ?_
  exact withstands_act_of_left ⟨hu, trivial⟩ ⟨hu.disconnect, trivial⟩ (fun _ ↦ ⟨hu, trivial⟩)
    fun _ _ _ ↦ trivial

/-! ### Stored artifacts -/

/-- Nothing has changed, but for an open transaction. -/
structure Artifacts.Unchanged (s t : Artifacts) : Prop where
  rows : t.rows = s.rows
  visible : t.visible = s.rows
  files : t.files = s.files

theorem Artifacts.Unchanged.refl (h : s.transaction = none) : s.Unchanged s :=
  ⟨rfl, by rw [Artifacts.visible, h, Option.getD_none], rfl⟩

theorem Artifacts.Unchanged.disconnect (h : s.Unchanged t) : s.Unchanged t.disconnect :=
  ⟨h.rows, h.rows, h.files⟩

theorem Artifacts.Unchanged.commit (h : s.Unchanged t) :
    s.Unchanged { t with rows := t.visible, transaction := none } :=
  ⟨h.visible, h.visible, h.files⟩

/-- The row of a digest is found. -/
theorem Accounted.find?_eq {rows : List ArtifactRow} (h : Accounted H D store files rows)
    {row : ArtifactRow} (hrow : row ∈ rows) :
    rows.find? (fun old ↦ decide (old.digest = row.digest)) = some row := by
  cases hfind : rows.find? (fun old ↦ decide (old.digest = row.digest)) with
  | none => simpa using List.find?_eq_none.mp hfind row hrow
  | some found =>
    have hdigest : found.digest = row.digest := by simpa using List.find?_some hfind
    rw [List.inj_on_of_nodup_map h.nodup (List.mem_of_find?_eq_some hfind) hrow hdigest]

/-- **Stored bytes.** A call for bytes that are stored changes nothing, wherever it fails, and the
reference that it returns is that of their row. -/
theorem putBytes_stored_spec {call : PutCall} {row : ArtifactRow} (h : s.Exact H D store put)
    (hclosed : s.transaction = none) (hrow : row ∈ s.rows)
    (hdigest : row.digest = D.bytesDigest call.data) :
    Guards call.faults s.Unchanged (call.program H D store)
      (Ends (fun reference _ ↦ row.reference H = .ok reference) fun _ ↦ True) s := by
  have hself := Artifacts.Unchanged.refl hclosed
  refine withstands_ofExcept_bind hself (fun _ _ ↦ ?_) fun _ _ ↦ trivial
  refine withstands_ofExcept_bind hself (fun path _ ↦ ?_) fun _ _ ↦ trivial
  refine withConnection_spec hself (fun _ _ ↦ trivial) (fun _ ↦ .disconnect) (fun _ _ ↦ id) ?_
  have hbegin := perform_beginImmediate hclosed
  have hopen : s.Unchanged { s with transaction := some s.rows } := ⟨rfl, rfl, rfl⟩
  refine withstands_act_bind_of_left ⟨hself, trivial⟩ (by rw [hbegin]; exact ⟨hopen, trivial⟩)
    (fun _ ↦ ⟨hself, trivial⟩) fun _ t ht ↦ ?_
  rw [hbegin] at ht
  obtain ⟨-, rfl⟩ := Prod.mk.inj ht
  refine Withstands.onException_ends (B := fun _ ↦ True) ?_ (fun _ _ _ ↦ trivial) fun u hu _ ↦
    withstands_act_of_left ⟨hu, trivial⟩ ⟨hu.disconnect, trivial⟩ (fun _ ↦ ⟨hu, trivial⟩)
      fun _ _ _ ↦ trivial
  refine guards_read_bind hopen trivial rfl (fun _ ↦ rfl)
    fun (found : Option ArtifactRow) hfound ↦ ?_
  have hfind : s.rows.find? (fun row ↦ decide (row.digest = D.bytesDigest call.data)) = found :=
    Except.ok.inj hfound
  rw [← hdigest, h.rows.find?_eq hrow] at hfind
  subst found
  refine withstands_ofExcept_bind hopen (fun reference hreference ↦ ?_) fun _ _ ↦ trivial
  refine (verifyPath_spec hopen _ _ _).bind_ends (fun _ t ht hverified ↦ ?_) fun _ _ _ ↦ trivial
  refine withstands_act_bind_of_left ⟨ht, trivial⟩ ⟨ht.commit, trivial⟩ (fun _ ↦ ⟨ht, trivial⟩)
    fun _ u hu ↦ ?_
  obtain ⟨-, rfl⟩ := Prod.mk.inj hu
  exact withstands_done ht.commit hreference

/-! ### Calls without failures -/

/-- A part of a method returns when no operation fails. -/
abbrev Returns {α : Type} (p : StoreProg α) (G : α → Artifacts → Prop) (s : Artifacts) : Prop :=
  Guards noFaults (fun _ ↦ True) p (Ends G fun _ ↦ False) s

/-- An operation, followed by more. -/
theorem returns_bind {α : Type} {G : α → Artifacts → Prop} {o : ArtifactOp} {a : o.Val}
    {f : o.Val → StoreProg α} (hperform : o.perform s = (.ok a, t)) (h : Returns (f a) G t) :
    Returns ((execute o).bind f) G s :=
  withstands_act_bind_of_reliable (fun _ ↦ rfl) trivial hperform h

/-- A computation that accepts, followed by more. -/
theorem returns_ofExcept_bind {α β : Type} {G : α → Artifacts → Prop}
    {x : Except ArtifactError β} {b : β} {f : β → StoreProg α} (hx : x = .ok b)
    (h : Returns (f b) G s) : Returns ((Prog.ofExcept x).bind f) G s := by
  subst hx
  exact h

/-- A method with a connection. -/
theorem returns_withConnection {α : Type} {G : α → Artifacts → Prop} {body : StoreProg α}
    (hG : ∀ a t, G a t → G a t.disconnect) (h : Returns body G s) :
    Returns (withConnection body) G s := by
  refine returns_bind rfl (Withstands.tryFinally_ends (A := G) (B := fun _ ↦ False)
    (returns_bind rfl h) (fun a t _ hGt ↦ ?_) fun _ _ ↦ False.elim)
  exact withstands_act_of_reliable (fun _ ↦ rfl) trivial rfl trivial (hG a t hGt)

/-- A blob that is there is verified. -/
theorem returns_verifyPath {digest : String} {size : ℕ} (h : HasBlob D s.files digest size) :
    Returns (verifyPath D (blobPath digest) digest size) (fun _ t ↦ t = s) s := by
  obtain ⟨data, hdata, hdigest, hsize⟩ := h
  refine returns_bind rfl (returns_ofExcept_bind (Checked.ofOption_eq_ok.mpr hdata) ?_)
  exact withstands_require trivial (fun _ ↦ rfl) fun hmismatch ↦ hmismatch ⟨hsize, hdigest⟩

/-- A call for stored bytes returns the reference of their row. -/
theorem putBytes_stored_returns {call : PutCall} {row : ArtifactRow} {reference : ArtifactRef}
    (h : s.Exact H D store put) (hclosed : s.transaction = none) (hrow : row ∈ s.rows)
    (hdigest : row.digest = D.bytesDigest call.data) (hreference : row.reference H = .ok reference)
    (hmedia : isBlank call.mediaType = false) :
    Returns (call.program H D store) (fun r _ ↦ r = reference) s := by
  refine returns_ofExcept_bind (b := ⟨⟩) (Checked.require_eq_ok.mpr hmedia) ?_
  refine returns_ofExcept_bind (relativePath_bytesDigest call.data) ?_
  refine returns_withConnection (fun _ _ ↦ id) (returns_bind (perform_beginImmediate hclosed) ?_)
  refine Withstands.onException_ends (B := fun _ ↦ False) ?_ (fun _ _ ↦ id) fun _ _ ↦ False.elim
  have hfind : s.rows.find? (fun old ↦ decide (old.digest = D.bytesDigest call.data)) = some row :=
    hdigest ▸ h.rows.find?_eq hrow
  have hselect : ArtifactOp.perform (.selectRow (D.bytesDigest call.data))
      { s with transaction := some s.rows } =
        (.ok (some row), { s with transaction := some s.rows }) :=
    Prod.ext (congrArg Except.ok hfind) rfl
  refine returns_bind hselect (returns_ofExcept_bind hreference ?_)
  have hblob : HasBlob D s.files (D.bytesDigest call.data) reference.sizeBytes := by
    rw [(reference_spec hreference).2, ← hdigest]
    exact h.rows.blob row hrow
  refine Withstands.bind_ends (returns_verifyPath hblob) (fun _ t _ ht ↦ ?_) fun _ _ ↦ id
  exact returns_bind rfl (withstands_done trivial rfl)

/-! ### Reading -/

/-- `stat`. -/
theorem stat_spec (hclosed : s.transaction = none) (digest : String) :
    Guards faults s.Unchanged (ArtifactStore.stat H digest)
      (Ends (fun reference t ↦ s.Unchanged t ∧ Refers H digest reference s) fun _ ↦ True) s := by
  have hself := Artifacts.Unchanged.refl hclosed
  refine withstands_ofExcept_bind hself (fun _ _ ↦ ?_) fun _ _ ↦ trivial
  refine Withstands.bind_ends (withConnection_spec hself (fun _ _ ↦ trivial) (fun _ ↦ .disconnect)
    (fun _ _ ↦ id) (G := fun (found : Option ArtifactRow) _ ↦
      s.rows.find? (fun row ↦ decide (row.digest = digest)) = found) ?_) ?_ fun _ _ _ ↦ trivial
  · refine withstands_act_of_left ⟨hself, trivial⟩ ⟨hself, trivial⟩ (fun _ ↦ ⟨hself, trivial⟩)
      fun found t ht ↦ ?_
    rw [← hself.visible]
    exact Except.ok.inj (Prod.mk.inj ht).1
  · intro found t ht hfind
    refine withstands_ofExcept_bind ht (fun row hrow ↦ ?_) fun _ _ ↦ trivial
    rw [Checked.ofOption_eq_ok.mp hrow] at hfind
    refine withstands_ofExcept ht ?_
    cases hreference : row.reference H with
    | error e => trivial
    | ok reference =>
      exact ⟨ht, row, List.mem_of_find?_eq_some hfind, by simpa using List.find?_some hfind,
        hreference⟩

/-- **`get_bytes`** returns what stands at the path of the digest, and has this digest. -/
theorem getBytes_spec (hclosed : s.transaction = none) (digest : String) :
    Guards faults s.Unchanged (ArtifactStore.getBytes H D digest)
      (Ends (fun found _ ↦ s.files (blobPath digest) = some found ∧ D.bytesDigest found = digest)
        fun _ ↦ True) s := by
  refine (stat_spec hclosed digest).bind_ends (fun reference t ht hrefers ↦ ?_) fun _ _ _ ↦ trivial
  obtain ⟨-, row, -, hdigest, hreference⟩ := hrefers
  have hsame : reference.digest = digest := (reference_spec hreference).1.trans hdigest
  refine withstands_ofExcept_bind ht (fun path hpath ↦ ?_) fun _ _ ↦ trivial
  obtain rfl : blobPath digest = path := by
    have hpath : relativePath H reference.digest = .ok path := hpath
    simp only [relativePath, Checked.bind_eq_ok, Checked.pure_eq_ok] at hpath
    obtain ⟨_, -, rfl⟩ := hpath
    rw [hsame]
  refine guards_read_bind ht trivial rfl (fun _ ↦ rfl) fun (found : Option ByteArray) hread ↦ ?_
  have hfound : t.files (blobPath digest) = found := Except.ok.inj hread
  refine withstands_ofExcept_bind ht (fun data hdata ↦ ?_) fun _ _ ↦ trivial
  have hdata : found = some data := Checked.ofOption_eq_ok.mp hdata
  refine withstands_ofExcept_bind ht (fun _ hverified ↦ ?_) fun _ _ ↦ trivial
  have hverified := Checked.require_eq_ok.mp hverified
  refine withstands_done ht ⟨?_, hverified.1.trans hsame⟩
  rw [← ht.files, hfound, hdata]

/-- A digest whose row can be read, and whose blob is there, is returned. -/
theorem getBytes_returns {row : ArtifactRow} {reference : ArtifactRef} (h : s.Exact H D store put)
    (hclosed : s.transaction = none) (hrow : row ∈ s.rows)
    (hdigest : row.digest = D.bytesDigest data) (hreference : row.reference H = .ok reference) :
    Returns (ArtifactStore.getBytes H D (D.bytesDigest data))
      (fun found _ ↦ D.bytesDigest found = D.bytesDigest data) s := by
  have hpath := relativePath_bytesDigest (H := H) (D := D) data
  have hvalid : validateDigest H (D.bytesDigest data) = .ok ⟨⟩ := by
    simp only [relativePath, Checked.bind_eq_ok, Checked.pure_eq_ok] at hpath
    exact hpath.choose_spec.1
  have hfind : s.visible.find? (fun old ↦ decide (old.digest = D.bytesDigest data)) = some row := by
    rw [Artifacts.visible, hclosed, ← hdigest]
    exact h.rows.find?_eq hrow
  have hselect : ArtifactOp.perform (.selectRow (D.bytesDigest data)) s = (.ok (some row), s) :=
    Prod.ext (congrArg Except.ok hfind) rfl
  have hstat : Returns (ArtifactStore.stat H (D.bytesDigest data))
      (fun r t ↦ r = reference ∧ t.files = s.files) s := by
    refine returns_ofExcept_bind hvalid (Withstands.bind_ends (returns_withConnection
      (G := fun (found : Option ArtifactRow) t ↦ found = some row ∧ t.files = s.files)
      (fun _ _ ht ↦ ht) ?_) ?_ fun _ _ ↦ id)
    · exact withstands_act_of_reliable (fun _ ↦ rfl) trivial hselect trivial ⟨rfl, rfl⟩
    · rintro _ t - ⟨rfl, ht⟩
      refine returns_ofExcept_bind (b := row) rfl ?_
      rw [Prog.liftM_eq, hreference]
      exact withstands_done trivial ⟨rfl, ht⟩
  refine hstat.bind_ends ?_ fun _ _ ↦ id
  rintro found t - ⟨hsameReference, ht⟩
  subst found
  obtain ⟨hsame, hsize⟩ := reference_spec hreference
  obtain ⟨blob, hblob, hblobDigest, hblobSize⟩ := h.rows.blob row hrow
  have hreferencePath : relativePath H reference.digest = .ok (blobPath (D.bytesDigest data)) := by
    rw [hsame, hdigest]
    exact hpath
  have hread : t.files (blobPath (D.bytesDigest data)) = some blob := by rw [ht, ← hdigest, hblob]
  refine returns_ofExcept_bind hreferencePath (returns_bind rfl ?_)
  refine returns_ofExcept_bind (Checked.ofOption_eq_ok.mpr hread)
    (returns_ofExcept_bind (b := ⟨⟩) (Checked.require_eq_ok.mpr ?_) ?_)
  · exact ⟨hblobDigest.trans hsame.symm, hblobSize.trans hsize.symm⟩
  · exact withstands_done trivial (hblobDigest.trans hdigest)

/-! ### Runs -/

/-- No two of the bytes have one digest. -/
def BytesDigest.CollisionFreeOn (D : BytesDigest) (P : ByteArray → Prop) : Prop :=
  ∀ data data', P data → P data' → D.bytesDigest data = D.bytesDigest data' → data = data'

/-- A complete run that returns. -/
theorem Guards.returned {α : Type} {J E : Artifacts → Prop} {G : α → Artifacts → Prop}
    {p : StoreProg α} (h : Guards faults J p (Ends G E) s) {a : α}
    (hreturn : (p.runWith faults s).1 = .ok a) :
    ∃ t, G a t ∧ (p.runWith faults s).2 = t.disconnect := by
  have hrun := h.run 0
  have hresult : (p.run (handle ArtifactOp.perform ArtifactOp.leave faults) (s, 0)).1 = .ok a :=
    hreturn
  rw [hresult] at hrun
  exact ⟨_, hrun, rfl⟩

/-- A method that returns when no operation fails. -/
theorem Returns.runWith {α : Type} {p : StoreProg α} {G : α → Artifacts → Prop}
    (h : Returns p G s) : ∃ a t, (p.runWith noFaults s).1 = .ok a ∧ G a t := by
  have hrun := h.run 0
  cases hresult : (p.run (handle ArtifactOp.perform ArtifactOp.leave noFaults) (s, 0)).1 with
  | ok a =>
    rw [hresult] at hrun
    exact ⟨a, _, hresult, hrun⟩
  | error e =>
    rw [hresult] at hrun
    exact hrun.elim

/-- **One call.** Wherever it fails, or is cut off, the accounts stay exact and no row is lost. -/
theorem serveCall_spec {call : PutCall} (hput : put call.data) (hnow : call.ReadsBack H)
    (h : s.Exact H D store put) (hclosed : s.transaction = none) :
    s.Extends H D store put (store.serveCall H D call s).2 ∧
      (store.serveCall H D call s).2.transaction = none ∧
      ∀ reference, (store.serveCall H D call s).1 = some (.ok reference) →
        Refers H (D.bytesDigest call.data) reference (store.serveCall H D call s).2 := by
  have hspec := putBytes_spec hput hnow ⟨h, List.prefix_rfl⟩ hclosed
  unfold ArtifactStore.serveCall
  cases call.crash with
  | none =>
    refine ⟨(hspec.run_invariant 0).disconnect, rfl, fun reference hreply ↦ ?_⟩
    obtain ⟨t, hrefers, ht⟩ := Guards.returned hspec (Option.some.inj hreply)
    change Refers H _ reference (StoreProg.runWith _ _ _).2
    rw [ht]
    exact hrefers
  | some n => exact ⟨(hspec.stopAfter n 0).disconnect, rfl, nofun⟩

/-- **Runs.** The accounts stay exact over every sequence of calls, and no row is lost. -/
theorem serve_spec (calls : List PutCall) (hput : ∀ call ∈ calls, put call.data)
    (hnow : ∀ call ∈ calls, call.ReadsBack H) (h : s.Exact H D store put)
    (hclosed : s.transaction = none) :
    s.Extends H D store put (store.serve H D calls s) ∧
      (store.serve H D calls s).transaction = none := by
  induction calls generalizing s with
  | nil => exact ⟨⟨h, List.prefix_rfl⟩, hclosed⟩
  | cons call calls ih =>
    rw [List.forall_mem_cons] at hput hnow
    obtain ⟨hcall, hcallClosed, -⟩ := serveCall_spec hput.1 hnow.1 h hclosed
    obtain ⟨hrest, hrestClosed⟩ := ih hput.2 hnow.2 hcall.isExact hcallClosed
    exact ⟨⟨hrest.isExact, hcall.isPrefix.trans hrest.isPrefix⟩, hrestClosed⟩

/-- A reference that was returned is that of a row, after all that follows. -/
theorem refers_serve {earlier later : List PutCall} {call : PutCall} {reference : ArtifactRef}
    (hput : ∀ c ∈ earlier ++ call :: later, put c.data)
    (hnow : ∀ c ∈ earlier ++ call :: later, c.ReadsBack H)
    (hreply : (store.serveCall H D call (store.serve H D earlier .initial)).1 =
      some (.ok reference)) :
    Refers H (D.bytesDigest call.data) reference
      (store.serve H D (earlier ++ call :: later) .initial) := by
  rw [List.forall_mem_append, List.forall_mem_cons] at hput hnow
  have hinitial : Artifacts.initial.Exact H D store put := .initial
  obtain ⟨hearlier, hclosed⟩ := serve_spec earlier hput.1 hnow.1 hinitial rfl
  obtain ⟨hcall, hcallClosed, hrefers⟩ :=
    serveCall_spec hput.2.1 hnow.2.1 hearlier.isExact hclosed
  obtain ⟨hlater, -⟩ := serve_spec later hput.2.2 hnow.2.2 hcall.isExact hcallClosed
  obtain ⟨row, hrow, hrowSpec⟩ := hrefers reference hreply
  rw [ArtifactStore.serve, List.foldl_append, List.foldl_cons]
  exact ⟨row, hlater.isPrefix.subset hrow, hrowSpec⟩

/-- A call for stored bytes. -/
theorem serveCall_stored {call : PutCall} {row : ArtifactRow} {reference : ArtifactRef}
    (h : s.Exact H D store put) (hclosed : s.transaction = none) (hrow : row ∈ s.rows)
    (hdigest : row.digest = D.bytesDigest call.data)
    (hreference : row.reference H = .ok reference) :
    (store.serveCall H D call s).2.rows = s.rows ∧ (store.serveCall H D call s).2.files = s.files ∧
      ∀ reference', (store.serveCall H D call s).1 = some (.ok reference') →
        reference' = reference := by
  have hspec := putBytes_stored_spec h hclosed hrow hdigest
  unfold ArtifactStore.serveCall
  cases call.crash with
  | none =>
    have hsame := hspec.run_invariant 0
    refine ⟨hsame.rows, hsame.files, fun reference' hreply ↦ ?_⟩
    obtain ⟨_, hreturned, -⟩ := Guards.returned hspec (Option.some.inj hreply)
    exact Except.ok.inj (hreturned.symm.trans hreference)
  | some n =>
    have hsame := hspec.stopAfter n 0
    exact ⟨hsame.rows, hsame.files, nofun⟩

/-- **The accounts of the store.** After every sequence of calls, each of which may fail anywhere or
be cut off, the recorded sizes are within the quota and every row has its blob. A call for bytes
that have a row changes nothing, and the reference that it returns, as it does if nothing fails, is
that of the row. A reference that was returned is that of a row, and the bytes that are read for it
are those that were put. -/
theorem artifacts_exact (H : Host) (D : BytesDigest) (store : ArtifactStore) (calls : List PutCall)
    (hclock : ∀ call ∈ calls, call.ReadsBack H)
    (hcollision : D.CollisionFreeOn (PutCall.Among calls)) :
    let s := store.serve H D calls .initial
    (∀ n ∈ store.maxTotalBytes, totalBytes s.rows ≤ n) ∧
    (∀ row ∈ s.rows, HasBlob D s.files row.digest row.sizeBytes) ∧
    (∀ row ∈ s.rows, ∃ reference, row.reference H = .ok reference ∧
      ∀ call : PutCall, D.bytesDigest call.data = row.digest →
        (store.serveCall H D call s).2.rows = s.rows ∧
        (store.serveCall H D call s).2.files = s.files ∧
        (∀ reference', (store.serveCall H D call s).1 = some (.ok reference') →
          reference' = reference) ∧
        (isBlank call.mediaType = false → call.faults = noFaults → call.crash = none →
          (store.serveCall H D call s).1 = some (.ok reference))) ∧
    ∀ earlier call later reference, calls = earlier ++ call :: later →
      (store.serveCall H D call (store.serve H D earlier .initial)).1 = some (.ok reference) →
        (∃ row ∈ s.rows, row.digest = D.bytesDigest call.data ∧ row.reference H = .ok reference) ∧
        (∀ faults data,
          ((ArtifactStore.getBytes H D reference.digest).runWith faults s).1 = .ok data →
            data = call.data) ∧
        ((ArtifactStore.getBytes H D reference.digest).runWith noFaults s).1 = .ok call.data := by
  intro s
  have hinitial : Artifacts.initial.Exact H D store (PutCall.Among calls) := .initial
  obtain ⟨⟨hexact, -⟩, hclosed⟩ :=
    serve_spec calls (fun call hcall ↦ ⟨call, hcall, rfl⟩) hclock hinitial rfl
  change s.Exact H D store _ at hexact
  change s.transaction = none at hclosed
  refine ⟨hexact.rows.quota, hexact.rows.blob, fun row hrow ↦ ?_, ?_⟩
  · obtain ⟨reference, hreference⟩ := hexact.rows.readable row hrow
    refine ⟨reference, hreference, fun call hdigest ↦ ?_⟩
    obtain ⟨hrows, hfiles, hreturned⟩ :=
      serveCall_stored hexact hclosed hrow hdigest.symm hreference
    refine ⟨hrows, hfiles, hreturned, fun hmedia hfaults hcrash ↦ ?_⟩
    obtain ⟨_, _, hrun, rfl⟩ := (putBytes_stored_returns hexact hclosed hrow hdigest.symm
      hreference hmedia).runWith
    rw [ArtifactStore.serveCall, hcrash, hfaults]
    exact congrArg some hrun
  · rintro earlier call later reference rfl hreply
    have hput : ∀ c ∈ earlier ++ call :: later, PutCall.Among (earlier ++ call :: later) c.data :=
      fun c hc ↦ ⟨c, hc, rfl⟩
    obtain ⟨row, hrow, hdigest, hreference⟩ := refers_serve hput hclock hreply
    refine ⟨⟨row, hrow, hdigest, hreference⟩, ?_⟩
    rw [(reference_spec hreference).1.trans hdigest]
    have hread : ∀ faults data, ((ArtifactStore.getBytes H D (D.bytesDigest call.data)).runWith
        faults s).1 = .ok data → data = call.data := by
      intro faults data hdata
      obtain ⟨_, ⟨hfound, hfoundDigest⟩, -⟩ :=
        Guards.returned (getBytes_spec hclosed _) hdata
      rcases hexact.files _ _ hfound with htemporary | ⟨hamong, -⟩
      · exact absurd htemporary (not_isTemporary_blobPath _)
      · exact hcollision _ _ hamong (hput call (by simp)) hfoundDigest
    refine ⟨hread, ?_⟩
    obtain ⟨data, _, hrun, -⟩ := (getBytes_returns hexact hclosed hrow hdigest hreference).runWith
    rw [hrun, hread _ _ hrun]

namespace ArtifactSample

/-- The digests of two texts, and that of no bytes for all others. -/
def digest : BytesDigest where
  hexdigest data :=
    if data = "blackcell".toUTF8 then
      "93941fc4b2ff36fa948442fa42ef6b0b86d1573571ea8d720f53807c4075afe1"
    else if data = "kernel".toUTF8 then
      "6923dd1bc0460082c5d55a831908c24a282860b7f1cd6c2b79cf1bc8857c639c"
    else "e3b0c44298fc1c149afbf4c8996fb92427ae41e4649b934ca495991b7852b855"
  isHex_hexdigest data := by split_ifs <;> decide

/-- A clock that shows one instant. -/
def host : Host :=
  .ofTables [] [("2026-01-01T00:00:00+00:00", ⟨1767225600000000, true⟩)]
    [(1767225600000000, "2026-01-01T00:00:00+00:00")]

/-- A store of twelve bytes. -/
def smallStore : ArtifactStore := ⟨some 12, by decide⟩

/-- A call at this instant. -/
def call (text uuid : String) (faults : Faults) : PutCall :=
  ⟨text.toUTF8, "text/plain", some "utf-8", uuid, 1767225600000000, faults, none⟩

/-- The insertion of the row fails, and the blob stays. -/
def failing : PutCall :=
  call "blackcell" "0f" fun n ↦ if n = 11 then some ⟨.raised, .nothing⟩ else none

/-- The same bytes once more. -/
def repeated : PutCall := call "blackcell" "1f" noFaults

/-- Other bytes, for which there is no room. -/
def refused : PutCall := call "kernel" "2f" noFaults

/-- What the second call returns. -/
def reference : ArtifactRef :=
  ⟨digest.bytesDigest "blackcell".toUTF8, 9, "text/plain", some "utf-8", ⟨1767225600000000, true⟩⟩

theorem readsBack : ∀ c ∈ [failing, repeated, refused], c.ReadsBack host := by
  simp only [List.forall_mem_cons]
  exact ⟨rfl, rfl, rfl, nofun⟩

theorem collisionFree : digest.CollisionFreeOn (PutCall.Among [failing, repeated, refused]) := by
  have hdistinct : digest.bytesDigest "blackcell".toUTF8 ≠ digest.bytesDigest "kernel".toUTF8 := by
    decide +kernel
  have hdata : ∀ data, PutCall.Among [failing, repeated, refused] data →
      data = "blackcell".toUTF8 ∨ data = "kernel".toUTF8 := by
    rintro _ ⟨c, hc, rfl⟩
    simp only [List.mem_cons, List.not_mem_nil, or_false] at hc
    rcases hc with rfl | rfl | rfl
    exacts [.inl rfl, .inl rfl, .inr rfl]
  intro data data' hput hput' hsame
  rcases hdata data hput with rfl | rfl <;> rcases hdata data' hput' with rfl | rfl
  exacts [rfl, absurd hsame hdistinct, absurd hsame.symm hdistinct, rfl]

end ArtifactSample

open ArtifactSample in
/-- A call that fails behind the rename, the same bytes once more, and bytes for which there is no
room. -/
theorem artifacts_exact_sample :
    let s := smallStore.serve host digest [failing, repeated, refused] .initial
    totalBytes s.rows ≤ 12 ∧
      ((ArtifactStore.getBytes host digest ArtifactSample.reference.digest).runWith noFaults s).1 =
        .ok "blackcell".toUTF8 := by
  have h := artifacts_exact host digest smallStore [failing, repeated, refused]
    ArtifactSample.readsBack collisionFree
  have hreply : (smallStore.serveCall host digest repeated
      (smallStore.serve host digest [failing] .initial)).1 =
        some (.ok ArtifactSample.reference) := by
    decide +kernel
  exact ⟨h.1 12 rfl, (h.2.2.2 [failing] repeated [refused] _ rfl hreply).2.2⟩

end Blackcell.Kernel
