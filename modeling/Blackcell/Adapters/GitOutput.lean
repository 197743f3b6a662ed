import Blackcell.Adapters.Worktree
import Blackcell.Foundation.Records
import Blackcell.Kernel.Bytes

/-!
# The output of Git

The readers of `adapters/execution/worktree.py` that turn the bytes of a command into a line, into
paths, or into the entries of an index. Each of them accepts exactly the bytes that a value of its
kind is written as.

## Main definitions

* `Raised` : what an operation of the lifecycle raises.
* `singleLine`, `pathOutput`, `indexEntries`, `listsWorktree` : the readers.

## Main results

* `singleLine_eq_ok`, `pathOutput_eq_ok`, `indexEntries_eq_ok` : what the readers accept.
* `listsWorktree_eq_false` : the list of worktrees denies a path only by naming none but others.
-/

namespace Blackcell.Adapters.Worktree

open Blackcell.Kernel Records

/-! ### Failures -/

/-- `WorktreeFailureCode`, as far as the operations of the lifecycle raise it: with the codes that
the values raise, and those of the operations. -/
inductive LifecycleFailureCode where
  | contract (code : WorktreeFailureCode)
  | unsafeRepositoryConfiguration | baseCommitNotFound | gitSpawnFailed | gitTimedOut
  | gitOutputTooLarge | gitOutputIncomplete | gitCommandFailed | worktreeConflict
  | worktreeNotFound | worktreeDirty | pathPolicyViolation | commitFailed | cleanupFailed
  deriving DecidableEq, Repr

/-- What an operation raises: a `WorktreeLifecycleError`, or an exception of the language. -/
inductive Raised where
  | lifecycle (code : LifecycleFailureCode)
  | keyError
  | indexError
  deriving DecidableEq, Repr

/-- `WorktreeLifecycleError(WorktreeFailureCode.INVALID_GIT_OUTPUT)`. -/
abbrev invalidOutput : Raised := .lifecycle (.contract .invalidGitOutput)

/-- `WorktreeLifecycleError(WorktreeFailureCode.COMMIT_FAILED)`. -/
abbrev commitFailure : Raised := .lifecycle .commitFailed

/-! ### Lines -/

/-- A line that a command can say. -/
def IsLine (line : String) : Prop :=
  line ≠ "" ∧ '\n' ∉ line.toList ∧ '\r' ∉ line.toList ∧ '\x00' ∉ line.toList

instance (line : String) : Decidable (IsLine line) := inferInstanceAs (Decidable (_ ∧ _ ∧ _ ∧ _))

/-- The text without one newline at its end. -/
def withoutNewline (value : String) : String :=
  if value.toList.getLast? = some '\n' then String.ofList value.toList.dropLast else value

/-- `_single_line`. -/
def singleLine (payload : List UInt8) : Except Raised String := do
  let value ← Checked.ofOption (decodeUtf8 payload) invalidOutput
  Checked.require (IsLine (withoutNewline value)) invalidOutput
  pure (withoutNewline value)

/-- The bytes say a line: they are the line, with or without a newline at its end. -/
def Says (payload : List UInt8) (line : String) : Prop :=
  IsLine line ∧ (payload = utf8 line ∨ payload = utf8 (line ++ "\n"))

theorem withoutNewline_eq_iff {value line : String} (hline : '\n' ∉ line.toList) :
    withoutNewline value = line ↔ value = line ∨ value = line ++ "\n" := by
  unfold withoutNewline
  split
  · rename_i hlast
    obtain ⟨init, hinit⟩ := List.getLast?_eq_some_iff.mp hlast
    rw [hinit, List.dropLast_concat]
    constructor
    · rintro rfl
      refine .inr (String.toList_injective ?_)
      rw [hinit, String.toList_append, String.toList_ofList]
      rfl
    · rintro (rfl | rfl)
      · exact absurd (hinit ▸ by simp) hline
      · rw [String.toList_append] at hinit
        rw [← (List.append_inj' hinit rfl).1, String.ofList_toList]
  · rename_i hlast
    refine ⟨.inl, ?_⟩
    rintro (rfl | rfl)
    · rfl
    · exact absurd (by simp) hlast

/-- **Lines.** A line is read exactly from the bytes that say it. -/
theorem singleLine_eq_ok {payload : List UInt8} {line : String} :
    singleLine payload = .ok line ↔ Says payload line := by
  simp only [singleLine, Checked.bind_eq_ok, Checked.ofOption_eq_ok, decodeUtf8_eq_some,
    Checked.require_eq_ok, Checked.pure_eq_ok, Checked.exists_unit]
  constructor
  · rintro ⟨value, rfl, hline, rfl⟩
    refine ⟨hline, ?_⟩
    rcases (withoutNewline_eq_iff hline.2.1).mp rfl with heq | heq
    · exact .inl (congrArg utf8 heq)
    · exact .inr (congrArg utf8 heq)
  · rintro ⟨hline, heq⟩
    obtain ⟨value, rfl, hvalue⟩ : ∃ value, payload = utf8 value ∧
        (value = line ∨ value = line ++ "\n") := by
      rcases heq with rfl | rfl
      · exact ⟨_, rfl, .inl rfl⟩
      · exact ⟨_, rfl, .inr rfl⟩
    have hread := (withoutNewline_eq_iff hline.2.1).mpr hvalue
    exact ⟨value, rfl, hread.symm ▸ hline, hread⟩

/-! ### Paths -/

/-- A record of a path. -/
def readPath (raw : List UInt8) : Except Raised String := do
  Checked.require (raw ≠ []) invalidOutput
  let path ← Checked.ofOption (decodeUtf8 raw) invalidOutput
  Checked.require (isRepositoryPath path) invalidOutput
  pure path

/-- `_path_output`. -/
def pathOutput (payload : List UInt8) : Except Raised (List String) := do
  let records ← Checked.ofOption (terminated? 0 payload) invalidOutput
  records.mapM readPath

/-- The bytes list paths: each path is normalised, and followed by a NUL. -/
def Lists (payload : List UInt8) (paths : List String) : Prop :=
  payload = terminate 0 (paths.map utf8) ∧ ∀ p ∈ paths, isRepositoryPath p

theorem isRepositoryPath_iff {path : String} : isRepositoryPath path = true ↔
    path ≠ "" ∧ path.length ≤ 4096 ∧ '\x00' ∉ path.toList ∧ '\\' ∉ path.toList ∧
      isAbsolute path = false ∧ asPosix path = path ∧ ".." ∉ pathParts path ∧
      ".git" ∉ pathParts path := by
  simp [isRepositoryPath, and_assoc]

/-- The bytes of a path are a record: they are not empty, and contain no NUL. -/
theorem utf8_path {path : String} (h : isRepositoryPath path = true) :
    utf8 path ≠ [] ∧ 0 ∉ utf8 path := by
  obtain ⟨hne, -, hnul, -⟩ := isRepositoryPath_iff.mp h
  refine ⟨fun hnil ↦ hne (utf8_inj.mp hnil), ?_⟩
  exact notMem_utf8 (c := '\x00') (by decide) rfl hnul

theorem readPath_eq_ok {raw : List UInt8} {path : String} :
    readPath raw = .ok path ↔ raw = utf8 path ∧ isRepositoryPath path := by
  simp only [readPath, Checked.bind_eq_ok, Checked.ofOption_eq_ok, decodeUtf8_eq_some,
    Checked.require_eq_ok, Checked.pure_eq_ok, Checked.exists_unit]
  constructor
  · rintro ⟨-, _, rfl, hpath, rfl⟩
    exact ⟨rfl, hpath⟩
  · rintro ⟨rfl, hpath⟩
    exact ⟨(utf8_path hpath).1, _, rfl, hpath, rfl⟩

/-- **Paths.** Exactly the terminated, normalised, encoded paths are read. -/
theorem pathOutput_eq_ok {payload : List UInt8} {paths : List String} :
    pathOutput payload = .ok paths ↔ Lists payload paths := by
  have hread : ∀ records : List (List UInt8), records.mapM readPath = .ok paths ↔
      records = paths.map utf8 ∧ ∀ p ∈ paths, isRepositoryPath p := by
    intro records
    rw [Checked.mapM_eq_ok]
    constructor
    · intro h
      have hall : List.Forall₂ (fun raw path ↦ raw = utf8 path) records paths :=
        h.imp fun _ _ hraw ↦ (readPath_eq_ok.mp hraw).1
      refine ⟨Checked.forall₂_eq_map.mp hall, fun p hp ↦ ?_⟩
      obtain ⟨raw, -, hraw⟩ := Checked.exists_of_mem_mapM (Checked.mapM_eq_ok.mpr h) hp
      exact (readPath_eq_ok.mp hraw).2
    · rintro ⟨rfl, hpaths⟩
      rw [List.forall₂_map_left_iff, List.forall₂_same]
      exact fun p hp ↦ readPath_eq_ok.mpr ⟨rfl, hpaths p hp⟩
  simp only [pathOutput, Checked.bind_eq_ok, Checked.ofOption_eq_ok, terminated?_eq_some, hread]
  constructor
  · rintro ⟨_, ⟨rfl, -⟩, rfl, hpaths⟩
    exact ⟨rfl, hpaths⟩
  · rintro ⟨rfl, hpaths⟩
    refine ⟨_, ⟨rfl, ?_⟩, rfl, hpaths⟩
    rw [List.forall_mem_map]
    exact fun p hp ↦ (utf8_path (hpaths p hp)).2

/-! ### Entries of an index -/

/-- An entry of an index: the mode and the blob of a path. -/
structure IndexEntry where
  mode : String
  objectId : String
  path : String
  deriving DecidableEq

namespace IndexEntry

/-- The text that `git ls-files --stage` writes for an entry that is not in conflict. -/
def text (e : IndexEntry) : String := e.mode ++ " " ++ e.objectId ++ " 0\t" ++ e.path

/-- An entry of a regular file. -/
def IsRegular (e : IndexEntry) : Prop :=
  (e.mode = "100644" ∨ e.mode = "100755") ∧ isCommit e.objectId ∧ isRepositoryPath e.path

end IndexEntry

/-- A record of an entry. -/
def readIndexEntry (raw : List UInt8) : Except Raised IndexEntry := do
  let (metadata, rawPath) ← Checked.ofOption (cut? 9 raw) commitFailure
  match metadata.splitOn 32 with
  | [rawMode, rawObjectId, rawStage] => do
    let mode ← Checked.ofOption (decodeAscii rawMode) commitFailure
    let objectId ← Checked.ofOption (decodeAscii rawObjectId) commitFailure
    let stage ← Checked.ofOption (decodeAscii rawStage) commitFailure
    let path ← Checked.ofOption (decodeUtf8 rawPath) commitFailure
    Checked.require (isRepositoryPath path) commitFailure
    Checked.require ((mode = "100644" ∨ mode = "100755") ∧ isCommit objectId ∧ stage = "0")
      commitFailure
    pure ⟨mode, objectId, path⟩
  | _ => .error commitFailure

/-- The loop over the records of an index, after those that were read. -/
def readIndexEntries (entries : List IndexEntry) :
    List (List UInt8) → Except Raised (List IndexEntry)
  | [] => pure entries
  | raw :: records => do
    let e ← readIndexEntry raw
    Checked.require (e.path ∉ entries.map (·.path)) commitFailure
    readIndexEntries (entries ++ [e]) records

/-- `_index_entries`. -/
def indexEntries (returnCode : Int) (payload : List UInt8) : Except Raised (List IndexEntry) := do
  Checked.require (returnCode = 0) commitFailure
  let records ← Checked.ofOption (terminated? 0 payload) commitFailure
  readIndexEntries [] records

/-- The bytes list entries: those of distinct regular files, each followed by a NUL. -/
def ListsEntries (payload : List UInt8) (entries : List IndexEntry) : Prop :=
  payload = terminate 0 (entries.map fun e ↦ utf8 e.text) ∧ (∀ e ∈ entries, e.IsRegular) ∧
    (entries.map (·.path)).Nodup

/-- A text of ASCII characters, without the separators of an entry. -/
def IsToken (s : String) : Prop :=
  ∀ c ∈ s.toList, c.toNat < 128 ∧ c ≠ ' ' ∧ c ≠ '\t' ∧ c ≠ '\x00'

instance (s : String) : Decidable (IsToken s) := List.decidableBAll _ _

theorem isToken_of_isHex {n : Nat} {s : String} (h : isHex n s = true) : IsToken s := by
  intro c hc
  have hchar := (isHex_iff.mp h).2 c hc
  have hbound : 48 ≤ c.toNat ∧ c.toNat ≤ 102 := by
    simp only [isHexChar, Char.isDigit, Bool.or_eq_true, Bool.and_eq_true, decide_eq_true_eq,
      Char.le_def, UInt32.le_iff_toNat_le, ge_iff_le] at hchar
    change 48 ≤ c.val.toNat ∧ c.val.toNat ≤ 102
    rcases hchar with ⟨hlow, hhigh⟩ | ⟨hlow, hhigh⟩
    · exact ⟨hlow, hhigh.trans (by decide)⟩
    · exact ⟨(by decide : 48 ≤ 97).trans hlow, hhigh⟩
  refine ⟨by omega, ?_, ?_, ?_⟩ <;> rintro rfl <;> exact absurd hbound (by decide)

theorem IndexEntry.IsRegular.isToken {e : IndexEntry} (h : e.IsRegular) :
    IsToken e.mode ∧ IsToken e.objectId := by
  refine ⟨?_, isToken_of_isHex h.2.1⟩
  rcases h.1 with hmode | hmode <;> rw [hmode] <;> decide

/-- The bytes of a token contain no separator. -/
theorem IsToken.notMem {s : String} (h : IsToken s) : 32 ∉ utf8 s ∧ 9 ∉ utf8 s ∧ 0 ∉ utf8 s :=
  ⟨notMem_utf8 (c := ' ') (by decide) rfl fun hc ↦ (h _ hc).2.1 rfl,
    notMem_utf8 (c := '\t') (by decide) rfl fun hc ↦ (h _ hc).2.2.1 rfl,
    notMem_utf8 (c := '\x00') (by decide) rfl fun hc ↦ (h _ hc).2.2.2 rfl⟩

/-- The bytes of an entry, with its separators. -/
theorem IndexEntry.utf8_text (e : IndexEntry) : utf8 e.text =
    (utf8 e.mode ++ 32 :: (utf8 e.objectId ++ 32 :: utf8 "0")) ++ 9 :: utf8 e.path := by
  have hspace : utf8 " " = [32] := rfl
  have hstage : utf8 " 0\t" = 32 :: utf8 "0" ++ [9] := rfl
  simp [text, utf8_append, hspace, hstage]

theorem readIndexEntry_eq_ok {raw : List UInt8} {e : IndexEntry} :
    readIndexEntry raw = .ok e ↔ raw = utf8 e.text ∧ e.IsRegular := by
  have hzero : IsToken "0" := by decide
  constructor
  · intro h
    simp only [readIndexEntry, Checked.bind_eq_ok, Checked.ofOption_eq_ok, Prod.exists,
      cut?_eq_some] at h
    obtain ⟨metadata, rawPath, ⟨rfl, -⟩, h⟩ := h
    split at h
    · rename_i rawMode rawObjectId rawStage hsplit
      simp only [Checked.bind_eq_ok, Checked.ofOption_eq_ok, decodeAscii_eq_some,
        decodeUtf8_eq_some, Checked.require_eq_ok, Checked.pure_eq_ok, Checked.exists_unit] at h
      obtain ⟨mode, ⟨rfl, -⟩, objectId, ⟨rfl, -⟩, stage, ⟨rfl, -⟩, path, rfl, hpath,
        ⟨hmode, hcommit, rfl⟩, rfl⟩ := h
      obtain ⟨-, hjoin, -⟩ := splitOn_eq_iff.mp hsplit
      refine ⟨?_, hmode, hcommit, hpath⟩
      rw [IndexEntry.utf8_text, ← hjoin]
      simp
    · cases h
  · rintro ⟨rfl, hregular⟩
    obtain ⟨hmode, hobject⟩ := hregular.isToken
    have hcut : cut? 9 (utf8 e.text) =
        some (utf8 e.mode ++ 32 :: (utf8 e.objectId ++ 32 :: utf8 "0"), utf8 e.path) := by
      rw [cut?_eq_some]
      refine ⟨e.utf8_text, ?_⟩
      simp [hmode.notMem, hobject.notMem, hzero.notMem]
    have hsplit : (utf8 e.mode ++ 32 :: (utf8 e.objectId ++ 32 :: utf8 "0")).splitOn 32 =
        [utf8 e.mode, utf8 e.objectId, utf8 "0"] := by
      rw [splitOn_eq_iff]
      simp [hmode.notMem, hobject.notMem, hzero.notMem]
    have hascii : ∀ {s : String}, IsToken s → decodeAscii (utf8 s) = some s := fun hs ↦
      decodeAscii_eq_some.mpr ⟨rfl, fun c hc ↦ (hs c hc).1⟩
    simp only [readIndexEntry, hcut, Checked.ofOption_some, Checked.ok_bind, hsplit, hascii hmode,
      hascii hobject, hascii hzero, decodeUtf8_eq_some.mpr (rfl : utf8 e.path = utf8 e.path)]
    rw [Checked.require_bind_of_true hregular.2.2,
      Checked.require_bind_of_true ⟨hregular.1, hregular.2.1, trivial⟩]
    rfl

theorem readIndexEntries_eq_ok {entries entries' : List IndexEntry} {records : List (List UInt8)}
    (hnodup : (entries.map (·.path)).Nodup) : readIndexEntries entries records = .ok entries' ↔
      ∃ rest, entries' = entries ++ rest ∧ records = rest.map (fun e ↦ utf8 e.text) ∧
        (∀ e ∈ rest, e.IsRegular) ∧ (entries'.map (·.path)).Nodup := by
  induction records generalizing entries with
  | nil =>
    rw [readIndexEntries, Checked.pure_eq_ok]
    constructor
    · rintro rfl
      exact ⟨[], by simpa using hnodup⟩
    · rintro ⟨rest, rfl, hrest, -⟩
      simp [List.map_eq_nil_iff.mp hrest.symm]
  | cons raw records ih =>
    simp only [readIndexEntries, Checked.bind_eq_ok, readIndexEntry_eq_ok, Checked.require_eq_ok,
      Checked.exists_unit]
    have hsnoc : ∀ e : IndexEntry, e.path ∉ entries.map (·.path) →
        ((entries ++ [e]).map (·.path)).Nodup := by
      intro e he
      rw [List.map_append, List.map_singleton, List.nodup_append]
      exact ⟨hnodup, List.nodup_singleton _, fun p hp q hq heq ↦
        he (List.mem_singleton.mp hq ▸ heq ▸ hp)⟩
    constructor
    · rintro ⟨e, ⟨rfl, hregular⟩, hfresh, h⟩
      obtain ⟨rest, rfl, rfl, hrest, hall⟩ := (ih (hsnoc e hfresh)).mp h
      exact ⟨e :: rest, by simp, rfl, List.forall_mem_cons.mpr ⟨hregular, hrest⟩, hall⟩
    · rintro ⟨rest, rfl, hrecords, hrest, hall⟩
      cases rest with
      | nil => simp at hrecords
      | cons e rest =>
        obtain ⟨rfl, rfl⟩ := List.cons.inj hrecords
        rw [List.forall_mem_cons] at hrest
        have hfresh : e.path ∉ entries.map (·.path) := by
          rw [List.map_append, List.nodup_append] at hall
          exact fun hmem ↦ hall.2.2 _ hmem _ (by simp) rfl
        exact ⟨e, ⟨rfl, hrest.1⟩, hfresh, (ih (hsnoc e hfresh)).mpr
          ⟨rest, by simp, rfl, hrest.2, hall⟩⟩

/-- **Entries.** Exactly the terminated entries of distinct regular files are read, when the command
succeeds. -/
theorem indexEntries_eq_ok {returnCode : Int} {payload : List UInt8} {entries : List IndexEntry} :
    indexEntries returnCode payload = .ok entries ↔
      returnCode = 0 ∧ ListsEntries payload entries := by
  simp only [indexEntries, Checked.bind_eq_ok, Checked.require_eq_ok, Checked.ofOption_eq_ok,
    terminated?_eq_some, Checked.exists_unit,
    @readIndexEntries_eq_ok [] _ _ List.nodup_nil, List.nil_append]
  refine and_congr_right fun _ ↦ ⟨?_, ?_⟩
  · rintro ⟨_, ⟨rfl, -⟩, rest, rfl, rfl, hregular, hnodup⟩
    exact ⟨rfl, hregular, hnodup⟩
  · rintro ⟨rfl, hregular, hnodup⟩
    refine ⟨_, ⟨rfl, ?_⟩, entries, rfl, rfl, hregular, hnodup⟩
    rw [List.forall_mem_map]
    intro e he
    obtain ⟨hmode, hobject⟩ := (hregular e he).isToken
    have hzero : IsToken "0" := by decide
    simp [e.utf8_text, hmode.notMem, hobject.notMem, hzero.notMem, (utf8_path (hregular e he).2.2).2]

/-! ### The list of the worktrees -/

/-- The path of a record of `git worktree list`, if it names a worktree. -/
def worktreeRecord? (raw : List UInt8) : Option (List UInt8) :=
  if (utf8 "worktree ").isPrefixOf raw then some (raw.drop (utf8 "worktree ").length) else none

/-- The path of a worktree that a command lists. -/
def IsListed (path : String) : Prop :=
  path ≠ "" ∧ '\r' ∉ path.toList ∧ '\n' ∉ path.toList ∧ isAbsolute path

instance (path : String) : Decidable (IsListed path) := inferInstanceAs (Decidable (_ ∧ _ ∧ _ ∧ _))

/-- The loop of `_worktree_is_registered`, once it has observed a worktree or not. -/
def findWorktree (target : String) (observed : Bool) : List (List UInt8) → Except Raised Bool
  | [] => if observed then pure false else .error invalidOutput
  | raw :: records =>
    match worktreeRecord? raw with
    | none => findWorktree target observed records
    | some rawPath => do
      let path ← Checked.ofOption (decodeUtf8 rawPath) invalidOutput
      Checked.require (IsListed path) invalidOutput
      if path = target then pure true else findWorktree target true records

/-- `_worktree_is_registered`, of the output of the command. -/
def listsWorktree (target : String) (payload : List UInt8) : Except Raised Bool := do
  Checked.require (payload ≠ []) invalidOutput
  let records ← Checked.ofOption (terminated? 0 payload) invalidOutput
  findWorktree target false records

/-- The bytes list worktrees, and none at the path: among their records some name a worktree, and
those that do name an encoded absolute path, which is another one. -/
def ListsOthers (payload : List UInt8) (target : String) : Prop :=
  ∃ records, payload = terminate 0 records ∧ (∀ raw ∈ records, 0 ∉ raw) ∧
    (∃ raw ∈ records, (worktreeRecord? raw).isSome) ∧
    ∀ raw ∈ records, ∀ rawPath ∈ worktreeRecord? raw,
      ∃ path, rawPath = utf8 path ∧ IsListed path ∧ path ≠ target

theorem findWorktree_eq_false {target : String} {observed : Bool} {records : List (List UInt8)} :
    findWorktree target observed records = .ok false ↔
      (observed = true ∨ ∃ raw ∈ records, (worktreeRecord? raw).isSome) ∧
      ∀ raw ∈ records, ∀ rawPath ∈ worktreeRecord? raw,
        ∃ path, rawPath = utf8 path ∧ IsListed path ∧ path ≠ target := by
  induction records generalizing observed with
  | nil => cases observed <;> simp [findWorktree]
  | cons raw records ih =>
    rw [findWorktree]
    cases hrecord : worktreeRecord? raw with
    | none => simp [ih, hrecord]
    | some rawPath =>
      simp only [Checked.bind_eq_ok, Checked.ofOption_eq_ok, decodeUtf8_eq_some,
        Checked.require_eq_ok, Checked.exists_unit, List.forall_mem_cons, List.exists_mem_cons_iff,
        hrecord, Option.mem_def, Option.some.injEq, forall_eq', Option.isSome_some, true_or, or_true,
        true_and]
      constructor
      · rintro ⟨path, rfl, hlisted, h⟩
        split at h
        · cases h
        · rename_i hne
          exact ⟨⟨path, rfl, hlisted, hne⟩, (ih.mp h).2⟩
      · rintro ⟨⟨path, rfl, hlisted, hne⟩, hrest⟩
        refine ⟨path, rfl, hlisted, ?_⟩
        rw [if_neg hne]
        exact ih.mpr ⟨.inl rfl, hrest⟩

/-- **Worktrees.** A path is denied exactly by a list that names worktrees, and none at the path. -/
theorem listsWorktree_eq_false {target : String} {payload : List UInt8} :
    listsWorktree target payload = .ok false ↔ ListsOthers payload target := by
  simp only [listsWorktree, Checked.bind_eq_ok, Checked.require_eq_ok, Checked.ofOption_eq_ok,
    terminated?_eq_some, Checked.exists_unit, findWorktree_eq_false, Bool.false_eq_true, false_or]
  constructor
  · rintro ⟨-, records, ⟨rfl, hmem⟩, hsome, hall⟩
    exact ⟨records, rfl, hmem, hsome, hall⟩
  · rintro ⟨records, rfl, hmem, ⟨raw, hraw, hsome⟩, hall⟩
    refine ⟨?_, records, ⟨rfl, hmem⟩, ⟨raw, hraw, hsome⟩, hall⟩
    cases records with
    | nil => cases hraw
    | cons raw records => simp

end Blackcell.Adapters.Worktree
