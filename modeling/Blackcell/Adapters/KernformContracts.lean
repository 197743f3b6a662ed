import Blackcell.Adapters.BoundedProcess
import Blackcell.Foundation.Failing
import Blackcell.Kernel.Bytes

/-!
# Results of Kernform

The external tool Kernform answers each command with one JSON envelope. The file has the records of
the envelope and of the results inside of it, the paths that artifacts and results name, and the
checks that the client makes of an envelope before it looks at its result.

## Main definitions

* `PurePath` : paths, and the relation `PurePath.IsRelativeTo` of a path below another one.
* `KernformWireEnvelope`, `KernformWireCheckResult`, `KernformWireCompileResult`,
  `KernformWireInitResult`.
* `ValidEnvelope`, `validateEnvelope` : the checks of an envelope.

## Main results

* `validateEnvelope_eq_ok` : the envelopes that pass.
-/

namespace Blackcell.Adapters.Kernform

open Kernel

/-! ### Failures -/

/-- `KernformClientFailureCode`. -/
inductive KernformClientFailureCode
  | invalidExecutable
  | invalidTimeout
  | invalidProjectRoot
  | invalidArgument
  | spawnFailed
  | timedOut
  | outputTooLarge
  | outputIncomplete
  | invalidEnvelope
  | unsupportedVersion
  | exitMismatch
  | artifactOutsideRoot
  deriving DecidableEq

instance : StrEnum KernformClientFailureCode where
  value
    | .invalidExecutable => "invalid-kernform-executable"
    | .invalidTimeout => "invalid-kernform-timeout"
    | .invalidProjectRoot => "invalid-kernform-project-root"
    | .invalidArgument => "invalid-kernform-argument"
    | .spawnFailed => "kernform-spawn-failed"
    | .timedOut => "kernform-timed-out"
    | .outputTooLarge => "kernform-output-too-large"
    | .outputIncomplete => "kernform-output-incomplete"
    | .invalidEnvelope => "invalid-kernform-envelope"
    | .unsupportedVersion => "unsupported-kernform-version"
    | .exitMismatch => "kernform-exit-mismatch"
    | .artifactOutsideRoot => "kernform-artifact-outside-root"
  members := [.invalidExecutable, .invalidTimeout, .invalidProjectRoot, .invalidArgument,
    .spawnFailed, .timedOut, .outputTooLarge, .outputIncomplete, .invalidEnvelope,
    .unsupportedVersion, .exitMismatch, .artifactOutsideRoot]
  mem_members a := by cases a <;> decide
  nodup_values := by decide

/-- An exception that is not of the client. -/
inductive Escape
  | recursionError
  | valueError
  | keyError
  | process (f : ProcessFailure)

/-- What a call raises: a `KernformClientError`, or an exception that escapes. -/
inductive Raised
  | client (code : KernformClientFailureCode)
  | escaped (e : Escape)

/-- What a call returns or raises. -/
abbrev Calling := Except Raised

/-- Whether an exception escapes. -/
def Raised.IsEscape : Raised → Prop
  | .client _ => False
  | .escaped _ => True

/-! ### Paths -/

/-- `pathlib.PurePosixPath`: the root, and the components behind it. -/
structure PurePath where
  root : String
  parts : List String
  deriving DecidableEq

namespace PurePath

/-- `Path(text)`. -/
def ofText (s : String) : PurePath := ⟨pathRoot s, pathParts s⟩

/-- `path.is_absolute()`. -/
def isAbsolute (p : PurePath) : Bool := p.root ≠ ""

/-- `p / q`. -/
def join (p q : PurePath) : PurePath := if q.isAbsolute then q else ⟨p.root, p.parts ++ q.parts⟩

/-- `path.parent`. -/
def parent (p : PurePath) : PurePath := ⟨p.root, p.parts.dropLast⟩

/-- `str(path)`. -/
def text (p : PurePath) : String :=
  if p.root = "" ∧ p.parts = [] then "." else p.root ++ "/".intercalate p.parts

/-- Whether a path has a null byte. -/
def hasNull (p : PurePath) : Bool := p.parts.any (·.toList.contains '\x00')

/-- `path.is_relative_to(other)`: the path is the other one or below it. -/
def IsRelativeTo (p other : PurePath) : Prop := p.root = other.root ∧ other.parts <+: p.parts

instance (p other : PurePath) : Decidable (p.IsRelativeTo other) :=
  inferInstanceAs (Decidable (_ ∧ _))

end PurePath

/-- What `Path.resolve` raises. -/
inductive ResolveFailure
  | osError
  | runtimeError
  | valueError

/-- The file system, as far as it is asked for paths. `Path.resolve` raises a `ValueError` only for
a path with a null byte, and for every one unless it is strict. -/
structure Files where
  resolve (strict : Bool) (path : PurePath) : Except ResolveFailure PurePath
  isDir (path : PurePath) : Bool
  isFile (path : PurePath) : Bool
  exists_ (path : PurePath) : Bool
  valueError_of_hasNull : ∀ {path}, path.hasNull = true → resolve false path = .error .valueError
  hasNull_of_valueError : ∀ {strict path}, resolve strict path = .error .valueError →
    path.hasNull = true
  hasNull_of_ok : ∀ {strict path canonical}, resolve strict path = .ok canonical →
    canonical.hasNull = false

namespace PurePath

/-- Splitting keeps every character but the separator. -/
theorem exists_mem_splitOn {sep c : Char} (hc : c ≠ sep) (l : List Char) :
    (∃ part ∈ l.splitOn sep, c ∈ part) ↔ c ∈ l := by
  induction l with
  | nil => simp
  | cons d l ih =>
    rw [List.splitOn_cons_eq_if_modifyHead]
    split
    · rename_i hd
      have hne : c ≠ d := by
        rw [beq_iff_eq.mp hd]
        exact hc
      simp [ih, hne]
    · obtain ⟨part, parts, hsplit⟩ := List.exists_cons_of_ne_nil (List.splitOn_ne_nil sep l)
      rw [hsplit] at ih ⊢
      simp [← ih, or_assoc]

/-- The components of a text have its null bytes. -/
theorem hasNull_ofText (s : String) : (ofText s).hasNull = true ↔ '\x00' ∈ s.toList := by
  have hne : '\x00' ≠ '/' := by decide
  rw [← exists_mem_splitOn hne, hasNull, ofText, pathParts, List.any_eq_true]
  constructor
  · rintro ⟨part, hpart, hnull⟩
    obtain ⟨cs, hcs, rfl⟩ := List.mem_map.mp (List.mem_of_mem_filter hpart)
    exact ⟨cs, hcs, by simpa using hnull⟩
  · rintro ⟨cs, hcs, hnull⟩
    refine ⟨.ofList cs, List.mem_filter.mpr ⟨List.mem_map_of_mem hcs, ?_⟩, by simpa using hnull⟩
    -- a component with a null byte is neither empty nor a dot
    simp only [decide_eq_true_eq]
    constructor <;> intro h <;> rw [← String.toList_inj, String.toList_ofList] at h <;>
      rw [h] at hnull <;> exact absurd hnull (by decide)

/-- A path below one without null bytes has the null bytes of the text it ends with. -/
theorem hasNull_join {root : PurePath} (hroot : root.hasNull = false) (s : String) :
    (root.join (ofText s)).hasNull = true ↔ '\x00' ∈ s.toList := by
  rw [← hasNull_ofText, join]
  split
  · rfl
  · simp only [hasNull, List.any_append] at hroot ⊢
    rw [hroot, Bool.false_or]

theorem hasNull_parent {p : PurePath} (h : p.hasNull = false) : p.parent.hasNull = false := by
  rw [hasNull, List.any_eq_false] at h ⊢
  exact fun part hpart ↦ h part (List.dropLast_subset _ hpart)

end PurePath

/-! ### Wire contracts -/

/-- `KernformWireStatus`. -/
inductive KernformWireStatus
  | success
  | failure
  | refused
  deriving DecidableEq

instance : StrEnum KernformWireStatus where
  value
    | .success => "success"
    | .failure => "failure"
    | .refused => "refused"
  members := [.success, .failure, .refused]
  mem_members a := by cases a <;> decide
  nodup_values := by decide

/-- The severity of a diagnostic. -/
inductive KernformSeverity
  | info
  | warning
  | error
  deriving DecidableEq

instance : StrEnum KernformSeverity where
  value
    | .info => "info"
    | .warning => "warning"
    | .error => "error"
  members := [.info, .warning, .error]
  mem_members a := by cases a <;> decide
  nodup_values := by decide

/-- `KernformWireSignature`. -/
inductive KernformWireSignature
  | sdk
  | cli
  | api
  | interactiveWeb
  | daemon
  deriving DecidableEq

instance : StrEnum KernformWireSignature where
  value
    | .sdk => "sdk"
    | .cli => "cli"
    | .api => "api"
    | .interactiveWeb => "interactive-web"
    | .daemon => "daemon"
  members := [.sdk, .cli, .api, .interactiveWeb, .daemon]
  mem_members a := by cases a <;> decide
  nodup_values := by decide

/-- `KernformWireDiagnostic`. -/
structure KernformWireDiagnostic where
  id : String
  severity : KernformSeverity
  message : String
  context : Mapping

/-- `KernformWireArtifact`. -/
structure KernformWireArtifact where
  kind : String
  path : String
  hash : Option String

/-- `KernformWireEnvelope`, whose schema is a constant. -/
structure KernformWireEnvelope where
  command : String
  status : KernformWireStatus
  exitCode : Int
  result : JsonValue
  diagnostics : List KernformWireDiagnostic
  artifacts : List KernformWireArtifact

/-- `KernformWireCheckResult`; the mode and the schema are constants where they are given. -/
structure KernformWireCheckResult where
  conformant : Bool
  sourceRepository : Bool
  catalogHash : Option String
  filesChecked : Option Int
  legacySchema : Bool
  migrationRequired : Option Bool
  mappedSignatures : List KernformWireSignature
  managedState : Option Bool

/-- `KernformWireInitResult`. -/
structure KernformWireInitResult where
  operationCount : Int
  planId : String
  statePath : String

/-- `KernformWirePlanIntent`. -/
structure KernformWirePlanIntent where
  name : String
  requestedSignatures : List KernformWireSignature
  resolvedSignatures : List KernformWireSignature
  defaultSignature : Option KernformWireSignature
  capabilities : List String
  git : Bool

/-- `KernformWirePlanCatalog`. -/
structure KernformWirePlanCatalog where
  id : String
  hash : String
  resolvedAt : String
  source : String
  versions : List (String × String)
  images : List (String × String)

/-- `KernformWireCompileResult`, whose schema is a constant. -/
structure KernformWireCompileResult where
  planId : String
  generatorVersion : String
  intent : KernformWirePlanIntent
  catalog : KernformWirePlanCatalog
  operations : List Mapping
  diagnostics : List KernformWireDiagnostic

/-! ### Envelopes -/

/-- `_MAX_TOKEN_BYTES`. -/
def maxTokenBytes : Nat := 4096

/-- `_MAX_DIAGNOSTICS`. -/
def maxDiagnostics : Nat := 256

/-- `_MAX_ARTIFACTS`. -/
def maxArtifacts : Nat := 256

/-- `_DIAGNOSTIC_ID`: `KF-[A-Z]+-[0-9]{3}`. -/
def isDiagnosticId (s : String) : Bool :=
  match s.toList with
  | 'K' :: 'F' :: '-' :: rest =>
    !(rest.takeWhile Char.isUpper).isEmpty &&
      match rest.dropWhile Char.isUpper with
      | ['-', a, b, c] => a.isDigit && b.isDigit && c.isDigit
      | _ => false
  | _ => false

/-- `_ARTIFACT_HASH`: `[0-9a-f]{64}`. -/
def isArtifactHash (s : String) : Bool := isHex 64 s

/-- A text of an envelope: some text, of bounded length. -/
def IsBoundedText (s : String) : Prop := s ≠ "" ∧ (utf8 s).length ≤ maxTokenBytes

instance (s : String) : Decidable (IsBoundedText s) := inferInstanceAs (Decidable (_ ∧ _))

/-- The diagnostics of an envelope. -/
def ValidDiagnostic (d : KernformWireDiagnostic) : Prop :=
  isDiagnosticId d.id = true ∧ IsBoundedText d.message

instance (d : KernformWireDiagnostic) : Decidable (ValidDiagnostic d) :=
  inferInstanceAs (Decidable (_ ∧ _))

/-- The artifacts of an envelope. -/
def ValidArtifact (a : KernformWireArtifact) : Prop :=
  IsBoundedText a.kind ∧ IsBoundedText a.path ∧ a.hash.all isArtifactHash = true

instance (a : KernformWireArtifact) : Decidable (ValidArtifact a) :=
  inferInstanceAs (Decidable (_ ∧ _ ∧ _))

/-- An envelope that is not as it has to be. -/
def invalidEnvelope : Raised := .client .invalidEnvelope

/-- `_validate_envelope`. -/
def validateEnvelope (envelope : KernformWireEnvelope) (expectedCommand : String) :
    Calling Unit := do
  Checked.require (envelope.command = expectedCommand ∧
    0 ≤ envelope.exitCode ∧ envelope.exitCode ≤ 5) invalidEnvelope
  Checked.require (envelope.status = .success ↔ envelope.exitCode = 0) invalidEnvelope
  Checked.require (envelope.diagnostics.length ≤ maxDiagnostics ∧
    envelope.artifacts.length ≤ maxArtifacts) invalidEnvelope
  Checked.forEach envelope.diagnostics fun d ↦ Checked.require (ValidDiagnostic d) invalidEnvelope
  Checked.forEach envelope.artifacts fun a ↦ Checked.require (ValidArtifact a) invalidEnvelope

/-- An envelope that passes the checks. -/
structure ValidEnvelope (envelope : KernformWireEnvelope) (expectedCommand : String) : Prop where
  command : envelope.command = expectedCommand
  exitCode : 0 ≤ envelope.exitCode ∧ envelope.exitCode ≤ 5
  status : envelope.status = .success ↔ envelope.exitCode = 0
  diagnostics : envelope.diagnostics.length ≤ maxDiagnostics ∧
    ∀ d ∈ envelope.diagnostics, ValidDiagnostic d
  artifacts : envelope.artifacts.length ≤ maxArtifacts ∧ ∀ a ∈ envelope.artifacts, ValidArtifact a

/-- **Envelopes.** The envelopes that pass. -/
theorem validateEnvelope_eq_ok {envelope : KernformWireEnvelope} {expectedCommand : String} :
    validateEnvelope envelope expectedCommand = .ok ⟨⟩ ↔
      ValidEnvelope envelope expectedCommand := by
  simp only [validateEnvelope, Checked.bind_eq_ok, Checked.exists_unit, Checked.require_eq_ok,
    Checked.forEach_eq_ok]
  constructor
  · rintro ⟨⟨hcommand, hcode⟩, hstatus, ⟨hd, ha⟩, hdiagnostics, hartifacts⟩
    exact ⟨hcommand, hcode, hstatus, ⟨hd, hdiagnostics⟩, ha, hartifacts⟩
  · rintro ⟨hcommand, hcode, hstatus, ⟨hd, hdiagnostics⟩, ha, hartifacts⟩
    exact ⟨⟨hcommand, hcode⟩, hstatus, ⟨hd, ha⟩, hdiagnostics, hartifacts⟩

/-- The checks of an envelope fail with the error of the client. -/
theorem not_fails_validateEnvelope (envelope : KernformWireEnvelope) (expectedCommand : String) :
    ¬Checked.Fails Raised.IsEscape (validateEnvelope envelope expectedCommand) := by
  simp [validateEnvelope, Checked.fails_bind, Checked.fails_require, Checked.fails_forEach,
    invalidEnvelope, Raised.IsEscape]

end Blackcell.Adapters.Kernform
