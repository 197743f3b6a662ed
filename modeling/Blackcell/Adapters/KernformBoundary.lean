import Blackcell.Adapters.KernformCli

/-!
# The boundary to Kernform

Whatever the tool answers, a call of the client shall return a validated result whose paths are
inside the project root, or raise the error of the client. The first half holds of every call. The
second one does not: `Path.resolve` refuses a path with a null byte with a `ValueError`, which the
client expects of the state path and of the operations of a plan but not of an artifact; and values
that are nested too deeply exhaust the stack.

## Main definitions

* `Validated`, `Closed` : what a call shall return, and how it shall end.
* `Delivers`, `LosesEnvelope` : runs of the tool that give an envelope, or an exception.
* `Escapes` : the ways in which an exception escapes from a call.

## Main results

* `validated_of_call` : what is returned is validated, and its paths are inside the root.
* `fails_call` : when an exception escapes.
* `closed_call_iff` : a call ends as promised if and only if no exception escapes.
-/

namespace Blackcell.Adapters.Kernform

open Kernel Checked

variable (O : Outside) (client : KernformCliClient)

/-! ### What is promised -/

/-- A text is the canonical form of a path inside the root. -/
def Inside (path : String) (root : PurePath) : Prop :=
  ∃ candidate canonical, O.files.resolve false candidate = .ok canonical ∧
    canonical.IsRelativeTo root ∧ path = canonical.text

/-- A result as the boundary promises it. -/
structure Validated (r : KernformInvocationResult) : Prop where
  version : r.kernformVersion = supportedKernformVersion
  exitCode : 0 ≤ r.exitCode ∧ r.exitCode ≤ 5 ∧ (r.status = .success ↔ r.exitCode = 0)
  diagnostics : ∀ d ∈ r.diagnostics, ValidDiagnostic d
  artifacts : ∀ a ∈ r.artifacts, Inside O a.path r.projectRoot
  statePath : r.command = .init → ∀ m ∈ r.result,
    ∃ path, m.get "state_path" = .str path ∧ Inside O path r.projectRoot

/-- A call returns a validated result, or raises the error of the client. -/
def Closed (x : Calling KernformInvocationResult) : Prop :=
  (∃ r, x = .ok r ∧ Validated O r) ∨ ∃ code, x = .error (.client code)

/-! ### How exceptions escape -/

/-- A failure of the runner that the transport does not map. -/
def IsUnmapped (f : ProcessFailure) : Prop := (transportRaised f).IsEscape

/-- Captures of a finished process that are complete, within their limits, and quiet on `stderr`. -/
structure IsBounded (process : BoundedProcessResult) : Prop where
  stdout : process.stdout.complete = true ∧
    ∀ total ∈ process.stdout.totalBytes, total ≤ client.stdoutLimitBytes
  stderr : process.stderr.complete = true ∧
    ∀ total ∈ process.stderr.totalBytes, total ≤ client.stderrLimitBytes
  quiet : process.stderr.captured = []
  size : process.stdout.captured ≠ [] ∧ process.stdout.captured.length ≤ maxContractBytes

/-- The tool answers with an envelope that passes the checks and with the exit code that it names.
-/
def Delivers (argv : List String) (command : String) (cwd : PurePath)
    (envelope : KernformWireEnvelope) : Prop :=
  ∃ process, O.run argv cwd = .ok process ∧ IsBounded client process ∧
    O.decode process.stdout.captured = .ok envelope ∧ ValidEnvelope envelope command ∧
    process.returnCode = envelope.exitCode

/-- The runner raises what is not mapped, or the output is nested too deeply. -/
def LosesEnvelope (argv : List String) (cwd : PurePath) : Prop :=
  (∃ f, O.run argv cwd = .error f ∧ IsUnmapped f) ∨
    ∃ process, O.run argv cwd = .ok process ∧ IsBounded client process ∧
      O.decode process.stdout.captured = .error .recursionError

/-- The tool answers with the supported version. -/
def SupportsVersion (cwd : PurePath) : Prop :=
  ∃ envelope, Delivers O client (versionArgv client) "version" cwd envelope ∧
    envelope.status = .success ∧ envelope.exitCode = 0 ∧
    envelope.result = .str supportedKernformVersion

/-- The caller's own path has a null byte. -/
def RefusesPath : KernformCall → Prop
  | .check projectRoot => O.files.resolve true projectRoot = .error .valueError
  | .compile form => O.files.resolve true form = .error .valueError
  | .init request => validateInit request = .ok ⟨⟩ ∧ request.destination.hasNull = true

/-- The path of an artifact leads inside the root. -/
def Confines (root : PurePath) (a : KernformWireArtifact) : Prop :=
  ∃ canonical, O.files.resolve false (root.join (.ofText a.path)) = .ok canonical ∧
    canonical.IsRelativeTo root

/-- An artifact has a null byte in its path, and those before it are inside the root. -/
def NullArtifact (root : PurePath) (artifacts : List KernformWireArtifact) : Prop :=
  ∃ before a after, artifacts = before ++ a :: after ∧ (∀ b ∈ before, Confines O root b) ∧
    '\x00' ∈ a.path.toList

/-- The result of a command is nested too deeply for its conversion. -/
def ExhaustsResult (envelope : KernformWireEnvelope) : KernformCommand → Prop
  | .check => envelope.status = .success ∧ envelope.artifacts = [] ∧ envelope.result ≠ .null ∧
    O.convertCheck envelope.result = .error .recursionError
  | .compile => envelope.status = .success ∧ envelope.artifacts = [] ∧ envelope.result ≠ .null ∧
    (O.convertCompile envelope.result = .error .recursionError ∨
      ∃ result operationIds, O.convertCompile envelope.result = .ok result ∧ ValidCompile result ∧
        result.operations.mapM validateOperation = .ok operationIds ∧ operationIds.Nodup ∧
        O.jsonBuiltins result = none)
  | .init => envelope.status = .success ∧ envelope.result ≠ .null ∧
    O.convertInit envelope.result = .error .recursionError

/-- The ways in which an exception escapes from a call. -/
inductive Escapes (c : KernformCall) : Prop
  | path (h : RefusesPath O c)
  | version {site : Site} (hsite : locate O client c = .ok site)
      (h : LosesEnvelope O client (versionArgv client) site.cwd)
  | command {site : Site} (hsite : locate O client c = .ok site)
      (hversion : SupportsVersion O client site.cwd) (h : LosesEnvelope O client site.argv site.cwd)
  | artifact {site : Site} {envelope : KernformWireEnvelope} (hsite : locate O client c = .ok site)
      (hversion : SupportsVersion O client site.cwd)
      (henvelope : Delivers O client site.argv (StrEnum.value site.command) site.cwd envelope)
      (h : NullArtifact O site.root envelope.artifacts)
  | result {site : Site} {envelope : KernformWireEnvelope} (hsite : locate O client c = .ok site)
      (hversion : SupportsVersion O client site.cwd)
      (henvelope : Delivers O client site.argv (StrEnum.value site.command) site.cwd envelope)
      (hartifacts : ∀ a ∈ envelope.artifacts, Confines O site.root a)
      (h : ExhaustsResult O envelope site.command)
  | digest {site : Site} {envelope : KernformWireEnvelope} {artifacts : List KernformArtifact}
      {result : Option Mapping} (hsite : locate O client c = .ok site)
      (hversion : SupportsVersion O client site.cwd)
      (henvelope : Delivers O client site.argv (StrEnum.value site.command) site.cwd envelope)
      (hartifacts : confinedArtifacts O envelope.artifacts site.root = .ok artifacts)
      (hresult : validatedCommandResult O site.command envelope site.root artifacts = .ok result)
      (h : O.exhausts (envelopeDocument envelope) = true)

/-! ### Processes -/

section Processes

variable {O client} {argv : List String} {command : String} {cwd : PurePath}

theorem fails_transportRun : Fails Raised.IsEscape (transportRun O argv cwd) ↔
    ∃ f, O.run argv cwd = .error f ∧ IsUnmapped f := by
  rw [transportRun, fails_mapError]
  exact exists_congr fun f ↦ and_comm

theorem validateCapture_eq_ok {capture : BoundedStreamCapture} {limit : Nat} :
    validateCapture capture limit = .ok ⟨⟩ ↔
      capture.complete = true ∧ ∀ total ∈ capture.totalBytes, total ≤ limit := by
  simp [validateCapture]

theorem not_fails_validateCapture (capture : BoundedStreamCapture) (limit : Nat) :
    ¬Fails Raised.IsEscape (validateCapture capture limit) := by
  simp [validateCapture, fails_bind, fails_require, Raised.IsEscape]

theorem decodeContract_eq_ok {data : Bytes} {envelope : KernformWireEnvelope} :
    decodeContract O data = .ok envelope ↔
      (data ≠ [] ∧ data.length ≤ maxContractBytes) ∧ O.decode data = .ok envelope := by
  simp only [decodeContract, bind_eq_ok, exists_unit, require_eq_ok, mapError_eq_ok]

theorem isEscape_wireRaised {f : WireFailure} :
    (wireRaised f).IsEscape ↔ f = .recursionError := by
  cases f <;> simp [wireRaised, invalidEnvelope, Raised.IsEscape]

/-- A conversion lets only a `RecursionError` escape. -/
theorem fails_wire {α : Type} {x : Except WireFailure α} :
    Fails Raised.IsEscape (x.mapError wireRaised) ↔ x = .error .recursionError := by
  rw [fails_mapError]
  simp only [Fails, isEscape_wireRaised, exists_eq_left]

theorem fails_decodeContract {data : Bytes} :
    Fails Raised.IsEscape (decodeContract O data) ↔
      (data ≠ [] ∧ data.length ≤ maxContractBytes) ∧ O.decode data = .error .recursionError := by
  simp only [decodeContract, fails_bind, fails_require, exists_unit, require_eq_ok, fails_wire,
    invalidEnvelope, Raised.IsEscape, and_false, false_or]

/-- **Envelopes.** What is decoded is what the tool delivers. -/
theorem runAndDecode_eq_ok {envelope : KernformWireEnvelope} :
    runAndDecode O client argv command cwd = .ok envelope ↔
      Delivers O client argv command cwd envelope := by
  simp only [runAndDecode, transportRun, bind_eq_ok, exists_unit, require_eq_ok, mapError_eq_ok,
    validateCapture_eq_ok, decodeContract_eq_ok, validateEnvelope_eq_ok, pure_eq_ok]
  constructor
  · rintro ⟨process, hrun, hstdout, hstderr, hquiet, _, ⟨hsize, hdecode⟩, hvalid, hcode, rfl⟩
    exact ⟨process, hrun, ⟨hstdout, hstderr, hquiet, hsize⟩, hdecode, hvalid, hcode⟩
  · rintro ⟨process, hrun, ⟨hstdout, hstderr, hquiet, hsize⟩, hdecode, hvalid, hcode⟩
    exact ⟨process, hrun, hstdout, hstderr, hquiet, _, ⟨hsize, hdecode⟩, hvalid, hcode, rfl⟩

theorem fails_runAndDecode : Fails Raised.IsEscape (runAndDecode O client argv command cwd) ↔
    LosesEnvelope O client argv cwd := by
  have hrun : ∀ process, transportRun O argv cwd = .ok process ↔ O.run argv cwd = .ok process :=
    fun process ↦ mapError_eq_ok
  simp only [runAndDecode, fails_bind, fails_transportRun, fails_require, fails_decodeContract,
    fails_pure, not_fails_validateCapture, not_fails_validateEnvelope, exists_unit, require_eq_ok,
    validateCapture_eq_ok, invalidEnvelope, Raised.IsEscape, and_false, exists_false, or_false,
    false_or, hrun]
  refine or_congr_right (exists_congr fun process ↦ and_congr_right fun _ ↦ ?_)
  constructor
  · rintro ⟨hstdout, hstderr, hquiet, hsize, hdecode⟩
    exact ⟨⟨hstdout, hstderr, hquiet, hsize⟩, hdecode⟩
  · rintro ⟨⟨hstdout, hstderr, hquiet, hsize⟩, hdecode⟩
    exact ⟨hstdout, hstderr, hquiet, hsize, hdecode⟩

theorem probeVersion_eq_ok {version : String} : probeVersion O client cwd = .ok version ↔
    SupportsVersion O client cwd ∧ version = supportedKernformVersion := by
  simp only [probeVersion, bind_eq_ok, exists_unit, require_eq_ok, runAndDecode_eq_ok, pure_eq_ok]
  constructor
  · rintro ⟨envelope, henvelope, hversion, rfl⟩
    exact ⟨⟨envelope, henvelope, hversion⟩, rfl⟩
  · rintro ⟨⟨envelope, henvelope, hversion⟩, rfl⟩
    exact ⟨envelope, henvelope, hversion, rfl⟩

theorem fails_probeVersion : Fails Raised.IsEscape (probeVersion O client cwd) ↔
    LosesEnvelope O client (versionArgv client) cwd := by
  simp only [probeVersion, fails_bind, fails_runAndDecode, fails_require, fails_pure,
    Raised.IsEscape, and_false, exists_false, or_false]

end Processes

/-! ### Paths -/

section Paths

variable {O} {root canonical : PurePath} {path : String}

theorem isEscape_resolveRaised {code : KernformClientFailureCode} {f : ResolveFailure} :
    (resolveRaised code f).IsEscape ↔ f = .valueError := by
  cases f <;> simp [resolveRaised, Raised.IsEscape]

theorem fails_resolve {code : KernformClientFailureCode} {strict : Bool} {p : PurePath} :
    Fails Raised.IsEscape ((O.files.resolve strict p).mapError (resolveRaised code)) ↔
      O.files.resolve strict p = .error .valueError := by
  rw [fails_mapError]
  simp only [Fails, isEscape_resolveRaised, exists_eq_left]

theorem resolve_eq_valueError {p : PurePath} :
    O.files.resolve false p = .error .valueError ↔ p.hasNull = true :=
  ⟨O.files.hasNull_of_valueError, O.files.valueError_of_hasNull⟩

theorem confinedPath_eq_ok : confinedPath O path root = .ok canonical ↔
    O.files.resolve false (root.join (.ofText path)) = .ok canonical ∧
      canonical.IsRelativeTo root := by
  simp only [confinedPath, bind_eq_ok, exists_unit, require_eq_ok, mapError_eq_ok, pure_eq_ok]
  constructor
  · rintro ⟨_, h, hinside, rfl⟩
    exact ⟨h, hinside⟩
  · rintro ⟨h, hinside⟩
    exact ⟨_, h, hinside, rfl⟩

/-- A path of an output lets a `ValueError` escape if and only if it has a null byte. -/
theorem fails_confinedPath (hroot : root.hasNull = false) :
    Fails Raised.IsEscape (confinedPath O path root) ↔ '\x00' ∈ path.toList := by
  simp only [confinedPath, fails_bind, fails_resolve, fails_require, fails_pure,
    resolve_eq_valueError, Raised.IsEscape, and_false, exists_false, or_false,
    PurePath.hasNull_join hroot]

theorem confinedArtifact_eq_ok {a : KernformWireArtifact} {b : KernformArtifact} :
    confinedArtifact O root a = .ok b ↔
      ∃ canonical, O.files.resolve false (root.join (.ofText a.path)) = .ok canonical ∧
        canonical.IsRelativeTo root ∧ b = ⟨a.kind, canonical.text, a.hash⟩ := by
  simp only [confinedArtifact, bind_eq_ok, confinedPath_eq_ok, pure_eq_ok, and_assoc]
  exact exists_congr fun _ ↦ and_congr_right fun _ ↦ and_congr_right fun _ ↦ eq_comm

theorem exists_confinedArtifact {a : KernformWireArtifact} :
    (∃ b, confinedArtifact O root a = .ok b) ↔ Confines O root a := by
  simp only [confinedArtifact_eq_ok, Confines]
  constructor
  · rintro ⟨_, canonical, h, hinside, rfl⟩
    exact ⟨canonical, h, hinside⟩
  · rintro ⟨canonical, h, hinside⟩
    exact ⟨_, canonical, h, hinside, rfl⟩

/-- Accepted artifacts are inside the root. -/
theorem inside_of_confinedArtifacts {artifacts : List KernformWireArtifact}
    {accepted : List KernformArtifact} (h : confinedArtifacts O artifacts root = .ok accepted) :
    ∀ a ∈ accepted, Inside O a.path root := by
  intro a ha
  obtain ⟨_, -, hconfined⟩ := exists_of_mem_mapM h ha
  obtain ⟨canonical, hresolve, hinside, rfl⟩ := confinedArtifact_eq_ok.mp hconfined
  exact ⟨_, canonical, hresolve, hinside, rfl⟩

theorem confines_of_confinedArtifacts {artifacts : List KernformWireArtifact}
    {accepted : List KernformArtifact} (h : confinedArtifacts O artifacts root = .ok accepted) :
    (accepted = [] ↔ artifacts = []) ∧ ∀ a ∈ artifacts, Confines O root a := by
  have hforall := mapM_eq_ok.mp h
  refine ⟨?_, fun a ha ↦ ?_⟩
  · rw [← List.length_eq_zero_iff, ← List.length_eq_zero_iff, hforall.length_eq]
  · exact exists_confinedArtifact.mp (exists_ok_of_mem_mapM h ha)

theorem exists_confinedArtifacts {artifacts : List KernformWireArtifact}
    (h : ∀ a ∈ artifacts, Confines O root a) :
    ∃ accepted, confinedArtifacts O artifacts root = .ok accepted := by
  induction artifacts with
  | nil => exact ⟨[], rfl⟩
  | cons a artifacts ih =>
    obtain ⟨ha, hrest⟩ := List.forall_mem_cons.mp h
    obtain ⟨b, hb⟩ := exists_confinedArtifact.mpr ha
    obtain ⟨accepted, haccepted⟩ := ih hrest
    refine ⟨b :: accepted, ?_⟩
    rw [confinedArtifacts] at haccepted ⊢
    rw [List.mapM_cons, hb, haccepted]
    rfl

theorem fails_confinedArtifacts {artifacts : List KernformWireArtifact}
    (hroot : root.hasNull = false) :
    Fails Raised.IsEscape (confinedArtifacts O artifacts root) ↔ NullArtifact O root artifacts := by
  have hfails : ∀ a : KernformWireArtifact, Fails Raised.IsEscape (confinedArtifact O root a) ↔
      '\x00' ∈ a.path.toList := by
    intro a
    simp only [confinedArtifact, fails_bind, fails_confinedPath hroot, fails_pure, and_false,
      exists_false, or_false]
  simp only [confinedArtifacts, fails_mapM, hfails, exists_confinedArtifact, NullArtifact]

theorem requireToken_eq_ok {value : String} {code : KernformClientFailureCode} :
    requireToken value code = .ok ⟨⟩ ↔ isBlank value = false ∧ (utf8 value).length ≤ maxTokenBytes ∧
      (value.toList.any fun c ↦ c.toNat < 0x20 || c.toNat = 0x7F) = false := by
  simp only [requireToken, bind_eq_ok, exists_unit, require_eq_ok]

theorem not_fails_requireToken (value : String) (code : KernformClientFailureCode) :
    ¬Fails Raised.IsEscape (requireToken value code) := by
  simp [requireToken, fails_bind, fails_require, Raised.IsEscape]

/-- A token has no null byte, so the state path lets no exception escape. -/
theorem not_fails_confinedResultPath (hroot : root.hasNull = false) (value : String) :
    ¬Fails Raised.IsEscape (confinedResultPath O value root) := by
  simp only [confinedResultPath, fails_bind, not_fails_requireToken, fails_confinedPath hroot,
    fails_pure, exists_unit, requireToken_eq_ok, and_false, exists_false, or_false, false_or]
  rintro ⟨⟨-, -, hcontrol⟩, hnull⟩
  exact absurd (List.any_eq_false.mp hcontrol _ hnull) (by decide)

theorem confinedResultPath_eq_ok {value : String} (h : confinedResultPath O value root = .ok path) :
    Inside O path root := by
  simp only [confinedResultPath, bind_eq_ok, exists_unit, confinedPath_eq_ok, pure_eq_ok] at h
  obtain ⟨-, canonical, ⟨hresolve, hinside⟩, rfl⟩ := h
  exact ⟨_, canonical, hresolve, hinside, rfl⟩

end Paths

/-! ### Results of commands -/

section Results

variable {O} {envelope : KernformWireEnvelope} {artifacts : List KernformArtifact}
  {root : PurePath}

theorem not_fails_plainResultObject (value : JsonValue) :
    ¬Fails Raised.IsEscape (plainResultObject value) := by
  cases value <;> simp [plainResultObject, invalidEnvelope, Raised.IsEscape]

theorem fails_validatedCheckResult :
    Fails Raised.IsEscape (validatedCheckResult O envelope artifacts) ↔
      envelope.status = .success ∧ artifacts = [] ∧ envelope.result ≠ .null ∧
        O.convertCheck envelope.result = .error .recursionError := by
  unfold validatedCheckResult
  simp only [fails_bind, fails_require, fails_ite, fails_wire, fails_pure, require_eq_ok,
    not_fails_plainResultObject, exists_unit, invalidEnvelope, Raised.IsEscape, and_false,
    exists_false, or_false, false_or]
  cases envelope.status <;> simp

theorem not_fails_operationText (operation : Mapping) (key : String) :
    ¬Fails Raised.IsEscape (operationText operation key) := by
  unfold operationText
  split
  · split <;> simp [invalidEnvelope, Raised.IsEscape]
  · simp [invalidEnvelope, Raised.IsEscape]

theorem not_fails_validateOperation (operation : Mapping) :
    ¬Fails Raised.IsEscape (validateOperation operation) := by
  simp only [validateOperation, fails_bind, fails_forEach, fails_require, fails_pure,
    not_fails_operationText, invalidEnvelope, Raised.IsEscape, and_false, exists_false, or_self,
    not_false_eq_true]

theorem fails_validatedCompileResult :
    Fails Raised.IsEscape (validatedCompileResult O envelope artifacts) ↔
      envelope.status = .success ∧ artifacts = [] ∧ envelope.result ≠ .null ∧
        (O.convertCompile envelope.result = .error .recursionError ∨
          ∃ result operationIds, O.convertCompile envelope.result = .ok result ∧
            ValidCompile result ∧ result.operations.mapM validateOperation = .ok operationIds ∧
            operationIds.Nodup ∧ O.jsonBuiltins result = none) := by
  unfold validatedCompileResult
  simp only [fails_bind, fails_require, fails_wire, fails_pure, fails_mapM, fails_ofOption,
    require_eq_ok, mapError_eq_ok, not_fails_plainResultObject, not_fails_validateOperation,
    exists_unit, invalidEnvelope, Raised.IsEscape, and_false, and_true, exists_false, or_false,
    false_or, and_assoc]
  simp only [exists_and_left]

theorem not_fails_managedPaths (paths : List (String × String))
    (artifacts : List KernformArtifact) :
    ¬Fails Raised.IsEscape (managedPaths paths artifacts) := by
  induction artifacts generalizing paths with
  | nil => simp [managedPaths]
  | cons a artifacts ih =>
    simp [managedPaths, fails_bind, fails_require, ih, invalidEnvelope, Raised.IsEscape]

theorem fails_validatedInitResult (hroot : root.hasNull = false) :
    Fails Raised.IsEscape (validatedInitResult O envelope root artifacts) ↔
      envelope.status = .success ∧ envelope.result ≠ .null ∧
        O.convertInit envelope.result = .error .recursionError := by
  unfold validatedInitResult
  simp only [fails_bind, fails_require, fails_ite, fails_wire, fails_pure, require_eq_ok,
    not_fails_confinedResultPath hroot, not_fails_managedPaths, exists_unit, invalidEnvelope,
    Raised.IsEscape, and_false, exists_false, or_false, false_or, not_not]

theorem fails_validatedCommandResult {command : KernformCommand} (hroot : root.hasNull = false)
    (hartifacts : artifacts = [] ↔ envelope.artifacts = []) :
    Fails Raised.IsEscape (validatedCommandResult O command envelope root artifacts) ↔
      ExhaustsResult O envelope command := by
  cases command with
  | check => rw [validatedCommandResult, fails_validatedCheckResult, hartifacts, ExhaustsResult]
  | compile => rw [validatedCommandResult, fails_validatedCompileResult, hartifacts, ExhaustsResult]
  | init => rw [validatedCommandResult, fails_validatedInitResult hroot, ExhaustsResult]

/-- The state path of an initialized project is inside the root. -/
theorem inside_of_validatedInitResult {m : Mapping}
    (h : validatedInitResult O envelope root artifacts = .ok (some m)) :
    ∃ path, m.get "state_path" = .str path ∧ Inside O path root := by
  unfold validatedInitResult at h
  split at h
  · simp at h
  · simp only [bind_eq_ok, exists_unit, pure_eq_ok, Option.some.injEq] at h
    obtain ⟨-, result, -, -, path, hpath, -, -, -, rfl⟩ := h
    exact ⟨path, rfl, confinedResultPath_eq_ok hpath⟩

end Results

/-! ### Calls -/

section Calls

variable {O client} {site : Site} {c : KernformCall}

theorem not_fails_validateInit (request : InitRequest) :
    ¬Fails Raised.IsEscape (validateInit request) := by
  simp [validateInit, fails_bind, fails_require, fails_forEach, not_fails_requireToken,
    Raised.IsEscape]

/-- The root of a project has no null byte. -/
theorem hasNull_root (h : locate O client c = .ok site) : site.root.hasNull = false := by
  cases c with
  | check projectRoot =>
    simp only [locate, existingProjectRoot, bind_eq_ok, exists_unit, mapError_eq_ok,
      pure_eq_ok] at h
    obtain ⟨root, ⟨_, hresolve, -, rfl⟩, rfl⟩ := h
    exact O.files.hasNull_of_ok hresolve
  | compile form =>
    simp only [locate, existingFormPath, bind_eq_ok, exists_unit, mapError_eq_ok, pure_eq_ok] at h
    obtain ⟨path, ⟨_, hresolve, -, rfl⟩, rfl⟩ := h
    exact PurePath.hasNull_parent (O.files.hasNull_of_ok hresolve)
  | init request =>
    simp only [locate, initializationRoot, bind_eq_ok, exists_unit, mapError_eq_ok,
      pure_eq_ok] at h
    obtain ⟨-, root, ⟨_, hresolve, _, -, -, rfl⟩, rfl⟩ := h
    exact O.files.hasNull_of_ok hresolve

/-- Before the tool runs, only the caller's own path lets an exception escape. -/
theorem fails_locate : Fails Raised.IsEscape (locate O client c) ↔ RefusesPath O c := by
  cases c with
  | check projectRoot =>
    simp only [locate, existingProjectRoot, fails_bind, fails_resolve, fails_require, fails_pure,
      Raised.IsEscape, and_false, exists_false, or_false, RefusesPath]
  | compile form =>
    simp only [locate, existingFormPath, fails_bind, fails_resolve, fails_require, fails_pure,
      Raised.IsEscape, and_false, exists_false, or_false, RefusesPath]
  | init request =>
    have hparent : ∀ root, O.files.resolve false request.destination = .ok root →
        O.files.resolve true root.parent ≠ .error .valueError := by
      intro root hroot hvalue
      have hclean := PurePath.hasNull_parent (O.files.hasNull_of_ok hroot)
      rw [O.files.hasNull_of_valueError hvalue] at hclean
      cases hclean
    simp only [locate, initializationRoot, fails_bind, fails_resolve, fails_require, fails_pure,
      not_fails_validateInit, mapError_eq_ok, exists_unit, resolve_eq_valueError, Raised.IsEscape,
      and_false, exists_false, or_false, false_or, RefusesPath]
    refine and_congr_right fun _ ↦ or_iff_left ?_
    rintro ⟨root, hroot, hvalue⟩
    exact hparent root hroot hvalue

theorem fails_jsonDigest {value : JsonValue} :
    Fails Raised.IsEscape (jsonDigest O value) ↔ O.exhausts value = true := by
  simp only [jsonDigest, fails_bind, fails_require, fails_pure, Raised.IsEscape, and_false,
    exists_false, or_false, and_true, Bool.not_eq_false]

/-- What escapes behind the probe of the version. -/
theorem fails_invoke {version : String} (hroot : site.root.hasNull = false) :
    Fails Raised.IsEscape (invoke O client site version) ↔
      LosesEnvelope O client site.argv site.cwd ∨
        ∃ envelope, Delivers O client site.argv (StrEnum.value site.command) site.cwd envelope ∧
          (NullArtifact O site.root envelope.artifacts ∨
            ∃ artifacts, confinedArtifacts O envelope.artifacts site.root = .ok artifacts ∧
              (ExhaustsResult O envelope site.command ∨
                ∃ result, validatedCommandResult O site.command envelope site.root artifacts =
                  .ok result ∧ O.exhausts (envelopeDocument envelope) = true)) := by
  simp only [invoke, fails_bind, fails_runAndDecode, runAndDecode_eq_ok,
    fails_confinedArtifacts hroot, fails_jsonDigest, fails_pure, and_false, exists_false, or_false]
  refine or_congr_right (exists_congr fun envelope ↦ and_congr_right fun _ ↦ or_congr_right
    (exists_congr fun artifacts ↦ and_congr_right fun hartifacts ↦ ?_))
  rw [fails_validatedCommandResult hroot (confines_of_confinedArtifacts hartifacts).1]

/-- **Escapes.** When an exception escapes from a call. -/
theorem fails_call : Fails Raised.IsEscape (call O client c) ↔ Escapes O client c := by
  simp only [call, fails_bind, fails_locate, fails_probeVersion, probeVersion_eq_ok]
  constructor
  · rintro (hpath | ⟨site, hsite, hversion | ⟨version, ⟨hversion, rfl⟩, hinvoke⟩⟩)
    · exact .path hpath
    · exact .version hsite hversion
    rcases (fails_invoke (hasNull_root hsite)).mp hinvoke with
      hcommand | ⟨envelope, henvelope, hnull | ⟨artifacts, hartifacts, hrest⟩⟩
    · exact .command hsite hversion hcommand
    · exact .artifact hsite hversion henvelope hnull
    rcases hrest with hresult | ⟨_, hresult, hdigest⟩
    · exact .result hsite hversion henvelope (confines_of_confinedArtifacts hartifacts).2 hresult
    · exact .digest hsite hversion henvelope hartifacts hresult hdigest
  · intro h
    cases h with
    | path h => exact .inl h
    | version hsite h => exact .inr ⟨_, hsite, .inl h⟩
    | command hsite hversion h =>
      exact .inr ⟨_, hsite, .inr ⟨_, ⟨hversion, rfl⟩,
        (fails_invoke (hasNull_root hsite)).mpr (.inl h)⟩⟩
    | artifact hsite hversion henvelope h =>
      exact .inr ⟨_, hsite, .inr ⟨_, ⟨hversion, rfl⟩,
        (fails_invoke (hasNull_root hsite)).mpr (.inr ⟨_, henvelope, .inl h⟩)⟩⟩
    | result hsite hversion henvelope hartifacts h =>
      obtain ⟨artifacts, haccepted⟩ := exists_confinedArtifacts hartifacts
      exact .inr ⟨_, hsite, .inr ⟨_, ⟨hversion, rfl⟩,
        (fails_invoke (hasNull_root hsite)).mpr
          (.inr ⟨_, henvelope, .inr ⟨_, haccepted, .inl h⟩⟩)⟩⟩
    | digest hsite hversion henvelope hartifacts hresult h =>
      exact .inr ⟨_, hsite, .inr ⟨_, ⟨hversion, rfl⟩,
        (fails_invoke (hasNull_root hsite)).mpr
          (.inr ⟨_, henvelope, .inr ⟨_, hartifacts, .inr ⟨_, hresult, h⟩⟩⟩)⟩⟩

/-- **Results.** What is returned is validated, and its paths are inside the root. -/
theorem validated_of_call {r : KernformInvocationResult} (h : call O client c = .ok r) :
    Validated O r := by
  simp only [call, invoke, bind_eq_ok, probeVersion_eq_ok, runAndDecode_eq_ok, pure_eq_ok] at h
  obtain ⟨site, -, version, ⟨-, rfl⟩, envelope, henvelope, artifacts, hartifacts, result, hresult,
    digest, -, rfl⟩ := h
  obtain ⟨process, -, -, -, hvalid, -⟩ := henvelope
  refine ⟨rfl, ⟨hvalid.exitCode.1, hvalid.exitCode.2, hvalid.status⟩, hvalid.diagnostics.2,
    inside_of_confinedArtifacts hartifacts, ?_⟩
  rintro hcommand m hm
  dsimp only at hcommand hm ⊢
  rw [hcommand, validatedCommandResult, Option.mem_def.mp hm] at hresult
  exact inside_of_validatedInitResult hresult

/-- A call whose results are validated ends as promised if no exception escapes. -/
theorem closed_iff_not_fails {x : Calling KernformInvocationResult}
    (hx : ∀ r, x = .ok r → Validated O r) : Closed O x ↔ ¬Fails Raised.IsEscape x := by
  rw [not_fails_iff, Closed]
  refine or_congr (exists_congr fun r ↦ and_iff_left_of_imp (hx r)) ?_
  constructor
  · rintro ⟨code, h⟩
    exact ⟨_, id, h⟩
  · rintro ⟨e, he, h⟩
    cases e with
    | client code => exact ⟨code, h⟩
    | escaped e => exact absurd trivial he

/-- **The boundary.** A call returns a validated result or raises the error of the client if and
only if no exception escapes. -/
theorem closed_call_iff (O : Outside) (client : KernformCliClient) (c : KernformCall) :
    Closed O (call O client c) ↔ ¬Escapes O client c := by
  rw [closed_iff_not_fails fun _ ↦ validated_of_call, fails_call]

end Calls

/-! ### A null byte -/

namespace Sample

/-- The answer to the probe of the version. -/
def versionOutput : String :=
  "\x7b\"schema\":\"kernform.command/v2\",\"command\":\"version\",\"status\":\"success\"," ++
    "\"exit_code\":0,\"result\":\"0.2.0\",\"diagnostics\":[],\"artifacts\":[]\x7d"

/-- An answer to a check that names an artifact with a null byte in its path. -/
def checkOutput : String :=
  "\x7b\"schema\":\"kernform.command/v2\",\"command\":\"check\",\"status\":\"success\"," ++
    "\"exit_code\":0,\"result\":null,\"diagnostics\":[]," ++
      "\"artifacts\":[\x7b\"kind\":\"file\",\"path\":\"a\\u0000b\",\"hash\":null\x7d]\x7d"

/-- The envelope of the version. -/
def versionEnvelope : KernformWireEnvelope :=
  ⟨"version", .success, 0, .str "0.2.0", [], []⟩

/-- The envelope of the check. -/
def checkEnvelope : KernformWireEnvelope :=
  ⟨"check", .success, 0, .null, [], [⟨"file", "a\x00b", none⟩]⟩

theorem total_captured (captured : Bytes) :
    true = true → ∃ n, some captured.length = some n ∧ captured.length ≤ n :=
  fun _ ↦ ⟨_, rfl, le_rfl⟩

theorem total_missing (captured : Bytes) : true = false → some captured.length = none := by
  rintro ⟨⟩

/-- A complete capture. -/
def capture (captured : Bytes) : BoundedStreamCapture where
  captured := captured
  totalBytes := some captured.length
  complete := true
  total_of_complete := total_captured captured
  total_of_incomplete := total_missing captured

/-- A file system without links in which every path is a directory. -/
def files : Files where
  resolve _ path := if path.hasNull then .error .valueError else .ok path
  isDir _ := true
  isFile _ := false
  exists_ _ := true
  valueError_of_hasNull h := if_pos h
  hasNull_of_valueError {_ path} h := by
    by_contra hne
    rw [if_neg hne] at h
    cases h
  hasNull_of_ok {_ path canonical} h := by
    split at h
    · cases h
    · rename_i hne
      cases h
      exact Bool.not_eq_true _ ▸ hne

/-- The client. -/
def kernform : KernformCliClient := ⟨"kernform", 1048576, 65536⟩

/-- What the tool prints. -/
def output (argv : List String) : String :=
  if argv = versionArgv kernform then versionOutput else checkOutput

/-- The envelopes of both outputs. -/
def decode (data : Bytes) : Except WireFailure KernformWireEnvelope :=
  if data = utf8 versionOutput then .ok versionEnvelope
  else if data = utf8 checkOutput then .ok checkEnvelope
  else .error .caught

theorem decode_versionOutput : decode (utf8 versionOutput) = .ok versionEnvelope := if_pos rfl

theorem decode_checkOutput : decode (utf8 checkOutput) = .ok checkEnvelope := by
  have hne : utf8 checkOutput ≠ utf8 versionOutput :=
    fun h ↦ absurd (utf8_inj.mp h) (by decide +kernel)
  rw [decode, if_neg hne, if_pos rfl]

/-- A tool that answers every command with the check. -/
def outside : Outside where
  host := .ofTables [] [] []
  run argv _ := .ok ⟨0, capture (utf8 (output argv)), capture []⟩
  files := files
  decode := decode
  convertCheck _ := .error .caught
  convertCompile _ := .error .caught
  convertInit _ := .error .caught
  jsonBuiltins _ := none
  exhausts _ := false

/-- The root of the project. -/
def root : PurePath := .ofText "/srv/project"

/-- The check of the project. -/
def site : Site :=
  ⟨.check, ["kernform", "--agent", "--format", "json", "check", root.text], root, root⟩

/-- The outputs are not empty, and within the limits. -/
theorem length_output (argv : List String) :
    0 < (utf8 (output argv)).length ∧ (utf8 (output argv)).length ≤ 1048576 := by
  unfold output
  split <;> decide +kernel

theorem delivers {argv : List String} {command : String} {envelope : KernformWireEnvelope}
    (hdecode : decode (utf8 (output argv)) = .ok envelope)
    (hvalid : ValidEnvelope envelope command) (hcode : envelope.exitCode = 0) :
    Delivers outside kernform argv command root envelope := by
  obtain ⟨hpos, hlimit⟩ := length_output argv
  refine ⟨_, rfl, ⟨⟨rfl, ?_⟩, ⟨rfl, ?_⟩, rfl, List.ne_nil_of_length_pos hpos, hlimit⟩, hdecode,
    hvalid, hcode.symm⟩
  · rintro _ ⟨⟩
    exact hlimit
  · rintro _ ⟨⟩
    exact Nat.zero_le _

theorem supportsVersion : SupportsVersion outside kernform root := by
  have houtput : output (versionArgv kernform) = versionOutput := if_pos rfl
  have hdecode : decode (utf8 (output (versionArgv kernform))) = .ok versionEnvelope := by
    rw [houtput, decode_versionOutput]
  exact ⟨_, delivers hdecode (validateEnvelope_eq_ok.mp rfl) rfl, rfl, rfl, rfl⟩

theorem delivers_check : Delivers outside kernform site.argv "check" root checkEnvelope := by
  have houtput : output site.argv = checkOutput := if_neg (by decide)
  have hdecode : decode (utf8 (output site.argv)) = .ok checkEnvelope := by
    rw [houtput, decode_checkOutput]
  have hartifact : ValidArtifact ⟨"file", "a\x00b", none⟩ := by decide +kernel
  exact delivers hdecode ⟨rfl, by decide, by decide, ⟨by decide, by decide⟩, by decide,
    List.forall_mem_singleton.mpr hartifact⟩ rfl

end Sample

/-- An artifact whose path has a null byte lets a `ValueError` escape. -/
theorem not_closed_null_artifact :
    ¬Closed Sample.outside (call Sample.outside Sample.kernform (.check Sample.root)) := by
  rw [closed_iff_not_fails fun _ ↦ validated_of_call, not_not, fails_call]
  have hsite : locate Sample.outside Sample.kernform (.check Sample.root) = .ok Sample.site := rfl
  exact .artifact hsite Sample.supportsVersion Sample.delivers_check
    ⟨[], _, [], rfl, by simp, by decide⟩

end Blackcell.Adapters.Kernform
