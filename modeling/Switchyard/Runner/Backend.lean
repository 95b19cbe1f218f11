import Switchyard.Runner.Closure

/-! What a run asks of its machine between its lookup and its claim. A capture of the executable
that fails is closed by the run itself; every other refusal here raises, and retains nothing. -/

namespace Switchyard.Runner
open Library Json AppServer Admission

/-- The installed package, and what the paths of one call turn out to be when that call asks. An
error is an exception of the question itself. The capture is false where it raises an `OSError` or
an `AdapterProtocolError`, the two that `verify_backend` turns into `ExecutableCaptureError`. -/
structure Machine where
  floatRepr : ℚ → Text
  installation : Installation
  workspaceIsDirectory : Except ClassName Bool
  executableIsExecutable : Except ClassName Bool
  homeIsIsolatedDirectory : Except ClassName Bool
  captured : Except ClassName Bool

def BACKEND_FIELDS : List String := ["schema", "executable", "executable_sha256", "executable_shape", "codex_source_head",
  "codex_home", "provider", "model"]

/-- `Path(value).is_absolute()`. -/
def isAbsolute : Json → Except ClassName Bool
  | .str path => .ok (path.head? == some 47)
  | _ => .error (className "TypeError")

/-- The path is absolute and the machine answers its question with yes. It is not asked otherwise. -/
def demandPath (path : Json) (answer : Except ClassName Bool) : Except ClassName Unit := do
  let absolute ← isAbsolute path
  demand absolute
  let holds ← answer
  demand holds

def validateBackendSpec (spec request : Members) : Except ClassName Unit := do
  demand (closed spec BACKEND_FIELDS)
  demand (is (get spec "schema") "switchyard.provider-backend/v1")
  demand (is (get spec "codex_source_head") FINAL_CODEX_SOURCE_HEAD)
  let owner ← item request "codex_owner_head"
  demand (equal (get spec "codex_source_head") owner)
  let provider ← item request "provider_id"
  demand (equal (get spec "provider") provider)
  let model ← item request "model_id"
  demand (equal (get spec "model") model)
  demand (is (get spec "provider") "openai")

/-- Whether the executable was captured. -/
def verifyBackend (machine : Machine) (spec request : Members) : Except ClassName Bool := do
  validateBackendSpec spec request
  demandPath (get spec "executable") machine.executableIsExecutable
  demandPath (get spec "codex_home") machine.homeIsIsolatedDirectory
  demand (is (get spec "executable_shape") "standalone-app-server" || is (get spec "executable_shape") "codex-cli")
  machine.captured

/-- What a run does between its lookup and its claim or its closure. -/
def surveyMachine (host : Host) (machine : Machine) (inputs : Inputs) : Except ClassName Bool := do
  let _ ← preflightRequest host machine.floatRepr machine.installation inputs.request inputs.brief inputs.backend
  let workspace ← item inputs.request "workspace_identity"
  demandPath workspace machine.workspaceIsDirectory
  verifyBackend machine inputs.backend inputs.request

/-- An absolute path that is what it should be. -/
def Stands (path : Json) (answer : Except ClassName Bool) : Prop := isAbsolute path = .ok true ∧ answer = .ok true

/-- The machine meets every demand of a run on these inputs, whether or not the capture succeeds. -/
structure Machine.Suits (host : Host) (machine : Machine) (inputs : Inputs) : Prop where
  preflighted : ∃ report, preflightRequest host machine.floatRepr machine.installation inputs.request inputs.brief
    inputs.backend = .ok report
  workspace : ∃ path, item inputs.request "workspace_identity" = .ok path ∧ Stands path machine.workspaceIsDirectory
  spec : validateBackendSpec inputs.backend inputs.request = .ok ()
  executable : Stands (get inputs.backend "executable") machine.executableIsExecutable
  home : Stands (get inputs.backend "codex_home") machine.homeIsIsolatedDirectory
  shape : is (get inputs.backend "executable_shape") "standalone-app-server" = true ∨
    is (get inputs.backend "executable_shape") "codex-cli" = true
  captured : ∃ captured, machine.captured = .ok captured

theorem demandPath_ok {path : Json} {answer : Except ClassName Bool} :
    demandPath path answer = .ok () ↔ Stands path answer := by
  unfold demandPath
  constructor
  · intro passed
    obtain ⟨absolute, rooted, passed⟩ := bind_ok.mp passed
    obtain ⟨_, first, passed⟩ := bind_ok.mp passed
    obtain ⟨holds, answered, passed⟩ := bind_ok.mp passed
    exact ⟨demand_ok.mp first ▸ rooted, demand_ok.mp passed ▸ answered⟩
  · rintro ⟨rooted, answered⟩
    rw [rooted, answered]
    rfl

theorem surveyMachine_ok {host : Host} {machine : Machine} {inputs : Inputs} :
    (∃ captured, surveyMachine host machine inputs = .ok captured) ↔ machine.Suits host inputs := by
  unfold surveyMachine verifyBackend
  constructor
  · rintro ⟨captured, passed⟩
    obtain ⟨report, preflighted, passed⟩ := bind_ok.mp passed
    obtain ⟨workspace, named, passed⟩ := bind_ok.mp passed
    obtain ⟨_, stands, passed⟩ := bind_ok.mp passed
    obtain ⟨_, spec, passed⟩ := bind_ok.mp passed
    obtain ⟨_, executable, passed⟩ := bind_ok.mp passed
    obtain ⟨_, home, passed⟩ := bind_ok.mp passed
    obtain ⟨_, shape, passed⟩ := bind_ok.mp passed
    exact ⟨⟨report, preflighted⟩, ⟨workspace, named, demandPath_ok.mp stands⟩, spec, demandPath_ok.mp executable,
      demandPath_ok.mp home, Bool.or_eq_true _ _ ▸ demand_ok.mp shape, captured, passed⟩
  · rintro ⟨⟨report, preflighted⟩, ⟨workspace, named, stands⟩, spec, executable, home, shape, captured, passed⟩
    refine ⟨captured, bind_ok.mpr ⟨report, preflighted, bind_ok.mpr ⟨workspace, named, ?_⟩⟩⟩
    refine bind_ok.mpr ⟨(), demandPath_ok.mpr stands, bind_ok.mpr ⟨(), spec, ?_⟩⟩
    refine bind_ok.mpr ⟨(), demandPath_ok.mpr executable, bind_ok.mpr ⟨(), demandPath_ok.mpr home, ?_⟩⟩
    exact bind_ok.mpr ⟨(), demand_ok.mpr (Bool.or_eq_true _ _ ▸ shape), passed⟩

/-! A dispatch that every validation accepts, on a machine that suits it. -/

def admittedDigests : SampleDigests where
  packet := 0xd7ee9575665d5cb371600af3a84d2fe3cec6a26e94c6ebdad426561486c3c9b6
  retained := 0x96f150835d7eeff9af63cba2ee5c3958ba9ce4a22a8aae89f8b1c08d609e099e
  brief := 0xb5c201d2c72581c20a506854222a2e0716b4927c4d44a6b6ecc25a1157ebb066
  predecessor := 0xe729beaa0b9e4228e0ed2be889ae144f94d625a679cb5fcf5da61bf09faaa161
  predecessorBytes := 0x89862b633be3f23fcf27a22cfcfeae0d63689a4f602c2a6916ff137b458a65d5
  request := 0x44bb3df2a7f5c7190634b8cad210ea68b2ddcf3f08b2d140b5a3e2b84cfa16a1

def sampleDispatch : Members := object [("schema", literal "nightshift.provider-dispatch-occurrence/v1"),
  ("dispatch_digest", sha256Text 0x41b9f3c3a5f95d16c5fb0185cf4d0154e6087c88d4ba685ff773a1043687d6b2),
  ("requirement_digest", sha256Text 0xf8dcb7a13bf4991a7d7969ea1c8add149e79b13ae91c0e6c13994da38eb3636a),
  ("policy_digest", sha256Text 0x823412d1eacb67956220e532959f0104603057c88704863ca38e7cd188fda812),
  ("packet_digest", sha256Text admittedDigests.packet), ("run_id", literal "r"), ("work_item_id", literal "w"),
  ("work_attempt_id", literal "a"), ("dispatch_occurrence_id", literal "d"), ("dispatch_ordinal", .int 1),
  ("selected_model_ordinal", .int 0), ("selection", .obj (object [("provider_id", literal "openai"), ("model_id", literal "m"),
    ("model_class", literal "l")])), ("adapter_id", literal "switchyard.codex-app-server"), ("adapter_version", literal "2.0.0"),
  ("adapter_protocol", literal "switchyard.codex-app-server/v2"), ("adapter_process_occurrence_id", literal "p"),
  ("app_server_session_identity", sha256Text 0x141582aa3785bb7d6cfe7b16dc441f4a7a9db343fdea989a0475ec30a5b243c7),
  ("worker_start_request_schema", literal "nightshift.worker-start-request/v3"),
  ("worker_start_request_digest", sha256Text admittedDigests.request),
  ("worker_brief_digest", sha256Text admittedDigests.brief), ("opened_at", literal "1970-01-01T00:00:00Z"),
  ("internal_provider_retry_count", .int 0), ("provider_execution_id", .null),
  ("authority_effect", literal "LOCAL_AGENT_COMPUTE_SCHEDULING_ONLY")]

/-- The request names a schema that stands for the legacy contract. -/
def sampleInputs : Inputs where
  request := sampleRequest admittedDigests 0x0e9c851cc9fad9538408ab44d84737d5f4d4d7ef39f2fd5db20c6f88fc7fbb9e
  brief := sampleBrief admittedDigests 0
  backend := sampleBackend
  dispatchRecord := sampleDispatch
  dispatch := text "d"
  named := by simp [sampleRequest, get_object_cons, literal]

/-- A machine that has the workspace, the executable and its home. -/
def sampleMachine (captured : Bool) : Machine where
  floatRepr _ := []
  installation := sampleInstallation sampleInputs.request sampleInputs.brief
  workspaceIsDirectory := .ok true
  executableIsExecutable := .ok true
  homeIsIsolatedDirectory := .ok true
  captured := .ok captured

/-- The digests of these inputs, of the two schema files and of an empty runner. -/
def inputDigests : List (Nat × Nat) := [
  (1434, 0x03aafd322017fb612e1abf55161dae04b121f36eb787cd44a38e9da3c5113038),
  (3643, 0xbc0464fa8f729d62d588f5fa454d2c41aac90683eec0b655a20e091395eeae92),
  (311, 0x15bb20b3920711f36e181e1c4d817cc6b23ce531aed905ed7a60ab9f992fa09e),
  (1306, 0xc1d05a4b581df570b7b75a2a7a13513cdf6a0fb251bcb5b79dfaff24c5e927b3),
  (17, 0x174fbe286975173b0bef5a17a60069650a682631cf4926ab70d98d603510a680),
  (12, 0x4de2ec8e2a8b595bd004ab7f911227aeef82c254084db785551e883db937e9a3),
  (0, 0xe3b0c44298fc1c149afbf4c8996fb92427ae41e4649b934ca495991b7852b855),
  (1539, 0x02bf7a59f1e52e5c46dc23d146cf5a82ea8395294ecd9462d9d57c8a76058b21)]

private theorem sample_preflighted : ∃ report, preflightRequest { plainHost with sha256 := digestTable inputDigests }
    (fun _ => []) (sampleInstallation sampleInputs.request sampleInputs.brief) sampleInputs.request sampleInputs.brief
    sampleInputs.backend = .ok report := by
  unfold preflightRequest
  rw [sampleInstallation_accepts]
  exact exists_of_isOk (by decide +kernel)

/-- Only the executable decides between a claim and a closure. -/
theorem sample_surveyed (captured : Bool) :
    surveyMachine { plainHost with sha256 := digestTable inputDigests } (sampleMachine captured) sampleInputs = .ok captured := by
  obtain ⟨report, preflighted⟩ := sample_preflighted
  refine bind_ok.mpr ⟨report, preflighted, bind_ok.mpr ⟨literal "/w", rfl, bind_ok.mpr ⟨(), rfl, ?_⟩⟩⟩
  cases captured <;> decide +kernel

end Switchyard.Runner
