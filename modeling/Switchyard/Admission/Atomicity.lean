import Switchyard.Admission.Calls

/-! Failed calls over whole runs. `_atomic` puts back every field but the bounded
turn, so a failed call is as if not made exactly where it does not leak. -/

namespace Switchyard.Admission
open Library Json AppServer

variable {host : Host} {settings : Settings host}

def performAll (settings : Settings host) (mapper : Mapper) (calls : List Call) : Mapper :=
  calls.foldl (fun mapper call => (perform settings call mapper).2) mapper

theorem performAll_snoc (mapper : Mapper) (calls : List Call) (call : Call) :
    performAll settings mapper (calls ++ [call]) = (perform settings call (performAll settings mapper calls)).2 := by
  unfold performAll
  rw [List.foldl_append]
  rfl

/-- The calls of a sequence that return. -/
def returning (settings : Settings host) : Mapper → List Call → List Call
  | _, [] => []
  | mapper, call :: rest => match perform settings call mapper with
    | (.ok _, after) => call :: returning settings after rest
    | (.error _, after) => returning settings after rest

/-- No call of the sequence meets a mapper in which it leaks. -/
def Intact (settings : Settings host) : Mapper → List Call → Prop
  | _, [] => True
  | mapper, call :: rest => ¬ Leaks settings mapper call ∧ Intact settings (perform settings call mapper).2 rest

theorem performAll_run (settings : Settings host) (mapper : Mapper) (calls : List Call) :
    Run (Performs settings) mapper calls (performAll settings mapper calls) := by
  induction calls using List.reverseRecOn with
  | nil => exact .nil
  | append_singleton calls call ih =>
    have step : Performs settings (performAll settings mapper calls) call (performAll settings mapper (calls ++ [call])) := by
      exact (performAll_snoc mapper calls call).symm
    exact ih.snoc step

/-! One dispatch that is refused at capacity. -/

def sampleRequested : Members := object [("method", literal "providerRequest/started"), ("params", .obj (object [
  ("threadId", literal "th"), ("turnId", literal "tu"), ("requestOccurrenceId", literal "r0"), ("samplingOrdinal", .int 0),
  ("requestOrder", .int 0), ("provider", literal "pr"), ("model", literal "m"), ("startedAtMs", .int 1)]))]

def sampleRefused : Members := object [("method", literal "providerAdmission/refused"), ("params", .obj (object [
  ("threadId", literal "th"), ("turnId", literal "tu"), ("requestOccurrenceId", literal "r0"), ("samplingOrdinal", .int 0),
  ("requestOrder", .int 0), ("provider", literal "pr"), ("model", literal "m"), ("responseCreated", .bool false),
  ("willRetry", .bool false), ("refusalKind", literal "modelAtCapacity"), ("codexErrorInfo", literal "serverOverloaded"),
  ("retryAfterMs", .null), ("diagnostic", literal ""), ("observedAtMs", .int 2)]))]

/-- A `turn/start` whose params hold an integer that no canonical form has. -/
def sampleUncanonical : Members := object [("id", .int 1), ("method", literal "turn/start"), ("params", .obj (object [
  ("threadId", literal "th"), ("input", .arr [.obj (object [("type", literal "text"), ("text", literal "a")])]),
  ("x", .int (2 ^ 53))]))]

/-! Another one whose turn is answered and completed. -/

def sampleTurnStart : Members := object [("id", .int 1), ("method", literal "turn/start"), ("params", .obj (object [
  ("threadId", literal "th"), ("input", .arr [.obj (object [("type", literal "text"), ("text", literal "refresh the docs")])])]))]

def sampleTurnAnswer : Members := object [("id", .int 1), ("result", .obj (object [("turn", .obj (object [("id", literal "tu")]))]))]

def sampleSampling : Members := object [("method", literal "providerRequest/started"), ("params", .obj (object [
  ("threadId", literal "th"), ("turnId", literal "tu"), ("requestOccurrenceId", literal "request"), ("samplingOrdinal", .int 0),
  ("requestOrder", .int 0), ("provider", literal "pr"), ("model", literal "m"), ("startedAtMs", .int 1)]))]

def sampleResponse : Members := object [("method", literal "rawResponse/started"), ("params", .obj (object [
  ("threadId", literal "th"), ("turnId", literal "tu"), ("requestOccurrenceId", literal "request"), ("samplingOrdinal", .int 0),
  ("requestOrder", .int 0), ("provider", literal "pr"), ("model", literal "m"), ("responseId", literal "e0"),
  ("observedAtMs", .int 2)]))]

def sampleResponseEnd : Members := object [("method", literal "rawResponse/completed"), ("params", .obj (object [
  ("threadId", literal "th"), ("turnId", literal "tu"), ("responseId", literal "e0"), ("usage", .null)]))]

def sampleTurnEnd : Members := object [("method", literal "turn/completed"), ("params", .obj (object [
  ("threadId", literal "th"), ("turn", .obj (object [("id", literal "tu")]))]))]

/-- A host that knows the digests and the frames of these dispatches. -/
def sampleHost : Host where
  sha256 := digestTable [
    (0, 0xe3b0c44298fc1c149afbf4c8996fb92427ae41e4649b934ca495991b7852b855),
    (20, 0xa8f498daaedb43edf16d2d1539d262e903176d96792a627a79530b76bf0d4e70),
    (39, 0x84dc777e862afe17a08c07816ceb71108dba5b1ca71e4383d3e3b18cd5120b74),
    (69, 0xc754eaa4799809204e5ca5de75878306ebf900c19a6776a8791c0e8f24f19f4c),
    (74, 0xea50993c90bb500fe0c76d29ec45d0c1c6ac02e7599c3d4b4d0b90290a899ba5),
    (107, 0x9a56aa891c19b5af7d56658d25f705733906af5750ec1e0a3689b9c87ece638f),
    (110, 0x48ee9185c93e35ca490317bea33052c670ddcbb0919d85eb802cf8319edb4541),
    (186, 0x3bead050bd28f40ec46921c5992547fa747106b17f6402470fb236cb1dbe8f86),
    (191, 0x56ccbd53040b49d57a0f7819c0824e96c31470b31aa52580997b43f749d82455),
    (206, 0xece30edd56f7d3d2b5906ffcf5c403fa4b26380dd4e386a67e8bc56b222b30d7),
    (335, 0xf9ce158f5c5d267764f4db84d2553ed744ec4850c587818e7980d87593b72432),
    (579, 0x86dc84fd2f78350647ee580438d5dbbaeb1c2520dd991b84ee0624d002147d74),
    (781, 0x13fa95df7840ff5daa88cbb6add18070cd51c0c7489059980e1d9ef8b74299c6),
    (797, 0x0294f94ac9b4d7c1b412abee74034ad450a71d2f0a609674cfee82573ab7c4c5),
    (908, 0x00002a159a41a538b81cb76f7331e7bc72fedc8deab26c78711f3f76d6a55b1f),
    (1008, 0x4f7288b463d42199b6b449c547245d2a5eeeebe9b5d2c413733bb5fe169b2ee6),
    (1087, 0x03bc99d7e1a8505577f6b1c64bbccb62d7340373785c4e9998619f5d18fad8dd),
    (1135, 0xdac3b0f0be66241a4b18b59115b67bc558a15d7a604298e64d13e57dd284f52c),
    (1237, 0x0dd4921dc12fa73f78ed1f1c7b273190eb8027614e32e69fe2b1858cb64dbcfd),
    (1252, 0x420a0455a1ce89efc33af175a6e1564b7e041029c266c4e3249d86e3e9cea7e0),
    (1543, 0x07234d0a087ba1209e60ebf953dbbf3e607e391bdf1f80ab916c9c6aede17cbf),
    (1696, 0x6c2a535f64f80dabb9b04ca9b3fc746820c3d3ee5628bde20a80ec8c3e2aadec),
    (4978, 0x498a6ef21243dd2a7645fc5ca58b67ad1eb969e9c176c936927194e03cb5bd3b)]
  loads _ := .error (.malformed (className "JSONDecodeError") (text "Expecting value: line 1 column 1 (char 0)"))
  loadsUnique raw := match raw.length with
    | 39 => .ok (.obj sampleTurnAnswer)
    | 74 => .ok (.obj sampleTurnEnd)
    | 107 => .ok (.obj sampleResponseEnd)
    | 110 => .ok (.obj sampleTurnStart)
    | 116 => .ok (.obj sampleUncanonical)
    | 186 => .ok (.obj sampleRequested)
    | 191 => .ok (.obj sampleSampling)
    | 206 => .ok (.obj sampleResponse)
    | 335 => .ok (.obj sampleRefused)
    | _ => .error (.malformed (className "JSONDecodeError") (text "Expecting value: line 1 column 1 (char 0)"))
  loadsUniqueText _ := .error (.malformed (className "JSONDecodeError") (text "Expecting value: line 1 column 1 (char 0)"))
  floatText _ := ascii "0.5"
  copies _ := true

def sampleBinding : Binding sampleHost where
  members := object [("schema", literal BINDING_SCHEMA),
    ("binding_digest", literal "sha256:86dc84fd2f78350647ee580438d5dbbaeb1c2520dd991b84ee0624d002147d74"),
    ("codex_source_head", literal FINAL_CODEX_SOURCE_HEAD), ("executable_kind", literal "DETERMINISTIC_FIXTURE"),
    ("app_server_executable_sha256", literal "sha256:0000000000000000000000000000000000000000000000000000000000000000"),
    ("internal_provider_request_retries", .int 0), ("work_attempt_id", literal "w"), ("dispatch_occurrence_id", literal "d"),
    ("adapter_process_occurrence_id", literal "p"), ("app_server_session_identity", literal "s"), ("thread_id", literal "th"),
    ("turn_id", literal "tu"), ("provider", literal "pr"), ("model", literal "m"), ("app_server_executable_identity", literal "x")]
  valid := by decide +kernel

def sampleSettings : Settings sampleHost where
  binding := sampleBinding
  captureContract := .boundedTurnEcho
  allowUnorderedFixture := false
  supported := by decide

def sampleRequestedLine : Bytes := ascii ("\x7b\"method\":\"providerRequest/started\",\"params\":\x7b\"threadId\":\"th\",\"turnId\":\"tu\"," ++
  "\"requestOccurrenceId\":\"r0\",\"samplingOrdinal\":0,\"requestOrder\":0,\"provider\":\"pr\",\"model\":\"m\",\"startedAtMs\":1\x7d\x7d\n")

def sampleRefusedLine : Bytes := ascii ("\x7b\"method\":\"providerAdmission/refused\",\"params\":\x7b\"threadId\":\"th\",\"turnId\":\"tu\"," ++
  "\"requestOccurrenceId\":\"r0\",\"samplingOrdinal\":0,\"requestOrder\":0,\"provider\":\"pr\",\"model\":\"m\"," ++
  "\"responseCreated\":false,\"willRetry\":false,\"refusalKind\":\"modelAtCapacity\",\"codexErrorInfo\":\"serverOverloaded\"," ++
  "\"retryAfterMs\":null,\"diagnostic\":\"\",\"observedAtMs\":2\x7d\x7d\n")

def sampleNotification (ordinal : Int) (message : Members) (line : Bytes) : Call :=
  .consumeEnvelope ⟨.int ordinal, literal "NOTIFICATION", some ⟨message, some line⟩, .null, none, .null⟩

def sampleCalls : List Call :=
  [sampleNotification 0 sampleRequested sampleRequestedLine, sampleNotification 1 sampleRefused sampleRefusedLine,
    .consumeCut ⟨.bool true, .int 0, literal "EXITED", .int 2, literal "p", literal "s"⟩]

/-- The line of a frame in canonical form. -/
def sampleLine (message : Members) : Bytes := plainBytes (.obj message) ++ [10]

def sampleEnvelope (ordinal : Int) (kind : String) (message : Members) (requestMethod : Json) : Call :=
  .consumeEnvelope ⟨.int ordinal, literal kind, some ⟨message, some (sampleLine message)⟩, .null, none, requestMethod⟩

/-- A turn is started and answered, and one sampling of it runs to its end. -/
def sampleAnswered : List Call :=
  [sampleEnvelope 0 "CLIENT_REQUEST" sampleTurnStart (literal "turn/start"),
    sampleEnvelope 1 "CLIENT_RESPONSE" sampleTurnAnswer (literal "turn/start"),
    sampleEnvelope 2 "NOTIFICATION" sampleSampling .null, sampleEnvelope 3 "NOTIFICATION" sampleResponse .null,
    sampleEnvelope 4 "NOTIFICATION" sampleResponseEnd .null]

end Switchyard.Admission
