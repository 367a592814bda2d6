import AiHq.HostHelper.Client

/-!
# The wire of the host helper

How a line arrives makes no difference, and each side reads what the other side has written.
-/

namespace AiHq

open Concurrent

namespace Wire

/-- A line within the limit, with its newline. -/
def IsLine (limit : ℕ) (line : List UInt8) : Prop :=
  ∃ text, line = text ++ [0x0a] ∧ 0x0a ∉ text ∧ line.length ≤ limit

/-- The line arrives in the chunks. -/
def Splits (line : List UInt8) (chunks : List (List UInt8)) : Prop :=
  chunks.flatten = line ∧ ∀ chunk ∈ chunks, chunk ≠ []

/-! ### Framing -/

section Framing

variable {limit n : ℕ} {line data : List UInt8} {chunks : List (List UInt8)}

/-- `recv` takes a first part of the data, and some of it if there is some. -/
lemma recv_cons {chunk : List UInt8} (hn : 0 < n) (h : ∀ c ∈ chunk :: chunks, c ≠ []) :
    (recv n (chunk :: chunks)).1 ≠ [] ∧
      (recv n (chunk :: chunks)).1 ++ (recv n (chunk :: chunks)).2.flatten =
        (chunk :: chunks).flatten ∧
      ∀ c ∈ (recv n (chunk :: chunks)).2, c ≠ [] := by
  have hchunk := h chunk List.mem_cons_self
  have hchunks : ∀ c ∈ chunks, c ≠ [] := fun c hc => h c (List.mem_cons_of_mem chunk hc)
  unfold recv
  refine ⟨?_, ?_, ?_⟩
  · intro hnil
    obtain hzero | hempty := List.take_eq_nil_iff.mp hnil
    · exact absurd hzero (Nat.ne_of_gt hn)
    · exact hchunk hempty
  · dsimp only
    split_ifs with hfits
    · rw [List.take_of_length_le hfits, List.flatten_cons]
    · rw [List.flatten_cons, ← List.append_assoc, List.take_append_drop, List.flatten_cons]
  · dsimp only
    split_ifs with hfits
    · exact hchunks
    · intro c hc
      obtain rfl | hc := List.mem_cons.mp hc
      · exact fun hnil => hfits (List.drop_eq_nil_iff.mp hnil)
      · exact hchunks c hc

/-- Nothing follows the newline of a line. -/
lemma eq_nil_of_newline {text read rest : List UInt8} (htext : 0x0a ∉ text)
    (h : read ++ rest = text ++ [0x0a]) (hread : 0x0a ∈ read) : rest = [] := by
  obtain rfl | ⟨front, last, rfl⟩ := List.eq_nil_or_concat rest
  · rfl
  · rw [List.concat_eq_append, ← List.append_assoc] at h
    have hfront : read ++ front = text := (List.append_inj' h rfl).1
    exact absurd (hfront ▸ List.mem_append_left front hread) htext

/-- The loop reads the line to its end, where it has read a first part of it. -/
lemma readLoop_eq (hline : IsLine limit line) (hdata : data ++ chunks.flatten = line)
    (hnewline : 0x0a ∉ data) (hchunks : ∀ c ∈ chunks, c ≠ []) {rounds : ℕ}
    (hrounds : limit < data.length + rounds) : readLoop limit rounds data chunks = line := by
  obtain ⟨text, rfl, htext, hlimit⟩ := hline
  induction rounds generalizing data chunks with
  | zero =>
    have hle : data.length ≤ (text ++ [0x0a]).length := by
      rw [← hdata, List.length_append]
      omega
    omega
  | succ rounds ih =>
    cases chunks with
    | nil =>
      rw [List.flatten_nil, List.append_nil] at hdata
      exact absurd (hdata ▸ List.mem_append_right text (List.mem_singleton_self _)) hnewline
    | cons chunk chunks =>
      have hlength : data.length + (chunk :: chunks).flatten.length = (text ++ [0x0a]).length := by
        rw [← hdata, List.length_append]
      have hroom : 0 < min 4096 (limit + 1 - data.length) := by
        rw [Nat.lt_min]
        omega
      obtain ⟨hne, happend, hrest⟩ := recv_cons hroom hchunks
      generalize hrecv : recv (min 4096 (limit + 1 - data.length)) (chunk :: chunks) = received
        at hne happend hrest
      obtain ⟨piece, rest⟩ := received
      have hread : data ++ piece ++ rest.flatten = text ++ [0x0a] := by
        rw [List.append_assoc, happend, hdata]
      have hpiece : piece.isEmpty = false := List.isEmpty_eq_false_iff.mpr hne
      rw [readLoop, if_neg (by omega), hrecv]
      simp only [hpiece, Bool.false_eq_true, if_false]
      by_cases hend : 0x0a ∈ piece
      · rw [if_pos hend]
        have hnil := eq_nil_of_newline htext hread (List.mem_append_right data hend)
        rwa [hnil, List.append_nil] at hread
      · rw [if_neg hend]
        have hpos : 0 < piece.length := List.length_pos_of_ne_nil hne
        have hrounds' : limit < (data ++ piece).length + rounds := by
          rw [List.length_append]
          omega
        exact ih (by simp [hnewline, hend]) hrest hrounds' hread

lemma readUpTo_eq (hline : IsLine limit line) (hsplits : Splits line chunks) :
    readUpTo limit chunks = line :=
  readLoop_eq hline (by rw [List.nil_append, hsplits.1]) List.not_mem_nil hsplits.2
    (by rw [List.length_nil]; omega)

lemma IsLine.splits (hline : IsLine limit line) : Splits line [line] := by
  obtain ⟨text, rfl, -, -⟩ := hline
  simp [Splits]

end Framing

/-! ### Lines of text -/

section Lines

variable {python : Interpreter} {x : Json} {line : List UInt8} {cs : List Char}

/-- The bytes of a plain text. -/
lemma utf8Encode_of_isPlain (h : ∀ c ∈ cs, Json.IsPlain c) :
    cs.utf8Encode = (cs.map fun c => c.val.toUInt8).toByteArray := by
  have hsingle : ∀ c ∈ cs, String.utf8EncodeChar c = [c.val.toUInt8] := by
    intro c hc
    apply String.utf8EncodeChar_eq_singleton
    have hlt := (h c hc).2
    rw [Char.utf8Size, if_pos]
    exact UInt32.le_iff_toNat_le.mpr (Nat.le_of_lt_succ (hlt.trans (by decide)))
  rw [List.utf8Encode, List.flatMap_congr hsingle]
  exact congrArg List.toByteArray (List.flatMap_pure_eq_map (fun c : Char => c.val.toUInt8) cs)

lemma ne_newline_of_isPlain {c : Char} (h : Json.IsPlain c) : c.val.toUInt8 ≠ 0x0a := by
  intro heq
  have hnat : c.toNat % 256 = 10 := congrArg UInt8.toNat heq
  obtain ⟨hlow, hhigh⟩ := h
  omega

/-- What is sent of a value is its text, which has no newline, and a newline. -/
lemma encodeLine_eq_ok (hdata : Json.IsData python x) (h : encodeLine python x = .ok line) :
    ∃ text : String, x.encode python = .ok text ∧ line = text.toUTF8.data.toList ++ [0x0a] ∧
      0x0a ∉ text.toUTF8.data.toList := by
  obtain ⟨text, htext, hline⟩ := bind_eq_ok.mp h
  refine ⟨text, htext, (Except.ok.inj hline).symm, ?_⟩
  have hplain := hdata.isPlain
  unfold Json.encode at htext
  split_ifs at htext
  obtain rfl := Except.ok.inj htext
  rw [String.toUTF8_eq_toByteArray, String.toByteArray_ofList, utf8Encode_of_isPlain hplain,
    List.data_toByteArray]
  intro hmem
  obtain ⟨c, hc, heq⟩ := List.mem_map.mp hmem
  exact ne_newline_of_isPlain (hplain c hc) heq

lemma firstLine_encoded {text : String} (h : 0x0a ∉ text.toUTF8.data.toList) :
    HostHelperServer.firstLine (text.toUTF8.data.toList ++ [0x0a]).toByteArray = text.toUTF8 := by
  have hall : ∀ b ∈ text.toUTF8.data.toList, decide (b ≠ 0x0a) = true := by
    intro b hb
    exact decide_eq_true fun heq => h (heq ▸ hb)
  have htake : (text.toUTF8.data.toList ++ [0x0a]).takeWhile (fun b => decide (b ≠ 0x0a)) =
      text.toUTF8.data.toList := by
    rw [List.takeWhile_append_of_pos hall]
    simp
  rw [HostHelperServer.firstLine, List.data_toByteArray, List.toList_toArray, htake]

lemma fromUTF8?_toUTF8 (text : String) : String.fromUTF8? text.toUTF8 = some text :=
  dif_pos text.isValidUTF8

end Lines

/-! ### Requests -/

section Requests

variable {python : Interpreter} {allowLists : HostAllowLists} {capability : HostCapability}
  {params params' : Dict} {request : HelperRequest} {payload : Json}

lemma isData_singleton {key : String} {x : Json} (h : Json.IsData python x) :
    Json.IsData python (.obj [(key, x)]) :=
  .obj (List.nodup_singleton key) (by rwa [List.forall_mem_singleton])

/-- What has passed the checks of the number of lines. -/
lemma eq_of_checkedLines (h : (do
      raiseIf (params.any fun field => field.1 ≠ "lines") (.valueError "unknown parameter")
      match (Dict.get params "lines").getD (.int 100) with
      | .int lines => do
        raiseIf (¬(1 ≤ lines ∧ lines ≤ 500))
          (.valueError "lines must be an integer between 1 and 500")
        return [("lines", .int lines)]
      | _ => .error (.valueError "lines must be an integer between 1 and 500") :
      Except PyError Dict) = .ok params') :
    ∃ lines : ℤ, (1 ≤ lines ∧ lines ≤ 500) ∧ params' = [("lines", .int lines)] := by
  obtain ⟨_, -, h⟩ := bind_eq_ok.mp h
  split at h
  · next lines _ =>
    simp only [bind_eq_ok, raiseIf_eq_ok, not_not] at h
    obtain ⟨_, hbounds, h⟩ := h
    exact ⟨lines, hbounds, (Except.ok.inj h).symm⟩
  · cases h

/-- What has passed the checks for no target and no parameters. -/
lemma eq_of_untargeted {target : Json} (h : (match target with
      | .null => do
        raiseIf (!params.isEmpty) (.valueError "unknown parameter")
        return { capability, target := none, params := [] }
      | _ => .error (.valueError "target not allowed") : Except PyError HelperRequest) =
        .ok request) : request = ⟨capability, none, []⟩ := by
  split at h
  · obtain ⟨_, -, h⟩ := bind_eq_ok.mp h
    exact (Except.ok.inj h).symm
  · cases h

/-- The validation takes the parameters that it makes, which are data. -/
lemma validateParams_again (h : validateParams capability params = .ok params') :
    validateParams capability params' = .ok params' ∧
      ∀ python, Json.IsData python (.obj params') := by
  have hempty : ∀ python, Json.IsData python (.obj []) := fun _ => .obj List.nodup_nil (by simp)
  have hplain : (do
      raiseIf (!params.isEmpty) (.valueError "unknown parameter")
      return [] : Except PyError Dict) = .ok params' → params' = [] := by
    intro heq
    obtain ⟨_, -, heq⟩ := bind_eq_ok.mp heq
    exact (Except.ok.inj heq).symm
  have hagain : ∀ lines : ℤ, 1 ≤ lines ∧ lines ≤ 500 → (do
      raiseIf (¬(1 ≤ lines ∧ lines ≤ 500))
        (.valueError "lines must be an integer between 1 and 500")
      return [("lines", .int lines)] : Except PyError Dict) = .ok [("lines", .int lines)] := by
    intro lines hbounds
    rw [raiseIf, if_neg (not_not.mpr hbounds)]
    rfl
  cases capability with
  | serviceRecover =>
    obtain ⟨_, -, hmatch⟩ := bind_eq_ok.mp h
    split at hmatch
    · next component _ =>
      simp only [bind_eq_ok, raiseIf_eq_ok, not_not] at hmatch
      obtain ⟨_, hmem, heq⟩ := hmatch
      obtain rfl := Except.ok.inj heq
      refine ⟨?_, fun _ => isData_singleton (.str component)⟩
      show (do
        raiseIf (component ∉ recoveryComponentKeys) (.valueError "invalid recovery component")
        return [("component", .str component)] : Except PyError Dict) = _
      rw [raiseIf, if_neg (not_not.mpr hmem)]
      rfl
    · cases hmatch
  | serviceStatus =>
    obtain rfl := hplain h
    exact ⟨rfl, hempty⟩
  | serviceRestart =>
    obtain rfl := hplain h
    exact ⟨rfl, hempty⟩
  | deploymentDeploy =>
    obtain rfl := hplain h
    exact ⟨rfl, hempty⟩
  | deploymentRollback =>
    obtain rfl := hplain h
    exact ⟨rfl, hempty⟩
  | containerStatus =>
    obtain rfl := hplain h
    exact ⟨rfl, hempty⟩
  | hostHealth =>
    obtain ⟨lines, hbounds, rfl⟩ := eq_of_checkedLines h
    exact ⟨hagain lines hbounds, fun _ => isData_singleton (.int lines)⟩
  | hostResources =>
    obtain ⟨lines, hbounds, rfl⟩ := eq_of_checkedLines h
    exact ⟨hagain lines hbounds, fun _ => isData_singleton (.int lines)⟩
  | dripvidReadiness =>
    obtain ⟨lines, hbounds, rfl⟩ := eq_of_checkedLines h
    exact ⟨hagain lines hbounds, fun _ => isData_singleton (.int lines)⟩
  | logsRecent =>
    obtain ⟨lines, hbounds, rfl⟩ := eq_of_checkedLines h
    exact ⟨hagain lines hbounds, fun _ => isData_singleton (.int lines)⟩

/-- What a validation gives is validated to itself. -/
lemma validateRequest_again (h : validateRequest payload allowLists = .ok request) :
    validateRequest (.obj request.payload) allowLists = .ok request ∧
      ∀ python, Json.IsData python (.obj request.params) := by
  have hempty : ∀ python, Json.IsData python (.obj []) := fun _ => .obj List.nodup_nil (by simp)
  unfold validateRequest at h
  split at h
  · next payload =>
    obtain ⟨capability, -, h⟩ := bind_eq_ok.mp h
    obtain ⟨_, -, h⟩ := bind_eq_ok.mp h
    split at h
    · next params hparams =>
      have htargeted : capability ∉
            [HostCapability.hostHealth, .hostResources, .dripvidReadiness] → (do
          let target ← validateTarget capability ((Dict.get payload "target").getD .null) allowLists
          let params ← validateParams capability params
          return { capability, target := some target, params } : Except PyError HelperRequest) =
            .ok request → validateRequest (.obj request.payload) allowLists = .ok request ∧
              ∀ python, Json.IsData python (.obj request.params) := by
        intro hcapability heq
        simp only [bind_eq_ok] at heq
        obtain ⟨name, hname, params', hparams', heq⟩ := heq
        obtain rfl := Except.ok.inj heq
        obtain ⟨hagain, hdata⟩ := validateParams_again hparams'
        unfold validateTarget at hname
        split at hname
        · simp only [bind_eq_ok, raiseIf_eq_ok, not_or, not_not] at hname
          obtain ⟨_, ⟨hne, hmem⟩, heq⟩ := hname
          obtain rfl := Except.ok.inj heq
          exact ⟨(validateRequest_eq_self hcapability).mpr ⟨hne, hmem, hagain⟩, hdata⟩
        · cases hname
      cases capability with
      | hostHealth =>
        obtain rfl := eq_of_untargeted h
        exact ⟨rfl, hempty⟩
      | hostResources =>
        obtain rfl := eq_of_untargeted h
        exact ⟨rfl, hempty⟩
      | dripvidReadiness =>
        obtain rfl := eq_of_untargeted h
        exact ⟨rfl, hempty⟩
      | serviceStatus => exact htargeted (by decide) h
      | serviceRestart => exact htargeted (by decide) h
      | serviceRecover => exact htargeted (by decide) h
      | deploymentDeploy => exact htargeted (by decide) h
      | deploymentRollback => exact htargeted (by decide) h
      | containerStatus => exact htargeted (by decide) h
      | logsRecent => exact htargeted (by decide) h
    · cases h
  · cases h

end Requests

/-! ### Both directions -/

section Codec

variable {server : HostHelperServer} {client : HostHelperClient} {payload : Json}
  {request : HelperRequest} {response : HelperResponse} {line : List UInt8}
  {chunks : List (List UInt8)}

lemma isData_orNull (python : Interpreter) (text : Option String) :
    Json.IsData python (orNull text) := by
  cases text with
  | none => exact .null
  | some text => exact .str text

lemma isData_requestLine {python : Interpreter} (credential : String)
    (h : Json.IsData python (.obj request.params)) :
    Json.IsData python (.obj (("credential", .str credential) :: request.payload)) := by
  refine .obj (by simp [HelperRequest.payload]) ?_
  simp only [HelperRequest.payload, List.forall_mem_cons, List.not_mem_nil, IsEmpty.forall_iff,
    implies_true, and_true]
  exact ⟨.str _, .str _, isData_orNull python _, h⟩

lemma isData_responseDict {python : Interpreter} (h : Json.IsData python (.obj response.data)) :
    Json.IsData python (responseDict response) := by
  refine .obj (by simp) ?_
  simp only [List.forall_mem_cons, List.not_mem_nil, IsEmpty.forall_iff, implies_true, and_true]
  exact ⟨.bool _, .str _, isData_orNull python _, h, isData_orNull python _⟩

lemma isLine_of_encoded {limit : ℕ} {text : String} (h : 0x0a ∉ text.toUTF8.data.toList)
    (hlimit : (text.toUTF8.data.toList ++ [0x0a]).length ≤ limit) :
    IsLine limit (text.toUTF8.data.toList ++ [0x0a]) := ⟨_, rfl, h, hlimit⟩

/-- The server decodes the line of a request to the credential and the request. -/
lemma decodes_requestLine (hpython : server.executor.python = client.python)
    (hvalid : validateRequest payload server.allowLists = .ok request)
    (hline : client.requestLine request = .ok line) (hlimit : line.length ≤ maxRequestBytes)
    (hsplits : Splits line chunks) :
    server.Decodes (readRequest chunks)
        (("credential", .str client.credential) :: request.payload) ∧
      validateRequest (.obj request.payload) server.allowLists = .ok request := by
  obtain ⟨hagain, hparams⟩ := validateRequest_again hvalid
  have hdata := isData_requestLine client.credential (hparams client.python)
  obtain ⟨text, hencode, rfl, hnewline⟩ := encodeLine_eq_ok hdata hline
  refine ⟨⟨?_, text, ?_, ?_⟩, hagain⟩
  · rw [readRequest, readUpTo_eq (isLine_of_encoded hnewline hlimit) hsplits,
      List.size_toByteArray]
    exact hlimit
  · rw [readRequest, readUpTo_eq (isLine_of_encoded hnewline hlimit) hsplits,
      firstLine_encoded hnewline, fromUTF8?_toUTF8]
  · rw [hpython]
    exact Json.loads_encode hdata hencode

lemma pyEq_orNull (text : Option String) : (orNull text).pyEq (orNull text) = true := by
  cases text with
  | none => rfl
  | some text => simp [orNull, Json.pyEq]

/-- The capability of a response is found again. -/
lemma acceptedCapability {x : Except PyError HelperResponse} (f : HostCapability → HelperResponse)
    (hx : x = match HostCapability.ofValue? (.str request.capability.value) with
      | some capability => .ok (f capability)
      | none => .error (.hostHelperError "malformed_response")) :
    x = .ok (f request.capability) := by
  rw [hx, ofValue?_value]

/-- The checks of the client let its own request's response through. -/
lemma acceptResponse_fields (hcapability : response.capability = request.capability)
    (htarget : response.target = request.target) :
    HostHelperClient.acceptResponse request
      [("ok", .bool response.ok), ("capability", .str response.capability.value),
        ("target", orNull response.target), ("data", .obj response.data),
        ("error", orNull response.error)] = .ok response := by
  obtain ⟨ok, capability, target, data, error⟩ := response
  obtain rfl : capability = request.capability := hcapability
  obtain rfl : target = request.target := htarget
  have hmatches : ¬((!(Json.str request.capability.value).pyEq (.str request.capability.value)) =
      true ∨ (!(orNull request.target).pyEq (orNull request.target)) = true) := by
    rw [pyEq_orNull]
    simp [Json.pyEq]
  rw [HostHelperClient.acceptResponse]
  show (raiseIf ((!(Json.str request.capability.value).pyEq (.str request.capability.value)) =
    true ∨ (!(orNull request.target).pyEq (orNull request.target)) = true) _ >>= _) = _
  rw [raiseIf, if_neg hmatches]
  cases error with
  | none => exact acceptedCapability _ rfl
  | some error => exact acceptedCapability _ rfl

/-- The client decodes the line of a response to the response. -/
lemma decodeResponse_encoded (hcapability : response.capability = request.capability)
    (htarget : response.target = request.target)
    (hdata : Json.IsData client.python (.obj response.data))
    (hline : encodeLine client.python (responseDict response) = .ok line)
    (hlimit : line.length ≤ HostHelperClient.maxResponseBytes) (hsplits : Splits line chunks) :
    (HostHelperClient.readResponse chunks >>= client.decodeResponse request) = .ok response := by
  have hdict := isData_responseDict hdata
  obtain ⟨text, hencode, rfl, hnewline⟩ := encodeLine_eq_ok hdict hline
  have hread : HostHelperClient.readResponse chunks = .ok text.toUTF8 := by
    rw [HostHelperClient.readResponse, readUpTo_eq (isLine_of_encoded hnewline hlimit) hsplits]
    simp only [Nat.not_lt.mpr hlimit, if_false, firstLine_encoded hnewline]
  rw [hread]
  show client.decodeResponse request text.toUTF8 = _
  rw [HostHelperClient.decodeResponse, fromUTF8?_toUTF8]
  simp only [Json.loads_encode hdict hencode]
  exact acceptResponse_fields hcapability htarget

end Codec

/-- The chunks in which a line arrives make no difference to either side, the server decodes the
line of a valid request to its credential and the request, and the client decodes the line of a
response to its request to the response. -/
theorem wire_exact (server : HostHelperServer) (client : HostHelperClient)
    (hpython : server.executor.python = client.python) :
    (∀ line chunks, IsLine maxRequestBytes line → Splits line chunks →
      server.handlePayload (readRequest chunks) = server.handlePayload (readRequest [line])) ∧
    (∀ line chunks, IsLine HostHelperClient.maxResponseBytes line → Splits line chunks →
      HostHelperClient.readResponse chunks = HostHelperClient.readResponse [line]) ∧
    (∀ payload request line chunks,
      validateRequest payload server.allowLists = .ok request →
      client.requestLine request = .ok line → line.length ≤ maxRequestBytes →
      Splits line chunks → ∃ decoded rest, server.Decodes (readRequest chunks) decoded ∧
        Dict.pop decoded "credential" .null = (.str client.credential, rest) ∧
        validateRequest (.obj rest) server.allowLists = .ok request) ∧
    (∀ request response line chunks,
      response.capability = request.capability → response.target = request.target →
      Json.IsData client.python (.obj response.data) →
      encodeLine server.executor.python (responseDict response) = .ok line →
      line.length ≤ HostHelperClient.maxResponseBytes → Splits line chunks →
      (HostHelperClient.readResponse chunks >>= client.decodeResponse request) =
        .ok response) := by
  refine ⟨?_, ?_, ?_, ?_⟩
  · intro line chunks hline hsplits
    rw [readRequest, readRequest, readUpTo_eq hline hsplits, readUpTo_eq hline hline.splits]
  · intro line chunks hline hsplits
    rw [HostHelperClient.readResponse, HostHelperClient.readResponse, readUpTo_eq hline hsplits,
      readUpTo_eq hline hline.splits]
  · intro payload request line chunks hvalid hline hlimit hsplits
    obtain ⟨hdecodes, hagain⟩ := decodes_requestLine hpython hvalid hline hlimit hsplits
    exact ⟨_, request.payload, hdecodes, rfl, hagain⟩
  · intro request response line chunks hcapability htarget hdata hline hlimit hsplits
    rw [hpython] at hline
    exact decodeResponse_encoded hcapability htarget hdata hline hlimit hsplits

/-! ### An exchange -/

def localServer : HostHelperServer where
  credential := "token"
  allowLists := defaultAllowLists
  executor :=
    { allowLists := defaultAllowLists
      python := { maxDepth := 1000, float := fun text => (0, text) } }

def localClient : HostHelperClient where
  credential := "token"
  python := { maxDepth := 1000, float := fun text => (0, text) }

def deployRequest : HelperRequest := ⟨.deploymentDeploy, some "ai-hq", []⟩

def deployResponse : HelperResponse :=
  ⟨true, .deploymentDeploy, some "ai-hq", [("deployed", .bool true)], none⟩

/-- The line of the request. -/
def deployLine : List UInt8 :=
  ("\x7b\"credential\":\"token\",\"capability\":\"deployment.deploy\",\"target\":\"ai-hq\"," ++
    "\"params\":\x7b\x7d\x7d\n").toUTF8.data.toList

/-- The line of the response. -/
def deployedLine : List UInt8 :=
  ("\x7b\"ok\":true,\"capability\":\"deployment.deploy\",\"target\":\"ai-hq\",\"data\":" ++
    "\x7b\"deployed\":true\x7d,\"error\":null\x7d\n").toUTF8.data.toList

/-- A line in two chunks. -/
def halves (line : List UInt8) : List (List UInt8) := [line.take 20, line.drop 20]

lemma isLine_deployLine (limit : ℕ) (h : 100 ≤ limit) : IsLine limit deployLine := by
  refine ⟨deployLine.dropLast, by decide, by decide, ?_⟩
  have hlength : deployLine.length ≤ 100 := by decide
  exact hlength.trans h

lemma splits_halves {line : List UInt8} (h : 20 < line.length) : Splits line (halves line) := by
  constructor
  · simp [halves]
  · rw [halves, List.forall_mem_cons, List.forall_mem_singleton]
    constructor
    · exact fun hnil => absurd (List.take_eq_nil_iff.mp hnil) (by
        rintro (hzero | rfl)
        · cases hzero
        · cases h)
    · exact fun hnil => absurd (List.drop_eq_nil_iff.mp hnil) (Nat.not_le.mpr h)

theorem wire_exact_deploy :
    localServer.handlePayload (readRequest (halves deployLine)) =
      localServer.handlePayload (readRequest [deployLine]) ∧
    HostHelperClient.readResponse (halves deployLine) =
      HostHelperClient.readResponse [deployLine] ∧
    (∃ decoded rest, localServer.Decodes (readRequest (halves deployLine)) decoded ∧
      Dict.pop decoded "credential" .null = (.str localClient.credential, rest) ∧
      validateRequest (.obj rest) localServer.allowLists = .ok deployRequest) ∧
    (HostHelperClient.readResponse (halves deployedLine) >>=
      localClient.decodeResponse deployRequest) = .ok deployResponse := by
  obtain ⟨hserver, hclient, hrequest, hresponse⟩ := wire_exact localServer localClient rfl
  have hsplits : Splits deployLine (halves deployLine) := splits_halves (by decide)
  have hsplits' : Splits deployedLine (halves deployedLine) := splits_halves (by decide)
  refine ⟨hserver _ _ (isLine_deployLine _ (by decide)) hsplits,
    hclient _ _ (isLine_deployLine _ (by decide)) hsplits,
    hrequest (.obj deployRequest.payload) _ deployLine _ ?_ ?_ ?_ hsplits,
    hresponse _ _ deployedLine _ rfl rfl ?_ ?_ ?_ hsplits'⟩
  · rfl
  · rfl
  · decide
  · exact isData_singleton (.bool true)
  · rfl
  · decide

end Wire
end AiHq
