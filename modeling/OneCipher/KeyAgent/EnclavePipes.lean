import OneCipher.Base.Pipes
import OneCipher.KeyAgent.EnclaveParent

/-!
# OneCipher.KeyAgent.EnclavePipes — an enclave call over bounded pipes

`run_enclave_child` of `oc-keyagent/src/enclave.rs` on the other end of `spawn_enclave_child`.  `wait_with_timeout` polls
for the child's exit and reads its output only then, so an answer has to wait in the pipe.
-/

namespace OneCipher.KeyAgent.Pipe

open Text (utf8)

/-! ## The child -/

/-- Everything the child finds out there; `confine` is its hardening and its sandbox. -/
structure ChildHost where
  confine : Except String Unit
  fromUtf8 : Bytes → Except String String
  fromStr : String → Except String EnclaveRequest
  handleEnclaveRequest : EnclaveRequest → EnclaveResponse
  toJson : EnclaveResponse → Except String String

/-- A text and a line break, in UTF-8. -/
def lineOf (text : String) : Bytes := utf8 (text ++ "\n")

def maxRequestLine : Nat := enclaveMaxPayloadBytes * 2 + enclaveMaxExtraJsonBytes + 4096

/-- From the line that was read to what is written. -/
def runEnclaveChild (c : ChildHost) (input : Bytes) : Except String Bytes := do
  c.confine
  let line ← (c.fromUtf8 input).mapError ("enclave stdin: " ++ ·)
  if Text.trim line = "" then .error "enclave request: empty input"
  else if (utf8 line).length > maxRequestLine then .error "enclave request: input oversized"
  else do
    let req ← (c.fromStr (Text.trim line)).mapError ("enclave request JSON: " ++ ·)
    let out ← (c.toJson (c.handleEnclaveRequest req)).mapError ("enclave response JSON: " ++ ·)
    return lineOf out

def enclavePipes (c : ChildHost) (capacity : Nat) : Pipes.Setup UInt8 where
  capacity := capacity
  isEnd := (· == 10)
  serve := fun input => (runEnclaveChild c input).toOption

/-- What `wait_with_timeout` makes of how the waiting ended. -/
def waited (timeoutSecs : Nat) : Option (Bool × Bytes) → Except String ChildOutput
  | none => .error ("enclave timeout after " ++ toString timeoutSecs ++ "s")
  | some (success, stdout) => .ok ⟨success, if success then "exit status: 0" else "exit status: 1", stdout⟩

/-! ## The call -/

/-- A valid request whose handling succeeds; what either side writes, the other reads back. -/
structure Exchange (h : ParentHost) (c : ChildHost) (req : EnclaveRequest) (resp : EnclaveResponse)
    (input out : String) : Prop where
  valid : req.validate = .ok ()
  spawned : ∃ pid, h.spawn = .ok pid
  written : h.toJson req = .ok input
  oneLine : 10 ∉ utf8 input
  confined : c.confine = .ok ()
  arrived : c.fromUtf8 (lineOf input) = .ok (input ++ "\n")
  notEmpty : Text.trim (input ++ "\n") ≠ ""
  parsed : c.fromStr (Text.trim (input ++ "\n")) = .ok req
  handled : c.handleEnclaveRequest req = resp
  answered : c.toJson resp = .ok out
  returned : h.fromUtf8 (lineOf out) = .ok (out ++ "\n")
  read : h.fromStr (Text.trim (out ++ "\n")) = .ok resp
  version : resp.ocVersion = enclaveProtocolVersion
  same : resp.requestId = req.requestId
  ok : resp.ok = true

section Call

variable {h : ParentHost} {c : ChildHost} {req : EnclaveRequest} {resp : EnclaveResponse} {input out : String}
  {capacity timeoutSecs : Nat}

theorem Exchange.line (hx : Exchange h c req resp input out) : Pipes.Line (enclavePipes c capacity) (lineOf input) := by
  refine ⟨utf8 input, 10, ?_, rfl, ?_⟩
  · rw [lineOf, utf8, String.toList_append, List.flatMap_append]
    rfl
  · simpa [enclavePipes] using fun x hx' (h10 : x = 10) => hx.oneLine (h10 ▸ hx')

theorem Exchange.outcome (hx : Exchange h c req resp input out) :
    Pipes.outcome (enclavePipes c capacity) (lineOf input) =
      if (lineOf input).length > maxRequestLine then some (false, [])
      else if (lineOf out).length ≤ capacity then some (true, lineOf out) else none := by
  have harrived : c.fromUtf8 (utf8 (input ++ "\n")) = .ok (input ++ "\n") := hx.arrived
  unfold lineOf
  simp only [Pipes.outcome, enclavePipes, runEnclaveChild, hx.confined, harrived, hx.parsed, hx.handled, hx.answered, lineOf,
    bind, Except.bind, Except.mapError, pure, Except.pure, if_neg hx.notEmpty]
  by_cases hlong : (utf8 (input ++ "\n")).length > maxRequestLine
  · rw [if_pos hlong, if_pos hlong]
    rfl
  · rw [if_neg hlong, if_neg hlong]
    rfl

theorem Exchange.spawn_iff (hx : Exchange h c req resp input out) :
    spawnEnclaveChild { h with
        waitWithTimeout := fun _ =>
          waited timeoutSecs (Pipes.outcome (enclavePipes c capacity) (lineOf input)) } req = .ok resp ↔
      (lineOf input).length ≤ maxRequestLine ∧ (lineOf out).length ≤ capacity := by
  rw [spawnEnclaveChild_eq_ok, hx.outcome]
  constructor
  · rintro ⟨-, ⟨_, _, output, -, -, hwait, hsuccess, -⟩, -⟩
    split_ifs at hwait with hlong hfits
    · cases hwait
      cases hsuccess
    · exact ⟨not_lt.mp hlong, hfits⟩
    · cases hwait
  · rintro ⟨hlimit, hfits⟩
    obtain ⟨pid, hspawn⟩ := hx.spawned
    rw [if_neg (not_lt.mpr hlimit), if_pos hfits]
    exact ⟨hx.valid, ⟨pid, input, ⟨true, "exit status: 0", lineOf out⟩, hspawn, hx.written, rfl, rfl, _,
      hx.returned, hx.read⟩, hx.version, hx.same, hx.ok⟩

/-- **The parent gets the child's answer exactly when the answer fits into the pipe and the request into the child's
limit.**  For every valid request that the child handles with success, in every fair schedule in which the child's own
work is done before the timeout, the waiting ends, and the call returns that answer iff its line is no longer than the
pipe and the line of the request no longer than what the child reads. -/
theorem spawn_ok_iff_fits {acts : Nat → Pipes.Act} (hx : Exchange h c req resp input out) (hcapacity : 0 < capacity)
    (hfair : Pipes.Fair acts)
    (htimely : Pipes.Timely (enclavePipes c capacity) (Pipes.start (lineOf input)) acts) :
    ∃ n r, (Pipes.trace (enclavePipes c capacity) (Pipes.start (lineOf input)) acts n).result = some r ∧
      (spawnEnclaveChild { h with waitWithTimeout := fun _ => waited timeoutSecs r } req = .ok resp ↔
        (lineOf input).length ≤ maxRequestLine ∧ (lineOf out).length ≤ capacity) := by
  obtain ⟨n, hn⟩ := Pipes.exists_result hcapacity hx.line hfair htimely
  exact ⟨n, _, hn, hx.spawn_iff⟩

end Call

/-! ## A ping -/

def pingRequest : EnclaveRequest := ⟨1, "1", "ping", "", "", "", "", 0, none, none⟩

def pingResponse : EnclaveResponse := ⟨1, "1", true, none, none, none, none, none, 7, none⟩

/-- The parent's side, with texts for the request and the answer. -/
def pingParent : ParentHost where
  newRequestId := "1"
  enclaveExe := .ok ()
  spawn := .ok 7
  toJson := fun _ => .ok "q"
  waitWithTimeout := fun _ => .error ""
  fromUtf8 := fun _ => .ok "ok\n"
  fromStr := fun _ => .ok pingResponse
  latencyMs := 0
  sha256 := id
  logAudit := fun _ _ => .ok ()

def pingChild : ChildHost := ⟨.ok (), fun _ => .ok "q\n", fun _ => .ok pingRequest, fun _ => pingResponse, fun _ => .ok "ok"⟩

/-- The parent writes, the child reads and writes, and from then on the parent polls with the time over. -/
def pingActs (n : Nat) : Pipes.Act :=
  if n = 0 then .parent false else if n < 3 then .child else if n % 2 = 1 then .parent true else .child

theorem exchange_ping : Exchange pingParent pingChild pingRequest pingResponse "q" "ok" where
  valid := by decide
  spawned := ⟨7, rfl⟩
  written := rfl
  oneLine := by decide
  confined := rfl
  arrived := rfl
  notEmpty := by decide
  parsed := rfl
  handled := rfl
  answered := rfl
  returned := rfl
  read := rfl
  version := rfl
  same := rfl
  ok := rfl

theorem fair_pingActs : Pipes.Fair pingActs where
  child n := ⟨2 * n + 4, by omega, by
    rw [pingActs, if_neg (by omega), if_neg (by omega), if_neg (by omega)]⟩
  late n := ⟨2 * n + 3, by omega, by
    rw [pingActs, if_neg (by omega), if_neg (by omega), if_pos (by omega)]⟩

theorem timely_pingActs {P : Pipes.Setup UInt8} {s : Pipes.Sys UInt8} {r : Option (Bool × Bytes)}
    (hstuck : (Pipes.trace P s pingActs 3).childStep P = Pipes.trace P s pingActs 3)
    (hresult : (Pipes.trace P s pingActs 4).result = some r) : Pipes.Timely P s pingActs := by
  intro n hn _ hnone
  by_cases h4 : 4 ≤ n
  · rw [Pipes.result_trace h4 hresult] at hnone
    cases hnone
  · obtain rfl | rfl | rfl | rfl : n = 0 ∨ n = 1 ∨ n = 2 ∨ n = 3 := by omega
    · cases hn
    · cases hn
    · cases hn
    · exact hstuck

theorem spawn_ok_iff_fits_ping :
    ∃ n r, (Pipes.trace (enclavePipes pingChild 8) (Pipes.start (lineOf "q")) pingActs n).result = some r ∧
      (spawnEnclaveChild { pingParent with waitWithTimeout := fun _ => waited 30 r } pingRequest = .ok pingResponse ↔
        (lineOf "q").length ≤ maxRequestLine ∧ (lineOf "ok").length ≤ 8) :=
  spawn_ok_iff_fits exchange_ping (by decide) fair_pingActs (timely_pingActs rfl rfl)

/-- **An answer longer than the pipe times out.**  The exchange is the same; the child is done with its work, and waits
for room that the parent makes only after its exit. -/
theorem long_answer_times_out :
    Exchange pingParent pingChild pingRequest pingResponse "q" "ok" ∧ Pipes.Fair pingActs ∧
      Pipes.Timely (enclavePipes pingChild 2) (Pipes.start (lineOf "q")) pingActs ∧
      ∃ r, (Pipes.trace (enclavePipes pingChild 2) (Pipes.start (lineOf "q")) pingActs 4).result = some r ∧
        spawnEnclaveChild { pingParent with waitWithTimeout := fun _ => waited 30 r } pingRequest =
          .error ⟨some 7, "enclave timeout after 30s"⟩ :=
  ⟨exchange_ping, fair_pingActs, timely_pingActs rfl rfl, none, rfl, rfl⟩

end OneCipher.KeyAgent.Pipe
