import OneCipher.Base.Json
import OneCipher.Base.Text

/-!
# OneCipher.NetAgent.Approval — pending approvals and the channel to the approver

`oc-core/src/approval.rs` and `oc-netagent/src/approval.rs`.  A signing request that waits for the user
is a `PendingApproval`; `ApprovalChannel.request` hands it to the Web UI and returns the decision, with
every way of not getting one counted as a timeout.
-/

namespace OneCipher.NetAgent

/-! ## Risk -/

inductive RiskLevel where
  | safe | warning | danger | forbidden
  deriving DecidableEq, Repr

namespace RiskLevel

def rank : RiskLevel → Nat
  | safe => 0
  | warning => 1
  | danger => 2
  | forbidden => 3

/-- `std::cmp::max` in the order of the declaration. -/
def max (a b : RiskLevel) : RiskLevel := if a.rank ≤ b.rank then b else a

end RiskLevel

inductive RiskSource where
  | policy | simulation | heuristic
  deriving DecidableEq, Repr

structure RiskReason where
  code : String
  level : RiskLevel
  message : String
  source : RiskSource
  detail : Option Json

/-! ## Simulations -/

inductive TokenDirection where
  | send | receive
  deriving DecidableEq, Repr

structure TokenDelta where
  token : String
  direction : TokenDirection
  amount : String
  deriving DecidableEq, Repr

structure DecodedAction where
  contractName : String
  functionName : String
  args : Json
  humanReadable : String

/-- The result of simulating an EVM transaction. -/
structure TxSimulation where
  success : Bool
  gasUsed : UInt64
  balanceChange : List TokenDelta
  decodedAction : Option DecodedAction
  error : Option String

/-- What an approver is shown of a CAIP-122 message. -/
structure SiwxSummary where
  domain : String
  address : String
  uri : String
  chainName : Option String
  nonce : String
  issuedAt : String
  expirationTime : Option String
  resources : List String
  deriving DecidableEq, Repr

/-! ## Approvals -/

structure PendingApproval where
  id : String
  method : String
  params : Json
  dappName : String
  dappOrigin : String
  chainId : String
  risk : RiskLevel
  riskReasons : List RiskReason
  simulation : Option TxSimulation
  siwxSummary : Option SiwxSummary
  createdAtUnix : Nat
  expiresAtUnix : Nat

inductive ApprovalDecision where
  | approve
  | reject (reason : String)
  | timeout
  deriving DecidableEq, Repr

/-- What becomes of an approval that was handed to the channel. -/
inductive ChannelReply where
  /-- The receiving side is gone. -/
  | closed
  | answered (decision : ApprovalDecision)
  /-- The approver went away without an answer. -/
  | dropped
  /-- No answer came in time. -/
  | elapsed
  deriving DecidableEq, Repr

/-- The sending side of a channel: what happens to each approval, by its number in the run. -/
structure ApprovalChannel where
  reply : Nat → PendingApproval → ChannelReply

def ApprovalChannel.request (c : ApprovalChannel) (t : Nat) (pending : PendingApproval) : ApprovalDecision :=
  match c.reply t pending with
  | .answered decision => decision
  | .closed | .dropped | .elapsed => .timeout

end OneCipher.NetAgent
