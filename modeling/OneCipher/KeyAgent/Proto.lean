import OneCipher.KeyAgent.Passkey

/-!
# OneCipher.KeyAgent.Proto — the messages between the Net-Agent and the Key-Agent

`oc-keyagent/src/{proto,request,response}.rs`, as far as the Net-Agent's router sends and reads them.
The messages are data; their wire encoding belongs to the `prost` crate, so decoding a response is a
parameter (`ProtoDecoder`).
-/

namespace OneCipher.KeyAgent

/-! ## Requests -/

structure SignTransactionRequest where
  sessionKeyId : String
  walletId : String
  chainId : String
  rawTxHex : String
  auth : Option PasskeyAuthorization
  deriving DecidableEq, Repr

structure SignUserOpRequest where
  sessionKeyId : String
  walletId : String
  chainId : String
  userOpHex : String
  auth : Option PasskeyAuthorization
  deriving DecidableEq, Repr

structure SignMessageRequest where
  sessionKeyId : String
  walletId : String
  message : Bytes
  auth : Option PasskeyAuthorization
  deriving DecidableEq, Repr

structure SignTypedDataRequest where
  sessionKeyId : String
  walletId : String
  typedDataJson : String
  auth : Option PasskeyAuthorization
  deriving DecidableEq, Repr

/-- The fields of `SignAuthRequest` and `SignSiwxRequest`, which are the same.  A passkey proof or the
daemon's token authorizes the request. -/
structure AuthClassRequest where
  walletId : String
  chainId : String
  message : Bytes
  auth : Option PasskeyAuthorization
  agentToken : Bytes
  deriving DecidableEq, Repr

/-- The requests the router makes. -/
inductive KeyAgentRequestKind where
  | signTransaction (req : SignTransactionRequest)
  | signUserOp (req : SignUserOpRequest)
  | signMessage (req : SignMessageRequest)
  | signTypedData (req : SignTypedDataRequest)
  | signAuth (req : AuthClassRequest)
  | signSiwx (req : AuthClassRequest)
  | listWallets
  | generateChallenge (credentialId : String)
  deriving DecidableEq, Repr

def KeyAgentRequestKind.isSigning : KeyAgentRequestKind → Bool
  | .listWallets | .generateChallenge _ => false
  | _ => true

/-! ## Responses -/

structure WalletAccount where
  accountId : String
  address : String
  chainId : String
  derivationPath : String
  deriving DecidableEq, Repr

structure WalletInfo where
  id : String
  name : String
  keyType : String
  createdAt : UInt64
  accounts : List WalletAccount
  deriving DecidableEq, Repr

/-- A signature and the signed payload in hex (`SignTransactionResponse`, `SignUserOpResponse`). -/
structure SignedPayload where
  signature : Bytes
  signedHex : String
  deriving DecidableEq, Repr

/-- A signature and the account it was made with (`SignAuthResponse`, `SignSiwxResponse`). -/
structure AccountSignature where
  signature : Bytes
  address : String
  chainId : String
  publicKey : Bytes
  deriving DecidableEq, Repr

/-- The decoders of the response messages; a failure carries its text. -/
structure ProtoDecoder where
  listWallets : Bytes → Except String (List WalletInfo)
  signTransaction : Bytes → Except String SignedPayload
  signUserOp : Bytes → Except String SignedPayload
  signMessage : Bytes → Except String Bytes
  signTypedData : Bytes → Except String Bytes
  signAuth : Bytes → Except String AccountSignature
  signSiwx : Bytes → Except String AccountSignature
  generateChallenge : Bytes → Except String Bytes

/-- What a response frame holds: `deny` carries the wire number of the reason. -/
inductive KeyAgentReply where
  | ok (payload : Bytes)
  | deny (reason : Int)
  | error (message : String)
  | empty
  deriving DecidableEq, Repr

end OneCipher.KeyAgent
