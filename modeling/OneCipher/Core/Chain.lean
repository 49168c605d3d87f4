import Mathlib.Data.List.TakeDrop
import OneCipher.Base.Text

/-!
# OneCipher.Core.Chain — chain families and CAIP-2 chain ids

`oc-core/src/chain.rs`.  A `Chain` is a name, a family and a CAIP-2 id.  Three things are taken from
the surroundings (`ChainHost`): Unicode lower-casing, the CAIP-2 reader, and whether the bounded
interner still takes an id it has not seen.
-/

namespace OneCipher.Core

inductive ChainType where
  | evm | solana | cosmos | bitcoin | tron | ton | spark | filecoin | sui | xrpl | nano | near
  deriving DecidableEq, Repr

namespace ChainType

/-- `ChainType::from_namespace`. -/
def fromNamespace : String → Option ChainType
  | "eip155" => some evm
  | "solana" => some solana
  | "cosmos" => some cosmos
  | "bip122" => some bitcoin
  | "tron" => some tron
  | "ton" => some ton
  | "spark" => some spark
  | "fil" => some filecoin
  | "sui" => some sui
  | "xrpl" => some xrpl
  | "nano" => some nano
  | "near" => some near
  | _ => none

end ChainType

/-- A specific chain. -/
structure Chain where
  name : String
  chainType : ChainType
  chainId : String
  deriving DecidableEq, Repr

structure ChainHost where
  toLowercase : String → String
  parseChainId : String → Except String (String × String)
  interns : String → Bool

def knownChains : List Chain :=
  [⟨"ethereum", .evm, "eip155:1"⟩, ⟨"polygon", .evm, "eip155:137"⟩, ⟨"arbitrum", .evm, "eip155:42161"⟩,
   ⟨"optimism", .evm, "eip155:10"⟩, ⟨"base", .evm, "eip155:8453"⟩, ⟨"plasma", .evm, "eip155:9745"⟩,
   ⟨"bsc", .evm, "eip155:56"⟩, ⟨"avalanche", .evm, "eip155:43114"⟩, ⟨"etherlink", .evm, "eip155:42793"⟩,
   ⟨"solana", .solana, "solana:5eykt4UsFv8P8NJdTREpY1vzqKqZKvdp"⟩,
   ⟨"bitcoin", .bitcoin, "bip122:000000000019d6689c085ae165831e93"⟩,
   ⟨"cosmos", .cosmos, "cosmos:cosmoshub-4"⟩, ⟨"tron", .tron, "tron:mainnet"⟩, ⟨"ton", .ton, "ton:mainnet"⟩,
   ⟨"spark", .spark, "spark:mainnet"⟩, ⟨"filecoin", .filecoin, "fil:mainnet"⟩, ⟨"sui", .sui, "sui:mainnet"⟩,
   ⟨"xrpl", .xrpl, "xrpl:mainnet"⟩, ⟨"xrpl-testnet", .xrpl, "xrpl:testnet"⟩,
   ⟨"xrpl-devnet", .xrpl, "xrpl:devnet"⟩, ⟨"nano", .nano, "nano:mainnet"⟩, ⟨"near", .near, "near:mainnet"⟩,
   ⟨"near-testnet", .near, "near:testnet"⟩, ⟨"tempo", .evm, "eip155:4217"⟩, ⟨"hyperliquid", .evm, "eip155:999"⟩]

def maxInternedChainIds : Nat := 1024

/-- `str::split_once(':')`. -/
def splitColon (s : String) : Option (String × String) :=
  match s.toList.span (· ≠ ':') with
  | (before, _ :: after) => some (String.ofList before, String.ofList after)
  | (_, []) => none

section Parse

variable (h : ChainHost)

def internedChain (chainType : ChainType) (chainId : String) : Except String Chain :=
  if h.interns chainId then .ok ⟨chainId, chainType, chainId⟩
  else .error ("too many distinct chain IDs seen (limit " ++ toString maxInternedChainIds ++
    "); refusing to intern '" ++ chainId ++ "'")

def unknownChain (s : String) : String :=
  "unknown chain: '" ++ s ++ "'\n\nSupported chains:\n" ++
  "  EVM:     ethereum, base, arbitrum, optimism, polygon, bsc, avalanche, plasma, etherlink\n" ++
  "  Solana:  solana\n  Bitcoin: bitcoin\n" ++
  "  Other:   cosmos, tron, ton, sui, filecoin, spark, xrpl, nano, near\n\n" ++
  "Or use a CAIP-2 ID (eip155:8453) or bare EVM chain ID (8453)"

/-- A chain that is neither a registered name nor a registered id: a bare decimal number is an
EVM chain, and any other id is taken by its namespace. -/
def parseUnregistered (s lower : String) : Except String Chain :=
  if lower ≠ "" ∧ lower.toList.all Char.isDigit then
    let caip2 := "eip155:" ++ lower
    match knownChains.find? (·.chainId == caip2) with
    | some chain => .ok chain
    | none => internedChain h .evm caip2
  else match (splitColon s).bind fun p => ChainType.fromNamespace p.1 with
    | some chainType => internedChain h chainType s
    | none => .error (unknownChain s)

/-- A chain by friendly name, CAIP-2 id or bare EVM chain id; `evm` is an old name for `ethereum`. -/
def parseChain (s : String) : Except String Chain :=
  let lower := if h.toLowercase s = "evm" then h.toLowercase "ethereum" else h.toLowercase s
  let s := if h.toLowercase s = "evm" then "ethereum" else s
  match knownChains.find? (·.name == lower) with
  | some chain => .ok chain
  | none =>
    match knownChains.find? (·.chainId == s) with
    | some chain => .ok chain
    | none => parseUnregistered h s lower

end Parse

namespace Chain

variable (h : ChainHost) (chain : Chain)

def evmChainReference : Except String String :=
  if chain.chainType ≠ .evm then .error ("chain '" ++ chain.chainId ++ "' is not an EVM chain")
  else do
    let (nspace, _) ← h.parseChainId chain.chainId
    if nspace ≠ "eip155" then
      throw ("EVM chain '" ++ chain.chainId ++ "' is missing an eip155 reference")
    match splitColon chain.chainId with
    | some (_, reference) => return reference
    | none => throw ("invalid CAIP-2 chain ID: '" ++ chain.chainId ++ "'")

def evmChainIdU64 : Except String Nat := do
  let reference ← evmChainReference h chain
  match Text.parseUnsigned 10 (2 ^ 64) reference with
  | some n => return n
  | none => throw ("cannot extract numeric chain ID from: " ++ chain.chainId)

end Chain

end OneCipher.Core
