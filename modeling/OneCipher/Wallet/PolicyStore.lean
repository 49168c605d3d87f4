import Mathlib.Data.List.Sort
import OneCipher.Base.Prog
import OneCipher.Base.Utf8
import OneCipher.Policy.V1

/-!
# OneCipher.Wallet.PolicyStore — policy files and their signature sidecars

`oc-wallet/src/policy_store.rs`.  A vault directory is seen through three readings: creating it, listing its
entries, and the state of a file under a path relative to it.  Two views of the policies directory are modelled,
and they differ on purpose:

The JSON reader and Ed25519 verification are fields of `PolicyVault`.
-/

namespace OneCipher.Wallet

open Result

/-! ## Errors -/

/-- `oc_core::OcError`. -/
inductive OcError where
  | walletNotFound (id : String)
  | chainNotSupported (chain : String)
  | invalidPassphrase
  | invalidInput (message : String)
  | caipParseError (message : String)
  | policyDenied (policyId reason : String)
  | apiKeyNotFound
  | apiKeyExpired (id : String)
  deriving DecidableEq, Repr

/-- `OcWalletError`; the errors of other crates are carried as their text. -/
inductive OcWalletError where
  | walletNotFound (id : String)
  | ambiguousWallet (name : String) (count : Nat)
  | walletNameExists (name : String)
  | invalidInput (message : String)
  | broadcastFailed (message : String)
  | crypto (message : String)
  | signer (message : String)
  | mnemonic (message : String)
  | hd (message : String)
  | core (e : OcError)
  | io (message : String)
  | json (message : String)
  | signatureInvalid (path reason : String)
  deriving DecidableEq, Repr

/-! ## Directories -/

/-- What is found at a path. -/
inductive FileState where
  | missing
  | unreadable (e : String)
  | contents (b : Bytes)
  deriving DecidableEq, Repr

def FileState.exists : FileState → Bool
  | .missing => false
  | _ => true

/-- `fs::read`. -/
def FileState.read : FileState → Except String Bytes
  | .missing => .error "No such file or directory (os error 2)"
  | .unreadable e => .error e
  | .contents b => .ok b

def utf8Text (b : Bytes) : Option String := String.fromUTF8? (ByteArray.mk b.toArray)

theorem mk_utf8 (s : String) : ByteArray.mk (Text.utf8 s).toArray = s.toByteArray := by
  rw [← String.utf8Encode_toList]
  apply ByteArray.ext
  simp [List.utf8Encode, Text.utf8]

theorem utf8Text_utf8 (s : String) : utf8Text (Text.utf8 s) = some s := by
  rw [utf8Text, mk_utf8, String.fromUTF8?, dif_pos s.isValidUTF8]
  rfl

theorem utf8Text_encode (cs : List Char) : utf8Text (Utf8.encode cs) = some (String.ofList cs) := by
  have h := utf8Text_utf8 (String.ofList cs)
  rwa [Text.utf8, String.toList_ofList] at h

theorem utf8_of_utf8Text {b : Bytes} {s : String} (h : utf8Text b = some s) : Text.utf8 s = b := by
  rw [utf8Text, String.fromUTF8?] at h
  split_ifs at h with hvalid
  have hbytes : s.toByteArray = ByteArray.mk b.toArray := by
    rw [← Option.some.inj h]
    rfl
  rw [← mk_utf8] at hbytes
  injection hbytes with harray
  exact List.toArray_inj harray

/-- `fs::read_to_string`: the bytes, if they are text. -/
def FileState.readToString (f : FileState) : Except String Bytes := do
  let b ← f.read
  if (utf8Text b).isSome then return b else throw "stream did not contain valid UTF-8"

/-- `fs::read_dir`. -/
inductive ReadDir where
  | notFound
  | failed (e : String)
  | entries (names : List (Except String String))

structure Directory where
  create : Option String
  readDir : ReadDir
  file : String → FileState

/-- A directory with the given files, each holding `{`. -/
def Directory.holding (names : List String) : Directory :=
  ⟨none, .entries (names.map .ok), fun path => if path ∈ names then .contents [0x7b] else .missing⟩

/-- The stem of a file name whose extension is `json`; a leading dot does not start an extension. -/
def jsonStem (name : String) : Option String :=
  let stem := name.toList.take (name.toList.length - 5)
  if stem ++ ".json".toList = name.toList ∧ stem ≠ [] then some (String.ofList stem) else none

namespace Directory

variable {α : Type}

def entryValue (parse : Bytes → Except String α) (d : Directory) (name : String) : Option α :=
  if (jsonStem name).isNone then none
  else match (d.file name).readToString with
    | .ok b => (parse b).toOption
    | .error _ => none

/-- The lenient listing: an entry that cannot be enumerated is an error, one that cannot be read or
parsed is skipped. -/
def listJson (parse : Bytes → Except String α) (d : Directory) : Except OcWalletError (List α) :=
  match d.create with
  | some e => .error (.io e)
  | none =>
    match d.readDir with
    | .notFound => .ok []
    | .failed e => .error (.io e)
    | .entries names => do
      let names ← (names.mapM id).mapError .io
      return names.filterMap (d.entryValue parse)

def names (d : Directory) : List String :=
  match d.readDir with
  | .entries names => names.filterMap (·.toOption)
  | _ => []

theorem mapM_id_eq_ok {ε : Type} {xs : List (Except ε α)} {ys : List α} (h : xs.mapM id = .ok ys) :
    xs.filterMap (·.toOption) = ys := by
  induction xs generalizing ys with
  | nil => cases h; rfl
  | cons x xs ih =>
    rw [List.mapM_cons] at h
    rcases x with e | a
    · cases h
    rcases hr : xs.mapM id with e | zs
    · rw [hr] at h; cases h
    · rw [hr] at h; cases h
      rw [List.filterMap_cons_some (by rfl), ih hr]

theorem listJson_ok {parse : Bytes → Except String α} {d : Directory} {vs : List α}
    (h : d.listJson parse = .ok vs) : vs = d.names.filterMap (d.entryValue parse) := by
  rcases hc : d.create with _ | e
  · rcases hr : d.readDir with _ | e | ns <;> simp only [listJson, names, hc, hr] at h ⊢
    · cases h; rfl
    · cases h
    · rcases hm : ns.mapM id with e | zs <;> rw [hm] at h <;> cases h
      rw [mapM_id_eq_ok hm]
  · simp [listJson, hc] at h

end Directory

/-! ## The policy store -/

structure SignedPolicy where
  policy : Policy
  signatureVerified : Bool

structure PolicyVault where
  policies : Directory
  policiesPath : String
  signingKey : FileState
  parsePolicy : Bytes → Except String Policy
  verifySeed : Bytes → Bytes → Bytes → Except String Unit

namespace PolicyVault

variable (v : PolicyVault)

def policyPath (id : String) : String := id ++ ".json"

def sidecarPath (path : String) : String := path ++ ".sig"

def readSigningKey : Except String Bytes := do
  let data ← v.signingKey.read.mapError ("read signing key: " ++ ·)
  if data.length = 32 then return data
  else throw ("expected a 32-byte Ed25519 seed, got " ++ toString data.length ++ " bytes")

def sidecarSignature (sidecar : FileState) : Except String Bytes := do
  let text ← sidecar.readToString.mapError ("read sidecar: " ++ ·)
  let sig ← (Text.hexDecode (Text.trim ((utf8Text text).getD ""))).mapError
    fun e => "corrupt sidecar (bad hex): " ++ e.message
  if sig.length = 64 then return sig
  else throw ("corrupt sidecar (bad length " ++ toString sig.length ++ ")")

def verifySidecar (path : String) (contents : Bytes) : Except OcWalletError Unit :=
  Except.mapError (.signatureInvalid (v.policiesPath ++ "/" ++ path)) do
    if !v.signingKey.exists then throw "policy signing key not found; cannot verify"
    let seed ← v.readSigningKey
    let sig ← sidecarSignature (v.policies.file (sidecarPath path))
    (v.verifySeed seed contents sig).mapError ("signature mismatch: " ++ ·)

def loadPolicy (id : String) : Except OcWalletError SignedPolicy :=
  match v.policies.create with
  | some e => .error (.io e)
  | none =>
    let path := policyPath id
    if !(v.policies.file path).exists then .error (.invalidInput ("policy not found: " ++ id))
    else do
      let contents ← (v.policies.file path).read.mapError .io
      if !(v.policies.file (sidecarPath path)).exists then
        let policy ← (v.parsePolicy contents).mapError .json
        return ⟨policy, false⟩
      else
        v.verifySidecar path contents
        let policy ← (v.parsePolicy contents).mapError .json
        return ⟨policy, true⟩

def listPolicies : Except OcWalletError (List Policy) :=
  (v.policies.listJson v.parsePolicy).map (List.insertionSort fun a b => a.name ≤ b.name)

variable {v}

theorem loadPolicy_ok {id : String} {sp : SignedPolicy} (h : v.loadPolicy id = .ok sp) :
    ∃ b, v.policies.file (policyPath id) = .contents b ∧ v.parsePolicy b = .ok sp.policy := by
  rcases hc : v.policies.create with _ | e
  · simp only [loadPolicy, hc] at h
    obtain ⟨-, h⟩ := guard_eq_ok.mp h
    obtain ⟨b, hb, h⟩ := bind_eq_ok.mp h
    have hf : v.policies.file (policyPath id) = .contents b := by
      rcases hs : v.policies.file (policyPath id) with _ | _ | b' <;> rw [hs] at hb <;> cases hb
      rfl
    -- both branches end by parsing the same bytes
    have hparse : ∀ verified, ((v.parsePolicy b).mapError OcWalletError.json >>= fun policy =>
        Pure.pure (SignedPolicy.mk policy verified)) = .ok sp → v.parsePolicy b = .ok sp.policy := by
      intro verified h
      obtain ⟨policy, hp, he⟩ := bind_eq_ok.mp h
      cases he
      exact mapError_eq_ok.mp hp
    refine ⟨b, hf, ?_⟩
    by_cases hs : (!(v.policies.file (sidecarPath (policyPath id))).exists) = true
    · rw [if_pos hs] at h; exact hparse _ h
    · rw [if_neg hs] at h
      obtain ⟨_, _, h⟩ := bind_eq_ok.mp h
      exact hparse _ h
  · simp [loadPolicy, hc] at h

theorem mem_listPolicies {ps : List Policy} (h : v.listPolicies = .ok ps) {p : Policy} :
    p ∈ ps ↔ ∃ name ∈ v.policies.names, v.policies.entryValue v.parsePolicy name = some p := by
  obtain ⟨vs, hvs, rfl⟩ := map_eq_ok.mp h
  rw [List.mem_insertionSort, Directory.listJson_ok hvs, List.mem_filterMap]

/-- A file the listing can take up: an enumerated JSON file that holds text. -/
def Listable (v : PolicyVault) (id : String) : Prop :=
  policyPath id ∈ v.policies.names ∧ (jsonStem (policyPath id)).isSome ∧
    (v.policies.file (policyPath id)).readToString.isOk

theorem entryValue_of_loadPolicy {id : String} {sp : SignedPolicy} (h : v.loadPolicy id = .ok sp)
    (hl : v.Listable id) : v.policies.entryValue v.parsePolicy (policyPath id) = some sp.policy := by
  obtain ⟨b, hf, hp⟩ := loadPolicy_ok h
  obtain ⟨-, hstem, htext⟩ := hl
  have hread : (v.policies.file (policyPath id)).readToString = .ok b := by
    rw [hf] at htext ⊢
    by_cases hu : (utf8Text b).isSome = true
    · simp [FileState.readToString, FileState.read, bind, Except.bind, hu, pure, Except.pure]
    · simp [FileState.readToString, FileState.read, bind, Except.bind, hu, throw, throwThe,
        MonadExceptOf.throw, Except.isOk, Except.toBool] at htext
  have hne : ¬ (jsonStem (policyPath id)).isNone = true := by
    rw [Option.isNone_iff_eq_none]
    intro hn
    rw [hn] at hstem
    cases hstem
  simp only [Directory.entryValue, if_neg hne, hread, hp, Except.toOption]

end PolicyVault

end OneCipher.Wallet
