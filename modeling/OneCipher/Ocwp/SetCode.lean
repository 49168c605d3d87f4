import OneCipher.Ocwp.Envelope
import OneCipher.Signer.SignedTx

/-!
# OneCipher.Ocwp.SetCode — EIP-7702 transactions

What is expected of an authorization tuple is `SignedTuple`: canonical, and its own chain, address and nonce are
what its signature signs.  What is expected of the envelope is `TenItems`.
-/

namespace OneCipher.Ocwp

open Prog Core Signer Wallet Bytes Result List Outcome
open EvmTx (scalar)

/-! ## Authorizations -/

def authorizationDigest (c : EvmCrypto) (a : Authorization) : Bytes :=
  c.keccak256 (0x05 :: Rlp.encode (.list [scalar a.chainId.toNat, .bytes a.address.1, scalar a.nonce.toNat]))

/-- The tuple is canonical, and its last three items are a signature over the first three. -/
def SignedTuple (c : EvmCrypto) (tuple : Bytes) : Prop :=
  ∃ (a : Authorization) (key : Bytes), tuple = Rlp.encode (EvmTx.authorizationRlp a) ∧
    a.yParity.toNat = (c.signPrehash key (authorizationDigest c a)).recoveryId.toNat ∧
    a.r.toNat = beNat (c.signPrehash key (authorizationDigest c a)).r ∧
    a.s.toNat = beNat (c.signPrehash key (authorizationDigest c a)).s

/-- The tuple the code makes of an entry. -/
def EntryTuple (env : WalletEnv) (session : SessionEntry) (chain : Chain) (chainRef : String) (entry : Json)
    (tuple : Bytes) : Prop :=
  ∃ e result, readEntry chainRef entry = .ok e ∧ signEntry env session chain e = .ok result ∧
    encodeEntry e result = .ok tuple

section Tuples

variable {x : SignHost} {session : SessionEntry} {chain : Chain} {obj : List (String × Json)} {d d' : Daemon}

theorem toU64_eq_ok {n m : Nat} {message : String} : toU64 n message = .ok m ↔ n < 2 ^ 64 ∧ n = m := by
  unfold toU64
  split <;> simp_all

def tupleItems (chainId nonce recovery : Nat) (address signature : Bytes) : List Rlp :=
  [scalar chainId, .bytes address, scalar nonce, scalar recovery, .bytes (signature.take 32),
    .bytes (signature.drop 32)]

def recoveryOf (signature : Bytes) : Nat := if signature.getD 64 0 ≥ 27 then 1 else 0

theorem encodeEntry_eq_ok {e : AuthorizationEntry} {result : SignResult} {tuple : Bytes} :
    encodeEntry e result = .ok tuple ↔ ∃ signature chainId,
      decodeHexField result.signature "authorizationList[].signature" = .ok signature ∧ signature.length = 65 ∧
      parseQuantity e.entryChain "authorizationList[].chainId" = .ok chainId ∧ chainId < 2 ^ 64 ∧ e.nonce < 2 ^ 64 ∧
      Rlp.encode (.list (tupleItems chainId e.nonce (recoveryOf signature) e.addressBytes signature)) = tuple := by
  have htuple : ∀ signature chainId, chainId < 2 ^ 64 → e.nonce < 2 ^ 64 →
      encodeList (encodeU64 chainId ++ encodeBytes e.addressBytes ++ encodeU64 e.nonce ++
        encodeU64 (recoveryOf signature) ++ encodeBytes (signature.take 32) ++ encodeBytes (signature.drop 32)) =
      Rlp.encode (.list (tupleItems chainId e.nonce (recoveryOf signature) e.addressBytes signature)) := by
    intro signature chainId hchain hnonce
    have hrecovery : recoveryOf signature < 2 ^ 64 := by unfold recoveryOf; split <;> norm_num
    rw [encodeU64_eq hchain, encodeU64_eq hnonce, encodeU64_eq hrecovery]
    simp [encodeList_eq, encodeBytes_eq, tupleItems, Rlp.encode, Rlp.encodeAll]
  constructor
  · intro h
    obtain ⟨signature, hsignature, h⟩ := bind_eq_ok.mp h
    obtain ⟨hlen, h⟩ := guard_eq_ok.mp h
    obtain ⟨parsed, hparsed, h⟩ := bind_eq_ok.mp h
    obtain ⟨chainNumeric, hchain, h⟩ := bind_eq_ok.mp h
    obtain ⟨nonce, hnonce, h⟩ := bind_eq_ok.mp h
    obtain ⟨hltChain, rfl⟩ := toU64_eq_ok.mp hchain
    obtain ⟨hltNonce, rfl⟩ := toU64_eq_ok.mp hnonce
    refine ⟨signature, parsed, hsignature, not_not.mp hlen, hparsed, hltChain, hltNonce, ?_⟩
    rw [← htuple signature parsed hltChain hltNonce]
    exact Except.ok.inj h
  · rintro ⟨signature, parsed, hsignature, hlen, hparsed, hltChain, hltNonce, rfl⟩
    rw [← htuple signature parsed hltChain hltNonce]
    refine bind_ok hsignature (guard_eq_ok.mpr ⟨not_not.mpr hlen, ?_⟩)
    refine bind_ok hparsed (bind_ok (toU64_eq_ok.mpr ⟨hltChain, rfl⟩) ?_)
    exact bind_ok (toU64_eq_ok.mpr ⟨hltNonce, rfl⟩) rfl

theorem encodeEntries_returns_iff {chainRef : String} {entries : List Json} {out : Bytes} :
    (∃ d', exec (encodeEntries x session chain chainRef entries) d = (.ok out, d')) ↔
      ∃ tuples, List.Forall₂ (EntryTuple x.wallet session chain chainRef) entries tuples ∧ out = tuples.flatten := by
  induction entries generalizing d out with
  | nil =>
    constructor
    · rintro ⟨d', h⟩
      cases h
      exact ⟨[], .nil, rfl⟩
    · rintro ⟨tuples, h, rfl⟩
      cases h
      exact ⟨d, rfl⟩
  | cons _ _ ih =>
    constructor
    · rintro ⟨d', h⟩
      obtain ⟨e, hread, h⟩ := exec_lift_bind_ok.mp h
      obtain ⟨result, hsign, h⟩ := exec_lift_bind_ok.mp h
      obtain ⟨⟨⟩, d1, -, h⟩ := exec_bind_ok.mp h
      obtain ⟨encoded, hencoded, h⟩ := exec_lift_bind_ok.mp h
      obtain ⟨tail, d2, htail, h⟩ := exec_bind_ok.mp h
      cases h
      obtain ⟨tuples, htuples, rfl⟩ := ih.mp ⟨_, htail⟩
      exact ⟨encoded :: tuples, .cons ⟨e, result, hread, hsign, hencoded⟩ htuples, rfl⟩
    · rintro ⟨_, htuples, rfl⟩
      cases htuples with
      | @cons _ tuple _ tuples htuple htuples =>
        obtain ⟨e, result, hread, hsign, hencoded⟩ := htuple
        obtain ⟨d', htail⟩ := ih.mpr ⟨tuples, htuples, rfl⟩
        refine ⟨d', exec_lift_bind_ok.mpr ⟨e, hread, exec_lift_bind_ok.mpr ⟨result, hsign, ?_⟩⟩⟩
        refine exec_bind_ok.mpr ⟨(), d.emit (.signedAuthorization chain.chainId e.address (toString e.nonce)), rfl, ?_⟩
        exact exec_lift_bind_ok.mpr ⟨tuple, hencoded, exec_bind_ok.mpr ⟨tuples.flatten, d', htail, rfl⟩⟩

theorem encodeAuthorizationList_returns_iff {out : Bytes} :
    (∃ d', exec (encodeAuthorizationList x session chain obj) d = (.ok out, d')) ↔
      ∃ chainRef entries tuples, Text.stripPrefix "eip155:" chain.chainId = some chainRef ∧
        authorizationEntries obj = .ok entries ∧ encodeList tuples.flatten = out ∧
        List.Forall₂ (EntryTuple x.wallet session chain chainRef) entries tuples := by
  rw [encodeAuthorizationList]
  constructor
  · rintro ⟨d', h⟩
    obtain ⟨chainRef, href, h⟩ := exec_lift_bind_ok.mp h
    obtain ⟨entries, hentries, h⟩ := exec_lift_bind_ok.mp h
    obtain ⟨encoded, d1, hencoded, h⟩ := exec_bind_ok.mp h
    rw [exec_pure] at h
    obtain ⟨tuples, htuples, hflat⟩ := encodeEntries_returns_iff.mp ⟨_, hencoded⟩
    refine ⟨chainRef, entries, tuples, okOr_eq_ok.mp href, hentries, ?_, htuples⟩
    rw [← hflat]
    exact Except.ok.inj (Prod.mk.inj h).1
  · rintro ⟨chainRef, entries, tuples, href, hentries, hout, htuples⟩
    obtain ⟨d', h⟩ := encodeEntries_returns_iff.mpr ⟨tuples, htuples, rfl⟩
    refine ⟨d', exec_lift_bind_ok.mpr ⟨chainRef, okOr_eq_ok.mpr href, exec_lift_bind_ok.mpr
      ⟨entries, hentries, exec_bind_ok.mpr ⟨_, d', h, ?_⟩⟩⟩⟩
    rw [exec_pure, hout]

theorem length_scalar_le (n : Nat) : (Rlp.encode (scalar n)).length ≤ 41 := by
  have h := Rlp.length_encodeBytes_le (stripZeros (toBe 32 n))
  have hstrip := length_stripZeros_le (toBe 32 n)
  rw [length_toBe] at hstrip
  rw [scalar, Rlp.encode]
  omega

theorem length_authorizationRlp_lt (a : Authorization) : (Rlp.encode (EvmTx.authorizationRlp a)).length < 2 ^ 64 := by
  have haddress := Rlp.length_encodeBytes_le a.address.1
  have h1 := length_scalar_le a.chainId.toNat
  have h2 := length_scalar_le a.nonce.toNat
  have h3 := length_scalar_le a.yParity.toNat
  have h4 := length_scalar_le a.r.toNat
  have h5 := length_scalar_le a.s.toNat
  rw [a.address.2] at haddress
  rw [EvmTx.authorizationRlp, Rlp.encode, Rlp.length_encodeList]
  have hheader := Rlp.length_header_le 0xc0 (Rlp.encodeAll [scalar a.chainId.toNat, .bytes a.address.1,
    scalar a.nonce.toNat, scalar a.yParity.toNat, scalar a.r.toNat, scalar a.s.toNat]).length
  have hpayload : (Rlp.encodeAll [scalar a.chainId.toNat, .bytes a.address.1,
      scalar a.nonce.toNat, scalar a.yParity.toNat, scalar a.r.toNat,
      scalar a.s.toNat]).length ≤ 300 := by
    simp only [Rlp.encodeAll, length_append, length_nil, Rlp.encode.eq_1 a.address.1]
    omega
  omega

theorem not_signedTuple {c : EvmCrypto} {chainId nonce recovery : Nat} {address signature : Bytes}
    (hlen : signature.length = 65) :
    ¬ SignedTuple c (Rlp.encode (.list (tupleItems chainId nonce recovery address signature))) := by
  rintro ⟨a, key, htuple, -⟩
  have hitems := Rlp.encode_list_inj (by rw [htuple]; exact length_authorizationRlp_lt a) htuple
  have hlast := congrArg (·[5]?) hitems
  have hs : Rlp.encodeBytes (signature.drop 32) = Rlp.encodeBytes (stripZeros (toBe 32 a.s.toNat)) := by
    simpa [tupleItems, scalar, Rlp.encode] using hlast
  have hshort := length_stripZeros_le (toBe 32 a.s.toNat)
  rw [length_toBe] at hshort
  have hbytes := Rlp.length_encodeBytes_le (signature.drop 32)
  have hdrop : (signature.drop 32).length = 33 := by rw [length_drop, hlen]
  have hsame := Rlp.encodeBytes_inj (by omega) hs
  rw [hsame] at hdrop
  omega

/-- **No authorization is the one that was signed.**  Every list of entries `encode_authorization_list` accepts is
encoded as one tuple for each entry, and none of the tuples is a canonical authorization signed over itself. -/
theorem tuples_never_signed (x : SignHost) (session : SessionEntry) (chain : Chain) (obj : List (String × Json))
    (d d' : Daemon) (out : Bytes)
    (h : exec (encodeAuthorizationList x session chain obj) d = (.ok out, d')) :
    ∃ chainRef entries tuples, Text.stripPrefix "eip155:" chain.chainId = some chainRef ∧
      authorizationEntries obj = .ok entries ∧ out = encodeList tuples.flatten ∧
      List.Forall₂ (fun entry tuple => EntryTuple x.wallet session chain chainRef entry tuple ∧
        ¬ SignedTuple x.wallet.evm tuple) entries tuples := by
  obtain ⟨chainRef, entries, tuples, href, hentries, hout, htuples⟩ := encodeAuthorizationList_returns_iff.mp ⟨_, h⟩
  refine ⟨chainRef, entries, tuples, href, hentries, hout.symm, htuples.imp ?_⟩
  intro entry tuple htuple
  refine ⟨htuple, ?_⟩
  obtain ⟨e, result, -, -, he⟩ := htuple
  obtain ⟨signature, chainId, -, hlen, -, -, -, htuple⟩ := encodeEntry_eq_ok.mp he
  rw [← htuple]
  exact not_signedTuple hlen

end Tuples

/-! ## The envelope -/

/-- The ten items of an EIP-7702 transaction: the access list stands before the authorizations. -/
def TenItems (raw : Bytes) : Prop :=
  ∃ (c : CappedFields) (access authorizations : List Rlp),
    raw = 0x04 :: Rlp.encode (.list (c.items ++ [.list access, .list authorizations]))

section SetCode

variable {x : SignHost} {session : SessionEntry} {chain : Chain} {obj : List (String × Json)} {d d' : Daemon}

theorem encodeEnvelope_eip7702 {f : Filled} {raw : Bytes} (hkind : f.request.kind = .eip7702)
    (h : exec (encodeEnvelope x session chain obj f) d = (.ok raw, d')) :
    ∃ tuples, raw = 0x04 :: Rlp.encodeList ((cappedItems f).flatten ++ Rlp.encodeList tuples) := by
  rw [encodeEnvelope, if_pos (by rw [hkind]; rfl), hkind] at h
  obtain ⟨last, d1, hlast, h⟩ := exec_bind_ok.mp h
  rw [lastItem, if_pos rfl] at hlast
  obtain ⟨chainRef, -, hlast⟩ := exec_lift_bind_ok.mp hlast
  obtain ⟨entries, -, hlast⟩ := exec_lift_bind_ok.mp hlast
  obtain ⟨tuples, d2, -, hlast⟩ := exec_bind_ok.mp hlast
  rw [exec_pure] at hlast h
  obtain rfl := Except.ok.inj (Prod.mk.inj hlast).1
  obtain rfl := Except.ok.inj (Prod.mk.inj h).1
  exact ⟨tuples, by rw [encodeList_eq, encodeList_eq]; rfl⟩

theorem not_tenItems {f : Filled} {tuples : Bytes} (hfits : f.Fits)
    (ha : Addressable (0x04 :: Rlp.encodeList ((cappedItems f).flatten ++ Rlp.encodeList tuples))) :
    ¬ TenItems (0x04 :: Rlp.encodeList ((cappedItems f).flatten ++ Rlp.encodeList tuples)) := by
  rintro ⟨c, access, authorizations, hraw⟩
  have hbody := (List.cons.inj hraw).2
  have hitems : (cappedItems f).flatten ++ Rlp.encodeList tuples =
      (f.fields.items.map Rlp.encode ++ [Rlp.encodeList tuples]).flatten := by
    rw [flatten_append, flatten_singleton, ← Rlp.encodeAll_eq_flatten, encodeAll_fields hfits]
  have hlen : (0x04 :: Rlp.encodeList ((cappedItems f).flatten ++ Rlp.encodeList tuples)).length < 2 ^ 63 := ha
  rw [length_cons] at hlen
  have hfields : (Rlp.encodeAll f.fields.items).length < 2 ^ 64 ∧ tuples.length < 2 ^ 64 := by
    rw [encodeAll_fields hfits]
    rw [Rlp.length_encodeList, length_append, Rlp.length_encodeList] at hlen
    omega
  have hwhole : ∀ raw ∈ f.fields.items.map Rlp.encode ++ [Rlp.encodeList tuples], Rlp.Whole raw := by
    intro raw hraw
    rcases mem_append.mp hraw with hm | hm
    · exact Rlp.whole_map_encode hfields.1 raw hm
    · rw [mem_singleton.mp hm]
      exact ⟨_, Rlp.parseHeader_encodeList' hfields.2, (Rlp.length_encodeList _).symm⟩
  rw [hitems] at hbody hlen
  have hsame := congrArg List.length (Rlp.encodeList_flatten_inj hwhole (by omega) hbody)
  simp [CappedFields.items] at hsame

/-- **No EIP-7702 transaction can be sent.**  The bytes of every structured transaction of type 0x04 that resolves are
not the ten items of the standard, and no signature can be put into them. -/
theorem setCode_never_encoded (x : SignHost) (session : SessionEntry) (chain : Chain) (obj : List (String × Json))
    (d d' : Daemon) (resolved : ResolvedTx) (raw : Bytes) (hstruct : (obj.lookup "raw").bind Json.asStr = none)
    (hkind : TxKind.fromWire (field obj ["type"]) = .ok .eip7702)
    (hres : exec (resolveTransaction x session chain (.obj obj)) d = (.ok resolved, d'))
    (hraw : Text.hexDecode resolved.rawHex = .ok raw) (ha : Addressable raw) :
    ¬ TenItems raw ∧ ∀ signature out, EvmSigner.encodeSignedTransaction raw signature ≠ .ok out := by
  obtain ⟨f, d1, raw', hf, he, rfl⟩ := resolveTransaction_eq hstruct hres
  rw [Text.hexDecode_hexEncode] at hraw
  cases hraw
  have hk := (readRequest_ok (prepare_ok hf).request).kind
  have hk7702 : f.request.kind = .eip7702 := Except.ok.inj ((readKind_ok hk).1.symm.trans hkind)
  obtain ⟨-, hfits, -⟩ := prepare_keeps hf
  obtain ⟨tuples, rfl⟩ := encodeEnvelope_eip7702 hk7702 he
  exact ⟨not_tenItems hfits ha, fun signature out => not_encodes_setCode⟩

end SetCode

/-! ### A delegation -/

def delegateRequest : List (String × Json) :=
  transferRequest "0x4" ++ [("authorization_list",
    .arr [.obj [("address", .str "0xbbbbbbbbbbbbbbbbbbbbbbbbbbbbbbbbbbbbbbbb"), ("nonce", .str "1")]])]

def delegateTuple : Bytes := Rlp.encode (.list (tupleItems 1 1 0 (List.replicate 20 0xbb) onesSignature))

def delegateEntry : AuthorizationEntry := ⟨"0xbbbbbbbbbbbbbbbbbbbbbbbbbbbbbbbbbbbbbbbb", List.replicate 20 0xbb, "1", 1⟩

theorem encodeEntry_delegateEntry :
    encodeEntry delegateEntry ⟨Text.hexEncode onesSignature, some 0⟩ = .ok delegateTuple := by
  refine encodeEntry_eq_ok.mpr ⟨onesSignature, 1, ?_, rfl, ?_, by norm_num, by norm_num [delegateEntry], rfl⟩
  · rw [decodeHexField_eq_ok, Text.stripHex_hexEncode, Text.hexDecode_hexEncode]
  · exact eq_ok_iff_toOption.mpr (by decide +kernel)

theorem encode_delegateRequest (d : Daemon) :
    ∃ d', exec (encodeAuthorizationList offlineHost (selecting []) mainnet delegateRequest) d =
      (.ok (encodeList delegateTuple), d') := by
  have hread : readEntry "1" (.obj [("address", .str "0xbbbbbbbbbbbbbbbbbbbbbbbbbbbbbbbbbbbbbbbb"),
      ("nonce", .str "1")]) = .ok delegateEntry := eq_ok_iff_toOption.mpr (by decide +kernel)
  have hsign : signEntry offlineHost.wallet (selecting []) mainnet delegateEntry =
      .ok ⟨Text.hexEncode onesSignature, some 0⟩ := eq_ok_iff_toOption.mpr (by decide +kernel)
  refine encodeAuthorizationList_returns_iff.mpr ⟨"1", _, [delegateTuple], by decide +kernel, rfl, ?_, .cons
    ⟨_, _, hread, hsign, encodeEntry_delegateEntry⟩ .nil⟩
  rw [flatten_singleton]

theorem tuples_never_signed_delegate :
    ∃ d', exec (encodeAuthorizationList offlineHost (selecting []) mainnet delegateRequest) idleDaemon =
        (.ok (encodeList delegateTuple), d') ∧
      ∃ chainRef entries tuples, Text.stripPrefix "eip155:" mainnet.chainId = some chainRef ∧
        authorizationEntries delegateRequest = .ok entries ∧ encodeList delegateTuple = encodeList tuples.flatten ∧
        List.Forall₂ (fun entry tuple => EntryTuple offlineHost.wallet (selecting []) mainnet chainRef entry tuple ∧
          ¬ SignedTuple offlineHost.wallet.evm tuple) entries tuples := by
  obtain ⟨d', h⟩ := encode_delegateRequest idleDaemon
  exact ⟨d', h, tuples_never_signed offlineHost (selecting []) mainnet delegateRequest idleDaemon d' _ h⟩

/-- **The signature of an authorization is cut in the wrong place.**  The tuple of a delegation has 33 bytes where `s`
belongs. -/
theorem delegate_tuple_not_signed :
    (∃ d', exec (encodeAuthorizationList offlineHost (selecting []) mainnet delegateRequest) idleDaemon =
      (.ok (encodeList delegateTuple), d')) ∧
    ¬ SignedTuple offlineHost.wallet.evm delegateTuple :=
  ⟨encode_delegateRequest idleDaemon, not_signedTuple (by decide)⟩

def delegateFilled : Filled :=
  ⟨⟨1, .eip7702, some "0xaaaaaaaaaaaaaaaaaaaaaaaaaaaaaaaaaaaaaaaa", some (List.replicate 20 0xaa), 100, []⟩, some 1, 0,
    21000, 1, 1⟩

def delegateRaw : Bytes := 0x04 :: Rlp.encodeList ((cappedItems delegateFilled).flatten ++ Rlp.encodeList delegateTuple)

def resolvedDelegate : ResolvedTx :=
  { resolvedTransfer delegateRaw .eip7702 with delegations := ["0xbbbbbbbbbbbbbbbbbbbbbbbbbbbbbbbbbbbbbbbb"] }

theorem resolve_delegateRequest :
    ∃ d', exec (resolveTransaction offlineHost (selecting []) mainnet (.obj delegateRequest)) idleDaemon =
      (.ok resolvedDelegate, d') := by
  have hprepare := exec_ok_of_toOption (m := prepare offlineHost (selecting []) mainnet delegateRequest)
    (d := idleDaemon) (a := delegateFilled) (by decide +kernel)
  obtain ⟨d', hlist⟩ := encode_delegateRequest (exec (prepare offlineHost (selecting []) mainnet delegateRequest)
    idleDaemon).2
  refine ⟨d', exec_lift_bind_ok.mpr ⟨delegateRequest, rfl, ?_⟩⟩
  refine exec_bind_ok.mpr ⟨delegateFilled, _, hprepare, exec_bind_ok.mpr ⟨delegateRaw, d', ?_, ?_⟩⟩
  · refine exec_bind_ok.mpr ⟨_, d', hlist, ?_⟩
    rw [exec_pure, encodeList_eq, encodeList_eq]
    rfl
  · rw [exec_pure]
    rfl

theorem addressable_delegateRaw : Addressable delegateRaw := by unfold Addressable; decide +kernel

theorem setCode_never_encoded_delegate :
    (∃ d', exec (resolveTransaction offlineHost (selecting []) mainnet (.obj delegateRequest)) idleDaemon =
      (.ok resolvedDelegate, d')) ∧
    ¬ TenItems delegateRaw ∧ ∀ signature out, EvmSigner.encodeSignedTransaction delegateRaw signature ≠ .ok out := by
  obtain ⟨d', h⟩ := resolve_delegateRequest
  exact ⟨⟨d', h⟩, setCode_never_encoded offlineHost (selecting []) mainnet delegateRequest idleDaemon d' _ delegateRaw rfl
    (eq_ok_iff_toOption.mpr (by decide +kernel)) h (Text.hexDecode_hexEncode _) addressable_delegateRaw⟩

/-- **An EIP-7702 transaction is resolved and then cannot be signed.**  It has nine items, and the signer does not take
its type. -/
theorem delegate_not_encoded :
    (∃ d', exec (resolveTransaction offlineHost (selecting []) mainnet (.obj delegateRequest)) idleDaemon =
      (.ok resolvedDelegate, d')) ∧
    ¬ TenItems delegateRaw ∧ ∀ out, EvmSigner.encodeSignedTransaction delegateRaw onesSignature ≠ .ok out := by
  have hfits : delegateFilled.Fits := ⟨by decide, by decide, by decide, by decide, by decide, by decide⟩
  exact ⟨resolve_delegateRequest, not_tenItems hfits addressable_delegateRaw, fun out => not_encodes_setCode⟩

end OneCipher.Ocwp
