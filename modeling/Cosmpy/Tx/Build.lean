import Cosmpy.Queries

/-!
# Building and signing a transaction

The message builders are pure: each packs one message into an `Any` (`getPackedSendMsg`,
`getPackedInitMsg`, `getPackedExecMsg`), except `getPackedStoreMsg`, which reads the contract
file first.  `generateTx` is `generate_tx`: one `query_account_data` per signer, in order, each
turned into a `SignerInfo` by `getSignerInfo`, then the body and the fee.  `signTx` is `sign_tx`
with `_ensure_accont_number`: it queries the signer's account only while the crypto's
`account_number` is unset, and then signs.

* `generateTx_spec`: `generate_tx` returns exactly when each signer's account query returns, and
  then its transaction has the messages and memo it was given, the fee it was given, and one
  signer info per signer, in order, carrying that signer's public key, `SIGN_MODE_DIRECT` and the
  sequence of the account its query returned.
* `signTx_spec`: `sign_tx` never raises its `RuntimeError`: once `_ensure_accont_number` has
  returned, the account number is set.
-/

set_option autoImplicit false

namespace Cosmpy

open Ledger

/-- `DEFAULT_GAS_LIMIT`. -/
def defaultGasLimit : Nat := 3000000

namespace CosmosLedger

variable (lib : Lib) (self : CosmosLedger)

/-! ## Messages -/

/-- `get_packed_send_msg(from_address, to_address, amount)`. -/
def getPackedSendMsg (fromAddress toAddress : String) (amount : List Coin) : ProtoAny :=
  .pack (.msgSend fromAddress toAddress amount)

/-- `get_packed_store_msg(sender_address, contract_filename)`: the file's bytes, gzipped at level
9. -/
def getPackedStoreMsg (senderAddress contractFilename : String) : Ledger ProtoAny := do
  match ← call (.readFile contractFilename) with
  | some (data : Bytes) => pure (.pack (.msgStoreCode senderAddress (lib.gzipCompress data)))
  | none => throw (Exc.raise .typeError "a bytes-like object is required, not 'NoneType'")

/-- `get_packed_init_msg(sender_address, code_id, init_msg, label, funds)`; `funds=None` leaves
the repeated field empty. -/
def getPackedInitMsg (senderAddress : String) (codeId : Int) (initMsg : Json) (label : String)
    (funds : Option (List Coin)) : ProtoAny :=
  .pack (.msgInstantiateContract senderAddress codeId (lib.jsonDumps initMsg) label (funds.getD []))

/-- `get_packed_exec_msg(sender_address, contract_address, msg, funds)`. -/
def getPackedExecMsg (senderAddress contractAddress : String) (msg : Json)
    (funds : Option (List Coin)) : ProtoAny :=
  .pack (.msgExecuteContract senderAddress contractAddress (lib.jsonDumps msg) (funds.getD []))

/-! ## `generate_tx` -/

/-- `_get_signer_info(from_acc, pub_key)`. -/
def getSignerInfo (fromAcc : BaseAccount) (pubKey : Bytes) : SignerInfo :=
  ⟨.pack (.pubKey pubKey), ⟨.direct⟩, fromAcc.sequence⟩

/-- The `for from_address, pub_key in zip(from_addresses, pub_keys)` loop of `generate_tx`. -/
def querySignerInfos : List (String × Bytes) → Ledger (List SignerInfo)
  | [] => pure []
  | (fromAddress, pubKey) :: rest => do
    let account ← self.queryAccountData fromAddress
    let signerInfos ← querySignerInfos rest
    pure (getSignerInfo account pubKey :: signerInfos)

/-- `generate_tx(packed_msgs, from_addresses, pub_keys, fee, memo, gas_limit)`. -/
def generateTx (packedMsgs : List ProtoAny) (fromAddresses : List String) (pubKeys : List Bytes)
    (fee : Option (List Coin)) (memo : String) (gasLimit : Nat) : Ledger Tx := do
  let signerInfos ← self.querySignerInfos (fromAddresses.zip pubKeys)
  pure ⟨⟨packedMsgs, memo⟩, ⟨signerInfos, ⟨fee.getD [], gasLimit⟩⟩, []⟩

/-- `QueriesReturn self addresses w accounts w'`: querying the account of each address in turn,
starting in `w`, returns `accounts`, in order, and ends in `w'`. -/
inductive QueriesReturn : List String → World → List BaseAccount → World → Prop
  | nil (w : World) : QueriesReturn [] w [] w
  | cons {address : String} {rest : List String} {w w₁ w' : World} {account : BaseAccount}
      {accounts : List BaseAccount} :
      self.queryAccountData address w = .ok account w₁ → QueriesReturn rest w₁ accounts w' →
      QueriesReturn (address :: rest) w (account :: accounts) w'

theorem QueriesReturn.length_eq {addresses : List String} {w w' : World}
    {accounts : List BaseAccount} (h : QueriesReturn self addresses w accounts w') :
    accounts.length = addresses.length := by
  induction h with
  | nil => rfl
  | cons _ _ ih => simp [ih]

/-- The loop returns exactly when every query returns, one signer info per query, in order. -/
theorem querySignerInfos_eq_ok_iff (signers : List (String × Bytes)) (w w' : World)
    (infos : List SignerInfo) :
    self.querySignerInfos signers w = .ok infos w' ↔
      ∃ accounts, QueriesReturn self (signers.map Prod.fst) w accounts w' ∧
        infos = List.zipWith getSignerInfo accounts (signers.map Prod.snd) := by
  induction signers generalizing w w' infos with
  | nil =>
    constructor
    · intro h
      cases h
      exact ⟨[], .nil _, rfl⟩
    · rintro ⟨accounts, h, rfl⟩
      cases h
      rfl
  | cons s rest ih =>
    obtain ⟨address, pubKey⟩ := s
    simp only [querySignerInfos, bind_eq_ok, pure_apply, EStateM.Result.ok.injEq, ih,
      List.map_cons]
    constructor
    · rintro ⟨account, w₁, hq, infos', w₂, ⟨accounts, hr, rfl⟩, rfl, rfl⟩
      exact ⟨account :: accounts, .cons hq hr, rfl⟩
    · rintro ⟨_, h, rfl⟩
      cases h with
      | cons hq hr => exact ⟨_, _, hq, _, _, ⟨_, hr, rfl⟩, rfl, rfl⟩

/-- A list is the signer infos of `accounts` and `pubKeys`, paired in order, exactly when it
has one entry per account and its `i`-th entry is built from the `i`-th of each. -/
theorem eq_zipWith_getSignerInfo_iff {accounts : List BaseAccount} {pubKeys : List Bytes}
    (hlen : pubKeys.length = accounts.length) (infos : List SignerInfo) :
    infos = List.zipWith getSignerInfo accounts pubKeys ↔
      infos.length = accounts.length ∧ ∀ (i : Nat) (pubKey : Bytes) (account : BaseAccount),
        pubKeys[i]? = some pubKey →
        accounts[i]? = some account → infos[i]? = some (getSignerInfo account pubKey) := by
  constructor
  · rintro rfl
    refine ⟨by simp [hlen], fun i pubKey account hp ha => ?_⟩
    simp [List.getElem?_zipWith, hp, ha]
  · rintro ⟨hinfos, hget⟩
    apply List.ext_getElem?
    intro i
    rw [List.getElem?_zipWith]
    by_cases hi : i < accounts.length
    · obtain ⟨account, ha⟩ : ∃ a, accounts[i]? = some a := ⟨_, List.getElem?_eq_getElem hi⟩
      obtain ⟨pubKey, hp⟩ : ∃ p, pubKeys[i]? = some p :=
        ⟨_, List.getElem?_eq_getElem (by omega)⟩
      rw [hget i pubKey account hp ha, ha, hp]
    · rw [List.getElem?_eq_none (by omega), List.getElem?_eq_none (by omega)]

/-- **`generate_tx` builds what it was given, one signer info per signer, in order.**  For
messages, signers and public keys of equal length, `generate_tx` returns exactly when the account
query of each signer returns; its transaction then has the given messages and memo, the given fee
and gas limit, no signature yet, and one signer info per signer, the `i`-th carrying the `i`-th
public key, `SIGN_MODE_DIRECT` and the sequence of the account the `i`-th query returned. -/
theorem generateTx_spec (packedMsgs : List ProtoAny) (fromAddresses : List String)
    (pubKeys : List Bytes) (hlen : pubKeys.length = fromAddresses.length)
    (fee : Option (List Coin)) (memo : String) (gasLimit : Nat) (w w' : World) (tx : Tx) :
    self.generateTx packedMsgs fromAddresses pubKeys fee memo gasLimit w = .ok tx w' ↔
      ∃ accounts, QueriesReturn self fromAddresses w accounts w' ∧
        tx.body.messages = packedMsgs ∧ tx.body.memo = memo ∧
        tx.authInfo.fee = ⟨fee.getD [], gasLimit⟩ ∧ tx.signatures = [] ∧
        tx.authInfo.signerInfos.length = fromAddresses.length ∧
        ∀ (i : Nat) (pubKey : Bytes) (account : BaseAccount), pubKeys[i]? = some pubKey →
          accounts[i]? = some account →
          tx.authInfo.signerInfos[i]? = some ⟨.pack (.pubKey pubKey), ⟨.direct⟩, account.sequence⟩ := by
  rw [generateTx, bind_eq_ok]
  simp only [querySignerInfos_eq_ok_iff, List.map_fst_zip _ _ (Nat.le_of_eq hlen.symm),
    List.map_snd_zip _ _ (Nat.le_of_eq hlen), pure_apply, EStateM.Result.ok.injEq]
  constructor
  · rintro ⟨infos, w₁, ⟨accounts, hq, rfl⟩, rfl, rfl⟩
    have hacc := hq.length_eq
    obtain ⟨hl, hget⟩ := (eq_zipWith_getSignerInfo_iff (hlen.trans hacc.symm) _).1 rfl
    exact ⟨accounts, hq, rfl, rfl, rfl, rfl, hl.trans hacc, hget⟩
  · rintro ⟨accounts, hq, hmsg, hmemo, hfee, hsig, hl, hget⟩
    have hacc := hq.length_eq
    refine ⟨_, _, ⟨accounts, hq, rfl⟩, ?_, rfl⟩
    obtain ⟨⟨messages, memo'⟩, ⟨infos, fee'⟩, signatures⟩ := tx
    simp only at hmsg hmemo hfee hsig hl hget
    subst hmsg hmemo hfee hsig
    rw [(eq_zipWith_getSignerInfo_iff (hlen.trans hacc.symm) infos).2 ⟨hl.trans hacc.symm, hget⟩]

/-- A node that answers each account query with the address asked about, account number `7`,
and sequence `3` for the first query, `4` for the second, and so on. -/
def sequenceWorld : World :=
  ⟨fun i c => match c with
    | .account ⟨a⟩ => .value ⟨.baseAccount ⟨a, 7, 3 + i⟩⟩
    | _ => .none, [], none⟩

/-- Two messages and two signers: the messages are kept in order, and the `i`-th signer info
carries the `i`-th public key and the sequence the `i`-th query returned. -/
theorem generateTx_two_signers :
    [[2], [5]].length = ["fetch1", "fetch2"].length ∧
      sampleLedger.generateTx
          [getPackedSendMsg "fetch1" "fetch2" [], getPackedSendMsg "fetch2" "fetch1" []]
          ["fetch1", "fetch2"] [[2], [5]] none "two" defaultGasLimit sequenceWorld =
        .ok ⟨⟨[getPackedSendMsg "fetch1" "fetch2" [], getPackedSendMsg "fetch2" "fetch1" []],
              "two"⟩,
            ⟨[⟨.pack (.pubKey [2]), ⟨.direct⟩, 3⟩, ⟨.pack (.pubKey [5]), ⟨.direct⟩, 4⟩],
              ⟨[], defaultGasLimit⟩⟩, []⟩
          ((sequenceWorld.afterAttempt (.account ⟨"fetch1"⟩)
            sampleLedger.msgRetryInterval).afterAttempt (.account ⟨"fetch2"⟩)
            sampleLedger.msgRetryInterval) :=
  ⟨rfl, (generateTx_spec sampleLedger _ ["fetch1", "fetch2"] [[2], [5]] rfl none "two"
    defaultGasLimit _ _ _).2 ⟨[⟨"fetch1", 7, 3⟩, ⟨"fetch2", 7, 4⟩], .cons rfl (.cons rfl (.nil _)),
      rfl, rfl, rfl, rfl, rfl, by
        rintro (_ | _ | i) pubKey account hp ha
        · cases hp; cases ha; rfl
        · cases hp; cases ha; rfl
        · cases hp⟩⟩

/-! ## `sign_tx` -/

/-- `_ensure_accont_number(crypto)`: query the account only while the number is unset. -/
def ensureAccontNumber (crypto : CosmosCrypto) : Ledger Unit := do
  if (← get).accountNumber.isNone then
    let account ← self.queryAccountData crypto.address
    modify fun w => { w with accountNumber := some account.accountNumber }

/-- `sign_tx(crypto, tx)`; `sign_transaction` fills in the signature in place, here it returns
the signed transaction. -/
def signTx (crypto : CosmosCrypto) (tx : Tx) : Ledger Tx := do
  self.ensureAccontNumber crypto
  match (← get).accountNumber with
  | none => throw (Exc.raise .runtimeError "Getting account number failed")
  | some accountNumber =>
    pure (lib.signTransaction tx crypto.privateKey self.chainId accountNumber)

/-- **`sign_tx` never raises its `RuntimeError`.**  With the account number cached it signs at
once, with no call; without, it queries the account once, caches its number and signs with it,
or raises what the query raised. -/
theorem signTx_spec (crypto : CosmosCrypto) (tx : Tx) (w : World) :
    self.signTx lib crypto tx w =
      match w.accountNumber with
      | some n => .ok (lib.signTransaction tx crypto.privateKey self.chainId n) w
      | none =>
        match self.queryAccountData crypto.address w with
        | .ok account w₁ =>
          .ok (lib.signTransaction tx crypto.privateKey self.chainId account.accountNumber)
            { w₁ with accountNumber := some account.accountNumber }
        | .error e w₁ => .error e w₁ := by
  cases hn : w.accountNumber with
  | some n =>
    simp [signTx, ensureAccontNumber, bind_apply, hn]
  | none =>
    cases hq : self.queryAccountData crypto.address w <;>
      simp [signTx, ensureAccontNumber, bind_apply, hn, hq]

end CosmosLedger

end Cosmpy
