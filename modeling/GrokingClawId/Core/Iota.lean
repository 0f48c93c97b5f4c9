import GrokingClawId.Core.Models

/-!
# IOTA client

`iota.rs`: the address of a key, the signature of a transaction and the requests that a transfer sends
to a node. A computation lists the requests that it has sent, also when it fails.
-/

namespace GrokingClawId.Core
open Text

/-- BLAKE2b with an output of 32 bytes. -/
class Blake2b where
  digest : List UInt8 → Bytes 32

theorem StandIn.length_padded (data : List UInt8) : ((data ++ List.replicate 32 0).take 32).length = 32 := by
  simp

scoped instance StandIn.blake2b : Blake2b where
  digest data := ⟨(data ++ List.replicate 32 0).take 32, StandIn.length_padded data⟩

structure RpcError where
  message : String

/-- A response that can be read. -/
structure RpcResponse where
  result : Option Json
  error : Option RpcError

/-- What a node answers to a request; the error is that of a connection or a response that cannot be
read. -/
abbrev IotaNode := Json → Except String RpcResponse

/-- The requests sent so far and the result. -/
def IotaM (α : Type) : Type := IotaNode → List Json × Except String α

namespace IotaM
variable {α β : Type}

def ofExcept (result : Except String α) : IotaM α := fun _ => ([], result)

instance : Monad IotaM where
  pure a := fun _ => ([], .ok a)
  bind m f := fun node =>
    match m node with
    | (sent, .error e) => (sent, .error e)
    | (sent, .ok a) => (sent ++ (f a node).1, (f a node).2)

def mapError (m : IotaM α) (f : String → String) : IotaM α :=
  fun node => ((m node).1, (m node).2.mapError f)

def send (request : Json) : IotaM RpcResponse := fun node => ([request], node request)

theorem bind_run (m : IotaM α) (f : α → IotaM β) (node : IotaNode) : (m >>= f) node =
    match m node with
    | (sent, .error e) => (sent, .error e)
    | (sent, .ok a) => (sent ++ (f a node).1, (f a node).2) := rfl

end IotaM

def rpcRequest (method : String) (params : List Json) : Json :=
  .obj [("jsonrpc", .str "2.0"), ("id", .num "1"), ("method", .str method), ("params", .arr params)]

/-- A call whose errors are told by the words of the client. -/
def rpcCall (method : String) (params : List Json) (failed missing : String) : IotaM Json := do
  let body ← IotaM.send (rpcRequest method params)
  match body.error with
  | some err => IotaM.ofExcept (.error s!"{failed}: {err.message}")
  | none => IotaM.ofExcept (orErr body.result missing)

def getCoins (address : String) : IotaM Json :=
  rpcCall "iotax_getCoins" [.str address] "RPC error" "No coins result returned"

/-- The first coin of the sender pays. -/
def firstCoin (coins : Json) : Option String := do
  let data ← (coins.get "data").bind Json.asArray
  let coin ← data.head?
  (coin.get "coinObjectId").bind Json.asStr

def buildTransfer (sender recipient : String) (amount gasBudget : UInt64) : IotaM (List UInt8) := do
  let coins ← getCoins sender
  let coinId ← IotaM.ofExcept
    (orErr (firstCoin coins) "No coin objects found. Request tokens from faucet first.")
  let tx ← rpcCall "unsafe_transferIota"
    [.str sender, .str coinId, .str (toString gasBudget), .str recipient, .str (toString amount)]
    "Transfer build failed" "No transfer result"
  let txBytes ← IotaM.ofExcept (orErr ((tx.get "txBytes").bind Json.asStr)
    "Failed to parse transfer response")
  IotaM.ofExcept (orErr (unbase64 txBytes) "Failed to decode transaction bytes")

def executeTransaction (txBytes : List UInt8) (signature : String) : IotaM String := do
  let result ← rpcCall "iota_executeTransactionBlock"
    [.str (base64 txBytes), .arr [.str signature], .obj [("showEffects", .bool true)],
      .str "WaitForLocalExecution"]
    "Transaction execution failed" "No execution result"
  IotaM.ofExcept (orErr ((result.get "digest").bind Json.asStr) "Failed to parse execution response")

section Keys
variable [Ed25519] [Blake2b]

def deriveIotaAddress (publicKey : Bytes 32) : String :=
  s!"0x{String.ofList (Codec.hexEncode (Blake2b.digest (0 :: publicKey.val)).val)}"

def intentPrefix : List UInt8 := [0, 0, 0]

def computeTxDigest (txBytes : List UInt8) : Bytes 32 := Blake2b.digest (intentPrefix ++ txBytes)

/-- The flag of the scheme, the signature and the key. -/
def signTransaction (signingKey : Bytes 32) (txBytes : List UInt8) : String :=
  let digest := computeTxDigest txBytes
  let signature := Ed25519.sign signingKey ⟨digest.val.toArray⟩
  base64 (0 :: signature.val ++ (Ed25519.verifyingKey signingKey).val)

def transferIota (signingKey : Bytes 32) (sender recipient : String) (amount gasBudget : UInt64) :
    IotaM String := do
  let txBytes ← buildTransfer sender recipient amount gasBudget
  let signature := signTransaction signingKey txBytes
  executeTransaction txBytes signature

end Keys
end GrokingClawId.Core
